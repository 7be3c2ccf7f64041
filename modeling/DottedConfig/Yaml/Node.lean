/-
The tree of nodes that a row of events spells.

An anchor is numbered by the count of names that anchors before it have, and an alias is
a leaf with the number that the latest anchor of its name has.  It stands for the last
node that begins under that number in the whole text, be it under another name: a name
given again takes a new number, and the next new name takes the same one.
Where the events end before their time the tree is closed all the same, with a leaf
that holds the fault at the place where the next node would have been.
-/
import DottedConfig.Yaml.Event

namespace DottedConfig.Yaml

/-- A node of a text. -/
inductive Node where
  /-- Stands for the last node with an anchor of this number. -/
  | alias (number : Nat) (mark : Mark)
  /-- A scalar. -/
  | scalar (tag : Option Tag) (style : Style) (text : String) (mark : Mark)
  /-- A sequence. -/
  | sequence (tag : Option Tag) (items : List Node) (mark : Mark)
  /-- A mapping. -/
  | mapping (tag : Option Tag) (entries : List (Node × Node)) (mark : Mark)
  /-- The place where a fault ends the text. -/
  | broken (fault : Error)
  deriving Inhabited

/-- The tree of a text. -/
structure NodeTree where
  /-- The node that holds all others; without one the text is empty. -/
  root : Option Node
  /-- The events that anchored nodes begin with, by the numbers of the anchors, the latest first. -/
  places : List (Nat × Nat)
  /-- The anchored nodes, by the events they begin with. -/
  anchored : List (Nat × Node)
  /-- The fault of a name that no anchor has. -/
  fault : Option Error
  /-- How many events there are. -/
  size : Nat

namespace Node

/-- A collection that has begun. -/
structure Open where
  /-- The event that it begins with, if it has an anchor. -/
  place : Option Nat
  /-- Its tag. -/
  tag : Option Tag
  /-- Whether it is a mapping. -/
  keyed : Bool
  /-- Where it begins. -/
  mark : Mark
  /-- The nodes in it so far, the last one first. -/
  nodes : List Node

/-- A tree that is being built. -/
structure Building where
  /-- The collections that have begun, the innermost first. -/
  opened : List Open
  /-- The numbers of the names that anchors have, one for each name. -/
  names : List (String × Nat)
  /-- The events that anchored nodes begin with, by the numbers of the anchors, the latest first. -/
  places : List (Nat × Nat)
  /-- The complete nodes with anchors, by the events they begin with. -/
  anchored : List (Nat × Node)
  /-- The outermost node, once it is complete. -/
  root : Option Node
  /-- How many events there were. -/
  size : Nat

/-- Nodes taken two by two.  A key at the end without a value has a fault for its value. -/
def paired (fault : Error) : List Node → List (Node × Node)
  | [] => []
  | [key] => [(key, broken fault)]
  | key :: value :: rest => (key, value) :: paired fault rest

/-- The node of a collection that ends. -/
def Open.node (o : Open) (fault : Error) : Node :=
  if o.keyed then mapping o.tag (paired fault o.nodes.reverse) o.mark
  else sequence o.tag o.nodes.reverse o.mark

namespace Building

/-- Puts a complete node where it belongs; `place` is the event of a node with an anchor. -/
def put (b : Building) (place : Option Nat) (node : Node) : Building :=
  let b := match place with
    | some n => { b with anchored := (n, node) :: b.anchored }
    | none => b
  match b.opened with
  | [] => { b with root := some node }
  | o :: outer => { b with opened := { o with nodes := node :: o.nodes } :: outer }

/-- Gives a number to an anchor, if there is one, at the event that was counted last. -/
def enroll (b : Building) (anchor : Option String) : Option Nat × Building :=
  match anchor with
  | some name =>
    let number := b.names.length
    (some b.size,
      { b with
        names := (name, number) :: b.names.filter (·.1 != name)
        places := (number, b.size) :: b.places })
  | none => (none, b)

/-- Begins a collection. -/
def enter (b : Building) (properties : Properties) (keyed : Bool) (mark : Mark) : Building :=
  let (place, b) := b.enroll properties.anchor
  { b with opened := ⟨place, properties.tag, keyed, mark, []⟩ :: b.opened }

/-- Ends the innermost collection. -/
def leave (b : Building) (fault : Error) : Building :=
  match b.opened with
  | [] => b
  | o :: outer => { b with opened := outer }.put o.place (o.node fault)

/-- One more event; a fault if it is an alias of no node. -/
def add (b : Building) (event : Event) : Except Error Building :=
  let counted := { b with size := b.size + 1 }
  match event.kind with
  | .alias name =>
    match b.names.lookup name with
    | some number => .ok (counted.put none (.alias number event.mark))
    | none => .error ⟨.unknownAnchor name, some event.mark⟩
  | .scalar properties style text =>
    let (place, b) := counted.enroll properties.anchor
    .ok (b.put place (.scalar properties.tag style text event.mark))
  | .sequenceStart properties => .ok (counted.enter properties false event.mark)
  | .mappingStart properties => .ok (counted.enter properties true event.mark)
  | .collectionEnd => .ok (counted.leave ⟨.expectedNode, some event.mark⟩)

/-- The events in a row, up to an alias of no node. -/
def addAll (b : Building) : List Event → Building × Option Error
  | [] => (b, none)
  | event :: rest =>
    match b.add event with
    | .ok b => b.addAll rest
    | .error fault => (b, some fault)

/-- Closes what is open, with the fault in the innermost collection. -/
def close (b : Building) (fault : Error) : Building :=
  if b.opened.isEmpty && b.root.isSome then b
  else b.opened.length.repeat (fun b => b.leave fault) (b.put none (.broken fault))

end Building

end Node

/-- The tree of a row of events. -/
def NodeTree.ofEvents (row : EventRow) : NodeTree :=
  let (b, unknown) := Node.Building.addAll ⟨[], [], [], [], none, 0⟩ row.events
  let fault := unknown <|> row.fault
  let b := match fault with
    | some fault => b.close fault
    | none => b
  ⟨b.root, b.places, b.anchored, fault, b.size⟩

/-- The node that the aliases of a number stand for. -/
def NodeTree.target? (tree : NodeTree) (number : Nat) : Option Node := do
  tree.anchored.lookup (← tree.places.lookup number)

end DottedConfig.Yaml
