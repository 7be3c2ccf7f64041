/-
From a YAML text to its document.

Nodes become documents from the outside in.  Collections may nest 128 deep, counted
through aliases, so the recursion is on the levels that are left.  An alias is
replaced by what it stands for each time it occurs, but not more than a hundred times
as often as the text has events, so that a short text cannot stand for a huge document.

A text that is not YAML has one fault here, and its mark is the place at which this reader
gave up.  Whether a text is YAML does not depend on the reader, but which of several faults
is met, where, and in which words does: within a tag or a directive, for one, the whole row
of characters is taken before it is looked into.  No more is relied on than that whoever
reports the fault hands on the mark and the wording as they are.
-/
import DottedConfig.Yaml.Node

namespace DottedConfig.Yaml

/-- How deep collections may nest. -/
def deepestNesting : Nat := 128

/-- How many aliases may be followed for each event of the text. -/
def aliasesPerEvent : Nat := 100

namespace Document

/-- A step of making documents of nodes.  The state counts the aliases followed so far. -/
abbrev Expansion := StateT Nat (Except Error)

/-- The node that an alias stands for; any other node stands for itself. -/
def follow (tree : NodeTree) (node : Node) : Expansion Node :=
  match node with
  | .alias n mark => do
    let followed := (← get) + 1
    set followed
    if aliasesPerEvent * tree.size < followed then throw ⟨.tooManyAliases, none⟩
    match tree.target? n with
    | some target => return target
    | none => throw ⟨.expectedNode, some mark⟩
  | node => return node

/-- A document with its tag, if that is one of the text's own. -/
def withTag (tag : Option Tag) (document : Document) : Document :=
  match tag.bind Tag.ownName? with
  | some name => .tagged name document
  | none => document

/-- The entries of a mapping; `seen` are the keys before them. -/
def expandEntries (expand : Node → Expansion Document) (mark : Mark) (seen : List Document) :
    List (Node × Node) → Expansion (List (Document × Document))
  | [] => return []
  | (k, v) :: rest => do
    let key ← expand k
    if seen.any (same key) then throw ⟨.repeatedKey, some mark⟩
    let value ← expand v
    return (key, value) :: (← expandEntries expand mark (key :: seen) rest)

/-- The document of a node; without `inner`, for the nodes in it, it cannot hold any. -/
def expandNode (tree : NodeTree) (inner : Option (Node → Expansion Document)) (node : Node) :
    Expansion Document := do
  match ← follow tree node, inner with
  | .scalar tag style text mark, _ =>
    match Scalar.read tag style text with
    | .ok document => return document
    | .error problem => throw ⟨problem, some mark⟩
  | .sequence tag items _, some expand => return withTag tag (.sequence (← items.mapM expand))
  | .mapping tag entries mark, some expand =>
    return withTag tag (.mapping (← expandEntries expand mark [] entries))
  | .sequence _ _ mark, none | .mapping _ _ mark, none => throw ⟨.tooDeep, some mark⟩
  | .alias _ mark, _ => throw ⟨.expectedNode, some mark⟩
  | .broken fault, _ => throw fault

/-- The document of a node, with so many levels of nesting left. -/
def expand (tree : NodeTree) : Nat → Node → Expansion Document
  | 0 => expandNode tree none
  | levels + 1 => expandNode tree (some (expand tree levels))

/-- The document of a tree.  A text without any nodes is null. -/
def ofTree (tree : NodeTree) : Except Error Document := do
  let document ← match tree.root with
    | some root => (expand tree deepestNesting root).run' 0
    | none => pure .null
  match tree.fault with
  | some fault => throw fault
  | none => return document

/-- Reads the only document of a text. -/
def read (text : String) : Except Error Document := do
  let row := EventRow.ofTokens (TokenRow.ofCursor (← Cursor.ofText text))
  let document ← ofTree (.ofEvents row)
  if row.more then throw ⟨.severalDocuments, none⟩
  return document

end Document

end DottedConfig.Yaml
