/-
One trail for a whole document.

The conversion gives each part of a document a trail of its own, a step longer than that of what
the part is in.  The same can be done with a single trail that the conversion carries along: a
step is put on it before a part is converted and taken off again afterwards.  `walkDocument` does
so.  It comes to the same value or to the same failure, because whatever succeeds hands the trail
back exactly as it received it, so the parts that come later find it as if they were the first.
What is left of the trail after a failure does not matter: nothing is converted any more.
-/
import DottedConfig.Value.OfDocument

namespace DottedConfig.Value

open Yaml (Document)

/-- A conversion that carries a trail along. -/
abbrev OnTrail := StateT (List String) (Except Failure)

/-- What only looks at the trail. -/
def OnTrail.here {α : Type} (result : List String → Except Failure α) : OnTrail α := do
  liftM (result (← get))

/-- Converts a part, one step down. -/
def OnTrail.down {α : Type} (step : String) (part : OnTrail α) : OnTrail α := do
  modify (· ++ [step])
  let a ← part
  modify List.dropLast
  return a

mutual

/-- The value of a document, with the trail that leads to it carried along. -/
def walkDocument (ns : Namespace) : Document → OnTrail Value
  | .null => return null
  | .bool b => return bool b
  | .number n => return ofNumber n
  | .string s => do return string (← OnTrail.here (substituteAt ns · s))
  | .sequence items => do return sequence (← walkItems ns 0 items)
  | .mapping entries => do return mapping (← walkPairs ns [] entries)
  | .tagged _ inner => walkDocument ns inner

/-- The values of the items from a position on. -/
def walkItems (ns : Namespace) (position : Nat) : List Document → OnTrail (List Value)
  | [] => return []
  | item :: rest => do
    let value ← OnTrail.down (toString position) (walkDocument ns item)
    return value :: (← walkItems ns (position + 1) rest)

/-- The entries that follow those with the keys `seen`.  A repeated key is noticed one step down,
where the trail has it. -/
def walkPairs (ns : Namespace) (seen : List String) :
    List (Document × Document) → OnTrail (List (String × Value))
  | [] => return []
  | (k, v) :: rest => do
    let key ← OnTrail.here (keyText ns · k)
    let value ← OnTrail.down key <|
      if key ∈ seen then OnTrail.here fun trail => .error (.parse (.repeatedKey trail))
      else walkDocument ns v
    return (key, value) :: (← walkPairs ns (key :: seen) rest)

end

/-- Whatever trail this part is given, it comes to the result for this trail, and it hands the trail
back as it was. -/
def HandsBack {α : Type} (part : OnTrail α) (result : List String → Except Failure α) : Prop :=
  ∀ trail, part.run trail = (result trail).map fun a => (a, trail)

namespace HandsBack

variable {α β : Type} {part : OnTrail α} {result : List String → Except Failure α}

theorem pure (a : α) : HandsBack (return a) fun _ => .ok a := fun _ => rfl

theorem here (result : List String → Except Failure α) :
    HandsBack (OnTrail.here result) result := by
  intro trail
  show (do let a ← result trail; Pure.pure (a, trail) : Except Failure (α × List String)) = _
  cases result trail with
  | error f => rfl
  | ok a => rfl

theorem bind {next : α → OnTrail β} {result' : α → List String → Except Failure β}
    (h : HandsBack part result) (hnext : ∀ a, HandsBack (next a) (result' a)) :
    HandsBack (part >>= next) fun trail => result trail >>= fun a => result' a trail := by
  intro trail
  show part.run trail >>= (fun p => (next p.1).run p.2) =
    (result trail >>= fun a => result' a trail).map fun b => (b, trail)
  rw [h trail]
  cases result trail with
  | error f => rfl
  | ok a => exact hnext a trail

theorem map (make : α → β) (h : HandsBack part result) :
    HandsBack (part >>= fun a => return make a) fun trail =>
      result trail >>= fun a => .ok (make a) :=
  h.bind fun a => pure (make a)

theorem down (step : String) (h : HandsBack part result) :
    HandsBack (part.down step) fun trail => result (trail ++ [step]) := by
  intro trail
  show part.run (trail ++ [step]) >>= (fun p => .ok (p.1, p.2.dropLast)) =
    (result (trail ++ [step])).map fun a => (a, trail)
  rw [h (trail ++ [step])]
  cases result (trail ++ [step]) with
  | error f => rfl
  | ok a => exact congrArg (fun trail' => Except.ok (a, trail')) (List.dropLast_concat ..)

theorem ite {c : Prop} [Decidable c] {part' : OnTrail α}
    {result' : List String → Except Failure α} (h : HandsBack part result)
    (h' : HandsBack part' result') :
    HandsBack (if c then part else part') fun trail =>
      if c then result trail else result' trail := by
  split
  · exact h
  · exact h'

theorem congr {result' : List String → Except Failure α} (h : HandsBack part result)
    (hresult : ∀ trail, result trail = result' trail) : HandsBack part result' := by
  intro trail
  rw [← hresult trail]
  exact h trail

end HandsBack

/-- The conversion of entries, without the join of its `if`. -/
theorem ofPairs_cons (ns : Namespace) (trail seen : List String) (k v : Document)
    (rest : List (Document × Document)) :
    ofPairs ns trail seen ((k, v) :: rest) =
      keyText ns trail k >>= fun key =>
        if key ∈ seen then .error (.parse (.repeatedKey (trail ++ [key])))
        else ofDocument ns (trail ++ [key]) v >>= fun value =>
          ofPairs ns trail (key :: seen) rest >>= fun pairs => .ok ((key, value) :: pairs) := by
  rw [ofPairs]
  cases keyText ns trail k with
  | error f => rfl
  | ok key => rfl

-- By recursion over the document, with a statement for each of the three walks.
mutual

/-- Carrying one trail along comes to the same as giving each part a trail of its own. -/
theorem handsBack_walkDocument (ns : Namespace) : ∀ document : Document,
    HandsBack (walkDocument ns document) fun trail => ofDocument ns trail document
  | .null => .pure _
  | .bool _ => .pure _
  | .number _ => .pure _
  | .string s => (HandsBack.here (substituteAt ns · s)).map string
  | .sequence items => (handsBack_walkItems ns 0 items).map sequence
  | .mapping entries => (handsBack_walkPairs ns [] entries).map mapping
  | .tagged _ inner => handsBack_walkDocument ns inner

theorem handsBack_walkItems (ns : Namespace) (position : Nat) : ∀ items : List Document,
    HandsBack (walkItems ns position items) fun trail => ofItems ns trail position items
  | [] => .pure _
  | item :: rest =>
      ((handsBack_walkDocument ns item).down _).bind fun value =>
        (handsBack_walkItems ns (position + 1) rest).map (value :: ·)

theorem handsBack_walkPairs (ns : Namespace) (seen : List String) :
    ∀ entries : List (Document × Document),
      HandsBack (walkPairs ns seen entries) fun trail => ofPairs ns trail seen entries
  | [] => .pure _
  | (k, v) :: rest => by
      refine ((HandsBack.here (keyText ns · k)).bind fun key =>
        (((HandsBack.here _).ite (handsBack_walkDocument ns v)).down key).bind fun value =>
          (handsBack_walkPairs ns (key :: seen) rest).map ((key, value) :: ·)).congr fun trail => ?_
      rw [ofPairs_cons]
      refine congrArg _ (funext fun key => ?_)
      split
      · rfl
      · rfl

end

end DottedConfig.Value
