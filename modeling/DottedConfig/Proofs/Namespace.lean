/-
Namespaces: maps in which what comes later wins.

A namespace is made by putting entries in, by laying one over another, or from pairs or
bindings.  However it is made, it is the map of all the entries that went in, in the order in
which they did: an overlay puts those of the upper one in after those of the lower one.  So
what has to be known of a way of making one is a single list, and `made_eq` is an induction
over the ways with one law of `SortedMap` for each.

Two things are read off that list.  The last entry of a name is what the name stands for, and
there are as many entries in the end as there are different names in it.
-/
import DottedConfig.Proofs.SortedMap
import DottedConfig.Template.Binding

namespace DottedConfig.Namespace

/-- A way of making a namespace. -/
inductive Making where
  /-- A new one has no entries. -/
  | new
  /-- An entry is put into one, in place or as the next link of a chain. -/
  | insert (before : Making) (name value : String)
  /-- One is laid over another. -/
  | overlay (lower upper : Making)
  /-- One is collected from pairs of a name and a value. -/
  | ofPairs (pairs : List (String × String))
  /-- One is collected from bindings. -/
  | ofBindings (bindings : List Binding)

namespace Making

/-- The namespace that is made. -/
def made : Making → Namespace
  | new => ∅
  | insert before name value => before.made.insert name value
  | overlay lower upper => lower.made.overlay upper.made
  | ofPairs pairs => .ofList pairs
  | ofBindings bindings => .ofBindings bindings

/-- The entries that go in, one after the other. -/
def entries : Making → List (String × String)
  | new => []
  | insert before name value => before.entries ++ [(name, value)]
  | overlay lower upper => lower.entries ++ upper.entries
  | ofPairs pairs => pairs
  | ofBindings bindings => bindings.map fun b => (b.name, b.value)

/-- **A namespace is the map of the entries that went in.** -/
theorem made_eq (m : Making) : m.made = .ofList m.entries := by
  induction m with
  | new => rfl
  | insert before name value ih =>
      rw [made, ih, entries, SortedMap.ofList_append_singleton]
  | overlay lower upper ihLower ihUpper =>
      rw [made, ihLower, ihUpper, entries, SortedMap.ofList_append]
  | ofPairs pairs => rfl
  | ofBindings bindings => rfl

/-- What a name stands for is what was last put in under it. -/
theorem get?_made_iff {m : Making} {name value : String} :
    m.made.get? name = some value ↔ Entries.IsLast name value m.entries := by
  rw [made_eq, SortedMap.get?_ofList_eq_some_iff]

theorem size_made (m : Making) : m.made.size = (m.entries.map (·.1)).toFinset.card := by
  rw [made_eq, SortedMap.size_ofList]

end Making

/-- The upper namespace answers for the names that it has, and the lower one for all others. -/
theorem get?_overlay_ite (a b : Namespace) (name : String) :
    (a.overlay b).get? name = if b.contains name then b.get? name else a.get? name := by
  rw [SortedMap.get?_overlay, SortedMap.contains]
  cases b.get? name with
  | none => rfl
  | some value => rfl

/--
**Namespaces are maps in which the later entry wins.**  An overlay answers as the upper one
where that has the name, and as the lower one elsewhere; it is associative, and idempotent, and
a namespace without entries changes nothing on either side.  Collecting one list of pairs after
another is laying what the second gives over what the first gives.  However a namespace is made,
it lists each name once, in ascending order of code points, with what was put in last under it,
and it has as many entries as different names were put in.  Two namespaces are the same if and
only if every name stands for the same in both.
-/
theorem overlay_laws :
    (∀ (a b : Namespace) (name : String),
        (a.overlay b).get? name = if b.contains name then b.get? name else a.get? name) ∧
      (∀ a b c : Namespace, (a.overlay b).overlay c = a.overlay (b.overlay c)) ∧
      (∀ a : Namespace, a.overlay a = a ∧ a.overlay ∅ = a ∧ (∅ : Namespace).overlay a = a) ∧
      (∀ xs ys : List (String × String),
        (.ofList (xs ++ ys) : Namespace) = (SortedMap.ofList xs).overlay (.ofList ys)) ∧
      (∀ m : Making, (m.made.toList.map (·.1)).Nodup ∧
        (m.made.toList.map (·.1)).Pairwise Text.Precedes ∧
        (∀ name value, (name, value) ∈ m.made.toList ↔ m.made.get? name = some value) ∧
        (∀ name value, m.made.get? name = some value ↔ Entries.IsLast name value m.entries) ∧
        m.made.size = (m.entries.map (·.1)).toFinset.card) ∧
      ∀ a b : Namespace, a = b ↔ ∀ name, a.get? name = b.get? name := by
  refine ⟨get?_overlay_ite, SortedMap.overlay_assoc, fun a => ?_, SortedMap.ofList_append,
    fun m => ?_, fun a b => ⟨?_, SortedMap.ext_get?⟩⟩
  · exact ⟨a.overlay_self, a.overlay_empty, a.empty_overlay⟩
  · exact ⟨m.made.nodup_keys, m.made.keys_ascending, fun _ _ => SortedMap.mem_toList_iff,
      fun _ _ => Making.get?_made_iff, m.size_made⟩
  · rintro rfl name
    rfl

example :
    (((Making.ofBindings [⟨"b", "1"⟩, ⟨"a", "2"⟩]).insert "b" "3").overlay
      (.ofPairs [("é", "4"), ("a", "5")])).made.toList =
      [("a", "5"), ("b", "3"), ("é", "4")] := by decide +kernel

end DottedConfig.Namespace
