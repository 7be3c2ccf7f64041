/-
Maps from texts to anything, listed in ascending order of their keys.

A map is the list of its entries, strictly ascending by key, and the order is part
of the type.  So every key occurs once, the listing is the order in which the
entries are shown, and two maps that look up every key alike are the same map.
Keys compare by code points.

A namespace is such a map: it gives the texts that placeholders stand for.  Nothing
restricts the names, but only those that a placeholder can spell are ever looked up.
Laying one namespace over another is `overlay`: the upper one wins.
-/

namespace DottedConfig

/-! ### Entry lists -/

namespace Entries

variable {β : Type}

/-- The value of `key` in a list of entries. -/
def lookup (key : String) : List (String × β) → Option β
  | [] => none
  | (k, v) :: rest => if k = key then some v else lookup key rest

/-- Puts an entry at its place in an ascending list; an entry of the same key gives way. -/
def insert (key : String) (value : β) : List (String × β) → List (String × β)
  | [] => [(key, value)]
  | (k, v) :: rest =>
    if key < k then (key, value) :: (k, v) :: rest
    else if key = k then (key, value) :: rest
    else (k, v) :: insert key value rest

/-- Strictly ascending by key. -/
abbrev Ascending (entries : List (String × β)) : Prop :=
  entries.Pairwise fun a b => a.1 < b.1

theorem mem_insert {key : String} {value : β} {e : String × β} {entries : List (String × β)}
    (h : e ∈ insert key value entries) : e = (key, value) ∨ e ∈ entries := by
  induction entries with
  | nil => simpa [insert] using h
  | cons head rest ih =>
    obtain ⟨k, v⟩ := head
    rw [insert] at h
    split at h
    · simpa using h
    · split at h
      · rcases List.mem_cons.1 h with h | h
        · exact .inl h
        · exact .inr (List.mem_cons_of_mem _ h)
      · rcases List.mem_cons.1 h with h | h
        · exact .inr (h ▸ List.mem_cons_self)
        · exact (ih h).imp_right (List.mem_cons_of_mem _)

theorem ascending_insert {key : String} {value : β} {entries : List (String × β)}
    (h : Ascending entries) : Ascending (insert key value entries) := by
  induction entries with
  | nil => simp [insert, Ascending]
  | cons head rest ih =>
    obtain ⟨k, v⟩ := head
    obtain ⟨hk, hrest⟩ := List.pairwise_cons.1 h
    rw [insert]
    split
    · rename_i hlt
      refine List.pairwise_cons.2 ⟨fun e he => ?_, h⟩
      rcases List.mem_cons.1 he with rfl | he
      · exact hlt
      · exact String.lt_trans hlt (hk e he)
    · split
      · rename_i heq
        subst heq
        exact List.pairwise_cons.2 ⟨hk, hrest⟩
      · rename_i hlt hne
        refine List.pairwise_cons.2 ⟨fun e he => ?_, ih hrest⟩
        rcases mem_insert he with rfl | he
        · refine Decidable.byContradiction fun hnot => hne ?_
          exact String.le_antisymm (String.not_lt.1 hnot) (String.not_lt.1 hlt)
        · exact hk e he

end Entries

/-! ### Maps -/

/-- A map from texts, as its entries in ascending order of key. -/
structure SortedMap (β : Type) where
  /-- The entries, one for each key. -/
  toList : List (String × β)
  /-- Keys ascend strictly, so none occurs twice. -/
  ascending : Entries.Ascending toList
  deriving DecidableEq

namespace SortedMap

variable {β : Type}

/-- The map without entries. -/
def empty : SortedMap β := ⟨[], List.Pairwise.nil⟩

instance : EmptyCollection (SortedMap β) := ⟨empty⟩

instance : Inhabited (SortedMap β) := ⟨∅⟩

/-- The value of `key`, if it has one. -/
def get? (map : SortedMap β) (key : String) : Option β := Entries.lookup key map.toList

/-- Whether `key` has a value. -/
def contains (map : SortedMap β) (key : String) : Bool := (map.get? key).isSome

/-- The map with `key` standing for `value`, whatever it stood for before. -/
def insert (map : SortedMap β) (key : String) (value : β) : SortedMap β :=
  ⟨Entries.insert key value map.toList, Entries.ascending_insert map.ascending⟩

/-- The keys in ascending order. -/
def keys (map : SortedMap β) : List String := map.toList.map (·.1)

/-- How many keys have a value. -/
def size (map : SortedMap β) : Nat := map.toList.length

/-- Whether no key has a value. -/
def isEmpty (map : SortedMap β) : Bool := map.toList.isEmpty

/-- The map with a list of entries put in one after the other, so a later one of a key wins. -/
def insertAll (map : SortedMap β) (entries : List (String × β)) : SortedMap β :=
  entries.foldl (fun m e => m.insert e.1 e.2) map

/-- The map of a list of entries; the last one of a key wins. -/
def ofList (entries : List (String × β)) : SortedMap β := insertAll ∅ entries

/-- Both maps together; where both have a key the second one's value stands. -/
def overlay (map extra : SortedMap β) : SortedMap β := map.insertAll extra.toList

end SortedMap

/-! ### Namespaces -/

/-- What each placeholder name stands for. -/
abbrev Namespace := SortedMap String

end DottedConfig
