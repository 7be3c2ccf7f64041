/-
What a map answers after entries have been put in.

Looking a key up never needs the order of the entries: insertion passes over the same
entries as look-up does, and it stops at the first key that is not smaller.  So both
facts about one entry hold of any list of entries, ascending or not.  Put in one after the
other, the entries of a list are overwritten by those after them, so what counts is the last
entry of a key.  Only where a whole map is laid over another one it counts that no key occurs
twice.

The order does tell that there is one list only for what is looked up.  So maps can be
compared by what they answer, and what holds of laying one map over another is what holds of
looking first in the one and then in the other.
-/
import DottedConfig.SortedMap
import Mathlib.Data.Finset.Card
import Mathlib.Data.List.Sort

namespace DottedConfig

/-- One text comes before another where their code points first differ, or by being shorter. -/
def Text.Precedes (s t : String) : Prop :=
  s.toList.map Char.toNat < t.toList.map Char.toNat

theorem Text.precedes_of_lt {s t : String} (h : s < t) : Text.Precedes s t := by
  refine List.map_lt (fun c d hcd => ?_) (String.lt_iff.mp h)
  exact hcd

variable {β : Type}

namespace Entries

theorem lookup_insert_self (key : String) (value : β) (entries : List (String × β)) :
    lookup key (insert key value entries) = some value := by
  induction entries with
  | nil => simp [insert, lookup]
  | cons head rest ih =>
      obtain ⟨k, v⟩ := head
      rw [insert]
      split
      · simp [lookup]
      · split
        · simp [lookup]
        · rename_i hne
          rw [lookup, if_neg (fun hc => hne hc.symm)]
          exact ih

theorem lookup_insert_ne {key other : String} (h : other ≠ key) (value : β)
    (entries : List (String × β)) :
    lookup other (insert key value entries) = lookup other entries := by
  induction entries with
  | nil => simp [insert, lookup, h.symm]
  | cons head rest ih =>
      obtain ⟨k, v⟩ := head
      rw [insert]
      split
      · rw [lookup, if_neg h.symm]
      · split
        · rename_i heq
          subst heq
          rw [lookup, if_neg h.symm, lookup, if_neg h.symm]
        · rw [lookup, lookup, ih]

theorem lookup_eq_none {key : String} {entries : List (String × β)}
    (h : ∀ e ∈ entries, e.1 ≠ key) : lookup key entries = none := by
  induction entries with
  | nil => rfl
  | cons head rest ih =>
      obtain ⟨hhead, hrest⟩ := List.forall_mem_cons.mp h
      rw [lookup, if_neg hhead]
      exact ih hrest

theorem lookup_of_lt {key : String} {entries : List (String × β)}
    (h : ∀ e ∈ entries, key < e.1) : lookup key entries = none :=
  lookup_eq_none fun e he heq => String.lt_irrefl key (heq ▸ h e he)

theorem lookup_append (key : String) (entries entries' : List (String × β)) :
    lookup key (entries ++ entries') = (lookup key entries).or (lookup key entries') := by
  induction entries with
  | nil => rfl
  | cons head rest ih =>
      obtain ⟨k, v⟩ := head
      rw [List.cons_append, lookup, lookup, ih]
      split
      · rfl
      · rfl

theorem isSome_lookup_iff {key : String} {entries : List (String × β)} :
    (lookup key entries).isSome ↔ key ∈ entries.map (·.1) := by
  induction entries with
  | nil => simp [lookup]
  | cons head rest ih =>
      obtain ⟨k, v⟩ := head
      rw [lookup, List.map_cons, List.mem_cons]
      by_cases hk : k = key
      · simp [hk]
      · rw [if_neg hk, ih, or_iff_right (fun heq => hk heq.symm)]

/-- Looking a key up finds its first entry. -/
theorem lookup_eq_some_iff {key : String} {value : β} {entries : List (String × β)} :
    lookup key entries = some value ↔ ∃ before after,
      entries = before ++ (key, value) :: after ∧ ∀ e ∈ before, e.1 ≠ key := by
  constructor
  · intro h
    induction entries with
    | nil => cases h
    | cons head rest ih =>
        obtain ⟨k, v⟩ := head
        rw [lookup] at h
        by_cases hk : k = key
        · rw [if_pos hk] at h
          obtain rfl := Option.some.inj h
          exact ⟨[], rest, by simp [hk], by simp⟩
        · rw [if_neg hk] at h
          obtain ⟨before, after, rfl, hbefore⟩ := ih h
          exact ⟨(k, v) :: before, after, rfl, List.forall_mem_cons.mpr ⟨hk, hbefore⟩⟩
  · rintro ⟨before, after, rfl, hbefore⟩
    rw [lookup_append, lookup_eq_none hbefore, Option.none_or, lookup, if_pos rfl]

/-- The value of the last entry of a key. -/
def IsLast (key : String) (value : β) (entries : List (String × β)) : Prop :=
  ∃ before after, entries = before ++ (key, value) :: after ∧ ∀ e ∈ after, e.1 ≠ key

theorem lookup_reverse_eq_some_iff {key : String} {value : β} {entries : List (String × β)} :
    lookup key entries.reverse = some value ↔ IsLast key value entries := by
  rw [lookup_eq_some_iff]
  constructor
  · rintro ⟨before, after, h, hbefore⟩
    refine ⟨after.reverse, before.reverse, ?_, by simpa using hbefore⟩
    rw [List.reverse_eq_iff.mp h]
    simp
  · rintro ⟨before, after, rfl, hafter⟩
    exact ⟨after.reverse, before.reverse, by simp, by simpa using hafter⟩

/-- In an ascending list there is one entry of a key, from whichever end it is looked up. -/
theorem lookup_reverse {entries : List (String × β)} (h : Ascending entries) (key : String) :
    lookup key entries.reverse = lookup key entries := by
  induction entries with
  | nil => rfl
  | cons head rest ih =>
      obtain ⟨k, v⟩ := head
      obtain ⟨hfirst, hrest⟩ := List.pairwise_cons.mp h
      rw [List.reverse_cons, lookup_append, ih hrest, lookup, lookup, lookup]
      by_cases hk : k = key
      · subst hk
        rw [lookup_of_lt hfirst, Option.none_or, if_pos rfl]
      · rw [if_neg hk, if_neg hk, Option.or_none]

/-- In an ascending list the entries are what is looked up. -/
theorem mem_iff_lookup {entries : List (String × β)} (h : Ascending entries) {e : String × β} :
    e ∈ entries ↔ lookup e.1 entries = some e.2 := by
  obtain ⟨key, value⟩ := e
  induction entries with
  | nil => exact ⟨nofun, nofun⟩
  | cons head rest ih =>
      obtain ⟨k, v⟩ := head
      obtain ⟨hfirst, hrest⟩ := List.pairwise_cons.mp h
      rw [List.mem_cons, lookup, ih hrest, Prod.mk.injEq]
      by_cases hk : k = key
      · subst hk
        rw [if_pos rfl, lookup_of_lt hfirst]
        simp [eq_comm]
      · rw [if_neg hk, or_iff_right fun heq => hk heq.1.symm]

/-- Keys beyond some length are missing. -/
theorem exists_lookup_eq_none (entries : List (String × β)) :
    ∃ n, ∀ key : String, n < key.length → lookup key entries = none := by
  induction entries with
  | nil => exact ⟨0, fun _ _ => rfl⟩
  | cons head rest ih =>
      obtain ⟨k, v⟩ := head
      obtain ⟨n, hn⟩ := ih
      refine ⟨max n k.length, fun key hkey => ?_⟩
      have hne : k ≠ key := by
        intro heq
        rw [heq] at hkey
        omega
      rw [lookup, if_neg hne]
      exact hn key (by omega)

end Entries

namespace SortedMap

@[simp] theorem get?_empty (key : String) : (∅ : SortedMap β).get? key = none := rfl

@[simp] theorem get?_insert_self (map : SortedMap β) (key : String) (value : β) :
    (map.insert key value).get? key = some value :=
  Entries.lookup_insert_self key value map.toList

theorem get?_insert_ne (map : SortedMap β) {key other : String} (h : other ≠ key) (value : β) :
    (map.insert key value).get? other = map.get? other :=
  Entries.lookup_insert_ne h value map.toList

/-- Of a list of entries the last one of a key counts. -/
theorem get?_insertAll (map : SortedMap β) (entries : List (String × β)) (key : String) :
    (map.insertAll entries).get? key =
      (Entries.lookup key entries.reverse).or (map.get? key) := by
  induction entries generalizing map with
  | nil => rfl
  | cons head rest ih =>
      obtain ⟨k, v⟩ := head
      show ((map.insert k v).insertAll rest).get? key = _
      rw [ih, List.reverse_cons, Entries.lookup_append, Option.or_assoc]
      congr 1
      by_cases hk : k = key
      · rw [hk, get?_insert_self, Entries.lookup, if_pos rfl, Option.some_or]
      · rw [get?_insert_ne map (Ne.symm hk), Entries.lookup, if_neg hk, Entries.lookup,
          Option.none_or]

/-- **The upper map wins.** -/
theorem get?_overlay (map extra : SortedMap β) (key : String) :
    (map.overlay extra).get? key = (extra.get? key).or (map.get? key) := by
  rw [overlay, get?_insertAll, Entries.lookup_reverse extra.ascending]
  rfl

theorem get?_ofList (entries : List (String × β)) (key : String) :
    (ofList entries).get? key = Entries.lookup key entries.reverse := by
  rw [ofList, get?_insertAll, get?_empty, Option.or_none]

/-- **Maps that answer alike are the same map.** -/
theorem ext_get? {map map' : SortedMap β} (h : ∀ key, map.get? key = map'.get? key) :
    map = map' := by
  obtain ⟨entries, ascending⟩ := map
  obtain ⟨entries', ascending'⟩ := map'
  have hmem : ∀ e, e ∈ entries ↔ e ∈ entries' := by
    intro e
    rw [Entries.mem_iff_lookup ascending, Entries.mem_iff_lookup ascending']
    exact iff_of_eq (congrArg (· = some e.2) (h e.1))
  have : entries = entries' := ascending.eq_of_mem_iff ascending' hmem
  subst this
  rfl

/-- **A list of entries after another one is a map laid over another one.** -/
theorem ofList_append (entries entries' : List (String × β)) :
    ofList (entries ++ entries') = (ofList entries).overlay (ofList entries') := by
  refine ext_get? fun key => ?_
  rw [get?_overlay, get?_ofList, get?_ofList, get?_ofList, List.reverse_append,
    Entries.lookup_append]

theorem get?_ofList_eq_some_iff {entries : List (String × β)} {key : String} {value : β} :
    (ofList entries).get? key = some value ↔ Entries.IsLast key value entries := by
  rw [get?_ofList, Entries.lookup_reverse_eq_some_iff]

theorem ofList_append_singleton (entries : List (String × β)) (key : String) (value : β) :
    ofList (entries ++ [(key, value)]) = (ofList entries).insert key value := by
  rw [ofList, insertAll, List.foldl_append]
  rfl

/-! ### Maps laid over maps -/

theorem overlay_assoc (a b c : SortedMap β) :
    (a.overlay b).overlay c = a.overlay (b.overlay c) := by
  refine ext_get? fun key => ?_
  simp only [get?_overlay, Option.or_assoc]

theorem overlay_self (map : SortedMap β) : map.overlay map = map := by
  refine ext_get? fun key => ?_
  rw [get?_overlay, Option.or_self]

theorem overlay_empty (map : SortedMap β) : map.overlay ∅ = map := rfl

theorem empty_overlay (map : SortedMap β) : (∅ : SortedMap β).overlay map = map := by
  refine ext_get? fun key => ?_
  rw [get?_overlay, get?_empty, Option.or_none]

/-! ### What a map lists -/

theorem mem_toList_iff {map : SortedMap β} {key : String} {value : β} :
    (key, value) ∈ map.toList ↔ map.get? key = some value :=
  Entries.mem_iff_lookup map.ascending

theorem mem_keys_iff {map : SortedMap β} {key : String} :
    key ∈ map.keys ↔ (map.get? key).isSome := by
  rw [Option.isSome_iff_exists, keys, List.mem_map]
  constructor
  · rintro ⟨⟨k, v⟩, hmem, rfl⟩
    exact ⟨v, mem_toList_iff.mp hmem⟩
  · rintro ⟨v, hv⟩
    exact ⟨(key, v), mem_toList_iff.mpr hv, rfl⟩

theorem pairwise_keys (map : SortedMap β) : map.keys.Pairwise (· < ·) :=
  List.pairwise_map.mpr map.ascending

theorem keys_ascending (map : SortedMap β) : map.keys.Pairwise Text.Precedes :=
  map.pairwise_keys.imp Text.precedes_of_lt

theorem nodup_keys (map : SortedMap β) : map.keys.Nodup := by
  refine map.pairwise_keys.imp ?_
  rintro key _ hlt rfl
  exact String.lt_irrefl key hlt

theorem size_eq_length_keys (map : SortedMap β) : map.size = map.keys.length := by
  rw [size, keys, List.length_map]

theorem isEmpty_iff {map : SortedMap β} : map.isEmpty ↔ ∀ key, map.get? key = none := by
  rw [isEmpty, List.isEmpty_iff, List.eq_nil_iff_forall_not_mem]
  constructor
  · intro h key
    rw [Option.eq_none_iff_forall_ne_some]
    intro value hvalue
    exact h (key, value) (mem_toList_iff.mpr hvalue)
  · rintro h ⟨key, value⟩ hmem
    rw [mem_toList_iff, h] at hmem
    cases hmem

theorem mem_keys_ofList {entries : List (String × β)} {key : String} :
    key ∈ (ofList entries).keys ↔ key ∈ entries.map (·.1) := by
  rw [mem_keys_iff, get?_ofList, Entries.isSome_lookup_iff, List.map_reverse, List.mem_reverse]

/-- **A map has as many entries as there are different keys among those put in.** -/
theorem size_ofList (entries : List (String × β)) :
    (ofList entries).size = (entries.map (·.1)).toFinset.card := by
  have hkeys : (entries.map (·.1)).toFinset = (ofList entries).keys.toFinset := by
    ext key
    rw [List.mem_toFinset, List.mem_toFinset, mem_keys_ofList]
  rw [hkeys, List.toFinset_card_of_nodup (nodup_keys _), size_eq_length_keys]

theorem exists_get?_eq_none (map : SortedMap β) :
    ∃ n, ∀ key : String, n < key.length → map.get? key = none :=
  Entries.exists_lookup_eq_none map.toList

end SortedMap

end DottedConfig
