/-
The cache over its whole life: for each prefix the first entry counts.

There are two ways to record an entry, and each of them leaves a prefix alone that has one.  So
all that an operation can do to what a prefix stands for is to offer an entry, which is taken
if there is none; only emptying the cache takes one away.  `get?_apply` says this of one
operation in one line.  Over a history it makes the entry of a prefix the first one that was
offered since the cache was last emptied, which is how `first` is defined, from the history
alone and without a cache.

A failure to build an entry offers nothing, and whether an entry is built at all shows in what
building it brings along.
-/
import DottedConfig.Cache
import DottedConfig.Proofs.SortedMap
import Mathlib.Data.List.DropRight

namespace DottedConfig.Cache

/-! ### One operation -/

section

variable {ε ν : Type} {cache : Cache} {dotted : String} {kept : Entry}
  {build : Unit → Except ε Entry × ν}

theorem record_of_present (h : cache.get? dotted = some kept) (entry : Entry) :
    cache.record dotted entry = (kept, cache) := by
  simp only [record, h]

theorem record_of_missing (h : cache.get? dotted = none) (entry : Entry) :
    cache.record dotted entry = (entry, cache.insert dotted entry) := by
  simp only [record, h]

theorem fetch_of_present (h : cache.get? dotted = some kept)
    (build : Unit → Except ε Entry × ν) : cache.fetch dotted build = ⟨.ok kept, cache, none⟩ := by
  simp only [fetch, h]

/-- A missing entry is what building it gives, and it is recorded if it is one. -/
theorem fetch_of_missing (h : cache.get? dotted = none) (build : Unit → Except ε Entry × ν) :
    cache.fetch dotted build = ⟨(build ()).1,
      (build ()).1.toOption.elim cache (cache.insert dotted), some (build ()).2⟩ := by
  rcases hbuild : build () with ⟨fault | entry, notes⟩
  · simp only [fetch, h, hbuild]
    rfl
  · simp only [fetch, h, hbuild]
    rfl

/-- Building an entry that can be built is recording it. -/
theorem fetch_eq_record {entry : Entry} (hbuild : (build ()).1 = .ok entry) :
    (cache.fetch dotted build).result = .ok (cache.record dotted entry).1 ∧
      (cache.fetch dotted build).cache = (cache.record dotted entry).2 := by
  cases h : cache.get? dotted with
  | some kept =>
      rw [fetch_of_present h, record_of_present h]
      exact ⟨rfl, rfl⟩
  | none =>
      rw [fetch_of_missing h, record_of_missing h, hbuild]
      exact ⟨rfl, rfl⟩

/-- What recording answers is what is kept. -/
theorem get?_record_self (cache : Cache) (dotted : String) (entry : Entry) :
    (cache.record dotted entry).2.get? dotted = some (cache.record dotted entry).1 := by
  cases h : cache.get? dotted with
  | some kept =>
      rw [record_of_present h]
      exact h
  | none =>
      rw [record_of_missing h]
      exact SortedMap.get?_insert_self cache dotted entry

theorem get?_record_ne (cache : Cache) {other : String} (hne : other ≠ dotted) (entry : Entry) :
    (cache.record dotted entry).2.get? other = cache.get? other := by
  cases h : cache.get? dotted with
  | some kept => rw [record_of_present h]
  | none =>
      rw [record_of_missing h]
      exact SortedMap.get?_insert_ne cache hne entry

/-- Recording an entry of a prefix does nothing but give it one if it has none. -/
theorem get?_record (cache : Cache) (dotted other : String) (entry : Entry) :
    (cache.record dotted entry).2.get? other =
      (cache.get? other).or (if dotted = other then some entry else none) := by
  by_cases hother : dotted = other
  · subst hother
    rw [if_pos rfl, get?_record_self]
    cases h : cache.get? dotted with
    | some kept => rw [record_of_present h, Option.some_or]
    | none => rw [record_of_missing h, Option.none_or]
  · rw [if_neg hother, Option.or_none, get?_record_ne cache (Ne.symm hother)]

theorem cache_fetch_of_error {fault : ε} (hbuild : (build ()).1 = .error fault) :
    (cache.fetch dotted build).cache = cache := by
  cases h : cache.get? dotted with
  | some kept => rw [fetch_of_present h]
  | none =>
      rw [fetch_of_missing h, hbuild]
      rfl

/-- Asking for the entry of a prefix does nothing but give it the one that is built if it has
none. -/
theorem get?_fetch (cache : Cache) (dotted other : String)
    (build : Unit → Except ε Entry × ν) : (cache.fetch dotted build).cache.get? other =
      (cache.get? other).or (if dotted = other then (build ()).1.toOption else none) := by
  cases hbuild : (build ()).1 with
  | ok entry =>
      rw [(fetch_eq_record hbuild).2]
      exact get?_record cache dotted other entry
  | error fault =>
      rw [cache_fetch_of_error hbuild]
      show _ = Option.or _ (if _ then none else none)
      rw [ite_self, Option.or_none]

/-- A failure to build is handed on, and there is no other. -/
theorem fetch_eq_error_iff {fault : ε} : (cache.fetch dotted build).result = .error fault ↔
    cache.get? dotted = none ∧ (build ()).1 = .error fault := by
  cases h : cache.get? dotted with
  | some kept => simp [fetch_of_present h]
  | none => simp [fetch_of_missing h]

/-- What asking for an entry answers is what is kept. -/
theorem get?_fetch_self {entry : Entry} (h : (cache.fetch dotted build).result = .ok entry) :
    (cache.fetch dotted build).cache.get? dotted = some entry := by
  cases hkept : cache.get? dotted with
  | some kept =>
      rw [fetch_of_present hkept] at h ⊢
      obtain rfl := Except.ok.inj h
      exact hkept
  | none =>
      rw [fetch_of_missing hkept] at h ⊢
      have hbuild : (build ()).1 = .ok entry := h
      rw [hbuild]
      exact SortedMap.get?_insert_self cache dotted entry

/-- An entry is built if and only if it is missing. -/
theorem built_fetch (cache : Cache) (dotted : String) (build : Unit → Except ε Entry × ν) :
    (cache.fetch dotted build).built =
      if cache.contains dotted then none else some (build ()).2 := by
  rw [SortedMap.contains]
  cases h : cache.get? dotted with
  | some kept =>
      rw [fetch_of_present h]
      rfl
  | none =>
      rw [fetch_of_missing h]
      rfl

end

/-! ### Histories -/

/-- Something that is done with a cache. -/
inductive Operation : Type 1 where
  /-- An entry is recorded for a prefix. -/
  | record (dotted : String) (entry : Entry)
  /-- The entry of a prefix is asked for, and built if it is missing. -/
  | fetch {ε ν : Type} (dotted : String) (build : Unit → Except ε Entry × ν)
  /-- The cache is emptied. -/
  | clear
  /-- Something is read off the cache. -/
  | read {α : Type} (view : Cache → α)

namespace Operation

/-- The cache after an operation. -/
def apply (cache : Cache) : Operation → Cache
  | record dotted entry => (cache.record dotted entry).2
  | fetch dotted build => (cache.fetch dotted build).cache
  | clear => .empty
  | read _ => cache

/-- Whether the cache is empty afterwards, whatever it held. -/
def clears : Operation → Bool
  | clear => true
  | _ => false

/-- The entry that an operation has for a prefix, should the prefix have none. -/
def offer (dotted : String) : Operation → Option Entry
  | record dotted' entry => if dotted' = dotted then some entry else none
  | fetch dotted' build => if dotted' = dotted then (build ()).1.toOption else none
  | clear => none
  | read _ => none

/-- **An operation gives a prefix the entry that it offers, unless the prefix has one.** -/
theorem get?_apply (cache : Cache) (op : Operation) (dotted : String) :
    (op.apply cache).get? dotted =
      if op.clears then none else (cache.get? dotted).or (op.offer dotted) := by
  cases op with
  | record dotted' entry => exact get?_record cache dotted' dotted entry
  | fetch dotted' build => exact get?_fetch cache dotted' dotted build
  | clear => rfl
  | read view => exact (Option.or_none).symm

end Operation

/-- The cache that a history leaves of a new one. -/
def run (operations : List Operation) : Cache := operations.foldl Operation.apply .empty

/-- The first entry that was offered for a prefix since the cache was last emptied.  What is
offered later may never be built; it does not count in any case. -/
def first (operations : List Operation) (dotted : String) : Option Entry :=
  (operations.rtakeWhile (!·.clears)).findSome? (Operation.offer dotted)

theorem run_append_singleton (operations : List Operation) (op : Operation) :
    run (operations ++ [op]) = op.apply (run operations) := by
  rw [run, List.foldl_append]
  rfl

theorem first_append_singleton (operations : List Operation) (op : Operation) (dotted : String) :
    first (operations ++ [op]) dotted =
      if op.clears then none else (first operations dotted).or (op.offer dotted) := by
  rw [first, List.rtakeWhile_concat]
  cases op.clears with
  | true => rfl
  | false =>
      show ((operations.rtakeWhile (!·.clears)) ++ [op]).findSome? (Operation.offer dotted) = _
      rw [List.findSome?_append, List.findSome?_singleton]
      rfl

/-- **What a prefix stands for is what was first offered for it.** -/
theorem get?_run (operations : List Operation) (dotted : String) :
    (run operations).get? dotted = first operations dotted := by
  induction operations using List.reverseRecOn with
  | nil => rfl
  | append_singleton operations op ih =>
      rw [run_append_singleton, Operation.get?_apply, ih, first_append_singleton]

/--
**The first write wins.**  After any history, a prefix stands for the first entry that was
recorded or built for it since the cache was last emptied, and for nothing if there was none.
Recording answers the entry that is kept, and so does asking for one, if it does not fail.  An
entry is built just if the prefix has none, and otherwise it makes no difference what would
have been built.  A failure is one to build the entry, as it is, and leaves the cache as it is.
An entry that can be built is as good as recorded.  All that can be read off the cache goes by
the same entries, and the prefixes are listed once each, in ascending order of code points.
-/
theorem first_write_wins (operations : List Operation) :
    let cache := run operations
    (∀ dotted, cache.get? dotted = first operations dotted) ∧
      (∀ dotted entry, first (operations ++ [.record dotted entry]) dotted =
        some (cache.record dotted entry).1) ∧
      (∀ {ε ν : Type} (dotted : String) (build : Unit → Except ε Entry × ν),
        let fetched := cache.fetch dotted build
        (∀ entry, fetched.result = .ok entry →
          first (operations ++ [.fetch dotted build]) dotted = some entry) ∧
        fetched.built = (if (first operations dotted).isSome then none else some (build ()).2) ∧
        (∀ build', (first operations dotted).isSome → cache.fetch dotted build' = fetched) ∧
        (∀ fault, fetched.result = .error fault ↔
          first operations dotted = none ∧ (build ()).1 = .error fault) ∧
        (∀ fault, fetched.result = .error fault → fetched.cache = cache) ∧
        ∀ entry, (build ()).1 = .ok entry →
          fetched.result = .ok (cache.record dotted entry).1 ∧
            fetched.cache = (cache.record dotted entry).2) ∧
      (∀ dotted, cache.contains dotted = (first operations dotted).isSome ∧
        cache.source? dotted = (first operations dotted).map Entry.path) ∧
      cache.keys.Nodup ∧ cache.keys.Pairwise Text.Precedes ∧
      (∀ dotted, dotted ∈ cache.keys ↔ (first operations dotted).isSome) ∧
      cache.size = cache.keys.length ∧
      (cache.isEmpty ↔ ∀ dotted, first operations dotted = none) := by
  intro cache
  have hfirst : ∀ dotted, cache.get? dotted = first operations dotted := get?_run operations
  have hcontains : ∀ dotted, cache.contains dotted = (first operations dotted).isSome := by
    intro dotted
    rw [SortedMap.contains, hfirst]
  refine ⟨hfirst, fun dotted entry => ?_, fun dotted build => ?_, fun dotted => ?_,
    cache.nodup_keys, cache.keys_ascending, fun dotted => ?_, cache.size_eq_length_keys, ?_⟩
  · rw [← get?_run, run_append_singleton]
    exact get?_record_self cache dotted entry
  · refine ⟨fun entry h => ?_, ?_, fun build' h => ?_, fun fault => ?_, fun fault h => ?_,
      fun entry hbuild => fetch_eq_record hbuild⟩
    · rw [← get?_run, run_append_singleton]
      exact get?_fetch_self h
    · rw [built_fetch, hcontains]
    · obtain ⟨kept, hkept⟩ := Option.isSome_iff_exists.mp h
      rw [← hfirst] at hkept
      rw [fetch_of_present hkept, fetch_of_present hkept]
    · rw [fetch_eq_error_iff, hfirst]
    · exact cache_fetch_of_error (fetch_eq_error_iff.mp h).2
  · exact ⟨hcontains dotted, by rw [source?, hfirst]⟩
  · rw [SortedMap.mem_keys_iff, hfirst]
  · rw [SortedMap.isEmpty_iff]
    exact forall_congr' fun dotted => by rw [hfirst]

example :
    (first [.record "a" (.directory "cfg/a"), .clear,
      .fetch "a" fun _ => ((.error "gone" : Except String Entry), ()),
      .fetch "a" fun _ => ((.ok (.directory "cfg/b") : Except String Entry), ()),
      .record "a" (.directory "cfg/c")] "a").map Entry.path = some "cfg/b" := by decide

end DottedConfig.Cache
