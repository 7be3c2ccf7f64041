/-
A path with placeholders, and its row written down as it is.

What a tree does for a path it does for the row that the path comes to.  So two paths that come
to one row are answered alike: the same files are looked at, the same is recorded and reported,
and the same value is found or the same failure.  Of the path itself only its text is left, in the
failures that name it.

Every row can be written as a path, with each `$` doubled.  This literal path comes to the row
under every namespace, whatever the placeholders were and whatever they stood for, and what was
filled in is never cut again.  The same facts about rows keep their prefixes apart in the cache.
-/
import DottedConfig.Proofs.Tree.Question

namespace DottedConfig

/-! ### The same but for the path -/

/-- The second failure is the first one, with another path perhaps. -/
def Failure.SameButPath (f f' : Failure) : Prop := f' = { f with path := f'.path }

/-- The same success, or failures that differ in the path they name at most. -/
inductive SameButPath {α : Type} : Except Failure α → Except Failure α → Prop where
  | ok (a : α) : SameButPath (.ok a) (.ok a)
  | error {f f' : Failure} (h : f.SameButPath f') : SameButPath (.error f) (.error f')

theorem Failure.sameButPath_orPath (f : Failure) (path path' : String) :
    (f.orPath path).SameButPath (f.orPath path') := by
  unfold orPath
  split
  · rfl
  · rfl

namespace SameButPath

variable {α β : Type} {x x' : Except Failure α}

theorem refl (x : Except Failure α) : SameButPath x x := by
  cases x with
  | error f => exact .error rfl
  | ok a => exact .ok a

theorem mapError_orPath (x : Except Failure α) (path path' : String) :
    SameButPath (x.mapError (·.orPath path)) (x.mapError (·.orPath path')) := by
  cases x with
  | error f => exact .error (f.sameButPath_orPath path path')
  | ok a => exact .ok a

theorem map (g : α → β) (h : SameButPath x x') : SameButPath (x.map g) (x'.map g) := by
  cases h with
  | ok a => exact .ok (g a)
  | error h => exact .error h

theorem bind {next next' : α → Except Failure β} (h : SameButPath x x')
    (hnext : ∀ a, SameButPath (next a) (next' a)) : SameButPath (x >>= next) (x' >>= next') := by
  cases h with
  | ok a => exact hnext a
  | error h => exact .error h

end SameButPath

/-! ### What names the path -/

namespace Value

theorem sameButPath_atKey (value : Value) (key path path' : String) :
    SameButPath (value.atKey key path) (value.atKey key path') := by
  cases value with
  | mapping entries =>
      simp only [atKey]
      cases find? key entries with
      | some v => exact .ok v
      | none => exact .error rfl
  | _ => exact .error rfl

theorem sameButPath_atKeys (value : Value) (keys : List String) (path path' : String) :
    SameButPath (value.atKeys keys path) (value.atKeys keys path') := by
  induction keys generalizing value with
  | nil => exact .ok value
  | cons key rest ih => exact (value.sameButPath_atKey key path path').bind fun v => ih v

end Value

namespace Tree

/-- The same answer, but for the path that a failure names: what became of the tree, and what
was reported on the way, is the same altogether. -/
structure Answer.SameButPath {α : Type} (answer answer' : Answer α) : Prop where
  result : DottedConfig.SameButPath answer.result answer'.result
  tree : answer'.tree = answer.tree
  notes : answer'.notes = answer.notes

theorem sameButPath_typed {α : Type} (expected : String) (view : Value → Option α)
    (path path' : String) (value : Value) :
    SameButPath (typed expected view path value) (typed expected view path' value) := by
  unfold typed
  cases view value with
  | some a => exact .ok a
  | none => exact .error rfl

/-! ### Two paths of one row -/

section

variable {ns : Namespace} {path path' : String} {row : List String}
  (h : segments path ns = .ok row) (h' : segments path' ns = .ok row)

include h h'

/-- They are located on one walk. -/
theorem locate_of_same_row (tree : Tree) (disk : Disk) :
    (tree.locate disk path' ns).cache = (tree.locate disk path ns).cache ∧
      (tree.locate disk path' ns).notes = (tree.locate disk path ns).notes := by
  rw [locate_of_segments_ok h, locate_of_segments_ok h']
  simp only [Reply.cache_andThen_ofExcept, Reply.notes_andThen_ofExcept, Reply.orPath, and_self]

/-- They have the same owner, or none for the same reason. -/
theorem owner_of_same_row (tree : Tree) (disk : Disk) :
    SameButPath (tree.owner disk path ns) (tree.owner disk path' ns) := by
  rw [owner_of_segments_ok h, owner_of_segments_ok h']
  exact (SameButPath.mapError_orPath _ path path').map _

end

/-- **Whatever is asked at them, the same happens to the tree**, even if different questions are
asked. -/
theorem ask_of_same_row {tree : Tree} (question question' : Question) {row : List String}
    (h : segments question.path tree.names = .ok row)
    (h' : segments question'.path tree.names = .ok row) (disk : Disk) :
    (tree.ask disk question').tree = (tree.ask disk question).tree ∧
      (tree.ask disk question').notes = (tree.ask disk question).notes := by
  obtain ⟨hcache, hnotes⟩ := locate_of_same_row h h' tree disk
  rw [ask_tree, ask_tree, ask_notes, ask_notes, hcache]
  exact ⟨rfl, hnotes⟩

section

variable {tree : Tree} {path path' : String} {row : List String}
  (h : segments path tree.names = .ok row) (h' : segments path' tree.names = .ok row)

include h h'

theorem get_of_same_row (disk : Disk) :
    (tree.get disk path).SameButPath (tree.get disk path') := by
  obtain ⟨htree, hnotes⟩ : (tree.get disk path').tree = (tree.get disk path).tree ∧
      (tree.get disk path').notes = (tree.get disk path).notes :=
    ask_of_same_row (.get path) (.get path') h h' disk
  refine ⟨?_, htree, hnotes⟩
  rw [get, get, answer, answer, lookup_result, lookup_result]
  refine (owner_of_same_row h h' tree disk).bind fun found => ?_
  exact found.2.content.sameButPath_atKeys (found.1.drop found.2.taken) path path'

theorem getAs_of_same_row {α : Type} (expected : String) (view : Value → Option α) (disk : Disk) :
    (getAs expected view tree disk path).SameButPath (getAs expected view tree disk path') := by
  obtain ⟨hresult, htree, hnotes⟩ := get_of_same_row h h' disk
  rw [getAs_eq, getAs_eq]
  exact ⟨hresult.bind (sameButPath_typed expected view path path'), htree, hnotes⟩

theorem resolve_of_same_row (disk : Disk) :
    (tree.resolve disk path).SameButPath (tree.resolve disk path') := by
  obtain ⟨htree, hnotes⟩ : (tree.resolve disk path').tree = (tree.resolve disk path).tree ∧
      (tree.resolve disk path').notes = (tree.resolve disk path).notes :=
    ask_of_same_row (.resolve path) (.resolve path') h h' disk
  refine ⟨?_, htree, hnotes⟩
  rw [resolve_result, resolve_result]
  exact (owner_of_same_row h h' tree disk).map _

theorem source_of_same_row (disk : Disk) :
    (tree.source disk path).SameButPath (tree.source disk path') := by
  obtain ⟨htree, hnotes⟩ : (tree.source disk path').tree = (tree.source disk path).tree ∧
      (tree.source disk path').notes = (tree.source disk path).notes :=
    ask_of_same_row (.source path) (.source path') h h' disk
  refine ⟨?_, htree, hnotes⟩
  rw [source_result, source_result]
  exact (owner_of_same_row h h' tree disk).map _

end

/-! ### The keys of prefixes -/

/-- The dotted text of a row is not empty, so it differs from that of no segments at all. -/
theorem IsRow.joinDots_ne_empty {row : List String} (h : IsRow row) : Text.joinDots row ≠ "" := by
  intro heq
  cases row with
  | nil => exact h.nonempty rfl
  | cons s rest =>
      have hs : s ≠ "" := (h.segments s List.mem_cons_self).1
      cases rest with
      | nil => exact hs heq
      | cons t rest =>
          have hlength := congrArg String.length heq
          simp [Text.joinDots] at hlength

/-- Prefixes of rows are told apart by their dotted texts, the empty one included. -/
theorem prefix_eq_of_joinDots {row row' before before' : List String} (h : IsRow row)
    (h' : IsRow row') (hbegins : before <+: row) (hbegins' : before' <+: row')
    (heq : Text.joinDots before = Text.joinDots before') : before = before' := by
  by_cases hne : before = []
  · by_cases hne' : before' = []
    · rw [hne, hne']
    · subst hne
      exact absurd heq.symm (h'.of_prefix hne' hbegins').joinDots_ne_empty
  · by_cases hne' : before' = []
    · subst hne'
      exact absurd heq (h.of_prefix hne hbegins).joinDots_ne_empty
    · exact (h.of_prefix hne hbegins).eq_of_joinDots (h'.of_prefix hne' hbegins') heq

/--
**A path is as good as its literal form.**  Once a path comes to a row, the path that spells this
row with every `$` doubled comes to it under every namespace, and a tree in any state answers at
both alike: with the same value, owner, rest and file or with failures that differ in the path they
name at most, and with the same tree and the same report afterwards.  And whatever other path comes
to a row, a prefix of the one row and a prefix of the other go under one key in the cache only if
they are the same segments.
-/
theorem same_answers_at_pathOf (tree : Tree) (path : String) (row : List String)
    (h : segments path tree.names = .ok row) :
    (∀ ns, segments (pathOf row) ns = .ok row) ∧
      (∀ disk, (tree.get disk path).SameButPath (tree.get disk (pathOf row)) ∧
        (∀ {α : Type} (expected : String) (view : Value → Option α),
          (getAs expected view tree disk path).SameButPath
            (getAs expected view tree disk (pathOf row))) ∧
        (tree.resolve disk path).SameButPath (tree.resolve disk (pathOf row)) ∧
        (tree.source disk path).SameButPath (tree.source disk (pathOf row))) ∧
      ∀ path' ns' row', segments path' ns' = .ok row' →
        ∀ before before', before <+: row → before' <+: row' →
          Text.joinDots before = Text.joinDots before' → before = before' := by
  have hrow : IsRow row := segments_isRow h
  have hliteral : ∀ ns, segments (pathOf row) ns = .ok row := segments_pathOf hrow
  refine ⟨hliteral, fun disk => ⟨?_, ?_, ?_, ?_⟩, ?_⟩
  · exact get_of_same_row h (hliteral tree.names) disk
  · exact fun expected view => getAs_of_same_row h (hliteral tree.names) expected view disk
  · exact resolve_of_same_row h (hliteral tree.names) disk
  · exact source_of_same_row h (hliteral tree.names) disk
  · intro path' ns' row' h' before before' hbegins hbegins' heq
    exact prefix_eq_of_joinDots hrow (segments_isRow h') hbegins hbegins' heq

/-- A name stands for what would be a placeholder itself, and a directory is called that. -/
theorem same_answers_at_pathOf_of_arm :
    let disk : Disk := fun place =>
      if place = "cfg/cams" ∨ place = "cfg/cams/${b}" then some .directory
      else if place = "cfg/cams/${b}/lens.yaml" then some (.text "gain: 7\n") else none
    let tree := Tree.new "cfg" none (.ofList [("arm", "${b}")]) .yaml
    let row := ["cams", "${b}", "lens", "gain"]
    segments "cams.${arm}.lens.gain" tree.names = .ok row ∧ pathOf row = "cams.$${b}.lens.gain" ∧
      segments "cams.$${b}.lens.gain" ∅ = .ok row ∧
      (tree.getInteger disk "cams.$${b}.lens.gain").result = .ok 7 := by
  intro disk tree row
  have hrow : segments "cams.${arm}.lens.gain" tree.names = .ok row :=
    eq_ok_of_toOption (by decide +kernel)
  have hpath : pathOf row = "cams.$${b}.lens.gain" := by decide +kernel
  have hvalue : (tree.getInteger disk "cams.${arm}.lens.gain").result = .ok 7 :=
    eq_ok_of_toOption (by decide +kernel)
  obtain ⟨hliteral, hsame, -⟩ := same_answers_at_pathOf tree "cams.${arm}.lens.gain" row hrow
  rw [hpath] at hliteral
  obtain ⟨-, htyped, -, -⟩ := hsame disk
  obtain ⟨hresult, -, -⟩ : (tree.getInteger disk "cams.${arm}.lens.gain").SameButPath
      (tree.getInteger disk (pathOf row)) := htyped "integer" Value.asInteger?
  rw [hvalue, hpath] at hresult
  refine ⟨hrow, hpath, hliteral ∅, ?_⟩
  generalize (tree.getInteger disk "cams.$${b}.lens.gain").result = result at hresult
  cases hresult with
  | ok a => rfl

end Tree

end DottedConfig
