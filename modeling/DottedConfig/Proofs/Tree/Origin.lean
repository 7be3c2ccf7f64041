/-
Where the failure of a lookup comes from.

A lookup can fail at the path, on the walk along its row, or in the owner that the walk has come
to.  `Origin` has a case for each way, with what must be so for it and with the failure as it is
answered; it says so of any loader and of any cache, and every failure has an origin.  So what is
true of all failures is shown by going through the cases.

With files read as YAML a failure says a good part of this itself.  It names the path as it was
asked for, and it is located just if it is about a file that the walk has come to, and then in
this file.  A missing key is the first one of the rest of the path that leads nowhere.
-/
import DottedConfig.Proofs.Tree.Failed
import DottedConfig.Proofs.Tree.Isolation
import DottedConfig.Proofs.Tree.Ownership
import DottedConfig.Proofs.Tree.Raw
import DottedConfig.Proofs.Value.FileFault

namespace DottedConfig

namespace Tree

/-! ### Paths without a row -/

/-- What is wrong with a path that has no row, and the failure that says so. -/
inductive Malformed (path : String) (ns : Namespace) : Failure → Prop where
  /-- The path has no text. -/
  | empty (h : path = "") : Malformed path ns (.malformedPath path .emptyPath)
  /-- A segment has no text. -/
  | gap (h : "" ∈ Text.cutDots path) : Malformed path ns (.malformedPath path .emptySegment)
  /-- A segment cannot be filled. -/
  | unfilled {written : String} {f : Failure} (hwritten : written ∈ Text.cutDots path)
      (h : Template.substitute written ns = .error f) : Malformed path ns (f.withPath path)
  /-- Filling a segment leaves nothing of it. -/
  | vanishing {written : String} (hwritten : written ∈ Text.cutDots path)
      (h : Template.substitute written ns = .ok "") :
      Malformed path ns (.malformedPath path (.vanishingSegment written))
  /-- Filling a segment brings a dot into it. -/
  | dotted {written text : String} (hwritten : written ∈ Text.cutDots path)
      (h : Template.substitute written ns = .ok text) (hdot : '.' ∈ text.toList) :
      Malformed path ns (.malformedPath path (.dottedSegment written text))

section

variable {path : String} {ns : Namespace} {f : Failure}

theorem malformed_of_segment {written : String} (hwritten : written ∈ Text.cutDots path)
    (h : segment path ns written = .error f) : Malformed path ns f := by
  rw [segment] at h
  split at h
  · rename_i hempty
    cases h
    exact .gap (String.isEmpty_iff.mp hempty ▸ hwritten)
  · split at h
    · rename_i f' hfails
      cases h
      have hpath : f'.path = none := (Template.sound_substitute written ns f' hfails).path
      rw [Failure.orPath_eq_withPath hpath]
      exact .unfilled hwritten hfails
    · rename_i text htext
      split at h
      · rename_i hempty
        cases h
        exact .vanishing hwritten (String.isEmpty_iff.mp hempty ▸ htext)
      · split at h
        · rename_i hdot
          cases h
          exact .dotted hwritten htext hdot
        · cases h

theorem malformed_of_segmentsOf {writtens : List String}
    (hwrittens : ∀ written ∈ writtens, written ∈ Text.cutDots path)
    (h : segmentsOf path ns writtens = .error f) : Malformed path ns f := by
  induction writtens with
  | nil => cases h
  | cons written writtens ih =>
      obtain ⟨hwritten, hrest⟩ := List.forall_mem_cons.mp hwrittens
      cases htext : segment path ns written with
      | error f' =>
          rw [segmentsOf, htext] at h
          cases h
          exact malformed_of_segment hwritten htext
      | ok text =>
          rw [segmentsOf_cons_of_ok htext] at h
          exact ih hrest (map_eq_error_iff.mp h)

theorem malformed_of_segments (h : segments path ns = .error f) : Malformed path ns f := by
  rw [segments] at h
  split at h
  · rename_i hempty
    cases h
    exact .empty (String.isEmpty_iff.mp hempty)
  · exact malformed_of_segmentsOf (fun _ hwritten => hwritten) h

/-- A path that is at fault itself is named, and no file is blamed. -/
theorem Malformed.says (h : Malformed path ns f) :
    f.path = some path ∧ f.location = none ∧ (f.kind = .invalidPath ∨ f.kind = .interpolation) := by
  cases h with
  | empty h => exact ⟨rfl, rfl, .inl rfl⟩
  | gap h => exact ⟨rfl, rfl, .inl rfl⟩
  | unfilled hwritten h =>
      rcases Template.substitute_eq_error h with ⟨before, rfl⟩ | ⟨name, rfl⟩
      · exact ⟨rfl, rfl, .inr rfl⟩
      · exact ⟨rfl, rfl, .inr rfl⟩
  | vanishing hwritten h => exact ⟨rfl, rfl, .inl rfl⟩
  | dotted hwritten h hdot => exact ⟨rfl, rfl, .inl rfl⟩

end

end Tree

/-! ### Prefixes that stand for nothing -/

/-- A prefix that the disk has nothing for is no row of plain names, or nothing stands at its place
and none is where its file should be; otherwise the loader has failed with this file. -/
theorem Site.failure_of_probe {site : Site} {ns : Namespace} {row : List String} {f : Failure}
    (h : (site.probe ns row).1 = .error f) :
    (∃ place, f = nothingAt place ∧ ((∀ s ∈ row, Path.isPlainName s) →
        ¬site.disk.has (Path.fileAt site.base row) ∧
          ¬site.disk.isDirectory (Path.joinAll site.base row))) ∨
      (∀ s ∈ row, Path.isPlainName s) ∧ site.disk.has (Path.fileAt site.base row) ∧
        site.loader site.disk (Path.fileAt site.base row) ns = .error f := by
  by_cases hplain : ∀ s ∈ row, Path.isPlainName s
  · rw [probe_of_place (place_of_plain hplain site.base), ← Path.fileAt] at h
    split at h
    · rename_i hfile
      refine .inr ⟨hplain, ?_, map_eq_error_iff.mp h⟩
      rcases Bool.or_eq_true_iff.mp hfile with hfile | hfile
      · exact Disk.has_of_isFile hfile
      · exact (Bool.and_eq_true_iff.mp hfile).1
    · rename_i hfile
      split at h
      · cases h
      · rename_i hdirectory
        cases h
        refine .inl ⟨_, rfl, fun _ => ⟨fun hhas => hfile ?_, hdirectory⟩⟩
        rw [hhas, Bool.eq_false_iff.mpr hdirectory]
        exact Bool.or_true _
  · obtain ⟨s, hs⟩ := not_forall.mp hplain
    obtain ⟨hmem, hs⟩ := Classical.not_imp.mp hs
    obtain ⟨stopped, hplace⟩ := place_of_not_plain hmem hs
    rw [probe_of_place_error hplace] at h
    cases h
    exact .inl ⟨stopped, rfl, fun hall => absurd hall hplain⟩

namespace Tree

/-! ### Origins -/

/-- All that a lookup can fail with, and what is so when it does. -/
inductive Origin (tree : Tree) (disk : Disk) (path : String) (ns : Namespace) : Failure → Prop where
  /-- The path has no row. -/
  | path {f : Failure} (hrow : segments path ns = .error f) (h : Malformed path ns f) :
      Origin tree disk path ns f
  /-- Every prefix of the row is a directory. -/
  | directories {row : List String} (hrow : segments path ns = .ok row)
      (hleads : Site.Leads (tree.view disk ns) row) :
      Origin tree disk path ns ((Site.onlyDirectories row).withPath path)
  /-- Past directories there is a prefix for which nothing stands on the disk. -/
  | nothing {before rest : List String} {part place : String}
      (hrow : segments path ns = .ok (before ++ part :: rest))
      (hleads : Site.Leads (tree.view disk ns) before)
      (h : (∀ s ∈ before ++ [part], Path.isPlainName s) →
        ¬disk.has (Path.fileAt tree.base (before ++ [part])) ∧
          ¬disk.isDirectory (Path.joinAll tree.base (before ++ [part]))) :
      Origin tree disk path ns ((Site.nothingAt place).withPath path)
  /-- Past directories there is a prefix with a file that the loader fails with. -/
  | file {before rest : List String} {part : String} {f : Failure}
      (hrow : segments path ns = .ok (before ++ part :: rest))
      (hleads : Site.Leads (tree.view disk ns) before)
      (hplain : ∀ s ∈ before ++ [part], Path.isPlainName s)
      (hhas : disk.has (Path.fileAt tree.base (before ++ [part])))
      (h : tree.loader disk (Path.fileAt tree.base (before ++ [part])) ns = .error f) :
      Origin tree disk path ns (f.orPath path)
  /-- The owner has nothing under a key, after keys that lead somewhere in it. -/
  | key {row before after : List String} {owner : Site.OwnerFile} {key : String} {value : Value}
      {f : Failure} (howner : tree.owner disk path ns = .ok (row, owner))
      (hrest : row.drop owner.taken = before ++ key :: after)
      (hbefore : owner.content.below? before = some value) (h : value.Lacks key path f) :
      Origin tree disk path ns f
  /-- The value in the owner is of another type than was asked for. -/
  | type {row : List String} {owner : Site.OwnerFile} {value : Value} {expected : String}
      (howner : tree.owner disk path ns = .ok (row, owner))
      (hvalue : owner.content.below? (row.drop owner.taken) = some value) :
      Origin tree disk path ns (.typeMismatch path expected value.typeName)

variable {tree : Tree} {disk : Disk} {path : String} {ns : Namespace} {f : Failure}

theorem origin_of_owner (h : tree.owner disk path ns = .error f) : tree.Origin disk path ns f := by
  cases hrow : segments path ns with
  | error f' =>
      rw [owner, hrow] at h
      cases h
      exact .path hrow (malformed_of_segments hrow)
  | ok row =>
      rw [owner_of_segments_ok hrow] at h
      cases howner : Site.ownerFrom (tree.view disk ns) [] row with
      | ok owner =>
          rw [howner] at h
          cases h
      | error f' =>
          rw [howner] at h
          cases h
          rcases Site.leads_of_ownerFrom_error (Site.leads_nil _) howner with
            ⟨hleads, rfl⟩ | ⟨before, part, rest, rfl, hleads, hview⟩
          · exact .directories hrow hleads
          · have hprobe : ((tree.site disk).probe ns (before ++ [part])).1 = .error f' :=
              (Site.view_of_missing (Site.get?_of_view_error hview)).symm.trans hview
            rcases Site.failure_of_probe hprobe with ⟨place, rfl, hnothing⟩ | ⟨hplain, hhas, hload⟩
            · exact .nothing hrow hleads hnothing
            · exact .file hrow hleads hplain hhas hload

/-- Looking up the rest of a path in its owner fails with a key. -/
theorem origin_of_atKeys {row : List String} {owner : Site.OwnerFile}
    (howner : tree.owner disk path ns = .ok (row, owner))
    (h : owner.content.atKeys (row.drop owner.taken) path = .error f) :
    tree.Origin disk path ns f := by
  cases hbelow : owner.content.below? (row.drop owner.taken) with
  | some value =>
      rw [Value.atKeys_of_below hbelow] at h
      cases h
  | none =>
      obtain ⟨before, key, after, value, f', hrest, hbefore, hlacks, hfails⟩ :=
        Value.exists_lacks_of_below hbelow path
      rw [hfails] at h
      cases h
      exact .key howner hrest hbefore hlacks

theorem origin_of_lookup (h : (tree.lookup disk path ns).result = .error f) :
    tree.Origin disk path ns f := by
  rw [lookup_result] at h
  cases howner : tree.owner disk path ns with
  | error f' =>
      rw [howner] at h
      cases h
      exact origin_of_owner howner
  | ok found =>
      rw [howner] at h
      exact origin_of_atKeys howner h

/-- Seeing the value as one of a type fails with its type. -/
theorem origin_of_typed {α : Type} {expected : String} {view : Value → Option α}
    {row : List String} {owner : Site.OwnerFile}
    (howner : tree.owner disk path ns = .ok (row, owner))
    (h : owner.content.atKeys (row.drop owner.taken) path >>= typed expected view path =
      .error f) : tree.Origin disk path ns f := by
  cases hvalue : owner.content.atKeys (row.drop owner.taken) path with
  | error f' =>
      rw [hvalue] at h
      cases h
      exact origin_of_atKeys howner hvalue
  | ok value =>
      rw [hvalue] at h
      have h : typed expected view path value = .error f := h
      rw [typed] at h
      split at h
      · cases h
      · cases h
        exact .type howner (Value.atKeys_eq_ok_iff.mp hvalue)

/-- **Every failure of a question has an origin.** -/
theorem origin_of_ask {question : Question} (h : (tree.ask disk question).result = .error f) :
    tree.Origin disk question.path tree.names f := by
  rw [ask_result] at h
  cases howner : tree.owner disk question.path tree.names with
  | error f' =>
      rw [howner] at h
      cases h
      exact origin_of_owner howner
  | ok found =>
      rw [howner] at h
      cases question with
      | get path => exact origin_of_atKeys howner h
      | getString path => exact origin_of_typed howner h
      | getInteger path => exact origin_of_typed howner h
      | getFloat path => exact origin_of_typed howner h
      | getBool path => exact origin_of_typed howner h
      | resolve path => cases h
      | source path => cases h

/-- One with further entries looks up with them in a tree in which nothing is cached; without any
it is a lookup in the tree itself. -/
theorem origin_of_getWith {extra : Namespace}
    (h : (tree.getWith disk path extra).result = .error f) :
    (if extra.isEmpty then tree else tree.fresh).Origin disk path (tree.names.overlay extra) f := by
  rw [getWith] at h
  split at h
  · rename_i hempty
    rw [if_pos hempty]
    exact origin_of_lookup h
  · rename_i hempty
    rw [if_neg hempty]
    exact origin_of_lookup h

/-- Without a text, what `raw` fails with is what becomes of `source` with nothing cached. -/
theorem source_of_raw_error (hyaml : tree.loader = .yaml)
    (h : (tree.raw disk path).result = .error f) :
    (tree.fresh.source disk path).result = .error f := by
  cases hrow : segments path tree.names with
  | error f' =>
      have hsource : (tree.fresh.source disk path).result = .error f' :=
        source_of_segments_error hrow
      rw [raw_of_segments_error hrow] at h
      exact hsource.trans h
  | ok row =>
      have hmeet : Site.Meet disk tree.names
          (Site.ownerFrom (tree.fresh.view disk tree.names) [] row)
          ((tree.site disk).rawFrom tree.base [] row).1 := by
        have hbase : Site.place (tree.site disk).base [] = .ok tree.base := rfl
        rw [fresh, view_new]
        exact Site.meet_rawFrom hyaml hbase
      exact (hmeet.answers (source_of_segments_ok hrow) (raw_of_segments_ok hrow)).2.2 f h

/-! ### What a failure tells -/

/-- The failure is about this file: that of a prefix of the path's row, after directories. -/
def Faulty (tree : Tree) (disk : Disk) (path : String) (ns : Namespace) (file : String)
    (f : Failure) : Prop :=
  ∃ before part rest f', segments path ns = .ok (before ++ part :: rest) ∧
    Site.Leads (tree.view disk ns) before ∧ (∀ s ∈ before ++ [part], Path.isPlainName s) ∧
      file = Path.fileAt tree.base (before ++ [part]) ∧ FileFault disk file ns f' ∧
        f = f'.withPath path

/-- What a failure says of where it comes from. -/
structure Tells (tree : Tree) (disk : Disk) (path : String) (ns : Namespace) (f : Failure) :
    Prop where
  /-- It has an origin. -/
  origin : tree.Origin disk path ns f
  /-- It names the path as it was asked for. -/
  named : f.path = some path
  /-- It is located just if it is about a file, and then in this file, at a line and a column if
  the reader of YAML knows them. -/
  located : ∀ location, f.location = some location ↔ ∃ file, tree.Faulty disk path ns file f ∧
    location = ⟨file, (disk.faultMark? file).map (·.line + 1),
      (disk.faultMark? file).map (·.column + 1)⟩
  /-- It is not located if it is about the path, or about a place, a key or a type. -/
  unlocated : segments path ns = .error f ∨ f.kind = .notFound ∨
    (∃ key, f.kind = .keyNotFound key) ∨ f.kind = .typeMismatch → f.location = none
  /-- A key that is missing is the first one after the owner that leads nowhere. -/
  key : ∀ key, f.kind = .keyNotFound key → ∃ row owner before after value,
    tree.owner disk path ns = .ok (row, owner) ∧ row.drop owner.taken = before ++ key :: after ∧
      owner.content.below? before = some value ∧ value.child? key = none

theorem Faulty.location {file : String} (h : tree.Faulty disk path ns file f) :
    f.location = some ⟨file, (disk.faultMark? file).map (·.line + 1),
      (disk.faultMark? file).map (·.column + 1)⟩ := by
  obtain ⟨before, part, rest, f', -, -, -, -, hfault, rfl⟩ := h
  exact hfault.location

theorem Faulty.kind {file : String} (h : tree.Faulty disk path ns file f) :
    f.kind = .invalidPath ∨ f.kind = .io ∨ f.kind = .parse ∨ f.kind = .interpolation := by
  obtain ⟨before, part, rest, f', -, -, -, -, hfault, rfl⟩ := h
  exact hfault.kind

/-- A failure about a file is not about something else. -/
theorem Faulty.not_unlocated {file : String} (h : tree.Faulty disk path ns file f) :
    ¬(segments path ns = .error f ∨ f.kind = .notFound ∨ (∃ key, f.kind = .keyNotFound key) ∨
      f.kind = .typeMismatch) := by
  rintro (hsegments | hother)
  · obtain ⟨before, part, rest, f', hrow, -⟩ := h
    rw [hrow] at hsegments
    cases hsegments
  · rcases h.kind with hkind | hkind | hkind | hkind <;> simp [hkind] at hother

/-- With files read as YAML, a failure of the loader is about the file. -/
theorem faulty_of_yaml (hyaml : tree.loader = .yaml) {before rest : List String} {part : String}
    (hrow : segments path ns = .ok (before ++ part :: rest))
    (hleads : Site.Leads (tree.view disk ns) before)
    (hplain : ∀ s ∈ before ++ [part], Path.isPlainName s)
    (h : tree.loader disk (Path.fileAt tree.base (before ++ [part])) ns = .error f) :
    tree.Faulty disk path ns (Path.fileAt tree.base (before ++ [part])) (f.orPath path) := by
  rw [hyaml] at h
  have hfault := fileFault_of_yaml h
  exact ⟨before, part, rest, f, hrow, hleads, hplain, rfl, hfault,
    Failure.orPath_eq_withPath hfault.path path⟩

namespace Origin

theorem path_eq (h : tree.Origin disk path ns f) (hyaml : tree.loader = .yaml) :
    f.path = some path := by
  cases h with
  | path hrow h => exact h.says.1
  | directories hrow hleads => rfl
  | nothing hrow hleads h => rfl
  | file hrow hleads hplain hhas h =>
      obtain ⟨-, -, -, f', -, -, -, -, -, hf⟩ := faulty_of_yaml hyaml hrow hleads hplain h
      rw [hf]
      rfl
  | key howner hrest hbefore h => exact h.path
  | type howner hvalue => rfl

theorem faulty_or_location (h : tree.Origin disk path ns f) (hyaml : tree.loader = .yaml) :
    (∃ file, tree.Faulty disk path ns file f) ∨ f.location = none := by
  cases h with
  | path hrow h => exact .inr h.says.2.1
  | directories hrow hleads => exact .inr rfl
  | nothing hrow hleads h => exact .inr rfl
  | file hrow hleads hplain hhas h => exact .inl ⟨_, faulty_of_yaml hyaml hrow hleads hplain h⟩
  | key howner hrest hbefore h => exact .inr h.location_and_cause.1
  | type howner hvalue => exact .inr rfl

theorem missing_key (h : tree.Origin disk path ns f) (hyaml : tree.loader = .yaml) {key : String}
    (hkey : f.kind = .keyNotFound key) : ∃ row owner before after value,
      tree.owner disk path ns = .ok (row, owner) ∧ row.drop owner.taken = before ++ key :: after ∧
        owner.content.below? before = some value ∧ value.child? key = none := by
  cases h with
  | path hrow h =>
      rcases h.says.2.2 with hkind | hkind
      · rw [hkey] at hkind
        cases hkind
      · rw [hkey] at hkind
        cases hkind
  | directories hrow hleads => cases hkey
  | nothing hrow hleads h => cases hkey
  | file hrow hleads hplain hhas h =>
      have hfaulty := faulty_of_yaml hyaml hrow hleads hplain h
      exact absurd (.inr (.inr (.inl ⟨key, hkey⟩))) hfaulty.not_unlocated
  | key howner hrest hbefore h =>
      rw [h.kind] at hkey
      cases hkey
      exact ⟨_, _, _, _, _, howner, hrest, hbefore, h.child⟩
  | type howner hvalue => cases hkey

/-- **With files read as YAML, a failure tells where it comes from.** -/
theorem tells (h : tree.Origin disk path ns f) (hyaml : tree.loader = .yaml) :
    tree.Tells disk path ns f := by
  refine ⟨h, h.path_eq hyaml, fun location => ⟨fun hlocation => ?_, ?_⟩, fun hother => ?_,
    fun key hkey => h.missing_key hyaml hkey⟩
  · rcases h.faulty_or_location hyaml with ⟨file, hfaulty⟩ | hnone
    · rw [hfaulty.location] at hlocation
      exact ⟨file, hfaulty, (Option.some.inj hlocation).symm⟩
    · rw [hnone] at hlocation
      cases hlocation
  · rintro ⟨file, hfaulty, rfl⟩
    exact hfaulty.location
  · rcases h.faulty_or_location hyaml with ⟨file, hfaulty⟩ | hnone
    · exact absurd hother hfaulty.not_unlocated
    · exact hnone

end Origin

/--
**Every failure tells where it comes from.**  Whatever is asked of a tree that reads YAML, with
whatever in its cache, a failure names the path as it was asked for.  If it is about a file that
the walk has come to, it is located in this file, and at the line and the column that the reader
of YAML has given, if it has.  If it is about the path, a place at which nothing stands, a key or a
type, it is not located.  A missing key is the first of the rest of the path that leads nowhere
in the owner.
-/
theorem failures_tell_origin (root : String) (topLevel : Option String) (names : Namespace)
    (cache : Cache) (disk : Disk) (path : String) :
    let tree : Tree := ⟨root, topLevel, names, .yaml, cache⟩
    (∀ question f, Question.path question = path → (tree.ask disk question).result = .error f →
      tree.Tells disk path names f) ∧
    (∀ extra f, (tree.getWith disk path extra).result = .error f →
      (if extra.isEmpty then tree else tree.fresh).Tells disk path (names.overlay extra) f) ∧
    (∀ f, (tree.raw disk path).result = .error f → tree.fresh.Tells disk path names f) := by
  intro tree
  refine ⟨?_, fun extra f h => ?_, fun f h => ?_⟩
  · rintro question f rfl h
    exact (origin_of_ask h).tells rfl
  · refine (origin_of_getWith h).tells ?_
    split
    · rfl
    · rfl
  · have hsource : (tree.fresh.ask disk (.source path)).result = .error f :=
      source_of_raw_error rfl h
    exact (origin_of_ask hsource).tells rfl

end Tree

end DottedConfig
