/-
Which file owns a row of segments.

A walk that starts with nothing cached passes a segment if it is a plain name, a directory
stands at its place and no regular file beside it.  It goes on until it meets the first segment
that is not like that, and what is there decides.  The file of the segment is loaded if anything
stands where it should be, whatever stands at the place itself; otherwise nothing is there, and
that is also what becomes of a segment that is no plain name, without a look at the disk.  If
every segment is passed, the row is one of directories, and those own nothing.

`StopsAt` says of a row where this is.  So much holds with any loader.  One that reads YAML
makes content of regular files only, so there the owner is the file of the first segment that is
not passed, or the row has no owner.
-/
import DottedConfig.Proofs.Tree.Probe
import DottedConfig.Proofs.Tree.Question

namespace DottedConfig

open DottedConfig.Tree (IsRow IsSegment)

/-! ### Where a walk comes to -/

namespace Disk

/-- A walk goes on past the segment `part` that comes after `before`. -/
structure Passes (disk : Disk) (base : String) (before : List String) (part : String) :
    Prop where
  plain : Path.isPlainName part
  noFile : ¬disk.isFile (Path.fileAt base (before ++ [part]))
  directory : disk.isDirectory (Path.joinAll base (before ++ [part]))

/-- A walk goes on past every segment of a row. -/
def PassesAll (disk : Disk) (base : String) (row : List String) : Prop :=
  ∀ before part, before ++ [part] <+: row → disk.Passes base before part

/-- The first segment of a row that a walk does not go past is `part`, after `before`. -/
structure StopsAt (disk : Disk) (base : String) (row before : List String) (part : String) :
    Prop where
  begins : before ++ [part] <+: row
  passed : disk.PassesAll base before
  stuck : ¬disk.Passes base before part

variable {disk : Disk} {base : String} {row before : List String} {part : String}

theorem passesAll_nil : disk.PassesAll base [] := by
  intro before part hbegins
  exact absurd (List.prefix_nil.mp hbegins) (by simp)

theorem PassesAll.append_singleton (h : disk.PassesAll base before)
    (hpart : disk.Passes base before part) : disk.PassesAll base (before ++ [part]) := by
  intro before' part' hbegins
  rcases List.prefix_concat_iff.mp hbegins with heq | hbegins
  · obtain ⟨rfl, rfl⟩ := List.append_singleton_inj.mp heq
    exact hpart
  · exact h before' part' hbegins

theorem PassesAll.plain (h : disk.PassesAll base row) : ∀ s ∈ row, Path.isPlainName s := by
  intro s hs
  obtain ⟨before, after, rfl⟩ := List.append_of_mem hs
  exact (h before s ⟨after, by simp⟩).plain

/-- A walk goes past all of a row, or there is a first segment at which it stops. -/
theorem passesAll_or_stopsAt (h : disk.PassesAll base before) (rest : List String) :
    disk.PassesAll base (before ++ rest) ∨
      ∃ before' part, disk.StopsAt base (before ++ rest) before' part := by
  -- Segments move from the rest to what is passed until one does not.
  induction rest generalizing before with
  | nil => exact .inl (by rwa [List.append_nil])
  | cons part rest ih =>
      have hsplit : before ++ part :: rest = (before ++ [part]) ++ rest := by simp
      rw [hsplit]
      by_cases hpart : disk.Passes base before part
      · exact ih (h.append_singleton hpart)
      · exact .inr ⟨before, part, List.prefix_append _ rest, h, hpart⟩

end Disk

/-! ### What stands beside a place -/

theorem Disk.has_of_isFile {disk : Disk} {path : String} (h : disk.isFile path) :
    disk.has path := by
  rw [Disk.isFile] at h
  rw [Disk.has]
  split at h
  · rename_i hpath
    rw [hpath]
    rfl
  · rename_i hpath
    rw [hpath]
    rfl
  · cases h

theorem Loader.isFile_of_yaml {disk : Disk} {file : String} {ns : Namespace} {content : Value}
    (h : yaml disk file ns = .ok content) : disk.isFile file := by
  rw [yaml] at h
  rw [Disk.isFile]
  split at h
  · rename_i hfile
    rw [hfile]
  · rename_i hfile
    rw [hfile]
  · cases h
  · cases h

theorem Loader.yaml_of_not_isFile {disk : Disk} {file : String} (h : ¬disk.isFile file)
    (ns : Namespace) : yaml disk file ns = .error (.notAFile file) := by
  rw [Disk.isFile] at h
  rw [yaml]
  split
  · rename_i hfile
    exact absurd (by rw [hfile]) h
  · rename_i hfile
    exact absurd (by rw [hfile]) h
  · rfl
  · rfl

/-! ### What a walk with nothing cached comes to -/

namespace Site

variable {site : Site} {ns : Namespace} {row before : List String} {part : String}

/-- Past such segments the walk is told of directories. -/
theorem leads_of_passesAll (h : site.disk.PassesAll site.base row) :
    Leads (site.view ns .empty) row := by
  intro above hne hbegins
  obtain ⟨before, part, rfl⟩ : ∃ before part, above = before ++ [part] :=
    ⟨_, _, (List.dropLast_concat_getLast hne).symm⟩
  obtain ⟨-, hfile, hdirectory⟩ := h before part hbegins
  have hplain : ∀ s ∈ before ++ [part], Path.isPlainName s := fun s hs =>
    h.plain s (hbegins.subset hs)
  have hfile : site.disk.isFile (Path.yaml (Path.joinAll site.base (before ++ [part]))) = false :=
    Bool.eq_false_iff.mpr hfile
  refine ⟨Path.joinAll site.base (before ++ [part]), ?_⟩
  rw [view_empty, probe_of_place (place_of_plain hplain site.base)]
  simp [hfile, hdirectory]

/-- What the disk says of the first segment that is not passed: its file is loaded if anything
stands there. -/
theorem probe_of_stopsAt (h : site.disk.StopsAt site.base row before part) :
    (site.probe ns (before ++ [part])).1 =
      if Path.isPlainName part ∧ site.disk.has (Path.fileAt site.base (before ++ [part])) then
        (site.loader site.disk (Path.fileAt site.base (before ++ [part])) ns).map
          (.file (Path.fileAt site.base (before ++ [part])))
      else .error (nothingAt (Path.join (Path.joinAll site.base before) part)) := by
  have hplace := place_append_singleton (place_of_plain h.passed.plain site.base) part
  by_cases hplain : Path.isPlainName part
  · rw [if_pos hplain, ← Path.joinAll_append_singleton] at hplace
    rw [probe_of_place hplace, ← Path.joinAll_append_singleton, Path.fileAt]
    -- Without a regular file there is no directory either, or the segment would be passed.
    have hstuck : site.disk.isFile (Path.yaml (Path.joinAll site.base (before ++ [part]))) = false →
        site.disk.isDirectory (Path.joinAll site.base (before ++ [part])) = false := fun hfile =>
      Bool.eq_false_iff.mpr fun hdirectory =>
        h.stuck ⟨hplain, Bool.eq_false_iff.mp hfile, hdirectory⟩
    cases hfile : site.disk.isFile (Path.yaml (Path.joinAll site.base (before ++ [part]))) with
    | true => simp [hplain, Disk.has_of_isFile hfile]
    | false =>
        rw [hstuck hfile]
        simp [hplain]
  · rw [if_neg hplain] at hplace
    rw [probe_of_place_error hplace, if_neg fun hc => hplain hc.1]

/-- A walk that goes past everything ends with nothing but directories. -/
theorem ownerFrom_of_passesAll (h : site.disk.PassesAll site.base row) :
    ownerFrom (site.view ns .empty) [] row = .error (onlyDirectories row) := by
  have hend : ownerFrom (site.view ns .empty) [] (row ++ []) = _ :=
    ownerFrom_of_leads (leads_of_passesAll h)
  rwa [List.append_nil] at hend

/-- **Where a walk stops, the file of the segment is loaded, or there is nothing.** -/
theorem ownerFrom_of_stopsAt (h : site.disk.StopsAt site.base row before part) :
    ownerFrom (site.view ns .empty) [] row =
      if Path.isPlainName part ∧ site.disk.has (Path.fileAt site.base (before ++ [part])) then
        (site.loader site.disk (Path.fileAt site.base (before ++ [part])) ns).map
          (⟨before.length + 1, Path.fileAt site.base (before ++ [part]), ·⟩)
      else .error (nothingAt (Path.join (Path.joinAll site.base before) part)) := by
  obtain ⟨rest, rfl⟩ := h.begins
  have hprobe : (site.probe ns (before ++ [part])).1 = _ := probe_of_stopsAt h
  rw [← view_empty] at hprobe
  rw [List.append_assoc, List.singleton_append, ownerFrom_of_leads (leads_of_passesAll h.passed)]
  split at hprobe
  · rename_i hhas
    rw [if_pos hhas]
    cases hload : site.loader site.disk (Path.fileAt site.base (before ++ [part])) ns with
    | error f =>
        rw [hload] at hprobe
        exact ownerFrom_of_error hprobe
    | ok content =>
        rw [hload] at hprobe
        exact ownerFrom_of_file hprobe
  · rename_i hhas
    rw [if_neg hhas]
    exact ownerFrom_of_error hprobe

/-- An owner that is found with nothing cached has just been loaded. -/
theorem loaded_of_ownerFrom {owner : OwnerFile}
    (h : ownerFrom (site.view ns .empty) [] row = .ok owner) :
    site.loader site.disk owner.file ns = .ok owner.content := by
  have hnil : site.disk.PassesAll site.base [] := Disk.passesAll_nil
  rcases Disk.passesAll_or_stopsAt hnil row with hpassed | ⟨before, part, hstops⟩
  · rw [List.nil_append] at hpassed
    rw [ownerFrom_of_passesAll hpassed] at h
    cases h
  · rw [List.nil_append] at hstops
    rw [ownerFrom_of_stopsAt hstops] at h
    split at h
    · obtain ⟨content, hload, rfl⟩ := eq_ok_of_map h
      exact hload
    · cases h

end Site

namespace Tree

variable {root : String} {topLevel : Option String} {names ns : Namespace} {disk : Disk}

/--
**The first segment that is not passed decides who owns a row.**  In a new tree that reads
YAML, a row of segments is owned by the file of this segment if it is a plain name and its file is
a regular one that can be read, whatever else stands there or deeper.  If the file cannot be
read, that is the failure.  So it is if something else stands in the file's place, and if there
is nothing to be found at the segment.  A row that is passed altogether is one of directories.
-/
theorem locate_of_stopsAt (root : String) (topLevel : Option String) (names ns : Namespace)
    (disk : Disk) (row : List String) (hrow : IsRow row) :
    let tree := Tree.new root topLevel names .yaml
    let found := ((tree.site disk).locate ns row tree.cache).result
    let fileOf := fun (before : List String) (part : String) =>
      Path.fileAt tree.base (before ++ [part])
    (disk.PassesAll tree.base row ∨ ∃ before part, disk.StopsAt tree.base row before part) ∧
      (∀ taken, found = .ok taken ↔ ∃ before part content,
        disk.StopsAt tree.base row before part ∧ taken = before.length + 1 ∧
          Path.isPlainName part ∧ disk.isFile (fileOf before part) ∧
            Loader.yaml disk (fileOf before part) ns = .ok content) ∧
      (∀ before part, disk.StopsAt tree.base row before part →
        (Path.isPlainName part → disk.isFile (fileOf before part) →
          found = (Loader.yaml disk (fileOf before part) ns).map fun _ => before.length + 1) ∧
        (Path.isPlainName part → ¬disk.isFile (fileOf before part) →
          disk.has (fileOf before part) →
            ¬disk.isDirectory (Path.joinAll tree.base (before ++ [part])) ∧
              found = .error (.notAFile (fileOf before part))) ∧
        (¬(Path.isPlainName part ∧ disk.has (fileOf before part)) →
          found =
            .error (Site.nothingAt (Path.join (Path.joinAll tree.base before) part)))) ∧
      (disk.PassesAll tree.base row → found = .error (Site.onlyDirectories row)) := by
  intro tree found fileOf
  have hfound : found = (Site.ownerFrom ((tree.site disk).view ns .empty) [] row).map
      Site.OwnerFile.taken :=
    Site.locateFrom_result hrow.segments
  have hwhere : disk.PassesAll tree.base row ∨
      ∃ before part, disk.StopsAt tree.base row before part := by
    have hnil : disk.PassesAll tree.base [] := Disk.passesAll_nil
    exact Disk.passesAll_or_stopsAt hnil row
  have hpassed : disk.PassesAll tree.base row → found = .error (Site.onlyDirectories row) := by
    intro h
    rw [hfound, Site.ownerFrom_of_passesAll h]
    rfl
  have hstopped : ∀ before part, disk.StopsAt tree.base row before part → found =
      if Path.isPlainName part ∧ disk.has (fileOf before part) then
        (Loader.yaml disk (fileOf before part) ns).map fun _ => before.length + 1
      else .error (Site.nothingAt (Path.join (Path.joinAll tree.base before) part)) := by
    intro before part h
    have hend : Site.ownerFrom ((tree.site disk).view ns .empty) [] row = _ :=
      Site.ownerFrom_of_stopsAt h
    rw [hfound, hend]
    show Except.map _ (if Path.isPlainName part ∧ disk.has (fileOf before part) then
      (Loader.yaml disk (fileOf before part) ns).map _ else _) = _
    split
    · cases Loader.yaml disk (fileOf before part) ns <;> rfl
    · rfl
  refine ⟨hwhere, fun taken => ⟨fun h => ?_, ?_⟩, fun before part h => ⟨?_, ?_, ?_⟩, hpassed⟩
  · rcases hwhere with hall | ⟨before, part, hstops⟩
    · rw [hpassed hall] at h
      cases h
    · rw [hstopped before part hstops] at h
      split at h
      · rename_i hhas
        obtain ⟨content, hload, rfl⟩ := eq_ok_of_map h
        exact ⟨before, part, content, hstops, rfl, hhas.1, Loader.isFile_of_yaml hload, hload⟩
      · cases h
  · rintro ⟨before, part, content, hstops, rfl, hplain, hfile, hload⟩
    rw [hstopped before part hstops, if_pos ⟨hplain, Disk.has_of_isFile hfile⟩, hload]
    rfl
  · intro hplain hfile
    rw [hstopped before part h, if_pos ⟨hplain, Disk.has_of_isFile hfile⟩]
  · intro hplain hfile hhas
    refine ⟨fun hdirectory => h.stuck ⟨hplain, hfile, hdirectory⟩, ?_⟩
    rw [hstopped before part h, if_pos ⟨hplain, hhas⟩, Loader.yaml_of_not_isFile hfile]
    rfl
  · intro hnone
    rw [hstopped before part h, if_neg hnone]

/-- A directory with the name of a file does not stop a walk, and a file stops it in front of a
directory of its name and of what is in that. -/
theorem locate_of_stopsAt_beside_directory :
    let disk : Disk := fun place =>
      if place = "cfg/en" ∨ place = "cfg/en.yaml" ∨ place = "cfg/en/greet" then some .directory
      else if place = "cfg/en/greet.yaml" then some (.text "hello\n")
      else if place = "cfg/en/greet/world.yaml" then some (.text "bye\n") else none
    let tree := Tree.new "cfg" none ∅ .yaml
    let row := ["en", "greet", "world"]
    IsRow row ∧ disk.StopsAt tree.base row ["en"] "greet" ∧
      ((tree.site disk).locate ∅ row tree.cache).result = .ok 2 := by
  intro disk tree row
  have hrow : IsRow row := by decide
  have hen : disk.Passes tree.base [] "en" := ⟨by decide, by decide +kernel, by decide +kernel⟩
  have hfile : disk.isFile (Path.fileAt tree.base ["en", "greet"]) := by decide +kernel
  have hstops : disk.StopsAt tree.base row ["en"] "greet" :=
    ⟨by decide, Disk.passesAll_nil.append_singleton hen, fun hpassed => hpassed.noFile hfile⟩
  obtain ⟨content, hload⟩ : ∃ content,
      (Loader.yaml disk (Path.fileAt tree.base ["en", "greet"]) ∅).toOption = some content :=
    Option.isSome_iff_exists.mp (by decide +kernel)
  obtain ⟨-, howned, -, -⟩ := locate_of_stopsAt "cfg" none ∅ ∅ disk row hrow
  refine ⟨hrow, hstops, (howned 2).mpr ?_⟩
  exact ⟨["en"], "greet", content, hstops, rfl, by decide, hfile, eq_ok_of_toOption hload⟩

end Tree

end DottedConfig
