/-
The text of an owner, and the owner.

`raw` and `source` find the file that owns a path in two ways of their own.  `source`
goes by entries: each prefix names a place from the base down, and what stands there is
what `probe` says, through the loader where there is a file, or something else, to load.
`raw` goes down the directories and looks at what stands where it is; it knows of no
loader, and words the failures of one itself.

`Meet` says what the two can come to, and one step of both keeps it.  They come to the
same file or to the same failure, except that a file with a text that makes no value has
its text for `raw` and a failure for `source`.
-/
import DottedConfig.Proofs.Tree.Probe
import DottedConfig.Proofs.Tree.Question
import DottedConfig.Proofs.Value.Failures

namespace DottedConfig

namespace Site

variable {site : Site} {ns : Namespace}

/-- What the two walks along one row come to, when files are read as YAML. -/
inductive Meet (disk : Disk) (ns : Namespace) :
    Except Failure OwnerFile → Except Failure String → Prop where
  /-- At a file that holds a value. -/
  | read {owner : OwnerFile} {text : String} (h : disk owner.file = some (.text text)) :
      Meet disk ns (.ok owner) (.ok text)
  /-- At a file with a text that makes no value. -/
  | refused {file text : String} {f : Failure} (h : disk file = some (.text text))
      (hload : Loader.yaml disk file ns = .error f) : Meet disk ns (.error f) (.ok text)
  /-- At a failure, before any text was seen. -/
  | stopped {f : Failure} (h : f.path = none) : Meet disk ns (.error f) (.error f)

/-! ### One step -/

/-- With files read as YAML, what the disk says of a row is told by what stands at its place
and at the file there. -/
theorem probe_yaml (hyaml : site.loader = .yaml) {row : List String} {path : String}
    (h : place site.base row = .ok path) :
    (site.probe ns row).1 =
      match site.disk (Path.yaml path), site.disk.isDirectory path with
      | some (.text _), _ =>
        (Loader.yaml site.disk (Path.yaml path) ns).map (.file (Path.yaml path))
      | some (.unreadable refusal), _ =>
        .error (.io (Path.yaml path) (.unreadable refusal))
      | _, true => .ok (.directory path)
      | some .directory, false => .error (.notAFile (Path.yaml path))
      | none, false => .error (nothingAt path) := by
  rw [probe_of_place h, hyaml]
  cases hfile : site.disk (Path.yaml path) with
  | none =>
      have hhas : site.disk.has (Path.yaml path) = false := by rw [Disk.has, hfile]; rfl
      have hisFile : site.disk.isFile (Path.yaml path) = false := by rw [Disk.isFile, hfile]
      cases site.disk.isDirectory path <;> simp [hisFile, hhas]
  | some entry =>
      have hhas : site.disk.has (Path.yaml path) = true := by rw [Disk.has, hfile]; rfl
      cases entry with
      | text s => simp [Disk.isFile, hfile]
      | unreadable refusal => simp [Disk.isFile, hfile, Loader.yaml, Except.map]
      | directory =>
          have hisFile : site.disk.isFile (Path.yaml path) = false := by rw [Disk.isFile, hfile]
          cases site.disk.isDirectory path <;>
            simp [hisFile, hhas, hfile, Loader.yaml, Except.map]

/-- **One step of both walks.**  Where they go on, they go on to the same place. -/
theorem meet_step (hyaml : site.loader = .yaml) {before rest : List String}
    {part directory : String} (h : place site.base before = .ok directory)
    (hrest : ∀ path, place site.base (before ++ [part]) = .ok path →
      Meet site.disk ns (ownerFrom (fun row => (site.probe ns row).1) (before ++ [part]) rest)
        (site.rawFrom path (before ++ [part]) rest).1) :
    Meet site.disk ns (ownerFrom (fun row => (site.probe ns row).1) before (part :: rest))
      (site.rawFrom directory before (part :: rest)).1 := by
  have hplace := place_append_singleton h part
  rw [rawFrom]
  by_cases hplain : Path.isPlainName part
  · rw [if_pos hplain] at hplace
    have hprobe : (site.probe ns (before ++ [part])).1 = _ := probe_yaml hyaml hplace
    have hrest := hrest _ hplace
    simp only [hplain, Bool.not_true, Bool.false_eq_true, if_false]
    generalize Path.join directory part = path at *
    cases hfile : site.disk (Path.yaml path) with
    | none =>
        cases hdir : site.disk.isDirectory path with
        | false =>
            rw [hfile, hdir] at hprobe
            rw [ownerFrom_of_error hprobe]
            exact .stopped rfl
        | true =>
            rw [hfile, hdir] at hprobe
            rw [ownerFrom_of_directory hprobe]
            exact hrest
    | some entry =>
        cases entry with
        | text text =>
            rw [hfile] at hprobe
            cases hload : Loader.yaml site.disk (Path.yaml path) ns with
            | error f =>
                rw [hload] at hprobe
                rw [ownerFrom_of_error hprobe]
                exact .refused hfile hload
            | ok content =>
                rw [hload] at hprobe
                rw [ownerFrom_of_file hprobe]
                exact .read hfile
        | unreadable refusal =>
            rw [hfile] at hprobe
            rw [ownerFrom_of_error hprobe]
            exact .stopped rfl
        | directory =>
            cases hdir : site.disk.isDirectory path with
            | false =>
                rw [hfile, hdir] at hprobe
                rw [ownerFrom_of_error hprobe]
                exact .stopped rfl
            | true =>
                -- A directory of the file's name does not stand in the way of the place itself.
                rw [hfile, hdir] at hprobe
                rw [ownerFrom_of_directory hprobe]
                exact hrest
  · rw [if_neg hplain] at hplace
    rw [ownerFrom_of_error (probe_of_place_error hplace)]
    simp only [hplain]
    exact .stopped rfl

/-- **The two walks meet.** -/
theorem meet_rawFrom (hyaml : site.loader = .yaml) {rest before : List String}
    {directory : String} (h : place site.base before = .ok directory) :
    Meet site.disk ns (ownerFrom (fun row => (site.probe ns row).1) before rest)
      (site.rawFrom directory before rest).1 := by
  induction rest generalizing before directory with
  | nil => exact .stopped rfl
  | cons part rest ih => exact meet_step hyaml h fun path hpath => ih hpath

/-! ### What comes of it -/

/-- What the walks come to, as `source` and `raw` put it for the path that was asked for. -/
theorem Meet.answers {disk : Disk} {found : Except Failure OwnerFile}
    {seen source raw : Except Failure String} (h : Meet disk ns found seen) {path : String}
    (hsource : source = (found.mapError (·.orPath path)).map OwnerFile.file)
    (hraw : raw = seen.mapError (·.withPath path)) :
    (∀ file, source = .ok file → ∃ text, disk file = some (.text text) ∧ raw = .ok text) ∧
      (∀ text, raw = .ok text →
        (∃ file, source = .ok file ∧ disk file = some (.text text)) ∨
        ∃ file f, disk file = some (.text text) ∧ Loader.yaml disk file ns = .error f ∧
          (f.kind = .parse ∨ f.kind = .interpolation) ∧ source = .error (f.withPath path)) ∧
      ∀ f, raw = .error f → source = .error f := by
  subst hsource hraw
  cases h with
  | read h =>
      refine ⟨fun file hsource => ?_, fun text hraw => .inl ?_, fun f hraw => ?_⟩
      · cases hsource
        exact ⟨_, h, rfl⟩
      · cases hraw
        exact ⟨_, rfl, h⟩
      · cases hraw
  | refused h hload =>
      have hcontent := Loader.sound_yaml h ns _ hload
      refine ⟨fun file hsource => ?_, fun text hraw => .inr ?_, fun f hraw => ?_⟩
      · cases hsource
      · cases hraw
        exact ⟨_, _, h, hload, hcontent.kind,
          congrArg Except.error (Failure.orPath_eq_withPath hcontent.path path)⟩
      · cases hraw
  | stopped h =>
      refine ⟨fun file hsource => ?_, fun text hraw => ?_, fun f hraw => ?_⟩
      · cases hsource
      · cases hraw
      · cases hraw
        exact congrArg Except.error (Failure.orPath_eq_withPath h path)

end Site

namespace Tree

theorem raw_of_segments_ok {tree : Tree} {disk : Disk} {path : String} {row : List String}
    (h : segments path tree.names = .ok row) :
    (tree.raw disk path).result =
      ((tree.site disk).rawFrom tree.base [] row).1.mapError (·.withPath path) := by
  rw [raw, h]

theorem raw_of_segments_error {tree : Tree} {disk : Disk} {path : String} {f : Failure}
    (h : segments path tree.names = .error f) : (tree.raw disk path).result = .error f := by
  rw [raw, h]

theorem view_new (root : String) (topLevel : Option String) (names : Namespace) (loader : Loader)
    (disk : Disk) (ns : Namespace) :
    (new root topLevel names loader).view disk ns =
      fun row => (((new root topLevel names loader).site disk).probe ns row).1 := by
  funext row
  exact Site.view_empty _ ns row

/--
**`raw` and `source` agree.**  The text is that of the file that owns the path, whenever
there is one.  A text without an owner is one that makes no value, and what `source` fails
with is why.  Without a text they fail alike.
-/
theorem raw_agrees_source (root : String) (topLevel : Option String) (names : Namespace)
    (disk : Disk) (path : String) :
    let tree := Tree.new root topLevel names .yaml
    let source := (tree.source disk path).result
    let raw := (tree.raw disk path).result
    (∀ file, source = .ok file → ∃ text, disk file = some (.text text) ∧ raw = .ok text) ∧
      (∀ text, raw = .ok text →
        (∃ file, source = .ok file ∧ disk file = some (.text text)) ∨
        ∃ file f, disk file = some (.text text) ∧ Loader.yaml disk file names = .error f ∧
          (f.kind = .parse ∨ f.kind = .interpolation) ∧ source = .error (f.withPath path)) ∧
      ∀ f, raw = .error f → source = .error f := by
  intro tree source raw
  cases hrow : segments path tree.names with
  | error fault =>
      have hsource : source = .error fault := source_of_segments_error hrow
      have hraw : raw = .error fault := raw_of_segments_error hrow
      rw [hsource, hraw]
      refine ⟨fun file h => ?_, fun text h => ?_, fun f h => h⟩
      · cases h
      · cases h
  | ok row =>
      have hmeet : Site.Meet disk names (Site.ownerFrom (tree.view disk names) [] row)
          ((tree.site disk).rawFrom tree.base [] row).1 := by
        rw [view_new]
        exact Site.meet_rawFrom rfl (show Site.place (tree.site disk).base [] = _ from rfl)
      exact hmeet.answers (source_of_segments_ok hrow) (raw_of_segments_ok hrow)

end Tree

end DottedConfig
