/-
Which places a call of `loadPrefix` looks at.

The row of a call is not cut out of a path, so that it can hold anything: empty texts, `..`,
slashes, or no segment at all.  A segment that is no plain name ends the call before the disk is
asked.  Plain names only lead down, and the file of a row that ends in one lies in the directory
that the row before it names.  So the call stays below the root, empty texts or not.

The row without segments is the exception.  It names the root itself, and the file of the root
stands beside it: the text that ends the file is put after the root's own name.  Only where the
root is written with a slash at its end, or as the empty text, is this a file in it.  All of that
is about texts, as a disk is: which of them lead to the same place is not told here.
-/
import DottedConfig.Proofs.Tree.Confinement
import DottedConfig.Proofs.Value.Descent

namespace DottedConfig

/-! ### Places in a directory -/

namespace Path

/-- A path that leads from a directory down over plain names, or nowhere.  Unlike for paths
`Below` a directory, names may be empty. -/
def Within (directory path : String) : Prop :=
  ∃ names, (∀ s ∈ names, isPlainName s) ∧ path = joinAll directory names

theorem prefix_opened (directory : String) : directory.toList <+: (opened directory).toList := by
  rw [opened]
  split
  · exact List.prefix_refl _
  · rw [String.toList_append]
    exact List.prefix_append _ _

theorem prefix_join {name : String} (h : isPlainName name) (directory : String) :
    (opened directory).toList <+: (join directory name).toList := by
  rw [join_eq (isPlainName_iff.mp h).2.2.1, String.toList_append]
  exact List.prefix_append _ _

theorem prefix_joinAll {names : List String} (h : ∀ s ∈ names, isPlainName s)
    (directory : String) : directory.toList <+: (joinAll directory names).toList := by
  induction names generalizing directory with
  | nil => exact List.prefix_refl _
  | cons s rest ih =>
      obtain ⟨hs, hrest⟩ := List.forall_mem_cons.mp h
      exact (prefix_opened directory).trans ((prefix_join hs directory).trans (ih hrest _))

/-- What is within a directory is the directory, or goes on after its slash. -/
theorem prefix_of_within {directory path : String} (h : Within directory path) :
    path = directory ∨ (opened directory).toList <+: path.toList := by
  obtain ⟨names, hnames, rfl⟩ := h
  cases names with
  | nil => exact .inl rfl
  | cons s rest =>
      obtain ⟨hs, hrest⟩ := List.forall_mem_cons.mp hnames
      exact .inr ((prefix_join hs directory).trans (prefix_joinAll hrest (join directory s)))

/-- The file of a row that ends in a plain name is within the directory. -/
theorem within_fileAt {directory : String} {row : List String} (hne : row ≠ [])
    (h : ∀ s ∈ row, isPlainName s) : Within directory (fileAt directory row) := by
  obtain ⟨before, name, rfl⟩ : ∃ before name, row = before ++ [name] :=
    ⟨_, _, (List.dropLast_concat_getLast hne).symm⟩
  obtain ⟨hbefore, hname⟩ := List.forall_mem_append.mp h
  rw [List.forall_mem_singleton] at hname
  exact ⟨before ++ [yaml name], List.forall_mem_append.mpr
    ⟨hbefore, List.forall_mem_singleton.mpr (isPlainName_yaml hname)⟩,
    yaml_joinAll_append _ _ hname⟩

/-- The file of the directory itself is within it only if it needs no slash to go on. -/
theorem within_yaml_iff {directory : String} :
    Within directory (yaml directory) ↔ opened directory = directory := by
  constructor
  · intro h
    have hne : yaml directory ≠ directory := by
      intro heq
      have hlength := congrArg String.length heq
      rw [yaml, String.length_append] at hlength
      exact absurd hlength (Nat.ne_of_gt (Nat.lt_add_of_pos_right (by decide)))
    have hprefix := (prefix_of_within h).resolve_left hne
    rw [opened] at hprefix ⊢
    split at hprefix
    · rename_i hopen
      rw [if_pos hopen]
    · rw [yaml, String.toList_append, String.toList_append, List.prefix_append_right_inj] at hprefix
      exact absurd hprefix (by decide)
  · intro h
    refine ⟨[".yaml"], List.forall_mem_singleton.mpr (by decide), ?_⟩
    show yaml directory = join directory ".yaml"
    rw [join_eq (by decide), h, yaml]

end Path

/-- Two disks hold the same within a directory. -/
def Disk.AgreeWithin (directory : String) (disk disk' : Disk) : Prop :=
  ∀ path, Path.Within directory path → disk path = disk' path

/-! ### Places that are asked about -/

namespace Site

/-- The places that looking for a row asks the disk about. -/
def asked (directory : String) (row : List String) : List String :=
  match place directory row with
  | .ok path => [path, Path.yaml path]
  | .error _ => []

/-- They are the place that the row names and the file there. -/
theorem asked_cases {directory place : String} {row : List String}
    (h : place ∈ asked directory row) : (∀ s ∈ row, Path.isPlainName s) ∧
      (place = Path.joinAll directory row ∨ place = Path.fileAt directory row) := by
  rw [asked] at h
  split at h
  · rename_i path hplace
    obtain ⟨rfl, hplain⟩ := place_eq_ok hplace
    refine ⟨hplain, ?_⟩
    rcases List.mem_cons.mp h with hpath | hfile
    · exact .inl hpath
    · exact .inr (List.mem_singleton.mp hfile)
  · exact absurd h List.not_mem_nil

theorem mem_asked_of_place {directory path : String} {row : List String}
    (h : place directory row = .ok path) :
    path ∈ asked directory row ∧ Path.yaml path ∈ asked directory row := by
  rw [asked, h]
  exact ⟨List.mem_cons_self, List.mem_cons_of_mem _ List.mem_cons_self⟩

variable {base : String} {disk disk' : Disk} {ns : Namespace} {row : List String}

/-- Nothing else on the disk makes a difference. -/
theorem probe_congr_asked (h : ∀ place ∈ asked base row, disk place = disk' place) :
    probe ⟨base, .yaml, disk⟩ ns row = probe ⟨base, .yaml, disk'⟩ ns row :=
  probe_congr fun _ hplace =>
    ⟨h _ (mem_asked_of_place hplace).1, h _ (mem_asked_of_place hplace).2⟩

/-- Every place that is asked about is within the base if the file of the row is. -/
theorem within_of_asked (h : row = [] → Path.opened base = base) :
    ∀ place ∈ asked base row, Path.Within base place := by
  intro place hplace
  obtain ⟨hplain, rfl | rfl⟩ := asked_cases hplace
  · exact ⟨row, hplain, rfl⟩
  · by_cases hne : row = []
    · rw [hne]
      exact Path.within_yaml_iff.mpr (h hne)
    · exact Path.within_fileAt hne hplain

/-- Only a place that is asked about is loaded. -/
theorem loads_probe_asked {loader : Loader} :
    ∀ file ∈ Note.loads (probe ⟨base, loader, disk⟩ ns row).2, file ∈ asked base row := by
  intro file hfile
  have hmem : (∀ s ∈ row, Path.isPlainName s) → Path.fileAt base row ∈ asked base row :=
    fun hplain => (mem_asked_of_place (place_of_plain hplain base)).2
  generalize hprobe : probe ⟨base, loader, disk⟩ ns row = probed at hfile
  have hprobed := probed_probe ⟨base, loader, disk⟩ ns row
  rw [hprobe] at hprobed
  cases hprobed with
  | directory _ hloads => simp [hloads] at hfile
  | made hplain _ hloads =>
      rw [hloads, List.mem_singleton] at hfile
      rw [hfile]
      exact hmem hplain
  | refused hplain _ hloads =>
      rw [hloads, List.mem_singleton] at hfile
      rw [hfile]
      exact hmem hplain
  | nothing hloads => simp [hloads] at hfile

end Site

/-! ### Calls -/

namespace Tree

variable {tree : Tree} {disk disk' : Disk} {parts : List String} {ns : Namespace}

/-- On an empty cache, the disk answers. -/
theorem loadPrefix_of_empty (h : tree.cache = .empty) (disk : Disk) (parts : List String)
    (ns : Namespace) :
    (tree.loadPrefix disk parts ns).result =
        ((tree.site disk).probe ns parts).1.map Cache.Entry.content? ∧
      (tree.loadPrefix disk parts ns).notes = ((tree.site disk).probe ns parts).2 := by
  have hmissing : tree.cache.get? (Text.joinDots parts) = none := by
    rw [h]
    rfl
  rw [loadPrefix, answer]
  rcases hprobe : (tree.site disk).probe ns parts with ⟨f | entry, notes⟩
  · rw [Site.entry_of_missing_error hmissing hprobe]
    exact ⟨rfl, rfl⟩
  · rw [Site.entry_of_missing_ok hmissing hprobe]
    exact ⟨rfl, List.append_nil notes⟩

theorem loadPrefix_congr_asked (hyaml : tree.loader = .yaml)
    (h : ∀ place ∈ Site.asked tree.base parts, disk place = disk' place) (ns : Namespace) :
    tree.loadPrefix disk parts ns = tree.loadPrefix disk' parts ns := by
  rw [loadPrefix, loadPrefix, site, site, hyaml, Site.entry_congr (Site.probe_congr_asked h)]

/-- The disk with nothing but a file beside the root, and no text in it. -/
def besideRoot (tree : Tree) : Disk := fun place =>
  if place = Path.yaml tree.base then some (.unreadable .notText) else none

/-- The row without segments loads the file beside the root. -/
theorem loadPrefix_nil_besideRoot (hempty : tree.cache = .empty) (hyaml : tree.loader = .yaml)
    (ns : Namespace) :
    (tree.loadPrefix tree.besideRoot [] ns).result =
        .error (.io (Path.yaml tree.base) (.unreadable .notText)) ∧
      Note.loads (tree.loadPrefix tree.besideRoot [] ns).notes = [Path.yaml tree.base] := by
  have hbeside : tree.besideRoot (Path.yaml tree.base) = some (.unreadable .notText) := if_pos rfl
  have hfile : tree.besideRoot.isFile (Path.yaml tree.base) = true := by
    rw [Disk.isFile, hbeside]
  have hload : tree.loader tree.besideRoot (Path.yaml tree.base) ns =
      .error (.io (Path.yaml tree.base) (.unreadable .notText)) := by
    rw [hyaml, Loader.yaml, hbeside]
  have hprobe : (tree.site tree.besideRoot).probe ns [] =
      (.error (.io (Path.yaml tree.base) (.unreadable .notText)),
        [.load (Path.yaml tree.base)]) := by
    simp only [Site.probe, Site.place, site, hfile, hload, Bool.true_or, if_true]
  obtain ⟨hresult, hnotes⟩ := loadPrefix_of_empty hempty tree.besideRoot [] ns
  rw [hresult, hnotes, hprobe]
  exact ⟨rfl, rfl⟩

/-- And without that file finds nothing. -/
theorem loadPrefix_nil_of_nothing (hempty : tree.cache = .empty) (ns : Namespace) :
    (tree.loadPrefix (fun _ => none) [] ns).result = .error (Site.nothingAt tree.base) := by
  rw [(loadPrefix_of_empty hempty _ [] ns).1]
  rfl

/-- Within the root, the two disks are the same, unless the file is in it. -/
theorem agreeWithin_besideRoot (h : Path.opened tree.base ≠ tree.base) :
    Disk.AgreeWithin tree.base tree.besideRoot fun _ => none := by
  intro path hpath
  refine if_neg fun heq => h ?_
  rw [heq] at hpath
  exact Path.within_yaml_iff.mp hpath

/--
**Where a call of `loadPrefix` looks.**  On an empty cache, the answer is settled by what stands
at the places that are asked about.  These are within the root, and so is every file that is
loaded, and disks that hold the same within the root give the same result and leave the same
cache, in each case for every row but the one without segments; and for that one exactly if the
root needs no slash to go on.
-/
theorem loadPrefix_within_iff (root : String) (topLevel : Option String) (names : Namespace)
    (parts : List String) (ns : Namespace) :
    let tree := Tree.new root topLevel names .yaml
    let opens := parts = [] → Path.opened tree.base = tree.base
    (∀ disk disk', (∀ place ∈ Site.asked tree.base parts, disk place = disk' place) →
        tree.loadPrefix disk parts ns = tree.loadPrefix disk' parts ns) ∧
      ((∀ place ∈ Site.asked tree.base parts, Path.Within tree.base place) ↔ opens) ∧
      ((∀ disk, ∀ file ∈ Note.loads (tree.loadPrefix disk parts ns).notes,
        Path.Within tree.base file) ↔ opens) ∧
      ((∀ disk disk', Disk.AgreeWithin tree.base disk disk' →
        (tree.loadPrefix disk parts ns).result = (tree.loadPrefix disk' parts ns).result ∧
        (tree.loadPrefix disk parts ns).tree.cache =
          (tree.loadPrefix disk' parts ns).tree.cache) ↔ opens) := by
  intro tree opens
  have hcongr : ∀ disk disk', (∀ place ∈ Site.asked tree.base parts, disk place = disk' place) →
      tree.loadPrefix disk parts ns = tree.loadPrefix disk' parts ns :=
    fun disk disk' h => loadPrefix_congr_asked rfl h ns
  refine ⟨hcongr, ⟨fun h hnil => ?_, Site.within_of_asked⟩, ⟨fun h hnil => ?_, fun h => ?_⟩,
    fun h hnil => ?_, fun h => ?_⟩
  · subst hnil
    exact Path.within_yaml_iff.mp (h _ (Site.mem_asked_of_place rfl).2)
  · subst hnil
    refine Path.within_yaml_iff.mp (h tree.besideRoot _ ?_)
    rw [(loadPrefix_nil_besideRoot rfl rfl ns).2]
    exact List.mem_singleton_self _
  · intro disk file hfile
    rw [(loadPrefix_of_empty rfl disk parts ns).2] at hfile
    exact Site.within_of_asked h file (Site.loads_probe_asked file hfile)
  · subst hnil
    by_contra hclosed
    have hresult := (h _ _ (agreeWithin_besideRoot hclosed)).1
    rw [(loadPrefix_nil_besideRoot rfl rfl ns).1, loadPrefix_nil_of_nothing rfl ns] at hresult
    cases hresult
  · intro disk disk' hagree
    rw [hcongr disk disk' fun place hplace => hagree place (Site.within_of_asked h place hplace)]
    exact ⟨rfl, rfl⟩

/-- It can be seen.  What stands within the root is the same on both disks, and a text beside it
comes out. -/
theorem loadPrefix_nil_seen :
    let tree := Tree.new "cfg" none .empty .yaml
    let inside : Disk := fun place => if place = "cfg" then some .directory else none
    let beside : Disk := fun place =>
      if place = "cfg.yaml" then some (.text "secret\n") else inside place
    Disk.AgreeWithin tree.base inside beside ∧ ¬Path.Within tree.base "cfg.yaml" ∧
      (tree.loadPrefix inside [] .empty).result = .ok none ∧
      (tree.loadPrefix beside [] .empty).result = .ok (some (.string "secret")) ∧
      Note.loads (tree.loadPrefix beside [] .empty).notes = ["cfg.yaml"] := by
  intro tree inside beside
  have hout : ¬Path.Within "cfg" "cfg.yaml" := by
    have hclosed : Path.opened "cfg" ≠ "cfg" := by decide
    exact fun h => hclosed (Path.within_yaml_iff.mp h)
  refine ⟨fun path hpath => ?_, hout, rfl, ?_, by decide +kernel⟩
  · refine (if_neg fun heq => hout ?_).symm
    rwa [heq] at hpath
  · have hstring : (tree.loadPrefix beside [] .empty).result.toOption.bind
        (·.bind Value.asString?) = some "secret" := by decide +kernel
    obtain ⟨content, hcontent, hstring⟩ := Option.bind_eq_some_iff.mp hstring
    obtain ⟨value, rfl, hvalue⟩ := Option.bind_eq_some_iff.mp hstring
    rw [eq_ok_of_toOption hcontent, Value.eq_string_of_asString? hvalue]

end Tree

end DottedConfig
