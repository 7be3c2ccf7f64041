/-
Nothing outside the root is ever seen.

Placeholders may bring any text into a path: `..`, slashes, a path of its own.  None of it
leads out.  A segment that is no plain name ends a walk before the disk is asked, and plain
names after one another only ever spell places below the directory that paths begin at.  So
two disks that hold the same there, and may differ in all else, give the same answers, leave
the same cache, and have the loader asked for the same files.

That holds of any cache.  What `source` answers can come out of the cache, and that this is a
file below the root as well takes the shape that the cache has.
-/
import DottedConfig.Proofs.Tree.Isolation
import DottedConfig.Proofs.Tree.Shape

namespace DottedConfig

open DottedConfig.Tree (IsSegment Question segments segments_isRow)

/-! ### Places below a directory -/

namespace Path

/-- A path that leads from a directory down over one name or more. -/
def Below (directory path : String) : Prop :=
  ∃ names, names ≠ [] ∧ (∀ s ∈ names, s ≠ "" ∧ isPlainName s) ∧ path = joinAll directory names

/-- The file of a row of names below a directory. -/
def IsFileBelow (directory file : String) : Prop :=
  ∃ row, row ≠ [] ∧ (∀ s ∈ row, IsName s) ∧ file = fileAt directory row

theorem notMem_yaml {c : Char} {name : String} (hc : c ∉ ".yaml".toList) (h : c ∉ name.toList) :
    c ∉ (yaml name).toList := by
  rw [yaml, String.toList_append, List.mem_append]
  exact not_or.mpr ⟨h, hc⟩

theorem yaml_join {name : String} (h : '/' ∉ name.toList) (directory : String) :
    yaml (join directory name) = join directory (yaml name) := by
  rw [join_eq h, join_eq (notMem_yaml (by decide) h), yaml, yaml, String.append_assoc]

theorem letter_mem_yaml (name : String) : 'y' ∈ (yaml name).toList := by
  rw [yaml, String.toList_append]
  exact List.mem_append_right _ (by decide)

theorem isPlainName_yaml {name : String} (h : isPlainName name) : isPlainName (yaml name) := by
  obtain ⟨-, -, hslash, hbackslash⟩ := isPlainName_iff.mp h
  have hletter := letter_mem_yaml name
  refine isPlainName_iff.mpr ⟨fun heq => ?_, fun heq => ?_, notMem_yaml (by decide) hslash,
    notMem_yaml (by decide) hbackslash⟩
  · rw [heq] at hletter
    exact absurd hletter (by decide)
  · rw [heq] at hletter
    exact absurd hletter (by decide)

/-- The file of a row is in the directory that the row leads to without its last name. -/
theorem yaml_joinAll_append (directory : String) (before : List String) {name : String}
    (h : isPlainName name) :
    yaml (joinAll directory (before ++ [name])) = joinAll directory (before ++ [yaml name]) := by
  rw [joinAll_append_singleton, joinAll_append_singleton,
    yaml_join (isPlainName_iff.mp h).2.2.1]

/-- The file beside a place below a directory is below it as well. -/
theorem below_yaml {directory path : String} (h : Below directory path) :
    Below directory (yaml path) := by
  obtain ⟨names, hne, hnames, rfl⟩ := h
  obtain ⟨before, name, rfl⟩ : ∃ before name, names = before ++ [name] :=
    ⟨_, _, (List.dropLast_concat_getLast hne).symm⟩
  obtain ⟨-, hplain⟩ := hnames name (by simp)
  refine ⟨before ++ [yaml name], by simp, fun s hs => ?_, yaml_joinAll_append _ _ hplain⟩
  rcases List.mem_append.mp hs with hs | hs
  · exact hnames s (List.mem_append_left _ hs)
  · rw [List.mem_singleton.mp hs]
    refine ⟨fun heq => ?_, isPlainName_yaml hplain⟩
    have hletter := letter_mem_yaml name
    rw [heq] at hletter
    exact absurd hletter (by decide)

end Path

/-- Two disks hold the same at every path below a directory. -/
def Disk.AgreeBelow (directory : String) (disk disk' : Disk) : Prop :=
  ∀ path, Path.Below directory path → disk path = disk' path

/-! ### Looking at the disk -/

theorem Loader.yaml_congr {disk disk' : Disk} {file : String} (h : disk file = disk' file)
    (ns : Namespace) : yaml disk file ns = yaml disk' file ns := by
  rw [yaml, yaml, h]

namespace Site

variable {base : String} {disk disk' : Disk} {ns : Namespace}

/-- Looking for a row asks the disk about its place and about the file there. -/
theorem probe_congr {row : List String}
    (h : ∀ path, place base row = .ok path →
      disk path = disk' path ∧ disk (Path.yaml path) = disk' (Path.yaml path)) :
    probe ⟨base, .yaml, disk⟩ ns row = probe ⟨base, .yaml, disk'⟩ ns row := by
  rw [probe, probe]
  cases hplace : place base row with
  | error f => rfl
  | ok path =>
      obtain ⟨hpath, hfile⟩ := h path hplace
      have hisFile : disk.isFile (Path.yaml path) = disk'.isFile (Path.yaml path) := by
        rw [Disk.isFile, Disk.isFile, hfile]
      have hhas : disk.has (Path.yaml path) = disk'.has (Path.yaml path) := by
        rw [Disk.has, Disk.has, hfile]
      have hdirectory : disk.isDirectory path = disk'.isDirectory path := by
        rw [Disk.isDirectory, Disk.isDirectory, hpath]
      simp only [hisFile, hhas, hdirectory, Loader.yaml_congr hfile]

theorem entry_congr {row : List String} {cache : Cache}
    (h : probe ⟨base, .yaml, disk⟩ ns row = probe ⟨base, .yaml, disk'⟩ ns row) :
    entry ⟨base, .yaml, disk⟩ ns row cache = entry ⟨base, .yaml, disk'⟩ ns row cache := by
  rw [entry, entry, h]

section

variable (hagree : Disk.AgreeBelow base disk disk')

include hagree

/-- The places that a row of segments names are below the base. -/
theorem probe_congr_below {row : List String} (hne : row ≠ []) (hrow : ∀ s ∈ row, s ≠ "") :
    probe ⟨base, .yaml, disk⟩ ns row = probe ⟨base, .yaml, disk'⟩ ns row := by
  refine probe_congr fun path hplace => ?_
  obtain ⟨hpath, hplain⟩ := place_eq_ok hplace
  have hbelow : Path.Below base path := ⟨row, hne, fun s hs => ⟨hrow s hs, hplain s hs⟩, hpath⟩
  exact ⟨hagree path hbelow, hagree _ (Path.below_yaml hbelow)⟩

/-- **A walk sees nothing but what is below the base.** -/
theorem locateFrom_congr {rest before : List String} {cache : Cache}
    (hrow : ∀ s ∈ before ++ rest, s ≠ "") :
    locateFrom ⟨base, .yaml, disk⟩ ns before rest cache =
      locateFrom ⟨base, .yaml, disk'⟩ ns before rest cache := by
  induction rest generalizing before cache with
  | nil => rfl
  | cons part rest ih =>
      have hsplit : before ++ part :: rest = (before ++ [part]) ++ rest := by simp
      rw [hsplit] at hrow
      have hprobe : probe ⟨base, .yaml, disk⟩ ns (before ++ [part]) =
          probe ⟨base, .yaml, disk'⟩ ns (before ++ [part]) :=
        probe_congr_below hagree (by simp) fun s hs => hrow s (List.mem_append_left _ hs)
      rw [locateFrom, locateFrom, entry_congr hprobe]
      congr 1
      funext entry cache
      rw [ih hrow]

/-- And so does the walk to a text. -/
theorem rawFrom_congr {rest before : List String}
    (hbefore : ∀ s ∈ before, s ≠ "" ∧ Path.isPlainName s) (hrest : ∀ s ∈ rest, s ≠ "") :
    rawFrom ⟨base, .yaml, disk⟩ (Path.joinAll base before) before rest =
      rawFrom ⟨base, .yaml, disk'⟩ (Path.joinAll base before) before rest := by
  induction rest generalizing before with
  | nil => rfl
  | cons part rest ih =>
      obtain ⟨hpart, hrest⟩ := List.forall_mem_cons.mp hrest
      rw [rawFrom, rawFrom, ← Path.joinAll_append_singleton]
      by_cases hplain : Path.isPlainName part
      · have hnames : ∀ s ∈ before ++ [part], s ≠ "" ∧ Path.isPlainName s := by
          intro s hs
          rcases List.mem_append.mp hs with hs | hs
          · exact hbefore s hs
          · rw [List.mem_singleton.mp hs]
            exact ⟨hpart, hplain⟩
        have hbelow : Path.Below base (Path.joinAll base (before ++ [part])) :=
          ⟨_, by simp, hnames, rfl⟩
        have hdirectory : disk.isDirectory (Path.joinAll base (before ++ [part])) =
            disk'.isDirectory (Path.joinAll base (before ++ [part])) := by
          rw [Disk.isDirectory, Disk.isDirectory, hagree _ hbelow]
        simp only [hagree _ (Path.below_yaml hbelow), hdirectory, ih hnames hrest]
      · simp only [hplain, Bool.not_false, if_true]

end

end Site

/-! ### Trees -/

namespace Tree

variable {tree : Tree} {disk disk' : Disk}

section

variable (hyaml : tree.loader = .yaml) (hagree : Disk.AgreeBelow tree.base disk disk')

include hyaml hagree

theorem locate_congr (path : String) (ns : Namespace) :
    tree.locate disk path ns = tree.locate disk' path ns := by
  cases hrow : segments path ns with
  | error f => rw [locate_of_segments_error hrow, locate_of_segments_error hrow]
  | ok row =>
      rw [locate_of_segments_ok hrow, locate_of_segments_ok hrow, site, site, hyaml, Site.locate,
        Site.locate, Site.locateFrom_congr hagree fun s hs => ((segments_isRow hrow).segments s hs).1]

theorem lookup_congr (path : String) (ns : Namespace) :
    tree.lookup disk path ns = tree.lookup disk' path ns := by
  rw [lookup, lookup, locate_congr hyaml hagree]

/-- **A question sees nothing but what is below the root.** -/
theorem ask_congr_disk (question : Question) : tree.ask disk question = tree.ask disk' question :=
  ask_eq_of_locate_eq question (locate_congr hyaml hagree question.path tree.names)

theorem getWith_congr (path : String) (extra : Namespace) :
    tree.getWith disk path extra = tree.getWith disk' path extra := by
  rw [getWith, getWith]
  cases extra.isEmpty with
  | true => simp only [if_true, lookup_congr hyaml hagree]
  | false =>
      have hyaml' : tree.flush.tree.loader = .yaml := hyaml
      have hflush : ∀ ns, tree.flush.tree.lookup disk path ns =
          tree.flush.tree.lookup disk' path ns := fun ns => lookup_congr hyaml' hagree path ns
      simp only [Bool.false_eq_true, if_false, hflush]

theorem raw_congr (path : String) : tree.raw disk path = tree.raw disk' path := by
  cases hrow : segments path tree.names with
  | error f => rw [raw, raw, hrow]
  | ok row =>
      have hraw : (tree.site disk).rawFrom tree.base [] row =
          (tree.site disk').rawFrom tree.base [] row := by
        rw [site, site, hyaml]
        exact Site.rawFrom_congr hagree (fun s hs => absurd hs List.not_mem_nil)
          fun s hs => ((segments_isRow hrow).segments s hs).1
      rw [raw, raw, hrow]
      simp only [hraw]

end

/-! ### Files that come up -/

/-- What locating a path loads is below the root. -/
theorem loads_locate_below (tree : Tree) (disk : Disk) (path : String) (ns : Namespace) :
    ∀ file ∈ Note.loads (tree.locate disk path ns).notes, Path.IsFileBelow tree.base file := by
  intro file hfile
  obtain ⟨row, -, hwalked⟩ := tree.walked_locate disk path ns
  rcases hwalked.loads with hnone | ⟨part, -, hloads⟩
  · rw [hnone] at hfile
    exact absurd hfile List.not_mem_nil
  · rw [hloads.loads] at hfile
    exact ⟨part, hloads.nonempty, hloads.names, List.mem_singleton.mp hfile⟩

theorem loads_ask_below (tree : Tree) (disk : Disk) (question : Question) :
    ∀ file ∈ Note.loads (tree.ask disk question).notes, Path.IsFileBelow tree.base file := by
  rw [ask_notes]
  exact tree.loads_locate_below disk question.path tree.names

theorem loads_getWith_below (tree : Tree) (disk : Disk) (path : String) (extra : Namespace) :
    ∀ file ∈ Note.loads (tree.getWith disk path extra).notes, Path.IsFileBelow tree.base file := by
  obtain ⟨tree', hfresh, hsame⟩ := tree.loads_getWith disk path extra
  have hbase : tree'.fresh.base = tree.fresh.base := congrArg base hfresh
  rw [hsame, lookup_notes]
  show ∀ file ∈ _, Path.IsFileBelow tree.fresh.base file
  rw [← hbase]
  exact tree'.loads_locate_below disk path _

/-- What `source` answers is below the root. -/
theorem source_below (h : tree.cache.Shaped tree.base) {path file : String}
    (hsource : (tree.source disk path).result = .ok file) : Path.IsFileBelow tree.base file := by
  rw [source_result] at hsource
  obtain ⟨⟨row, owner⟩, howner, rfl⟩ := eq_ok_of_map hsource
  obtain ⟨parts, -, hwalked⟩ := tree.walked_locate disk path tree.names
  have hshaped : (tree.locate disk path tree.names).cache.Shaped tree.base :=
    .walked hwalked h
  obtain ⟨part, -, hrecords⟩ := hshaped _ _ (get?_locate howner)
  rcases hrecords.stands with hdirectory | ⟨content, hfile⟩
  · cases hdirectory
  · exact ⟨part, hrecords.nonempty, hrecords.names, (Cache.Entry.file.inj hfile).1⟩

end Tree

namespace World

/--
**A tree sees nothing but what is below its root.**  After any history without calls of
`loadPrefix`, and with files read as YAML, disks that hold the same below the root give the
same answers altogether: the result, the tree with its cache, and what is reported, the calls
of the loader among it.  And every file that the loader is asked for, or that `source`
answers with, is the file of a row of names below the root.
-/
theorem confined (root : String) (topLevel : Option String) (names : Namespace) (loader : Loader)
    (disk₀ : Disk) (events : List Event) (hregular : ∀ e ∈ events, e.Regular)
    (hyaml : ((start root topLevel names loader disk₀).run events).tree.loader = .yaml) :
    let tree := ((start root topLevel names loader disk₀).run events).tree
    (∀ disk disk', Disk.AgreeBelow tree.base disk disk' →
        (∀ question, tree.ask disk question = tree.ask disk' question) ∧
        (∀ path extra, tree.getWith disk path extra = tree.getWith disk' path extra) ∧
        ∀ path, tree.raw disk path = tree.raw disk' path) ∧
      ∀ disk,
        (∀ question, ∀ file ∈ Note.loads (tree.ask disk question).notes,
          Path.IsFileBelow tree.base file) ∧
        (∀ path extra, ∀ file ∈ Note.loads (tree.getWith disk path extra).notes,
          Path.IsFileBelow tree.base file) ∧
        ∀ path file, (tree.source disk path).result = .ok file →
          Path.IsFileBelow tree.base file := by
  intro tree
  have hshaped : tree.cache.Shaped tree.base := shaped_run hregular (Cache.shaped_empty _)
  refine ⟨fun disk disk' hagree => ⟨?_, ?_, ?_⟩, fun disk => ⟨?_, ?_, ?_⟩⟩
  · exact Tree.ask_congr_disk hyaml hagree
  · exact Tree.getWith_congr hyaml hagree
  · exact Tree.raw_congr hyaml hagree
  · exact tree.loads_ask_below disk
  · exact tree.loads_getWith_below disk
  · exact fun path file hsource => Tree.source_below hshaped hsource

/-- The name of a greeting tries to lead to a file outside; it makes no difference whether
there is one. -/
theorem confined_from_outside :
    let inside : Disk := fun place =>
      if place = "cfg/greet.yaml" then some (.text "message: hello\n") else none
    let both : Disk := fun place =>
      if place = "/etc/greet.yaml" then some (.text "message: boo\n") else inside place
    let names : Namespace := .ofList [("name", "/etc/greet")]
    let events : List Event := [.ask (.get "greet.message")]
    let tree := ((start "cfg" none names .yaml inside).run events).tree
    (∀ e ∈ events, e.Regular) ∧ tree.loader = .yaml ∧ Disk.AgreeBelow tree.base inside both ∧
      tree.ask inside (.get "${name}.message") = tree.ask both (.get "${name}.message") ∧
      (tree.source both "greet.message").result = .ok "cfg/greet.yaml" ∧
      Path.IsFileBelow tree.base "cfg/greet.yaml" := by
  intro inside both names events tree
  have hregular : ∀ e ∈ events, e.Regular := by simp [events, Event.Regular]
  have hyaml : tree.loader = .yaml := rfl
  have hagree : Disk.AgreeBelow tree.base inside both := by
    rintro path ⟨names, hne, hnames, rfl⟩
    have hplace : Path.joinAll "cfg" names ≠ "/etc/greet.yaml" := by
      rw [Path.joinAll_eq hne fun s hs =>
        ⟨(hnames s hs).1, (Path.isPlainName_iff.mp (hnames s hs).2).2.2.1⟩]
      intro heq
      have hhead := congrArg (fun s => s.toList.head?) heq
      simp [Path.opened] at hhead
    exact (if_neg hplace).symm
  have hsource : (tree.source both "greet.message").result = .ok "cfg/greet.yaml" :=
    eq_ok_of_toOption (by decide +kernel)
  obtain ⟨hsame, hfiles⟩ := confined "cfg" none names .yaml inside events hregular hyaml
  exact ⟨hregular, hyaml, hagree, (hsame inside both hagree).1 _, hsource,
    (hfiles both).2.2 _ _ hsource⟩

end World

end DottedConfig
