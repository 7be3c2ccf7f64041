/-
Only the names that are mentioned matter.

A lookup uses the namespace twice: to split the path, and to fill in the file that it loads.  So
the names that are mentioned in the segments of the path, and in the texts of that file, are all
that it ever looks up.  Namespaces that agree on these names split the path into the same row; so
the walks ask for the same prefixes, come to the same file, and are given the same content or the
same failure.  It makes no difference what has been cached, because a recorded entry is taken as
it is under either namespace.

A name is looked up only where a placeholder spells it, and a placeholder spells identifiers only.
Entries under anything else might as well not be there.
-/
import DottedConfig.Proofs.Tree.Isolation
import DottedConfig.Proofs.Tree.Recording
import DottedConfig.Proofs.Template.Names
import DottedConfig.Proofs.Value.Written

namespace DottedConfig

open DottedConfig.Tree (Question)

/-! ### Names in files and paths -/

/-- The names that are looked up when a file is filled in. -/
def Disk.mentioned (disk : Disk) (file : String) : List String :=
  match disk.document? file with
  | some document => document.texts.flatMap Template.mentioned
  | none => []

/-- The names that are mentioned in the segments of a path, and in the files loaded for it. -/
def Tree.mentioned (tree : Tree) (disk : Disk) (path : String) : List String :=
  (Text.cutDots path).flatMap Template.mentioned ++
    (Note.loads (tree.get disk path).notes).flatMap disk.mentioned

variable {disk : Disk} {ns ns' : Namespace}

/-- A file that is read as YAML is filled in by way of the names that it mentions. -/
theorem Loader.yaml_congr_names {file : String}
    (h : ∀ name ∈ disk.mentioned file, ns'.get? name = ns.get? name) :
    yaml disk file ns' = yaml disk file ns := by
  rw [Disk.mentioned] at h
  cases hdocument : disk.document? file with
  | none => exact yaml_of_no_document hdocument ns ns'
  | some document =>
      rw [hdocument] at h
      have htexts : Value.ofDocument ns' [] document = Value.ofDocument ns [] document :=
        Value.ofDocument_congr [] document fun s hs => Template.substitute_congr fun name hname =>
          h name (List.mem_flatMap.mpr ⟨s, hs, hname⟩)
      rw [yaml_of_document hdocument, yaml_of_document hdocument, htexts]

/-! ### Walks -/

namespace Site

variable {site : Site} {row : List String} {cache : Cache}

/-- Looking on the disk takes the namespace only to the loader. -/
theorem probe_congr_names (h : ∀ file ∈ Note.loads (site.probe ns row).2,
      site.loader site.disk file ns' = site.loader site.disk file ns) :
    site.probe ns' row = site.probe ns row := by
  rw [probe] at h
  rw [probe, probe]
  cases hplace : place site.base row with
  | error f => rfl
  | ok path =>
      rw [hplace] at h
      dsimp only at h ⊢
      split
      · rename_i hfile
        rw [if_pos hfile] at h
        have hload : site.loader site.disk (Path.yaml path) ns' =
            site.loader site.disk (Path.yaml path) ns := by
          refine h _ ?_
          cases site.loader site.disk (Path.yaml path) ns <;> exact List.mem_cons_self
        rw [hload]
      · rfl

theorem entry_congr_names (h : ∀ file ∈ Note.loads (site.entry ns row cache).notes,
      site.loader site.disk file ns' = site.loader site.disk file ns) :
    site.entry ns' row cache = site.entry ns row cache := by
  cases hcached : cache.get? (Text.joinDots row) with
  | some entry => rw [entry_of_cached hcached, entry_of_cached hcached]
  | none =>
      have hnotes : (site.entry ns row cache).notes = (site.probe ns row).2 := by
        rcases hprobe : site.probe ns row with ⟨found, notes⟩
        cases found with
        | error f => rw [entry_of_missing_error hcached hprobe]
        | ok entry => rw [entry_of_missing_ok hcached hprobe]
      rw [hnotes] at h
      rw [entry, entry, probe_congr_names h]

/-- **A walk takes the namespace only to the loader.** -/
theorem locateFrom_congr_names {rest before : List String}
    (h : ∀ file ∈ Note.loads (site.locateFrom ns before rest cache).notes,
      site.loader site.disk file ns' = site.loader site.disk file ns) :
    site.locateFrom ns' before rest cache = site.locateFrom ns before rest cache := by
  -- What is loaded on the whole walk is loaded at its first step or later, so each step is the
  -- same under both namespaces, and the next one starts from the same cache.
  induction rest generalizing before cache with
  | nil => rfl
  | cons part rest ih =>
      rw [locateFrom] at h
      rw [locateFrom, locateFrom]
      cases hview : site.view ns cache (before ++ [part]) with
      | error f =>
          rw [Reply.notes_andThen_error hview] at h
          rw [entry_congr_names h, Reply.andThen, Reply.andThen]
          rw [view] at hview
          rw [hview]
      | ok entry =>
          rw [Reply.notes_andThen_ok hview, Note.loads_append] at h
          have hentry := entry_congr_names fun file hfile => h file (List.mem_append_left _ hfile)
          rw [view] at hview
          rw [hentry, Reply.andThen, Reply.andThen, hview]
          cases entry with
          | file file content => rfl
          | directory path =>
              have hrest := ih fun file hfile => h file (List.mem_append_right _ hfile)
              simp only [Cache.Entry.isFile, Bool.false_eq_true, if_false, hrest]

end Site

/-! ### Paths -/

namespace Tree

variable {tree : Tree} {path : String}

theorem segment_congr {written : String}
    (h : ∀ name ∈ Template.mentioned written, ns'.get? name = ns.get? name) :
    segment path ns' written = segment path ns written := by
  rw [segment, segment, Template.substitute_congr h]

theorem segmentsOf_congr {writtens : List String}
    (h : ∀ name ∈ writtens.flatMap Template.mentioned, ns'.get? name = ns.get? name) :
    segmentsOf path ns' writtens = segmentsOf path ns writtens := by
  induction writtens with
  | nil => rfl
  | cons written rest ih =>
      rw [List.flatMap_cons] at h
      obtain ⟨hwritten, hrest⟩ := List.forall_mem_append.mp h
      rw [segmentsOf, segmentsOf, segment_congr hwritten, ih hrest]

theorem segments_congr
    (h : ∀ name ∈ (Text.cutDots path).flatMap Template.mentioned, ns'.get? name = ns.get? name) :
    segments path ns' = segments path ns := by
  rw [segments, segments, segmentsOf_congr h]

/-- **Locating a path takes the namespace to its segments and to the files that are loaded.** -/
theorem locate_congr_names (hyaml : tree.loader = .yaml)
    (hpath : ∀ name ∈ (Text.cutDots path).flatMap Template.mentioned, ns'.get? name = ns.get? name)
    (hloads : ∀ name ∈ (Note.loads (tree.locate disk path ns).notes).flatMap disk.mentioned,
      ns'.get? name = ns.get? name) :
    tree.locate disk path ns' = tree.locate disk path ns := by
  have hsegments := segments_congr hpath
  cases hrow : segments path ns with
  | error f =>
      rw [locate_of_segments_error hrow, locate_of_segments_error (hsegments.trans hrow)]
  | ok row =>
      rw [locate_of_segments_ok hrow] at hloads
      rw [locate_of_segments_ok hrow, locate_of_segments_ok (hsegments.trans hrow)]
      rw [Reply.notes_andThen_ofExcept] at hloads
      have hwalk : (tree.site disk).locate ns' row tree.cache =
          (tree.site disk).locate ns row tree.cache := by
        refine Site.locateFrom_congr_names fun file hfile => ?_
        show tree.loader disk file ns' = tree.loader disk file ns
        rw [hyaml]
        exact Loader.yaml_congr_names fun name hname =>
          hloads name (List.mem_flatMap.mpr ⟨file, hfile, hname⟩)
      rw [hwalk]

/-! ### Answers -/

/-- Two answers are the same but for the namespaces of the trees that they leave behind. -/
structure Answer.Alike {α : Type} (a b : Answer α) : Prop where
  result : a.result = b.result
  cache : a.tree.cache = b.tree.cache
  notes : a.notes = b.notes

/-- Trees that differ in names that are not mentioned answer alike. -/
theorem ask_alike (tree : Tree) (hyaml : tree.loader = .yaml) (question : Question)
    {names : Namespace}
    (h : ∀ name ∈ tree.mentioned disk question.path, names.get? name = tree.names.get? name) :
    (ask { tree with names := names } disk question).Alike (tree.ask disk question) := by
  rw [mentioned, get, answer] at h
  obtain ⟨hpath, hloads⟩ := List.forall_mem_append.mp h
  rw [lookup_notes] at hloads
  have hlocate : ({ tree with names := names } : Tree).locate disk question.path names =
      tree.locate disk question.path tree.names :=
    locate_congr_names hyaml hpath hloads
  refine ⟨ask_result_of_locate_eq question hlocate, ?_, ?_⟩
  · rw [ask_tree, ask_tree]
    exact congrArg Reply.cache hlocate
  · rw [ask_notes, ask_notes]
    exact congrArg Reply.notes hlocate

theorem identifier_of_mentioned {name : String} (h : name ∈ tree.mentioned disk path) :
    Identifier name.toList := by
  rcases List.mem_append.mp h with hpath | hloads
  · obtain ⟨written, -, hname⟩ := List.mem_flatMap.mp hpath
    exact Template.identifier_of_mentioned hname
  · obtain ⟨file, -, hname⟩ := List.mem_flatMap.mp hloads
    rw [Disk.mentioned] at hname
    split at hname
    · obtain ⟨text, -, hname⟩ := List.mem_flatMap.mp hname
      exact Template.identifier_of_mentioned hname
    · exact absurd hname List.not_mem_nil

/--
**Only the names that are mentioned matter.**  Where two trees that read YAML differ in their
namespaces, and only under names that neither the segments of a path nor the files loaded for it
mention, every question about the path is answered alike and leaves the same cache.  So further
entries whose names are not mentioned leave a lookup as it is, and so do entries under anything
that is no identifier, whatever the path.
-/
theorem ask_by_mentioned_names (tree : Tree) (hyaml : tree.loader = .yaml) (disk : Disk) :
    (∀ (names : Namespace) (question : Question),
      (∀ name ∈ tree.mentioned disk question.path, names.get? name = tree.names.get? name) →
        (ask { tree with names := names } disk question).Alike (tree.ask disk question)) ∧
      (∀ (path : String) (extra : Namespace),
        (∀ name ∈ tree.fresh.mentioned disk path, extra.get? name = none) →
          (tree.fresh.getWith disk path extra).result = (tree.fresh.get disk path).result) ∧
      ∀ names : Namespace,
        (∀ name, Identifier name.toList → names.get? name = tree.names.get? name) →
          (∀ question : Question,
            (ask { tree with names := names } disk question).Alike (tree.ask disk question)) ∧
          (∀ path : String,
            (raw { tree with names := names } disk path).result = (tree.raw disk path).result) ∧
          ∀ (path : String) (extra extra' : Namespace),
            (∀ name, Identifier name.toList → extra'.get? name = extra.get? name) →
              (getWith { tree.fresh with names := names } disk path extra').result =
                (tree.fresh.getWith disk path extra).result := by
  refine ⟨fun names question => tree.ask_alike hyaml question, fun path extra h => ?_,
    fun names hnames => ⟨fun question => ?_, fun path => ?_, fun path extra extra' hextra => ?_⟩⟩
  · have hsame : ∀ name ∈ tree.fresh.mentioned disk path,
        (tree.names.overlay extra).get? name = tree.names.get? name := by
      intro name hname
      rw [SortedMap.get?_overlay, h name hname, Option.none_or]
    rw [tree.getWith_fresh disk path extra]
    exact (tree.fresh.ask_alike hyaml (.get path) hsame).result
  · exact tree.ask_alike hyaml question fun name hname =>
      hnames name (identifier_of_mentioned hname)
  · have hsegments : segments path names = segments path tree.names := by
      refine segments_congr fun name hname => hnames name ?_
      obtain ⟨written, -, hname⟩ := List.mem_flatMap.mp hname
      exact Template.identifier_of_mentioned hname
    rw [raw, raw, hsegments]
    cases segments path tree.names <;> rfl
  · let laid := Tree.new tree.root tree.topLevel (tree.names.overlay extra) tree.loader
    have hsame : ∀ name ∈ laid.mentioned disk path,
        (names.overlay extra').get? name = (tree.names.overlay extra).get? name := by
      intro name hname
      have hidentifier := identifier_of_mentioned hname
      rw [SortedMap.get?_overlay, SortedMap.get?_overlay, hnames name hidentifier,
        hextra name hidentifier]
    have hwith : (getWith { tree.fresh with names := names } disk path extra').result = _ :=
      getWith_fresh { tree with names := names } disk path extra'
    rw [hwith, tree.getWith_fresh disk path extra]
    exact (laid.ask_alike hyaml (.get path) hsame).result

/-- The row of a greeting, its key and its text are all filled in; a mood is not mentioned, and
`who?` cannot be. -/
theorem ask_by_mentioned_names_of_greeting :
    let disk : Disk := fun place =>
      if place = "cfg/greet.yaml" then some (.text "${who}: hello ${name}\n") else none
    let names : Namespace := .ofList [("lang", "greet"), ("name", "moon"), ("who", "world")]
    let tree := Tree.new "cfg" none names .yaml
    let mood : Namespace := .ofList [("mood", "glad")]
    let odd : Namespace := .ofList [("who?", "nobody")]
    tree.mentioned disk "$lang.$who" = ["lang", "who", "who", "name"] ∧
      (ask { tree with names := names.overlay mood } disk (.get "$lang.$who")).Alike
        (tree.get disk "$lang.$who") ∧
      (tree.getWith disk "$lang.$who" mood).result = (tree.get disk "$lang.$who").result ∧
      ∀ question, (ask { tree with names := names.overlay odd } disk question).Alike
        (tree.ask disk question) := by
  intro disk names tree mood odd
  have hmentioned : tree.mentioned disk "$lang.$who" = ["lang", "who", "who", "name"] := by
    decide +kernel
  have hmood : ∀ name ∈ ["lang", "who", "who", "name"], mood.get? name = none := by
    decide +kernel
  have hodd : ∀ name : String, Identifier name.toList →
      (names.overlay odd).get? name = names.get? name := by
    intro name hname
    have hne : name ≠ "who?" := by
      rintro rfl
      exact absurd (spellsName_iff.mpr hname) (by decide)
    have hmissing : odd.get? name = none := SortedMap.get?_insert_ne ∅ hne "nobody"
    rw [SortedMap.get?_overlay, hmissing, Option.none_or]
  obtain ⟨hagree, hwith, hother⟩ := ask_by_mentioned_names tree rfl disk
  refine ⟨hmentioned, hagree (names.overlay mood) (.get "$lang.$who") fun name hname => ?_,
    hwith "$lang.$who" mood fun name hname => hmood name (hmentioned ▸ hname),
    (hother (names.overlay odd) hodd).1⟩
  rw [SortedMap.get?_overlay, hmood name (hmentioned ▸ hname), Option.none_or]
  rfl

end Tree

end DottedConfig
