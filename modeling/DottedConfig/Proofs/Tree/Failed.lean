/-
What a failed question leaves behind.

A question fails at its path, on the walk along the row of the path, or with what it finds at the
end of the walk.  At the path nothing has happened yet.  A walk keeps what it has found: the
directories that it came through are recorded, and the prefix at which it fails is not.  So the
next walk comes to this prefix again without a look at what is above it, and a file that has
appeared there, or has been mended, is loaded then.  A walk that comes to its end has recorded
what it does for any question that succeeds.

`Marks` says exactly what a walk through directories adds to a cache.  One more directory adds
one more prefix, unless it was recorded before, and from this the whole walk follows.
-/
import DottedConfig.Proofs.Tree.Owned
import Mathlib.Data.List.Induction

namespace DottedConfig

open DottedConfig.Tree (IsRow IsSegment isRow_append_singleton not_append_singleton_isPrefix)

/-! ### Directories on the way -/

namespace Cache

/-- What a walk through the directories of a row makes of a cache. -/
structure Marks (cache cache' : Cache) (base : String) (row : List String) : Prop where
  /-- The row and all that is above it are recorded as directories. -/
  leads : cache'.Leads row
  /-- Nothing is lost, and what is new is a prefix of the row that was missing, as the directory
  at its place. -/
  entries : ∀ key entry, cache'.get? key = some entry ↔
    cache.get? key = some entry ∨ cache.get? key = none ∧ ∃ above, above ≠ [] ∧ above <+: row ∧
      key = Text.joinDots above ∧ entry = .directory (Path.joinAll base above)

variable {cache cache' : Cache} {base : String} {row : List String}

theorem marks_nil (cache : Cache) (base : String) : Marks cache cache base [] := by
  refine ⟨leads_nil cache, fun key entry => ⟨.inl, ?_⟩⟩
  rintro (hentry | ⟨-, above, hne, hbegins, -⟩)
  · exact hentry
  · exact absurd (List.prefix_nil.mp hbegins) hne

theorem Marks.keeps (h : Marks cache cache' base row) : cache.Keeps cache' :=
  fun key entry hentry => (h.entries key entry).mpr (.inl hentry)

/-- What comes next after the directories is recorded only if it was before. -/
theorem Marks.get?_append_singleton (h : Marks cache cache' base row) {part : String}
    (hrow : IsRow (row ++ [part])) :
    cache'.get? (Text.joinDots (row ++ [part])) = cache.get? (Text.joinDots (row ++ [part])) := by
  cases hbefore : cache.get? (Text.joinDots (row ++ [part])) with
  | some entry => exact h.keeps _ _ hbefore
  | none =>
      cases hafter : cache'.get? (Text.joinDots (row ++ [part])) with
      | none => rfl
      | some entry =>
          rcases (h.entries _ _).mp hafter with hold | ⟨-, above, hne, hbegins, hkey, -⟩
          · rw [hbefore] at hold
            cases hold
          · have habove : IsRow above := hrow.of_prefix hne (hbegins.trans (List.prefix_append _ _))
            obtain rfl := hrow.eq_of_joinDots habove hkey
            exact absurd hbegins (not_append_singleton_isPrefix row part)

end Cache

namespace Site

variable {site : Site} {ns : Namespace} {cache cache' : Cache} {before rest row : List String}
  {part path : String} {f : Failure}

theorem path_of_probe_directory (h : (site.probe ns row).1 = .ok (.directory path)) :
    path = Path.joinAll site.base row := by
  have hprobed := probed_probe site ns row
  generalize site.probe ns row = found at h hprobed
  cases hprobed with
  | directory hplain hloads => cases h; rfl
  | made hplain hload hloads => cases h
  | refused hplain hload hloads => cases h
  | nothing hloads => cases h

theorem get?_of_view_error (h : site.view ns cache row = .error f) :
    cache.get? (Text.joinDots row) = none := by
  cases hcached : cache.get? (Text.joinDots row) with
  | none => rfl
  | some entry =>
      rw [view_of_cached hcached] at h
      cases h

/-- **One more directory on the way.** -/
theorem marks_entry (h : cache.Marks cache' site.base before)
    (hall : ∀ s ∈ before ++ [part], IsSegment s)
    (hview : site.view ns cache' (before ++ [part]) = .ok (.directory path)) :
    cache.Marks (site.entry ns (before ++ [part]) cache').cache site.base (before ++ [part]) := by
  have hrow : IsRow (before ++ [part]) := isRow_append_singleton hall
  have hself := get?_entry_self hview
  have hkeeps := h.keeps.trans (keeps_entry site ns (before ++ [part]) cache')
  have hsame := h.get?_append_singleton hrow
  have hplace : cache.get? (Text.joinDots (before ++ [part])) = none →
      path = Path.joinAll site.base (before ++ [part]) := by
    intro hmissing
    rw [view_of_missing (hsame.trans hmissing)] at hview
    exact path_of_probe_directory hview
  refine ⟨(h.leads.mono (keeps_entry site ns _ cache')).append_singleton hself, fun key entry => ?_⟩
  -- Only the key of the new row has to be looked at; all others are as the walk so far left them.
  by_cases hkey : key = Text.joinDots (before ++ [part])
  · subst hkey
    constructor
    · intro hentry
      obtain rfl : .directory path = entry := Option.some.inj (hself.symm.trans hentry)
      cases hold : cache.get? (Text.joinDots (before ++ [part])) with
      | some old => exact .inl ((hkeeps _ _ hold).symm.trans hself)
      | none => exact .inr ⟨rfl, _, hrow.nonempty, List.prefix_refl _, rfl, by rw [hplace hold]⟩
    · rintro (hold | ⟨hmissing, above, hne, hbegins, hkey, rfl⟩)
      · exact hkeeps _ _ hold
      · obtain rfl := hrow.eq_of_joinDots (hrow.of_prefix hne hbegins) hkey
        rw [hself, hplace hmissing]
  · rw [get?_entry_ne hkey, h.entries]
    refine or_congr_right (and_congr_right fun _ => exists_congr fun above => ?_)
    refine and_congr_right fun hne => and_congr_left fun hrest => ?_
    refine ⟨fun hbegins => hbegins.trans (List.prefix_append _ _), fun hbegins => ?_⟩
    rcases List.prefix_concat_iff.mp hbegins with rfl | hbegins
    · exact absurd hrest.1 hkey
    · exact hbegins

/-- **A walk goes through directories, and marks them.** -/
theorem locateFrom_of_leads (hall : ∀ s ∈ before, IsSegment s)
    (hleads : Leads (site.view ns cache) before) :
    ∃ cache' notes, cache.Marks cache' site.base before ∧ Note.loads notes = [] ∧
      ∀ rest, site.locateFrom ns [] (before ++ rest) cache =
        ⟨(site.locateFrom ns before rest cache').result,
          (site.locateFrom ns before rest cache').cache,
          notes ++ (site.locateFrom ns before rest cache').notes⟩ := by
  -- The row grows at its end, as it does on the walk.
  induction before using List.reverseRecOn with
  | nil => exact ⟨cache, [], Cache.marks_nil cache site.base, rfl, fun rest => rfl⟩
  | append_singleton before part ih =>
      have hbefore : before <+: before ++ [part] := List.prefix_append _ _
      have hall' : ∀ s ∈ before, IsSegment s := fun s hs => hall s (hbefore.subset hs)
      obtain ⟨cache', notes, hmarks, hloads, hwalk⟩ :=
        ih hall' fun above hne hbegins => hleads above hne (hbegins.trans hbefore)
      obtain ⟨path, hview⟩ := hleads (before ++ [part]) (by simp) (List.prefix_refl _)
      rw [← view_congr (hmarks.get?_append_singleton (isRow_append_singleton hall))] at hview
      refine ⟨_, notes ++ (site.entry ns (before ++ [part]) cache').notes,
        marks_entry hmarks hall hview, ?_, fun rest => ?_⟩
      · rw [Note.loads_append, hloads, loads_entry_of_directory hview, List.append_nil]
      · rw [List.append_assoc, List.singleton_append, hwalk, List.append_assoc]
        rw [(locateFrom_of_directory hview).1, (locateFrom_of_directory hview).2]
        rw [locateFrom, Reply.notes_andThen_ok hview]
        rfl

/-! ### Walks that fail -/

/-- A walk that finds no owner goes through directories to the end of its row, or to a segment
that stands for nothing. -/
theorem leads_of_ownerFrom_error {view : List String → Except Failure Cache.Entry}
    (hleads : Leads view before) (h : ownerFrom view before rest = .error f) :
    (Leads view (before ++ rest) ∧ f = onlyDirectories (before ++ rest)) ∨
      ∃ middle part after, rest = middle ++ part :: after ∧
        Leads view (before ++ middle) ∧ view (before ++ middle ++ [part]) = .error f := by
  -- Directories are taken from the rest to what leads on, and `hleads` goes with them.
  induction rest generalizing before with
  | nil =>
      cases h
      rw [List.append_nil]
      exact .inl ⟨hleads, rfl⟩
  | cons part rest ih =>
      cases hview : view (before ++ [part]) with
      | error f' =>
          rw [ownerFrom_of_error hview] at h
          cases h
          exact .inr ⟨[], part, rest, rfl, by rwa [List.append_nil], by rwa [List.append_nil]⟩
      | ok entry =>
          cases entry with
          | file file content =>
              rw [ownerFrom_of_file hview] at h
              cases h
          | directory path =>
              rw [ownerFrom_of_directory hview] at h
              have hsplit : before ++ part :: rest = (before ++ [part]) ++ rest := by simp
              rw [hsplit]
              refine (ih (hleads.append_singleton hview) h).imp_right ?_
              rintro ⟨middle, part', after, rfl, hmiddle, hfails⟩
              refine ⟨part :: middle, part', after, rfl, ?_, ?_⟩
              · rwa [List.append_cons before part middle]
              · rwa [List.append_cons before part middle]

/-- A walk through nothing but directories marks them all. -/
theorem marks_locate_of_leads (hall : ∀ s ∈ row, IsSegment s)
    (hleads : Leads (site.view ns cache) row) :
    cache.Marks (site.locate ns row cache).cache site.base row ∧
      Note.loads (site.locate ns row cache).notes = [] := by
  obtain ⟨cache', notes, hmarks, hloads, hwalk⟩ := locateFrom_of_leads hall hleads
  have hend := hwalk []
  rw [List.append_nil] at hend
  rw [locate, hend]
  refine ⟨hmarks, ?_⟩
  show Note.loads (notes ++ []) = []
  rw [List.append_nil, hloads]

/-- One that fails with a prefix has marked what is above it and says nothing of it.  If it has
asked the loader at all, then for the file of this prefix. -/
theorem marks_locate_of_error (hall : ∀ s ∈ before ++ part :: rest, IsSegment s)
    (hleads : Leads (site.view ns cache) before)
    (hview : site.view ns cache (before ++ [part]) = .error f) :
    let reply := site.locate ns (before ++ part :: rest) cache
    cache.Marks reply.cache site.base before ∧
      reply.cache.get? (Text.joinDots (before ++ [part])) = none ∧
      (Note.loads reply.notes = [] ∨ (∀ s ∈ before ++ [part], Path.isPlainName s) ∧
        Note.loads reply.notes = [Path.fileAt site.base (before ++ [part])]) := by
  intro reply
  have hall' : ∀ s ∈ before, IsSegment s := fun s hs => hall s (List.mem_append_left _ hs)
  obtain ⟨cache', notes, hmarks, hloads, hwalk⟩ := locateFrom_of_leads hall' hleads
  rw [← view_congr (hmarks.get?_append_singleton (isRow_append_singleton hall))] at hview
  have hmissing := get?_of_view_error hview
  have hcache : reply.cache = cache' := by
    rw [show reply = _ from hwalk (part :: rest)]
    exact (locateFrom_of_error hview).2
  have hnotes : Note.loads reply.notes = Note.loads (site.probe ns (before ++ [part])).2 := by
    rw [show reply = _ from hwalk (part :: rest), Note.loads_append, hloads, List.nil_append,
      locateFrom, Reply.notes_andThen_error hview]
    rw [view_of_missing hmissing] at hview
    rw [entry_of_missing_error hmissing (Prod.ext hview rfl)]
  rw [hcache, hnotes]
  refine ⟨hmarks, hmissing, ?_⟩
  rw [view_of_missing hmissing] at hview
  have hprobed := probed_probe site ns (before ++ [part])
  generalize site.probe ns (before ++ [part]) = found at hview hprobed
  cases hprobed with
  | directory hplain hloads => cases hview
  | made hplain hload hloads => cases hview
  | refused hplain hload hloads => exact .inr ⟨hplain, hloads⟩
  | nothing hloads => exact .inl hloads

theorem probe_of_isFile (ns : Namespace) (hplain : ∀ s ∈ row, Path.isPlainName s)
    (hfile : site.disk.isFile (Path.fileAt site.base row)) :
    Note.loads (site.probe ns row).2 = [Path.fileAt site.base row] ∧
      (site.probe ns row).1 = (site.loader site.disk (Path.fileAt site.base row) ns).map
        (.file (Path.fileAt site.base row)) := by
  have hplace := place_of_plain hplain site.base
  rw [Path.fileAt] at hfile
  refine ⟨?_, ?_⟩
  · rw [probe, hplace]
    dsimp only
    rw [hfile, Bool.true_or, if_pos rfl, Path.fileAt]
    split <;> rfl
  · rw [probe_of_place hplace, hfile, Bool.true_or, if_pos rfl, Path.fileAt]

/-- A file is loaded where it was missing before, and nothing else is. -/
theorem locate_of_isFile (site : Site) (ns : Namespace)
    (hall : ∀ s ∈ before ++ part :: rest, IsSegment s)
    (hleads : cache.Leads before) (hmissing : cache.get? (Text.joinDots (before ++ [part])) = none)
    (hplain : ∀ s ∈ before ++ [part], Path.isPlainName s)
    (hfile : site.disk.isFile (Path.fileAt site.base (before ++ [part]))) :
    Note.loads (site.locate ns (before ++ part :: rest) cache).notes =
        [Path.fileAt site.base (before ++ [part])] ∧
      ∀ content, site.loader site.disk (Path.fileAt site.base (before ++ [part])) ns = .ok content →
        ownerFrom (site.view ns cache) [] (before ++ part :: rest) =
          .ok ⟨before.length + 1, Path.fileAt site.base (before ++ [part]), content⟩ := by
  have hall' : ∀ s ∈ before, IsSegment s := fun s hs => hall s (List.mem_append_left _ hs)
  have hview : Leads (site.view ns cache) before := fun above hne hbegins =>
    (hleads above hne hbegins).imp fun _ => view_of_cached
  obtain ⟨hprobe, hfound⟩ := probe_of_isFile ns hplain hfile
  refine ⟨?_, fun content hload => ?_⟩
  · obtain ⟨cache', notes, hmarks, hloads, hwalk⟩ := locateFrom_of_leads hall' hview
    have hmissing' := (hmarks.get?_append_singleton (isRow_append_singleton hall)).trans hmissing
    rw [locate, hwalk, Note.loads_append, hloads, List.nil_append, ← hprobe, locateFrom]
    cases hload : site.loader site.disk (Path.fileAt site.base (before ++ [part])) ns with
    | error f =>
        rw [hload] at hfound
        rw [entry_of_missing_error hmissing' (Prod.ext hfound rfl)]
        rfl
    | ok content =>
        rw [hload] at hfound
        rw [entry_of_missing_ok hmissing' (Prod.ext hfound rfl)]
        exact congrArg Note.loads (List.append_nil _)
  · rw [ownerFrom_of_leads hview]
    refine ownerFrom_of_file ?_
    rw [view_of_missing hmissing, hfound, hload]
    rfl

end Site

/-! ### Questions that fail -/

namespace Tree

variable {tree : Tree}

/-- A row that belongs to a path, with segments after it, is tried again: it is not recorded, so
a file that stands at its place by then is loaded and answers the question. -/
def Retries (tree : Tree) (path : String) (row rest : List String) : Prop :=
  tree.cache.get? (Text.joinDots row) = none ∧
    ∀ (disk : Disk) (question : Question), question.path = path →
      (∀ s ∈ row, Path.isPlainName s) → disk.isFile (Path.fileAt tree.base row) →
        Note.loads (tree.ask disk question).notes = [Path.fileAt tree.base row] ∧
          ∀ content, tree.loader disk (Path.fileAt tree.base row) tree.names = .ok content →
            (tree.ask disk question).result =
              question.answeredBy (Path.fileAt tree.base row) content rest

/-- What a question that has failed leaves behind, by what it has failed at. -/
inductive Leaves (tree : Tree) (disk : Disk) (question : Question) (f : Failure) (after : Tree)
    (notes : List Note) : Prop where
  /-- The path has no row.  Nothing has happened. -/
  | path (hpath : segments question.path tree.names = .error f) (hafter : after = tree)
      (hnotes : notes = []) : Leaves tree disk question f after notes
  /-- Every prefix of the row is a directory. -/
  | directories {row : List String} (hrow : segments question.path tree.names = .ok row)
      (hleads : Site.Leads (tree.view disk tree.names) row)
      (hf : f = (Site.onlyDirectories row).orPath question.path)
      (hmarks : tree.cache.Marks after.cache tree.base row) (hloads : Note.loads notes = []) :
      Leaves tree disk question f after notes
  /-- A prefix of the row has failed, after directories.  If the loader was asked, then for the
  file of this prefix. -/
  | stuck {before rest : List String} {part : String} {f' : Failure}
      (hrow : segments question.path tree.names = .ok (before ++ part :: rest))
      (hleads : Site.Leads (tree.view disk tree.names) before)
      (hview : tree.view disk tree.names (before ++ [part]) = .error f')
      (hf : f = f'.orPath question.path)
      (hmarks : tree.cache.Marks after.cache tree.base before)
      (hretries : after.Retries question.path (before ++ [part]) rest)
      (hloads : Note.loads notes = [] ∨ (∀ s ∈ before ++ [part], Path.isPlainName s) ∧
        Note.loads notes = [Path.fileAt tree.base (before ++ [part])]) :
      Leaves tree disk question f after notes
  /-- The path has an owner, and what the owner holds does not answer the question. -/
  | owner {owner : Owner} {file : String}
      (howned : (tree.resolve disk question.path).result = .ok owner)
      (hsource : (tree.source disk question.path).result = .ok file)
      (hf : question.answeredBy file owner.content owner.rest = .error f)
      (hafter : after = (tree.resolve disk question.path).tree)
      (hnotes : notes = (tree.resolve disk question.path).notes) :
      Leaves tree disk question f after notes

/-- Below recorded directories, a row that is not recorded is tried again. -/
theorem retries_of_leads {path : String} {before rest : List String} {part : String}
    (hrow : segments path tree.names = .ok (before ++ part :: rest))
    (hleads : tree.cache.Leads before)
    (hmissing : tree.cache.get? (Text.joinDots (before ++ [part])) = none) :
    tree.Retries path (before ++ [part]) rest := by
  refine ⟨hmissing, fun disk question hpath hplain hfile => ?_⟩
  subst hpath
  obtain ⟨hloads, hfound⟩ := (tree.site disk).locate_of_isFile tree.names
    (segments_isRow hrow).segments hleads hmissing hplain hfile
  refine ⟨?_, fun content hload => ?_⟩
  · rw [ask_notes, locate_of_segments_ok hrow, Reply.notes_andThen_ofExcept]
    exact hloads
  · have howner : tree.owner disk question.path tree.names =
        .ok (before ++ part :: rest,
          ⟨before.length + 1, Path.fileAt tree.base (before ++ [part]), content⟩) := by
      rw [owner_of_segments_ok hrow, view, hfound content hload]
      rfl
    have hdrop : (before ++ part :: rest).drop (before.length + 1) = rest := by simp
    rw [ask_result, howner]
    exact congrArg (question.answeredBy _ content) hdrop

/--
**What a failed question leaves behind.**  The tree is the one from before but for its cache, and
what was recorded stays recorded.  What is new is nothing if the path is at fault.  If the walk
failed it is the directories above the prefix that failed, or all prefixes if they all are
directories; this prefix itself is tried again the next time.  If the walk came to an owner, it is
what asking for the owner alone would have left.
-/
theorem ask_failed (tree : Tree) (disk : Disk) (question : Question) (f : Failure)
    (h : (tree.ask disk question).result = .error f) :
    let answer := tree.ask disk question
    answer.tree = { tree with cache := answer.tree.cache } ∧
      tree.cache.Keeps answer.tree.cache ∧
      tree.Leaves disk question f answer.tree answer.notes := by
  intro answer
  have htree : answer.tree = { tree with cache := answer.tree.cache } := by
    rw [show answer.tree = _ from tree.ask_tree disk question]
  obtain ⟨_, -, hwalked⟩ := tree.walked_ask disk question
  refine ⟨htree, hwalked.keeps, ?_⟩
  have hafter : answer.tree = _ := tree.ask_tree disk question
  have hnotes : answer.notes = _ := tree.ask_notes disk question
  rw [ask_result] at h
  cases hrow : segments question.path tree.names with
  | error f' =>
      rw [locate_of_segments_error hrow] at hafter hnotes
      rw [owner, hrow] at h
      cases h
      exact .path hrow hafter hnotes
  | ok row =>
      have hall := (segments_isRow hrow).segments
      rw [owner_of_segments_ok hrow] at h
      cases howner : Site.ownerFrom (tree.view disk tree.names) [] row with
      | ok owner =>
          rw [howner] at h
          have howned : (tree.resolve disk question.path).result =
              .ok ⟨owner.content, row.drop owner.taken⟩ := by
            rw [resolve_of_segments_ok hrow, howner]
            rfl
          have hsource : (tree.source disk question.path).result = .ok owner.file := by
            rw [source_of_segments_ok hrow, howner]
            rfl
          exact .owner howned hsource h
            (hafter.trans (tree.ask_tree disk (.resolve question.path)).symm)
            (hnotes.trans (tree.ask_notes disk (.resolve question.path)).symm)
      | error f' =>
          rw [howner] at h
          cases h
          rw [locate_of_segments_ok hrow, Reply.cache_andThen_ofExcept] at hafter
          rw [locate_of_segments_ok hrow, Reply.notes_andThen_ofExcept] at hnotes
          rw [hafter, hnotes]
          rcases Site.leads_of_ownerFrom_error (Site.leads_nil _) howner with
            ⟨hleads, rfl⟩ | ⟨before, part, rest, rfl, hleads, hview⟩
          · rw [List.nil_append] at hleads ⊢
            obtain ⟨hmarks, hloads⟩ := Site.marks_locate_of_leads hall hleads
            exact .directories hrow hleads rfl hmarks hloads
          · rw [List.nil_append] at hleads hview
            obtain ⟨hmarks, hmissing, hloads⟩ := Site.marks_locate_of_error hall hleads hview
            exact .stuck hrow hleads hview rfl hmarks
              (retries_of_leads hrow hmarks.leads hmissing) hloads

/-- A greeting has a placeholder that nothing stands for, and is mended. -/
theorem ask_failed_at_greeting :
    let greeting : String → Disk := fun text place =>
      if place = "cfg/en" then some .directory
      else if place = "cfg/en/greet.yaml" then some (.text text) else none
    let tree := Tree.new "cfg" none ∅ .yaml
    let question : Question := .getString "en.greet"
    let after := (tree.ask (greeting "hello ${who}\n") question).tree
    (∃ f, (tree.ask (greeting "hello ${who}\n") question).result = .error f) ∧
      after.cache.get? "en" = some (.directory "cfg/en") ∧ after.cache.get? "en.greet" = none ∧
      (after.ask (greeting "hello world\n") question).result = .ok "hello world" := by
  intro greeting tree question after
  let disk := greeting "hello ${who}\n"
  let mended := greeting "hello world\n"
  have hfails : (tree.ask disk question).result.toOption = none := by decide +kernel
  obtain ⟨f, hf⟩ : ∃ f, (tree.ask disk question).result = .error f := by
    cases hresult : (tree.ask disk question).result with
    | error f => exact ⟨f, rfl⟩
    | ok s =>
        rw [hresult] at hfails
        cases hfails
  refine ⟨⟨f, hf⟩, ?_⟩
  have hsegments : segments question.path tree.names = .ok ["en", "greet"] :=
    eq_ok_of_toOption (by decide +kernel)
  have hen : (after.cache.get? "en").isSome := by decide +kernel
  have hgreet : (after.cache.get? "en.greet").isNone := by decide +kernel
  obtain ⟨-, -, hleaves⟩ := ask_failed tree disk question f hf
  cases hleaves with
  | path hpath hafter hnotes =>
      rw [hsegments] at hpath
      cases hpath
  | directories hrow hleads hf hmarks hloads =>
      cases hsegments.symm.trans hrow
      obtain ⟨path, hpath⟩ := hmarks.leads ["en", "greet"] (by simp) (List.prefix_refl _)
      have hpath : after.cache.get? "en.greet" = some (.directory path) := hpath
      rw [hpath] at hgreet
      cases hgreet
  | owner howned hsource hf hafter hnotes =>
      have hnone : (tree.resolve disk question.path).result.toOption.isNone := by decide +kernel
      rw [howned] at hnone
      cases hnone
  | @stuck before rest part f' hrow hleads hview hf hmarks hretries hloads =>
      have hsplit := Except.ok.inj (hsegments.symm.trans hrow)
      obtain ⟨hmissing, hagain⟩ := hretries
      rcases before with _ | ⟨first, _ | ⟨second, more⟩⟩
      · obtain ⟨rfl, -⟩ := List.cons.inj hsplit
        rw [List.nil_append, Text.joinDots] at hmissing
        rw [hmissing] at hen
        cases hen
      · obtain ⟨rfl, htail⟩ := List.cons.inj hsplit
        obtain ⟨rfl, rfl⟩ := List.cons.inj htail
        have hplace : Path.joinAll "cfg" ["en"] = "cfg/en" := by decide +kernel
        have hnew : after.cache.get? "en" = some (.directory (Path.joinAll "cfg" ["en"])) :=
          (hmarks.entries _ _).mpr (.inr ⟨rfl, ["en"], by simp, List.prefix_refl _, rfl, rfl⟩)
        have hfile : mended.isFile (Path.fileAt "cfg" ["en", "greet"]) := by decide +kernel
        have hanswer : ((Loader.yaml mended (Path.fileAt "cfg" ["en", "greet"]) ∅).toOption.bind
            Value.asString?) = some "hello world" := by decide +kernel
        obtain ⟨content, hcontent, hstring⟩ := Option.bind_eq_some_iff.mp hanswer
        obtain ⟨-, hload⟩ := hagain mended question rfl (by decide) hfile
        have hloader : (tree.ask disk question).tree.loader = Loader.yaml := rfl
        rw [hloader] at hload
        refine ⟨hplace ▸ hnew, hmissing, (hload content (eq_ok_of_toOption hcontent)).trans ?_⟩
        show typed "string" Value.asString? _ content = _
        rw [typed, hstring]
      · simp at hsplit

end Tree

end DottedConfig
