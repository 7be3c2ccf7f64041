/-
When a call of `loadPrefix` shows.

`loadPrefix` looks up a row under a namespace of the caller's choice, and records what it
finds for good.  The key that it records under is the dotted text of the row, and that is
all a later lookup goes by.  So the entry answers for whichever row has this text, under
the tree's own namespace, and there are two ways for it to be wrong: its placeholders were
filled from another namespace, or the text is that of another row, which takes a dot within
a segment.

`Unseen` says that neither makes a difference, and it is exactly what keeps every later
answer as it was.  That nothing weaker would do is because every row is that of some path:
where an entry tells something new, a question about its row, or about a row beyond it,
brings it to light.
-/
import DottedConfig.Proofs.Tree.History
import DottedConfig.Proofs.Tree.Probe
import DottedConfig.Proofs.Value.Descent

namespace DottedConfig

namespace Tree

open Site (OwnerFile ownerFrom Leads)

variable {tree tree' : Tree} {disk : Disk} {before : List String} {part : String}

/-! ### What questions bring to light -/

section

variable {rest : List String}

theorem source_of_row (hleads : Leads (tree.view disk tree.names) before)
    (hrow : IsRow (before ++ part :: rest)) :
    (tree.source disk (pathOf (before ++ part :: rest))).result =
      ((ownerFrom (tree.view disk tree.names) before (part :: rest)).mapError
        (·.orPath (pathOf (before ++ part :: rest)))).map OwnerFile.file := by
  rw [source_of_segments_ok (segments_pathOf hrow _), Site.ownerFrom_of_leads hleads]

theorem resolve_of_row (hleads : Leads (tree.view disk tree.names) before)
    (hrow : IsRow (before ++ part :: rest)) :
    (tree.resolve disk (pathOf (before ++ part :: rest))).result =
      ((ownerFrom (tree.view disk tree.names) before (part :: rest)).mapError
        (·.orPath (pathOf (before ++ part :: rest)))).map fun owner =>
          ⟨owner.content, (before ++ part :: rest).drop owner.taken⟩ := by
  rw [resolve_of_segments_ok (segments_pathOf hrow _), Site.ownerFrom_of_leads hleads]

end

/-- Below every row there is one that stands for nothing: one with a segment that is no plain
name, and long enough not to be in the cache. -/
theorem exists_nothingAt (tree : Tree) (disk : Disk) (row : List String) :
    ∃ s, IsSegment s ∧ ∃ stopped,
      tree.view disk tree.names (row ++ [s]) = .error (Site.nothingAt stopped) := by
  obtain ⟨n, hn⟩ := tree.cache.exists_get?_eq_none
  let s := String.ofList (List.replicate (n + 1) '/')
  have hlist : s.toList = List.replicate (n + 1) '/' := String.toList_ofList
  have hlength : s.length = n + 1 := by
    rw [← String.length_toList, hlist, List.length_replicate]
  have hsegment : IsSegment s := by
    refine ⟨fun hempty => ?_, fun hdot => ?_⟩
    · rw [hempty] at hlength
      simp at hlength
    · rw [hlist] at hdot
      exact absurd (List.eq_of_mem_replicate hdot) (by decide)
  have hplain : ¬Path.isPlainName s := by
    simp [Path.isPlainName, hlist]
  have hmissing : tree.cache.get? (Text.joinDots (row ++ [s])) = none := by
    refine hn _ ?_
    have := Text.length_le_joinDots row s
    omega
  obtain ⟨stopped, hstopped⟩ : ∃ stopped,
      Site.place (tree.site disk).base (row ++ [s]) = .error (Site.nothingAt stopped) :=
    Site.place_of_not_plain (by simp) hplain
  refine ⟨s, hsegment, stopped, ?_⟩
  rw [view, Site.view_of_missing hmissing]
  exact Site.probe_of_place_error hstopped

section

variable (hrow : IsRow (before ++ [part])) (hleads : Leads (tree.view disk tree.names) before)
  (hleads' : Leads (tree'.view disk tree'.names) before)
  (hsame : ∀ question, (tree.ask disk question).result = (tree'.ask disk question).result)

include hrow hleads hleads' hsame

/-- Trees that answer alike see the same file. -/
theorem view_eq_file {file : String} {content : Value}
    (h : tree.view disk tree.names (before ++ [part]) = .ok (.file file content)) :
    tree'.view disk tree'.names (before ++ [part]) = .ok (.file file content) := by
  have hsource : (tree.source disk (pathOf (before ++ [part]))).result =
      (tree'.source disk (pathOf (before ++ [part]))).result := hsame (.source _)
  have hresolve : (tree.resolve disk (pathOf (before ++ [part]))).result =
      (tree'.resolve disk (pathOf (before ++ [part]))).result := hsame (.resolve _)
  rw [source_of_row hleads hrow, source_of_row hleads' hrow, Site.ownerFrom_of_file h] at hsource
  rw [resolve_of_row hleads hrow, resolve_of_row hleads' hrow, Site.ownerFrom_of_file h]
    at hresolve
  cases hview : tree'.view disk tree'.names (before ++ [part]) with
  | error f =>
      rw [Site.ownerFrom_of_error hview] at hsource
      cases hsource
  | ok entry =>
      cases entry with
      | directory path =>
          rw [Site.ownerFrom_of_directory hview] at hsource
          cases hsource
      | file file' content' =>
          rw [Site.ownerFrom_of_file hview] at hsource hresolve
          cases hsource
          cases hresolve
          rfl

/-- Where one sees a directory, the other does not see a failure. -/
theorem view_ne_error {path : String}
    (h : tree.view disk tree.names (before ++ [part]) = .ok (.directory path)) (f : Failure) :
    tree'.view disk tree'.names (before ++ [part]) ≠ .error f := by
  intro hview
  -- The failure would have to say that there are only directories, because it is the answer
  -- for the row, and that there is nothing, because it is the answer for a row beyond it.
  have hhere : (tree.source disk (pathOf (before ++ [part]))).result =
      (tree'.source disk (pathOf (before ++ [part]))).result := hsame (.source _)
  rw [source_of_row hleads hrow, source_of_row hleads' hrow, Site.ownerFrom_of_directory h,
    Site.ownerFrom_of_error hview] at hhere
  have hdirectories := congrArg Failure.cause (Except.error.inj hhere)
  obtain ⟨s, hs, stopped, hnothing⟩ := tree.exists_nothingAt disk (before ++ [part])
  have hrow' : IsRow (before ++ part :: [s]) := by
    have hbeyond := hrow.append_singleton hs
    rwa [List.append_assoc] at hbeyond
  have hbeyond : (tree.source disk (pathOf (before ++ part :: [s]))).result =
      (tree'.source disk (pathOf (before ++ part :: [s]))).result := hsame (.source _)
  rw [source_of_row hleads hrow', source_of_row hleads' hrow', Site.ownerFrom_of_directory h,
    Site.ownerFrom_of_error hview, Site.ownerFrom_of_error hnothing] at hbeyond
  have hstopped := congrArg Failure.cause (Except.error.inj hbeyond)
  rw [Failure.cause_orPath, Failure.cause_orPath] at hdirectories hstopped
  cases hdirectories.trans hstopped.symm

/-- **Trees that answer alike see the same of a row, up to the path of a directory.** -/
theorem held_eq_of_same {entry : Cache.Entry}
    (h : tree.view disk tree.names (before ++ [part]) = .ok entry) :
    (tree'.view disk tree'.names (before ++ [part])).map Cache.Entry.held? = .ok entry.held? := by
  cases entry with
  | file file content =>
      rw [view_eq_file hrow hleads hleads' hsame h]
      rfl
  | directory path =>
      cases hview : tree'.view disk tree'.names (before ++ [part]) with
      | error f => exact absurd hview (view_ne_error hrow hleads hleads' hsame h f)
      | ok entry' =>
          cases entry' with
          | directory path' => rfl
          | file file content =>
              have hfile := view_eq_file hrow hleads' hleads (fun q => (hsame q).symm) hview
              rw [h] at hfile
              cases hfile

end

/-! ### What a call records -/

variable {parts : List String} {ns : Namespace}

/-- A call that fails records nothing. -/
theorem loadPrefix_tree_of_error {f : Failure} (h : tree.view disk ns parts = .error f) :
    (tree.loadPrefix disk parts ns).tree = tree := by
  rw [loadPrefix_tree, Site.entry_cache_of_error h]

/-- What a call finds answers for every row of the same text, under every namespace. -/
theorem view_loadPrefix_self {entry : Cache.Entry} (h : tree.view disk ns parts = .ok entry)
    {row : List String} (hkey : Text.joinDots row = Text.joinDots parts) (ns' : Namespace) :
    (tree.loadPrefix disk parts ns).tree.view disk ns' row = .ok entry := by
  rw [loadPrefix_tree]
  refine Site.view_of_cached ?_
  rw [hkey]
  exact Site.get?_entry_self h

/-- And for no other row. -/
theorem view_loadPrefix_ne {row : List String} (hkey : Text.joinDots row ≠ Text.joinDots parts)
    (ns' : Namespace) :
    (tree.loadPrefix disk parts ns).tree.view disk ns' row = tree.view disk ns' row := by
  rw [loadPrefix_tree]
  exact Site.view_entry_ne hkey ns'

theorem leads_loadPrefix (hrow : IsRow (before ++ [part]))
    (hkey : Text.joinDots (before ++ [part]) = Text.joinDots parts)
    (h : Leads (tree.view disk tree.names) before) :
    Leads ((tree.loadPrefix disk parts ns).tree.view disk tree.names) before := by
  intro row hne hbegins
  have hne' : Text.joinDots row ≠ Text.joinDots parts := by
    intro heq
    have hrow' : IsRow row := hrow.of_prefix hne (hbegins.trans (List.prefix_append before [part]))
    have hlength := hbegins.length_le
    rw [hrow'.eq_of_joinDots hrow (heq.trans hkey.symm), List.length_append,
      List.length_singleton] at hlength
    omega
  rw [view_loadPrefix_ne hne']
  exact h row hne hbegins

/-! ### When it shows -/

/-- If a call finds anything, it is what the row of the same text stands for under the tree's
own namespace, as far as lookups come to this row and take anything from it. -/
def Unseen (tree : Tree) (disk : Disk) (parts : List String) (ns : Namespace) : Prop :=
  ∀ entry before part, tree.view disk ns parts = .ok entry → IsRow (before ++ [part]) →
    Text.joinDots (before ++ [part]) = Text.joinDots parts →
    Leads (tree.view disk tree.names) before →
    (tree.view disk tree.names (before ++ [part])).map Cache.Entry.held? = .ok entry.held?

/-- A call made the way lookups make theirs is unseen. -/
theorem unseen_of_isRow (tree : Tree) (disk : Disk) (h : IsRow parts) :
    Unseen tree disk parts tree.names := by
  intro entry before part hentry hrow hkey _
  rw [hrow.eq_of_joinDots h hkey, hentry]
  rfl

/-- **An unseen call leaves a tree that agrees with the one it found.** -/
theorem agree_of_unseen (h : Unseen tree disk parts ns) :
    Agree disk (tree.loadPrefix disk parts ns).tree tree := by
  refine ⟨by rw [loadPrefix_tree]; rfl, fun row hrow => ?_⟩
  refine Site.ownerFrom_congr (fun before part hpart hleads => ?_) row [] hrow.segments
    (Site.leads_nil _)
  by_cases hkey : Text.joinDots (before ++ [part]) = Text.joinDots parts
  · cases hentry : tree.view disk ns parts with
    | error f => rw [loadPrefix_tree_of_error hentry]
    | ok entry =>
        rw [view_loadPrefix_self hentry hkey, h entry before part hentry hpart hkey hleads]
        rfl
  · rw [view_loadPrefix_ne hkey]
    rw [loadPrefix_tree]

/-- **A call that no question finds out is unseen.** -/
theorem unseen_of_same
    (h : ∀ question, ((tree.loadPrefix disk parts ns).tree.ask disk question).result =
      (tree.ask disk question).result) : Unseen tree disk parts ns := by
  intro entry before part hentry hrow hkey hleads
  have hnames : (tree.loadPrefix disk parts ns).tree.names = tree.names := by rw [loadPrefix_tree]
  have hleads' : Leads ((tree.loadPrefix disk parts ns).tree.view disk
      (tree.loadPrefix disk parts ns).tree.names) before := by
    rw [hnames]
    exact leads_loadPrefix hrow hkey hleads
  exact held_eq_of_same hrow hleads' hleads h (view_loadPrefix_self hentry hkey _)

section

variable {events : List Event} (hown : (World.mk tree disk).Along Event.Own events)
  (hstill : (World.mk tree disk).Along Event.Still events) (question : Question)

include hown hstill

/-- **After an unseen call, every history leads to the answers it would have led to.** -/
theorem ask_run_of_unseen (h : Unseen tree disk parts ns) :
    let w := (World.mk tree disk).run events
    let w' := (World.mk (tree.loadPrefix disk parts ns).tree disk).run events
    (w'.tree.ask w'.disk question).result = (w.tree.ask w.disk question).result := by
  intro w w'
  have hboth : w'.disk = w.disk ∧ Agree w'.disk w'.tree w.tree :=
    World.agree_run_run events _ _ rfl (agree_of_unseen h) hown hstill
  obtain ⟨hdisk, hagree⟩ := hboth
  rw [← hdisk]
  exact hagree.ask question

/-- **A call made the way lookups make theirs changes no later answer**, whatever the cache
holds and whether or not it finds anything. -/
theorem ask_run_of_isRow (h : IsRow parts) :
    let w := (World.mk tree disk).run events
    let w' := (World.mk (tree.loadPrefix disk parts tree.names).tree disk).run events
    (w'.tree.ask w'.disk question).result = (w.tree.ask w.disk question).result :=
  ask_run_of_unseen hown hstill question (unseen_of_isRow tree disk h)

end

/--
**A call of `loadPrefix` leaves all later answers as they were exactly if it is unseen.**
Later is after any history on the same disk, in which `loadPrefix` is used the way lookups
use it; another use of it could show on its own account.
-/
theorem same_answers_iff_unseen (tree : Tree) (disk : Disk) (parts : List String)
    (ns : Namespace) :
    (∀ events : List Event, (World.mk tree disk).Along Event.Own events →
      (World.mk tree disk).Along Event.Still events → ∀ question : Question,
        let w := (World.mk tree disk).run events
        let w' := (World.mk (tree.loadPrefix disk parts ns).tree disk).run events
        (w'.tree.ask w'.disk question).result = (w.tree.ask w.disk question).result) ↔
      Unseen tree disk parts ns := by
  constructor
  · intro h
    exact unseen_of_same (h [] trivial trivial)
  · intro h events hown hstill question
    exact ask_run_of_unseen hown hstill question h

theorem eq_string_of_asString? {result : Except Failure Value} {s : String}
    (h : result.toOption.bind Value.asString? = some s) : result = .ok (.string s) := by
  obtain ⟨value, hvalue, hstring⟩ := Option.bind_eq_some_iff.mp h
  rw [eq_ok_of_toOption hvalue, Value.eq_string_of_asString? hstring]

/-- It can be seen.  A greeting that was looked up for the moon goes to the world, and a file
with a dot in its name answers for a file in a directory. -/
theorem loadPrefix_seen :
    let tree := Tree.new "cfg" none (.ofList [("name", "world")]) .yaml
    let greeting : Disk := fun place =>
      if place = "cfg/greet.yaml" then some (.text "message: hello ${name}\n") else none
    let moon := (tree.loadPrefix greeting ["greet"] (.ofList [("name", "moon")])).tree
    let files : Disk := fun place =>
      if place = "cfg/a" then some .directory
      else if place = "cfg/a/b.yaml" then some (.text "from: directory\n")
      else if place = "cfg/a.b.yaml" then some (.text "from: name\n") else none
    let dotted := (tree.loadPrefix files ["a.b"] tree.names).tree
    (tree.get greeting "greet.message").result = .ok (.string "hello world") ∧
      (moon.get greeting "greet.message").result = .ok (.string "hello moon") ∧
      (tree.get files "a.b.from").result = .ok (.string "directory") ∧
      (dotted.get files "a.b.from").result = .ok (.string "name") := by
  intro tree greeting moon files dotted
  refine ⟨?_, ?_, ?_, ?_⟩
  · exact eq_string_of_asString? (by decide +kernel)
  · exact eq_string_of_asString? (by decide +kernel)
  · exact eq_string_of_asString? (by decide +kernel)
  · exact eq_string_of_asString? (by decide +kernel)

end Tree

end DottedConfig
