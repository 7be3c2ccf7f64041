/-
How often the loader is asked.

One question asks the loader for one file at most, because its walk ends at the first file
that it comes to, and ends as well where the loader fails.  Over a run in which the cache is
not emptied, the loader makes the content of a file once: then the file is recorded, and a
recorded file is neither loaded nor walked past, so every later question whose row begins
with that of the file is answered without the loader.  A file whose content could not be
made is not recorded, and may be asked for again.

The disk may become another one between any two events.  What a loader answers may hang on
the whole disk, so this also covers one whose answers change for reasons of its own.
-/
import DottedConfig.Proofs.Tree.Isolation
import DottedConfig.Proofs.Tree.Owned

namespace DottedConfig

open DottedConfig.Tree (Question segments)

/-- A question, a look at the text of an owner, or a write: the cache stays as it is, but for
what a question adds. -/
def Event.Keeping : Event → Prop
  | .ask _ | .raw _ | .write _ => True
  | _ => False

namespace World

/-! ### One question -/

/-- The files that the loader is asked for when a question is put. -/
def loads (w : World) (question : Question) : List String :=
  Note.loads (w.tree.ask w.disk question).notes

/-- Those of them that the loader makes the content of. -/
def made (w : World) (question : Question) : List String :=
  (w.loads question).filter fun file => (w.tree.loader w.disk file w.tree.names).isOk

/-- A question has the loader asked for the file of a row, and for no other. -/
structure LoadsFor (w : World) (question : Question) (row : List String) : Prop
    extends (w.tree.site w.disk).Loads w.tree.names row w.tree.cache
      (w.tree.ask w.disk question).tree.cache (w.tree.ask w.disk question).notes where
  /-- The row begins that of the question's path. -/
  begins : ∃ parts, segments question.path w.tree.names = .ok parts ∧ row <+: parts

variable {w : World} {question : Question} {row : List String}

/-- **A question loads one file at most.** -/
theorem loads_eq_nil_or (w : World) (question : Question) :
    w.loads question = [] ∨ ∃ row, w.LoadsFor question row := by
  obtain ⟨parts, hparts, hwalked⟩ := w.tree.walked_ask w.disk question
  refine hwalked.loads.imp_right ?_
  rintro ⟨row, hbegins, hloads⟩
  refine ⟨row, hloads, ?_⟩
  rcases hparts with rfl | hparts
  · exact absurd (List.prefix_nil.mp hbegins) hloads.nonempty
  · exact ⟨parts, hparts, hbegins⟩

theorem LoadsFor.made_of_ok (h : w.LoadsFor question row) {content : Value}
    (hload : w.tree.loader w.disk (Path.fileAt w.tree.base row) w.tree.names = .ok content) :
    w.made question = [Path.fileAt w.tree.base row] := by
  have hfiles : w.loads question = [Path.fileAt w.tree.base row] := h.loads
  simp [made, hfiles, hload, Except.isOk, Except.toBool]

theorem LoadsFor.made_of_error (h : w.LoadsFor question row) {f : Failure}
    (hload : w.tree.loader w.disk (Path.fileAt w.tree.base row) w.tree.names = .error f) :
    w.made question = [] := by
  have hfiles : w.loads question = [Path.fileAt w.tree.base row] := h.loads
  simp [made, hfiles, hload, Except.isOk, Except.toBool]

/-- A recorded file stands in the way of every walk along its row. -/
theorem loads_eq_nil_of_records {file : String} {content : Value} {parts : List String}
    (h : w.tree.cache.Records w.tree.base row (.file file content))
    (hparts : segments question.path w.tree.names = .ok parts) (hbegins : row <+: parts) :
    w.loads question = [] := by
  obtain ⟨rest, rfl⟩ := hbegins
  obtain ⟨notes, hloads, hask⟩ := Tree.ask_of_owns question h.owns hparts
  rw [loads, hask w.disk]
  exact hloads

/-! ### What was made is held -/

/-- The content of a file is recorded. -/
def Holds (tree : Tree) (file : String) : Prop :=
  ∃ row content, tree.cache.Records tree.base row (.file file content)

theorem LoadsFor.records (h : w.LoadsFor question row) {content : Value}
    (hload : w.tree.loader w.disk (Path.fileAt w.tree.base row) w.tree.names = .ok content) :
    (w.tree.ask w.disk question).tree.cache.Records w.tree.base row
      (.file (Path.fileAt w.tree.base row) content) :=
  ⟨h.toReaches, h.kept content hload, .inr ⟨content, rfl⟩⟩

/-- What the loader is asked for was not held. -/
theorem LoadsFor.not_holds (h : w.LoadsFor question row) :
    ¬Holds w.tree (Path.fileAt w.tree.base row) := by
  rintro ⟨row', content, hrecords⟩
  have hfile : Path.fileAt w.tree.base row = Path.fileAt w.tree.base row' := by
    rcases hrecords.stands with hdirectory | ⟨content', hfile⟩
    · cases hdirectory
    · exact (Cache.Entry.file.inj hfile).1
  obtain rfl := Path.fileAt_injective h.nonempty hrecords.nonempty h.names hrecords.names hfile
  have hmissing := h.missing
  rw [hrecords.recorded] at hmissing
  cases hmissing

/-! ### A run -/

/-- The files that the loader makes the content of for the questions of a history. -/
def madeAlong : World → List Event → List String
  | _, [] => []
  | w, .ask question :: rest => w.made question ++ madeAlong (w.step (.ask question)) rest
  | w, e :: rest => madeAlong (w.step e) rest

theorem not_empties_of_keeping {e : Event} (h : e.Keeping) : ¬e.Empties := by
  cases e with
  | ask question => exact id
  | raw path => exact id
  | write disk => exact id
  | _ => exact h.elim

/-- An event of a run adds to the cache and leaves all else of the tree alone. -/
theorem tree_step_of_keeping {e : Event} (h : e.Keeping) (w : World) :
    ∃ cache, w.tree.cache.Keeps cache ∧ (w.step e).tree = { w.tree with cache := cache } :=
  tree_step_of_not_empties (not_empties_of_keeping h) w

/-- And so does a run. -/
theorem tree_run_of_keeping {events : List Event} (h : ∀ e ∈ events, e.Keeping) (w : World) :
    ∃ cache, w.tree.cache.Keeps cache ∧ (w.run events).tree = { w.tree with cache := cache } :=
  tree_run_of_not_empties (fun e he => not_empties_of_keeping (h e he)) w

theorem Holds.mono {tree : Tree} {file : String} {cache : Cache} (h : Holds tree file)
    (hkeeps : tree.cache.Keeps cache) : Holds { tree with cache := cache } file := by
  obtain ⟨row, content, hrecords⟩ := h
  exact ⟨row, content, hrecords.mono hkeeps⟩

/-- A question makes one file at most, and none that is held; what it makes is held then. -/
theorem made_eq_nil_or (w : World) (question : Question) :
    w.made question = [] ∨ ∃ file, w.made question = [file] ∧ ¬Holds w.tree file ∧
      Holds (w.step (.ask question)).tree file := by
  rcases w.loads_eq_nil_or question with hnone | ⟨row, hloads⟩
  · exact .inl (by rw [made, hnone, List.filter_nil])
  · cases hload : w.tree.loader w.disk (Path.fileAt w.tree.base row) w.tree.names with
    | error f => exact .inl (hloads.made_of_error hload)
    | ok content =>
        have hrecords := hloads.records hload
        refine .inr ⟨_, hloads.made_of_ok hload, hloads.not_holds, row, content, ?_⟩
        rw [base_step]
        exact hrecords

/-- **Over a run no file is made twice**, nor is one that was held at its beginning. -/
theorem nodup_madeAlong {events : List Event} (h : ∀ e ∈ events, e.Keeping) (w : World) :
    (w.madeAlong events).Nodup ∧ ∀ file ∈ w.madeAlong events, ¬Holds w.tree file := by
  induction events generalizing w with
  | nil => exact ⟨List.nodup_nil, fun file hfile => absurd hfile List.not_mem_nil⟩
  | cons e rest ih =>
      obtain ⟨hnodup, hnew⟩ := ih (fun e' he' => h e' (List.mem_cons_of_mem _ he')) (w.step e)
      obtain ⟨cache, hkeeps, htree⟩ := tree_step_of_keeping (h e List.mem_cons_self) w
      have hnew' : ∀ file ∈ (w.step e).madeAlong rest, ¬Holds w.tree file := by
        intro file hfile hheld
        refine hnew file hfile ?_
        rw [htree]
        exact hheld.mono hkeeps
      cases e with
      | ask question =>
          show (w.made question ++ _).Nodup ∧ ∀ file ∈ w.made question ++ _, _
          rcases w.made_eq_nil_or question with hnone | ⟨file, hmade, hunheld, hheld⟩
          · rw [hnone, List.nil_append]
            exact ⟨hnodup, hnew'⟩
          · rw [hmade, List.singleton_append]
            refine ⟨List.nodup_cons.mpr ⟨fun hmem => hnew file hmem hheld, hnodup⟩, ?_⟩
            exact List.forall_mem_cons.mpr ⟨hunheld, hnew'⟩
      | raw path => exact ⟨hnodup, hnew'⟩
      | write disk => exact ⟨hnodup, hnew'⟩
      | _ => exact (h _ List.mem_cons_self).elim

/-- **A file that was made is not loaded again**, nor is any other for a row that begins with
that of the file. -/
theorem loads_eq_nil_of_made {asked : Question} {after : List Event} {parts : List String}
    (hafter : ∀ e ∈ after, e.Keeping) (hloads : w.LoadsFor asked row) (hmade : w.made asked ≠ [])
    (hparts : segments question.path w.tree.names = .ok parts) (hbegins : row <+: parts) :
    (w.run (.ask asked :: after)).loads question = [] := by
  cases hload : w.tree.loader w.disk (Path.fileAt w.tree.base row) w.tree.names with
  | error f => exact absurd (hloads.made_of_error hload) hmade
  | ok content =>
      have hrecords := hloads.records hload
      have hask := Tree.ask_tree w.tree w.disk asked
      obtain ⟨cache, hkeeps, htree⟩ := tree_run_of_keeping hafter (w.step (.ask asked))
      have hlater : (w.run (.ask asked :: after)).tree = { w.tree with cache := cache } := by
        refine htree.trans ?_
        show { (w.tree.ask w.disk asked).tree with cache := cache } = _
        rw [hask]
      have hheld : (w.run (.ask asked :: after)).tree.cache.Records
          (w.run (.ask asked :: after)).tree.base row
          (.file (Path.fileAt w.tree.base row) content) := by
        rw [hlater]
        exact hrecords.mono hkeeps
      refine loads_eq_nil_of_records hheld ?_ hbegins
      rw [hlater]
      exact hparts

end World

/-- A lookup with further entries loads one file at most, too. -/
theorem Tree.length_loads_getWith_le (tree : Tree) (disk : Disk) (path : String)
    (extra : Namespace) : (Note.loads (tree.getWith disk path extra).notes).length ≤ 1 := by
  obtain ⟨tree', -, hsame⟩ := tree.loads_getWith disk path extra
  obtain ⟨row, -, hwalked⟩ := tree'.walked_locate disk path (tree.names.overlay extra)
  rw [hsame, lookup_notes]
  rcases hwalked.loads with hnone | ⟨part, -, hloads⟩
  · rw [hnone]
    exact Nat.zero_le 1
  · rw [hloads.loads]
    exact Nat.le_refl 1

namespace World

/--
**The loader is asked as little as can be.**  In a run from one emptying of the cache to the
next, which begins with a new tree, each question has it asked for one file at most: that of
a row which begins the row of the question's path, below recorded directories.  Over the run
it makes no file twice, and once it has made the file of a row, questions whose rows begin
with this one load nothing.  A lookup with further entries has it asked for one file at most
as well.
-/
theorem loads_once (root : String) (topLevel : Option String) (names : Namespace)
    (loader : Loader) (disk : Disk) (events : List Event) (hkeeping : ∀ e ∈ events, e.Keeping) :
    let w := start root topLevel names loader disk
    (∀ question, (w.run events).loads question = [] ∨
        ∃ row, (w.run events).LoadsFor question row) ∧
      (w.madeAlong events).Nodup ∧
      (∀ before asked after row, events = before ++ .ask asked :: after →
        (w.run before).LoadsFor asked row → (w.run before).made asked ≠ [] →
        ∀ question parts, segments question.path names = .ok parts → row <+: parts →
          (w.run events).loads question = []) ∧
      ∀ (tree : Tree) (disk : Disk) (path : String) (extra : Namespace),
        (Note.loads (tree.getWith disk path extra).notes).length ≤ 1 := by
  intro w
  refine ⟨(w.run events).loads_eq_nil_or, (nodup_madeAlong hkeeping w).1, ?_,
    Tree.length_loads_getWith_le⟩
  intro before asked after row hevents hloads hmade question parts hparts hbegins
  have hbefore : ∀ e ∈ before, e.Keeping := fun e he => hkeeping e (by rw [hevents]; simp [he])
  have hafter : ∀ e ∈ after, e.Keeping := fun e he => hkeeping e (by rw [hevents]; simp [he])
  obtain ⟨cache, -, htree⟩ := tree_run_of_keeping hbefore w
  have hnames : (w.run before).tree.names = names := by
    rw [htree]
    rfl
  rw [hevents, run_append]
  exact loads_eq_nil_of_made hafter hloads hmade (by rw [hnames]; exact hparts) hbegins

/-- A greeting without a name for its placeholder is asked for, then mended, asked for again and
deleted; what is looked up below it then is still answered from the cache. -/
theorem loads_once_of_greeting :
    let greeting : String → Disk := fun text place =>
      if place = "cfg/en" then some .directory
      else if place = "cfg/en/greet.yaml" then some (.text text) else none
    let before : List Event := [.ask (.get "en.greet.message"),
      .write (greeting "message: hello\n")]
    let asked : Question := .getString "en.greet.message"
    let after : List Event := [.write fun _ => none, .ask (.source "fr.greet")]
    let events := before ++ .ask asked :: after
    let w := start "cfg" none ∅ .yaml (greeting "message: hello ${name}\n")
    (∀ e ∈ events, e.Keeping) ∧ w.loads (.get "en.greet.message") = ["cfg/en/greet.yaml"] ∧
      w.madeAlong events = ["cfg/en/greet.yaml"] ∧ (w.madeAlong events).Nodup ∧
      (w.run events).loads (.source "en.greet.message.text") = [] := by
  intro greeting before asked after events w
  have hkeeping : ∀ e ∈ events, e.Keeping := by simp [events, before, after, Event.Keeping]
  obtain ⟨-, hnodup, hlater, -⟩ := loads_once "cfg" none ∅ .yaml _ events hkeeping
  have hbefore : ∀ e ∈ before, e.Keeping := by simp [before, Event.Keeping]
  obtain ⟨hasked, -⟩ := loads_once "cfg" none ∅ .yaml
    (greeting "message: hello ${name}\n") before hbefore
  obtain ⟨row, hloads⟩ := (hasked asked).resolve_left (by decide +kernel)
  obtain ⟨parts, hparts, hbegins⟩ := hloads.begins
  have hbegins' : row <+: ["en", "greet", "message", "text"] := by
    have hsegments : segments "en.greet.message" ∅ = .ok ["en", "greet", "message"] := rfl
    obtain rfl : parts = _ := Except.ok.inj (hparts.symm.trans hsegments)
    exact hbegins.trans (by decide)
  refine ⟨hkeeping, by decide +kernel, by decide +kernel, hnodup, ?_⟩
  exact hlater before asked after row rfl hloads (by decide +kernel) _ _ rfl hbegins'

end World

end DottedConfig
