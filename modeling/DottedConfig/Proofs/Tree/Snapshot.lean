/-
What was found once stays found until the cache is emptied.

The disk may change at any time, so the entries of a cache need not come from one moment.
Each of them is of the moment at which it was made, and it stays.  A recorded file is below
recorded directories as long as `loadPrefix` has no part in it, so from then on it owns all
paths that begin with its row, and no disk has a say in what these are answered with.

An event that empties the cache leaves a new tree, and then the disk counts again.
-/
import DottedConfig.Proofs.Tree.Owned
import DottedConfig.Proofs.Tree.Shape
import DottedConfig.Proofs.Value.Descent

namespace DottedConfig

open DottedConfig.Tree (IsSegment Question segments segments_isRow)

/-- A file in a cache that is shaped like a tree is below recorded directories. -/
theorem Cache.Shaped.owns {cache : Cache} {base : String} (h : cache.Shaped base)
    {row : List String} (hrow : ∀ s ∈ row, IsSegment s) {file : String} {content : Value}
    (hfile : cache.get? (Text.joinDots row) = some (.file file content)) :
    cache.Owns row file content := by
  obtain ⟨row', hkey, hrecords⟩ := h _ _ hfile
  have hdots : ∀ s ∈ row', '.' ∉ s.toList := fun s hs => (hrecords.names s hs).dot
  have hne : row ≠ [] := by
    -- The empty row shares its text with that of one empty segment, which is no name.
    rintro rfl
    have hcut : Text.cutDots (Text.joinDots []) = row' := by
      rw [hkey, Text.cutDots_joinDots hrecords.nonempty hdots]
    have hempty : "" ∈ row' := hcut ▸ List.mem_singleton.mpr rfl
    exact (hrecords.names "" hempty).nonempty rfl
  obtain rfl : row = row' :=
    Text.joinDots_injective hne hrecords.nonempty (fun s hs => (hrow s hs).2) hdots hkey
  exact hrecords.owns

namespace World

/--
**What was found stays found until the cache is emptied.**  After a history `before`, and for
as long as what happens in `between` does not empty the cache, writes to the disk among it,
every entry stays as it is.  A recorded file answers every question about a path that begins
with its row, from the content that it was recorded with, and without a look at the disk or a
loader.  The event that empties the cache then leaves a tree that answers as a new one.
-/
theorem found_until_emptied (root : String) (topLevel : Option String) (names : Namespace)
    (loader : Loader) (disk : Disk) (before between : List Event)
    (hregular : ∀ e ∈ before, e.Regular) (hbetween : ∀ e ∈ between, ¬e.Empties) :
    let w := (start root topLevel names loader disk).run before
    let w' := (start root topLevel names loader disk).run (before ++ between)
    (∀ key entry, w.tree.cache.get? key = some entry → w'.tree.cache.get? key = some entry) ∧
      (∀ row file content,
        w.tree.cache.get? (Text.joinDots row) = some (.file file content) →
        ∀ (question : Question) (rest : List String),
          segments question.path w'.tree.names = .ok (row ++ rest) →
          ∃ notes, Note.loads notes = [] ∧ ∀ later : Disk, w'.tree.ask later question =
            ⟨question.answeredBy file content rest, w'.tree, notes⟩) ∧
      ∀ e : Event, e.Empties → ∀ (later : Disk) (question : Question),
        (w'.step e).tree.ask later question = (e.renewed w'.tree).ask later question := by
  intro w w'
  obtain ⟨cache, hkeeps, htree⟩ := tree_run_of_not_empties hbetween w
  have hsplit : w' = w.run between := run_append _ before between
  rw [← hsplit] at htree
  have hcache : w'.tree.cache = cache := by rw [htree]
  refine ⟨fun key entry h => hcache ▸ hkeeps key entry h, ?_, ?_⟩
  · intro row file content hfile question rest hparts
    have hshaped : w.tree.cache.Shaped w.tree.base := shaped_run hregular (Cache.shaped_empty _)
    have hrow : ∀ s ∈ row, IsSegment s := fun s hs =>
      (segments_isRow hparts).segments s (List.mem_append_left rest hs)
    have howns : w'.tree.cache.Owns row file content :=
      hcache ▸ (hshaped.owns hrow hfile).mono hkeeps
    exact Tree.ask_of_owns question howns hparts
  · intro e hempties later question
    rw [tree_step_of_empties hempties]

/-- A greeting is read, and goes on to be found after all is deleted, until a flush. -/
theorem found_until_emptied_of_greeting :
    let disk : Disk := fun place =>
      if place = "cfg/en" then some .directory
      else if place = "cfg/en/greet.yaml" then some (.text "message: hello\n") else none
    let before : List Event := [.ask (.get "en.greet.message")]
    let between : List Event := [.write fun _ => none, .ask (.source "en.no"), .raw "en.greet"]
    let w := (start "cfg" none ∅ .yaml disk).run (before ++ between)
    (∀ e ∈ before, e.Regular) ∧ (∀ e ∈ between, ¬e.Empties) ∧
      ∀ later : Disk, (w.tree.getString later "en.greet.message").result = .ok "hello" ∧
        (w.tree.flush.tree.get later "en.greet.message").result =
          (w.tree.fresh.get later "en.greet.message").result := by
  intro disk before between w
  have hregular : ∀ e ∈ before, e.Regular := by simp [before, Event.Regular]
  have hbetween : ∀ e ∈ between, ¬e.Empties := by simp [between, Event.Empties]
  obtain ⟨-, hfiles, hemptied⟩ :=
    found_until_emptied "cfg" none ∅ .yaml disk before between hregular hbetween
  have hheld : ((((start "cfg" none ∅ .yaml disk).run before).tree.cache.get? "en.greet").bind
      Cache.Entry.held?).bind (fun held => (held.2.below? ["message"]).bind Value.asString?) =
        some "hello" := by decide +kernel
  obtain ⟨⟨file, content⟩, hheld, hmessage⟩ := Option.bind_eq_some_iff.mp hheld
  obtain ⟨entry, hentry, hheld⟩ := Option.bind_eq_some_iff.mp hheld
  obtain rfl := Cache.Entry.held?_eq_some hheld
  obtain ⟨value, hbelow, hstring⟩ := Option.bind_eq_some_iff.mp hmessage
  obtain rfl := Value.eq_string_of_asString? hstring
  have hparts : segments "en.greet.message" w.tree.names = .ok (["en", "greet"] ++ ["message"]) :=
    eq_ok_of_toOption (by decide +kernel)
  obtain ⟨notes, -, hask⟩ :=
    hfiles ["en", "greet"] file content hentry (.getString "en.greet.message") _ hparts
  refine ⟨hregular, hbetween, fun later => ⟨?_, ?_⟩⟩
  · show (w.tree.ask later (.getString "en.greet.message")).result = _
    rw [hask later, Tree.Question.answeredBy, Value.atKeys_of_below hbelow]
    rfl
  · exact congrArg Tree.Answer.result (hemptied .flush trivial later (.get "en.greet.message"))

end World

end DottedConfig
