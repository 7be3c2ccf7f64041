/-
The cache never shows.

Whatever a tree went through, as long as the disk stood still since its cache was last
empty, it answers every question as a new tree of the same make would.  "Went through"
takes in failed lookups, lookups with further entries, new namespaces and new loaders;
only `loadPrefix` has to be used the way lookups use it, because the key of an entry
tells neither the namespace it was made under nor where its segments were cut.

The invariant is that the tree agrees with a new one.  It holds of an empty cache, every
event that empties the cache restores it, and no other event disturbs it.
-/
import DottedConfig.Proofs.Tree.History

namespace DottedConfig

open DottedConfig.Tree (Agree Question)

namespace World

/-- **One event keeps a tree in agreement with a new one.** -/
theorem agree_fresh_step {w : World} {e : Event} (hown : e.Own w) (hstill : e.Still w)
    (h : Agree w.disk w.tree w.tree.fresh) :
    Agree (w.step e).disk (w.step e).tree (w.step e).tree.fresh := by
  by_cases hempties : e.Empties
  · rw [fresh_step hempties]
    exact Agree.refl _ _
  · have hsame : Agree w.disk (w.step e).tree w.tree := agree_step hempties hown hstill
    rw [hstill, hsame.fresh]
    exact hsame.trans h

/-- And so does a history. -/
theorem agree_fresh_run : ∀ (events : List Event) (w : World), w.Along Event.Own events →
    w.Along Event.Still events → Agree w.disk w.tree w.tree.fresh →
    Agree (w.run events).disk (w.run events).tree (w.run events).tree.fresh := by
  intro events
  induction events with
  | nil => intro w _ _ h; exact h
  | cons e rest ih =>
      intro w hown hstill h
      exact ih (w.step e) hown.2 hstill.2 (agree_fresh_step hown.1 hstill.1 h)

/--
**A tree answers as a new one does.**  After any history at whose end the disk has not
changed since the cache was empty, every question is answered as it is by a tree of the
same root, namespace and loader in which nothing was looked up yet.
-/
theorem ask_run_eq_ask_new (root : String) (topLevel : Option String) (names : Namespace)
    (loader : Loader) (disk : Disk) (before after : List Event)
    (hempty : ((start root topLevel names loader disk).run before).tree.cache = .empty)
    (hown : ((start root topLevel names loader disk).run before).Along Event.Own after)
    (hstill : ((start root topLevel names loader disk).run before).Along Event.Still after)
    (question : Question) :
    let w := (start root topLevel names loader disk).run (before ++ after)
    (w.tree.ask w.disk question).result =
      ((Tree.new w.tree.root w.tree.topLevel w.tree.names w.tree.loader).ask
        w.disk question).result := by
  intro w
  have hfresh : Agree ((start root topLevel names loader disk).run before).disk
      ((start root topLevel names loader disk).run before).tree
      ((start root topLevel names loader disk).run before).tree.fresh := by
    rw [Tree.fresh, Tree.new, ← hempty]
    exact Agree.refl _ _
  have hagree := agree_fresh_run after _ hown hstill hfresh
  rw [← run_append] at hagree
  exact hagree.ask question

/-- The file of a greeting changes and is read with a further entry; then a directory, a
missing file and the greeting are looked up. -/
theorem ask_run_eq_ask_new_of_greeting :
    let greeting : String → Disk := fun text place =>
      if place = "cfg/en" then some .directory
      else if place = "cfg/en/greet.yaml" then some (.text text) else none
    let names : Namespace := .ofList [("name", "world")]
    let before : List Event := [.ask (.get "en.greet.message"),
      .write (greeting "message: bye ${name}\n"),
      .getWith "en.greet.message" (.ofList [("name", "moon")])]
    let after : List Event := [.loadPrefix ["en"] names, .ask (.source "en.no"),
      .ask (.getString "en.greet.message")]
    let w := start "cfg" none names .yaml (greeting "message: hello ${name}\n")
    let w' := w.run (before ++ after)
    (w.run before).tree.cache = .empty ∧ (w.run before).Along Event.Own after ∧
      (w.run before).Along Event.Still after ∧
      (w'.tree.ask w'.disk (.getString "en.greet.message")).result =
        ((Tree.new w'.tree.root w'.tree.topLevel w'.tree.names w'.tree.loader).ask w'.disk
          (.getString "en.greet.message")).result := by
  intro greeting names before after w w'
  have hempty : (w.run before).tree.cache = .empty := rfl
  have hown : (w.run before).Along Event.Own after :=
    ⟨⟨rfl, by decide⟩, trivial, trivial, trivial⟩
  have hstill : (w.run before).Along Event.Still after := along_still (by simp [after]) _
  exact ⟨hempty, hown, hstill, ask_run_eq_ask_new "cfg" none names .yaml
    (greeting "message: hello ${name}\n") before after hempty hown hstill
    (.getString "en.greet.message")⟩

end World

end DottedConfig
