/-
Further entries are for one call.

A lookup with further entries starts from an empty cache, under the namespace with these
entries laid over it, and leaves an empty cache behind.  So nothing that was cached
before can reach its answer, stale or not, and nothing that it found can reach a later
one.  Both hold however the lookup ends: the cache is emptied after it, not by it.
-/
import DottedConfig.Proofs.Tree.History

namespace DottedConfig

namespace SortedMap

variable {β : Type}

theorem isEmpty_eq_false {map : SortedMap β} (h : map ≠ ∅) : map.isEmpty = false := by
  obtain ⟨entries, ascending⟩ := map
  cases entries with
  | nil => exact absurd rfl h
  | cons e rest => rfl

end SortedMap

namespace Tree

/-- Emptying the cache loads nothing. -/
theorem loads_flush (tree : Tree) : Note.loads tree.flush.notes = [] := by
  rw [flush]
  split <;> rfl

/-- A lookup with further entries loads what a lookup of a tree of the same make does. -/
theorem loads_getWith (tree : Tree) (disk : Disk) (path : String) (extra : Namespace) :
    ∃ tree' : Tree, tree'.fresh = tree.fresh ∧ Note.loads (tree.getWith disk path extra).notes =
      Note.loads (tree'.lookup disk path (tree.names.overlay extra)).notes := by
  rw [getWith]
  cases extra.isEmpty with
  | true =>
      refine ⟨tree, rfl, ?_⟩
      simp only [if_true, Note.loads_append, loads_flush, List.append_nil]
      rfl
  | false =>
      refine ⟨tree.flush.tree, rfl, ?_⟩
      simp only [Bool.false_eq_true, if_false, Note.loads_append, loads_flush, List.append_nil]
      rfl

/-- With further entries, the lookup itself is one of a new tree that has them for good. -/
theorem getWith_of_ne_empty (tree : Tree) (disk : Disk) (path : String) {extra : Namespace}
    (h : extra ≠ ∅) :
    let alone := (Tree.new tree.root tree.topLevel (tree.names.overlay extra) tree.loader).get
      disk path
    (tree.getWith disk path extra).result = alone.result ∧
      ∃ after : Tree, (tree.getWith disk path extra).notes =
        tree.flush.notes ++ alone.notes ++ after.flush.notes := by
  intro alone
  rw [getWith, SortedMap.isEmpty_eq_false h]
  exact ⟨rfl, _, rfl⟩

/-- Where nothing is cached yet this holds of any entries, also of none at all. -/
theorem getWith_fresh (tree : Tree) (disk : Disk) (path : String) (extra : Namespace) :
    (tree.fresh.getWith disk path extra).result =
      ((Tree.new tree.root tree.topLevel (tree.names.overlay extra) tree.loader).get
        disk path).result := by
  rw [getWith]
  cases extra.isEmpty <;> rfl

/--
**A lookup with further entries is isolated.**  It answers, and it loads, as a new tree
would that has these entries for good, so what the cache held before makes no difference.
However it ends, the tree it leaves is a new one under the namespace from before, and
whatever happens next happens as it would to that.
-/
theorem getWith_isolated (tree : Tree) (disk : Disk) (path : String) (extra : Namespace)
    (h : extra ≠ ∅) :
    let alone := (Tree.new tree.root tree.topLevel (tree.names.overlay extra) tree.loader).get
      disk path
    let answer := tree.getWith disk path extra
    answer.result = alone.result ∧ Note.loads answer.notes = Note.loads alone.notes ∧
      (∀ cache, (Tree.getWith { tree with cache := cache } disk path extra).result =
        answer.result) ∧
      answer.tree = Tree.new tree.root tree.topLevel tree.names tree.loader ∧
      ∀ (disk' : Disk) (events : List Event),
        (World.mk answer.tree disk').run events =
          (World.start tree.root tree.topLevel tree.names tree.loader disk').run events := by
  intro alone answer
  obtain ⟨hresult, after, hnotes⟩ := tree.getWith_of_ne_empty disk path h
  have htree : answer.tree = Tree.new tree.root tree.topLevel tree.names tree.loader :=
    tree.getWith_tree disk path extra
  refine ⟨hresult, ?_, ?_, htree, ?_⟩
  · rw [hnotes, Note.loads_append, Note.loads_append, loads_flush, loads_flush, List.nil_append,
      List.append_nil]
  · intro cache
    exact (getWith_of_ne_empty { tree with cache := cache } disk path h).1.trans hresult.symm
  · intro disk' events
    rw [htree]
    rfl

/-- A greeting of one day is cached when another one is asked for. -/
theorem getWith_isolated_from_greeting :
    let disk : Disk := fun place =>
      if place = "cfg/greet.yaml" then some (.text "message: hello ${name}\n") else none
    let stale : Cache := Cache.empty.insert "greet" (.file "cfg/greet.yaml" (.string "hello sun"))
    let tree : Tree := ⟨"cfg", none, .ofList [("name", "world")], .yaml, stale⟩
    let extra : Namespace := .ofList [("name", "moon")]
    extra ≠ ∅ ∧ (tree.getWith disk "greet.message" extra).result =
      ((Tree.new "cfg" none (.ofList [("name", "moon")]) .yaml).get disk "greet.message").result ∧
      (tree.getWith disk "greet.message" extra).tree =
        Tree.new "cfg" none (.ofList [("name", "world")]) .yaml := by
  intro disk stale tree extra
  have hne : extra ≠ ∅ := by decide
  obtain ⟨hresult, -, -, htree, -⟩ := getWith_isolated tree disk "greet.message" extra hne
  exact ⟨hne, hresult, htree⟩

end Tree

end DottedConfig
