/-
Histories: what happens to a tree, and to the disk below it.

A history is a row of events, each a call of one of the tree's operations or a change of
the disk by somebody else.  Whatever an event answers, it leaves a world behind, and a
run is the events one after the other.

Events fall into two kinds.  Some empty the cache, and what they leave of the tree is a
new one; `getWith` is one of them, whether or not it finds anything.  All others keep
the make of the tree, and as long as the disk stands still and `loadPrefix` is used the
way lookups use it, the tree they leave agrees with the one they found.  Neither kind
can drive two worlds apart that agree.
-/
import DottedConfig.Proofs.Tree.Question

namespace DottedConfig

open DottedConfig.Tree (Agree IsRow Question)

/-- Something that happens to a tree, or to the disk that it looks things up on. -/
inductive Event where
  /-- The tree is asked under its own namespace. -/
  | ask (question : Question)
  /-- A value is asked for with further entries for this call. -/
  | getWith (path : String) (extra : Namespace)
  /-- The text of an owner is asked for. -/
  | raw (path : String)
  /-- A row is looked up under a namespace of the caller's choice. -/
  | loadPrefix (parts : List String) (ns : Namespace)
  /-- The tree gets another namespace. -/
  | setNames (names : Namespace)
  /-- The tree gets another loader. -/
  | setLoader (loader : Loader)
  /-- The cache is emptied. -/
  | flush
  /-- The disk becomes another one. -/
  | write (disk : Disk)

/-- A tree and the disk that it looks things up on. -/
structure World where
  /-- The tree. -/
  tree : Tree
  /-- The disk. -/
  disk : Disk

namespace World

/-- A new tree on a disk. -/
def start (root : String) (topLevel : Option String) (names : Namespace) (loader : Loader)
    (disk : Disk) : World :=
  ⟨.new root topLevel names loader, disk⟩

/-- The world after an event. -/
def step (w : World) : Event → World
  | .ask question => ⟨(w.tree.ask w.disk question).tree, w.disk⟩
  | .getWith path extra => ⟨(w.tree.getWith w.disk path extra).tree, w.disk⟩
  | .raw path => ⟨(w.tree.raw w.disk path).tree, w.disk⟩
  | .loadPrefix parts ns => ⟨(w.tree.loadPrefix w.disk parts ns).tree, w.disk⟩
  | .setNames names => ⟨(w.tree.setNames names).tree, w.disk⟩
  | .setLoader loader => ⟨(w.tree.setLoader loader).tree, w.disk⟩
  | .flush => ⟨w.tree.flush.tree, w.disk⟩
  | .write disk => ⟨w.tree, disk⟩

/-- The world after a row of events. -/
def run (w : World) (events : List Event) : World := events.foldl step w

/-- Every event of a history meets a condition in the world that it happens in. -/
def Along (condition : World → Event → Prop) : World → List Event → Prop
  | _, [] => True
  | w, e :: rest => condition w e ∧ Along condition (w.step e) rest

theorem run_append (w : World) (before after : List Event) :
    w.run (before ++ after) = (w.run before).run after := List.foldl_append

end World

namespace Event

/-- The disk stands still. -/
def Still (w : World) (e : Event) : Prop := (w.step e).disk = w.disk

/-- A row that is looked up is a possible one, and it is looked up under the tree's own
namespace. -/
def Own (w : World) : Event → Prop
  | loadPrefix parts ns => ns = w.tree.names ∧ IsRow parts
  | _ => True

/-- The cache is empty afterwards, whatever happened on the way. -/
def Empties : Event → Prop
  | getWith .. | setNames _ | setLoader _ | flush => True
  | _ => False

/-- The new tree that an event makes of a tree if it empties the cache. -/
def renewed (tree : Tree) : Event → Tree
  | setNames names => .new tree.root tree.topLevel names tree.loader
  | setLoader loader => .new tree.root tree.topLevel tree.names loader
  | _ => tree.fresh

theorem renewed_fresh (e : Event) (tree : Tree) : (e.renewed tree).fresh = e.renewed tree := by
  cases e <;> rfl

theorem renewed_eq_of_fresh_eq {tree tree' : Tree} (h : tree.fresh = tree'.fresh) (e : Event) :
    e.renewed tree = e.renewed tree' := by
  cases e with
  | setNames names =>
      show (tree.fresh.setNames names).tree = (tree'.fresh.setNames names).tree
      rw [h]
  | setLoader loader =>
      show (tree.fresh.setLoader loader).tree = (tree'.fresh.setLoader loader).tree
      rw [h]
  | _ => exact h

end Event

/-- Nothing but a write moves the disk. -/
theorem World.along_still {events : List Event} (h : ∀ e ∈ events, ∀ disk, e ≠ .write disk)
    (w : World) : w.Along Event.Still events := by
  induction events generalizing w with
  | nil => trivial
  | cons e rest ih =>
      refine ⟨?_, ih (fun e' he' => h e' (List.mem_cons_of_mem _ he')) (w.step e)⟩
      cases e with
      | write disk => exact absurd rfl (h _ List.mem_cons_self disk)
      | _ => rfl

/-! ### One event -/

theorem Tree.getWith_tree (tree : Tree) (disk : Disk) (path : String) (extra : Namespace) :
    (tree.getWith disk path extra).tree = tree.fresh := by
  rw [getWith]
  split <;> rfl

theorem Tree.raw_tree (tree : Tree) (disk : Disk) (path : String) :
    (tree.raw disk path).tree = tree := by
  rw [raw]
  split <;> rfl

theorem Tree.loadPrefix_tree (tree : Tree) (disk : Disk) (parts : List String) (ns : Namespace) :
    (tree.loadPrefix disk parts ns).tree =
      { tree with cache := ((tree.site disk).entry ns parts tree.cache).cache } := by
  rw [loadPrefix, answer, Reply.cache_andThen_ofExcept]

namespace World

/-- No event moves the directory that paths begin at. -/
theorem base_step (w : World) (e : Event) : (w.step e).tree.base = w.tree.base := by
  cases e with
  | ask question =>
      show (w.tree.ask w.disk question).tree.base = w.tree.base
      rw [Tree.ask_tree]
      rfl
  | getWith path extra =>
      show (w.tree.getWith w.disk path extra).tree.base = w.tree.base
      rw [Tree.getWith_tree]
      rfl
  | raw path =>
      show (w.tree.raw w.disk path).tree.base = w.tree.base
      rw [Tree.raw_tree]
  | _ => rfl

/-- **An event that empties the cache leaves a new tree.** -/
theorem tree_step_of_empties {e : Event} (h : e.Empties) (w : World) :
    (w.step e).tree = e.renewed w.tree := by
  cases e with
  | getWith path extra => exact Tree.getWith_tree w.tree w.disk path extra
  | setNames names => rfl
  | setLoader loader => rfl
  | flush => rfl
  | ask question => exact h.elim
  | raw path => exact h.elim
  | loadPrefix parts ns => exact h.elim
  | write disk => exact h.elim

theorem fresh_step {e : Event} (h : e.Empties) (w : World) :
    (w.step e).tree.fresh = (w.step e).tree := by
  rw [tree_step_of_empties h, e.renewed_fresh]

/-- And that tree does not depend on what the cache held. -/
theorem step_eq_of_fresh_eq {e : Event} (h : e.Empties) {w w' : World}
    (hfresh : w.tree.fresh = w'.tree.fresh) : (w.step e).tree = (w'.step e).tree := by
  rw [tree_step_of_empties h, tree_step_of_empties h, e.renewed_eq_of_fresh_eq hfresh]

/-- **Every other event leaves a tree that agrees with the one it found.** -/
theorem agree_step {w : World} {e : Event} (h : ¬e.Empties) (hown : e.Own w) (hstill : e.Still w) :
    Agree w.disk (w.step e).tree w.tree := by
  cases e with
  | ask question => exact Tree.agree_ask w.tree w.disk question
  | raw path =>
      show Agree w.disk (w.tree.raw w.disk path).tree w.tree
      rw [Tree.raw_tree]
      exact Agree.refl w.disk w.tree
  | loadPrefix parts ns =>
      obtain ⟨rfl, hrow⟩ := hown
      show Agree w.disk (w.tree.loadPrefix w.disk parts w.tree.names).tree w.tree
      rw [Tree.loadPrefix_tree]
      exact Tree.agree_of_view_eq rfl fun row hrow' => Site.view_entry hrow hrow'
  | write disk => exact Agree.refl w.disk w.tree
  | getWith path extra => exact absurd trivial h
  | setNames names => exact absurd trivial h
  | setLoader loader => exact absurd trivial h
  | flush => exact absurd trivial h

/-! ### Two worlds side by side -/

theorem own_of_names_eq {w w' : World} {e : Event} (h : w.tree.names = w'.tree.names)
    (hown : e.Own w) : e.Own w' := by
  cases e with
  | loadPrefix parts ns => exact ⟨hown.1.trans h, hown.2⟩
  | _ => trivial

theorem disk_step_eq {w w' : World} (h : w.disk = w'.disk) (e : Event) :
    (w.step e).disk = (w'.step e).disk := by
  cases e with
  | write disk => rfl
  | _ => exact h

/-- **One event leaves agreeing trees in agreement.** -/
theorem agree_step_step {w w' : World} {e : Event} (hdisk : w.disk = w'.disk)
    (h : Agree w.disk w.tree w'.tree) (hown : e.Own w') (hstill : e.Still w') :
    Agree (w.step e).disk (w.step e).tree (w'.step e).tree := by
  by_cases hempties : e.Empties
  · rw [step_eq_of_fresh_eq hempties h.fresh]
    exact Agree.refl _ _
  · have hstill' : (w.step e).disk = w.disk := by
      rw [disk_step_eq hdisk, hstill, hdisk]
    have hafter : Agree w.disk (w.step e).tree w.tree :=
      agree_step hempties (own_of_names_eq h.names.symm hown) hstill'
    have hafter' : Agree w.disk (w'.step e).tree w'.tree := by
      rw [hdisk]
      exact agree_step hempties hown hstill
    rw [hstill']
    exact hafter.trans (h.trans hafter'.symm)

/-- And so does a history. -/
theorem agree_run_run : ∀ (events : List Event) (w w' : World), w.disk = w'.disk →
    Agree w.disk w.tree w'.tree → w'.Along Event.Own events → w'.Along Event.Still events →
    (w.run events).disk = (w'.run events).disk ∧
      Agree (w.run events).disk (w.run events).tree (w'.run events).tree := by
  intro events
  induction events with
  | nil => intro w w' hdisk h _ _; exact ⟨hdisk, h⟩
  | cons e rest ih =>
      intro w w' hdisk h hown hstill
      exact ih (w.step e) (w'.step e) (disk_step_eq hdisk e)
        (agree_step_step hdisk h hown.1 hstill.1) hown.2 hstill.2

end World

end DottedConfig
