/-
The shape of the cache.

Whatever a tree went through, except for calls of `loadPrefix`, its cache is a part of a
directory tree that it could have come from: each entry goes under the dotted text of a row
of names, it is the directory or the file at the place of this row, and all that is above it
is recorded as a directory.  The disk may have changed in between as it liked; the cache need
not show any one disk, but it never contradicts itself.

The empty cache has this shape, every walk along a row keeps it, and no other event puts
anything into the cache.  `loadPrefix` is left out because it looks a row up without what is
above it, and because it takes rows with a dot in their segments.
-/
import DottedConfig.Proofs.Tree.History
import DottedConfig.Proofs.Tree.Recording

namespace DottedConfig

namespace Cache

/-- Every entry is recorded for a row of names, and stands where this row does. -/
def Shaped (cache : Cache) (base : String) : Prop :=
  ∀ key entry, cache.get? key = some entry →
    ∃ row, key = Text.joinDots row ∧ cache.Records base row entry

theorem shaped_empty (base : String) : Shaped .empty base := by
  intro key entry h
  cases h

namespace Shaped

variable {cache : Cache} {base : String}

theorem walked {site : Site} {ns : Namespace} {row : List String} {cache' : Cache}
    {notes : List Note} (hwalked : site.Walked ns row cache cache' notes)
    (h : cache.Shaped site.base) : cache'.Shaped site.base := by
  intro key entry hentry
  rcases hwalked.records key entry hentry with hold | ⟨part, -, hkey, hrecords⟩
  · obtain ⟨part, hkey, hrecords⟩ := h key entry hold
    exact ⟨part, hkey, hrecords.mono hwalked.keeps⟩
  · exact ⟨part, hkey, hrecords⟩

/-- Below a file nothing is recorded. -/
theorem get?_below_file (h : cache.Shaped base) {key file : String} {content : Value}
    (hfile : cache.get? key = some (.file file content)) (rest : String) :
    cache.get? (key ++ "." ++ rest) = none := by
  cases hbelow : cache.get? (key ++ "." ++ rest) with
  | none => rfl
  | some entry =>
      obtain ⟨row, rfl, hrow⟩ := h _ _ hfile
      obtain ⟨row', hkey, hrow'⟩ := h _ _ hbelow
      have hsplit : row' = row ++ Text.cutDots rest := by
        rw [← Text.cutDots_joinDots hrow'.nonempty fun s hs => (hrow'.names s hs).dot, ← hkey,
          Text.cutDots_joinDots_append hrow.nonempty fun s hs => (hrow.names s hs).dot]
      have hproper : row ≠ row' := by
        intro heq
        rw [hsplit] at heq
        exact Text.cutDots_ne_nil rest (List.self_eq_append_right.mp heq)
      obtain ⟨path, hdirectory⟩ :=
        hrow'.above row hrow.nonempty ⟨Text.cutDots rest, hsplit.symm⟩ hproper
      rw [hfile] at hdirectory
      cases hdirectory

/-- Two keys never record the same path. -/
theorem key_eq_of_path_eq (h : cache.Shaped base) {key key' : String} {entry entry' : Cache.Entry}
    (hentry : cache.get? key = some entry) (hentry' : cache.get? key' = some entry')
    (hpath : entry.path = entry'.path) : key = key' := by
  obtain ⟨row, rfl, hrow⟩ := h _ _ hentry
  obtain ⟨row', rfl, hrow'⟩ := h _ _ hentry'
  refine congrArg Text.joinDots ?_
  rcases hrow.stands with rfl | ⟨content, rfl⟩
  · rcases hrow'.stands with rfl | ⟨content', rfl⟩
    · exact Path.joinAll_injective hrow.nonempty hrow'.nonempty hrow.names hrow'.names hpath
    · exact absurd hpath.symm
        (Path.fileAt_ne_joinAll hrow'.nonempty hrow.nonempty hrow'.names hrow.names)
  · rcases hrow'.stands with rfl | ⟨content', rfl⟩
    · exact absurd hpath
        (Path.fileAt_ne_joinAll hrow.nonempty hrow'.nonempty hrow.names hrow'.names)
    · exact Path.fileAt_injective hrow.nonempty hrow'.nonempty hrow.names hrow'.names hpath

end Shaped

end Cache

/-- Any event but a call of `loadPrefix`. -/
def Event.Regular : Event → Prop
  | .loadPrefix .. => False
  | _ => True

namespace World

/-- What an event that empties the cache leaves in it. -/
theorem cache_step_of_empties {e : Event} (h : e.Empties) (w : World) :
    (w.step e).tree.cache = .empty := by
  rw [← fresh_step h]
  rfl

/-- **One event keeps the shape of the cache.** -/
theorem shaped_step {w : World} {e : Event} (hregular : e.Regular)
    (h : w.tree.cache.Shaped w.tree.base) :
    (w.step e).tree.cache.Shaped (w.step e).tree.base := by
  rw [base_step]
  by_cases hempties : e.Empties
  · rw [cache_step_of_empties hempties]
    exact Cache.shaped_empty _
  · cases e with
    | ask question =>
        obtain ⟨row, -, hwalked⟩ := w.tree.walked_ask w.disk question
        exact .walked hwalked h
    | raw path =>
        show (w.tree.raw w.disk path).tree.cache.Shaped _
        rw [Tree.raw_tree]
        exact h
    | write disk => exact h
    | loadPrefix parts ns => exact hregular.elim
    | getWith path extra => exact absurd trivial hempties
    | setNames names => exact absurd trivial hempties
    | setLoader loader => exact absurd trivial hempties
    | flush => exact absurd trivial hempties

/-- And so does a history. -/
theorem shaped_run {events : List Event} (hregular : ∀ e ∈ events, e.Regular) {w : World}
    (h : w.tree.cache.Shaped w.tree.base) :
    (w.run events).tree.cache.Shaped (w.run events).tree.base := by
  induction events generalizing w with
  | nil => exact h
  | cons e rest ih =>
      exact ih (fun e' he' => hregular e' (List.mem_cons_of_mem _ he'))
        (shaped_step (hregular e List.mem_cons_self) h)

/--
**The cache is shaped like a tree.**  Whatever happened, calls of `loadPrefix` apart, every
entry stands where the row of its key leads, and below recorded directories.  So nothing is
recorded below a file, and no path is recorded twice.
-/
theorem shape_of_cache (root : String) (topLevel : Option String) (names : Namespace)
    (loader : Loader) (disk : Disk) (events : List Event)
    (hregular : ∀ e ∈ events, e.Regular) :
    let tree := ((start root topLevel names loader disk).run events).tree
    tree.cache.Shaped tree.base ∧
      (∀ key file content, tree.cache.get? key = some (.file file content) →
        ∀ rest, tree.cache.get? (key ++ "." ++ rest) = none) ∧
      ∀ key key' entry entry', tree.cache.get? key = some entry →
        tree.cache.get? key' = some entry' → entry.path = entry'.path → key = key' := by
  intro tree
  have hshaped : tree.cache.Shaped tree.base := shaped_run hregular (Cache.shaped_empty _)
  exact ⟨hshaped, fun _ _ _ hfile rest => hshaped.get?_below_file hfile rest,
    fun _ _ _ _ hentry hentry' hpath => hshaped.key_eq_of_path_eq hentry hentry' hpath⟩

/-- A greeting is read, then all is deleted, and a lookup beside it and one below it fail. -/
theorem shape_of_cache_of_greeting :
    let disk : Disk := fun place =>
      if place = "cfg/en" then some .directory
      else if place = "cfg/en/greet.yaml" then some (.text "message: hello\n") else none
    let events : List Event := [.ask (.get "en.greet.message"), .write fun _ => none,
      .ask (.source "en.no"), .ask (.getString "en.greet.message.text")]
    let tree := ((start "cfg" none ∅ .yaml disk).run events).tree
    (∀ e ∈ events, e.Regular) ∧ tree.cache.keys = ["en", "en.greet"] ∧
      tree.cache.Shaped "cfg" ∧ tree.cache.get? "en.greet.message" = none := by
  intro disk events tree
  have hregular : ∀ e ∈ events, e.Regular := by simp [events, Event.Regular]
  have hheld : ((tree.cache.get? "en.greet").bind Cache.Entry.held?).isSome := by decide +kernel
  obtain ⟨⟨file, content⟩, hheld⟩ := Option.isSome_iff_exists.mp hheld
  obtain ⟨entry, hentry, hheld⟩ := Option.bind_eq_some_iff.mp hheld
  obtain rfl := Cache.Entry.held?_eq_some hheld
  obtain ⟨hshaped, hbelow, -⟩ := shape_of_cache "cfg" none ∅ .yaml disk events hregular
  exact ⟨hregular, by decide +kernel, hshaped, hbelow _ _ _ hentry "message"⟩

end World

end DottedConfig
