/-
Lookups compose along a path.

A path that has a value has an owner strictly within it or at its end, and the lookup leaves
this owner recorded.  So a longer path has the same owner from then on: its walk stops at the
same file, and the keys that are left are those of the shorter path and then the further
ones.  Whatever appears on the disk at deeper places, or disappears from it, the longer path
is a matter of the value alone, until the cache is emptied.
-/
import DottedConfig.Proofs.Tree.Owned
import DottedConfig.Proofs.Value.Descent

namespace DottedConfig

open DottedConfig.Tree (Means Question segments)

namespace Tree

variable {tree : Tree} {disk : Disk} {path : String}

/-- Further segments are split on their own. -/
theorem segments_below {ns : Namespace} {row written texts : List String}
    (hrow : segments path ns = .ok row) (hne : written ≠ [])
    (hdots : ∀ s ∈ written, '.' ∉ s.toList) (hmeans : List.Forall₂ (Means ns) written texts) :
    segments (path ++ "." ++ Text.joinDots written) ns = .ok (row ++ texts) := by
  rw [segments_eq_ok_iff, Text.cutDots_append, Text.cutDots_joinDots hne hdots]
  exact List.rel_append (segments_eq_ok_iff.mp hrow) hmeans

/-- **A value that was found has its owner recorded**, above what leads to the value in it. -/
theorem owns_get {value : Value} (h : (tree.get disk path).result = .ok value) :
    ∃ row keys file content, segments path tree.names = .ok (row ++ keys) ∧
      (tree.get disk path).tree.cache.Owns row file content ∧
        content.below? keys = some value := by
  rw [get, answer, lookup_result] at h
  obtain ⟨⟨row, owner⟩, howner, hkeys⟩ := eq_ok_of_bind h
  have htree : (tree.get disk path).tree =
      { tree with cache := (tree.locate disk path tree.names).cache } :=
    tree.ask_tree disk (.get path)
  refine ⟨row.take owner.taken, row.drop owner.taken, owner.file, owner.content, ?_, ?_, ?_⟩
  · rw [List.take_append_drop]
    exact segments_of_owner howner
  · rw [htree]
    exact owns_locate howner
  · exact Value.atKeys_eq_ok_iff.mp hkeys

/--
**What was found at a path answers for all longer paths.**  Once `path` has a value, and until
the cache is emptied, whatever happens to the disk and whatever else is looked up, a path that
goes on with further segments is answered by looking these up in the value, one after the
other, and no file is loaded for it.  If that fails, then with the first segment that the
value it comes to has nothing under, and for the longer path.
-/
theorem get_below (tree : Tree) (disk : Disk) (path : String) (value : Value)
    (hvalue : (tree.get disk path).result = .ok value) (written texts : List String)
    (hne : written ≠ []) (hdots : ∀ s ∈ written, '.' ∉ s.toList)
    (hmeans : List.Forall₂ (Means tree.names) written texts) (events : List Event)
    (hevents : ∀ e ∈ events, ¬e.Empties) :
    let w := (World.mk (tree.get disk path).tree disk).run events
    let longer := path ++ "." ++ Text.joinDots written
    Note.loads (w.tree.get w.disk longer).notes = [] ∧
      (w.tree.get w.disk longer).result = value.atKeys texts longer ∧
      ((∃ v, value.below? texts = some v ∧ (w.tree.get w.disk longer).result = .ok v) ∨
        ∃ before key after v f, texts = before ++ key :: after ∧
          value.below? before = some v ∧ v.Lacks key longer f ∧
            (w.tree.get w.disk longer).result = .error f) := by
  intro w longer
  obtain ⟨row, keys, file, content, hrow, howns, hkeys⟩ := owns_get hvalue
  obtain ⟨cache, hkeeps, htree⟩ := World.tree_run_of_not_empties hevents
    (World.mk (tree.get disk path).tree disk)
  have hnames : w.tree.names = tree.names := by
    rw [htree]
    rfl
  have howns' : w.tree.cache.Owns row file content := by
    rw [htree]
    exact howns.mono hkeeps
  have hlonger : segments longer w.tree.names = .ok (row ++ (keys ++ texts)) := by
    rw [hnames, ← List.append_assoc]
    exact segments_below hrow hne hdots hmeans
  obtain ⟨notes, hloads, hask⟩ := ask_of_owns (.get longer) howns' hlonger
  have hget : w.tree.get w.disk longer = ⟨content.atKeys (keys ++ texts) longer, w.tree, notes⟩ :=
    hask w.disk
  have hbelow : content.atKeys (keys ++ texts) longer = value.atKeys texts longer := by
    rw [Value.atKeys_append, Value.atKeys_of_below hkeys]
    rfl
  rw [hget, hbelow]
  refine ⟨hloads, rfl, ?_⟩
  cases hvalue : value.below? texts with
  | some v => exact .inl ⟨v, rfl, Value.atKeys_of_below hvalue longer⟩
  | none => exact .inr (Value.exists_lacks_of_below hvalue longer)

/-- A greeting is looked up, then its file gives way to a directory with another one in it. -/
theorem get_below_greeting :
    let greeting : Disk := fun place =>
      if place = "cfg/en.yaml" then some (.text "greet:\n  ${who}: hi\n") else none
    let deeper : Disk := fun place =>
      if place = "cfg/en" ∨ place = "cfg/en/greet" then some .directory
      else if place = "cfg/en/greet/world.yaml" then some (.text "bye\n") else none
    let tree := Tree.new "cfg" none (.ofList [("who", "world")]) .yaml
    let events : List Event := [.write deeper, .loadPrefix ["en", "greet", "world"] ∅]
    let w := (World.mk (tree.get greeting "en.greet").tree greeting).run events
    ∃ value, (tree.get greeting "en.greet").result = .ok value ∧
      List.Forall₂ (Means tree.names) ["$who"] ["world"] ∧ (∀ e ∈ events, ¬e.Empties) ∧
      (w.tree.get w.disk "en.greet.$who").result = .ok (.string "hi") := by
  intro greeting deeper tree events w
  have hfound : ((tree.get greeting "en.greet").result.toOption.bind fun value =>
      (value.below? ["world"]).bind Value.asString?) = some "hi" := by decide +kernel
  obtain ⟨value, hvalue, hstring⟩ := Option.bind_eq_some_iff.mp hfound
  obtain ⟨v, hbelow, hv⟩ := Option.bind_eq_some_iff.mp hstring
  obtain rfl := Value.eq_string_of_asString? hv
  have hvalue := eq_ok_of_toOption hvalue
  have hmeans : List.Forall₂ (Means tree.names) ["$who"] ["world"] :=
    .cons ⟨eq_ok_of_toOption (by decide +kernel), by decide⟩ .nil
  have hevents : ∀ e ∈ events, ¬e.Empties := by simp [events, Event.Empties]
  obtain ⟨-, hresult, -⟩ := get_below tree greeting "en.greet" value hvalue ["$who"] ["world"]
    (by simp) (by decide) hmeans events hevents
  refine ⟨value, hvalue, hmeans, hevents, ?_⟩
  exact hresult.trans (Value.atKeys_of_below hbelow _)

end Tree

end DottedConfig
