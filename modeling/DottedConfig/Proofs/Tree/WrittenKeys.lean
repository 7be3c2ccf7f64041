/-
Keys are found by the way they are written.

A file fills its placeholders once, when it is loaded, and a path fills its own once, when it is
split.  Both go by the same rules under the same namespace.  So the keys that lead to a place in
a file may be written into a path just as they stand in the file, placeholders and doubled `$`
included, and what they come to finds what the keys of the file have become.

A path cannot spell every key: one that is written with a dot is cut, and one that comes to
nothing or to a text with a dot is refused.
-/
import DottedConfig.Proofs.Tree.Composition
import DottedConfig.Proofs.Tree.Isolation
import DottedConfig.Proofs.Tree.Ownership
import DottedConfig.Proofs.Value.Written

namespace DottedConfig.Tree

open Yaml (Document)

variable {ns : Namespace} {path : String}

/-- Written keys that come to segments come to their filled texts. -/
theorem means_filled {keys : List String} (h : ∀ key ∈ keys, ∃ text, Means ns key text) :
    List.Forall₂ (Means ns) keys (keys.map (Template.filled ns)) := by
  rw [List.forall₂_map_right_iff, List.forall₂_same]
  intro key hkey
  obtain ⟨text, hmeans⟩ := h key hkey
  have hfilled : Template.filled ns key = text := by
    rw [Template.filled, hmeans.1]
  rw [hfilled]
  exact hmeans

/-- Written keys after a path bring their texts, and no keys bring none. -/
theorem segments_joinDots_cons {row written texts : List String}
    (hrow : segments path ns = .ok row) (hdots : ∀ s ∈ written, '.' ∉ s.toList)
    (hmeans : List.Forall₂ (Means ns) written texts) :
    segments (Text.joinDots (path :: written)) ns = .ok (row ++ texts) := by
  by_cases hne : written = []
  · subst hne
    obtain rfl := List.forall₂_nil_left_iff.mp hmeans
    rw [List.append_nil]
    exact hrow
  · rw [Text.joinDots_cons hne]
    exact segments_below hrow hne hdots hmeans

/-- The file that owns a path, and takes all of it, answers for the segments after it. -/
theorem get_of_resolve {tree : Tree} {disk : Disk} {content : Value} {row texts : List String}
    {longer : String} (howned : (tree.resolve disk path).result = .ok ⟨content, []⟩)
    (hrow : segments path tree.names = .ok row)
    (hlonger : segments longer tree.names = .ok (row ++ texts)) :
    (tree.get disk longer).result = content.atKeys texts longer := by
  rw [resolve_result] at howned
  obtain ⟨⟨row', owner⟩, howner, hcontent⟩ := eq_ok_of_map howned
  obtain rfl : row' = row := Except.ok.inj ((segments_of_owner howner).symm.trans hrow)
  obtain ⟨hcontent, hrest⟩ := (Owner.mk.injEq ..).mp hcontent
  have htake : row'.take owner.taken = row' := by
    have happend := List.take_append_drop owner.taken row'
    rwa [hrest, List.append_nil] at happend
  have htree : (tree.resolve disk path).tree = _ := tree.ask_tree disk (.resolve path)
  have howns : (tree.resolve disk path).tree.cache.Owns row' owner.file content := by
    rw [htree, ← htake, ← hcontent]
    exact owns_locate howner
  have hagree := (tree.agree_ask disk (.resolve path)).ask (.get longer)
  have hparts : segments longer (tree.resolve disk path).tree.names = .ok (row' ++ texts) := by
    rw [htree]
    exact hlonger
  obtain ⟨notes, -, hask⟩ := ask_of_owns (.get longer) howns hparts
  rw [show (tree.ask disk (.resolve path)).tree = (tree.resolve disk path).tree from rfl,
    hask disk] at hagree
  exact hagree.symm

/--
**A path may spell the keys of a file as the file does.**  Let a file that reads YAML own all of
`path` in a new tree, and let `keys`, as they stand in its document, lead from mapping to mapping
down to a document `d`.  If each of them can be written in a path, none with a dot and each coming
to a segment, then the path that goes on with them is answered with what `d` becomes under the
tree's namespace.  It makes no difference how much of that namespace is given for one call only.
-/
theorem get_written_keys (root : String) (topLevel : Option String) (names : Namespace)
    (disk : Disk) (path file : String) (content : Value) (document d : Document)
    (keys : List String)
    (hsource : ((Tree.new root topLevel names .yaml).source disk path).result = .ok file)
    (howned : ((Tree.new root topLevel names .yaml).resolve disk path).result = .ok ⟨content, []⟩)
    (hdocument : disk.document? file = some document) (hleads : document.LeadsTo keys d)
    (hdots : ∀ key ∈ keys, '.' ∉ key.toList) (hkeys : ∀ key ∈ keys, ∃ text, Means names key text) :
    let longer := Text.joinDots (path :: keys)
    ∃ value, (∀ trail, Value.ofDocument names trail d = .ok value) ∧
      ((Tree.new root topLevel names .yaml).get disk longer).result = .ok value ∧
      ∀ persistent extra : Namespace, persistent.overlay extra = names →
        ((Tree.new root topLevel persistent .yaml).getWith disk longer extra).result =
          .ok value := by
  intro longer
  let tree := Tree.new root topLevel names .yaml
  obtain ⟨⟨row, owner⟩, howner, hcontent⟩ := eq_ok_of_map ((tree.resolve_result disk path) ▸ howned)
  obtain ⟨⟨row', owner'⟩, howner', hfile⟩ := eq_ok_of_map ((tree.source_result disk path) ▸ hsource)
  cases Except.ok.inj (howner.symm.trans howner')
  obtain ⟨hcontent, -⟩ := (Owner.mk.injEq ..).mp hcontent
  have hfile : owner.file = file := hfile
  have hrow := segments_of_owner howner
  -- The file was loaded for this very lookup, so its content is what its document has become.
  have hread : document.Readable names ∧ content = document.asValue names := by
    rw [owner_of_segments_ok hrow] at howner
    obtain ⟨_, hfrom, heq⟩ := eq_ok_of_map howner
    cases heq
    have hload := Site.loaded_of_ownerFrom (eq_ok_of_mapError hfrom)
    have hload : Loader.yaml disk file names = .ok content := by
      rw [← hfile, ← hcontent]
      exact hload
    rw [Loader.yaml_of_document hdocument] at hload
    exact (Value.gives_ofDocument [] document content).mp (eq_ok_of_mapError hload)
  obtain ⟨hbelow, hreadable⟩ := Value.below?_of_leadsTo hleads hread.1
  have hget : (tree.get disk longer).result = .ok (d.asValue names) := by
    rw [get_of_resolve howned hrow (segments_joinDots_cons hrow hdots (means_filled hkeys))]
    rw [hread.2]
    exact Value.atKeys_of_below hbelow longer
  refine ⟨d.asValue names, fun trail => ?_, hget, fun persistent extra hoverlay => ?_⟩
  · exact (Value.gives_ofDocument trail d _).mpr ⟨hreadable, rfl⟩
  · subst hoverlay
    exact (getWith_fresh (Tree.new root topLevel persistent .yaml) disk longer extra).trans hget

/-- The price of a day is found under keys with a placeholder and with a doubled `$`, and what the
placeholder in it stands for keeps its `$`. -/
theorem get_written_keys_of_price :
    let disk : Disk := fun place =>
      if place = "cfg/app.yaml" then some (.text "${day}:\n  $$5: or ${sum}\n") else none
    let lasting : Namespace := .ofList [("day", "sun"), ("sum", "$$6")]
    let today : Namespace := .ofList [("day", "moon")]
    let names := lasting.overlay today
    let tree := Tree.new "cfg" none names .yaml
    (tree.source disk "app").result = .ok "cfg/app.yaml" ∧
      (∀ key ∈ ["${day}", "$$5"], ∃ text, Means names key text) ∧
      ((Tree.new "cfg" none lasting .yaml).getWith disk "app.${day}.$$5" today).result =
        .ok (.string "or $$6") := by
  intro disk lasting today names tree
  have hsource : (tree.source disk "app").result = .ok "cfg/app.yaml" :=
    eq_ok_of_toOption (by decide +kernel)
  have hresolve : (tree.resolve disk "app").result.toOption.map Owner.rest = some [] := by
    decide +kernel
  obtain ⟨⟨content, rest⟩, howned, hrest⟩ := Option.map_eq_some_iff.mp hresolve
  obtain rfl : rest = [] := hrest
  have hfound : ((disk.document? "cfg/app.yaml").bind fun document =>
      (["${day}", "$$5"].foldlM Document.child? document).bind fun d =>
        (Value.ofDocument names [] d).toOption.bind Value.asString?) = some "or $$6" := by
    decide +kernel
  obtain ⟨document, hdocument, hfound⟩ := Option.bind_eq_some_iff.mp hfound
  obtain ⟨d, hd, hfound⟩ := Option.bind_eq_some_iff.mp hfound
  obtain ⟨v, hv, hstring⟩ := Option.bind_eq_some_iff.mp hfound
  obtain rfl := Value.eq_string_of_asString? hstring
  have hmeans : ∀ key ∈ ["${day}", "$$5"], ∃ text, Means names key text := by
    intro key hkey
    rcases List.mem_pair.mp hkey with rfl | rfl
    · exact ⟨"moon", eq_ok_of_toOption (by decide +kernel), by decide⟩
    · exact ⟨"$5", eq_ok_of_toOption (by decide +kernel), by decide⟩
  obtain ⟨value, hvalue, -, hwith⟩ := get_written_keys "cfg" none names disk "app" "cfg/app.yaml"
    content document d ["${day}", "$$5"] hsource (eq_ok_of_toOption howned) hdocument
    (Document.leadsTo_of_child? hd) (by decide) hmeans
  obtain rfl : .string "or $$6" = value :=
    Except.ok.inj ((eq_ok_of_toOption hv).symm.trans (hvalue []))
  exact ⟨hsource, hmeans, hwith lasting today rfl⟩

end DottedConfig.Tree
