/-
All lookups agree.

`get`, `resolve` and `source` each find the owner of a path and then read it out of the cache once
more, under a key that they compute anew.  They come to the same owner and leave the same cache,
because all of them locate the path in the same way first.  And the owner is there when they read
it, because locating it has just left it there, under the segments that it takes, whether it
was found in the cache or on the disk.

So the failures for an owner that is not there do not occur.  One that says so has been brought
along by the loader, and the loader for YAML does not.
-/
import DottedConfig.Proofs.Tree.Origin

namespace DottedConfig

/-- The cause is an owner that was lost between being found and being read. -/
def Cause.OwnerLost : Cause → Prop
  | notLoaded _ | notCached _ => True
  | _ => False

/-- The failure has such a cause. -/
def Failure.OwnerLost (f : Failure) : Prop := ∃ cause, f.cause = some cause ∧ cause.OwnerLost

/-! ### Failures with another cause -/

section

variable {f : Failure}

theorem not_ownerLost_of_cause {cause : Cause} (h : f.cause = some cause)
    (hcause : ¬cause.OwnerLost) : ¬f.OwnerLost := by
  rintro ⟨cause', hcause', hlost⟩
  obtain rfl := Option.some.inj (h.symm.trans hcause')
  exact hcause hlost

/-- Naming the path keeps the cause. -/
theorem ownerLost_orPath {path : String} : (f.orPath path).OwnerLost ↔ f.OwnerLost := by
  rw [Failure.OwnerLost, Failure.OwnerLost, Failure.cause_orPath]

theorem not_ownerLost_of_substitute {text : String} {ns : Namespace}
    (h : Template.substitute text ns = .error f) : ¬f.OwnerLost := by
  rcases Template.substitute_eq_error h with ⟨before, rfl⟩ | ⟨name, rfl⟩
  · exact not_ownerLost_of_cause rfl id
  · exact not_ownerLost_of_cause rfl id

theorem Tree.Malformed.not_ownerLost {path : String} {ns : Namespace}
    (h : Tree.Malformed path ns f) : ¬f.OwnerLost := by
  cases h with
  | empty h => exact not_ownerLost_of_cause rfl id
  | gap h => exact not_ownerLost_of_cause rfl id
  | unfilled hwritten h => exact fun hlost => not_ownerLost_of_substitute h hlost
  | vanishing hwritten h => exact not_ownerLost_of_cause rfl id
  | dotted hwritten h hdot => exact not_ownerLost_of_cause rfl id

theorem not_ownerLost_of_earliest {document : Yaml.Document} {ns : Namespace}
    {trail : List String} {fault : Yaml.Document.Fault}
    (h : Yaml.Document.Earliest ns document trail fault) : ¬(fault.report trail).OwnerLost := by
  cases fault with
  | unfilled f =>
      obtain ⟨s, hs⟩ := h.substitute_eq_error
      rw [Yaml.Document.Fault.report, Failure.within]
      split
      · exact not_ownerLost_of_substitute hs
      · exact not_ownerLost_of_cause rfl id
  | compound => exact not_ownerLost_of_cause rfl id
  | repeated key => exact not_ownerLost_of_cause rfl id

/-- **A file that is read as YAML never fails for the want of an owner.** -/
theorem FileFault.not_ownerLost {disk : Disk} {file : String} {ns : Namespace}
    (h : FileFault disk file ns f) : ¬f.OwnerLost := by
  cases h with
  | notAFile h => exact not_ownerLost_of_cause rfl id
  | unreadable h => exact not_ownerLost_of_cause rfl id
  | @notYaml text fault h hblank hread =>
      have hcause : (Value.badYaml fault).cause = some (.badYaml fault.problem) := by
        rw [Value.badYaml]
        split
        · rfl
        · rfl
      exact not_ownerLost_of_cause (show ((Value.badYaml fault).inFile file).cause = _ from hcause) id
  | unconverted h hfault => exact fun hlost => not_ownerLost_of_earliest hfault hlost

end

namespace Tree

variable {tree : Tree} {disk : Disk} {path : String} {ns : Namespace} {f : Failure}

/-- **Only the loader can say that an owner was lost.** -/
theorem Origin.loader_of_ownerLost (h : tree.Origin disk path ns f) (hlost : f.OwnerLost) :
    ∃ file f', tree.loader disk file ns = .error f' ∧ f'.OwnerLost ∧ f = f'.orPath path := by
  cases h with
  | path hrow h => exact absurd hlost h.not_ownerLost
  | directories hrow hleads => exact absurd hlost (not_ownerLost_of_cause rfl id)
  | nothing hrow hleads h => exact absurd hlost (not_ownerLost_of_cause rfl id)
  | file hrow hleads hplain hhas h => exact ⟨_, _, h, ownerLost_orPath.mp hlost, rfl⟩
  | key howner hrest hbefore h =>
      obtain ⟨cause, hcause, -⟩ := hlost
      rw [h.location_and_cause.2] at hcause
      cases hcause
  | type howner hvalue => exact absurd hlost (not_ownerLost_of_cause rfl id)

/-! ### Lookups from the owner on -/

/-- Looking up a row of keys is looking up one after the other. -/
theorem atKeys_eq_foldlM (value : Value) (keys : List String) (path : String) :
    value.atKeys keys path = keys.foldlM (fun v key => v.atKey key path) value := by
  induction keys generalizing value with
  | nil => rfl
  | cons key keys ih =>
      rw [Value.atKeys_cons, List.foldlM_cons]
      exact congrArg _ (funext ih)

theorem get_result_eq_resolve (tree : Tree) (disk : Disk) (path : String) :
    (tree.get disk path).result =
      ((tree.resolve disk path).result >>= fun owner =>
        owner.rest.foldlM (fun value key => value.atKey key path) owner.content) := by
  have hget : (tree.get disk path).result = _ := tree.lookup_result disk path tree.names
  rw [hget, resolve_result]
  cases tree.owner disk path tree.names with
  | error f => rfl
  | ok found => exact atKeys_eq_foldlM found.2.content _ path

/-- Where a path is located, its owner is in the cache, and both ways to read it succeed. -/
theorem reads_of_locate {row : List String} {taken : Nat}
    (h : (tree.locate disk path ns).result = .ok (row, taken)) :
    ∃ file value, content (tree.locate disk path ns).cache (row.take taken) path = .ok value ∧
      sourceOf (tree.locate disk path ns).cache (row.take taken) path = .ok file := by
  rw [locate_result] at h
  obtain ⟨⟨row', owner⟩, howner, hfound⟩ := eq_ok_of_map h
  cases hfound
  have hcached := get?_locate howner
  exact ⟨owner.file, owner.content, content_of_cached hcached path, sourceOf_of_cached hcached path⟩

/-- `source` fails just as `resolve` does. -/
theorem source_eq_error_iff : (tree.source disk path).result = .error f ↔
    (tree.resolve disk path).result = .error f := by
  rw [source_result, resolve_result, map_eq_error_iff, map_eq_error_iff]

/-- Where `resolve` comes to an owner, this is recorded with the file that `source` names. -/
theorem source_of_resolve {owner : Owner} (h : (tree.resolve disk path).result = .ok owner) :
    ∃ row file, segments path tree.names = .ok (row ++ owner.rest) ∧
      (tree.resolve disk path).tree.cache.get? (Text.joinDots row) =
        some (.file file owner.content) ∧
      (tree.source disk path).result = .ok file := by
  rw [resolve_result] at h
  obtain ⟨⟨row, found⟩, howner, hfound⟩ := eq_ok_of_map h
  cases hfound
  have htree : (tree.resolve disk path).tree = _ := tree.ask_tree disk (.resolve path)
  refine ⟨row.take found.taken, found.file, ?_, ?_, ?_⟩
  · rw [List.take_append_drop]
    exact segments_of_owner howner
  · rw [htree]
    exact get?_locate howner
  · rw [source_result, howner]
    rfl

/--
**All lookups agree**, in every tree and with whatever in its cache.  `get` comes to what `resolve`
does and then looks up one after the other of the segments that are left, with the same failure,
and each typed lookup is `get` and then the test for its type.  `source` succeeds where `resolve`
does and names the file of the entry that holds what `resolve` answers, and they fail alike.  All
leave the same tree.  The owner that was located is always there to be read, so a failure of any
lookup that speaks of a lost owner is one that the loader has made up, and that for YAML makes up
none.
-/
theorem lookups_agree (tree : Tree) (disk : Disk) (path : String) :
    let resolved := tree.resolve disk path
    let got := tree.get disk path
    let source := tree.source disk path
    (got.result = (resolved.result >>= fun owner =>
        owner.rest.foldlM (fun value key => value.atKey key path) owner.content) ∧
      got.tree = resolved.tree ∧ got.notes = resolved.notes) ∧
    (tree.getString disk path =
        ⟨got.result >>= typed "string" Value.asString? path, got.tree, got.notes⟩ ∧
      tree.getInteger disk path =
        ⟨got.result >>= typed "integer" Value.asInteger? path, got.tree, got.notes⟩ ∧
      tree.getFloat disk path =
        ⟨got.result >>= typed "float" Value.asFloat? path, got.tree, got.notes⟩ ∧
      tree.getBool disk path =
        ⟨got.result >>= typed "boolean" Value.asBool? path, got.tree, got.notes⟩) ∧
    ((∀ f, source.result = .error f ↔ resolved.result = .error f) ∧
      (∀ owner, resolved.result = .ok owner → ∃ row file,
        segments path tree.names = .ok (row ++ owner.rest) ∧
          resolved.tree.cache.get? (Text.joinDots row) = some (.file file owner.content) ∧
            source.result = .ok file) ∧
      source.tree = resolved.tree ∧ source.notes = resolved.notes) ∧
    (∀ ns row taken, (tree.locate disk path ns).result = .ok (row, taken) → ∃ file value,
      content (tree.locate disk path ns).cache (row.take taken) path = .ok value ∧
        sourceOf (tree.locate disk path ns).cache (row.take taken) path = .ok file) ∧
    (∀ question f, Question.path question = path → (tree.ask disk question).result = .error f →
      f.OwnerLost → ∃ file f', tree.loader disk file tree.names = .error f' ∧ f'.OwnerLost ∧
        f = f'.orPath path) ∧
    (∀ extra f, (tree.getWith disk path extra).result = .error f → f.OwnerLost → ∃ file f',
      tree.loader disk file (tree.names.overlay extra) = .error f' ∧ f'.OwnerLost ∧
        f = f'.orPath path) ∧
    ∀ disk file ns f, Loader.yaml disk file ns = .error f → ¬f.OwnerLost := by
  intro resolved got source
  have htree : ∀ question : Question, question.path = path →
      (tree.ask disk question).tree = resolved.tree ∧
        (tree.ask disk question).notes = resolved.notes := by
    intro question hpath
    have hresolve : resolved = tree.ask disk (.resolve path) := rfl
    rw [hresolve, ask_tree, ask_tree, ask_notes, ask_notes, hpath]
    exact ⟨rfl, rfl⟩
  refine ⟨⟨get_result_eq_resolve tree disk path, htree (.get path) rfl⟩,
    ⟨getAs_eq .., getAs_eq .., getAs_eq .., getAs_eq ..⟩,
    ⟨fun f => source_eq_error_iff, fun owner => source_of_resolve, htree (.source path) rfl⟩,
    fun ns row taken => reads_of_locate, ?_, fun extra f h hlost => ?_,
    fun disk file ns f h => (fileFault_of_yaml h).not_ownerLost⟩
  · rintro question f rfl h hlost
    exact (origin_of_ask h).loader_of_ownerLost hlost
  · obtain ⟨file, f', hload, hlost', hf⟩ := (origin_of_getWith h).loader_of_ownerLost hlost
    refine ⟨file, f', ?_, hlost', hf⟩
    split at hload
    · exact hload
    · exact hload

end Tree

end DottedConfig
