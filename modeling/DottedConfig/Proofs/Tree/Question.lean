/-
Questions to a tree, and when two trees answer them alike.

Every question under the tree's own namespace is about one path, and its answer is read
off the *owner* of that path: the row that the path is split into and the first file on
the way along it.  Nothing else of the cache reaches an answer.  In particular the two
failures for an owner that went missing between being found and being read never occur.

`Agree` says of two trees that they differ in nothing but what their caches hold and
that their owners are the same.  Agreeing trees answer every question alike, and a tree
agrees with what it has become by being asked.
-/
import DottedConfig.Proofs.Tree.View
import DottedConfig.Tree

namespace DottedConfig.Tree

open Site (OwnerFile ownerFrom)

/-! ### The owner of a path -/

/-- What a row stands for in a tree, under a namespace. -/
def view (tree : Tree) (disk : Disk) (ns : Namespace) : List String → Except Failure Cache.Entry :=
  (tree.site disk).view ns tree.cache

/-- The row of a path, and the file that owns the path. -/
def owner (tree : Tree) (disk : Disk) (path : String) (ns : Namespace) :
    Except Failure (List String × OwnerFile) := do
  let row ← segments path ns
  let owner ← (ownerFrom (tree.view disk ns) [] row).mapError (·.orPath path)
  return (row, owner)

variable {tree tree' : Tree} {disk disk' : Disk}

section

variable {path : String} {ns : Namespace}

theorem locate_of_segments_error {f : Failure} (h : segments path ns = .error f) :
    tree.locate disk path ns = ⟨.error f, tree.cache, []⟩ := by
  rw [locate, h]
  rfl

theorem locate_of_segments_ok {row : List String} (h : segments path ns = .ok row) :
    tree.locate disk path ns =
      (((tree.site disk).locate ns row tree.cache).orPath path).andThen fun taken cache =>
        .ofExcept cache (.ok (row, taken)) := by
  rw [locate, h]
  rfl

theorem owner_of_segments_ok {row : List String} (h : segments path ns = .ok row) :
    tree.owner disk path ns =
      ((ownerFrom (tree.view disk ns) [] row).mapError (·.orPath path)).map fun o => (row, o) := by
  rw [owner, h]
  show ((ownerFrom (tree.view disk ns) [] row).mapError _ >>= fun o => pure (row, o)) = _
  cases ownerFrom (tree.view disk ns) [] row <;> rfl

/-- Locating a path finds how many segments its owner takes. -/
theorem locate_result (tree : Tree) (disk : Disk) (path : String) (ns : Namespace) :
    (tree.locate disk path ns).result =
      (tree.owner disk path ns).map fun (row, owner) => (row, owner.taken) := by
  cases hrow : segments path ns with
  | error f =>
      rw [locate_of_segments_error hrow, owner, hrow]
      rfl
  | ok row =>
      rw [locate_of_segments_ok hrow, Reply.result_andThen_ofExcept, owner_of_segments_ok hrow,
        Reply.orPath, Site.locate, Site.locateFrom_result (segments_isRow hrow).segments]
      rw [view]
      cases ownerFrom ((tree.site disk).view ns tree.cache) [] row <;> rfl

/-- **Locating a path does not change what any row stands for.** -/
theorem view_locate (tree : Tree) (disk : Disk) (path : String) (ns : Namespace)
    {row : List String} (hrow : IsRow row) :
    (tree.site disk).view ns (tree.locate disk path ns).cache row = tree.view disk ns row := by
  cases hpath : segments path ns with
  | error f => rw [locate_of_segments_error hpath, view]
  | ok parts =>
      rw [locate_of_segments_ok hpath, Reply.cache_andThen_ofExcept, view]
      exact Site.view_locateFrom (segments_isRow hpath).segments hrow

/-- And it leaves the owner in the cache, under the segments that it takes. -/
theorem get?_locate {row : List String} {owner : OwnerFile}
    (h : tree.owner disk path ns = .ok (row, owner)) :
    (tree.locate disk path ns).cache.get? (Text.joinDots (row.take owner.taken)) =
      some (.file owner.file owner.content) := by
  cases hrow : segments path ns with
  | error f =>
      rw [Tree.owner, hrow] at h
      cases h
  | ok row' =>
      rw [owner_of_segments_ok hrow] at h
      cases howner : ownerFrom (tree.view disk ns) [] row' with
      | error f => rw [howner] at h; cases h
      | ok owner' =>
          rw [howner] at h
          cases h
          rw [locate_of_segments_ok hrow, Reply.cache_andThen_ofExcept]
          rw [view] at howner
          exact Site.get?_locateFrom (segments_isRow hrow).segments howner

end

/-! ### Answers by owner -/

attribute [ext] Answer

theorem content_of_cached {cache : Cache} {row : List String} {file : String} {value : Value}
    (h : cache.get? (Text.joinDots row) = some (.file file value)) (path : String) :
    content cache row path = .ok value := by
  simp only [content, h, Option.bind_some, Cache.Entry.content?]

theorem sourceOf_of_cached {cache : Cache} {row : List String} {file : String} {value : Value}
    (h : cache.get? (Text.joinDots row) = some (.file file value)) (path : String) :
    sourceOf cache row path = .ok file := by
  simp only [sourceOf, Cache.source?, h, Option.map_some, Cache.Entry.path]

/-- The value at a path is what its owner has under the segments that are left. -/
theorem lookup_result (tree : Tree) (disk : Disk) (path : String) (ns : Namespace) :
    (tree.lookup disk path ns).result =
      (tree.owner disk path ns >>= fun (row, owner) =>
        owner.content.atKeys (row.drop owner.taken) path) := by
  rw [lookup, Reply.result_andThen_ofExcept, locate_result]
  cases howner : tree.owner disk path ns with
  | error f => rfl
  | ok found =>
      obtain ⟨row, owner⟩ := found
      show (content _ (row.take owner.taken) path >>= fun value => _) = _
      rw [content_of_cached (get?_locate howner)]
      rfl

theorem resolve_result (tree : Tree) (disk : Disk) (path : String) :
    (tree.resolve disk path).result =
      (tree.owner disk path tree.names).map fun (row, owner) =>
        ⟨owner.content, row.drop owner.taken⟩ := by
  rw [resolve, answer, Reply.result_andThen_ofExcept, locate_result]
  cases howner : tree.owner disk path tree.names with
  | error f => rfl
  | ok found =>
      obtain ⟨row, owner⟩ := found
      show (content _ (row.take owner.taken) path >>= fun value => _) = _
      rw [content_of_cached (get?_locate howner)]
      rfl

theorem source_result (tree : Tree) (disk : Disk) (path : String) :
    (tree.source disk path).result =
      (tree.owner disk path tree.names).map fun (_, owner) => owner.file := by
  rw [source, answer, Reply.result_andThen_ofExcept, locate_result]
  cases howner : tree.owner disk path tree.names with
  | error f => rfl
  | ok found =>
      obtain ⟨row, owner⟩ := found
      show sourceOf _ (row.take owner.taken) path = _
      rw [sourceOf_of_cached (get?_locate howner)]
      rfl

theorem resolve_of_segments_ok {path : String} {row : List String}
    (h : segments path tree.names = .ok row) :
    (tree.resolve disk path).result =
      ((ownerFrom (tree.view disk tree.names) [] row).mapError (·.orPath path)).map fun owner =>
        ⟨owner.content, row.drop owner.taken⟩ := by
  rw [resolve_result, owner_of_segments_ok h]
  cases ownerFrom (tree.view disk tree.names) [] row <;> rfl

theorem source_of_segments_ok {path : String} {row : List String}
    (h : segments path tree.names = .ok row) :
    (tree.source disk path).result =
      ((ownerFrom (tree.view disk tree.names) [] row).mapError (·.orPath path)).map
        OwnerFile.file := by
  rw [source_result, owner_of_segments_ok h]
  cases ownerFrom (tree.view disk tree.names) [] row <;> rfl

theorem source_of_segments_error {path : String} {f : Failure}
    (h : segments path tree.names = .error f) : (tree.source disk path).result = .error f := by
  rw [source_result, owner, h]
  rfl

/-! ### Questions -/

/-- A question to a tree, under the tree's own namespace. -/
inductive Question where
  /-- What is the value at a path? -/
  | get (path : String)
  /-- What is the text at a path? -/
  | getString (path : String)
  /-- What is the integer at a path? -/
  | getInteger (path : String)
  /-- What is the floating-point number at a path? -/
  | getFloat (path : String)
  /-- What is the truth value at a path? -/
  | getBool (path : String)
  /-- What does the file hold that owns a path? -/
  | resolve (path : String)
  /-- Which file owns a path? -/
  | source (path : String)

/-- The path that a question is about. -/
def Question.path : Question → String
  | get path | getString path | getInteger path | getFloat path | getBool path
  | resolve path | source path => path

/-- What a question is answered with. -/
abbrev Question.Result : Question → Type
  | get _ => Value
  | getString _ => String
  | getInteger _ => Int64
  | getFloat _ => Binary64
  | getBool _ => Bool
  | resolve _ => Owner
  | source _ => String

/-- Asks a tree. -/
def ask (tree : Tree) (disk : Disk) : (question : Question) → Answer question.Result
  | .get path => tree.get disk path
  | .getString path => tree.getString disk path
  | .getInteger path => tree.getInteger disk path
  | .getFloat path => tree.getFloat disk path
  | .getBool path => tree.getBool disk path
  | .resolve path => tree.resolve disk path
  | .source path => tree.source disk path

/-- A value as one of a type, for a path. -/
def typed {α : Type} (expected : String) (view : Value → Option α) (path : String)
    (value : Value) : Except Failure α :=
  match view value with
  | some a => .ok a
  | none => .error (.typeMismatch path expected value.typeName)

/-- What is answered from a file, its content and the segments to be looked up in it. -/
def Question.answeredBy (file : String) (content : Value) (rest : List String) :
    (question : Question) → Except Failure question.Result
  | .get path => content.atKeys rest path
  | .getString path => content.atKeys rest path >>= typed "string" Value.asString? path
  | .getInteger path => content.atKeys rest path >>= typed "integer" Value.asInteger? path
  | .getFloat path => content.atKeys rest path >>= typed "float" Value.asFloat? path
  | .getBool path => content.atKeys rest path >>= typed "boolean" Value.asBool? path
  | .resolve _ => .ok ⟨content, rest⟩
  | .source _ => .ok file

theorem getAs_eq {α : Type} (expected : String) (view : Value → Option α) (tree : Tree)
    (disk : Disk) (path : String) :
    getAs expected view tree disk path =
      ⟨(tree.get disk path).result >>= typed expected view path, (tree.get disk path).tree,
        (tree.get disk path).notes⟩ := by
  rw [getAs]
  congr 1

/-- Asking leaves behind what locating the path has put into the cache, and nothing else. -/
theorem ask_tree (tree : Tree) (disk : Disk) (question : Question) :
    (tree.ask disk question).tree =
      { tree with cache := (tree.locate disk question.path tree.names).cache } := by
  have hlookup : ∀ path, (tree.get disk path).tree =
      { tree with cache := (tree.locate disk path tree.names).cache } := by
    intro path
    rw [get, answer, lookup, Reply.cache_andThen_ofExcept]
  cases question with
  | get path => exact hlookup path
  | getString path => exact hlookup path
  | getInteger path => exact hlookup path
  | getFloat path => exact hlookup path
  | getBool path => exact hlookup path
  | resolve path =>
      show (tree.resolve disk path).tree = _
      rw [resolve, answer, Reply.cache_andThen_ofExcept]
      rfl
  | source path =>
      show (tree.source disk path).tree = _
      rw [source, answer, Reply.cache_andThen_ofExcept]
      rfl

/-- The result of a question follows from the owner of its path. -/
theorem ask_result (tree : Tree) (disk : Disk) (question : Question) :
    (tree.ask disk question).result =
      (tree.owner disk question.path tree.names >>= fun (row, owner) =>
        question.answeredBy owner.file owner.content (row.drop owner.taken)) := by
  have hgetAs : ∀ {α : Type} (expected : String) (view : Value → Option α) path,
      (getAs expected view tree disk path).result =
        (tree.owner disk path tree.names >>= fun (row, owner) =>
          owner.content.atKeys (row.drop owner.taken) path >>= typed expected view path) := by
    intro α expected view path
    rw [getAs_eq, get, answer, lookup_result]
    cases tree.owner disk path tree.names <;> rfl
  cases question with
  | get path => exact tree.lookup_result disk path tree.names
  | getString path => exact hgetAs "string" Value.asString? path
  | getInteger path => exact hgetAs "integer" Value.asInteger? path
  | getFloat path => exact hgetAs "float" Value.asFloat? path
  | getBool path => exact hgetAs "boolean" Value.asBool? path
  | resolve path =>
      refine (tree.resolve_result disk path).trans ?_
      show _ = tree.owner disk path tree.names >>= _
      cases tree.owner disk path tree.names <;> rfl
  | source path =>
      refine (tree.source_result disk path).trans ?_
      show _ = tree.owner disk path tree.names >>= _
      cases tree.owner disk path tree.names <;> rfl

/-- **The answer to a question depends on the owner of its path alone.** -/
theorem ask_congr (question : Question)
    (h : tree.owner disk question.path tree.names =
      tree'.owner disk' question.path tree'.names) :
    (tree.ask disk question).result = (tree'.ask disk' question).result := by
  rw [ask_result, ask_result, h]

theorem lookup_notes (tree : Tree) (disk : Disk) (path : String) (ns : Namespace) :
    (tree.lookup disk path ns).notes = (tree.locate disk path ns).notes := by
  rw [lookup, Reply.notes_andThen_ofExcept]

/-- Asking reports what locating the path does. -/
theorem ask_notes (tree : Tree) (disk : Disk) (question : Question) :
    (tree.ask disk question).notes = (tree.locate disk question.path tree.names).notes := by
  cases question with
  | get path => exact tree.lookup_notes disk path tree.names
  | getString path => exact tree.lookup_notes disk path tree.names
  | getInteger path => exact tree.lookup_notes disk path tree.names
  | getFloat path => exact tree.lookup_notes disk path tree.names
  | getBool path => exact tree.lookup_notes disk path tree.names
  | resolve path =>
      show (tree.resolve disk path).notes = _
      rw [resolve, answer, Reply.notes_andThen_ofExcept]
      rfl
  | source path =>
      show (tree.source disk path).notes = _
      rw [source, answer, Reply.notes_andThen_ofExcept]
      rfl

/-- Trees in which the path is located alike give the same result. -/
theorem ask_result_of_locate_eq (question : Question)
    (h : tree.locate disk question.path tree.names =
      tree'.locate disk' question.path tree'.names) :
    (tree.ask disk question).result = (tree'.ask disk' question).result := by
  have hget : ∀ path, tree.locate disk path tree.names = tree'.locate disk' path tree'.names →
      (tree.get disk path).result = (tree'.get disk' path).result := by
    intro path hlocate
    rw [get, get, answer, answer, lookup, lookup, hlocate]
  have hgetAs : ∀ {α : Type} (expected : String) (view : Value → Option α) path,
      tree.locate disk path tree.names = tree'.locate disk' path tree'.names →
      (getAs expected view tree disk path).result =
        (getAs expected view tree' disk' path).result := by
    intro α expected view path hlocate
    rw [getAs, getAs, hget path hlocate]
  cases question with
  | get path => exact hget path h
  | getString path => exact hgetAs "string" Value.asString? path h
  | getInteger path => exact hgetAs "integer" Value.asInteger? path h
  | getFloat path => exact hgetAs "float" Value.asFloat? path h
  | getBool path => exact hgetAs "boolean" Value.asBool? path h
  | resolve path => exact congrArg (fun reply => (Reply.andThen reply _).result) h
  | source path => exact congrArg (fun reply => (Reply.andThen reply _).result) h

/-- Disks on which the path is located alike give the same answer altogether: the result, the
tree that is left behind and what is reported. -/
theorem ask_eq_of_locate_eq (question : Question)
    (h : tree.locate disk question.path tree.names = tree.locate disk' question.path tree.names) :
    tree.ask disk question = tree.ask disk' question := by
  have hresult := ask_result_of_locate_eq question h
  have htree : (tree.ask disk question).tree = (tree.ask disk' question).tree := by
    rw [ask_tree, ask_tree, h]
  have hnotes : (tree.ask disk question).notes = (tree.ask disk' question).notes := by
    rw [ask_notes, ask_notes, h]
  exact Answer.ext hresult htree hnotes

/-! ### Trees that agree -/

/-- A new tree of the same root, namespace and loader, in which nothing was looked up yet. -/
def fresh (tree : Tree) : Tree := .new tree.root tree.topLevel tree.names tree.loader

/-- Two trees that answer every question on a disk alike, whatever their caches hold. -/
structure Agree (disk : Disk) (tree tree' : Tree) : Prop where
  /-- They differ in their caches only. -/
  fresh : tree.fresh = tree'.fresh
  /-- Every row has the same owner. -/
  owners : ∀ row, IsRow row →
    ownerFrom (tree.view disk tree.names) [] row = ownerFrom (tree'.view disk tree'.names) [] row

namespace Agree

theorem refl (disk : Disk) (tree : Tree) : Agree disk tree tree := ⟨rfl, fun _ _ => rfl⟩

theorem symm (h : Agree disk tree tree') : Agree disk tree' tree :=
  ⟨h.fresh.symm, fun row hrow => (h.owners row hrow).symm⟩

theorem trans {tree'' : Tree} (h : Agree disk tree tree') (h' : Agree disk tree' tree'') :
    Agree disk tree tree'' :=
  ⟨h.fresh.trans h'.fresh, fun row hrow => (h.owners row hrow).trans (h'.owners row hrow)⟩

theorem names (h : Agree disk tree tree') : tree.names = tree'.names := by
  have hnames := congrArg Tree.names h.fresh
  exact hnames

theorem owner (h : Agree disk tree tree') (path : String) :
    tree.owner disk path tree.names = tree'.owner disk path tree'.names := by
  cases hrow : segments path tree.names with
  | error f =>
      rw [Tree.owner, Tree.owner, ← h.names, hrow]
      rfl
  | ok row =>
      rw [owner_of_segments_ok hrow, owner_of_segments_ok (h.names ▸ hrow),
        h.owners row (segments_isRow hrow)]

/-- **Trees that agree answer every question alike.** -/
theorem ask (h : Agree disk tree tree') (question : Question) :
    (tree.ask disk question).result = (tree'.ask disk question).result :=
  ask_congr question (h.owner question.path)

end Agree

/-- A tree agrees with another one of the same make if they give every row the same meaning. -/
theorem agree_of_view_eq (hfresh : tree.fresh = tree'.fresh)
    (h : ∀ row, IsRow row → tree.view disk tree.names row = tree'.view disk tree'.names row) :
    Agree disk tree tree' :=
  ⟨hfresh, fun _ hrow => Site.ownerFrom_eq_of_view_eq h hrow.segments⟩

/-- **A tree that was asked agrees with itself before.** -/
theorem agree_ask (tree : Tree) (disk : Disk) (question : Question) :
    Agree disk (tree.ask disk question).tree tree := by
  rw [ask_tree]
  exact agree_of_view_eq rfl fun row hrow =>
    view_locate tree disk question.path tree.names hrow

end DottedConfig.Tree
