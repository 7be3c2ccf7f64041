/-
Trees of configuration files, looked up by dotted paths.

A tree is a root directory, a namespace that fills placeholders, a loader, and a cache
of what has been found so far.  Content is cached with its placeholders filled, so
everything that changes the namespace empties the cache, and a lookup with further
entries for one call empties it both before and after.

Every operation is a function of the tree and the disk.  Its answer holds the result,
the tree after it, and what happened on the way; a failed lookup keeps what it found.
-/
import DottedConfig.Tree.Segments
import DottedConfig.Tree.Site
import DottedConfig.Value.Key

namespace DottedConfig

/-- A tree of configuration files. -/
structure Tree where
  /-- The root directory. -/
  root : String
  /-- The directory below the root that lookups begin at, if it is not the root. -/
  topLevel : Option String
  /-- What placeholders stand for. -/
  names : Namespace
  /-- Makes the content of files. -/
  loader : Loader
  /-- What has been found so far. -/
  cache : Cache

namespace Tree

variable {α : Type}

/-- A tree in which nothing has been looked up yet. -/
def new (root : String) (topLevel : Option String) (names : Namespace) (loader : Loader) : Tree :=
  ⟨root, topLevel, names, loader, .empty⟩

/-- The directory that paths begin at. -/
def base (tree : Tree) : String := tree.topLevel.elim tree.root (Path.join tree.root)

/-- Where and how the tree looks things up on a disk. -/
def site (tree : Tree) (disk : Disk) : Site := ⟨tree.base, tree.loader, disk⟩

/-- The answer of an operation. -/
structure Answer (α : Type) where
  /-- The result. -/
  result : Except Failure α
  /-- The tree after it. -/
  tree : Tree
  /-- What happened on the way. -/
  notes : List Note

/-- The answer of the tree to a question that goes through its cache. -/
def answer (tree : Tree) (reply : Reply α) : Answer α :=
  ⟨reply.result, { tree with cache := reply.cache }, reply.notes⟩

/-! ### The cache -/

/-- Empties the cache; a cache without entries is emptied without a word. -/
def flush (tree : Tree) : Answer Unit :=
  ⟨.ok (), { tree with cache := .empty },
    if tree.cache.isEmpty then [] else [.log (.flushing tree.cache.size)]⟩

/-- Gives the tree another namespace and empties the cache. -/
def setNames (tree : Tree) (names : Namespace) : Answer Unit := { tree with names := names }.flush

/-- Gives the tree another loader and empties the cache. -/
def setLoader (tree : Tree) (loader : Loader) : Answer Unit :=
  { tree with loader := loader }.flush

/-! ### Owners -/

/-- The row of segments of a path and how many of them its owner takes. -/
def locate (tree : Tree) (disk : Disk) (path : String) (ns : Namespace) :
    Reply (List String × Nat) :=
  (Reply.ofExcept tree.cache (segments path ns)).andThen fun parts cache =>
    (((tree.site disk).locate ns parts cache).orPath path).andThen fun taken cache =>
      .ofExcept cache (.ok (parts, taken))

/-- The content that is cached for a row of segments. -/
def content (cache : Cache) (parts : List String) (path : String) : Except Failure Value :=
  let dotted := Text.joinDots parts
  match (cache.get? dotted).bind Cache.Entry.content? with
  | some value => .ok value
  | none => .error ((Failure.notFound (.notLoaded dotted)).withPath path)

/-- The path that is cached for a row of segments. -/
def sourceOf (cache : Cache) (parts : List String) (path : String) : Except Failure String :=
  let dotted := Text.joinDots parts
  match cache.source? dotted with
  | some file => .ok file
  | none => .error ((Failure.notFound (.notCached dotted)).withPath path)

/-- The value at a path under a namespace. -/
def lookup (tree : Tree) (disk : Disk) (path : String) (ns : Namespace) : Reply Value :=
  (tree.locate disk path ns).andThen fun (parts, taken) cache =>
    .ofExcept cache do
      (← content cache (parts.take taken) path).atKeys (parts.drop taken) path

/-! ### Lookups -/

/-- The value at a path. -/
def get (tree : Tree) (disk : Disk) (path : String) : Answer Value :=
  tree.answer (tree.lookup disk path tree.names)

/-- The value at a path, with further entries laid over the namespace for this call only. -/
def getWith (tree : Tree) (disk : Disk) (path : String) (extra : Namespace) : Answer Value :=
  let before : Answer Unit := if extra.isEmpty then ⟨.ok (), tree, []⟩ else tree.flush
  let found := before.tree.answer (before.tree.lookup disk path (tree.names.overlay extra))
  let after := found.tree.flush
  ⟨found.result, after.tree, before.notes ++ found.notes ++ after.notes⟩

/-- The value at a path, seen as one type. -/
def getAs (expected : String) (view : Value → Option α) (tree : Tree) (disk : Disk)
    (path : String) : Answer α :=
  let found := tree.get disk path
  let result := do
    let value ← found.result
    match view value with
    | some a => return a
    | none => throw (.typeMismatch path expected value.typeName)
  ⟨result, found.tree, found.notes⟩

/-- The text at a path. -/
def getString : Tree → Disk → String → Answer String := getAs "string" Value.asString?

/-- The integer at a path. -/
def getInteger : Tree → Disk → String → Answer Int64 := getAs "integer" Value.asInteger?

/-- The floating-point number at a path; an integer becomes the nearest one. -/
def getFloat : Tree → Disk → String → Answer Binary64 := getAs "float" Value.asFloat?

/-- The truth value at a path. -/
def getBool : Tree → Disk → String → Answer Bool := getAs "boolean" Value.asBool?

/-- The content of the file that owns a path, and the segments that are left within it. -/
structure Owner where
  /-- The content of the file. -/
  content : Value
  /-- The segments to be looked up in it. -/
  rest : List String

/-- The owner of a path; what is left of the path is not looked up. -/
def resolve (tree : Tree) (disk : Disk) (path : String) : Answer Owner :=
  tree.answer <| (tree.locate disk path tree.names).andThen fun (parts, taken) cache =>
    .ofExcept cache do
      return ⟨← content cache (parts.take taken) path, parts.drop taken⟩

/-- The file that owns a path; what is left of the path is not looked up. -/
def source (tree : Tree) (disk : Disk) (path : String) : Answer String :=
  tree.answer <| (tree.locate disk path tree.names).andThen fun (parts, taken) cache =>
    .ofExcept cache (sourceOf cache (parts.take taken) path)

/-- What a row of segments stands for: the content of a file, or nothing for a directory. -/
def loadPrefix (tree : Tree) (disk : Disk) (parts : List String) (ns : Namespace) :
    Answer (Option Value) :=
  tree.answer <| ((tree.site disk).entry ns parts tree.cache).andThen fun entry cache =>
    .ofExcept cache (.ok entry.content?)

/-- The text of the file that owns a path, as it is on the disk. -/
def raw (tree : Tree) (disk : Disk) (path : String) : Answer String :=
  match segments path tree.names with
  | .error f => ⟨.error f, tree, []⟩
  | .ok parts =>
    let (result, notes) := (tree.site disk).rawFrom tree.base [] parts
    ⟨result.mapError (·.withPath path), tree, notes⟩

/-! ### The disk -/

/-- The places that a row of segments can ask the disk about: for each prefix of it the place
that it names, and the file there. -/
def placesOf (directory : String) : List String → List String
  | [] => []
  | part :: rest =>
    if Path.isPlainName part then
      let path := Path.join directory part
      path :: Path.yaml path :: placesOf path rest
    else []

/-- The places that a lookup of a path can ask the disk about. -/
def asked (tree : Tree) (path : String) (ns : Namespace) : List String :=
  match segments path ns with
  | .ok parts => placesOf tree.base parts
  | .error _ => []

/-! ### Showing a tree -/

/-- A namespace as a log shows it. -/
def showNames (names : Namespace) : String :=
  "Namespace \x7b entries: \x7b" ++
    ", ".intercalate (names.toList.map fun e => Text.quoted e.1 ++ ": " ++ Text.quoted e.2) ++
    "\x7d \x7d"

/-- A tree as a log shows it. -/
def text (tree : Tree) : String :=
  "ConfigTree \x7b root: " ++ Text.quoted tree.root ++
    ", top_level: " ++ Text.quoted? tree.topLevel ++
    ", namespace: " ++ showNames tree.names ++
    ", cached: " ++ toString tree.cache.size ++ ", .. \x7d"

end Tree

end DottedConfig
