/-
The cache of what dotted prefixes stand for.

The first entry recorded for a prefix is kept: recording another one changes nothing
and answers the first.  So an entry, once there, answers every later question until
the cache is emptied.
-/
import DottedConfig.SortedMap
import DottedConfig.Value

namespace DottedConfig

/-- What a dotted prefix stands for. -/
inductive Cache.Entry where
  /-- The directory at this path. -/
  | directory (path : String)
  /-- The file at this path, with its content. -/
  | file (path : String) (content : Value)
  deriving Repr

namespace Cache.Entry

/-- The path of what the prefix stands for. -/
def path : Cache.Entry → String
  | directory path => path
  | file path _ => path

/-- The content, if the prefix stands for a file. -/
def content? : Cache.Entry → Option Value
  | directory _ => none
  | file _ content => some content

/-- Whether the prefix stands for a file. -/
def isFile : Cache.Entry → Bool
  | directory _ => false
  | file .. => true

end Cache.Entry

/-- The entries recorded so far, by dotted prefix. -/
abbrev Cache := SortedMap Cache.Entry

namespace Cache

/-- The cache without entries. -/
def empty : Cache := SortedMap.empty

/-- Records an entry unless the prefix has one; answers the entry that is kept. -/
def record (cache : Cache) (dotted : String) (entry : Entry) : Entry × Cache :=
  match cache.get? dotted with
  | some kept => (kept, cache)
  | none => (entry, cache.insert dotted entry)

/-- The answer to a question for an entry that is built if it is missing. -/
structure Fetched (ε ν : Type) where
  /-- The entry, or the failure to build it. -/
  result : Except ε Entry
  /-- The cache after it. -/
  cache : Cache
  /-- What building it brought along; nothing if the prefix had an entry. -/
  built : Option ν

/-- The entry of a prefix, built if it is missing.  A failure to build is not recorded. -/
def fetch {ε ν : Type} (cache : Cache) (dotted : String)
    (build : Unit → Except ε Entry × ν) : Fetched ε ν :=
  match cache.get? dotted with
  | some entry => ⟨.ok entry, cache, none⟩
  | none =>
    match build () with
    | (.ok entry, notes) => ⟨.ok entry, cache.insert dotted entry, some notes⟩
    | (.error fault, notes) => ⟨.error fault, cache, some notes⟩

/-- The path of what a prefix stands for, if it is recorded. -/
def source? (cache : Cache) (dotted : String) : Option String :=
  (cache.get? dotted).map Entry.path

end Cache

end DottedConfig
