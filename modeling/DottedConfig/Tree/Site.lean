/-
What dotted prefixes stand for at one moment: one root, one loader, one disk.

The segments of a prefix name a place below the root.  A file with `.yaml` after that
name comes before a directory of that name.  A segment that would lead out of the
place it stands in never stands for anything.  Prefixes are tried from the shortest
on, and the first that is a file owns the whole path.
-/
import DottedConfig.Cache
import DottedConfig.Loader
import DottedConfig.Log
import DottedConfig.Path
import DottedConfig.Text.Dotted

namespace DottedConfig

/-- Where and how prefixes are looked up. -/
structure Site where
  /-- The directory that paths begin at. -/
  base : String
  /-- Makes the content of files. -/
  loader : Loader
  /-- What stands where. -/
  disk : Disk

/-- The answer to a question that goes through the cache. -/
structure Reply (α : Type) where
  /-- The answer itself. -/
  result : Except Failure α
  /-- The cache after it. -/
  cache : Cache
  /-- What happened on the way. -/
  notes : List Note

namespace Reply

variable {α β : Type}

/-- An answer that needs nothing but the cache as it is. -/
def ofExcept (cache : Cache) (result : Except Failure α) : Reply α := ⟨result, cache, []⟩

/-- Goes on from an answer, unless it is a failure. -/
def andThen (reply : Reply α) (next : α → Cache → Reply β) : Reply β :=
  match reply.result with
  | .error f => ⟨.error f, reply.cache, reply.notes⟩
  | .ok a =>
    let reply' := next a reply.cache
    { reply' with notes := reply.notes ++ reply'.notes }

/-- The answer as one about a dotted path, if it is a failure that names none. -/
def orPath (reply : Reply α) (path : String) : Reply α :=
  { reply with result := reply.result.mapError (·.orPath path) }

end Reply

namespace Site

/-- The failure of a place at which nothing stands. -/
def nothingAt (place : String) : Failure := .notFound (.nothingAt place)

/-- The failure of a path of which every prefix is a directory. -/
def onlyDirectories (parts : List String) : Failure :=
  .notFound (.onlyDirectories (Text.joinDots parts))

/-- The place that a row of segments names below a directory, if each is a plain name. -/
def place (directory : String) : List String → Except Failure String
  | [] => .ok directory
  | part :: rest =>
    if Path.isPlainName part then place (Path.join directory part) rest
    else .error (nothingAt (Path.join directory part))

/-- Looks on the disk for what a prefix stands for. -/
def probe (site : Site) (ns : Namespace) (parts : List String) :
    Except Failure Cache.Entry × List Note :=
  match place site.base parts with
  | .error f => (.error f, [])
  | .ok path =>
    let file := Path.yaml path
    let dotted := Text.joinDots parts
    if site.disk.isFile file || (site.disk.has file && !site.disk.isDirectory path) then
      match site.loader site.disk file ns with
      | .ok content => (.ok (.file file content), [.load file, .log (.loaded dotted file)])
      | .error f => (.error f, [.load file])
    else if site.disk.isDirectory path then
      (.ok (.directory path), [.log (.directory dotted path)])
    else (.error (nothingAt path), [])

/-- What a prefix stands for, by the cache or else by the disk. -/
def entry (site : Site) (ns : Namespace) (parts : List String) (cache : Cache) :
    Reply Cache.Entry :=
  let dotted := Text.joinDots parts
  let fetched := cache.fetch dotted fun _ => site.probe ns parts
  ⟨fetched.result, fetched.cache, fetched.built.getD [.log (.hit dotted)]⟩

/-- Tries the prefixes that are longer than `before`, and counts the segments of the first file. -/
def locateFrom (site : Site) (ns : Namespace) (before : List String) :
    List String → Cache → Reply Nat
  | [], cache => .ofExcept cache (.error (onlyDirectories before))
  | part :: rest, cache =>
    (site.entry ns (before ++ [part]) cache).andThen fun entry cache =>
      if entry.isFile then .ofExcept cache (.ok (before.length + 1))
      else site.locateFrom ns (before ++ [part]) rest cache

/-- How many segments of a path its owner takes. -/
def locate (site : Site) (ns : Namespace) (parts : List String) (cache : Cache) : Reply Nat :=
  site.locateFrom ns [] parts cache

/-- The text of the file that owns a row of segments, found without cache and loader. -/
def rawFrom (site : Site) (directory : String) (before : List String) :
    List String → Except Failure String × List Note
  | [] => (.error (onlyDirectories before), [])
  | part :: rest =>
    let parts := before ++ [part]
    let path := Path.join directory part
    let file := Path.yaml path
    if !Path.isPlainName part then (.error (nothingAt path), [])
    else
      match site.disk file, site.disk.isDirectory path with
      | some (.text s), _ => (.ok s, [.log (.readingRaw (Text.joinDots parts) file)])
      | some (.unreadable refusal), _ =>
        (.error (.io file (.unreadable refusal)),
          [.log (.readingRaw (Text.joinDots parts) file)])
      | _, true => site.rawFrom path parts rest
      | some .directory, false => (.error (.notAFile file), [])
      | none, false => (.error (nothingAt path), [])

end Site

end DottedConfig
