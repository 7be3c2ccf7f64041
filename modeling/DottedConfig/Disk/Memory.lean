/-
Disks held in memory, with paths that are walked name by name.

A path is walked from the working directory, or from the outside if it begins with
`/`.  Every step needs a directory to stand in: an empty name and `.` stay there, `..`
goes up, and any other name goes to what stands under it.  So `a/../b` leads nowhere
unless `a` is a directory, and a file is not reached by a path that ends in `/`.
Outside the working directory there is nothing but directories to come back from.
-/
import DottedConfig.Disk
import DottedConfig.Text.Dotted

namespace DottedConfig.Disk

/-- What stands below the working directory. -/
structure Memory where
  /-- What stands at the end of each row of names; the first entry of a row counts. -/
  entries : List (List String × Entry)

namespace Memory

/-- A disk with an empty working directory. -/
def empty : Memory := ⟨[]⟩

/-- Where a path has led so far. -/
inductive Spot where
  /-- At the end of a row of names below the working directory. -/
  | inside (names : List String)
  /-- In a directory that is not below the working directory. -/
  | outside

/-- What stands at the end of a row of names. -/
def at? (memory : Memory) (names : List String) : Option Entry :=
  if names.isEmpty then some .directory else memory.entries.lookup names

/-- What stands at a spot. -/
def entryAt? (memory : Memory) : Spot → Option Entry
  | .inside names => memory.at? names
  | .outside => some .directory

/-- Whether a directory can hold something under a name. -/
def fits (name : String) : Bool := name.utf8ByteSize ≤ 255 && !name.toList.contains '\x00'

/-- The spot that a name leads to from another one, if there is anything. -/
def step (memory : Memory) (spot : Spot) (name : String) : Option Spot :=
  if memory.entryAt? spot != some .directory then none
  else if name = "" || name = "." then some spot
  else
    match spot with
    | .outside => if name = ".." then some .outside else none
    | .inside names =>
      if name = ".." then
        if names.isEmpty then some .outside else some (.inside names.dropLast)
      else if fits name && (memory.at? (names ++ [name])).isSome then
        some (.inside (names ++ [name]))
      else none

/-- The names in a path, one after each `/`. -/
def namesOf (path : String) : List String := (Text.cutChars '/' path.toList).map String.ofList

/-- The longest path, in bytes, that can be walked. -/
def longestPath : Nat := 4095

/-- The spot that a path leads to, if there is anything. -/
def walk (memory : Memory) (path : String) : Option Spot :=
  if path.isEmpty || path.utf8ByteSize > longestPath then none
  else
    let start : Spot := if path.toList.head? = some '/' then .outside else .inside []
    (namesOf path).foldlM memory.step start

/-- The disk as seen through path texts. -/
def disk (memory : Memory) : Disk := fun path => (memory.walk path).bind memory.entryAt?

/-! ### Changes -/

/-- The row of names that a path spells, whatever stands on the way. -/
def place (path : String) : List String :=
  (namesOf path).foldl (fun names name =>
    if name = "" || name = "." then names
    else if name = ".." then names.dropLast
    else names ++ [name]) []

/-- The disk with an entry at the end of a row of names. -/
def put (memory : Memory) (names : List String) (entry : Entry) : Memory :=
  ⟨(names, entry) :: memory.entries.filter (·.1 != names)⟩

/-- The disk with an entry at a path, and directories on the way to it. -/
def write (memory : Memory) (path : String) (entry : Entry) : Memory :=
  let names := place path
  let onTheWay := (List.range names.length).tail.map names.take
  (onTheWay.foldl (fun m row => m.put row .directory) memory).put names entry

/-- The disk without what stands at a path and below it. -/
def remove (memory : Memory) (path : String) : Memory :=
  let names := place path
  ⟨memory.entries.filter fun e => !names.isPrefixOf e.1⟩

example : place "a/./b/../c" = ["a", "c"] := by decide +kernel
example : (empty.write "a/b" (.text "")).disk "a/../a/b" = some (.text "") := by decide +kernel
example : (empty.write "a/b" (.text "")).disk "a/b/" = none := by decide +kernel

end Memory

end DottedConfig.Disk
