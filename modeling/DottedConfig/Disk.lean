/-
What stands on a disk, seen through path texts.

A disk answers each path text with what stands there.  That two texts can lead to the
same place is the disk's affair: whoever asks compares texts only.  A file need not give its
text away, and then the disk says why.
-/

namespace DottedConfig

/-- Why a file does not give a text. -/
inductive Disk.Refusal where
  /-- Its bytes are no UTF-8 text. -/
  | notText
  /-- The system does not let it be read, and says so in these words. -/
  | system (reason : String)
  deriving DecidableEq, Repr

/-- The wording of a refusal. -/
def Disk.Refusal.message : Disk.Refusal → String
  | .notText => "stream did not contain valid UTF-8"
  | .system reason => reason

/-- What can stand at a path. -/
inductive Disk.Entry where
  /-- A directory. -/
  | directory
  /-- A file that holds this text. -/
  | text (s : String)
  /-- A file that cannot be read as a text. -/
  | unreadable (refusal : Disk.Refusal)
  deriving DecidableEq, Repr

/-- A file whose bytes are no UTF-8 text. -/
def Disk.Entry.bytes : Disk.Entry := .unreadable .notText

/-- What stands at each path. -/
abbrev Disk := String → Option Disk.Entry

namespace Disk

/-- Whether a file stands at a path. -/
def isFile (disk : Disk) (path : String) : Bool :=
  match disk path with
  | some (.text _) | some (.unreadable _) => true
  | _ => false

/-- Whether a directory stands at a path. -/
def isDirectory (disk : Disk) (path : String) : Bool :=
  match disk path with
  | some .directory => true
  | _ => false

/-- Whether anything stands at a path. -/
def has (disk : Disk) (path : String) : Bool := (disk path).isSome

end Disk

end DottedConfig
