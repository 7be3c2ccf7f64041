/-
Paths of files and directories, as texts.

Paths are never normalised: what is written is what is shown and looked up.
-/

namespace DottedConfig.Path

/-- A name below a directory; a name that begins with `/` stands for itself. -/
def join (directory name : String) : String :=
  if name.toList.head? = some '/' then name
  else if directory.isEmpty || directory.toList.getLast? = some '/' then directory ++ name
  else directory ++ "/" ++ name

/-- The file that holds what a path stands for. -/
def yaml (path : String) : String := path ++ ".yaml"

/-- A row of names below a directory. -/
def joinAll (directory : String) (names : List String) : String := names.foldl join directory

/-- Whether a name stands for one entry of a directory, and leads nowhere else. -/
def isPlainName (name : String) : Bool :=
  name != "." && name != ".." && !name.toList.any fun c => c == '/' || c == '\\'

end DottedConfig.Path
