/-
The command: looks up one dotted path below a root directory.

Everything that the disk is asked about is read first; the answer is then worked out
by `Cli.Reading.run`.
-/
import DottedConfig.Cli.Run

namespace DottedConfig.Cli

/-- What stands at a path of the real disk.  Only below a directory is there a `.`. -/
def look (path : String) : IO (Option Disk.Entry) := do
  if path.isEmpty then return none
  try
    discard (IO.FS.Handle.mk (path ++ "/.") .read)
    return some .directory
  catch _ =>
    try
      match String.fromUTF8? (← IO.FS.readBinFile path) with
      | some text => return some (.text text)
      | none => return some .bytes
    catch
      | .permissionDenied _ code details =>
        return some (.unreadable (.system s!"{details} (os error {code})"))
      | _ => return none

/-- The part of the real disk that matters for what the arguments ask. -/
def snapshot (reading : Reading) : IO Disk := do
  let places := match reading with
    | .request request => request.asked
    | _ => []
  let seen ← places.mapM fun path => do return (path, ← look path)
  return fun path => (seen.lookup path).join

end DottedConfig.Cli

open DottedConfig in
/-- Runs the command. -/
def main (arguments : List String) : IO UInt32 := do
  let reading := Cli.read arguments (← IO.getEnv "YAMLTREE_ROOT")
  let outcome := reading.run (← Cli.snapshot reading)
  outcome.messages.forM fun message => IO.eprint message.text
  IO.print outcome.output
  return outcome.code.toUInt32
