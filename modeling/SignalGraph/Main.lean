import SignalGraph.Inspect
import Std.Time.DateTime.Timestamp

/-! The command line: runs the inspection on the files of the machine. -/

set_option autoImplicit false

namespace SignalGraph.CommandLine

def pathError : IO.Error → PathError
  | .noFileOrDirectory .. => .notFound
  | .alreadyExists .. => .alreadyThere
  | .inappropriateType _ code _ => if code = 21 then .isFolder else .notFolder
  | .invalidArgument _ _ "name too long" => .nameTooLong
  | failure => .other failure.toString

/-- Do something with files, and tell why it could not be done. -/
def attempt {α : Type} (action : IO α) : IO (Except PathError α) := do
  try
    return .ok (← action)
  catch failure =>
    return .error (pathError failure)

instance : Files IO where
  read path := attempt (IO.FS.readBinFile path)
  write path contents := attempt (IO.FS.writeBinFile path contents)
  makeFolder path := attempt (IO.FS.createDirAll path)

/-- The folder for the data of programs, as the environment names it. -/
def dataFolder : IO String := do
  match ← IO.getEnv "XDG_DATA_HOME" with
  | some folder => if Path.isAbsolute folder then return Path.join folder "strategy-builder"
  | none => pure ()
  match ← IO.getEnv "HOME" with
  | some home => return Path.join home ".local/share/strategy-builder"
  | none => return "."

def now : IO Instant := do
  return ⟨(← Std.Time.Timestamp.now).toMillisecondsSinceUnixEpoch.val⟩

end SignalGraph.CommandLine

def main (arguments : List String) : IO UInt32 := do
  let dataFolder ← SignalGraph.CommandLine.dataFolder
  let now ← SignalGraph.CommandLine.now
  let transcript ← SignalGraph.Inspect.run arguments dataFolder now
  transcript.output.forM fun text => IO.println text
  transcript.errors.forM fun text => IO.eprintln text
  return transcript.code.toUInt32
