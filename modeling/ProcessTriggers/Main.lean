import ProcessTriggers.CommandLine.Run
import Std.Time

/-!
The command line program. It collects the files that its arguments name and the time, and prints
what the command gives.
-/

open ProcessTriggers

/-- What an argument names: a file with its content, or a directory. -/
def lookAt (env : Environment) (path : String) : IO Environment := do
  try
    let content ← IO.FS.readBinFile path
    return { env with files := (path, content.toList) :: env.files }
  catch _ =>
    try
      let _ ← IO.FS.realPath path
      return { env with directories := path :: env.directories }
    catch _ => return env

/-- The current time in microseconds. -/
def currentInstant : IO Instant := do
  let t ← Std.Time.Timestamp.now
  return Stamp.epoch + t.toNanosecondsSinceUnixEpoch.val / 1000

def main (args : List String) : IO UInt32 := do
  let env ← args.foldlM lookAt {}
  match CommandLine.run env (← currentInstant) args with
  | .ok o =>
    let stream ← if o.exitCode = 2 then IO.getStderr else IO.getStdout
    stream.putStr o.output
    return o.exitCode.toUInt32
  | .error e =>
    (← IO.getStderr).putStrLn (e.title ++ ": " ++ e.message)
    return 1
