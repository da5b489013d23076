import MatchCriteria.Log.Instant
import MatchCriteria.Run
import Std.Time.DateTime.Timestamp

/-!
# The program

Collects the arguments, the variables of the environment and the time, and runs the command
line on a single thread.  The output is taken to be a pipe.  The input is read to its end, but
only where the command line needs it.
-/

namespace MatchCriteria.Program

/-- The variables of the environment that have a meaning where the output is a pipe; `CI` would
have one on a terminal. -/
def variableNames : List String := ["NO_COLOR", "COLOR", "SIGMATCH_LOG", "CLICOLOR_FORCE"]

/-- The environment of the process. -/
def environment : IO Environment := do
  let settings ← variableNames.mapM fun name => do return (name, ← IO.getEnv name)
  return fun name => (settings.lookup name).join

/-- The present instant. -/
def now : IO String := do
  let time ← Std.Time.Timestamp.now
  let nanoseconds := time.toNanosecondsSinceUnixEpoch.toInt.toNat
  return Log.instant (nanoseconds / 1000000000) (nanoseconds % 1000000000)

/-- The bytes of a stream that continue some others. -/
partial def readToEnd (stream : IO.FS.Stream) (before : ByteArray) : IO ByteArray := do
  let bytes ← stream.read 65536
  if bytes.isEmpty then return before else readToEnd stream (before ++ bytes)

end MatchCriteria.Program

open MatchCriteria in
/-- Runs a command line, writes its answer and returns its exit code. -/
def main (args : List String) : IO UInt32 := do
  let bytes := args.map String.toUTF8
  let input ← if readsInput bytes then Program.readToEnd (← IO.getStdin) ByteArray.empty
    else pure ByteArray.empty
  let answer := run (← Program.environment) (← Program.now) bytes input
  (← IO.getStdout).putStr answer.output
  (← IO.getStderr).putStr answer.errors
  return answer.code.toUInt32
