import Courier.Config.EnvFile
import Courier.Service

/-!
# The command line

The command reads an environment file from standard input and tells whether the service could start
with it: it loads the configuration as the first step of the service does, and reports a failure in
the words of the service.

## Main definitions

* `main`: the command.
-/

namespace Courier

namespace Main

/-- All of a stream, in front of which the octets `before` have been read. -/
partial def readAll (input : IO.FS.Stream) (before : ByteArray) : IO ByteArray := do
  let chunk ← input.read 65536
  if chunk.isEmpty then return before
  readAll input (before ++ chunk)

/-- The report about an environment file: whether it can be used, and what there is to say. -/
def report (file : Bytes) : Except String String :=
  match Config.load (EnvFile.apply [] file) with
  | .ok c => .ok ("Ready to serve on port " ++ Decimal.text c.serverPort.toNat)
  | .error e => .error (Service.Failure.report "unknown" (.config e))

end Main

end Courier

/-- Checks the environment file on standard input. -/
def main : IO UInt32 := do
  let file ← Courier.Main.readAll (← IO.getStdin) .empty
  match Courier.Main.report file.toList with
  | .ok line =>
    IO.println line
    return 0
  | .error text =>
    IO.eprintln text
    return 1
