import SlashCommands.Program
import SlashCommands.Toml.Document

open SlashCommands

partial def readLine (input : IO.FS.Stream) (line : ByteArray) : IO (ByteArray × Bool) := do
  let next ← input.read 1
  match next.toList with
  | [] => return (line, false)
  | b :: _ => if b = Text.lineFeed then return (line, true) else readLine input (line.push b)

def fail (failure : List String) : IO UInt32 := do
  (← IO.getStderr).putStr (Program.report failure)
  return 1

partial def converse (input output : IO.FS.Stream) (c : Console) : IO UInt32 := do
  let (line, ended) ← readLine input .empty
  if line.isEmpty && !ended then return 0
  match Program.step c line.toList with
  | .quit => return 0
  | .bad => fail Program.badInput
  | .goOn c printed =>
    output.putStr (Program.printedText printed)
    output.flush
    converse input output c

def content (file : String) : IO (Except FileError (List UInt8)) := do
  match ← (IO.FS.readBinFile file).toBaseIO with
  | .ok bytes => return .ok bytes.toList
  | .error (.permissionDenied ..) => return .error .permissionDenied
  | .error (.inappropriateType ..) => return .error .isADirectory
  | .error _ => return .error .notFound

/-- The settings are those of the file that the first argument names, or else the one that the
environment variable `CHATCMD_CONFIG` names. -/
def main (args : List String) : IO UInt32 := do
  let file := args.head?.or (← IO.getEnv "CHATCMD_CONFIG")
  let source ← file.mapM fun name => do return ⟨name, ← content name⟩
  match Program.start Toml.read? source with
  | .error failure => fail failure
  | .ok c => converse (← IO.getStdin) (← IO.getStdout) c
