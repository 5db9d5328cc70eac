import Introspection.CommandLine.Run

/-!
# The program

Reads the documents that the command line names and prints the answer. Warnings go to the error
stream, and so does the message of a failure.
-/

open Introspection

/-- Adds what is found at a path, if anything can be read there. -/
def addDocument (fs : Files) (path : String) : IO Files := do
  match ← (IO.FS.readBinFile path).toBaseIO with
  | .ok bytes => return fs.write (Path.ofText path) ⟨bytes.toList, 0⟩ 0
  | .error _ => return fs

def main (args : List String) : IO UInt32 := do
  let fs ← (CommandLine.documents args).foldlM addDocument {}
  let answer := CommandLine.run fs args
  answer.warnings.forM fun w => IO.eprintln w.message
  match answer.result with
  | .ok reply =>
    IO.print reply.out
    IO.eprint reply.err
    return UInt32.ofNat reply.exit
  | .error e =>
    IO.eprintln e.message
    return 1
