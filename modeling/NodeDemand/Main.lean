/-
# The command line program

Reads the files that the options name, runs the program on them, and prints what it prints.  It
starts no other program itself: the table is read from a file.
-/
import NodeDemand.Program

namespace NodeDemand.Main

/-- A refusal of the operating system. -/
def fault : IO.Error → IoFault
  | .permissionDenied .. => .permissionDenied
  | .inappropriateType .. => .isDirectory
  | .noFileOrDirectory .. => .notFound
  | .invalidArgument (some _) 36 _ => .nameTooLong
  | _ => .unsupported

/-- The files that options name. -/
def fileNames (options : Options) : List String :=
  match options.request with
  | .pending request => request.config.toList ++ request.input.toList
  | .jobs request => request.input.toList

/-- The bytes of a file. -/
def readFile (path : String) : IO (Except IoFault (List UInt8)) := do
  try
    return .ok (← IO.FS.readBinFile path).toList
  catch error =>
    return .error (fault error)

/-- The world, of which the files with given names are read. -/
def readWorld (names : List String) : IO World := do
  let files ← names.mapM fun name => return (name, ← readFile name)
  return {
    file := fun name => (files.lookup name).getD (.error .notFound)
    run := fun _ => .error .unsupported }

/-- The variables of the environment. -/
def readEnvironment : IO Options.Environment := do
  return {
    outputMode := ← IO.getEnv "SLURM_SIZER_OUTPUT_MODE"
    debug := ← IO.getEnv "SLURM_SIZER_DEBUG"
    squeue := ← IO.getEnv "SLURM_SIZER_SQUEUE"
    log := ← IO.getEnv "RUST_LOG" }

end NodeDemand.Main

open NodeDemand in
/-- Follows the command line. -/
def main (args : List String) : IO UInt32 := do
  let env ← Main.readEnvironment
  let ended ← match Options.read env args with
    | .error halt => pure (Program.halted halt)
    | .ok options => do
      let world ← Main.readWorld (Main.fileNames options)
      let onTerminal ← (← IO.getStdout).isTty
      pure (Program.ended world onTerminal env options)
  IO.print ended.printed.stdout
  IO.eprint ended.printed.stderr
  return UInt32.ofNat ended.code
