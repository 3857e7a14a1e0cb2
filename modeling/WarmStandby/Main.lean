import WarmStandby.Command.Answer

/-!
# The program

Reads the files that a command line names, runs the command, and writes its
output and its log.  The variable `RUST_LOG` sets the filter of the log.
-/

set_option autoImplicit false

namespace WarmStandby

def readText (path : String) : IO (Except FileFault String) := do
  try
    let bytes ← IO.FS.readBinFile path
    match String.fromUTF8? bytes with
    | some text => return .ok text
    | none => return .error .notText
  catch failure =>
    match failure with
    | .noFileOrDirectory .. => return .error .notFound
    | .inappropriateType .. => return .error .isDirectory
    | other => return .error (.unreadable (toString other))

def writeRecord (asJson : Bool) (record : Log.Record) : IO Unit :=
  IO.eprintln (if asJson then record.encode else record.line)

end WarmStandby

open WarmStandby

def main (arguments : List String) : IO UInt32 := do
  let command := Command.ofLine arguments
  let contents ← command.paths.mapM (fun path => do
    return (path, ← readText path))
  let files : Files := fun path =>
    (contents.lookup path).getD (.error .notFound)
  let answer := command.answer files (← IO.getEnv "RUST_LOG")
  answer.records.forM (writeRecord command.writesJson)
  IO.print answer.output
  IO.eprint answer.report
  return answer.exitCode
