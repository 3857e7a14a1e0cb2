import WarmStandby.Command.Arguments

/-!
# Answers of the program

What the program leaves behind when it has run: its exit code, its output and
what it reports beside the output.
-/

set_option autoImplicit false

namespace WarmStandby

def version : String := "0.1.0"

def programName : String := "standby"

/-- How the program ends.  The log is kept apart from the report of a fault. -/
structure Answer where
  exitCode : UInt32
  output : String
  report : String
  records : List Log.Record
deriving DecidableEq, Repr

namespace Answer

def usage : String :=
  "Expand container layouts with warm-standby buddy containers\n\n"
    ++ "Usage: standby [--json-logs] expand --layout PATH [--config PATH] "
    ++ "[-r NUMBER]\n"
    ++ "       standby [--json-logs] validate --layout PATH\n"
    ++ "       standby help [COMMAND]\n"
    ++ "       standby --version\n\n"
    ++ "Options:\n"
    ++ "  --layout PATH  layout of active containers (.json, .yaml or .yml)\n"
    ++ "  --config PATH  replication settings (.toml, .yaml or .yml)\n"
    ++ "  -r, --replication-factor NUMBER\n"
    ++ "                 total copies of each task; wins over the settings\n"
    ++ "  --json-logs    log records as JSON on the error output\n"

def silent (output : String) : Answer := ⟨0, output, "", []⟩

end Answer

namespace Command

def paths : Command → List String
  | run request _ => request.paths
  | _ => []

def writesJson : Command → Bool
  | run _ jsonLogs => jsonLogs
  | _ => false

/-- Runs a command.  Only the records that pass the filter are logged. -/
def answer (files : Files) (filter : Option String) : Command → Answer
  | help => .silent Answer.usage
  | version => .silent (programName ++ " " ++ WarmStandby.version ++ "\n")
  | misuse => ⟨2, "", Answer.usage, []⟩
  | run request _ =>
      match request.respond files with
      | .error fault => ⟨1, "", fault.report, []⟩
      | .ok response =>
          ⟨0, response.output, "",
            response.records.filter (Log.passes (Log.filterOf filter))⟩

end Command

end WarmStandby
