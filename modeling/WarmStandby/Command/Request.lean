import WarmStandby.Command.Expansion
import WarmStandby.Log
import WarmStandby.Wire.Encode

/-!
# Requests

A request is what a command line asks for, once it has been understood.  What a
request answers depends on nothing but the files whose paths it names.
-/

set_option autoImplicit false

namespace WarmStandby

inductive Request where
  | expand (layout : String) (config : Option String) (factor : Option Int)
  | validate (layout : String)
deriving DecidableEq, Repr

structure Response where
  output : String
  records : List Log.Record
deriving DecidableEq, Repr

namespace Request

def paths : Request → List String
  | expand layout config _ => layout :: config.toList
  | validate layout => [layout]

def respondExpanded (expansion : Expansion) : Response :=
  { output := Wire.indentedText (Wire.writeLayout expansion.layout) ++ "\n"
    records := expansion.events.map Log.ofEvent
      ++ expansion.buddies.map (fun (active, ids) => Log.ofBuddies active ids) }

def respondValid (layout : Layout) : Response :=
  { output := "OK: " ++ Decimal.text layout.size ++ " containers, "
      ++ Decimal.text layout.taskCount ++ " tasks\n"
    records := [] }

/-- Fulfils a request.  The layout is read before the configuration. -/
def respond (files : Files) : Request → Except CommandFault Response
  | expand path config given => do
      let layout ← Layout.ofFile path (files path)
      let factor ← chosenFactor files config given
      let expansion ← layout.expansion factor
      return respondExpanded expansion
  | validate path => do
      let layout ← Layout.ofFile path (files path)
      layout.checkAssignment
      return respondValid layout

end Request

end WarmStandby
