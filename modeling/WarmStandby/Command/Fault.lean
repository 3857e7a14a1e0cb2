import WarmStandby.Config
import WarmStandby.Generation
import WarmStandby.Wire.Fault

/-!
# Faults of commands

A command fails because its layout or its configuration cannot be had, or
because the layout is not fit for it.  The headline says what was being done,
and the causes below it say what went wrong.
-/

set_option autoImplicit false

namespace WarmStandby

inductive CommandFault where
  | unreadableLayout (path : String) (fault : FileFault)
  | invalidJson (path : String) (fault : Wire.Fault)
  | invalidYaml (path : String)
  | unsupportedLayout (path : String)
  | config (path : String) (fault : ConfigFault)
  | generation (fault : GenerationFault)
  | assignment (fault : GenerationFault)
deriving DecidableEq, Repr

namespace CommandFault

def headline : CommandFault → String
  | unreadableLayout path _ => "failed to read layout " ++ path
  | invalidJson path _ => "invalid JSON layout " ++ path
  | invalidYaml path => "invalid YAML layout " ++ path
  | unsupportedLayout path => "unsupported layout format: " ++ path
  | config path _ => "failed to load config " ++ path
  | generation _ => Generation.name ++ " generation failed"
  | assignment _ => "layout is not a valid active assignment"

def causes : CommandFault → List String
  | unreadableLayout _ fault => [fault.message]
  | invalidJson _ fault => [fault.message?.getD "malformed JSON"]
  | invalidYaml _ => ["malformed YAML, or a value of the wrong form"]
  | unsupportedLayout _ => []
  | config _ (.unreadable path fault) =>
      [ConfigFault.message (.unreadable path fault), fault.message]
  | config _ fault => [fault.message]
  | generation (.model fault) =>
      [GenerationFault.message (.model fault), fault.message]
  | generation fault => [fault.message]
  | assignment fault => [fault.message]

/-! ## Reports -/

def showCause (mark : String) (cause : String) : String :=
  let margin := String.ofList (List.replicate mark.length ' ')
  "\n" ++ mark ++ ("\n" ++ margin).intercalate (cause.splitOn "\n")

/-- The causes under their heading.  Several causes are numbered. -/
def showCauses : List String → String
  | [] => ""
  | [cause] => "\n\nCaused by:" ++ showCause "    " cause
  | several =>
      "\n\nCaused by:" ++ String.join (several.zipIdx.map
        (fun (cause, index) =>
          let number := Decimal.text index
          let blanks := List.replicate (5 - number.length) ' '
          showCause (String.ofList blanks ++ number ++ ": ") cause))

def report (fault : CommandFault) : String :=
  "Error: " ++ fault.headline ++ showCauses fault.causes ++ "\n"

end CommandFault

end WarmStandby
