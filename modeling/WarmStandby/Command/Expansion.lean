import WarmStandby.Command.Fault
import WarmStandby.Wire.Decode

/-!
# What the commands do

A command reads a layout, by the format that the name of its file tells, and
either expands it or checks that it is a purely active assignment.  The
replication factor of an expansion is given directly, or by a configuration
file, or is the default.
-/

set_option autoImplicit false

namespace WarmStandby

structure Expansion where
  layout : Layout
  events : List Event
  buddies : List (ContainerId × List ContainerId)
deriving DecidableEq

namespace Layout

def ofFile (path : String) (contents : Except FileFault String) :
    Except CommandFault Layout :=
  match contents with
  | .error fault => .error (.unreadableLayout path fault)
  | .ok text =>
      match FilePath.extension? path with
      | some "json" =>
          match Wire.decodeLayout text with
          | .error fault => .error (.invalidJson path fault)
          | .ok layout => .ok layout
      | some "yaml" => ofYamlFile path text
      | some "yml" => ofYamlFile path text
      | _ => .error (.unsupportedLayout path)
where
  ofYamlFile (path text : String) : Except CommandFault Layout :=
    match Yaml.decodeLayout? text with
    | none => .error (.invalidYaml path)
    | some layout => .ok layout

def expansion (layout : Layout) (factor : Int) :
    Except CommandFault Expansion :=
  match layout.generate factor with
  | .error fault => .error (.generation fault)
  | .ok outcome =>
      .ok
        { layout := outcome.layout
          events := outcome.events
          buddies := layout.ids.map (fun id =>
            (id, (outcome.buddiesOf id).map
              (fun (_, container) => container.id))) }

def checkAssignment (layout : Layout) : Except CommandFault Unit :=
  layout.validate.mapError .assignment

end Layout

/-- The replication factor to use.  One that is given directly wins, and the
configuration is not read then. -/
def chosenFactor (files : Files) (config : Option String)
    (given : Option Int) : Except CommandFault Int :=
  match given, config with
  | some factor, _ => .ok factor
  | none, some path =>
      match Config.ofFile path (files path) with
      | .error fault => .error (.config path fault)
      | .ok config => .ok config.replicationFactor
  | none, none => .ok Config.defaultFactor

end WarmStandby
