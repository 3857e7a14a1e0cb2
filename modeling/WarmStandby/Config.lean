import WarmStandby.Files
import WarmStandby.GenerationFault
import WarmStandby.Replication
import WarmStandby.Text.Blank
import WarmStandby.Toml.Document
import WarmStandby.Yaml.Decode

/-!
# Configuration

The only setting is the replication factor.  It is read from a TOML or YAML file
or from the flat configuration of a job, and is one if it is not set.
-/

set_option autoImplicit false

namespace WarmStandby

inductive ConfigFault where
  | unreadable (path : String) (fault : FileFault)
  | unsupportedFormat (path : String)
  | invalidToml
  | invalidYaml
  | invalidValue (key value : String)
  | invalidFactor (factor : Int)
deriving DecidableEq, Repr

namespace ConfigFault

def message : ConfigFault → String
  | unreadable path fault =>
      "failed to read " ++ path ++ ": " ++ fault.message
  | unsupportedFormat path => "unsupported config format: " ++ path
  | invalidToml => "invalid TOML"
  | invalidYaml => "invalid YAML"
  | invalidValue key value => "invalid value for " ++ key ++ ": " ++ value
  | invalidFactor factor => GenerationFault.factorMessage factor

end ConfigFault

/-- A configured replication factor, which need not be a valid one. -/
structure Config where
  replicationFactor : Int
deriving DecidableEq, Repr

namespace Config

def defaultFactor : Int := 1

def default : Config := ⟨defaultFactor⟩

instance : Inhabited Config := ⟨default⟩

def jobKey : String := "job.standbytasks.replication.factor"

def fileKey : String := "replication-factor"

def standbysEnabled (config : Config) : Bool := 1 < config.replicationFactor

def encode (config : Config) : String :=
  "\x7b\"" ++ fileKey ++ "\":" ++ Decimal.signedText config.replicationFactor
    ++ "\x7d"

def validate (config : Config) : Except ConfigFault ReplicationFactor :=
  match ReplicationFactor.ofInt? config.replicationFactor with
  | some factor => .ok factor
  | none => .error (.invalidFactor config.replicationFactor)

def ofFactor (factor : Int) : Except ConfigFault Config :=
  let config : Config := ⟨factor⟩
  match config.validate with
  | .ok _ => .ok config
  | .error fault => .error fault

/-! ## Files -/

def factorOfToml? (text : String) : Option Int :=
  match Toml.readDocument? text.toList with
  | none => none
  | some members =>
      match members.lookup fileKey with
      | none => some defaultFactor
      | some (.value (some number)) =>
          if Decimal.IsInt32 number then some number else none
      | some _ => none

def factorOfYaml? (text : String) : Option Int :=
  match Yaml.readDocument? text.toList with
  | none => none
  | some none => some defaultFactor
  | some (some node) =>
      match Yaml.fields? [fileKey] node with
      | none => none
      | some fields =>
          Yaml.optional? fields fileKey Yaml.Node.int32? defaultFactor

def ofToml (text : String) : Except ConfigFault Config :=
  match factorOfToml? text with
  | none => .error .invalidToml
  | some factor => ofFactor factor

def ofYaml (text : String) : Except ConfigFault Config :=
  match factorOfYaml? text with
  | none => .error .invalidYaml
  | some factor => ofFactor factor

/-- Reads the file at a path.  The file has to be readable even if its format is
not known. -/
def ofFile (path : String) (contents : Except FileFault String) :
    Except ConfigFault Config :=
  match contents with
  | .error fault => .error (.unreadable path fault)
  | .ok text =>
      match FilePath.extension? path with
      | some "toml" => ofToml text
      | some "yaml" => ofYaml text
      | some "yml" => ofYaml text
      | _ => .error (.unsupportedFormat path)

/-! ## Jobs -/

/-- Reads the configuration of a job: the value under one key, trimmed of the
blanks at both ends. -/
def ofJob (settings : Entries String) : Except ConfigFault Config :=
  match settings.get? jobKey with
  | none => ofFactor defaultFactor
  | some (_, value) =>
      match Decimal.int32? (Text.trim value.toList) with
      | none => .error (.invalidValue jobKey value)
      | some factor => ofFactor factor

end Config

end WarmStandby
