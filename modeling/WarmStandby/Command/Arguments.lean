import WarmStandby.Command.Request

/-!
# Command lines

The first argument that is not an option names a command; `expand` and
`validate` are the commands that do something.  Their options come in any order
and each at most once:

* `--layout PATH` is the layout, and is required;
* `--config PATH` is the configuration of an expansion;
* `-r NUMBER` or `--replication-factor NUMBER` is the factor of an expansion;
* `--json-logs`, which may also stand before the command, asks for log records
  as wire texts.

A value stands behind its option, as the next argument or after an equals sign;
behind `-r` it may also follow directly.  Arguments are read from left to right,
and the first that asks for help or cannot be understood decides.
-/

set_option autoImplicit false

namespace WarmStandby

inductive Command where
  | help
  | version
  | misuse
  | run (request : Request) (jsonLogs : Bool)
deriving DecidableEq, Repr

inductive Subcommand where
  | expand
  | validate
deriving DecidableEq, Repr

inductive Setting where
  | layout
  | config
  | factor
deriving DecidableEq, Repr

structure Settings where
  layout : Option String
  config : Option String
  factor : Option Int
  jsonLogs : Bool
deriving DecidableEq, Repr

namespace Setting

def ofName? (subcommand : Subcommand) (name : String) : Option Setting :=
  match subcommand, name with
  | _, "layout" => some layout
  | .expand, "config" => some config
  | .expand, "replication-factor" => some factor
  | _, _ => none

/-- Whether an argument can be the value of the option before it.  One that
begins with a dash can only be a number. -/
def takes (setting : Setting) (argument : String) : Bool :=
  setting = factor || !argument.startsWith "-" || argument = "-"

end Setting

namespace Settings

def none : Settings := ⟨.none, .none, .none, false⟩

def set? (settings : Settings) (value : String) : Setting → Option Settings
  | .layout =>
      if settings.layout.isSome || value.isEmpty then .none
      else some { settings with layout := some value }
  | .config =>
      if settings.config.isSome || value.isEmpty then .none
      else some { settings with config := some value }
  | .factor =>
      if settings.factor.isSome then .none
      else
        (Decimal.int32? value.toList).map
          (fun factor => { settings with factor := some factor })

def request? (settings : Settings) : Subcommand → Option Request
  | .expand =>
      settings.layout.map (fun layout =>
        .expand layout settings.config settings.factor)
  | .validate => settings.layout.map .validate

end Settings

namespace Command

/-! ## Behind the name of a subcommand -/

/-- Where the reading of the options stands: what has been read, the option that
waits for its value, and whether the options have been declared complete. -/
structure Progress where
  settings : Settings
  waiting : Option Setting
  closed : Bool
deriving DecidableEq, Repr

namespace Progress

def start : Progress := ⟨.none, none, false⟩

def store (progress : Progress) (setting : Setting) (value : String) :
    Except Command Progress :=
  match progress.settings.set? value setting with
  | some settings => .ok { progress with settings, waiting := none }
  | none => .error .misuse

def readNamed (subcommand : Subcommand) (progress : Progress)
    (text : List Char) : Except Command Progress :=
  let name := String.ofList (text.takeWhile (· ≠ '='))
  let attached := text.dropWhile (· ≠ '=')
  match Setting.ofName? subcommand name, attached with
  | some setting, _ :: value => progress.store setting (String.ofList value)
  | some setting, [] => .ok { progress with waiting := some setting }
  | none, _ :: _ => .error .misuse
  | none, [] =>
      if name = "help" then .error .help
      else if name = "json-logs" && !progress.settings.jsonLogs then
        .ok { progress with
          settings := { progress.settings with jsonLogs := true } }
      else .error .misuse

def readFactor (progress : Progress) :
    List Char → Except Command Progress
  | [] => .ok { progress with waiting := some .factor }
  | '=' :: value => progress.store .factor (String.ofList value)
  | value => progress.store .factor (String.ofList value)

def read (subcommand : Subcommand) (progress : Progress) (argument : String) :
    Except Command Progress :=
  if progress.closed then .error .misuse
  else
    match progress.waiting with
    | some setting =>
        if setting.takes argument then progress.store setting argument
        else .error .misuse
    | none =>
        match argument.toList with
        | ['-', '-'] => .ok { progress with closed := true }
        | '-' :: '-' :: text => progress.readNamed subcommand text
        | '-' :: 'h' :: _ => .error .help
        | '-' :: 'r' :: text =>
            if subcommand = .expand then progress.readFactor text
            else .error .misuse
        | _ => .error .misuse

def finish (subcommand : Subcommand) (jsonLogs : Bool) (progress : Progress) :
    Command :=
  if progress.waiting.isSome then .misuse
  else
    match progress.settings.request? subcommand with
    | some request => .run request (jsonLogs || progress.settings.jsonLogs)
    | none => .misuse

end Progress

def ofOptions (subcommand : Subcommand) (jsonLogs : Bool)
    (arguments : List String) : Command :=
  match arguments.foldlM (Progress.read subcommand) .start with
  | .ok progress => progress.finish subcommand jsonLogs
  | .error command => command

/-! ## The whole line -/

def topics : List String := ["expand", "validate", "help"]

def ofTopics : List String → Command
  | [] => .help
  | [topic] => if topics.contains topic then .help else .misuse
  | _ => .misuse

def ofArguments (jsonLogs : Bool) : List String → Command
  | [] => .misuse
  | argument :: rest =>
      match argument with
      | "expand" => ofOptions .expand jsonLogs rest
      | "validate" => ofOptions .validate jsonLogs rest
      | "help" => ofTopics rest
      | "--help" => .help
      | "--version" => .version
      | "--json-logs" => if jsonLogs then .misuse else ofArguments true rest
      | _ =>
          match argument.toList with
          | '-' :: 'h' :: _ => .help
          | '-' :: 'V' :: _ => .version
          | _ => .misuse

def ofLine (arguments : List String) : Command := ofArguments false arguments

end Command

end WarmStandby
