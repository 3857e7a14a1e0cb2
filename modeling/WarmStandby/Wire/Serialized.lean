import WarmStandby.Wire.Decode
import WarmStandby.Wire.Encode

/-!
# Layouts with a text per container

A diagnostics stream carries the containers of a layout one by one, each as its
own wire text under its id.
-/

set_option autoImplicit false

namespace WarmStandby

inductive SerializedFault where
  | undecodable (key : String) (fault : Wire.Fault)
  | model (fault : ModelFault)
deriving DecidableEq, Repr

/-- The message for a fault.  What the reader says of a text is its own affair
and is given by `shown`. -/
def SerializedFault.message (shown : Wire.Fault → String) :
    SerializedFault → String
  | undecodable key fault => "container " ++ key ++ ": " ++ shown fault
  | model fault => fault.message

namespace Layout

/-- The wire text of each container, by container id.  A container can always be
written, so no fault is ever reported. -/
def toSerialized (layout : Layout) :
    Except SerializedFault (Entries String) :=
  .ok (.ofList (layout.toList.map
    (fun container => (container.id, Wire.encodeContainer container))))

def decodeSerialized :
    List (String × String) → Except SerializedFault (List (String × Container))
  | [] => .ok []
  | (key, text) :: rest =>
      match Wire.decodeContainer text with
      | .error fault => .error (.undecodable key fault)
      | .ok container =>
          match decodeSerialized rest with
          | .error fault => .error fault
          | .ok containers => .ok ((key, container) :: containers)

def ofSerialized (texts : Entries String) : Except SerializedFault Layout :=
  match decodeSerialized texts.toList with
  | .error fault => .error fault
  | .ok containers => (Layout.ofEntries (.ofList containers)).mapError .model

end Layout

end WarmStandby
