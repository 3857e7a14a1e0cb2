import WarmStandby.ModelFault

/-!
# Faults of wire texts

A wire text is refused either because it is not JSON, or because a value in it
is not of the form that its place asks for.  Reading stops at the first fault in
text order.
-/

set_option autoImplicit false

namespace WarmStandby.Wire

inductive Fault where
  | malformed
  | invalidType
  | invalidValue
  | invalidLength (items : Nat)
  | missingField (field : String)
  | duplicateField (field : String)
  | unknownVariant (variant : String) (expected : List String)
  | inconsistent (fault : ModelFault)
deriving DecidableEq, Repr

namespace Fault

/-- What is said of a value of the wrong form; a text that is not JSON has no
such message. -/
def message? : Fault → Option String
  | malformed => none
  | invalidType => some "invalid type"
  | invalidValue => some "invalid value"
  | invalidLength items => some ("invalid length " ++ Decimal.text items)
  | missingField field => some ("missing field `" ++ field ++ "`")
  | duplicateField field => some ("duplicate field `" ++ field ++ "`")
  | unknownVariant variant expected =>
      some ("unknown variant `" ++ variant ++ "`, expected one of "
        ++ ", ".intercalate
          (expected.map (fun known => "`" ++ known ++ "`")))
  | inconsistent fault => some fault.message

end Fault

end WarmStandby.Wire
