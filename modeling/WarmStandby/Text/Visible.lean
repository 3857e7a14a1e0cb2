import WarmStandby.Text.Invisible

/-!
# Visible text

Log records show ids between quotes in a form in which every character can be
seen: invisible characters are written by their hexadecimal code point.
-/

set_option autoImplicit false

namespace WarmStandby.Text

def visible (character : Char) : List Char :=
  if character = '"' then ['\\', '"']
  else if character = '\\' then ['\\', '\\']
  else if character = '\t' then ['\\', 't']
  else if character = '\n' then ['\\', 'n']
  else if character = '\r' then ['\\', 'r']
  else if character.toNat = 0 then ['\\', '0']
  else if isInvisible character then
    ['\\', 'u', '\x7b'] ++ Nat.toDigits 16 character.toNat ++ ['\x7d']
  else [character]

def visibleQuote (text : String) : String :=
  String.ofList ('"' :: (text.toList.flatMap visible ++ ['"']))

def visibleList (shown : List String) : String :=
  "[" ++ ", ".intercalate shown ++ "]"

end WarmStandby.Text
