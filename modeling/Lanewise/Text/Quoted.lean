import Lanewise.Text.Unseen

/-!
# Quoted text in messages

How a message shows a name between quotes: characters that cannot be seen on a page are replaced by
escapes.
-/

set_option autoImplicit false

namespace Lanewise.Text

/-- The code point of a character, in hexadecimal. -/
def codePoint (c : Char) : List Char :=
  Nat.toDigits 16 c.toNat

/-- A character as it stands between quotes. -/
def quotedChar (c : Char) : List Char :=
  match c with
  | '\x00' => ['\\', '0']
  | '\t' => ['\\', 't']
  | '\r' => ['\\', 'r']
  | '\n' => ['\\', 'n']
  | '"' => ['\\', '"']
  | '\\' => ['\\', '\\']
  | c => if isUnseen c then ['\\', 'u', '\x7b'] ++ codePoint c ++ ['\x7d'] else [c]

/-- A text between quotes. -/
def quoted (s : String) : String :=
  "\"" ++ String.ofList (s.toList.flatMap quotedChar) ++ "\""

end Lanewise.Text
