/-!
# JSON values

The values of the JSON data format, their compact text, and the conventions by which records and
variants are written in it. A record is an object with a field for each component, or the list of its
components in order. A variant is its name, or an object whose only field has that name and holds what
the variant carries.
-/

set_option autoImplicit false

namespace Lanewise

/-- A JSON value. The fields of an object keep their order. -/
inductive Json where
  | null
  | bool (value : Bool)
  | int (value : Int)
  /-- A number that is not written as an integer. -/
  | real (text : String)
  | str (value : String)
  | arr (items : List Json)
  | obj (fields : List (String × Json))
  deriving Inhabited

namespace Json

/-- A hexadecimal digit. -/
def hexDigit (n : Nat) : Char :=
  if n < 10 then Char.ofNat (48 + n) else Char.ofNat (87 + n)

/-- A character as it stands inside a JSON string. Quotes, backslashes and control characters below
the space are escaped, by a short form where there is one; all else stands for itself. -/
def escapeChar (c : Char) : List Char :=
  match c with
  | '"' => ['\\', '"']
  | '\\' => ['\\', '\\']
  | '\n' => ['\\', 'n']
  | '\t' => ['\\', 't']
  | '\r' => ['\\', 'r']
  | '\x08' => ['\\', 'b']
  | '\x0c' => ['\\', 'f']
  | c =>
    if c.toNat < 32 then
      ['\\', 'u', '0', '0', hexDigit (c.toNat / 16), hexDigit (c.toNat % 16)]
    else [c]

/-- A string in quotes. -/
def quote (s : String) : String :=
  "\"" ++ String.ofList (s.toList.flatMap escapeChar) ++ "\""

mutual

/-- The text of a value, without any spaces. -/
def compact : Json → String
  | null => "null"
  | bool true => "true"
  | bool false => "false"
  | int n => toString n
  | real text => text
  | str s => quote s
  | arr items => "[" ++ ",".intercalate (compactItems items) ++ "]"
  | obj fields => "\x7b" ++ ",".intercalate (compactFields fields) ++ "\x7d"

/-- The texts of the items of a list. -/
def compactItems : List Json → List String
  | [] => []
  | v :: rest => compact v :: compactItems rest

/-- The texts of the fields of an object. -/
def compactFields : List (String × Json) → List String
  | [] => []
  | (key, v) :: rest => (quote key ++ ":" ++ compact v) :: compactFields rest

end

/-- The components of a record with the given fields. Other fields are passed over. -/
def record? (names : List String) : Json → Option (List Json)
  | obj fields => names.mapM fun name => fields.lookup name
  | arr items => if items.length = names.length then some items else none
  | _ => none

/-- The name of a variant, and what it carries if it is written as an object. -/
def variant? : Json → Option (String × Option Json)
  | str name => some (name, none)
  | obj [(name, payload)] => some (name, some payload)
  | _ => none

/-- The name of a variant that carries nothing. -/
def unitVariant? (v : Json) : Option String :=
  match v.variant? with
  | some (name, none) => some name
  | some (name, some null) => some name
  | _ => none

/-- A natural number below `bound`. -/
def natBelow? (bound : Nat) : Json → Option Nat
  | int n => if 0 ≤ n ∧ n.toNat < bound then some n.toNat else none
  | _ => none

/-- A string. -/
def str? : Json → Option String
  | str s => some s
  | _ => none

end Json

end Lanewise
