import Lanewise.Toml.Lexeme

/-!
# Reading TOML documents

A document is read line by line: comments, headers, and keys with their values. The readers take
characters and give what they read and the rest; they fail on anything that the format does not allow.
-/

set_option autoImplicit false

namespace Lanewise.Toml

/-- A reader: what it reads and the characters that follow, or nothing if it fails. -/
abbrev Reader := StateT (List Char) Option

/-- The deepest nesting of values, and the greatest length of a key, that a document may have is one
less than this. -/
def nestingLimit : Nat := 80

namespace Reader

/-! ### Blanks, comments and line ends -/

/-- Whether a character is blank space within a line. -/
def isBlank (c : Char) : Bool :=
  c = ' ' || c = '\t'

/-- Whether a character may stand in a comment or a string. -/
def isPrintable (c : Char) : Bool :=
  c = '\t' || (32 ≤ c.toNat && c.toNat ≠ 127)

/-- The characters after a line end, if there is one. -/
def afterNewline? : List Char → Option (List Char)
  | '\n' :: rest => some rest
  | '\r' :: '\n' :: rest => some rest
  | _ => none

/-- Skips blank space. -/
def blanks : Reader Unit :=
  modify fun cs => cs.dropWhile isBlank

/-- Skips a comment, if there is one. -/
def comment : Reader Unit :=
  modify fun cs =>
    match cs with
    | '#' :: rest => rest.dropWhile isPrintable
    | _ => cs

/-- Reads an expected character. -/
def char (expected : Char) : Reader Unit := fun cs =>
  match cs with
  | c :: rest => if c = expected then some ((), rest) else none
  | [] => none

/-- Reads the end of a line, or of the document. -/
def lineEnd : Reader Unit := do
  blanks
  comment
  let cs ← get
  if cs.isEmpty then return
  match afterNewline? cs with
  | some rest => set rest
  | none => failure

/-- Skips blank space, comments and line ends. -/
def gaps : Nat → Reader Unit
  | 0 => pure ()
  | fuel + 1 => do
    blanks
    match ← get with
    | '#' :: _ => do
      comment
      match afterNewline? (← get) with
      | some rest => do
        set rest
        gaps fuel
      | none => failure
    | cs =>
      match afterNewline? cs with
      | some rest => do
        set rest
        gaps fuel
      | none => pure ()

/-- Skips blank space, comments and line ends, however many there are. -/
def gap : Reader Unit := do
  gaps ((← get).length + 1)

/-! ### Strings -/

/-- The character with a given code point, if there is one. -/
def scalar? (n : Nat) : Option Char :=
  if n.isValidChar then some (Char.ofNat n) else none

/-- Reads the code point of an escape with `count` hexadecimal digits. -/
def codePoint (count : Nat) : Reader Char := fun cs => do
  let head := cs.take count
  if head.length = count && head.all (isDigitOf 16) then
    let c ← scalar? (ofDigits 16 (head.map digitValue))
    return (c, cs.drop count)
  else none

/-- Reads what follows the backslash of an escape. -/
def escape : Reader Char := do
  match ← get with
  | c :: rest => do
    set rest
    match c with
    | 'b' => return '\x08'
    | 't' => return '\t'
    | 'n' => return '\n'
    | 'f' => return '\x0c'
    | 'r' => return '\r'
    | '"' => return '"'
    | '\\' => return '\\'
    | 'u' => codePoint 4
    | 'U' => codePoint 8
    | _ => failure
  | [] => failure

/-- Reads the rest of a string of one line with escapes. -/
def basicString : Nat → Reader (List Char)
  | 0 => failure
  | fuel + 1 => do
    match ← get with
    | '"' :: rest => do
      set rest
      return []
    | '\\' :: rest => do
      set rest
      let c ← escape
      return c :: (← basicString fuel)
    | c :: rest =>
      if isPrintable c then do
        set rest
        return c :: (← basicString fuel)
      else failure
    | [] => failure

/-- Reads the rest of a string of one line without escapes. -/
def literalString : Reader (List Char) := fun cs =>
  let body := cs.takeWhile fun c => c ≠ '\'' && isPrintable c
  match cs.drop body.length with
  | '\'' :: rest => some (body, rest)
  | _ => none

/-- The quotes that end a string of several lines. Up to two quotes before the last three belong to the
string. -/
def closingQuotes? (quote : Char) (cs : List Char) : Option (List Char × List Char) :=
  let run := ((cs.takeWhile fun c => c = quote).take 5).length
  if run < 3 then none else some (List.replicate (run - 3) quote, cs.drop run)

/-- Drops blank space and line ends. -/
def dropBlankLines : List Char → List Char
  | '\r' :: '\n' :: rest => dropBlankLines rest
  | c :: rest => if isBlank c || c = '\n' then dropBlankLines rest else c :: rest
  | [] => []

/-- The characters after a backslash at the end of a line: blank space and line ends are skipped. -/
def afterLineEscape? (cs : List Char) : Option (List Char) :=
  (afterNewline? (cs.dropWhile isBlank)).map dropBlankLines

/-- Reads the rest of a string of several lines with escapes. -/
def basicLines : Nat → Reader (List Char)
  | 0 => failure
  | fuel + 1 => do
    let cs ← get
    match closingQuotes? '"' cs with
    | some (quotes, rest) => do
      set rest
      return quotes
    | none =>
      match afterNewline? cs with
      | some rest => do
        set rest
        return '\n' :: (← basicLines fuel)
      | none =>
        match cs with
        | '\\' :: rest =>
          match afterLineEscape? rest with
          | some rest => do
            set rest
            basicLines fuel
          | none => do
            set rest
            let c ← escape
            return c :: (← basicLines fuel)
        | c :: rest =>
          if isPrintable c then do
            set rest
            return c :: (← basicLines fuel)
          else failure
        | [] => failure

/-- Reads the rest of a string of several lines without escapes. -/
def literalLines : Nat → Reader (List Char)
  | 0 => failure
  | fuel + 1 => do
    let cs ← get
    match closingQuotes? '\'' cs with
    | some (quotes, rest) => do
      set rest
      return quotes
    | none =>
      match afterNewline? cs with
      | some rest => do
        set rest
        return '\n' :: (← literalLines fuel)
      | none =>
        match cs with
        | c :: rest =>
          if isPrintable c then do
            set rest
            return c :: (← literalLines fuel)
          else failure
        | [] => failure

/-- Skips the line end right after the opening quotes of a string of several lines. -/
def firstNewline : Reader Unit :=
  modify fun cs => (afterNewline? cs).getD cs

/-- Reads a string of any of the four kinds. -/
def string : Reader String := do
  let cs ← get
  let fuel := cs.length + 1
  match cs with
  | '"' :: '"' :: '"' :: rest => do
    set rest
    firstNewline
    return String.ofList (← basicLines fuel)
  | '"' :: rest => do
    set rest
    return String.ofList (← basicString fuel)
  | '\'' :: '\'' :: '\'' :: rest => do
    set rest
    firstNewline
    return String.ofList (← literalLines fuel)
  | '\'' :: rest => do
    set rest
    return String.ofList (← literalString)
  | _ => failure

/-! ### Keys -/

/-- Whether a character may stand in a key without quotes. -/
def isBare (c : Char) : Bool :=
  c.isAlphanum || c = '_' || c = '-'

/-- Reads one part of a key. Strings of several lines are no keys. -/
def keyPart : Reader String := do
  let cs ← get
  match cs with
  | '"' :: rest => do
    set rest
    return String.ofList (← basicString (cs.length + 1))
  | '\'' :: rest => do
    set rest
    return String.ofList (← literalString)
  | _ => do
    let bare := cs.takeWhile isBare
    if bare.isEmpty then failure
    set (cs.drop bare.length)
    return String.ofList bare

/-- Reads the parts of a key, with points between them. -/
def keyParts : Nat → Reader (List String)
  | 0 => failure
  | fuel + 1 => do
    blanks
    let part ← keyPart
    blanks
    match ← get with
    | '.' :: rest => do
      set rest
      return part :: (← keyParts fuel)
    | _ => return [part]

/-- Reads a key: the path to a table, and the last part. -/
def key : Reader (List String × String) := do
  let parts ← keyParts nestingLimit
  if nestingLimit ≤ parts.length then failure
  match parts.getLast? with
  | some last => return (parts.dropLast, last)
  | none => failure

/-! ### Values -/

/-- Whether a character ends a run of characters. -/
def endsRun (c : Char) : Bool :=
  isBlank c || c = '\n' || c = '\r' || c = ',' || c = ']' || c = '\x7d' || c = '#'

/-- Reads a run of characters. A date may be followed by a space and a time. -/
def lexeme : Reader Value := do
  let cs ← get
  let head := cs.takeWhile fun c => !endsRun c
  let rest := cs.drop head.length
  let time := (rest.drop 1).takeWhile fun c => !endsRun c
  if isDate head && rest.head? = some ' ' && isTimeWithOffset time then
    set (rest.drop (time.length + 1))
    return .dateTime (String.ofList (head ++ ' ' :: time))
  else
    set rest
    match lexeme? head with
    | some v => return v
    | none => failure

mutual

/-- Reads a value that lies inside `depth` others. -/
def value (depth : Nat) : Nat → Reader Value
  | 0 => failure
  | fuel + 1 => do
    match ← get with
    | '"' :: _ => return .string (← string)
    | '\'' :: _ => return .string (← string)
    | '[' :: rest => do
      if nestingLimit ≤ depth + 1 then failure
      set rest
      return .array (← items (depth + 1) fuel)
    | '\x7b' :: rest => do
      if nestingLimit ≤ depth + 1 then failure
      set rest
      blanks
      match ← get with
      | '\x7d' :: rest => do
        set rest
        return .table .inline []
      | _ => return .table .inline (← fields (depth + 1) fuel [])
    | _ => lexeme

/-- Reads the rest of an array. A comma may follow the last item. -/
def items (depth : Nat) : Nat → Reader (List Value)
  | 0 => failure
  | fuel + 1 => do
    gap
    match ← get with
    | ']' :: rest => do
      set rest
      return []
    | _ => do
      let v ← value depth fuel
      gap
      match ← get with
      | ',' :: rest => do
        set rest
        return v :: (← items depth fuel)
      | ']' :: rest => do
        set rest
        return [v]
      | _ => failure

/-- Reads the rest of an inline table, which has at least one more entry. -/
def fields (depth : Nat) : Nat → Entries → Reader Entries
  | 0, _ => failure
  | fuel + 1, entries => do
    let (path, last) ← key
    char '='
    blanks
    let v ← value depth fuel
    blanks
    match Entries.insert path last v .inline entries with
    | none => failure
    | some (_, entries) =>
      match ← get with
      | ',' :: rest => do
        set rest
        fields depth fuel entries
      | '\x7d' :: rest => do
        set rest
        return entries
      | _ => failure

end

/-- Reads a key and its value. -/
def keyValue : Reader (List String × String × Value) := do
  let (path, last) ← key
  char '='
  blanks
  let cs ← get
  let v ← value 0 (3 * cs.length + 3)
  return (path, last, v)

end Reader

/-! ### Documents -/

/-- A document as far as it was read: its table, and the path of the section that keys belong to. -/
structure Document where
  entries : Entries
  header : List String

namespace Document

/-- Makes a change to the table of a document. -/
def change (d : Document) (f : Origin → Entries → Option (Origin × Entries)) : Reader Document :=
  match f .header d.entries with
  | some (_, entries) => return { d with entries }
  | none => failure

/-- Reads one line. -/
def line (d : Document) : Reader Document := do
  match ← get with
  | '#' :: _ => do
    Reader.lineEnd
    return d
  | '[' :: '[' :: rest => do
    set rest
    let (path, last) ← Reader.key
    Reader.char ']'
    Reader.char ']'
    Reader.lineEnd
    let d ← d.change (Entries.openArrayTable path last)
    return { d with header := path ++ [last] }
  | '[' :: rest => do
    set rest
    let (path, last) ← Reader.key
    Reader.char ']'
    Reader.lineEnd
    let d ← d.change (Entries.openTable path last)
    return { d with header := path ++ [last] }
  | cs =>
    match Reader.afterNewline? cs with
    | some rest => do
      set rest
      return d
    | none => do
      let (path, last, v) ← Reader.keyValue
      Reader.lineEnd
      d.change (Entries.insertUnder d.header path last v)

/-- Reads lines until the document ends. -/
def lines (d : Document) : Nat → Reader Document
  | 0 => failure
  | fuel + 1 => do
    Reader.blanks
    if (← get).isEmpty then return d
    let d ← d.line
    d.lines fuel

/-- The table of a document. A mark of the byte order at its start is skipped. -/
def ofText? (text : String) : Option Entries := do
  let cs :=
    match text.toList with
    | '\ufeff' :: rest => rest
    | cs => cs
  let (d, _) ← (lines { entries := [], header := [] } (cs.length + 1)).run cs
  return d.entries

end Document

end Lanewise.Toml
