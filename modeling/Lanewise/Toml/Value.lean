/-!
# TOML values and tables

The values of a TOML document. A table remembers how it came to be, because that decides what may still
be added to it: the table of a header is complete once its section ends, a table that only lies on the
way to another may still get a header of its own, a table made by a dotted key may be extended by dotted
keys, and an inline table never changes.
-/

set_option autoImplicit false

namespace Lanewise.Toml

/-- How a table came to be. -/
inductive Origin where
  /-- It has a header of its own, or is the document itself. -/
  | header
  /-- It lies on the way to the table of a header. -/
  | implied
  /-- It lies on the way to the value of a dotted key. -/
  | dotted
  /-- It is written between braces. -/
  | inline
  deriving DecidableEq

/-- Whether a table was only mentioned on the way to something else. -/
def Origin.isImplicit : Origin → Bool
  | implied => true
  | dotted => true
  | header => false
  | inline => false

/-- A TOML value. Floating-point numbers and dates keep their text. -/
inductive Value where
  | string (value : String)
  | integer (value : Int)
  | float (text : String)
  | boolean (value : Bool)
  | dateTime (text : String)
  | array (items : List Value)
  | table (origin : Origin) (entries : List (String × Value))
  /-- The tables of repeated headers in double brackets. -/
  | tables (items : List (List (String × Value)))

/-- The entries of a table. -/
abbrev Entries := List (String × Value)

namespace Entries

/-- The entries with the value under a key replaced, or added if there is none. -/
def set (entries : Entries) (key : String) (value : Value) : Entries :=
  if entries.any fun e => e.1 == key then
    entries.map fun e => if e.1 == key then (key, value) else e
  else entries ++ [(key, value)]

/-- Changes the table at the end of a path, making the tables on the way that do not exist. Fails if
something on the way is not a table, or is a table that must not be entered in this way. -/
def update (isDotted : Bool) (change : Origin → Entries → Option (Origin × Entries)) :
    List String → Origin → Entries → Option (Origin × Entries)
  | [], origin, entries => change origin entries
  | key :: path, origin, entries => do
    let child ←
      match entries.lookup key with
      | none => do
        let (o, es) ← update isDotted change path (if isDotted then .dotted else .implied) []
        pure (Value.table o es)
      | some (.table o es) =>
        if o = .inline || (isDotted && !o.isImplicit) then none
        else do
          let (o', es') ← update isDotted change path o es
          pure (Value.table o' es')
      | some (.tables items) =>
        match items.getLast? with
        | none => none
        | some last => do
          let (_, es') ← update isDotted change path .header last
          pure (Value.tables (items.dropLast ++ [es']))
      | some _ => none
    return (origin, set entries key child)

/-- Adds the value of a key, which may be dotted. A dotted key adds only to a table that dotted keys
made, and no key is given twice. -/
def insert (path : List String) (key : String) (value : Value) :
    Origin → Entries → Option (Origin × Entries) :=
  update true
    (fun origin entries =>
      if decide (origin = .dotted) = path.isEmpty then none
      else if (entries.lookup key).isSome then none
      else some (origin, entries ++ [(key, value)]))
    path

/-- Opens the table of a header. -/
def openTable (path : List String) (key : String) : Origin → Entries → Option (Origin × Entries) :=
  update false
    (fun origin entries =>
      match entries.lookup key with
      | none => some (origin, set entries key (.table .header []))
      | some (.table .implied es) => some (origin, set entries key (.table .header es))
      | some _ => none)
    path

/-- Opens the next table of a header in double brackets. -/
def openArrayTable (path : List String) (key : String) :
    Origin → Entries → Option (Origin × Entries) :=
  update false
    (fun origin entries =>
      match entries.lookup key with
      | none => some (origin, set entries key (.tables [[]]))
      | some (.tables items) => some (origin, set entries key (.tables (items ++ [[]])))
      | some _ => none)
    path

/-- Adds the value of a key to the section of a header. -/
def insertUnder (header path : List String) (key : String) (value : Value) :
    Origin → Entries → Option (Origin × Entries) :=
  update false (insert path key value) header

end Entries

end Lanewise.Toml
