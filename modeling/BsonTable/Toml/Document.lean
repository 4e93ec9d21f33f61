import BsonTable.Toml.Value

/-! TOML documents: key-value lines under table headers. -/

namespace BsonTable.Toml

/-- Change the table that a header path leads to, through the last table of repeated ones. -/
def changeAt? (change : Table → Option Table) : List String → Table → Option Table
  | [], fields => change fields
  | key :: path, fields =>
    match Fields.get? key fields with
    -- A header may name tables that have none yet, which are implied by it.
    | none => do
      let inner ← changeAt? change path []
      return Fields.insert key (table .implied inner) fields
    -- What was written in braces is complete and takes nothing more.
    | some (table .inline _) => none
    | some (table origin inner) => do
      return Fields.insert key (table origin (← changeAt? change path inner)) fields
    -- Of repeated tables, the last one is open.
    | some (tables elements) => do
      let inner ← changeAt? change path (← elements.getLast?)
      return Fields.insert key (tables (elements.dropLast ++ [inner])) fields
    | some _ => none

/-- Open a table by its header; a table that was only implied keeps its fields. -/
def openTable? (key : String) (fields : Table) : Option Table :=
  match Fields.get? key fields with
  | none => some (Fields.insert key (table .header []) fields)
  -- A table of a longer header may still get its own one, but no table gets two.
  | some (table .implied inner) => some (Fields.insert key (table .header inner) fields)
  | some _ => none

/-- Open one more table under a repeated header. -/
def openElement? (key : String) (fields : Table) : Option Table :=
  match Fields.get? key fields with
  | none => some (Fields.insert key (tables [[]]) fields)
  | some (tables elements) => some (Fields.insert key (tables (elements ++ [[]])) fields)
  | some _ => none

/-- A document in the making, and the path of the header that is in force. -/
structure Draft where
  fields : Table := []
  path : List String := []

/-- Put a header in force. -/
def Draft.enter? (draft : Draft) (open? : String → Table → Option Table) (path : List String) :
    Option Draft := do
  -- The last part of the path names what is opened, the others lead to it.
  let key ← path.getLast?
  return { fields := ← changeAt? (open? key) path.dropLast draft.fields, path }

/-- Add a value to the table of the header in force. -/
def Draft.add? (draft : Draft) (key : List String) (value : Toml) : Option Draft := do
  return { draft with fields := ← changeAt? (insertDotted? value key) draft.path draft.fields }

/-- Read a header with its two kinds of brackets. -/
def header? (draft : Draft) (cs : List Char) : Option (Draft × List Char) :=
  match cs with
  | '[' :: '[' :: rest => do
    let (path, rest) ← key? rest
    -- Both closing brackets are read, with nothing between them.
    let rest ← skipChar? ']' (← skipChar? ']' rest)
    return (← draft.enter? openElement? path, rest)
  | '[' :: rest => do
    let (path, rest) ← key? rest
    return (← draft.enter? openTable? path, ← skipChar? ']' rest)
  | _ => none

/-- Read a key with its value. -/
def keyValue? (draft : Draft) (cs : List Char) : Option (Draft × List Char) := do
  let (key, rest) ← key? cs
  let rest ← skipChar? '=' rest
  let (value, rest) ← readValue? (skipBlanks rest)
  return (← draft.add? key value, rest)

/-- Read lines to the end; every line takes at least one character. -/
def lines? : Nat → Draft → List Char → Option Draft
  | 0, _, _ => none
  -- The fuel counts lines, and a text has no more lines than characters and one.
  | fuel + 1, draft, cs =>
    match skipBlanks cs with
    | [] => some draft
    | c :: rest => do
      let (draft, rest) ←
        -- A comment, a line break or a header decide by their first character.
        if c = '#' ∨ c = '\n' ∨ c = '\r' then some (draft, c :: rest)
        else if c = '[' then header? draft (c :: rest)
        else keyValue? draft (c :: rest)
      lines? fuel draft (← skipLineEnd? rest)

/-- The top-level table of a text, which may start with a byte order mark. -/
def parse? (text : String) : Option Table :=
  let cs := match text.toList with
    | '\ufeff' :: rest => rest
    | cs => cs
  (lines? (cs.length + 1) {} cs).map Draft.fields

end BsonTable.Toml
