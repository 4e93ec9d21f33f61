import BsonTable.Options.Basic
import BsonTable.Toml.Document

/-! Options written as a TOML table. -/

namespace BsonTable.Options

/-- The text of a field, the default if it is absent, and nothing if it is no text. -/
def textField? (table : Toml.Table) (key default : String) : Option String :=
  match Fields.get? key table with
  -- A field that is absent is not wrong, unlike one of another type.
  | none => some default
  | some (.string text) => some text
  | some _ => none

/-- The truth value of a field, false if it is absent, and nothing if it is none. -/
def flagField? (table : Toml.Table) (key : String) : Option Bool :=
  match Fields.get? key table with
  | none => some false
  | some (.boolean flag) => some flag
  | some _ => none

/-- The options of a table; fields of other names do not matter. -/
def ofTable? (table : Toml.Table) : Option Options := do
  -- What a table leaves out is as in options that nobody set.
  let defaults : Options := {}
  let mode ← ConversionMode.ofName? (← textField? table "conversion_mode" defaults.mode.name)
  let strategy ←
    Strategy.ofName? (← textField? table "metadata_strategy" defaults.strategy.name)
  let sorted ← flagField? table "sort_fields_alphabetically"
  let database ← textField? table "database" defaults.database
  return { mode, strategy, sorted, database }

/-- The options of a text. -/
def ofToml (text : String) : Except Error Options :=
  -- A text that is no table and a table that makes no options fail alike.
  match (Toml.parse? text).bind ofTable? with
  | some options => .ok options
  | none => .error (.configuration "malformed options")

/-- The options in the contents of a file, or the reason why there are none. -/
def load (path : String) (contents : Option (List UInt8)) : Except String Options :=
  -- Contents that cannot be read, or are no text, fail before anything is parsed.
  let text := contents.bind fun bytes => String.fromUTF8? (ByteArray.mk bytes.toArray)
  match text with
  | none => .error s!"failed to read result set options from {path}"
  | some text =>
    match ofToml text with
    | .ok options => .ok options
    -- The cause stays behind, and the path tells a reader where to look.
    | .error _ => .error s!"invalid result set options in {path}"

end BsonTable.Options
