import BsonTable.Table.Column
import BsonTable.Text.Ascii

/-! The columns of a result, addressed by position or by label. -/

namespace BsonTable

/-- A way to address a column. -/
inductive ColumnAddress where
  /-- A position, counted from one. -/
  | index (position : Nat)
  | label (text : String)
deriving Repr, DecidableEq

/-- The text shown for a column reference. -/
def ColumnAddress.text : ColumnAddress → String
  | index position => s!"#{position}"
  | label text => text

/-- The columns of a result in order. -/
structure Header where
  columns : List Column := []
deriving Repr, DecidableEq

namespace Header

/-- The number of columns. -/
def count (header : Header) : Nat :=
  header.columns.length

/-- The column at a position, counted from one. -/
def column (header : Header) (index : Nat) : Except Error Column :=
  match index with
  -- Positions start at one, so zero is out of range like any position behind the last column.
  | 0 => .error (.columnIndexOutOfRange 0 header.count)
  | position + 1 =>
    match header.columns[position]? with
    | some column => .ok column
    | none => .error (.columnIndexOutOfRange index header.count)

/-- The first position of a column with a label; an exact match beats one up to case. -/
def find? (header : Header) (label : String) : Option Nat :=
  let exact := header.columns.findIdx? (·.label == label)
  -- The case of other letters than those of ASCII counts in either search.
  let folded := header.columns.findIdx? (Text.equalIgnoringAsciiCase ·.label label)
  (exact.or folded).map (· + 1)

/-- The position that a reference means. -/
def resolve (header : Header) (ref : ColumnAddress) : Except Error Nat :=
  match ref with
  -- A position is checked although it stands for itself.
  | .index index => (header.column index).map fun _ => index
  | .label label =>
    match header.find? label with
    | some index => .ok index
    | none => .error (.columnNotFound label)

/-- A position that a reference means is that of a column. -/
theorem column_of_resolve {header : Header} {ref : ColumnAddress} {index : Nat}
    (resolved : header.resolve ref = .ok index) : ∃ column, header.column index = .ok column := by
  cases ref with
  | index position =>
    have mapped : (header.column position).map (fun _ => position) = .ok index := resolved
    cases found : header.column position with
    | error failure =>
      rw [found] at mapped
      cases mapped
    | ok column =>
      rw [found] at mapped
      cases mapped
      exact ⟨column, found⟩
  | label label =>
    -- A label is found at the place of some column, counted from one.
    unfold resolve find? at resolved
    dsimp only at resolved
    split at resolved
    · rename_i found
      cases resolved
      obtain ⟨position, searched, rfl⟩ := Option.map_eq_some_iff.mp found
      have within : position < header.columns.length := by
        rcases Option.or_eq_some_iff.mp searched with exact | ⟨_, folded⟩
        · exact (List.findIdx?_eq_some_iff_getElem.mp exact).1
        · exact (List.findIdx?_eq_some_iff_getElem.mp folded).1
      refine ⟨header.columns[position], ?_⟩
      simp only [column, List.getElem?_eq_getElem within]
    · cases resolved

/-- An attribute of the column at a position. -/
def columnAttribute {α : Type} (header : Header) (read : Column → α) (index : Nat) :
    Except Error α :=
  (header.column index).map read

end Header

/-- The values of a document under the columns of a result. -/
structure Row where
  values : List Value

namespace Row

/-- The value of each column in a document. -/
def ofDocument (header : Header) (doc : Document) : Row :=
  -- Every column has a value, so rows are as long as headers.
  ⟨header.columns.map (·.extract doc)⟩

/-- The value at a position, counted from one. -/
def get? (row : Row) (index : Nat) : Option Value :=
  match index with
  | 0 => none
  | position + 1 => row.values[position]?

/-- The number of values. -/
def size (row : Row) : Nat :=
  row.values.length

/-- At the position of a column stands its own value. -/
theorem ofDocument_get? {header : Header} {index : Nat} {column : Column}
    (found : header.column index = .ok column) (doc : Document) :
    (ofDocument header doc).get? index = some (column.extract doc) := by
  unfold Header.column at found
  split at found
  · cases found
  · rename_i position
    -- Values and columns are counted alike.
    split at found
    · rename_i present
      cases found
      show (header.columns.map (·.extract doc))[position]? = _
      rw [List.getElem?_map, present]
      rfl
    · cases found

end Row

end BsonTable
