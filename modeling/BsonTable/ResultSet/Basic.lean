import BsonTable.ResultSet.Cursor
import BsonTable.ResultSet.Statement
import BsonTable.Table.Source

/-! Forward-only result sets: a cursor, a header and the row that is current. -/

namespace BsonTable

/-- The state of a result set. -/
inductive State where
  | beforeFirst
  | onRow
  | afterLast
  | closed
deriving Repr, DecidableEq

/-- The name of a state. -/
def State.name : State → String
  | beforeFirst => "BeforeFirst"
  | onRow => "OnRow"
  | afterLast => "AfterLast"
  | closed => "Closed"

/-- A state with the current row, which there is on a row and nowhere else. -/
structure RowState where
  state : State
  current : Option Row
  -- The two fields would be independent, but a row is current in one state only.
  aligned : current.isSome = (state == .onRow)

namespace RowState

-- Whoever sets one of the two fields sets the other one to match, so these are all there are.

/-- Before the first row. -/
def beforeFirst : RowState :=
  { state := .beforeFirst, current := none, aligned := rfl }

/-- On a row with these values. -/
def onRow (row : Row) : RowState :=
  { state := .onRow, current := some row, aligned := rfl }

/-- Behind the last row. -/
def afterLast : RowState :=
  { state := .afterLast, current := none, aligned := rfl }

/-- Closed, which gives the row up. -/
def closed : RowState :=
  { state := .closed, current := none, aligned := rfl }

end RowState

/-- A result set over a cursor, a source of columns and perhaps a statement. -/
structure ResultSet (σ : Type u) (π : Type v) (τ : Type w) where
  cursor : σ
  /-- Whether the cursor was closed; it is not used from then on. -/
  released : Bool := false
  /-- A document fetched ahead of the first row to know its columns. -/
  pending : Option Document := none
  provider : π
  header : Header
  /-- The state and the current row. -/
  rowState : RowState := .beforeFirst
  /-- The number of rows delivered so far. -/
  rowCount : Nat := 0
  /-- Whether the latest successful read found a null-like value. -/
  lastReadNull : Bool := false
  mode : ConversionMode
  statement : Option τ := none

namespace ResultSet

variable {σ : Type u} {π : Type v} {τ : Type w}

/-- The state. -/
abbrev state (rs : ResultSet σ π τ) : State :=
  rs.rowState.state

/-- The current row, if there is one. -/
abbrev current (rs : ResultSet σ π τ) : Option Row :=
  rs.rowState.current

/-- Whether the result set was closed. -/
def isClosed (rs : ResultSet σ π τ) : Bool :=
  -- The state decides, and not whether the cursor is gone, which it is at the end of the rows too.
  match rs.state with
  | .closed => true
  | _ => false

/-- An answer that only an open result set gives. -/
def whenOpen {α : Type x} (rs : ResultSet σ π τ) (answer : Except Error α) : Except Error α :=
  if rs.isClosed then .error .resultSetClosed else answer

/-- Attach the statement that produced the result. -/
def withStatement (rs : ResultSet σ π τ) (statement : τ) : ResultSet σ π τ :=
  { rs with statement := some statement }

end ResultSet

end BsonTable
