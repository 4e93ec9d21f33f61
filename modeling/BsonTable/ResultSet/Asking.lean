import BsonTable.ResultSet.Basic

/-! Questions about columns and position, which move nothing but what a cursor does to answer. -/

namespace BsonTable.ResultSet

variable {σ : Type u} {π : Type v} {τ : Type w}

/-- The columns of the current row, or of the result before the first row. -/
def currentHeader (rs : ResultSet σ π τ) : Except Error Header :=
  rs.whenOpen (.ok rs.header)

/-- The position of the column with a label. -/
def findColumn (rs : ResultSet σ π τ) (label : String) : Except Error Nat :=
  rs.whenOpen (rs.header.resolve (.label label))

/-- Whether the latest successful read found a null-like value. -/
def wasNull (rs : ResultSet σ π τ) : Except Error Bool :=
  rs.whenOpen (.ok rs.lastReadNull)

/-- The number of the current row, zero when there is none. -/
def rowNumber (rs : ResultSet σ π τ) : Except Error Nat :=
  rs.whenOpen <| .ok <| match rs.state with
    | .onRow => rs.rowCount
    | _ => 0

/-- Whether the first row is current. -/
def isFirst (rs : ResultSet σ π τ) : Except Error Bool :=
  rs.whenOpen <| .ok <| match rs.state with
    | .onRow => rs.rowCount == 1
    | _ => false

/-- Whether rows came and all of them are gone. -/
def isAfterLast (rs : ResultSet σ π τ) : Except Error Bool :=
  rs.whenOpen <| .ok <| match rs.state with
    | .afterLast => 0 < rs.rowCount
    | _ => false

/-- Whether another document waits, which only the cursor may know. -/
def hasMore [DocumentCursor σ] (rs : ResultSet σ π τ) : Except Error Bool × ResultSet σ π τ :=
  -- A document at hand answers without the cursor, and so does a cursor that is gone.
  if rs.pending.isSome then (.ok true, rs)
  else if rs.released then (.ok false, rs)
  else
    let (result, cursor) := DocumentCursor.hasNext rs.cursor
    (result, { rs with cursor })

/-- Whether no further row can be fetched. -/
def isLast [DocumentCursor σ] (rs : ResultSet σ π τ) : Except Error Bool × ResultSet σ π τ :=
  if rs.isClosed then (.error .resultSetClosed, rs)
  else
    let (result, rs) := rs.hasMore
    (result.map not, rs)

/-- Whether no row was fetched yet although there is one. -/
def isBeforeFirst [DocumentCursor σ] (rs : ResultSet σ π τ) :
    Except Error Bool × ResultSet σ π τ :=
  match rs.state with
  | .closed => (.error .resultSetClosed, rs)
  | .beforeFirst => rs.hasMore
  -- Once a row was entered, the cursor is not asked.
  | .onRow | .afterLast => (.ok false, rs)

/-- A result set moves forward only. -/
def fetchDirection (rs : ResultSet σ π τ) : Except Error String :=
  rs.whenOpen (.ok "forward")

/-- The text that describes a result set to a programmer. -/
def summary (rs : ResultSet σ π τ) : String :=
  let mode := if rs.mode.isStrict then "Strict" else "Relaxed"
  s!"ResultSet \x7b state: {rs.state.name}, row_num: {rs.rowCount}, " ++
    s!"columns: {rs.header.count}, mode: {mode}, .. \x7d"

end BsonTable.ResultSet
