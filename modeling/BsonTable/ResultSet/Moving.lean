import BsonTable.ResultSet.Basic

/-! Moving from row to row, and letting go of the cursor at the end, on closing or on dropping. -/

namespace BsonTable.ResultSet

variable {σ : Type u} {π : Type v} {τ : Type w}

/-- Close the cursor unless that was done before. -/
def release [DocumentCursor σ] (rs : ResultSet σ π τ) :
    Except Error Unit × ResultSet σ π τ :=
  if rs.released then (.ok (), { rs with pending := none })
  else
    -- The cursor counts as let go of even when closing it fails.
    let (result, cursor) := DocumentCursor.close rs.cursor
    (result, { rs with pending := none, cursor, released := true })

/-- Take the next document, the one fetched ahead first. -/
def takeDocument [DocumentCursor σ] (rs : ResultSet σ π τ) :
    Except Error (Option Document) × ResultSet σ π τ :=
  match rs.pending with
  | some doc => (.ok (some doc), { rs with pending := none })
  | none =>
    -- A cursor that was closed is never asked again.
    if rs.released then (.ok none, rs)
    else
      let (result, cursor) := DocumentCursor.next rs.cursor
      (result, { rs with cursor })

/-- Stand on the row of a document under given columns. -/
def standOn (rs : ResultSet σ π τ) (header : Header) (doc : Document) : ResultSet σ π τ :=
  { rs with
    header
    rowState := .onRow (.ofDocument header doc)
    rowCount := rs.rowCount + 1 }

/-- Stand on the row of a document, whose columns are found first if rows show their own. -/
def enterRow [HeaderProvider π] (rs : ResultSet σ π τ) (doc : Document) :
    Except Error Bool × ResultSet σ π τ :=
  match HeaderProvider.strategy rs.provider with
  | .schemaKnown => (.ok true, rs.standOn rs.header doc)
  | .rowDerived =>
    match HeaderProvider.describe (some doc) rs.provider with
    | (.error error, provider) => (.error error, { rs with provider })
    | (.ok header, provider) => (.ok true, { rs with provider }.standOn header doc)

/-- Stand behind the last row and let the cursor go. -/
def finish [DocumentCursor σ] (rs : ResultSet σ π τ) : Except Error Bool × ResultSet σ π τ :=
  -- The state is behind the last row whether or not closing succeeds.
  let (result, rs) := { rs with rowState := .afterLast }.release
  (result.map fun _ => false, rs)

/-- Go to the row of the next document, or behind the last row when there is none. -/
def advance [DocumentCursor σ] [HeaderProvider π] (rs : ResultSet σ π τ) :
    Except Error Bool × ResultSet σ π τ :=
  match rs.takeDocument with
  | (.error error, rs) => (.error error, rs)
  | (.ok none, rs) => rs.finish
  | (.ok (some doc), rs) => rs.enterRow doc

/-- Go to the next row, answering whether there is one. -/
def next [DocumentCursor σ] [HeaderProvider π] (rs : ResultSet σ π τ) :
    Except Error Bool × ResultSet σ π τ :=
  match rs.state with
  | .closed => (.error .resultSetClosed, rs)
  | .afterLast => (.ok false, rs)
  | .beforeFirst | .onRow => rs.advance

/-- Close the statement if it asks for that and is still open. -/
def completeStatement [OwningStatement τ] (rs : ResultSet σ π τ) :
    Except Error Unit × ResultSet σ π τ :=
  match rs.statement with
  | none => (.ok (), rs)
  | some statement =>
    if OwningStatement.closesOnCompletion statement && !OwningStatement.isClosed statement then
      let (result, statement) := OwningStatement.close statement
      (result, { rs with statement := some statement })
    else (.ok (), rs)

/-- Close the result set, its cursor and, on request, its statement; the first failure is told. -/
def close [DocumentCursor σ] [OwningStatement τ] (rs : ResultSet σ π τ) :
    Except Error Unit × ResultSet σ π τ :=
  if rs.isClosed then (.ok (), rs)
  else
    let (released, rs) := { rs with rowState := .closed }.release
    -- The statement is closed even when the cursor could not be.
    let (completed, rs) := rs.completeStatement
    (released.bind fun _ => completed, rs)

/-- Give the result set up, which closes the cursor unless that was done before. -/
def drop [DocumentCursor σ] (rs : ResultSet σ π τ) : ResultSet σ π τ :=
  rs.release.2

end BsonTable.ResultSet
