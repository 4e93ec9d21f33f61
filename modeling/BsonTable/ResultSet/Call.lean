import BsonTable.ResultSet.Asking
import BsonTable.ResultSet.Moving
import BsonTable.ResultSet.Reading

/-! Calls on a result set as data, so that whole runs can be described. -/

namespace BsonTable

/-- A call on a result set. -/
inductive Call where
  | next
  | close
  | isClosed
  | header
  | findColumn (label : String)
  | wasNull
  | rowNumber
  | isFirst
  | isLast
  | isBeforeFirst
  | isAfterLast
  | fetchDirection
  | mode
  | summary
  -- One call for every way to read, with the target as data.
  | read (column : ColumnAddress) (target : Target)

/-- What a call answers. -/
inductive Answer where
  | done
  | flag (value : Bool)
  | number (value : Nat)
  | header (header : Header)
  | text (text : String)
  | mode (mode : ConversionMode)
  | reading (reading : Reading)

namespace ResultSet

variable {σ : Type u} {π : Type v} {τ : Type w}

/-- Answer a call and go on with the result set it leaves. -/
def perform [Libraries] [DocumentCursor σ] [HeaderProvider π] [OwningStatement τ] (call : Call)
    (rs : ResultSet σ π τ) : Except Error Answer × ResultSet σ π τ :=
  -- Answers of all types are put into one, and failures are passed on.
  let answer {α : Type} (wrap : α → Answer) (step : Except Error α × ResultSet σ π τ) :
      Except Error Answer × ResultSet σ π τ := (step.1.map wrap, step.2)
  match call with
  | .next => answer .flag rs.next
  | .close => answer (fun _ => .done) rs.close
  | .isClosed => (.ok (.flag rs.isClosed), rs)
  | .header => answer .header (rs.currentHeader, rs)
  | .findColumn label => answer .number (rs.findColumn label, rs)
  | .wasNull => answer .flag (rs.wasNull, rs)
  | .rowNumber => answer .number (rs.rowNumber, rs)
  | .isFirst => answer .flag (rs.isFirst, rs)
  | .isLast => answer .flag rs.isLast
  | .isBeforeFirst => answer .flag rs.isBeforeFirst
  | .isAfterLast => answer .flag (rs.isAfterLast, rs)
  | .fetchDirection => answer .text (rs.fetchDirection, rs)
  | .mode => (.ok (.mode rs.mode), rs)
  | .summary => (.ok (.text rs.summary), rs)
  | .read column target => answer .reading (rs.read column target)

/-- The answers to calls in order, and the result set after the last of them. -/
def run [Libraries] [DocumentCursor σ] [HeaderProvider π] [OwningStatement τ] :
    List Call → ResultSet σ π τ → List (Except Error Answer) × ResultSet σ π τ
  | [], rs => ([], rs)
  -- A failure does not end a run, since a caller may go on after it.
  | call :: rest, rs =>
    let (answer, rs) := rs.perform call
    let (answers, rs) := run rest rs
    (answer :: answers, rs)

end ResultSet

end BsonTable
