import BsonTable.Reading.Target
import BsonTable.ResultSet.Basic

/-! Reading columns of the current row. -/

namespace BsonTable.ResultSet

variable {σ : Type u} {π : Type v} {τ : Type w}

/-- The column a reference means and the value it has in the current row. -/
def locate (rs : ResultSet σ π τ) (ref : ColumnAddress) : Except Error (Column × Value) :=
  match rs.state, rs.current with
  | .closed, _ => .error .resultSetClosed
  | _, none => .error .noCurrentRow
  | _, some row => do
    let index ← rs.header.resolve ref
    let column ← rs.header.column index
    -- A row has a value for each column, so the default is never read.
    return (column, (row.get? index).getD .null)

/-- Read a column of the current row; only a success is remembered. -/
def read [Libraries] (rs : ResultSet σ π τ) (ref : ColumnAddress) (target : Target) :
    Except Error Reading × ResultSet σ π τ :=
  match rs.locate ref with
  | .error error => (.error error, rs)
  | .ok (column, value) =>
    match target.read rs.mode column.type value with
    -- Neither a failure to locate nor one to convert leaves a trace.
    | .error error => (.error error, rs)
    | .ok reading => (.ok reading, { rs with lastReadNull := value.isNullLike })

end BsonTable.ResultSet
