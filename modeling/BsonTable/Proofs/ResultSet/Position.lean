import BsonTable.ResultSet.Asking
import BsonTable.ResultSet.Moving
import BsonTable.ResultSet.Reading

/-!
Where a result set stands, as one value.

A result set keeps its state and its current row in two fields. The two are aligned, so together
they are a position, and whatever looks at either of them is a function of the position.
-/

namespace BsonTable

/-- Where a result set stands. -/
inductive Position where
  | beforeFirst
  /-- On a row with these values. -/
  | onRow (row : Row)
  | afterLast
  | closed

namespace Position

/-- The current row, if there is one. -/
def row? : Position → Option Row
  -- Only one position has a row.
  | onRow row => some row
  | _ => none

/-- The state of a position, without its row. -/
def state : Position → State
  | beforeFirst => .beforeFirst
  | onRow _ => .onRow
  | afterLast => .afterLast
  | closed => .closed

/-- The two fields of a position. -/
def rowState : Position → RowState
  | beforeFirst => .beforeFirst
  | onRow row => .onRow row
  | afterLast => .afterLast
  | closed => .closed

end Position

/-- The position that two aligned fields make up. -/
def RowState.position (rowState : RowState) : Position :=
  match rowState.current, rowState.state with
  -- An aligned state has a row on a row only, so the row decides first.
  | some row, _ => .onRow row
  | none, .afterLast => .afterLast
  | none, .closed => .closed
  | none, _ => .beforeFirst

/-- The fields of a position make up that position. -/
@[simp]
theorem Position.position_rowState (position : Position) :
    position.rowState.position = position := by
  cases position <;> rfl

/-- Aligned fields are the fields of the position that they make up, so neither is lost in it. -/
theorem RowState.rowState_position (rowState : RowState) :
    rowState.position.rowState = rowState := by
  obtain ⟨state, current, aligned⟩ := rowState
  -- What alignment rules out is a row without its state, and the state without a row.
  cases state <;> cases current <;> first | rfl | cases aligned

namespace ResultSet

variable {σ : Type u} {π : Type v} {τ : Type w}

/-- Where a result set stands. -/
def position (rs : ResultSet σ π τ) : Position :=
  rs.rowState.position

section Fields

variable (rs : ResultSet σ π τ)

/-- The two fields are those of the position. -/
theorem rowState_eq : rs.rowState = rs.position.rowState :=
  rs.rowState.rowState_position.symm

/-- The state is that of the position. -/
theorem state_eq : rs.state = rs.position.state := by
  -- The state is a function of both fields, and these of the position.
  unfold state
  rw [rowState_eq]
  cases rs.position <;> rfl

/-- The current row is that of the position. -/
theorem current_eq : rs.current = rs.position.row? := by
  unfold current
  rw [rowState_eq]
  cases rs.position <;> rfl

/-- The state is that of a row when the position is. -/
theorem state_onRow_iff {rs : ResultSet σ π τ} :
    rs.state = .onRow ↔ ∃ row, rs.position = .onRow row := by
  -- The four positions are compared with the four states.
  rw [state_eq]
  cases rs.position <;> simp [Position.state]

/-- A row is current when the result set stands on it. -/
theorem current_eq_some_iff {rs : ResultSet σ π τ} {row : Row} :
    rs.current = some row ↔ rs.position = .onRow row := by
  rw [current_eq]
  cases rs.position <;> simp [Position.row?]

/-- Two result sets that stand at one position have the same state and current row. -/
theorem rowState_congr {σ' : Type u'} {π' : Type v'} {τ' : Type w'} {rs : ResultSet σ π τ}
    {other : ResultSet σ' π' τ'} (position : rs.position = other.position) :
    rs.rowState = other.rowState := by
  rw [rowState_eq, position, ← rowState_eq]

/-- A result set is closed when its position says so. -/
theorem isClosed_iff : rs.isClosed = true ↔ rs.position = .closed := by
  unfold isClosed
  rw [state_eq]
  cases rs.position <;> simp [Position.state]

/-- Until it is closed, a result set is open. -/
theorem isClosed_of_open {rs : ResultSet σ π τ} (opened : rs.position ≠ .closed) :
    rs.isClosed = false := by
  rw [← Bool.not_eq_true, isClosed_iff]
  exact opened

end Fields

section ByPosition

variable (rs : ResultSet σ π τ)

/-- A result set is closed at one position only. -/
theorem isClosed_eq :
    rs.isClosed = match rs.position with
      | .closed => true
      | _ => false := by
  -- From here on each definition is opened once, to be replaced by one on positions.
  unfold isClosed
  rw [state_eq]
  cases rs.position <;> rfl

/-- A row has its number when it is current. -/
theorem rowNumber_eq :
    rs.rowNumber = rs.whenOpen (.ok (if rs.position.row?.isSome then rs.rowCount else 0)) := by
  unfold rowNumber
  rw [state_eq]
  cases rs.position <;> rfl

/-- The first row is current when a row is, and only one was counted. -/
theorem isFirst_eq :
    rs.isFirst = rs.whenOpen (.ok (rs.position.row?.isSome && rs.rowCount == 1)) := by
  unfold isFirst
  rw [state_eq]
  cases rs.position <;> rfl

/-- Being behind the last row takes rows, and the position. -/
theorem isAfterLast_eq :
    rs.isAfterLast = rs.whenOpen (.ok (match rs.position with
      | .afterLast => 0 < rs.rowCount
      | _ => false)) := by
  unfold isAfterLast
  rw [state_eq]
  cases rs.position <;> rfl

/-- Only before the first row it is asked whether there is one. -/
theorem isBeforeFirst_eq [DocumentCursor σ] :
    rs.isBeforeFirst = match rs.position with
      | .closed => (.error .resultSetClosed, rs)
      | .beforeFirst => rs.hasMore
      | .onRow _ | .afterLast => (.ok false, rs) := by
  unfold isBeforeFirst
  rw [state_eq]
  cases rs.position <;> rfl

/-- The position decides whether a next row is looked for. -/
theorem next_eq [DocumentCursor σ] [HeaderProvider π] :
    rs.next = match rs.position with
      | .closed => (.error .resultSetClosed, rs)
      | .afterLast => (.ok false, rs)
      | .beforeFirst | .onRow _ => rs.advance := by
  unfold next
  rw [state_eq]
  cases rs.position <;> rfl

/-- A column is located in the row of the position. -/
theorem locate_eq (ref : ColumnAddress) :
    rs.locate ref = match rs.position with
      | .closed => .error .resultSetClosed
      | .beforeFirst | .afterLast => .error .noCurrentRow
      | .onRow row => do
        let index ← rs.header.resolve ref
        let column ← rs.header.column index
        return (column, (row.get? index).getD .null) := by
  -- The row is at hand in the position, so it need not be looked for in the other field.
  unfold locate
  rw [state_eq, current_eq]
  cases rs.position <;> rfl

end ByPosition

end ResultSet

end BsonTable
