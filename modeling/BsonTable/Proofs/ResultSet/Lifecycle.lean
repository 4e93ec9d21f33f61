import BsonTable.Proofs.ResultSet.Memory
import BsonTable.Proofs.ResultSet.Release
import BsonTable.Proofs.Table.Addressing

/-! Where a result set can go from where it stands, and what it refuses to do there. -/

namespace BsonTable

/-- Reading a value that is there fails as a mismatch or not at all. -/
theorem Target.read_cases [Libraries] (target : Target) (mode : ConversionMode)
    (declared : ColumnType) (value : Value) :
    (∃ reading, target.read mode declared value = .ok reading) ∨
      ∃ named, target.read mode declared value =
        .error (.typeMismatch value.typeName.text named) := by
  have lenient := target.read_lenient declared value
  -- Only the strict reading can fail, and then it names the type of the value.
  generalize strictly : target.read .strict declared value = strict at lenient
  generalize relaxedly : target.read .relaxed declared value = relaxed at lenient
  cases mode with
  | strict =>
    cases lenient with
    | fits reading => exact .inl ⟨reading, strictly⟩
    | misfits _ named => exact .inr ⟨named, strictly⟩
  | relaxed => cases lenient <;> exact .inl ⟨_, relaxedly⟩

namespace ResultSet

variable {σ : Type u} {π : Type v} {τ : Type w}

section Refusing

/-- What reading a column comes to, by the first thing that stands against it. -/
inductive Outcome (rs : ResultSet σ π τ) (ref : ColumnAddress) : Except Error Reading → Prop
  | closed (closed : rs.position = .closed) : Outcome rs ref (.error .resultSetClosed)
  | rowless (opened : rs.position ≠ .closed) (rowless : rs.position.row? = none) :
      Outcome rs ref (.error .noCurrentRow)
  | unnamed {row : Row} (position : rs.position = .onRow row) (unnamed : ¬ rs.header.Names ref) :
      Outcome rs ref (.error (rs.header.unknown ref))
  /-- On a row, and with a column that is there, only the stored value can be unfit. -/
  | misfit {row : Row} {value : Value} (position : rs.position = .onRow row)
      (named : rs.header.Names ref) (stored : rs.storedValue? ref = some value)
      (target : String) : Outcome rs ref (.error (.typeMismatch value.typeName.text target))
  | reads {row : Row} {value : Value} (position : rs.position = .onRow row)
      (named : rs.header.Names ref) (stored : rs.storedValue? ref = some value)
      (reading : Reading) : Outcome rs ref (.ok reading)

variable {rs : ResultSet σ π τ}

/-- Where the row fits its columns, reading comes to one of these. -/
theorem Fitting.outcome [Libraries] (fitting : rs.Fitting) (ref : ColumnAddress) (target : Target) :
    Outcome rs ref (rs.read ref target).1 := by
  -- The cases follow the order in which a read looks for what stands against it.
  rw [read_answer]
  cases position : rs.position with
  | closed =>
    have located : rs.locate ref = .error .resultSetClosed := by rw [locate_eq, position]
    rw [located]
    exact .closed position
  | onRow row =>
    obtain ⟨doc, rfl⟩ := fitting row position
    obtain ⟨named, index, resolved⟩ | ⟨unnamed, failed⟩ := rs.header.resolve_cases ref
    · -- The column is there, so it is up to its value.
      obtain ⟨column, found⟩ := Header.column_of_resolve resolved
      have located := locate_of_onRow position resolved found
      have stored := fitting.storedValue located
      rw [located]
      show Outcome rs ref (target.read rs.mode column.type (column.extract doc))
      obtain ⟨reading, reads⟩ | ⟨name, misfit⟩ :=
        target.read_cases rs.mode column.type (column.extract doc)
      · rw [reads]
        exact .reads position named stored reading
      · rw [misfit]
        exact .misfit position named stored name
    · have located : rs.locate ref = .error (rs.header.unknown ref) := by
        simp only [locate_eq, position, failed, bind, Except.bind]
      rw [located]
      exact .unnamed position unnamed
  | _ =>
    -- Before the first row and behind the last one, no row is current.
    have located : rs.locate ref = .error .noCurrentRow := by rw [locate_eq, position]
    have opened : rs.position ≠ .closed := fun closed => by cases position.symm.trans closed
    rw [located]
    exact .rowless opened (by rw [position]; rfl)

/-- What a closed result set answers: no more than that it is closed, its mode and its text. -/
def closedAnswer (rs : ResultSet σ π τ) : Call → Except Error Answer
  | .isClosed => .ok (.flag true)
  -- Closing once more is no failure.
  | .close => .ok .done
  | .mode => .ok (.mode rs.mode)
  | .summary => .ok (.text rs.summary)
  | _ => .error .resultSetClosed

/-- Once closed, a result set answers no more than that, and nothing changes it. -/
theorem perform_closed [Libraries] [DocumentCursor σ] [HeaderProvider π] [OwningStatement τ]
    (position : rs.position = .closed) (call : Call) :
    rs.perform call = (rs.closedAnswer call, rs) := by
  have closed : rs.isClosed = true := rs.isClosed_iff.mpr position
  -- What is asked of an open result set alone is refused.
  have refused : ∀ {α : Type} (answer : Except Error α),
      rs.whenOpen answer = .error .resultSetClosed := fun _ => by rw [whenOpen, if_pos closed]
  cases call with
  | next => simp only [perform, next_eq, position, closedAnswer, Except.map]
  | close => simp only [perform, close, closed, if_true, closedAnswer, Except.map]
  | isClosed => simp only [perform, closed, closedAnswer]
  | header => simp only [perform, currentHeader, refused, closedAnswer, Except.map]
  | findColumn label => simp only [perform, findColumn, refused, closedAnswer, Except.map]
  | wasNull => simp only [perform, wasNull, refused, closedAnswer, Except.map]
  | rowNumber => simp only [perform, rowNumber, refused, closedAnswer, Except.map]
  | isFirst => simp only [perform, isFirst, refused, closedAnswer, Except.map]
  | isLast => simp only [perform, isLast, closed, if_true, closedAnswer, Except.map]
  | isBeforeFirst => simp only [perform, isBeforeFirst_eq, position, closedAnswer, Except.map]
  | isAfterLast => simp only [perform, isAfterLast, refused, closedAnswer, Except.map]
  | fetchDirection => simp only [perform, fetchDirection, refused, closedAnswer, Except.map]
  | mode => rfl
  | summary => rfl
  | read ref target => simp only [perform, read, locate_eq, position, closedAnswer, Except.map]

end Refusing

section Settling

/-- What holds of a result set at any time, over any cursor and any provider of columns. -/
structure Settled (rs : ResultSet σ π τ) : Prop where
  /-- The current row is that of a document, under the columns that are shown. -/
  fitting : rs.Fitting
  /-- The current row was counted. -/
  numbered : ∀ row, rs.position = .onRow row → 0 < rs.rowCount
  /-- The cursor is held as long as a next row is looked for. -/
  held : rs.released = false ↔ rs.IsReady
  /-- With the cursor goes what was fetched ahead. -/
  spent : rs.released = true → rs.pending = none

variable {rs after : ResultSet σ π τ}

/-- Where no next row is looked for, the cursor was let go of. -/
theorem Settled.gone (settled : rs.Settled) (ended : ¬ rs.IsReady) : rs.released = true := by
  rw [← settled.held, Bool.not_eq_false] at ended
  exact ended

/-- What neither moves nor lets go of the cursor keeps what holds. -/
theorem Settled.kept (settled : rs.Settled) (position : after.position = rs.position)
    (header : after.header = rs.header) (rowCount : after.rowCount = rs.rowCount)
    (released : after.released = rs.released)
    (spent : rs.pending = none → after.pending = none) : after.Settled where
  -- Each part looks at fields that are the same before and after.
  fitting := settled.fitting.kept position header
  numbered := by
    rw [position, rowCount]
    exact settled.numbered
  held := by
    unfold IsReady
    rw [released, position]
    exact settled.held
  spent := by
    rw [released]
    exact fun gone => spent (settled.spent gone)

/-- Where no next row is looked for, and the cursor was let go of, all of it holds. -/
theorem settled_of_ended (ended : after.position = .afterLast ∨ after.position = .closed)
    (released : after.released = true) (spent : after.pending = none) : after.Settled where
  -- There is no row in such a place, so what is said of rows is void.
  fitting := by
    rcases ended with position | position <;>
      exact fitting_of_rowless (by rw [position]; rfl)
  numbered := by
    intro row onRow
    rcases ended with position | position <;> rw [position] at onRow <;> cases onRow
  held := by
    rw [released]
    exact iff_of_false nofun (not_ready ended)
  spent := fun _ => spent

/-- Entering a row keeps what holds. -/
theorem Settled.entered [HeaderProvider π] (settled : rs.Settled) (ready : rs.IsReady)
    (doc : Document) : (rs.enterRow doc).2.Settled := by
  -- Where columns are known or described, the result set stands on the new row.
  have fitting := settled.fitting.entered doc
  have held := settled.held.mpr ready
  have entering := enterRow_entering rs doc
  generalize rs.enterRow doc = outcome at entering fitting
  -- A row that is entered is counted, and it is one from which the next is looked for.
  have standing : ∀ (before : ResultSet σ π τ) (header : Header), before.released = false →
      (before.standOn header doc).Fitting → (before.standOn header doc).Settled := by
    intro before header held fitting
    refine ⟨fitting, fun _ _ => Nat.succ_pos _, iff_of_true held (.inr ⟨_, rfl⟩), ?_⟩
    intro gone
    rw [show before.released = true from gone] at held
    cases held
  cases entering with
  | known _ => exact standing _ _ held fitting
  | described _ _ => exact standing _ _ held fitting
  | undescribed _ _ => exact settled.kept rfl rfl rfl rfl id

variable [DocumentCursor σ]

/-- Taking a document keeps what holds. -/
theorem Settled.taken (settled : rs.Settled) {result : Except Error (Option Document)}
    (taken : rs.takeDocument = (result, after)) : after.Settled := by
  obtain ⟨_, header, position, rowCount⟩ := takeDocument_keeps taken
  refine settled.kept position header rowCount (takeDocument_released taken) ?_
  -- Nothing is ever fetched ahead by it.
  intro none
  rcases takeDocument_cases rs with ⟨doc, ahead, _⟩ | ⟨_, _, does⟩ | ⟨_, _, does⟩
  · rw [none] at ahead
    cases ahead
  · rw [does] at taken
    cases taken
    exact none
  · rw [does] at taken
    cases taken
    exact none

/-- Every call keeps what holds. -/
theorem Settled.perform [Libraries] [HeaderProvider π] [OwningStatement τ] (settled : rs.Settled)
    (call : Call) : (rs.perform call).2.Settled := by
  -- The cases are the kinds of calls, and for moving on its outcomes.
  have performed := performed call rs
  generalize (rs.perform call).2 = after at performed
  cases performed with
  | next =>
    have advance := next_advance rs
    generalize rs.next = outcome at advance
    cases advance with
    | closed _ => exact settled
    | past _ => exact settled
    -- What failed to come leaves everything as it was before.
    | failed _ taken => exact settled.taken taken
    | exhausted _ _ =>
      -- Even a cursor that could not be closed counts as let go of.
      rw [finish_eq, release_eq]
      exact settled_of_ended (.inl rfl) rfl rfl
    | @entered doc after ready taken =>
      exact (settled.taken taken).entered (ready.taken taken) doc
  | close =>
    rcases close_cases rs with ⟨_, same⟩ | ⟨_, statement, same⟩ <;> rw [same]
    · exact settled
    · rw [release_eq]
      exact settled_of_ended (.inr rfl) rfl rfl
  | other _ inert => cases inert <;> exact settled.kept rfl rfl rfl rfl id

/-- Right after opening, all of it holds. -/
theorem openWith_settled [HeaderProvider π] {cursor : σ} {provider : π} {options : Options}
    (opened : openWith cursor provider options = .ok rs) : rs.Settled := by
  have fresh := openWith_fresh opened
  have rowless : rs.position.row? = none := by
    rw [fresh.position]
    rfl
  -- No row was entered, and the cursor was just taken over.
  refine ⟨fitting_of_rowless rowless, ?_, iff_of_true fresh.held (.inl fresh.position), ?_⟩
  · intro row onRow
    rw [fresh.position] at onRow
    cases onRow
  · intro gone
    rw [fresh.held] at gone
    cases gone

/-- Dropped once it has ended, a result set has nothing left to let go of. -/
theorem Settled.drop (settled : rs.Settled) (ended : ¬ rs.IsReady) : rs.drop = rs := by
  have gone := settled.gone ended
  -- Neither a cursor nor a document fetched ahead is left.
  show rs.release.2 = rs
  rw [release, if_pos gone, ← settled.spent gone]

end Settling

section Living

/-- Where a result set stands, where it can go from there, and what it refuses. -/
structure Lifecycle [Libraries] [DocumentCursor σ] [HeaderProvider π] [OwningStatement τ]
    (rs : ResultSet σ π τ) : Prop where
  /-- In the state of a row, and in no other, there is a row, with a value for each column. -/
  row : rs.state = .onRow ↔ ∃ row doc, rs.current = some row ∧ row.Fits rs.header doc
  /-- Rows, and nothing else, have a number. -/
  numbered : rs.state = .onRow ↔ ∃ count, rs.rowNumber = .ok (count + 1)
  /-- Only closing leads to the closed state, and nothing leads away from it. -/
  closed : ∀ later, (run later rs).2.position = .closed ↔ rs.position = .closed ∨ .close ∈ later
  /-- Only closing leads away from behind the last row. -/
  ended : rs.position = .afterLast →
    ∀ later, .close ∉ later → (run later rs).2.position = .afterLast
  /-- Nothing leads back to before the first row. -/
  begun : ∀ later, (run later rs).2.position = .beforeFirst → rs.position = .beforeFirst
  /-- What stands against a read is looked for in one order. -/
  reads : ∀ ref target, Outcome rs ref (rs.read ref target).1
  /-- Once closed, almost all calls are refused, and neither a call nor dropping changes it. -/
  finished : rs.position = .closed →
    (∀ call, rs.perform call = (rs.closedAnswer call, rs)) ∧ rs.drop = rs

variable [DocumentCursor σ] [HeaderProvider π] [OwningStatement τ] {rs : ResultSet σ π τ}

/-- A call stays where it is, moves on to a row or behind the last one, or closes. -/
theorem perform_moves [Libraries] (call : Call) (rs : ResultSet σ π τ) :
    (rs.perform call).2.position = rs.position ∨
      call = .next ∧ ((∃ row, (rs.perform call).2.position = .onRow row) ∨
        (rs.perform call).2.position = .afterLast) ∨
      call = .close ∧ (rs.perform call).2.position = .closed := by
  have performed := performed call rs
  generalize (rs.perform call).2 = after at performed
  cases performed with
  | close =>
    rcases close_cases rs with ⟨_, same⟩ | ⟨_, statement, same⟩ <;> rw [same]
    · exact .inl rfl
    · exact .inr (.inr ⟨rfl, rfl⟩)
  | other _ inert => cases inert <;> exact .inl rfl
  | next =>
    have advance := next_advance rs
    generalize rs.next = outcome at advance
    cases advance with
    | closed _ => exact .inl rfl
    | past _ => exact .inl rfl
    | failed _ taken => exact .inl (takeDocument_keeps taken).2.2.1
    | exhausted _ _ =>
      rw [finish_eq]
      exact .inr (.inl ⟨rfl, .inr rfl⟩)
    | @entered doc after _ taken =>
      have entering := enterRow_entering after doc
      generalize after.enterRow doc = outcome at entering
      cases entering with
      | known _ => exact .inr (.inl ⟨rfl, .inl ⟨_, rfl⟩⟩)
      | described _ _ => exact .inr (.inl ⟨rfl, .inl ⟨_, rfl⟩⟩)
      -- A row that is not entered leaves the place before it.
      | undescribed _ _ => exact .inl (takeDocument_keeps taken).2.2.1

/-- A call leaves a result set closed when it was closed before, and when it closes it. -/
theorem perform_closed_iff [Libraries] (call : Call) (rs : ResultSet σ π τ) :
    (rs.perform call).2.position = .closed ↔ rs.position = .closed ∨ call = .close := by
  constructor
  · intro closed
    rcases perform_moves call rs with same | ⟨_, ⟨row, onRow⟩ | past⟩ | ⟨isClose, _⟩
    · exact .inl (same.symm.trans closed)
    · -- Moving on leads to other places.
      rw [onRow] at closed
      cases closed
    · rw [past] at closed
      cases closed
    · exact .inr isClose
  · rintro (closed | rfl)
    · exact (perform_stays (.inl closed)).trans closed
    · show rs.close.2.position = .closed
      rcases close_cases rs with ⟨closed, same⟩ | ⟨_, statement, same⟩ <;> rw [same]
      · exact closed
      · rfl

/-- Calls leave a result set closed when it was closed before, and when one of them closes it. -/
theorem run_closed_iff [Libraries] (later : List Call) (rs : ResultSet σ π τ) :
    (run later rs).2.position = .closed ↔ rs.position = .closed ∨ .close ∈ later := by
  -- The induction is on the calls, from whatever result set the first of them leaves.
  induction later generalizing rs with
  | nil => exact (or_iff_left List.not_mem_nil).symm
  | cons call rest ih =>
    show (run rest (rs.perform call).2).2.position = .closed ↔ _
    rw [ih, perform_closed_iff, List.mem_cons, or_assoc, eq_comm (a := call)]

/-- Nothing leads back to before the first row. -/
theorem run_begun [Libraries] {later : List Call} {rs : ResultSet σ π τ}
    (begun : (run later rs).2.position = .beforeFirst) : rs.position = .beforeFirst := by
  -- The induction is on the calls, and goes back over the first of them.
  induction later generalizing rs with
  | nil => exact begun
  | cons call rest ih =>
    have before : (rs.perform call).2.position = .beforeFirst := ih begun
    rcases perform_moves call rs with same | ⟨_, ⟨row, onRow⟩ | past⟩ | ⟨_, closed⟩
    · exact same.symm.trans before
    · -- Wherever else the first call may lead, it is not there.
      rw [onRow] at before
      cases before
    · rw [past] at before
      cases before
    · rw [closed] at before
      cases before

/-- What holds at any time tells all of this. -/
theorem Settled.lifecycle [Libraries] (settled : rs.Settled) : rs.Lifecycle where
  row := by
    -- The state is that of a row exactly where the position has one.
    rw [state_onRow_iff]
    constructor
    · rintro ⟨row, position⟩
      obtain ⟨doc, rfl⟩ := settled.fitting row position
      exact ⟨_, doc, current_eq_some_iff.mpr position, Row.ofDocument_fits rs.header doc⟩
    · rintro ⟨row, _, current, _⟩
      exact ⟨row, current_eq_some_iff.mp current⟩
  numbered := by
    rw [state_onRow_iff]
    constructor
    · rintro ⟨row, position⟩
      -- The row was counted, so its number is at least one.
      obtain ⟨count, counted⟩ := Nat.exists_eq_succ_of_ne_zero
        (Nat.ne_of_gt (settled.numbered row position))
      exact ⟨count, (rowNumber_of_onRow position).trans (congrArg Except.ok counted)⟩
    · -- Any other position has the number zero, or none at all.
      rintro ⟨count, number⟩
      cases position : rs.position with
      | onRow row => exact ⟨row, rfl⟩
      | _ => simp [rowNumber_eq, whenOpen, isClosed_eq, position, Position.row?] at number
  closed := fun later => run_closed_iff later rs
  ended := fun position later unclosed =>
    (run_stays later (.inr ⟨position, unclosed⟩)).trans position
  begun := fun _ begun => run_begun begun
  reads := fun ref target => settled.fitting.outcome ref target
  finished := fun position =>
    ⟨perform_closed position, settled.drop (not_ready (.inr position))⟩

/-- Whatever statement is attached and whatever is called, a result set lives by these rules. -/
theorem Settled.lives [Libraries] (settled : rs.Settled) (statement : Option τ)
    (calls : List Call) :
    (run calls { rs with statement }).2.Lifecycle := by
  -- The statement has no part in what holds.
  have attached : { rs with statement }.Settled := settled.kept rfl rfl rfl rfl id
  have step : ∀ call ∈ calls, ∀ rs : ResultSet σ π τ, rs.Settled → (rs.perform call).2.Settled :=
    fun call _ _ settled => settled.perform call
  exact (run_preserves calls step attached).lifecycle

/--
A result set goes forward through its states, and what it refuses depends on the state alone.

This holds after any calls, however the cursor, the provider of columns and the statement fail, and
however the result set was opened, over a provider of columns or over data alone.
-/
theorem lifecycle_at_any_time [Libraries] (cursor : σ) (options : Options) (statement : Option τ)
    (calls : List Call) :
    (∀ (provider : π) (rs : ResultSet σ π τ), openWith cursor provider options = .ok rs →
      (run calls { rs with statement }).2.Lifecycle) ∧
    (∀ (opening : Opening) (rs : ResultSet σ HeaderSource τ),
      opening.start cursor options = .ok rs → (run calls { rs with statement }).2.Lifecycle) := by
  constructor
  · intro provider rs opened
    exact (openWith_settled opened).lives statement calls
  · intro opening rs opened
    obtain ⟨source, opened⟩ := Opening.start_ok opened
    exact (openWith_settled opened).lives statement calls

/-- A row that is read, a column that is not there, and what is still answered after closing. -/
theorem lifecycle_at_any_time_closed :
    let queue : DocumentQueue := { documents := [[("n", .int 7)]] }
    let calls : List Call := [.read (.label "n") .int, .next, .read (.index 2) .int,
      .read (.label "N") .int, .close, .read (.index 2) .int, .isClosed, .close, .next]
    ∃ rs : ResultSet DocumentQueue HeaderSource Statement,
      Opening.ofRows.start queue {} = .ok rs ∧
      (run calls { rs with statement := some ({} : Statement) }).1 =
        [.error .noCurrentRow, .ok (.flag true), .error (.columnIndexOutOfRange 2 1),
          .ok (.reading (.int 7)), .ok .done, .error .resultSetClosed, .ok (.flag true),
          .ok .done, .error .resultSetClosed] ∧
      (run calls { rs with statement := some ({} : Statement) }).2.Lifecycle := by
  intro queue calls
  have lives := (lifecycle_at_any_time (π := HeaderSource) queue {} (some ({} : Statement))
    calls).2 .ofRows
  exact ⟨_, rfl, rfl, lives _ rfl⟩

end Living

end ResultSet

end BsonTable
