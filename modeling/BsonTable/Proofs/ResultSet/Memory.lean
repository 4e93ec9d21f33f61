import BsonTable.Proofs.ResultSet.Columns
import BsonTable.Proofs.ResultSet.Modes

/-! What a result set remembers of its reads, and what reading leaves alone. -/

namespace BsonTable

/-- Whether a call reads a column. -/
def Call.isRead : Call → Bool
  | read _ _ => true
  | _ => false

namespace ResultSet

variable {σ : Type u} {π : Type v} {τ : Type w}

/-- The value that the current row has for a column, if there is a row with such a column. -/
def storedValue? (rs : ResultSet σ π τ) (ref : ColumnAddress) : Option Value :=
  -- This is the value itself, before any target reads it as something else.
  match rs.position, rs.header.resolve ref with
  | .onRow row, .ok index => row.get? index
  | _, _ => none

/-- The value that a call reads, if the call is a read that succeeds. -/
def valueRead? [Libraries] (rs : ResultSet σ π τ) : Call → Option Value
  | .read ref target =>
    match (rs.read ref target).1 with
    | .ok _ => rs.storedValue? ref
    | .error _ => none
  | _ => none

/-- The value that was read by the latest successful read among some calls. -/
def latestRead? [Libraries] [DocumentCursor σ] [HeaderProvider π] [OwningStatement τ] :
    List Call → ResultSet σ π τ → Option Value
  | [], _ => none
  -- What a later call reads comes before what this one reads.
  | call :: rest, rs => (latestRead? rest (rs.perform call).2).or (rs.valueRead? call)

/-- Whether the current row is that of some document under the columns shown. -/
def Fitting (rs : ResultSet σ π τ) : Prop :=
  ∀ row, rs.position = .onRow row → ∃ doc, row = .ofDocument rs.header doc

section Fitting

variable {rs after : ResultSet σ π τ}

/-- What keeps the columns and the place keeps the row under its columns. -/
theorem Fitting.kept (fitting : rs.Fitting) (position : after.position = rs.position)
    (header : after.header = rs.header) : after.Fitting := by
  intro row current
  rw [position] at current
  rw [header]
  exact fitting row current

/-- Off the rows, there is no row that could fail to fit. -/
theorem fitting_of_rowless (rowless : rs.position.row? = none) : rs.Fitting := by
  intro row current
  rw [current] at rowless
  cases rowless

/-- A row is entered under the columns that are shown from then on. -/
theorem Fitting.entered [HeaderProvider π] (fitting : rs.Fitting) (doc : Document) :
    (rs.enterRow doc).2.Fitting := by
  have standing : ∀ (before : ResultSet σ π τ) (header : Header),
      (before.standOn header doc).Fitting := by
    intro before header row current
    exact ⟨doc, (Position.onRow.inj current).symm⟩
  have entering := enterRow_entering rs doc
  generalize rs.enterRow doc = outcome at entering
  cases entering with
  | known _ => exact standing _ _
  | described _ _ => exact standing _ _
  | undescribed _ _ =>
    -- The row before stays, and so do its columns.
    exact fitting.kept rfl rfl

variable [DocumentCursor σ] [HeaderProvider π] [OwningStatement τ]

/-- Every call keeps the row under its columns. -/
theorem Fitting.perform [Libraries] (fitting : rs.Fitting) (call : Call) :
    (rs.perform call).2.Fitting := by
  -- There are three kinds of calls, and only one of them enters a row.
  have performed := performed call rs
  generalize (rs.perform call).2 = after at performed
  cases performed with
  | next =>
    have advance := next_advance rs
    generalize rs.next = outcome at advance
    cases advance with
    | closed _ => exact fitting
    | past _ => exact fitting
    | failed _ taken =>
      obtain ⟨_, header, position, _⟩ := takeDocument_keeps taken
      exact fitting.kept position header
    | exhausted _ _ =>
      rw [finish_eq]
      exact fitting_of_rowless rfl
    | @entered doc after _ taken =>
      -- Taking the document leaves the row before it as it was.
      obtain ⟨_, header, position, _⟩ := takeDocument_keeps taken
      exact (fitting.kept position header).entered doc
  | close =>
    rcases close_cases rs with ⟨_, same⟩ | ⟨_, statement, same⟩ <;> rw [same]
    · exact fitting
    · exact fitting_of_rowless rfl
  -- What neither moves on nor closes keeps the place and the columns as they are.
  | other _ inert => cases inert <;> exact fitting.kept rfl rfl

end Fitting

section Reading

variable {rs : ResultSet σ π τ}

/-- A read that fails changes nothing. -/
theorem read_failed [Libraries] {ref : ColumnAddress} {target : Target} {error : Error}
    (failed : (rs.read ref target).1 = .error error) : (rs.read ref target).2 = rs := by
  -- A read fails where no value is located, or where the located value is unfit.
  unfold read at failed ⊢
  split
  · rfl
  · -- The value was located, so it is the reading of it that failed.
    rename_i located
    rw [located] at failed
    dsimp only at failed
    split
    · rfl
    · rename_i reads
      rw [reads] at failed
      cases failed

/-- What is located on a row that fits is the value stored there. -/
theorem Fitting.storedValue (fitting : rs.Fitting) {ref : ColumnAddress} {column : Column}
    {value : Value} (located : rs.locate ref = .ok (column, value)) :
    rs.storedValue? ref = some value := by
  unfold storedValue?
  cases position : rs.position with
  | onRow row =>
    obtain ⟨doc, rfl⟩ := fitting row position
    cases resolved : rs.header.resolve ref with
    | error failure =>
      simp [locate_eq, position, resolved, bind, Except.bind] at located
    | ok index =>
      -- The row has a value wherever the columns have one, so none is made up.
      obtain ⟨other, found, stored⟩ :=
        (Row.ofDocument_fits rs.header doc).found ref index resolved
      rw [locate_of_onRow position resolved found] at located
      cases located
      exact stored
  | _ => simp [locate_eq, position] at located

/-- A read that succeeds changes nothing but the memory, which is that of the stored value. -/
theorem Fitting.read_ok [Libraries] (fitting : rs.Fitting) {ref : ColumnAddress} {target : Target}
    {reading : Reading} (succeeded : (rs.read ref target).1 = .ok reading) :
    ∃ value, rs.storedValue? ref = some value ∧
      (rs.read ref target).2 = { rs with lastReadNull := value.isNullLike } := by
  unfold read at succeeded ⊢
  cases located : rs.locate ref with
  | error failure =>
    rw [located] at succeeded
    cases succeeded
  | ok found =>
    obtain ⟨column, value⟩ := found
    rw [located] at succeeded
    dsimp only at succeeded ⊢
    -- The value is remembered as it is stored, whatever the target makes of it.
    refine ⟨value, fitting.storedValue located, ?_⟩
    cases reads : target.read rs.mode column.type value with
    | error failure =>
      rw [reads] at succeeded
      cases succeeded
    | ok reading => rfl

/-- What is read depends on the place, the columns and the mode alone. -/
theorem read_congr [Libraries] {other : ResultSet σ π τ} (position : other.position = rs.position)
    (header : other.header = rs.header) (mode : other.mode = rs.mode) (ref : ColumnAddress)
    (target : Target) : (other.read ref target).1 = (rs.read ref target).1 := by
  -- Locating needs the place and the columns, reading a located value needs the mode as well.
  have located : other.locate ref = rs.locate ref := by
    rw [locate_eq, locate_eq]
    rw [position, header]
  rw [read_answer, read_answer, located, mode]

variable [DocumentCursor σ] [HeaderProvider π] [OwningStatement τ]

/-- Calls other than reads leave the memory alone. -/
theorem perform_unread [Libraries] {call : Call} (other : call.isRead = false)
    (rs : ResultSet σ π τ) :
    (rs.perform call).2.lastReadNull = rs.lastReadNull := by
  cases plain : call.isModal with
  -- Calls that show neither the mode nor the memory are the same without them.
  | false => exact (perform_modal plain rs).2
  | true =>
    -- The calls that show the mode or the memory change neither.
    cases call with
    | wasNull => rfl
    | mode => rfl
    | summary => rfl
    | read _ _ => cases other
    | _ => cases plain

/-- A call is remembered when it is a read that succeeds. -/
theorem Fitting.perform_memory [Libraries] (fitting : rs.Fitting) (call : Call) :
    (rs.perform call).2.lastReadNull =
      ((rs.valueRead? call).map Value.isNullLike).getD rs.lastReadNull := by
  -- Only a read can have read a value, and only one that succeeds has.
  cases isRead : call.isRead with
  | false =>
    have nothing : rs.valueRead? call = none := by
      cases call with
      | read _ _ => cases isRead
      | _ => rfl
    rw [nothing]
    exact perform_unread isRead rs
  | true =>
    cases call with
    | read ref target =>
      show (rs.read ref target).2.lastReadNull = _
      cases answer : (rs.read ref target).1 with
      | error failure =>
        have nothing : rs.valueRead? (.read ref target) = none := by
          simp only [valueRead?, answer]
        rw [read_failed answer, nothing]
        rfl
      | ok reading =>
        obtain ⟨value, stored, same⟩ := fitting.read_ok answer
        have found : rs.valueRead? (.read ref target) = some value := by
          simp only [valueRead?, answer, stored]
        rw [same, found]
        rfl
    | _ => cases isRead

/-- After any calls, the memory is that of the latest successful read. -/
theorem Fitting.run_memory [Libraries] (fitting : rs.Fitting) (calls : List Call) :
    (run calls rs).2.lastReadNull =
      ((latestRead? calls rs).map Value.isNullLike).getD rs.lastReadNull := by
  -- The induction is on the calls, from whatever result set the first of them leaves.
  induction calls generalizing rs with
  | nil => rfl
  | cons call rest ih =>
    have latest : latestRead? (call :: rest) rs =
        (latestRead? rest (rs.perform call).2).or (rs.valueRead? call) := rfl
    show (run rest (rs.perform call).2).2.lastReadNull = _
    rw [ih (fitting.perform call), fitting.perform_memory call, latest]
    -- A later read overrides what the first call remembers, and without one that stays.
    cases latestRead? rest (rs.perform call).2 <;> rfl

/-- Calls that neither move on nor close leave what any read answers. -/
theorem run_undisturbed [Libraries] {calls : List Call} (notNext : .next ∉ calls)
    (notClose : .close ∉ calls) (ref : ColumnAddress) (target : Target) :
    ((run calls rs).2.read ref target).1 = (rs.read ref target).1 := by
  -- Such calls keep all that a read depends on.
  have step : ∀ call ∈ calls, ∀ after : ResultSet σ π τ,
      after.position = rs.position ∧ after.header = rs.header ∧ after.mode = rs.mode →
      (after.perform call).2.position = rs.position ∧
        (after.perform call).2.header = rs.header ∧ (after.perform call).2.mode = rs.mode := by
    intro call among after same
    have inert := perform_inert (fun isNext => notNext (isNext ▸ among))
      (fun isClose => notClose (isClose ▸ among)) after
    generalize (after.perform call).2 = later at inert
    cases inert <;> exact same
  -- So does a run of them, by one step after the other.
  obtain ⟨position, header, mode⟩ := run_preserves calls step ⟨rfl, rfl, rfl⟩
  exact read_congr position header mode ref target

/-- How reading goes on a result set, and what it leaves alone. -/
structure ReadsApart [Libraries] (rs : ResultSet σ π τ) : Prop where
  /-- The current row is that of a document, in which a field that is absent is null. -/
  fits : ∀ row, rs.position = .onRow row → ∃ doc, row.Fits rs.header doc
  /-- A read that fails changes nothing. -/
  failed : ∀ ref target error, (rs.read ref target).1 = .error error →
    (rs.read ref target).2 = rs
  /-- A read that succeeds, whatever it answers, remembers whether the stored value is null-like. -/
  succeeded : ∀ ref target reading, (rs.read ref target).1 = .ok reading →
    ∃ value absent, rs.storedValue? ref = some value ∧
      (rs.read ref target).2 = { rs with lastReadNull := absent } ∧
      (absent = true ↔ value = .null ∨ value = .undefined)
  /-- No other call touches what is remembered. -/
  others : ∀ call, call.isRead = false → (rs.perform call).2.lastReadNull = rs.lastReadNull
  /-- What a read answers depends on the place, the columns and the mode alone. -/
  determined : ∀ other : ResultSet σ π τ, other.position = rs.position →
    other.header = rs.header → other.mode = rs.mode →
      ∀ ref target, (other.read ref target).1 = (rs.read ref target).1
  /-- Whatever else is read or asked for in between, a read answers the same on the same row. -/
  undisturbed : ∀ calls, .next ∉ calls → .close ∉ calls →
    ∀ ref target, ((run calls rs).2.read ref target).1 = (rs.read ref target).1

/-- Where the row fits its columns, reading goes this way. -/
theorem Fitting.readsApart [Libraries] (fitting : rs.Fitting) : rs.ReadsApart where
  -- The row is that of a document, which gives every column a value.
  fits := by
    intro row position
    obtain ⟨doc, rfl⟩ := fitting row position
    exact ⟨doc, Row.ofDocument_fits rs.header doc⟩
  failed := fun _ _ _ failed => read_failed failed
  succeeded := by
    intro ref target reading succeeded
    obtain ⟨value, stored, same⟩ := fitting.read_ok succeeded
    exact ⟨value, value.isNullLike, stored, same, value.isNullLike_iff⟩
  others := fun _ other => perform_unread other rs
  determined := fun _ position header mode ref target => read_congr position header mode ref target
  undisturbed := fun _ notNext notClose ref target => run_undisturbed notNext notClose ref target

/-- How a result set has read and remembers it, after some calls from a start. -/
structure Remembers [Libraries] (calls : List Call) (start : ResultSet σ π τ) : Prop where
  apart : (run calls start).2.ReadsApart
  /-- While it is open, it tells whether the latest successful read found a null-like value. -/
  wasNull : (run calls start).2.position ≠ .closed →
    (run calls start).2.wasNull = .ok ((latestRead? calls start).any Value.isNullLike)

/-- A fresh result set, on which nothing was read, remembers the reads that follow. -/
theorem Fitting.remembers [Libraries] (fitting : rs.Fitting) (unread : rs.lastReadNull = false)
    (calls : List Call) : Remembers calls rs where
  apart := by
    -- Every call keeps the row under its columns, which is all that reads need.
    have step : ∀ call ∈ calls, ∀ after : ResultSet σ π τ, after.Fitting →
        (after.perform call).2.Fitting := fun call _ _ kept => kept.perform call
    exact (run_preserves calls step fitting).readsApart
  wasNull := by
    intro opened
    -- Only a closed result set does not tell.
    rw [ResultSet.wasNull, whenOpen_of_open opened, fitting.run_memory calls, unread]
    cases latestRead? calls rs <;> rfl

/-- A result set that was just opened remembers the reads that follow, whatever its statement. -/
theorem openWith_remembers [Libraries] {cursor : σ} {provider : π} {options : Options}
    (opened : openWith cursor provider options = .ok rs) (statement : Option τ)
    (calls : List Call) : Remembers calls { rs with statement } := by
  -- Opening fails with the first document, or with the columns, or not at all.
  unfold openWith at opened
  split at opened
  · cases opened
  · split at opened
    · cases opened
    · cases opened
      -- Before the first row there is no row to fit, and nothing was read.
      exact (fitting_of_rowless rfl).remembers rfl calls

/--
Reading changes nothing but what is remembered of it, and only reads that succeed are remembered.

This holds after any calls, for every target and every way to address a column, and however the
result set was opened, over a provider of columns or over data alone.
-/
theorem reads_are_remembered [Libraries] (cursor : σ) (options : Options) (statement : Option τ)
    (calls : List Call) :
    (∀ (provider : π) (rs : ResultSet σ π τ), openWith cursor provider options = .ok rs →
      Remembers calls { rs with statement }) ∧
    (∀ (opening : Opening) (rs : ResultSet σ HeaderSource τ),
      opening.start cursor options = .ok rs → Remembers calls { rs with statement }) := by
  constructor
  · intro provider rs opened
    exact openWith_remembers opened statement calls
  · intro opening rs opened
    obtain ⟨source, opened⟩ := Opening.start_ok opened
    exact openWith_remembers opened statement calls

/-- A null is remembered past a read that fails, and so is the text that is read as zero next. -/
theorem reads_are_remembered_null :
    let queue : DocumentQueue := { documents := [[("sum", .null), ("name", .string "seven")]] }
    let calls : List Call := [.next, .read (.label "sum") .int, .read (.label "missing") .int,
      .wasNull, .read (.label "name") .int, .wasNull]
    ∃ rs : ResultSet DocumentQueue HeaderSource Statement,
      Opening.ofRows.start queue { mode := .relaxed } = .ok rs ∧
      (run calls rs).1 = [.ok (.flag true), .ok (.reading (.int 0)),
        .error (.columnNotFound "missing"), .ok (.flag true), .ok (.reading (.int 0)),
        .ok (.flag false)] ∧
      latestRead? calls rs = some (.string "seven") ∧
      Remembers calls rs := by
  intro queue calls
  have remembered := (reads_are_remembered (π := HeaderSource) queue { mode := .relaxed }
    (none : Option Statement) calls).2 .ofRows
  exact ⟨_, rfl, rfl, rfl, remembered _ rfl⟩

end Reading

end ResultSet

end BsonTable
