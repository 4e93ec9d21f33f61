import BsonTable.Proofs.ResultSet.Completion
import BsonTable.Proofs.ResultSet.Places

/-!
Two result sets at the same place among the same documents answer alike and move on alike, over
whatever cursors and whatever providers of columns, as long as the columns go by the same names.
-/

namespace BsonTable

/-- Whether the answer to a call follows from the place, the names of the columns and the mode. -/
def Call.isShared : Call → Bool
  -- Columns also have types, and off the rows it is open which columns are shown.
  | .header | .findColumn _ | .summary | .wasNull | .read _ .object => false
  | _ => true

/-- Only the reading of objects looks at the declared type. -/
theorem Target.read_untyped [Libraries] {target : Target} (untyped : target ≠ .object)
    (mode : ConversionMode) (declared other : ColumnType) (value : Value) :
    target.read mode declared value = target.read mode other value := by
  cases target with
  | object => exact absurd rfl untyped
  | _ => rfl

/-- Whether a relation between providers with their columns is kept from row to row. -/
def ShownAlike {π : Type v} {π' : Type v'} [HeaderProvider π] [HeaderProvider π']
    (docs : List Document) (alike : π × Header → π' × Header → Prop) : Prop :=
  ∀ (shown : π × Header) (other : π' × Header), alike shown other → ∀ doc ∈ docs,
    ∃ after after', HeaderProvider.showRow doc shown = .ok after ∧
      HeaderProvider.showRow doc other = .ok after' ∧ after.2.ListsAs after'.2 ∧
        alike after after'

/-- A provider that finds all columns shows the same ones when asked again. -/
theorem Describing.shownAlike {π : Type v} [HeaderProvider π] (describing : Describing π)
    (docs : List Document) : ShownAlike docs (@Eq (π × Header)) := by
  rintro shown _ rfl doc _
  obtain ⟨after, shows⟩ := describing.showRow doc shown
  exact ⟨after, after, shows, shows, rfl, rfl⟩

namespace ResultSet

variable {σ : Type u} {σ' : Type u'} {π : Type v} {π' : Type v'} {τ : Type w}

/-- Two result sets that went equally far in the same documents. -/
structure Level [DocumentCursor σ] [DocumentCursor σ'] (docs : List Document)
    (alike : π × Header → π' × Header → Prop) (rs : ResultSet σ π τ) (other : ResultSet σ' π' τ) :
    Prop where
  place : (∃ place, Stands docs place rs ∧ Stands docs place other) ∨
    rs.position = .closed ∧ other.position = .closed
  rowCount : rs.rowCount = other.rowCount
  mode : rs.mode = other.mode
  statement : rs.statement = other.statement
  columns : alike (rs.provider, rs.header) (other.provider, other.header)
  /-- On a row, the columns go by the same names. -/
  listed : ∀ row, rs.position = .onRow row → rs.header.ListsAs other.header

section Level

variable [DocumentCursor σ] [DocumentCursor σ'] {docs : List Document}
  {alike : π × Header → π' × Header → Prop} {rs : ResultSet σ π τ} {other : ResultSet σ' π' τ}

/-- The positions are the same, and so are the values of the current row. -/
theorem Level.position (level : Level docs alike rs other) : rs.position = other.position := by
  obtain ⟨place, here, there⟩ | ⟨closed, alsoClosed⟩ := level.place
  · have position := here.position
    rw [position, there.position]
    -- The values of a row follow from its document and the names of the columns.
    unfold positionAt at position ⊢
    split
    · rfl
    · rename_i place
      cases found : docs[place]? with
      | none => rfl
      | some doc =>
        simp only [found] at position
        exact congrArg Position.onRow ((level.listed _ position).ofDocument doc)
  · rw [closed, alsoClosed]

/-- A reference is located on both sides, with the same value, or fails alike. -/
theorem Level.located (level : Level docs alike rs other) (ref : ColumnAddress) :
    (∃ error, rs.locate ref = .error error ∧ other.locate ref = .error error) ∨
      ∃ column column' value, rs.locate ref = .ok (column, value) ∧
        other.locate ref = .ok (column', value) := by
  rw [locate_eq, locate_eq]
  rw [← level.position]
  cases position : rs.position with
  | onRow row =>
    have listed := level.listed row position
    simp only [bind, Except.bind, ← listed.resolve ref]
    cases resolved : rs.header.resolve ref with
    | error failure => exact .inl ⟨failure, rfl, rfl⟩
    | ok index =>
      -- The columns found need not be the same, but their values are, as they are in the row.
      obtain ⟨column, found⟩ := Header.column_of_resolve resolved
      obtain ⟨column', found'⟩ :=
        Header.column_of_resolve ((listed.resolve ref).symm.trans resolved)
      simp only [found, found']
      exact .inr ⟨column, column', _, rfl, rfl⟩
  -- Off the rows, it is the position that fails.
  | _ => exact .inl ⟨_, rfl, rfl⟩

/-- Any reading but that of objects comes to the same. -/
theorem Level.read [Libraries] (level : Level docs alike rs other) (ref : ColumnAddress)
    {target : Target}
    (untyped : target ≠ .object) : (rs.read ref target).1 = (other.read ref target).1 := by
  rw [read_answer, read_answer, ← level.mode]
  obtain ⟨error, here, there⟩ | ⟨column, column', value, here, there⟩ := level.located ref
  · rw [here, there]
  · -- The two columns may be of different types, but the target does not ask for them.
    rw [here, there]
    exact target.read_untyped untyped rs.mode column.type column'.type value

/-- What both read successfully is remembered alike. -/
theorem Level.remembered [Libraries] (level : Level docs alike rs other) {ref : ColumnAddress}
    {target : Target} {reading reading' : Reading} (reads : (rs.read ref target).1 = .ok reading)
    (reads' : (other.read ref target).1 = .ok reading') :
    (rs.read ref target).2.lastReadNull = (other.read ref target).2.lastReadNull := by
  unfold ResultSet.read at reads reads' ⊢
  obtain ⟨error, here, there⟩ | ⟨column, column', value, here, there⟩ := level.located ref
  · rw [here] at reads
    cases reads
  · rw [here] at reads ⊢
    rw [there] at reads' ⊢
    dsimp only at reads reads' ⊢
    -- The value is the same on both sides, whatever each of them makes of it.
    split at reads
    · cases reads
    · split at reads'
      · cases reads'
      · rfl

/-- Calls that neither move on nor close leave both at their place. -/
theorem Level.inert (level : Level docs alike rs other) {place : Nat}
    (here : Stands docs place rs) (there : Stands docs place other) {after : ResultSet σ π τ}
    {after' : ResultSet σ' π' τ} (inert : Inert rs after) (inert' : Inert other after') :
    Level docs alike after after' := by
  have here := here.inert inert
  have there := there.inert inert'
  cases inert <;> cases inert' <;> exact ⟨.inl ⟨place, here, there⟩, level.rowCount, level.mode,
    level.statement, level.columns, level.listed⟩

variable [OwningStatement τ]

/-- Closing leaves the columns, the row count and the mode alone. -/
theorem close_keeps (rs : ResultSet σ π τ) :
    rs.close.2.provider = rs.provider ∧ rs.close.2.header = rs.header ∧
      rs.close.2.rowCount = rs.rowCount ∧ rs.close.2.mode = rs.mode ∧
        rs.close.2.lastReadNull = rs.lastReadNull := by
  obtain ⟨_, same⟩ | ⟨_, statement, same⟩ := close_cases rs <;> rw [same]
  · exact ⟨rfl, rfl, rfl, rfl, rfl⟩
  · rw [release_eq]
    exact ⟨rfl, rfl, rfl, rfl, rfl⟩

/-- Both are closed together, and answer what the statement makes of it. -/
theorem Level.close (level : Level docs alike rs other) {place : Nat}
    (here : Stands docs place rs) (there : Stands docs place other) :
    rs.close.1 = other.close.1 ∧ Level docs alike rs.close.2 other.close.2 := by
  obtain ⟨answer, closed, statement⟩ := close_first here.opened
  obtain ⟨answer', closed', statement'⟩ := close_first there.opened
  obtain ⟨provider, header, rowCount, mode, _⟩ := close_keeps rs
  obtain ⟨provider', header', rowCount', mode', _⟩ := close_keeps other
  obtain ⟨outcome, completed⟩ := completion_congr level.statement
  -- Letting the cursor go succeeds on both sides, so the statement decides.
  rw [answer, answer', here.release, there.release]
  refine ⟨outcome, .inr ⟨closed, closed'⟩, ?_, ?_, ?_, ?_, ?_⟩
  · rw [rowCount, rowCount', level.rowCount]
  · rw [mode, mode', level.mode]
  · rw [statement, statement', completed]
  · rw [provider, provider', header, header']
    exact level.columns
  · intro row position
    rw [closed] at position
    cases position

variable [HeaderProvider π] [HeaderProvider π']

/-- Both stand at the same place after moving on, and tell alike whether a row came. -/
theorem Level.next [Libraries] (level : Level docs alike rs other) {place : Nat}
    (here : Stands docs place rs) (there : Stands docs place other)
    (shown : ShownAlike docs alike) :
    rs.next.1 = other.next.1 ∧ Level docs alike rs.next.2 other.next.2 := by
  -- Moving on changes neither the mode nor the statement.
  have mode := (perform_mode .next rs).trans (level.mode.trans (perform_mode .next other).symm)
  have statement := (next_statement rs).trans (level.statement.trans (next_statement other).symm)
  cases found : docs[place]? with
  | none =>
    -- Both are at the end of the same documents.
    obtain ⟨answer, columns, here⟩ := here.ends found
    obtain ⟨answer', columns', there⟩ := there.ends found
    refine ⟨answer.trans answer'.symm, .inl ⟨_, here, there⟩, ?_, mode, statement, ?_, ?_⟩
    · rw [here.rowCount, there.rowCount]
    · rw [columns, columns']
      exact level.columns
    · -- No row is behind the last one.
      intro row position
      rw [here.past] at position
      cases position
  | some doc =>
    -- Both enter the same document, and show columns that go together again.
    obtain ⟨after, after', shows, shows', listed, alike⟩ :=
      shown _ _ level.columns doc (List.mem_of_getElem? found)
    obtain ⟨answer, columns, here⟩ := here.delivers found shows
    obtain ⟨answer', columns', there⟩ := there.delivers found shows'
    subst columns columns'
    refine ⟨answer.trans answer'.symm, .inl ⟨_, here, there⟩, ?_, mode, statement, alike,
      fun _ _ => listed⟩
    rw [here.rowCount, there.rowCount]

/-- Any call leaves both at the same place. -/
theorem Level.perform [Libraries] (level : Level docs alike rs other)
    (shown : ShownAlike docs alike)
    (call : Call) : Level docs alike (rs.perform call).2 (other.perform call).2 := by
  -- Only moving on and closing change the place.
  obtain ⟨place, here, there⟩ | ⟨closed, alsoClosed⟩ := level.place
  · by_cases isNext : call = .next
    · subst isNext
      exact (level.next here there shown).2
    by_cases isClose : call = .close
    · subst isClose
      exact (level.close here there).2
    exact level.inert here there (perform_inert isNext isClose rs)
      (perform_inert isNext isClose other)
  · rw [perform_closed closed, perform_closed alsoClosed]
    exact level

/-- What depends on the place, the names of the columns and the mode alone is answered alike. -/
theorem Level.answers [Libraries] (level : Level docs alike rs other)
    (shown : ShownAlike docs alike) {call : Call} (shared : call.isShared = true) :
    (rs.perform call).1 = (other.perform call).1 := by
  have position := level.position
  have rowCount := level.rowCount
  obtain ⟨place, here, there⟩ | ⟨closed, alsoClosed⟩ := level.place
  · have opened := here.opened
    have opened' := there.opened
    have hasMore := here.hasMore.trans there.hasMore.symm
    cases call with
    | next => exact congrArg (·.map Answer.flag) (level.next here there shown).1
    | close => exact congrArg (·.map fun _ => Answer.done) (level.close here there).1
    | isLast => simp only [ResultSet.perform, isLast_of_open, opened, opened', hasMore, ne_eq,
        not_false_eq_true]
    | isBeforeFirst =>
      simp only [ResultSet.perform, isBeforeFirst_eq, ← position]
      -- Only before the first row it matters whether one is to come.
      cases rs.position with
      | beforeFirst => exact congrArg (·.map Answer.flag) hasMore
      | _ => rfl
    | mode => exact congrArg (fun mode => Except.ok (Answer.mode mode)) level.mode
    | read ref target =>
      refine congrArg (·.map Answer.reading) (level.read ref ?_)
      rintro rfl
      cases shared
    | isClosed => simp only [ResultSet.perform, isClosed_eq, position]
    | rowNumber =>
      simp only [ResultSet.perform, rowNumber_eq, whenOpen_congr position, position, rowCount]
    | isFirst => simp only [ResultSet.perform, isFirst_eq, whenOpen_congr position, position, rowCount]
    | isAfterLast =>
      simp only [ResultSet.perform, isAfterLast_eq, whenOpen_congr position, position, rowCount]
    | fetchDirection => simp only [ResultSet.perform, fetchDirection, whenOpen_congr position]
    | _ => cases shared
  · -- Once both are closed, what they answer depends on the mode alone.
    rw [perform_closed closed, perform_closed alsoClosed]
    cases call with
    | mode => exact congrArg (fun mode => Except.ok (Answer.mode mode)) level.mode
    | summary => cases shared
    | _ => rfl

/-- Any calls leave both at the same place. -/
theorem Level.run [Libraries] (level : Level docs alike rs other) (shown : ShownAlike docs alike)
    (calls : List Call) :
    Level docs alike (run calls rs).2 (ResultSet.run calls other).2 := by
  -- The induction is on the calls, from whatever result sets the first of them leaves.
  induction calls generalizing rs other with
  | nil => exact level
  | cons call rest ih => exact ih (level.perform shown call)

end Level

end ResultSet

end BsonTable
