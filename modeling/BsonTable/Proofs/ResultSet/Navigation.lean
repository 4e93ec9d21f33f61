import BsonTable.Proofs.ResultSet.Level
import BsonTable.Proofs.ResultSet.Memory

/-!
What a result set answers about its position is what the place among its documents says, and asking
for it changes no later answer.
-/

namespace BsonTable

/-- Whether a call only asks, and takes neither a row nor a value. -/
def Call.isQuestion : Call → Bool
  | .next | .close | .read _ _ => false
  | _ => true

namespace ResultSet

variable {σ : Type u} {π : Type v} {τ : Type w}

/-- What a result set answers about its position at a place among a number of rows. -/
structure Navigates [Libraries] [DocumentCursor σ] [HeaderProvider π] [OwningStatement τ]
    (rows place : Nat) (rs : ResultSet σ π τ) : Prop where
  /-- Moving on tells whether the place it leads to is that of a row. -/
  next : rs.next.1 = .ok (decide (1 ≤ Call.placed rows place .next ∧
    Call.placed rows place .next ≤ rows))
  rowNumber : rs.rowNumber = .ok (if 1 ≤ place ∧ place ≤ rows then place else 0)
  isFirst : rs.isFirst = .ok (decide (place = 1 ∧ 1 ≤ rows))
  isLast : rs.isLast.1 = .ok (decide (rows ≤ place))
  isBeforeFirst : rs.isBeforeFirst.1 = .ok (decide (place = 0 ∧ 0 < rows))
  isAfterLast : rs.isAfterLast = .ok (decide (place = rows + 1 ∧ 0 < rows))
  /-- Without rows there is never a first one, always a last one and never a next one. -/
  empty : rows = 0 → rs.next.1 = .ok false ∧ rs.isFirst = .ok false ∧ rs.isLast.1 = .ok true
  /-- Whatever is asked, all later calls answer as they would have without it. -/
  undisturbed : ∀ call, call.isQuestion = true →
    ∀ later, (run later (rs.perform call).2).1 = (run later rs).1

section Answering

variable [DocumentCursor σ] {docs : List Document} {place : Nat} {rs : ResultSet σ π τ}

/-- The position at a place is that of a row when the place is. -/
theorem positionAt_row? (docs : List Document) (header : Header) (place : Nat) :
    (positionAt docs header place).row?.isSome = decide (1 ≤ place ∧ place ≤ docs.length) := by
  -- Before the first row there is none, and behind it the documents decide.
  cases place with
  | zero => rfl
  | succ place =>
    -- A row is counted from one, its document from zero.
    unfold positionAt
    dsimp only
    cases found : docs[place]? with
    | some doc =>
      have below := (List.getElem?_eq_some_iff.mp found).1
      rw [decide_eq_true (by omega)]
      rfl
    | none =>
      have above := List.getElem?_eq_none_iff.mp found
      rw [decide_eq_false (by omega)]
      rfl

/-- The position at a place is behind the last row when the place is. -/
theorem Stands.isBehind (stands : Stands docs place rs) :
    rs.position = .afterLast ↔ place = docs.length + 1 := by
  constructor
  · intro position
    rcases stands.ahead with ⟨within, _⟩ | ⟨behind, _⟩
    · -- Up to the last document, the position is one that a next row follows.
      exact absurd (stands.ready within) (not_ready (.inl position))
    · exact behind
  · rintro rfl
    exact stands.past

/-- Only rows are numbered, and by their place. -/
theorem Stands.rowNumber (stands : Stands docs place rs) :
    rs.rowNumber = .ok (if 1 ≤ place ∧ place ≤ docs.length then place else 0) := by
  rw [ResultSet.rowNumber_eq, whenOpen_of_open stands.opened, stands.position, positionAt_row?,
    stands.rowCount]
  -- On a row the number counted is that of the place.
  by_cases onRow : 1 ≤ place ∧ place ≤ docs.length <;> simp [onRow]

/-- The first row is at the first place, if there is one. -/
theorem Stands.isFirst (stands : Stands docs place rs) :
    rs.isFirst = .ok (decide (place = 1 ∧ 1 ≤ docs.length)) := by
  rw [ResultSet.isFirst_eq, whenOpen_of_open stands.opened, stands.position, positionAt_row?,
    stands.rowCount]
  congr 1
  -- Behind the last row the row count may be one as well, so being on a row is asked, too.
  rw [Bool.eq_iff_iff]
  simp only [Bool.and_eq_true, decide_eq_true_eq, beq_iff_eq]
  omega

/-- No row is to come from the last place on, and none ever without documents. -/
theorem Stands.isLast (stands : Stands docs place rs) :
    rs.isLast.1 = .ok (decide (docs.length ≤ place)) := by
  rw [isLast_of_open stands.opened, stands.hasMore]
  -- The last row is known by nothing coming after it.
  show Except.ok (!decide (place < docs.length)) = _
  rw [← decide_not]
  simp only [Nat.not_lt]

/-- Before the first row is where nothing was taken, if there is a row at all. -/
theorem Stands.isBeforeFirst (stands : Stands docs place rs) :
    rs.isBeforeFirst.1 = .ok (decide (place = 0 ∧ 0 < docs.length)) := by
  have hasMore := stands.hasMore
  have position := stands.position
  rw [ResultSet.isBeforeFirst_eq]
  cases place with
  | zero =>
    -- Here the answer is whether anything is to come at all.
    simp only [positionAt] at position
    rw [position]
    simpa using hasMore
  | succ place =>
    -- Once moved on, the position is that of a row or behind the last one.
    rw [decide_eq_false (by omega)]
    simp only [positionAt] at position
    split at position <;> rw [position]

/-- Behind the last row is where the end was noticed, if there was a row at all. -/
theorem Stands.isAfterLast (stands : Stands docs place rs) :
    rs.isAfterLast = .ok (decide (place = docs.length + 1 ∧ 0 < docs.length)) := by
  have rowCount := stands.rowCount
  have behind := stands.isBehind
  rw [ResultSet.isAfterLast_eq, whenOpen_of_open stands.opened]
  congr 1
  -- Both are questions about the position, so they are compared as such.
  rw [Bool.eq_iff_iff, decide_eq_true_eq, ← behind]
  split
  · -- By then every row was delivered, so some were exactly when there are documents.
    rename_i position
    rw [decide_eq_true_eq, rowCount, behind.mp position, and_iff_right position]
    omega
  · rename_i elsewhere
    exact iff_of_false Bool.false_ne_true fun behind => elsewhere behind.1

/-- The next row comes when there is a document at the place. -/
theorem Stands.next [HeaderProvider π] (stands : Stands docs place rs)
    (describing : Describing π) : rs.next.1 = .ok (decide (place < docs.length)) := by
  -- There is a document at the place, or the end is noticed now.
  cases found : docs[place]? with
  | some doc =>
    obtain ⟨shown, shows⟩ := describing.showRow doc (rs.provider, rs.header)
    rw [(stands.delivers found shows).1, decide_eq_true (List.getElem?_eq_some_iff.mp found).1]
  | none =>
    have above := List.getElem?_eq_none_iff.mp found
    rw [(stands.ends found).1, decide_eq_false (Nat.not_lt.mpr above)]

end Answering

section Copying

variable [DocumentCursor σ] [HeaderProvider π] {docs : List Document} {rs other : ResultSet σ π τ}

/-- Two result sets that differ in nothing but how their cursors came to serve what is to come. -/
structure Copies (docs : List Document) (rs other : ResultSet σ π τ) : Prop where
  level : Level docs (@Eq (π × Header)) rs other
  memory : rs.lastReadNull = other.lastReadNull

variable [OwningStatement τ]

/-- Copies answer any call the same. -/
theorem Copies.answers [Libraries] (copies : Copies docs rs other) (describing : Describing π)
    (call : Call) :
    (rs.perform call).1 = (other.perform call).1 := by
  have level := copies.level
  have position := level.position
  have header : rs.header = other.header := congrArg Prod.snd level.columns
  -- What both answer for being at one place is known of any two such result sets.
  cases shared : call.isShared with
  | true => exact level.answers (describing.shownAlike docs) shared
  | false =>
    -- The other calls look at the columns and the memory, and copies have the same ones.
    cases call with
    | header => simp only [ResultSet.perform, currentHeader, whenOpen_congr position, header]
    | findColumn label =>
      simp only [ResultSet.perform, findColumn, whenOpen_congr position, header]
    | wasNull => simp only [ResultSet.perform, wasNull, whenOpen_congr position, copies.memory]
    | summary =>
      have same : rs.summary = other.summary := by
        unfold summary state
        rw [level.mode, rowState_congr position, level.rowCount, header]
      exact congrArg (fun text => Except.ok (Answer.text text)) same
    | read ref target =>
      exact congrArg (·.map Answer.reading)
        (read_congr position header level.mode ref target)
    | _ => cases shared

/-- Any call leaves copies behind. -/
theorem Copies.perform [Libraries] (copies : Copies docs rs other) (describing : Describing π)
    (call : Call) :
    Copies docs (rs.perform call).2 (other.perform call).2 where
  level := copies.level.perform (describing.shownAlike docs) call
  memory := by
    -- Only a read changes the memory, and a read answers the same on both sides.
    cases isRead : call.isRead with
    | false => rw [perform_unread isRead, perform_unread isRead, copies.memory]
    | true =>
      cases call with
      | read ref target =>
        show (rs.read ref target).2.lastReadNull = (other.read ref target).2.lastReadNull
        have answers := read_congr copies.level.position.symm
          (congrArg Prod.snd copies.level.columns).symm copies.level.mode.symm ref target
        cases answer : (rs.read ref target).1 with
        | ok reading => exact copies.level.remembered answer (answers.trans answer)
        | error failure =>
          -- A read that fails leaves what was remembered before.
          rw [read_failed answer, read_failed (answers.trans answer), copies.memory]
      | _ => cases isRead

/-- Copies answer any calls the same. -/
theorem Copies.run [Libraries] (copies : Copies docs rs other) (describing : Describing π)
    (calls : List Call) : (run calls rs).1 = (ResultSet.run calls other).1 := by
  -- The induction is on the calls, from whatever copies the first of them leaves.
  induction calls generalizing rs other with
  | nil => rfl
  | cons call rest ih =>
    show (rs.perform call).1 :: (ResultSet.run rest (rs.perform call).2).1 =
      (other.perform call).1 :: (ResultSet.run rest (other.perform call).2).1
    rw [copies.answers describing call, ih (copies.perform describing call)]

end Copying

section Navigating

variable [DocumentCursor σ] [HeaderProvider π] [OwningStatement τ] {docs : List Document}
  {place : Nat} {rs : ResultSet σ π τ}

/-- A call that only asks leaves a copy of the result set. -/
theorem Stands.copies [Libraries] (stands : Stands docs place rs) {call : Call}
    (question : call.isQuestion = true) : Copies docs (rs.perform call).2 rs := by
  have notNext : call ≠ .next := by rintro rfl; cases question
  have notClose : call ≠ .close := by rintro rfl; cases question
  have unread : call.isRead = false := by cases call <;> first | rfl | cases question
  have inert := perform_inert notNext notClose rs
  have there := stands.inert inert
  have memory := perform_unread unread rs
  -- At most the cursor was asked whether there is more, which it answers the same next time.
  generalize (rs.perform call).2 = after at inert there memory
  refine ⟨?_, memory⟩
  cases inert <;> exact ⟨.inl ⟨place, there, stands⟩, rfl, rfl, rfl, rfl, fun _ _ => rfl⟩

/-- At any place, a result set answers as the place says. -/
theorem Stands.navigates [Libraries] (stands : Stands docs place rs) (describing : Describing π) :
    Navigates docs.length place rs where
  next := by
    -- The place after moving on is that of a row when a document is left.
    rw [stands.next describing]
    congr 1
    rw [decide_eq_decide]
    show place < docs.length ↔ 1 ≤ min (place + 1) (docs.length + 1) ∧
      min (place + 1) (docs.length + 1) ≤ docs.length
    omega
  rowNumber := stands.rowNumber
  isFirst := stands.isFirst
  isLast := stands.isLast
  isBeforeFirst := stands.isBeforeFirst
  isAfterLast := stands.isAfterLast
  empty := by
    -- Without documents the conditions on the place can be computed.
    intro none
    rw [stands.next describing, stands.isFirst, stands.isLast, none]
    refine ⟨?_, ?_, ?_⟩ <;> simp
  undisturbed := fun _ question later => (stands.copies question).run describing later

/--
Over a cursor that never fails, a result set answers as its place among the documents says.

Each call to move on leads one place further, up to the one behind the last document. This holds
after any calls but closing, over any provider that finds all columns, which always lets a result
set be opened, as well as over data alone, however the result set was opened.
-/
theorem navigation_follows_place [Libraries] {cursor : σ} {docs : List Document}
    (serves : ServesReliably cursor docs) (options : Options) (statement : Option τ)
    {calls : List Call} (unclosed : .close ∉ calls) :
    let place := calls.foldl (fun place call => call.placed docs.length place) 0
    (∀ provider : π, Describing π → ∃ rs : ResultSet σ π τ,
      openWith cursor provider options = .ok rs ∧
        Navigates docs.length place (run calls { rs with statement }).2) ∧
    (∀ (opening : Opening) (rs : ResultSet σ HeaderSource τ),
      opening.start cursor options = .ok rs →
        Navigates docs.length place (run calls { rs with statement }).2) := by
  constructor
  · -- The rules start from the place before all documents, and every call keeps them.
    intro provider describing
    obtain ⟨rs, opened⟩ : ∃ rs : ResultSet σ π τ, openWith cursor provider options = .ok rs :=
      openWith_succeeds serves describing provider options
    have stands := (openWith_stands serves opened).attached statement
    exact ⟨rs, opened, (stands.run describing unclosed).navigates describing⟩
  · intro opening rs opened
    obtain ⟨source, opened⟩ := Opening.start_ok opened
    have stands := (openWith_stands serves opened).attached statement
    exact (stands.run HeaderSource.describing unclosed).navigates HeaderSource.describing

/-- Two rows are gone through to their end, past questions on the way. -/
theorem navigation_follows_place_end :
    let docs : List Document := [[("n", .int 1)], [("n", .int 2)]]
    let queue : DocumentQueue := { documents := docs }
    let calls : List Call := [.isBeforeFirst, .next, .rowNumber, .next, .isLast, .next]
    ∃ rs : ResultSet DocumentQueue HeaderSource Statement,
      Opening.ofRows.start queue {} = .ok rs ∧
      (run calls rs).1 = [.ok (.flag true), .ok (.flag true), .ok (.number 1), .ok (.flag true),
        .ok (.flag true), .ok (.flag false)] ∧
      Navigates 2 3 (run calls rs).2 := by
  intro docs queue calls
  have unclosed : Call.close ∉ calls := by simp [calls]
  have navigates := (navigation_follows_place (π := HeaderSource)
    (DocumentQueue.servesReliably docs) {} (none : Option Statement) unclosed).2 .ofRows
  exact ⟨_, rfl, rfl, navigates _ rfl⟩

end Navigating

end ResultSet

end BsonTable
