import BsonTable.Library.Standard
import BsonTable.Proofs.ResultSet.Recorded

/-! A result set closes its cursor exactly once, and a failed opening does not close it at all. -/

namespace BsonTable

/-- A cursor whose closing comes out as given in advance. -/
structure Closing (σ : Type u) where
  cursor : σ
  outcome : Except Error Unit

namespace Closing

variable {σ : Type u} [DocumentCursor σ]

/-- Ask whether another document can be taken. -/
def hasNext (closing : Closing σ) : Except Error Bool × Closing σ :=
  let (result, cursor) := DocumentCursor.hasNext closing.cursor
  (result, { closing with cursor })

/-- Ask for the next document. -/
def next (closing : Closing σ) : Except Error (Option Document) × Closing σ :=
  let (result, cursor) := DocumentCursor.next closing.cursor
  (result, { closing with cursor })

/-- Let go of what the cursor holds, with the outcome that was given. -/
def close (closing : Closing σ) : Except Error Unit × Closing σ :=
  (closing.outcome, { closing with cursor := (DocumentCursor.close closing.cursor).2 })

instance : DocumentCursor (Closing σ) where
  hasNext := hasNext
  next := next
  close := close

/-- A given outcome shows in nothing but the answer to closing. -/
theorem respects_mk (outcome : Except Error Unit) :
    Respects fun cursor : σ => (⟨cursor, outcome⟩ : Closing σ) :=
  ⟨fun _ => rfl, fun _ => rfl, fun _ => rfl⟩

end Closing

namespace ResultSet

section Tracking

variable {σ : Type u} {π : Type v} {τ : Type w}

/-- What the record of a cursor tells of a result set, at any time. -/
structure Tracked (rs : ResultSet (Recorded σ) π τ) : Prop where
  /-- A cursor that is held was not closed. -/
  held : rs.released = false → .close ∉ rs.cursor.events
  /-- A cursor that was let go of was closed by its last use, and by no other. -/
  released : rs.released = true → ∃ uses, rs.cursor.events = uses ++ [.close] ∧ .close ∉ uses
  /-- The cursor is held as long as a next row is looked for. -/
  ready : rs.released = false ↔ rs.IsReady

variable {rs after : ResultSet (Recorded σ) π τ}

/-- The record shows whether the cursor was let go of. -/
theorem Tracked.closed_iff (tracked : rs.Tracked) :
    .close ∈ rs.cursor.events ↔ rs.released = true := by
  constructor
  · intro closed
    -- A cursor that is still held would not have been closed.
    cases released : rs.released with
    | true => rfl
    | false => exact absurd closed (tracked.held released)
  · intro released
    obtain ⟨uses, events, _⟩ := tracked.released released
    rw [events]
    exact List.mem_append_right _ (List.mem_singleton_self _)

/-- What neither uses the cursor nor reaches an end changes nothing about the record. -/
theorem Tracked.kept (tracked : rs.Tracked) (cursor : after.cursor = rs.cursor)
    (released : after.released = rs.released) (ready : after.IsReady ↔ rs.IsReady) :
    after.Tracked where
  held := by
    rw [released, cursor]
    exact tracked.held
  released := by
    rw [released, cursor]
    exact tracked.released
  ready := by
    rw [released, ready]
    exact tracked.ready

/-- A use that does not close leaves the cursor held. -/
theorem Tracked.used (tracked : rs.Tracked) (held : rs.released = false) {event : CursorEvent}
    (events : after.cursor.events = rs.cursor.events ++ [event]) (other : event ≠ .close)
    (released : after.released = rs.released) (position : after.position = rs.position) :
    after.Tracked where
  held := by
    intro _ closed
    -- Neither the earlier uses nor the new one closed the cursor.
    rw [events, List.mem_append, List.mem_singleton] at closed
    exact closed.elim (tracked.held held) fun same => other same.symm
  released := by
    intro gone
    rw [released, held] at gone
    cases gone
  ready := by
    rw [released, tracked.ready]
    unfold IsReady
    rw [position]

/-- Entering a row leaves the cursor alone. -/
theorem Tracked.entered [HeaderProvider π] (tracked : rs.Tracked) (ready : rs.IsReady)
    (doc : Document) : (rs.enterRow doc).2.Tracked := by
  have standing : ∀ header : Header, (rs.standOn header doc).IsReady := fun _ => .inr ⟨_, rfl⟩
  have entering := enterRow_entering rs doc
  generalize rs.enterRow doc = outcome at entering
  cases entering with
  | known _ => exact tracked.kept rfl rfl (iff_of_true (standing _) ready)
  | described _ _ => exact tracked.kept rfl rfl (iff_of_true (standing _) ready)
  -- Columns that come from the row itself may not be describable, and then nothing moves.
  | undescribed _ _ => exact tracked.kept rfl rfl Iff.rfl

variable [DocumentCursor σ]

/-- Letting go of the cursor closes it, unless that was done before. -/
theorem Tracked.release (tracked : rs.Tracked) :
    ∃ uses, rs.release.2.cursor.events = uses ++ [.close] ∧ .close ∉ uses := by
  unfold ResultSet.release
  cases released : rs.released with
  -- Done before, it is not done again.
  | true => exact tracked.released released
  -- Whatever the cursor answers, the attempt is recorded, and it is the first one.
  | false => exact ⟨rs.cursor.events, rfl, tracked.held released⟩

/-- Where no next row is looked for, the cursor was let go of for good. -/
theorem Tracked.letGo (tracked : rs.Tracked) (cursor : after.cursor = rs.release.2.cursor)
    (released : after.released = true)
    (ended : after.position = .afterLast ∨ after.position = .closed) : after.Tracked where
  held := by
    intro held
    rw [released] at held
    cases held
  released := by
    intro _
    rw [cursor]
    exact tracked.release
  ready := by
    rw [released]
    exact iff_of_false nofun (not_ready ended)

/-- Taking a document at most asks the cursor for it. -/
theorem Tracked.taken (tracked : rs.Tracked) {result : Except Error (Option Document)}
    (taken : rs.takeDocument = (result, after)) : after.Tracked := by
  rcases takeDocument_cases rs with ⟨doc, _, does⟩ | ⟨_, _, does⟩ | ⟨_, held, does⟩ <;>
    rw [does] at taken <;> cases taken
  · -- The document was fetched ahead.
    exact tracked.kept rfl rfl Iff.rfl
  · -- The cursor was let go of, so it is not asked.
    exact tracked
  · exact tracked.used held rfl nofun rfl rfl

/-- Going to the next row closes the cursor at the end alone. -/
theorem Tracked.next [HeaderProvider π] (tracked : rs.Tracked) : rs.next.2.Tracked := by
  have advance := next_advance rs
  generalize rs.next = outcome at advance
  cases advance with
  | closed _ => exact tracked
  | past _ => exact tracked
  | failed ready taken => exact tracked.taken taken
  | exhausted ready taken =>
    -- Behind the last row, the cursor is let go of.
    rw [finish_eq]
    exact (tracked.taken taken).letGo rfl (release_released _) (.inl rfl)
  | @entered doc after ready taken =>
    -- Taking the document did not move, so the row is entered from where it was looked for.
    exact (tracked.taken taken).entered (ready.taken taken) doc

/-- Every call keeps the record as it should be. -/
theorem Tracked.perform [Libraries] [HeaderProvider π] [OwningStatement τ] (call : Call)
    (tracked : rs.Tracked) : (rs.perform call).2.Tracked := by
  have performed := performed call rs
  generalize (rs.perform call).2 = after at performed
  cases performed with
  | next => exact tracked.next
  | close =>
    rcases close_cases rs with ⟨_, same⟩ | ⟨_, statement, same⟩ <;> rw [same]
    · -- Closed before, nothing is done again.
      exact tracked
    · exact tracked.letGo rfl (release_released rs) (.inr rfl)
  | other _ inert =>
    -- Any other call at most asks for more, and only a cursor that is held.
    cases inert with
    | remembers _ => exact tracked.kept rfl rfl Iff.rfl
    | asks held => exact tracked.used held rfl nofun rfl rfl

/-- Fetching a document ahead does not close the cursor. -/
theorem prefetch_unclosed (cursor : σ) (strategy : Strategy) :
    .close ∉ (prefetch strategy ({ cursor } : Recorded σ)).2.events := by
  cases strategy with
  | schemaKnown => exact List.not_mem_nil
  | rowDerived =>
    -- Asking for the document is the only use so far.
    intro closed
    cases List.mem_singleton.mp closed

/-- A fresh result set has not closed its cursor, whatever statement is attached to it. -/
theorem Fresh.tracked {cursor : σ} {options : Options}
    (fresh : rs.Fresh ({ cursor } : Recorded σ) options) (statement : Option τ) :
    { rs with statement }.Tracked where
  held := by
    intro _ closed
    obtain ⟨strategy, fetched⟩ := fresh.fetched
    have closed : .close ∈ rs.cursor.events := closed
    rw [fetched] at closed
    exact prefetch_unclosed cursor strategy closed
  released := by
    intro released
    have held := fresh.held
    rw [show rs.released = true from released] at held
    cases held
  ready := iff_of_true fresh.held (.inl fresh.position)

end Tracking

section Releasing

variable {σ : Type u} {π : Type v} {τ : Type w} [DocumentCursor σ] [HeaderProvider π]
  [OwningStatement τ]

/-- Whether a call closes the cursor. -/
def Closes [Libraries] (call : Call) (rs : ResultSet (Recorded σ) π τ) : Prop :=
  .close ∉ rs.cursor.events ∧ .close ∈ (rs.perform call).2.cursor.events

/-- Whether a call closes a cursor as it is here, and tells when that fails. -/
def TellsOfClosing [Libraries] (cursor : Recorded σ) (call : Call)
    (rs : ResultSet (Recorded σ) π τ) : Prop :=
  (rs.perform call).2.cursor = (DocumentCursor.close cursor).2 ∧
    ∀ error, (DocumentCursor.close cursor).1 = .error error → (rs.perform call).1 = .error error

/-- How a result set treats its cursor from some point on. -/
structure ReleasesOnce [Libraries] (rs : ResultSet (Recorded σ) π τ) : Prop where
  /-- Once the result set is given up, the last use of the cursor closed it, and no other did. -/
  once : ∃ uses, rs.drop.cursor.events = uses ++ [.close] ∧ .close ∉ uses
  /-- A cursor that was closed is not used again. -/
  unused : .close ∈ rs.cursor.events → ∀ call, (rs.perform call).2.cursor = rs.cursor
  /-- The cursor is closed by reaching the end or by closing, and that call tells of a failure. -/
  told : ∀ call, rs.Closes call →
    call = .next ∧ rs.TellsOfClosing (DocumentCursor.next rs.cursor).2 .next ∨
      call = .close ∧ rs.TellsOfClosing rs.cursor .close
  /-- No other answer depends on how closing comes out, and neither does what is left. -/
  untold : ∀ outcome call,
    let image := fun cursor => (⟨cursor, outcome⟩ : Closing (Recorded σ))
    ((rs.viewed image).perform call).2 = (rs.perform call).2.viewed image ∧
      (¬ rs.Closes call → ((rs.viewed image).perform call).1 = (rs.perform call).1)
  /-- Once the end was reached there is no next row, until the result set is closed. -/
  ended : rs.Closes .next → ∀ later, .close ∉ later → (run later rs.next.2).2.next.1 = .ok false
  /-- Closing succeeds whenever it was done before. -/
  again : ∀ later, (run later rs.close.2).2.close.1 = .ok ()

variable {rs : ResultSet (Recorded σ) π τ}

/-- A call closes the cursor when it lets go of it. -/
theorem Tracked.closes_iff [Libraries] (tracked : rs.Tracked) (call : Call) :
    rs.Closes call ↔ rs.released = false ∧ (rs.perform call).2.released = true := by
  unfold Closes
  rw [tracked.closed_iff, (tracked.perform call).closed_iff, Bool.not_eq_true]

/-- Going on closes the cursor when it has nothing more to hand over. -/
theorem Tracked.closes_next [Libraries] (tracked : rs.Tracked) (closes : rs.Closes .next) :
    rs.next = { rs with cursor := (DocumentCursor.next rs.cursor).2 }.finish := by
  obtain ⟨held, gone⟩ := (tracked.closes_iff .next).mp closes
  have gone : rs.next.2.released = true := gone
  have advance := next_advance rs
  generalize rs.next = outcome at advance gone
  -- Wherever else going on may lead, the cursor is still held.
  have still : rs.released = true → False := by
    rw [held]
    exact Bool.false_ne_true
  cases advance with
  | closed _ => exact (still gone).elim
  | past _ => exact (still gone).elim
  | failed _ taken =>
    rw [takeDocument_released taken] at gone
    exact (still gone).elim
  | @entered doc after _ taken =>
    rw [enterRow_released, takeDocument_released taken] at gone
    exact (still gone).elim
  | exhausted _ taken =>
    rcases takeDocument_held held with ⟨doc, _, does⟩ | ⟨_, does⟩ <;> rw [does] at taken
    · -- A document that was fetched ahead would be handed over.
      cases taken
    · obtain ⟨_, rfl⟩ := Prod.mk.inj taken
      rfl

/-- The call that closes the cursor tells when that fails. -/
theorem Tracked.told [Libraries] (tracked : rs.Tracked) {call : Call} (closes : rs.Closes call) :
    call = .next ∧ rs.TellsOfClosing (DocumentCursor.next rs.cursor).2 .next ∨
      call = .close ∧ rs.TellsOfClosing rs.cursor .close := by
  obtain ⟨held, gone⟩ := (tracked.closes_iff call).mp closes
  have performed := performed call rs
  generalize (rs.perform call).2 = after at performed gone
  cases performed with
  | next =>
    refine .inl ⟨rfl, ?_⟩
    -- Moving on came to the end, where its answer is that of closing.
    obtain ⟨left, answer⟩ :=
      release_held { rs with cursor := (DocumentCursor.next rs.cursor).2 } held
    show rs.next.2.cursor = _ ∧ ∀ error, _ → rs.next.1.map Answer.flag = .error error
    rw [tracked.closes_next closes, finish_eq, answer]
    refine ⟨left, ?_⟩
    intro error failed
    rw [failed]
    rfl
  | close =>
    refine .inr ⟨rfl, ?_⟩
    have opened : rs.isClosed = false := by
      -- A closed result set had let go of the cursor before.
      cases closed : rs.isClosed with
      | false => rfl
      | true => exact absurd (tracked.ready.mp held) (not_ready (.inr (rs.isClosed_iff.mp closed)))
    -- A failure to close the cursor comes before anything that the statement may answer.
    obtain ⟨left, answer⟩ := release_held { rs with rowState := .closed } held
    show rs.close.2.cursor = _ ∧ ∀ error, _ → rs.close.1.map (fun _ => Answer.done) = .error error
    unfold ResultSet.close
    rw [opened]
    simp only [Bool.false_eq_true, if_false, answer]
    rw [completeStatement_eq]
    refine ⟨left, ?_⟩
    intro error failed
    rw [failed]
    rfl
  | other _ inert =>
    -- No other call lets go of the cursor.
    have same : after.released = rs.released := by cases inert <;> rfl
    rw [same, held] at gone
    cases gone

/-- Once closed, the cursor stays as it is. -/
theorem Tracked.unused [Libraries] (tracked : rs.Tracked) (gone : rs.released = true)
    (call : Call) :
    (rs.perform call).2.cursor = rs.cursor := by
  have ended : ¬ rs.IsReady := by
    rw [← tracked.ready, gone]
    exact Bool.noConfusion
  have performed := performed call rs
  generalize (rs.perform call).2 = after at performed
  cases performed with
  | next =>
    -- Only from a position where a next row is looked for is the cursor used.
    have advance := next_advance rs
    generalize rs.next = outcome at advance
    cases advance with
    | closed _ => rfl
    | past _ => rfl
    | failed ready _ => exact absurd ready ended
    | exhausted ready _ => exact absurd ready ended
    | entered ready _ => exact absurd ready ended
  | close =>
    -- Closing lets go of the cursor, which leaves it alone when that was done before.
    obtain ⟨_, same⟩ | ⟨_, statement, same⟩ := close_cases rs <;> rw [same]
    simp [ResultSet.release, gone]
  | other _ inert =>
    cases inert with
    | remembers _ => rfl
    | asks held =>
      -- Only a cursor that is held is asked for more.
      rw [gone] at held
      cases held

/-- Behind the last row a result set stays there until it is closed, and closed it stays. -/
theorem run_stays [Libraries] {rs : ResultSet σ π τ} (calls : List Call)
    (ended : rs.position = .closed ∨ rs.position = .afterLast ∧ .close ∉ calls) :
    (run calls rs).2.position = rs.position := by
  have step : ∀ call ∈ calls, ∀ after : ResultSet σ π τ, after.position = rs.position →
      (after.perform call).2.position = rs.position := by
    intro call among after same
    -- Each of the calls comes at the same position, and none of them closes behind the last row.
    refine (perform_stays ?_).trans same
    rw [same]
    exact ended.imp_right fun ⟨position, unclosed⟩ =>
      ⟨position, fun isClose => unclosed (isClose ▸ among)⟩
  exact run_preserves calls step rfl

/-- Once the end was reached, there is no next row until the result set is closed. -/
theorem Tracked.ended [Libraries] (tracked : rs.Tracked) (closes : rs.Closes .next)
    {later : List Call}
    (unclosed : .close ∉ later) : (run later rs.next.2).2.next.1 = .ok false := by
  have reached : rs.next.2.position = .afterLast := by
    rw [tracked.closes_next closes, finish_eq]
    rfl
  -- None of the later calls leaves the place behind the last row.
  have stays := (run_stays later (.inr ⟨reached, unclosed⟩)).trans reached
  generalize (run later rs.next.2).2 = after at stays
  rw [ResultSet.next_eq, stays]

/-- Closing succeeds whenever it was done before. -/
theorem close_again [Libraries] (rs : ResultSet σ π τ) (later : List Call) :
    (run later rs.close.2).2.close.1 = .ok () := by
  have reached : rs.close.2.position = .closed := by
    -- Whether or not it is the first time, and whatever fails.
    obtain ⟨position, same⟩ | ⟨_, statement, same⟩ := close_cases rs <;> rw [same]
    · exact position
    · rfl
  have stays := (run_stays later (.inl reached)).trans reached
  generalize (run later rs.close.2).2 = after at stays
  unfold close
  rw [after.isClosed_iff.mpr stays]
  rfl

/-- A call that does not close the cursor leaves it as closed as it was. -/
theorem Tracked.steady [Libraries] (tracked : rs.Tracked) {call : Call} (other : ¬ rs.Closes call) :
    (rs.perform call).2.released = rs.released := by
  cases released : rs.released with
  | false =>
    rw [tracked.closes_iff, not_and] at other
    exact Bool.not_eq_true _ |>.mp (other released)
  | true =>
    -- The record still has the closing, as a cursor that was closed is not used again.
    rw [← (tracked.perform call).closed_iff, tracked.unused released call]
    exact tracked.closed_iff.mpr released

/-- A record that is as it should be tells all of this. -/
theorem Tracked.releasesOnce [Libraries] (tracked : rs.Tracked) : rs.ReleasesOnce where
  once := tracked.release
  unused := fun closed call => tracked.unused (tracked.closed_iff.mp closed) call
  told := fun _ closes => tracked.told closes
  untold := by
    intro outcome call image
    -- The result set is followed over the same cursor with another outcome of closing.
    obtain ⟨same, answers⟩ := perform_viewed (Closing.respects_mk outcome) call rs
    exact ⟨same, fun other => answers (.inr (tracked.steady other))⟩
  ended := fun closes _ unclosed => tracked.ended closes unclosed
  again := close_again rs

/-- A fresh result set treats its cursor this way after any calls. -/
theorem Fresh.releasesOnce [Libraries] {cursor : σ} {options : Options}
    (fresh : rs.Fresh ({ cursor } : Recorded σ) options) (statement : Option τ)
    (calls : List Call) : (run calls { rs with statement }).2.ReleasesOnce :=
  (run_preserves calls (fun call _ _ tracked => tracked.perform call)
    (fresh.tracked statement)).releasesOnce

/--
A cursor is closed exactly once, by reaching the end, by closing the result set or by giving it up.

This holds after any calls, however the cursor and the statement fail and however the result set
was opened, over a provider of columns or over data alone.
-/
theorem cursor_released_once [Libraries] (cursor : σ) (options : Options) (statement : Option τ)
    (calls : List Call) :
    (∀ (provider : π) (rs : ResultSet (Recorded σ) π τ),
      openWith { cursor } provider options = .ok rs →
        (run calls { rs with statement }).2.ReleasesOnce) ∧
    (∀ (opening : Opening) (rs : ResultSet (Recorded σ) HeaderSource τ),
      opening.start { cursor } options = .ok rs →
        (run calls { rs with statement }).2.ReleasesOnce) := by
  constructor
  · intro provider rs opened
    exact (openWith_fresh opened).releasesOnce statement calls
  · intro opening rs opened
    exact (Opening.start_fresh opened).releasesOnce statement calls

/-- A cursor that cannot be closed is closed once, and only the call that reached the end fails. -/
theorem cursor_released_once_lost :
    let lost : Closing DocumentQueue :=
      { cursor := { documents := [] }, outcome := .error (.cursor "connection lost") }
    let calls : List Call := [.next, .next, .close]
    ∃ rs : ResultSet (Recorded (Closing DocumentQueue)) HeaderSource Statement,
      openWith { cursor := lost } (HeaderSource.ofRows {}) {} = .ok rs ∧
      Opening.ofRows.start { cursor := lost } {} = .ok rs ∧
      (run calls { rs with statement := some ({} : Statement) }).1.map Except.isOk =
        [false, true, true] ∧
      (run calls { rs with statement := some ({} : Statement) }).2.ReleasesOnce := by
  intro lost calls
  have released :=
    cursor_released_once (π := HeaderSource) lost {} (some ({} : Statement)) calls
  exact ⟨_, rfl, rfl, rfl, released.2 .ofRows _ rfl⟩

end Releasing

section Failing

variable {σ : Type u} {π : Type v} {τ : Type w} [DocumentCursor σ]

/-- Opening over a provider of columns fails before or after a document was fetched ahead. -/
theorem openWith_failed [HeaderProvider π] {cursor : σ} {provider : π} {options : Options}
    {failure : OpenFailure σ}
    (failed : (openWith cursor provider options : Except _ (ResultSet σ π τ)) = .error failure) :
    ∃ strategy, failure.cursor = (prefetch strategy cursor).2 := by
  refine ⟨HeaderProvider.strategy provider, ?_⟩
  unfold openWith at failed
  split at failed
  · -- The first document could not be fetched.
    rename_i fetched
    cases failed
    exact (congrArg Prod.snd fetched).symm
  · rename_i fetched
    split at failed
    · -- Its columns could not be described, with the document already taken.
      cases failed
      exact (congrArg Prod.snd fetched).symm
    · cases failed

/-- Every way to open a result set fails before or after a document was fetched ahead. -/
theorem start_failed {opening : Opening} {cursor : σ} {options : Options}
    {failure : OpenFailure σ} (failed : (opening.start cursor options :
      Except _ (ResultSet σ HeaderSource τ)) = .error failure) :
    ∃ strategy, failure.cursor = (prefetch strategy cursor).2 := by
  have schemaKnown : ∀ {schema}, (openSchema cursor schema options :
      Except _ (ResultSet σ HeaderSource τ)) = .error failure →
      ∃ strategy, failure.cursor = (prefetch strategy cursor).2 := by
    intro schema failed
    unfold openSchema at failed
    split at failed
    · -- The columns of the schema could not be arranged, so the cursor was not touched.
      cases failed
      exact ⟨.schemaKnown, rfl⟩
    · exact openWith_failed failed
  have replied : ∀ {reply}, (openReply cursor reply options :
      Except _ (ResultSet σ HeaderSource τ)) = .error failure →
      ∃ strategy, failure.cursor = (prefetch strategy cursor).2 := by
    intro reply failed
    unfold openReply at failed
    split at failed
    · -- The reply itself is a failure.
      cases failed
      exact ⟨.schemaKnown, rfl⟩
    · split at failed
      · -- It has a document that is no schema.
        cases failed
        exact ⟨.schemaKnown, rfl⟩
      · exact schemaKnown failed
  cases opening with
  | withSource source => exact openWith_failed failed
  | withSchema schema => exact schemaKnown failed
  | withReply reply => exact replied failed
  | ofRows => exact openWith_failed failed
  | byStrategy reply =>
    unfold Opening.start openByStrategy at failed
    simp only at failed
    split at failed
    · exact openWith_failed failed
    · exact replied failed
    · -- A schema is needed, and nothing provides one.
      cases failed
      exact ⟨.schemaKnown, rfl⟩

/--
A failed opening never closes the cursor that it was given.

At most one document was asked for, so whatever the cursor still holds is left to its owner.
-/
theorem failed_opening_never_closes [HeaderProvider π] (cursor : σ) (options : Options)
    (failure : OpenFailure (Recorded σ)) :
    (∀ provider : π, (openWith { cursor } provider options :
        Except _ (ResultSet (Recorded σ) π τ)) = .error failure →
      .close ∉ failure.cursor.events ∧ failure.cursor.events.length ≤ 1) ∧
    (∀ opening : Opening, (opening.start { cursor } options :
        Except _ (ResultSet (Recorded σ) HeaderSource τ)) = .error failure →
      .close ∉ failure.cursor.events ∧ failure.cursor.events.length ≤ 1) := by
  have untouched : (∃ strategy, failure.cursor = (prefetch strategy { cursor }).2) →
      .close ∉ failure.cursor.events ∧ failure.cursor.events.length ≤ 1 := by
    rintro ⟨strategy, left⟩
    rw [left]
    -- At most one document was asked for, and that is all that is on record.
    refine ⟨prefetch_unclosed cursor strategy, ?_⟩
    cases strategy with
    | schemaKnown => exact Nat.zero_le 1
    | rowDerived => exact Nat.le_refl 1
  constructor
  · intro provider failed
    exact untouched (openWith_failed failed)
  · intro opening failed
    exact untouched (start_failed failed)

/-- A cursor that fails at the first document is left as it is by both ways to open over rows. -/
theorem failed_opening_never_closes_first :
    let broken : Recorded DocumentQueue := { cursor := { documents := [], closed := true } }
    ∃ failure : OpenFailure (Recorded DocumentQueue),
      (openWith broken (HeaderSource.ofRows {}) {} : Except _ (ResultSet _ _ Statement)) =
        .error failure ∧
      (Opening.ofRows.start broken {} : Except _ (ResultSet _ _ Statement)) = .error failure ∧
      .close ∉ failure.cursor.events ∧ failure.cursor.events.length ≤ 1 := by
  intro broken
  exact ⟨_, rfl, rfl, (failed_opening_never_closes (π := HeaderSource) (τ := Statement)
    broken.cursor {} _).2 .ofRows rfl⟩

/-- Not every failed opening closes the cursor: without a schema, a queue is left open. -/
theorem failed_opening_leaves_queue_open :
    ¬ ∀ (opening : Opening) (queue : DocumentQueue) (options : Options)
      (failure : OpenFailure (Recorded DocumentQueue)),
      (opening.start { cursor := queue } options : Except _ (ResultSet _ _ Statement)) =
        .error failure → .close ∈ failure.cursor.events := by
  intro closes
  -- By default the schema is to be known, but here nothing provides it.
  have closed := closes (.byStrategy none) { documents := [] } {} _ rfl
  cases closed

end Failing

end ResultSet

end BsonTable
