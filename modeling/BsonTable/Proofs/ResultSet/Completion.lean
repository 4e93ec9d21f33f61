import BsonTable.Proofs.ResultSet.Lifecycle

/-!
A result set closes its statement at most once, and only when it is closed itself for the first
time, whatever others do to the statement meanwhile.
-/

namespace BsonTable

/-- A statement together with how often its result set tried to close it. -/
structure Watched (τ : Type w) where
  statement : τ
  closings : Nat := 0

namespace Watched

variable {τ : Type w}

/-- Let someone else change the statement, which is no attempt of the result set. -/
def interfere (change : τ → τ) (watched : Watched τ) : Watched τ :=
  { watched with statement := change watched.statement }

variable [OwningStatement τ]

/-- Close the statement, and count the attempt even when it fails. -/
def close (watched : Watched τ) : Except Error Unit × Watched τ :=
  let (result, statement) := OwningStatement.close watched.statement
  (result, { statement, closings := watched.closings + 1 })

instance : OwningStatement (Watched τ) where
  isClosed watched := OwningStatement.isClosed watched.statement
  closesOnCompletion watched := OwningStatement.closesOnCompletion watched.statement
  close := close

end Watched

/-- What can happen while a result set is in use. -/
inductive Happening (τ : Type w) where
  | call (call : Call)
  /-- Someone else changes the statement. -/
  | outside (change : τ → τ)

namespace ResultSet

variable {σ : Type u} {π : Type v} {τ : Type w}

section Completing

variable {rs after : ResultSet σ π τ}

/-- Whether the statement asks for being closed with the result, and was not closed by anyone. -/
def asksForClosing [OwningStatement τ] (rs : ResultSet σ π τ) : Bool :=
  rs.statement.any fun statement =>
    -- Someone else may have closed the statement in the meantime, which is asked for at the end.
    OwningStatement.closesOnCompletion statement && !OwningStatement.isClosed statement

/-- What comes of closing the statement, which is not tried unless it asks for that. -/
def completionOutcome [OwningStatement τ] (rs : ResultSet σ π τ) : Except Error Unit :=
  match rs.statement with
  | some statement => if rs.asksForClosing then (OwningStatement.close statement).1 else .ok ()
  | none => .ok ()

/-- The statement after the result set was closed for the first time. -/
def completedStatement [OwningStatement τ] (rs : ResultSet σ π τ) : Option τ :=
  if rs.asksForClosing then rs.statement.map fun statement => (OwningStatement.close statement).2
  else rs.statement

/-- What comes of closing the cursor, which was done before when the end was reached. -/
def releaseOutcome [DocumentCursor σ] (rs : ResultSet σ π τ) : Except Error Unit :=
  match rs.position with
  | .afterLast => .ok ()
  | _ => (DocumentCursor.close rs.cursor).1

/-- Completing the statement closes it when it asks for that, and else leaves it alone. -/
theorem completeStatement_outcome [OwningStatement τ] (rs : ResultSet σ π τ) :
    rs.completeStatement.1 = rs.completionOutcome ∧
      rs.completeStatement.2.statement = rs.completedStatement := by
  unfold completeStatement completionOutcome completedStatement asksForClosing
  cases attached : rs.statement with
  | none => exact ⟨rfl, attached⟩
  | some statement =>
    -- The same question decides on both sides.
    simp only [Option.any_some]
    split
    · exact ⟨rfl, rfl⟩
    · exact ⟨rfl, attached⟩

/-- Only the statement has a part in completing it. -/
theorem completion_congr {σ' : Type u'} {π' : Type v'} [OwningStatement τ]
    {after : ResultSet σ' π' τ} (same : after.statement = rs.statement) :
    after.completionOutcome = rs.completionOutcome ∧
      after.completedStatement = rs.completedStatement := by
  -- Everything that is asked of a result set here is asked of its statement.
  unfold completionOutcome completedStatement asksForClosing
  rw [same]
  exact ⟨rfl, rfl⟩

/-- Until it is closed, letting the cursor go comes out as closing it, if that is still to do. -/
theorem Settled.release [DocumentCursor σ] (settled : rs.Settled)
    (opened : rs.position ≠ .closed) : rs.release.1 = rs.releaseOutcome := by
  -- Where a next row is looked for, the cursor is still held.
  have ready : rs.IsReady → rs.release.1 = (DocumentCursor.close rs.cursor).1 :=
    fun ready => (release_held rs (settled.held.mpr ready)).2
  unfold releaseOutcome
  cases position : rs.position with
  | beforeFirst => exact ready (.inl position)
  | onRow row => exact ready (.inr ⟨row, position⟩)
  | closed => exact absurd position opened
  | afterLast =>
    have gone : rs.released = true := settled.gone (not_ready (.inl position))
    rw [ResultSet.release, if_pos gone]

/-- Closed for the first time, a result set lets go of the cursor, and then closes its statement. -/
theorem close_first [DocumentCursor σ] [OwningStatement τ] (opened : rs.position ≠ .closed) :
    rs.close.1 = rs.release.1.bind (fun _ => rs.completionOutcome) ∧
      rs.close.2.position = .closed ∧ rs.close.2.statement = rs.completedStatement := by
  have isOpen : ¬ rs.isClosed = true := fun closed => opened (rs.isClosed_iff.mp closed)
  -- Letting go of the cursor neither looks at the position nor touches the statement.
  have released : { rs with rowState := .closed }.release =
      (rs.release.1, { rs.release.2 with rowState := .closed }) := by
    unfold ResultSet.release
    split <;> rfl
  have statement : { rs.release.2 with rowState := .closed }.statement = rs.statement :=
    congrArg (·.statement) (release_eq rs)
  obtain ⟨outcome, completed⟩ :=
    completeStatement_outcome { rs.release.2 with rowState := .closed }
  obtain ⟨sameOutcome, sameStatement⟩ := completion_congr statement
  rw [close, if_neg isOpen, released]
  dsimp only
  rw [outcome, completed, sameOutcome, sameStatement, completeStatement_eq]
  exact ⟨rfl, rfl, rfl⟩

variable [DocumentCursor σ] [HeaderProvider π]

/-- Moving on leaves the statement alone. -/
theorem next_statement (rs : ResultSet σ π τ) : rs.next.2.statement = rs.statement := by
  -- Only the cursor, the provider and the place take part in moving on.
  have advance := next_advance rs
  have taken := congrArg (·.statement) (takeDocument_eq rs)
  generalize rs.next = outcome at advance
  cases advance with
  | closed _ => rfl
  | past _ => rfl
  | failed _ takes =>
    rw [takes] at taken
    exact taken
  | exhausted _ takes =>
    -- Reaching the end lets go of the cursor alone.
    rw [takes] at taken
    rw [finish_eq, release_eq]
    exact taken
  | @entered doc after _ takes =>
    rw [takes] at taken
    have entering := enterRow_entering after doc
    generalize after.enterRow doc = outcome at entering
    cases entering <;> exact taken

/-- No call but closing touches the statement. -/
theorem perform_statement [Libraries] [OwningStatement τ] {call : Call} (notClose : call ≠ .close)
    (rs : ResultSet σ π τ) : (rs.perform call).2.statement = rs.statement := by
  -- Reading and asking leave the statement alone as well.
  have performed := performed call rs
  generalize (rs.perform call).2 = after at performed
  cases performed with
  | next => exact next_statement rs
  | close => exact absurd rfl notClose
  | other _ inert => cases inert <;> rfl

end Completing

section Happenings

/-- How often closing the statement was tried. -/
def closings (rs : ResultSet σ π (Watched τ)) : Nat :=
  rs.statement.elim 0 Watched.closings

/-- Let someone else change the statement. -/
def interfere (change : τ → τ) (rs : ResultSet σ π (Watched τ)) : ResultSet σ π (Watched τ) :=
  { rs with statement := rs.statement.map (Watched.interfere change) }

/-- A change of the statement by someone else is not counted. -/
theorem interfere_closings (change : τ → τ) (rs : ResultSet σ π (Watched τ)) :
    (rs.interfere change).closings = rs.closings := by
  unfold closings interfere
  -- Without a statement nothing can be changed.
  cases rs.statement <;> rfl

/-- Closed for the first time, a result set tries to close a statement that asks for it. -/
theorem close_closings [DocumentCursor σ] [OwningStatement τ] {rs : ResultSet σ π (Watched τ)}
    (opened : rs.position ≠ .closed) :
    rs.close.2.closings = rs.closings + if rs.asksForClosing then 1 else 0 := by
  unfold closings
  -- The count goes up where closing is tried.
  rw [(close_first opened).2.2, completedStatement]
  unfold asksForClosing
  cases rs.statement with
  | none => rfl
  | some watched =>
    -- The attempt is counted whatever comes of it.
    simp only [Option.any_some]
    split <;> rfl

variable [DocumentCursor σ] [HeaderProvider π] [OwningStatement τ]

/-- Go through some happenings. -/
def undergo [Libraries] : List (Happening τ) → ResultSet σ π (Watched τ) → ResultSet σ π (Watched τ)
  | [], rs => rs
  | .call call :: rest, rs => undergo rest (rs.perform call).2
  | .outside change :: rest, rs => undergo rest (rs.interfere change)

/-- The result set as the first call to close it finds it, if there is such a call. -/
def firstClosing? [Libraries] :
    List (Happening τ) → ResultSet σ π (Watched τ) → Option (ResultSet σ π (Watched τ))
  | [], _ => none
  | .call .close :: _, rs => some rs
  | .call call :: rest, rs => firstClosing? rest (rs.perform call).2
  | .outside change :: rest, rs => firstClosing? rest (rs.interfere change)

/-- What the first call to close a result set does. -/
structure ClosesFirst [Libraries] (rs : ResultSet σ π (Watched τ)) : Prop where
  closes : rs.close.2.position = .closed
  /-- Closing the statement was not tried before, and is tried now if the statement asks for it. -/
  tries : rs.closings = 0 ∧ rs.close.2.closings = if rs.asksForClosing then 1 else 0
  /-- A failure to close the cursor is told before anything else. -/
  unreleased : ∀ error, rs.releaseOutcome = .error error → rs.close.1 = .error error
  /-- Otherwise, what comes of closing the statement is told. -/
  released : rs.releaseOutcome = .ok () → rs.close.1 = rs.completionOutcome

/-- How a result set treats its statement in the course of some happenings. -/
structure Completes [Libraries] (happenings : List (Happening τ))
    (start : ResultSet σ π (Watched τ)) :
    Prop where
  /-- Closing is tried by the first call to close alone, if the statement asks for it then. -/
  closings : (undergo happenings start).closings =
    match firstClosing? happenings start with
    | some here => if here.asksForClosing then 1 else 0
    | none => 0
  /-- Dropping the result set does not touch the statement. -/
  dropped : (undergo happenings start).drop.statement = (undergo happenings start).statement
  first : ∀ here, firstClosing? happenings start = some here → here.ClosesFirst
  /-- After the first call to close, closing succeeds. -/
  again : ∀ here, firstClosing? happenings start = some here →
    (undergo happenings start).close.1 = .ok ()

/-- Every call but closing is passed over in the search for the first call to close. -/
theorem firstClosing?_call [Libraries] {call : Call} (notClose : call ≠ .close)
    (rest : List (Happening τ)) (rs : ResultSet σ π (Watched τ)) :
    firstClosing? (.call call :: rest) rs = firstClosing? rest (rs.perform call).2 := by
  -- The definition tells closing from all other calls.
  cases call with
  | close => exact absurd rfl notClose
  | _ => rfl

/-- Once closed, a result set stays so and does not touch the statement, whatever happens. -/
theorem undergo_closed [Libraries] (happenings : List (Happening τ))
    {rs : ResultSet σ π (Watched τ)} (closed : rs.position = .closed) :
    (undergo happenings rs).position = .closed ∧
      (undergo happenings rs).closings = rs.closings := by
  -- The induction is on the happenings, from whatever result set the first of them leaves.
  induction happenings generalizing rs with
  | nil => exact ⟨closed, rfl⟩
  | cons happening rest ih =>
    cases happening with
    | call call =>
      have same : (rs.perform call).2 = rs := congrArg Prod.snd (perform_closed closed call)
      rw [undergo, same]
      exact ih closed
    | outside change =>
      have untouched : (rs.interfere change).position = .closed := closed
      obtain ⟨stays, counted⟩ := ih untouched
      exact ⟨stays, counted.trans (interfere_closings change rs)⟩

/-- Until the first call to close nothing is counted, and from that call on nothing more is. -/
theorem undergo_cases [Libraries] (happenings : List (Happening τ)) {rs : ResultSet σ π (Watched τ)}
    (settled : rs.Settled) (opened : rs.position ≠ .closed) :
    firstClosing? happenings rs = none ∧ (undergo happenings rs).closings = rs.closings ∨
      ∃ here, firstClosing? happenings rs = some here ∧ here.Settled ∧
        here.position ≠ .closed ∧ here.closings = rs.closings ∧
        (undergo happenings rs).position = .closed ∧
        (undergo happenings rs).closings = here.close.2.closings := by
  -- The induction is on the happenings; what holds at any time is carried to the first closing.
  induction happenings generalizing rs with
  | nil => exact .inl ⟨rfl, rfl⟩
  | cons happening rest ih =>
    cases happening with
    | outside change =>
      -- Of what has to hold, nothing is about the statement.
      have kept : (rs.interfere change).Settled := settled.kept rfl rfl rfl rfl id
      have later := ih kept opened
      rw [interfere_closings] at later
      exact later
    | call call =>
      by_cases isClose : call = .close
      · -- This is the call that was looked for, and nothing is counted after it.
        subst isClose
        obtain ⟨stays, counted⟩ := undergo_closed rest (close_first opened).2.1
        exact .inr ⟨rs, rfl, settled, opened, rfl, stays, counted⟩
      · have still : (rs.perform call).2.position ≠ .closed := by
          rw [Ne, perform_closed_iff]
          exact not_or.mpr ⟨opened, isClose⟩
        have same : (rs.perform call).2.closings = rs.closings := by
          rw [ResultSet.closings, perform_statement isClose]
          rfl
        have later := ih (settled.perform call) still
        rw [same] at later
        rw [firstClosing?_call isClose]
        exact later

/-- A result set that is still open, and did not try to close its statement, treats it this way. -/
theorem Settled.completes [Libraries] {start : ResultSet σ π (Watched τ)} (settled : start.Settled)
    (opened : start.position ≠ .closed) (untried : start.closings = 0)
    (happenings : List (Happening τ)) : Completes happenings start := by
  have dropped : (undergo happenings start).drop.statement =
      (undergo happenings start).statement := by
    -- Dropping lets the cursor go, which does not touch the statement.
    show (undergo happenings start).release.2.statement = _
    rw [release_eq]
  obtain ⟨never, counted⟩ | ⟨here, first, settled, opened, before, closed, counted⟩ :=
    undergo_cases happenings settled opened
  · -- Without a call to close, nothing was tried.
    refine ⟨?_, dropped, ?_, ?_⟩
    · rw [never, counted, untried]
    · rw [never]
      nofun
    · rw [never]
      nofun
  · -- The first call to close finds nothing tried, and all that is counted is its own attempt.
    rw [untried] at before
    have tried := close_closings opened
    rw [before, Nat.zero_add] at tried
    obtain ⟨answer, closes, _⟩ := close_first opened
    rw [settled.release opened] at answer
    have closesFirst : here.ClosesFirst := by
      -- A failure of the cursor hides that of the statement, which was tried all the same.
      refine ⟨closes, ⟨before, tried⟩, ?_, ?_⟩
      · intro error failed
        rw [answer, failed]
        rfl
      · intro released
        rw [answer, released]
        rfl
    refine ⟨?_, dropped, ?_, ?_⟩
    · rw [first, counted, tried]
    · rw [first]
      rintro _ ⟨⟩
      exact closesFirst
    · intro _ _
      rw [close, if_pos ((isClosed_iff _).mpr closed)]

/-- Right after opening, nothing stands against any of this. -/
theorem openWith_completes [Libraries] {cursor : σ} {provider : π} {options : Options}
    {rs : ResultSet σ π (Watched τ)} (opened : openWith cursor provider options = .ok rs)
    (statement : τ) (happenings : List (Happening τ)) :
    Completes happenings { rs with statement := some { statement } } := by
  -- A statement may be attached to a fresh result set without harm.
  have attached : { rs with statement := some ({ statement } : Watched τ) }.Settled :=
    (openWith_settled opened).kept rfl rfl rfl rfl id
  have isOpen : rs.position ≠ .closed := by
    rw [(openWith_fresh opened).position]
    nofun
  exact attached.completes isOpen rfl happenings

/--
The statement is closed by the first call to close the result set, if it asks for that, or never.

This holds after any calls, mixed with any changes that others make to the statement, however the
cursor, the provider of columns and the statement fail, and however the result set was opened, over
a provider of columns or over data alone.
-/
theorem statement_closed_at_most_once [Libraries] (cursor : σ) (options : Options) (statement : τ)
    (happenings : List (Happening τ)) :
    (∀ (provider : π) (rs : ResultSet σ π (Watched τ)),
      openWith cursor provider options = .ok rs →
        Completes happenings { rs with statement := some { statement } }) ∧
    (∀ (opening : Opening) (rs : ResultSet σ HeaderSource (Watched τ)),
      opening.start cursor options = .ok rs →
        Completes happenings { rs with statement := some { statement } }) := by
  constructor
  · intro provider rs opened
    -- Both are opened over some provider in the end.
    exact openWith_completes opened statement happenings
  · intro opening rs opened
    obtain ⟨source, opened⟩ := Opening.start_ok opened
    exact openWith_completes opened statement happenings

/-- A statement that is told late to close along is closed once, though the cursor fails first. -/
theorem statement_closed_at_most_once_lost :
    let lost : Closing DocumentQueue :=
      { cursor := { documents := [[("n", .int 7)]] }, outcome := .error (.cursor "lost") }
    let happenings : List (Happening Statement) :=
      [.call .next, .outside Statement.closeOnCompletion, .call .close, .call .close]
    ∃ rs : ResultSet (Closing DocumentQueue) HeaderSource (Watched Statement),
      Opening.ofRows.start lost {} = .ok rs ∧
      (undergo happenings { rs with statement := some { statement := {} } }).statement =
        some { statement := { closed := true, closesOnCompletion := true }, closings := 1 } ∧
      Completes happenings { rs with statement := some { statement := {} } } := by
  intro lost happenings
  -- The cursor fails while the result set is closed for the first time.
  have completes := (statement_closed_at_most_once (π := HeaderSource) lost {} ({} : Statement)
    happenings).2 .ofRows
  exact ⟨_, rfl, rfl, completes _ rfl⟩

end Happenings

end ResultSet

end BsonTable
