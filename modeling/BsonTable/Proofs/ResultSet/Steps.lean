import BsonTable.Proofs.ResultSet.Position
import BsonTable.ResultSet.Call
import BsonTable.ResultSet.Opening

/-! What opening a result set and a single call on it can do. -/

namespace BsonTable

/-- A way to open a result set whose columns are found from data alone. -/
inductive Opening where
  | withSource (source : HeaderSource)
  | withSchema (schema : ResultSchema)
  | withReply (reply : Except Error Document)
  | ofRows
  | byStrategy (reply : Option (Except Error Document))

section Opening

variable {σ : Type u} {τ : Type w} [DocumentCursor σ]

/-- Open a result set over a cursor. -/
def Opening.start (opening : Opening) (cursor : σ) (options : Options) :
    Except (OpenFailure σ) (ResultSet σ HeaderSource τ) :=
  match opening with
  | .withSource source => ResultSet.openWith cursor source options
  | .withSchema schema => ResultSet.openSchema cursor schema options
  | .withReply reply => ResultSet.openReply cursor reply options
  | .ofRows => ResultSet.openRows cursor options
  | .byStrategy reply => ResultSet.openByStrategy cursor reply options

/-- A known schema is opened through the columns that it declares. -/
theorem openSchema_ok {cursor : σ} {schema : ResultSchema} {options : Options}
    {rs : ResultSet σ HeaderSource τ}
    (opened : ResultSet.openSchema cursor schema options = .ok rs) :
    ∃ source, ResultSet.openWith cursor source options = .ok rs := by
  -- A schema without columns opens nothing.
  unfold ResultSet.openSchema at opened
  split at opened
  · cases opened
  · exact ⟨_, opened⟩

/-- A reply is opened through the schema that it carries. -/
theorem openReply_ok {cursor : σ} {reply : Except Error Document} {options : Options}
    {rs : ResultSet σ HeaderSource τ}
    (opened : ResultSet.openReply cursor reply options = .ok rs) :
    ∃ source, ResultSet.openWith cursor source options = .ok rs := by
  -- The request may have failed, and its reply may be no schema.
  unfold ResultSet.openReply at opened
  split at opened
  · cases opened
  · split at opened
    · cases opened
    · exact openSchema_ok opened

/-- Every successful opening ends in opening with some source of columns. -/
theorem Opening.start_ok {opening : Opening} {cursor : σ} {options : Options}
    {rs : ResultSet σ HeaderSource τ} (opened : opening.start cursor options = .ok rs) :
    ∃ source, ResultSet.openWith cursor source options = .ok rs := by
  cases opening with
  | withSource source => exact ⟨source, opened⟩
  | withSchema schema => exact openSchema_ok opened
  | withReply reply => exact openReply_ok opened
  | ofRows => exact ⟨_, opened⟩
  | byStrategy reply =>
    unfold Opening.start ResultSet.openByStrategy at opened
    simp only at opened
    -- The options choose between the rows and the reply, and a missing reply opens nothing.
    split at opened
    · exact ⟨_, opened⟩
    · exact openReply_ok opened
    · cases opened

end Opening

namespace ResultSet

variable {σ : Type u} {π : Type v} {τ : Type w}

/-- A result set as it is right after opening it over a cursor. -/
structure Fresh [DocumentCursor σ] (cursor : σ) (options : Options) (rs : ResultSet σ π τ) :
    Prop where
  mode : rs.mode = options.mode
  position : rs.position = .beforeFirst
  held : rs.released = false
  /-- At most one document was asked for. -/
  fetched : ∃ strategy, rs.cursor = (prefetch strategy cursor).2

/-- Opening over a provider of columns leaves a fresh result set. -/
theorem openWith_fresh [DocumentCursor σ] [HeaderProvider π] {cursor : σ} {provider : π}
    {options : Options} {rs : ResultSet σ π τ}
    (opened : openWith cursor provider options = .ok rs) : rs.Fresh cursor options := by
  -- Opening fails where the first document cannot be fetched, or its columns are not described.
  unfold openWith at opened
  split at opened
  · cases opened
  · rename_i fetched
    split at opened
    · cases opened
    · cases opened
      exact ⟨rfl, rfl, rfl, HeaderProvider.strategy provider, (congrArg Prod.snd fetched).symm⟩

/-- The first columns are those that the provider describes, and no read is remembered yet. -/
theorem openWith_described [DocumentCursor σ] [HeaderProvider π] {cursor : σ} {provider : π}
    {options : Options} {rs : ResultSet σ π τ}
    (opened : openWith cursor provider options = .ok rs) :
    (∃ row, HeaderProvider.describe row provider = (.ok rs.header, rs.provider)) ∧
      rs.lastReadNull = false := by
  -- As before, where what matters is what was described.
  unfold openWith at opened
  split at opened
  · cases opened
  · split at opened
    · cases opened
    · rename_i described
      cases opened
      exact ⟨⟨_, described⟩, rfl⟩

end ResultSet

/-- Every way to open a result set leaves a fresh one. -/
theorem Opening.start_fresh {σ : Type u} {τ : Type w} [DocumentCursor σ] {opening : Opening}
    {cursor : σ} {options : Options} {rs : ResultSet σ HeaderSource τ}
    (opened : opening.start cursor options = .ok rs) : rs.Fresh cursor options := by
  obtain ⟨source, opened⟩ := start_ok opened
  exact ResultSet.openWith_fresh opened

namespace ResultSet

variable {σ : Type u} {π : Type v} {τ : Type w}

/-- Whether the position is one from which a next row is looked for. -/
def IsReady (rs : ResultSet σ π τ) : Prop :=
  -- What is behind the last row or closed has no next row.
  rs.position = .beforeFirst ∨ ∃ row, rs.position = .onRow row

/-- Behind the last row, and once closed, no next row is looked for. -/
theorem not_ready {rs : ResultSet σ π τ}
    (ended : rs.position = .afterLast ∨ rs.position = .closed) : ¬ rs.IsReady := by
  unfold IsReady
  rcases ended with position | position <;> rw [position] <;>
    exact not_or.mpr ⟨nofun, nofun⟩

/-- Everything that going to the next row can do. -/
inductive Advance [DocumentCursor σ] [HeaderProvider π] (rs : ResultSet σ π τ) :
    Except Error Bool × ResultSet σ π τ → Prop
  | closed (closed : rs.position = .closed) : Advance rs (.error .resultSetClosed, rs)
  | past (past : rs.position = .afterLast) : Advance rs (.ok false, rs)
  | failed {error : Error} {after : ResultSet σ π τ} (ready : rs.IsReady)
      (taken : rs.takeDocument = (.error error, after)) : Advance rs (.error error, after)
  | exhausted {after : ResultSet σ π τ} (ready : rs.IsReady)
      (taken : rs.takeDocument = (.ok none, after)) : Advance rs after.finish
  | entered {doc : Document} {after : ResultSet σ π τ} (ready : rs.IsReady)
      (taken : rs.takeDocument = (.ok (some doc), after)) : Advance rs (after.enterRow doc)

/-- Going to the next row does one of these things. -/
theorem next_advance [DocumentCursor σ] [HeaderProvider π] (rs : ResultSet σ π τ) :
    Advance rs rs.next := by
  -- Before the first row and on any row, the document that is taken decides.
  have ready : rs.IsReady → Advance rs rs.advance := by
    intro ready
    unfold advance
    split
    · exact .failed ready ‹_›
    · exact .exhausted ready ‹_›
    · exact .entered ready ‹_›
  rw [next_eq]
  cases position : rs.position with
  | closed => exact .closed position
  | afterLast => exact .past position
  | beforeFirst => exact ready (.inl position)
  | onRow row => exact ready (.inr ⟨row, position⟩)

/-- Before the first row and on any row, the next one is looked for. -/
theorem IsReady.next_eq [DocumentCursor σ] [HeaderProvider π] {rs : ResultSet σ π τ}
    (ready : rs.IsReady) : rs.next = rs.advance := by
  rw [rs.next_eq]
  rcases ready with position | ⟨row, position⟩ <;> rw [position]

/-- Everything that taking a document can do. -/
theorem takeDocument_cases [DocumentCursor σ] (rs : ResultSet σ π τ) :
    (∃ doc, rs.pending = some doc ∧
      rs.takeDocument = (.ok (some doc), { rs with pending := none })) ∨
    rs.pending = none ∧ rs.released = true ∧ rs.takeDocument = (.ok none, rs) ∨
    rs.pending = none ∧ rs.released = false ∧
      rs.takeDocument = ((DocumentCursor.next rs.cursor).1,
        { rs with cursor := (DocumentCursor.next rs.cursor).2 }) := by
  -- A document that was fetched ahead comes first, and then the cursor is asked if it is held.
  unfold takeDocument
  cases pending : rs.pending with
  | some doc => exact .inl ⟨doc, rfl, rfl⟩
  | none =>
    cases released : rs.released with
    | true => exact .inr (.inl ⟨rfl, rfl, rfl⟩)
    | false => exact .inr (.inr ⟨rfl, rfl, rfl⟩)

/-- While the cursor is held, a document is the one fetched ahead or what the cursor answers. -/
theorem takeDocument_held [DocumentCursor σ] {rs : ResultSet σ π τ} (held : rs.released = false) :
    (∃ doc, rs.pending = some doc ∧
      rs.takeDocument = (.ok (some doc), { rs with pending := none })) ∨
    rs.pending = none ∧ rs.takeDocument = ((DocumentCursor.next rs.cursor).1,
      { rs with cursor := (DocumentCursor.next rs.cursor).2 }) := by
  -- The case in between is that of a cursor that is gone.
  rcases takeDocument_cases rs with ahead | ⟨_, released, _⟩ | ⟨pending, _, does⟩
  · exact .inl ahead
  · rw [held] at released
    cases released
  · exact .inr ⟨pending, does⟩

/-- Letting the cursor go changes nothing but the cursor and what was fetched ahead. -/
theorem release_eq [DocumentCursor σ] (rs : ResultSet σ π τ) :
    rs.release.2 =
      { rs with pending := none, cursor := rs.release.2.cursor, released := true } := by
  -- A cursor that is gone is not closed again, and the other fields are set to what they are.
  unfold release
  cases released : rs.released with
  | true => rfl
  | false => rfl

/-- Where the result set stands is not changed by letting the cursor go. -/
theorem release_keeps [DocumentCursor σ] (rs : ResultSet σ π τ) :
    rs.release.2.provider = rs.provider ∧ rs.release.2.header = rs.header ∧
      rs.release.2.position = rs.position ∧ rs.release.2.rowCount = rs.rowCount := by
  rw [release_eq]
  exact ⟨rfl, rfl, rfl, rfl⟩

/-- Once let go of, the cursor is no longer held. -/
theorem release_released [DocumentCursor σ] (rs : ResultSet σ π τ) :
    rs.release.2.released = true := by
  rw [release_eq]

/-- A cursor that is held is closed by letting go of it. -/
theorem release_held [DocumentCursor σ] (rs : ResultSet σ π τ) (held : rs.released = false) :
    rs.release.2.cursor = (DocumentCursor.close rs.cursor).2 ∧
      rs.release.1 = (DocumentCursor.close rs.cursor).1 := by
  simp [release, held]

/-- Only the cursor can keep from being let go of. -/
theorem release_fails [DocumentCursor σ] {rs : ResultSet σ π τ} {error : Error}
    (failed : rs.release.1 = .error error) : (DocumentCursor.close rs.cursor).1 = .error error := by
  -- Nothing fails where the cursor is gone.
  unfold release at failed
  split at failed
  · cases failed
  · exact failed

/-- Completing the statement changes nothing but the statement. -/
theorem completeStatement_eq [OwningStatement τ] (rs : ResultSet σ π τ) :
    rs.completeStatement.2 = { rs with statement := rs.completeStatement.2.statement } := by
  -- Either there is no statement, or it is left alone, or it is closed.
  unfold completeStatement
  split
  · rfl
  · split <;> rfl

/-- Reading a column changes nothing but what is remembered about missing values. -/
theorem read_eq [Libraries] (rs : ResultSet σ π τ) (ref : ColumnAddress) (target : Target) :
    (rs.read ref target).2 = { rs with lastReadNull := (rs.read ref target).2.lastReadNull } := by
  -- A read that fails is not remembered.
  unfold read
  split
  · rfl
  · split <;> rfl

/-- What a call can change that neither moves on nor closes. -/
inductive Inert [DocumentCursor σ] (rs : ResultSet σ π τ) : ResultSet σ π τ → Prop
  /-- A read is remembered, or nothing changes. -/
  | remembers (lastReadNull : Bool) : Inert rs { rs with lastReadNull }
  /-- A cursor that is still held is asked for more. -/
  | asks (held : rs.released = false) :
      Inert rs { rs with cursor := (DocumentCursor.hasNext rs.cursor).2 }

/-- Nothing changes. -/
theorem Inert.same [DocumentCursor σ] (rs : ResultSet σ π τ) : Inert rs rs :=
  .remembers rs.lastReadNull

/-- Asking for more rows at most asks the cursor. -/
theorem hasMore_inert [DocumentCursor σ] (rs : ResultSet σ π τ) : Inert rs rs.hasMore.2 := by
  -- Without a document at hand, a cursor that is held is asked.
  unfold hasMore
  split
  · exact .same rs
  · split
    · exact .same rs
    · rename_i held
      exact .asks (by simpa using held)

/-- A call other than moving on and closing changes at most one thing. -/
theorem perform_inert [Libraries] [DocumentCursor σ] [HeaderProvider π] [OwningStatement τ]
    {call : Call} (notNext : call ≠ .next) (notClose : call ≠ .close) (rs : ResultSet σ π τ) :
    Inert rs (rs.perform call).2 := by
  cases call with
  | next => exact (notNext rfl).elim
  | close => exact (notClose rfl).elim
  | isLast =>
    show Inert rs rs.isLast.2
    unfold isLast
    split
    · exact .same rs
    · exact hasMore_inert rs
  | isBeforeFirst =>
    show Inert rs rs.isBeforeFirst.2
    rw [isBeforeFirst_eq]
    split
    · exact .same rs
    · exact hasMore_inert rs
    · exact .same rs
    · exact .same rs
  | read ref target =>
    show Inert rs (rs.read ref target).2
    rw [read_eq]
    exact .remembers _
  | _ => exact .same rs

/-- Everything that a call can leave behind. -/
inductive Performed [DocumentCursor σ] [HeaderProvider π] [OwningStatement τ]
    (rs : ResultSet σ π τ) : Call → ResultSet σ π τ → Prop
  | next : Performed rs .next rs.next.2
  | close : Performed rs .close rs.close.2
  | other {call : Call} {after : ResultSet σ π τ} (notNext : call ≠ .next)
      (inert : Inert rs after) : Performed rs call after

/-- A call moves on, closes, or changes at most one thing. -/
theorem performed [Libraries] [DocumentCursor σ] [HeaderProvider π] [OwningStatement τ]
    (call : Call) (rs : ResultSet σ π τ) : Performed rs call (rs.perform call).2 := by
  -- Moving on and closing are set apart, and all other calls are inert.
  by_cases isNext : call = .next
  · subst isNext
    exact .next
  by_cases isClose : call = .close
  · subst isClose
    exact .close
  exact .other isNext (perform_inert isNext isClose rs)

/-- An open result set gives the answers that only an open one gives. -/
theorem whenOpen_of_open {α : Type x} {rs : ResultSet σ π τ} (opened : rs.position ≠ .closed)
    (answer : Except Error α) : rs.whenOpen answer = answer := by
  rw [whenOpen, if_neg (Bool.not_eq_true _ ▸ isClosed_of_open opened)]

/-- What is told of an open result set alone depends on the position apart from the answer. -/
theorem whenOpen_congr {α : Type x} {σ' : Type u'} {π' : Type v'} {τ' : Type w'}
    {rs : ResultSet σ π τ} {other : ResultSet σ' π' τ'} (position : rs.position = other.position)
    (answer : Except Error α) : rs.whenOpen answer = other.whenOpen answer := by
  -- Both are closed together, since their positions are the same.
  unfold whenOpen isClosed state
  rw [rowState_congr position]

/-- Until it is closed, a result set is at its last row when no more is to come. -/
theorem isLast_of_open [DocumentCursor σ] {rs : ResultSet σ π τ} (opened : rs.position ≠ .closed) :
    rs.isLast.1 = rs.hasMore.1.map not := by
  rw [isLast, if_neg (Bool.not_eq_true _ ▸ isClosed_of_open opened)]

/-- Closing changes nothing when done before, and else lets go of the cursor for good. -/
theorem close_cases [DocumentCursor σ] [OwningStatement τ] (rs : ResultSet σ π τ) :
    rs.position = .closed ∧ rs.close.2 = rs ∨
      rs.position ≠ .closed ∧ ∃ statement, rs.close.2 =
        { rs.release.2 with rowState := .closed, statement } := by
  unfold close
  cases closed : rs.isClosed with
  | true => exact .inl ⟨rs.isClosed_iff.mp closed, rfl⟩
  | false =>
    have opened : rs.position ≠ .closed := by
      intro position
      rw [rs.isClosed_iff.mpr position] at closed
      cases closed
    refine .inr ⟨opened, ?_⟩
    -- Neither letting go of the cursor nor closing the statement looks at the position.
    have released : { rs with rowState := .closed }.release.2 =
        { rs.release.2 with rowState := .closed } := by
      unfold release
      split <;> rfl
    refine ⟨{ rs with rowState := .closed }.release.2.completeStatement.2.statement, ?_⟩
    show { rs with rowState := .closed }.release.2.completeStatement.2 = _
    rw [completeStatement_eq, released]

/-- Behind the last row a result set stays there until it is closed, and closed it stays. -/
theorem perform_stays [Libraries] [DocumentCursor σ] [HeaderProvider π] [OwningStatement τ]
    {call : Call} {rs : ResultSet σ π τ}
    (ended : rs.position = .closed ∨ rs.position = .afterLast ∧ call ≠ .close) :
    (rs.perform call).2.position = rs.position := by
  have performed := performed call rs
  generalize (rs.perform call).2 = after at performed
  cases performed with
  | next =>
    rw [next_eq]
    rcases ended with position | ⟨position, _⟩ <;> rw [position] <;> exact position
  | close =>
    -- Closing is only one of the calls when it was done before.
    have closed : rs.position = .closed := ended.resolve_right fun ⟨_, other⟩ => other rfl
    rcases close_cases rs with ⟨_, same⟩ | ⟨opened, _⟩
    · exact congrArg ResultSet.position same
    · exact absurd closed opened
  | other _ inert => cases inert <;> rfl

/-- Whether an answer tells that a row was delivered. -/
def delivers : Call → Except Error Answer → Bool
  | .next, .ok (.flag true) => true
  | _, _ => false

/-- Only moving on delivers rows. -/
theorem delivers_of_not_next {call : Call} (notNext : call ≠ .next)
    (answer : Except Error Answer) : delivers call answer = false := by
  cases call with
  | next => exact (notNext rfl).elim
  | _ => rfl

/-- The number of rows that calls delivered, by their answers. -/
def deliveries (calls : List Call) (answers : List (Except Error Answer)) : Nat :=
  (calls.zip answers).countP fun step => delivers step.1 step.2

/-- Reaching the end lets the cursor go, and answers false unless that fails. -/
theorem finish_eq [DocumentCursor σ] (rs : ResultSet σ π τ) :
    rs.finish =
      (rs.release.1.map fun _ => false,
        { rs.release.2 with rowState := .afterLast }) := by
  -- Letting go of the cursor does not look at the position.
  cases released : rs.released <;> simp [finish, release, released]

/-- At the end there is no next row. -/
theorem finish_ok [DocumentCursor σ] {rs : ResultSet σ π τ} {more : Bool}
    (answer : rs.finish.1 = .ok more) : more = false := by
  -- Both outcomes of closing the cursor lead to the end.
  rw [finish_eq] at answer
  dsimp only at answer
  cases released : rs.release.1 with
  | error error =>
    rw [released] at answer
    cases answer
  | ok _ =>
    rw [released] at answer
    cases answer
    rfl

/-- Reaching the end fails only as closing the cursor does. -/
theorem finish_fails [DocumentCursor σ] {rs : ResultSet σ π τ} {error : Error}
    (answer : rs.finish.1 = .error error) : (DocumentCursor.close rs.cursor).1 = .error error := by
  rw [finish_eq] at answer
  dsimp only at answer
  cases released : rs.release.1 with
  | error failure =>
    rw [released] at answer
    cases answer
    exact release_fails released
  | ok _ =>
    rw [released] at answer
    cases answer

/-- Taking a document changes nothing but the cursor and what was fetched ahead. -/
theorem takeDocument_eq [DocumentCursor σ] (rs : ResultSet σ π τ) :
    rs.takeDocument.2 = { rs with
      pending := rs.takeDocument.2.pending, cursor := rs.takeDocument.2.cursor } := by
  -- In each of the three cases only these two fields are new.
  obtain ⟨doc, _, taken⟩ | ⟨_, _, taken⟩ | ⟨_, _, taken⟩ := takeDocument_cases rs <;>
    simp only [taken]

/-- Where the result set stands is not changed by taking a document. -/
theorem takeDocument_keeps [DocumentCursor σ] {rs after : ResultSet σ π τ}
    {result : Except Error (Option Document)} (taken : rs.takeDocument = (result, after)) :
    after.provider = rs.provider ∧ after.header = rs.header ∧ after.position = rs.position ∧
      after.rowCount = rs.rowCount := by
  have same := takeDocument_eq rs
  rw [taken] at same
  dsimp only at same
  rw [same]
  exact ⟨rfl, rfl, rfl, rfl⟩

/-- Where a next row is looked for, it still is after a document was taken. -/
theorem IsReady.taken [DocumentCursor σ] {rs after : ResultSet σ π τ} (ready : rs.IsReady)
    {result : Except Error (Option Document)} (taken : rs.takeDocument = (result, after)) :
    after.IsReady := by
  -- The position is kept, and readiness depends on it alone.
  unfold IsReady
  rw [(takeDocument_keeps taken).2.2.1]
  exact ready

/-- Taking a document does not let go of the cursor. -/
theorem takeDocument_released [DocumentCursor σ] {rs after : ResultSet σ π τ}
    {result : Except Error (Option Document)} (taken : rs.takeDocument = (result, after)) :
    after.released = rs.released := by
  have same := takeDocument_eq rs
  rw [taken] at same
  exact congrArg (·.released) same

/-- Everything that entering the row of a document can do. -/
inductive Entering [HeaderProvider π] (rs : ResultSet σ π τ) (doc : Document) :
    Except Error Bool × ResultSet σ π τ → Prop
  | known (strategy : HeaderProvider.strategy rs.provider = .schemaKnown) :
      Entering rs doc (.ok true, rs.standOn rs.header doc)
  | described {header : Header} {provider : π}
      (strategy : HeaderProvider.strategy rs.provider = .rowDerived)
      (answer : HeaderProvider.describe (some doc) rs.provider = (.ok header, provider)) :
      Entering rs doc (.ok true, { rs with provider }.standOn header doc)
  | undescribed {error : Error} {provider : π}
      (strategy : HeaderProvider.strategy rs.provider = .rowDerived)
      (answer : HeaderProvider.describe (some doc) rs.provider = (.error error, provider)) :
      Entering rs doc (.error error, { rs with provider })

/-- Entering a row does one of these things. -/
theorem enterRow_entering [HeaderProvider π] (rs : ResultSet σ π τ) (doc : Document) :
    Entering rs doc (rs.enterRow doc) := by
  -- The strategy decides whether columns are looked for, and then whether they are found.
  unfold enterRow
  split
  · exact .known ‹_›
  · -- Only columns that are described for each row can fail to be.
    split
    · exact .undescribed ‹_› ‹_›
    · exact .described ‹_› ‹_›

/-- A row that is entered is that of the document, under the columns that are shown from then on. -/
theorem enterRow_ok [HeaderProvider π] {rs : ResultSet σ π τ} {doc : Document} {more : Bool}
    (answer : (rs.enterRow doc).1 = .ok more) :
    more = true ∧
      (rs.enterRow doc).2.position = .onRow (.ofDocument (rs.enterRow doc).2.header doc) := by
  -- The row is entered under columns that were known or described.
  have entering := enterRow_entering rs doc
  generalize rs.enterRow doc = outcome at entering answer ⊢
  cases entering with
  | known _ =>
    cases answer
    exact ⟨rfl, rfl⟩
  | described _ _ =>
    cases answer
    exact ⟨rfl, rfl⟩
  | undescribed _ _ => cases answer

/-- A row is not entered only when its columns are not described. -/
theorem enterRow_fails [HeaderProvider π] {rs : ResultSet σ π τ} {doc : Document} {error : Error}
    (answer : (rs.enterRow doc).1 = .error error) :
    HeaderProvider.strategy rs.provider = .rowDerived ∧
      (HeaderProvider.describe (some doc) rs.provider).1 = .error error := by
  -- Only the third way to enter a row fails.
  have entering := enterRow_entering rs doc
  generalize rs.enterRow doc = outcome at entering answer
  cases entering with
  | known _ => cases answer
  | described _ _ => cases answer
  | undescribed strategy described =>
    cases answer
    exact ⟨strategy, congrArg Prod.fst described⟩

/-- Where the columns of a row are not described, nothing but their provider changes. -/
theorem enterRow_undescribed [HeaderProvider π] {rs : ResultSet σ π τ} {doc : Document}
    {error : Error} (strategy : HeaderProvider.strategy rs.provider = .rowDerived)
    (answer : (HeaderProvider.describe (some doc) rs.provider).1 = .error error) :
    ∃ provider, rs.enterRow doc = (.error error, { rs with provider }) := by
  -- Known columns need no description, and a description that fails is not one that succeeds.
  have entering := enterRow_entering rs doc
  generalize rs.enterRow doc = outcome at entering
  cases entering with
  | known known =>
    rw [strategy] at known
    cases known
  | described _ described =>
    rw [described] at answer
    cases answer
  | undescribed _ undescribed =>
    rw [undescribed] at answer
    cases answer
    exact ⟨_, rfl⟩

/-- Entering a row does not let go of the cursor. -/
theorem enterRow_released [HeaderProvider π] (rs : ResultSet σ π τ) (doc : Document) :
    (rs.enterRow doc).2.released = rs.released := by
  have entering := enterRow_entering rs doc
  generalize rs.enterRow doc = outcome at entering
  cases entering <;> rfl

/-- Entering a row either fails, or delivers it and counts it. -/
theorem enterRow_rowCount [HeaderProvider π] (rs : ResultSet σ π τ) (doc : Document) :
    (rs.enterRow doc).1 = .ok true ∧ (rs.enterRow doc).2.rowCount = rs.rowCount + 1 ∨
      (∃ error, (rs.enterRow doc).1 = .error error) ∧
        (rs.enterRow doc).2.rowCount = rs.rowCount := by
  -- The row is counted where it becomes the current one.
  have entering := enterRow_entering rs doc
  generalize rs.enterRow doc = outcome at entering
  cases entering with
  | known _ => exact .inl ⟨rfl, rfl⟩
  | described _ _ => exact .inl ⟨rfl, rfl⟩
  | undescribed _ _ => exact .inr ⟨⟨_, rfl⟩, rfl⟩

/-- Moving on counts a row exactly when it delivers one. -/
theorem next_rowCount [DocumentCursor σ] [HeaderProvider π] (rs : ResultSet σ π τ) :
    rs.next.2.rowCount =
      rs.rowCount + if delivers .next (rs.next.1.map .flag) then 1 else 0 := by
  -- Of all that moving on can do, only entering a row counts one.
  have advance := next_advance rs
  generalize rs.next = outcome at advance
  cases advance with
  | closed => rfl
  | past => rfl
  | failed ready taken => exact (takeDocument_keeps taken).2.2.2
  | @exhausted after ready taken =>
    have silent : delivers .next ((after.release.1.map fun _ => false).map .flag) = false := by
      cases after.release.1 <;> rfl
    have kept := (takeDocument_keeps taken).2.2.2
    rw [finish_eq, silent]
    exact (release_keeps after).2.2.2.trans kept
  | @entered doc after ready taken =>
    have kept := (takeDocument_keeps taken).2.2.2
    obtain ⟨delivered, counted⟩ | ⟨⟨error, failed⟩, counted⟩ := enterRow_rowCount after doc
    · rw [delivered, counted, kept]
      rfl
    · rw [failed, counted, kept]
      rfl

/-- The row count goes up exactly when a call delivers a row. -/
theorem perform_rowCount [Libraries] [DocumentCursor σ] [HeaderProvider π] [OwningStatement τ]
    (call : Call) (rs : ResultSet σ π τ) :
    (rs.perform call).2.rowCount =
      rs.rowCount + if delivers call (rs.perform call).1 then 1 else 0 := by
  have performed := performed call rs
  -- A call moves on, closes, or is inert.
  generalize (rs.perform call).2 = after at performed ⊢
  cases performed with
  | next => exact next_rowCount rs
  -- No other call tells of a row, and none of them counts one.
  | close =>
    have notNext : Call.close ≠ .next := nofun
    rw [delivers_of_not_next notNext]
    obtain ⟨_, same⟩ | ⟨_, statement, same⟩ := close_cases rs
    · rw [same]
      rfl
    · rw [same]
      exact (release_keeps rs).2.2.2
  | other notNext inert =>
    rw [delivers_of_not_next notNext]
    cases inert <;> rfl

/-- The row count is the number of rows that were delivered. -/
theorem run_rowCount [Libraries] [DocumentCursor σ] [HeaderProvider π] [OwningStatement τ]
    (calls : List Call) (rs : ResultSet σ π τ) :
    (run calls rs).2.rowCount = rs.rowCount + deliveries calls (run calls rs).1 := by
  induction calls generalizing rs with
  | nil => rfl
  | cons call rest ih =>
    show (run rest (rs.perform call).2).2.rowCount = _
    -- The first call is counted apart from the rest.
    have split : deliveries (call :: rest) (run (call :: rest) rs).1 =
        deliveries rest (run rest (rs.perform call).2).1 +
          if delivers call (rs.perform call).1 then 1 else 0 := List.countP_cons ..
    rw [ih, perform_rowCount, split]
    omega

/-- Whatever each of its calls keeps, a run keeps. -/
theorem run_preserves [Libraries] [DocumentCursor σ] [HeaderProvider π] [OwningStatement τ]
    {kept : ResultSet σ π τ → Prop} (calls : List Call) {rs : ResultSet σ π τ}
    (step : ∀ call ∈ calls, ∀ rs, kept rs → kept (rs.perform call).2) (start : kept rs) :
    kept (run calls rs).2 := by
  -- The induction is on the calls, from whatever result set the first of them leaves.
  induction calls generalizing rs with
  | nil => exact start
  | cons call rest ih =>
    have first := step call List.mem_cons_self rs start
    exact ih (fun other among => step other (List.mem_cons_of_mem call among)) first

end ResultSet

end BsonTable
