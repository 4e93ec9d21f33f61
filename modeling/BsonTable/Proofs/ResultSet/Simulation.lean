import BsonTable.Proofs.ResultSet.Steps

/-! Result sets over a cursor and over its image: the same calls lead to the same places. -/

namespace BsonTable

section Images

variable {σ : Type u} {σ' : Type u'} [DocumentCursor σ] [DocumentCursor σ']

/-- A map between cursors that every use respects; only the answer to closing is left open. -/
structure Respects (image : σ → σ') : Prop where
  hasNext (cursor : σ) : DocumentCursor.hasNext (image cursor) =
    ((DocumentCursor.hasNext cursor).1, image (DocumentCursor.hasNext cursor).2)
  next (cursor : σ) : DocumentCursor.next (image cursor) =
    ((DocumentCursor.next cursor).1, image (DocumentCursor.next cursor).2)
  close (cursor : σ) :
    (DocumentCursor.close (image cursor)).2 = image (DocumentCursor.close cursor).2

/-- Whether closing answers the same on both sides. -/
def ClosesAlike (image : σ → σ') : Prop :=
  ∀ cursor, (DocumentCursor.close (image cursor)).1 = (DocumentCursor.close cursor).1

/-- A cursor is an image of itself. -/
theorem respects_id : Respects (id : σ → σ) :=
  ⟨fun _ => rfl, fun _ => rfl, fun _ => rfl⟩

/-- A cursor closes as it does. -/
theorem closesAlike_id : ClosesAlike (id : σ → σ) :=
  fun _ => rfl

end Images

/-- Whether the answer to a call depends on the mode or on earlier reads. -/
def Call.isModal : Call → Bool
  | .wasNull | .mode | .summary | .read _ _ => true
  | _ => false

namespace ResultSet

variable {σ : Type u} {σ' : Type u'} {π : Type v} {τ : Type w}

/-- The result set over the image of its cursor, with a mode and a memory of reads of its own. -/
def through (image : σ → σ') (mode : ConversionMode) (lastReadNull : Bool)
    (rs : ResultSet σ π τ) : ResultSet σ' π τ :=
  { rs with cursor := image rs.cursor, mode, lastReadNull }

/-- The result set over the image of its cursor, in everything else as it is. -/
def viewed (image : σ → σ') (rs : ResultSet σ π τ) : ResultSet σ' π τ :=
  rs.through image rs.mode rs.lastReadNull

variable {image : σ → σ'} (mode : ConversionMode) (lastReadNull : Bool)

/-- Entering a row looks at none of what differs. -/
theorem enterRow_through [HeaderProvider π] (rs : ResultSet σ π τ) (doc : Document) :
    (rs.through image mode lastReadNull).enterRow doc =
      ((rs.enterRow doc).1, (rs.enterRow doc).2.through image mode lastReadNull) := by
  have provider : (rs.through image mode lastReadNull).provider = rs.provider := rfl
  unfold enterRow
  rw [provider]
  cases HeaderProvider.strategy rs.provider with
  | schemaKnown => rfl
  | rowDerived =>
    -- The columns are described from the document, which is the same on both sides.
    dsimp only
    split <;> rfl

/-- Closing the statement looks at none of what differs. -/
theorem completeStatement_through [OwningStatement τ] (rs : ResultSet σ π τ) :
    (rs.through image mode lastReadNull).completeStatement =
      (rs.completeStatement.1, rs.completeStatement.2.through image mode lastReadNull) := by
  have statement : (rs.through image mode lastReadNull).statement = rs.statement := rfl
  unfold completeStatement
  rw [statement]
  cases rs.statement with
  | none => rfl
  | some statement =>
    -- Whether the statement is closed along is for the statement to tell.
    dsimp only
    split <;> rfl

/-- Reading looks at the mode, but at no cursor. -/
theorem read_viewed [Libraries] (rs : ResultSet σ π τ) (ref : ColumnAddress) (target : Target) :
    (rs.viewed image).read ref target =
      ((rs.read ref target).1, (rs.read ref target).2.viewed image) := by
  have located : (rs.viewed image).locate ref = rs.locate ref := rfl
  have mode : (rs.viewed image).mode = rs.mode := rfl
  -- The value is located without the cursor, and then read in the same mode.
  unfold read
  rw [located, mode]
  split
  · rfl
  · split <;> rfl

variable [DocumentCursor σ] [DocumentCursor σ']

/-- The cursor and its image are let go of together. -/
theorem release_through (respects : Respects image) (rs : ResultSet σ π τ) :
    (rs.through image mode lastReadNull).release.2 =
        rs.release.2.through image mode lastReadNull ∧
      (ClosesAlike image ∨ rs.released = true →
        (rs.through image mode lastReadNull).release.1 = rs.release.1) := by
  have released : (rs.through image mode lastReadNull).released = rs.released := rfl
  have cursor : (rs.through image mode lastReadNull).cursor = image rs.cursor := rfl
  -- A cursor that was let go of before is not closed again on either side.
  unfold release
  rw [released, cursor]
  cases rs.released with
  | true => exact ⟨rfl, fun _ => rfl⟩
  | false =>
    -- Only here is the answer to closing told, so only here it has to be alike.
    simp only [Bool.false_eq_true, if_false, respects.close]
    refine ⟨rfl, ?_⟩
    intro kept
    exact kept.elim (fun alike => alike rs.cursor) nofun

/-- The cursor and its image hand over the same document. -/
theorem takeDocument_through (respects : Respects image) (rs : ResultSet σ π τ) :
    (rs.through image mode lastReadNull).takeDocument =
      (rs.takeDocument.1, rs.takeDocument.2.through image mode lastReadNull) := by
  have pending : (rs.through image mode lastReadNull).pending = rs.pending := rfl
  have released : (rs.through image mode lastReadNull).released = rs.released := rfl
  have cursor : (rs.through image mode lastReadNull).cursor = image rs.cursor := rfl
  unfold takeDocument
  rw [pending, released, cursor, respects.next]
  -- The cursor is asked only when nothing was fetched ahead and it is still held.
  cases rs.pending with
  | some doc => rfl
  | none => cases rs.released <;> rfl

/-- The cursor and its image tell alike whether more is to come. -/
theorem hasMore_through (respects : Respects image) (rs : ResultSet σ π τ) :
    (rs.through image mode lastReadNull).hasMore =
      (rs.hasMore.1, rs.hasMore.2.through image mode lastReadNull) := by
  have pending : (rs.through image mode lastReadNull).pending = rs.pending := rfl
  have released : (rs.through image mode lastReadNull).released = rs.released := rfl
  have cursor : (rs.through image mode lastReadNull).cursor = image rs.cursor := rfl
  unfold hasMore
  rw [pending, released, cursor, respects.hasNext]
  -- As for a document, the cursor is asked only when it has to be.
  cases rs.pending.isSome with
  | true => rfl
  | false => cases rs.released <;> rfl

/-- Both sides stand behind the last row together. -/
theorem finish_through (respects : Respects image) (rs : ResultSet σ π τ) :
    (rs.through image mode lastReadNull).finish.2 = rs.finish.2.through image mode lastReadNull ∧
      (ClosesAlike image ∨ rs.released = true →
        (rs.through image mode lastReadNull).finish.1 = rs.finish.1) := by
  obtain ⟨same, answers⟩ := release_through mode lastReadNull respects rs
  rw [finish_eq, finish_eq, same]
  refine ⟨rfl, ?_⟩
  intro kept
  rw [answers kept]

/-- Behind the last row, the cursor is let go of. -/
theorem finish_released (rs : ResultSet σ π τ) : rs.finish.2.released = true := by
  rw [finish_eq, release_eq]

/-- Both sides look for the next row together. -/
theorem advance_through [HeaderProvider π] (respects : Respects image) (rs : ResultSet σ π τ) :
    (rs.through image mode lastReadNull).advance.2 = rs.advance.2.through image mode lastReadNull ∧
      (ClosesAlike image ∨ rs.advance.2.released = rs.released →
        (rs.through image mode lastReadNull).advance.1 = rs.advance.1) := by
  have taken := takeDocument_eq rs
  unfold advance
  rw [takeDocument_through mode lastReadNull respects]
  generalize rs.takeDocument = outcome at taken
  obtain ⟨answer, after⟩ := outcome
  -- The cursor failed, came to its end or handed over a document, on both sides alike.
  match answer with
  | .error _ => exact ⟨rfl, fun _ => rfl⟩
  | .ok none =>
    obtain ⟨same, answers⟩ := finish_through mode lastReadNull respects after
    refine ⟨same, ?_⟩
    intro kept
    apply answers
    -- At the end the cursor is let go of, so a call that changes nothing about it came later.
    have held : after.released = rs.released := congrArg (·.released) taken
    have gone : after.finish.2.released = true := finish_released after
    exact kept.imp_right fun same => held.trans (same.symm.trans gone)
  | .ok (some doc) =>
    -- The same document makes the same row.
    dsimp only
    rw [enterRow_through]
    exact ⟨rfl, fun _ => rfl⟩

/-- Both sides go to the next row together. -/
theorem next_through [HeaderProvider π] (respects : Respects image) (rs : ResultSet σ π τ) :
    (rs.through image mode lastReadNull).next.2 = rs.next.2.through image mode lastReadNull ∧
      (ClosesAlike image ∨ rs.next.2.released = rs.released →
        (rs.through image mode lastReadNull).next.1 = rs.next.1) := by
  have position : (rs.through image mode lastReadNull).position = rs.position := rfl
  -- Whether a next row is looked for is up to the position, which is the same.
  rw [next_eq, next_eq, position]
  cases rs.position with
  | closed => exact ⟨rfl, fun _ => rfl⟩
  | afterLast => exact ⟨rfl, fun _ => rfl⟩
  | beforeFirst => exact advance_through mode lastReadNull respects rs
  | onRow row => exact advance_through mode lastReadNull respects rs

/-- Both sides are closed together. -/
theorem close_through [OwningStatement τ] (respects : Respects image) (rs : ResultSet σ π τ) :
    (rs.through image mode lastReadNull).close.2 = rs.close.2.through image mode lastReadNull ∧
      (ClosesAlike image ∨ rs.close.2.released = rs.released →
        (rs.through image mode lastReadNull).close.1 = rs.close.1) := by
  have closed : (rs.through image mode lastReadNull).isClosed = rs.isClosed := rfl
  have shut : { rs.through image mode lastReadNull with rowState := .closed } =
    { rs with rowState := .closed }.through image mode lastReadNull := rfl
  obtain ⟨same, answers⟩ := release_through mode lastReadNull respects
    { rs with rowState := .closed }
  -- Closing lets the cursor go first, and then completes the statement.
  unfold close
  rw [closed, shut]
  cases rs.isClosed with
  | true => exact ⟨rfl, fun _ => rfl⟩
  | false =>
    -- What is left after the cursor is let go of depends on the statement alone.
    have gone : { rs with rowState := .closed }.release.2.completeStatement.2.released = true := by
      rw [completeStatement_eq, release_eq]
    simp only [Bool.false_eq_true, if_false, same, completeStatement_through, true_and]
    intro kept
    rw [answers (kept.imp_right fun same => same.symm.trans gone)]

/-- A call that shows neither mode nor memory leads to the same place on both sides. -/
theorem perform_through [Libraries] [HeaderProvider π] [OwningStatement τ]
    (respects : Respects image)
    {call : Call} (plain : call.isModal = false) (rs : ResultSet σ π τ) :
    ((rs.through image mode lastReadNull).perform call).2 =
        (rs.perform call).2.through image mode lastReadNull ∧
      (ClosesAlike image ∨ (rs.perform call).2.released = rs.released →
        ((rs.through image mode lastReadNull).perform call).1 = (rs.perform call).1) := by
  have closed : (rs.through image mode lastReadNull).isClosed = rs.isClosed := rfl
  have position : (rs.through image mode lastReadNull).position = rs.position := rfl
  -- Only moving on, closing and asking what is ahead come to the cursor.
  cases call with
  | next =>
    obtain ⟨same, answers⟩ := next_through mode lastReadNull respects rs
    exact ⟨same, fun kept => congrArg (·.map Answer.flag) (answers kept)⟩
  | close =>
    obtain ⟨same, answers⟩ := close_through mode lastReadNull respects rs
    exact ⟨same, fun kept => congrArg (·.map fun _ => Answer.done) (answers kept)⟩
  -- The questions about what is ahead may ask the cursor, which answers as its image does.
  | isLast =>
    simp only [perform, isLast, closed, hasMore_through mode lastReadNull respects]
    split <;> exact ⟨rfl, fun _ => rfl⟩
  | isBeforeFirst =>
    simp only [perform, isBeforeFirst_eq, position, hasMore_through mode lastReadNull respects]
    split <;> exact ⟨rfl, fun _ => rfl⟩
  | wasNull => cases plain
  | mode => cases plain
  | summary => cases plain
  | read ref target => cases plain
  -- Every other call answers from what is the same on both sides.
  | _ => exact ⟨rfl, fun _ => rfl⟩

/-- No call changes the mode, and only reads are remembered. -/
theorem perform_modal [Libraries] [HeaderProvider π] [OwningStatement τ] {call : Call}
    (plain : call.isModal = false) (rs : ResultSet σ π τ) :
    (rs.perform call).2.mode = rs.mode ∧ (rs.perform call).2.lastReadNull = rs.lastReadNull := by
  -- The result set is its own image, with its own mode and memory.
  have respects : Respects (id : σ → σ) := respects_id
  have same := (perform_through rs.mode rs.lastReadNull respects plain rs).1
  have itself : rs.through id rs.mode rs.lastReadNull = rs := rfl
  rw [itself] at same
  exact ⟨congrArg (·.mode) same, congrArg (·.lastReadNull) same⟩

/-- No call changes the mode. -/
theorem perform_mode [Libraries] [HeaderProvider π] [OwningStatement τ] (call : Call)
    (rs : ResultSet σ π τ) :
    (rs.perform call).2.mode = rs.mode := by
  cases plain : call.isModal with
  | false => exact (perform_modal plain rs).1
  | true =>
    cases call with
    | wasNull => rfl
    | mode => rfl
    | summary => rfl
    | read ref target =>
      -- A read changes what is remembered of it, and nothing else.
      show (rs.read ref target).2.mode = rs.mode
      rw [read_eq]
    | _ => cases plain

/-- A call leads to the same place over a cursor and over its image. -/
theorem perform_viewed [Libraries] [HeaderProvider π] [OwningStatement τ]
    (respects : Respects image) (call : Call) (rs : ResultSet σ π τ) :
    ((rs.viewed image).perform call).2 = (rs.perform call).2.viewed image ∧
      (ClosesAlike image ∨ (rs.perform call).2.released = rs.released →
        ((rs.viewed image).perform call).1 = (rs.perform call).1) := by
  -- Calls without regard to mode and memory were dealt with for any mode.
  cases plain : call.isModal with
  | false =>
    obtain ⟨same, answers⟩ := perform_through rs.mode rs.lastReadNull respects plain rs
    obtain ⟨mode, memory⟩ := perform_modal plain rs
    refine ⟨?_, answers⟩
    show _ = (rs.perform call).2.through image (rs.perform call).2.mode
      (rs.perform call).2.lastReadNull
    rw [mode, memory]
    exact same
  | true =>
    cases call with
    | wasNull => exact ⟨rfl, fun _ => rfl⟩
    | mode => exact ⟨rfl, fun _ => rfl⟩
    | summary => exact ⟨rfl, fun _ => rfl⟩
    | read ref target =>
      -- Each side is read in its own mode, which here is the same one.
      simp only [perform, read_viewed]
      exact ⟨trivial, fun _ => trivial⟩
    | _ => cases plain

/-- A run leads to the same place over a cursor and over its image. -/
theorem run_viewed [Libraries] [HeaderProvider π] [OwningStatement τ] (respects : Respects image)
    (calls : List Call) (rs : ResultSet σ π τ) :
    (run calls (rs.viewed image)).2 = (run calls rs).2.viewed image ∧
      (ClosesAlike image → (run calls (rs.viewed image)).1 = (run calls rs).1) := by
  -- The induction is on the calls, from whatever result set the first of them leaves.
  induction calls generalizing rs with
  | nil => exact ⟨rfl, fun _ => rfl⟩
  | cons call rest ih =>
    obtain ⟨same, answers⟩ := perform_viewed respects call rs
    obtain ⟨further, answers'⟩ := ih (rs.perform call).2
    unfold run
    dsimp only
    rw [same]
    refine ⟨further, ?_⟩
    intro alike
    rw [answers (.inl alike), answers' alike]

end ResultSet

section Openings

variable {σ : Type u} {σ' : Type u'} {π : Type v} {τ : Type w}

/-- What came of opening over a cursor, as it comes over the image and in another mode. -/
def ResultSet.openedThrough (image : σ → σ') (mode : ConversionMode) :
    Except (OpenFailure σ) (ResultSet σ π τ) → Except (OpenFailure σ') (ResultSet σ' π τ)
  | .ok rs => .ok (rs.through image mode rs.lastReadNull)
  | .error failure => .error ⟨failure.error, image failure.cursor⟩

variable [DocumentCursor σ] [DocumentCursor σ'] {image : σ → σ'}

/-- Opening over a provider of columns comes to the same over the image, in any mode. -/
theorem ResultSet.openWith_through [HeaderProvider π] (respects : Respects image) (cursor : σ)
    (provider : π) (options : Options) (mode : ConversionMode) :
    (openWith (image cursor) provider { options with mode } : Except _ (ResultSet σ' π τ)) =
      openedThrough image mode (openWith cursor provider options) := by
  -- The strategy decides whether a document is fetched ahead.
  unfold openWith
  cases HeaderProvider.strategy provider with
  | schemaKnown =>
    simp only [prefetch]
    split <;> rfl
  | rowDerived =>
    simp only [prefetch, respects.next]
    obtain ⟨result, left⟩ := DocumentCursor.next cursor
    cases result with
    | error error => rfl
    | ok pending =>
      -- Columns are described from the same document, and may fail to be on both sides.
      dsimp only
      split <;> rfl

/-- Every way to open a result set comes to the same over the image, in any mode. -/
theorem Opening.start_through (respects : Respects image) (opening : Opening) (cursor : σ)
    (options : Options) (mode : ConversionMode) :
    (opening.start (image cursor) { options with mode } : Except _ (ResultSet σ' HeaderSource τ)) =
      ResultSet.openedThrough image mode (opening.start cursor options) := by
  have schemaKnown : ∀ schema,
      (ResultSet.openSchema (image cursor) schema { options with mode } :
        Except _ (ResultSet σ' _ τ)) =
        ResultSet.openedThrough image mode (ResultSet.openSchema cursor schema options) := by
    intro schema
    -- The columns of a schema are arranged without a look at the mode.
    have arranged : HeaderSource.ofSchema schema { options with mode } =
      HeaderSource.ofSchema schema options := rfl
    unfold ResultSet.openSchema
    rw [arranged]
    split
    · rfl
    · exact ResultSet.openWith_through respects ..
  have replied : ∀ reply,
      (ResultSet.openReply (image cursor) reply { options with mode } :
        Except _ (ResultSet σ' _ τ)) =
        ResultSet.openedThrough image mode (ResultSet.openReply cursor reply options) := by
    intro reply
    unfold ResultSet.openReply
    split
    · rfl
    · -- The document in the reply may be no schema.
      split
      · rfl
      · exact schemaKnown _
  -- Each way to open comes down to a schema, a reply or the rows alone.
  cases opening with
  | withSource source => exact ResultSet.openWith_through respects ..
  | withSchema schema => exact schemaKnown schema
  | withReply reply => exact replied reply
  | ofRows => exact ResultSet.openWith_through respects ..
  | byStrategy reply =>
    simp only [start, ResultSet.openByStrategy]
    split
    · exact ResultSet.openWith_through respects ..
    · exact replied _
    · rfl

end Openings

end BsonTable
