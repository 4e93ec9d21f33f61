import BsonTable.Proofs.ResultSet.Simulation

/-! Cursors that keep a record of how they are used, and why nothing else depends on it. -/

namespace BsonTable

/-- One use of a cursor. -/
inductive CursorEvent where
  | hasNext
  /-- Asking for a document, with the one that was handed over. -/
  | next (handed : Option Document)
  | close

/-- The document that a use of a cursor handed over. -/
def CursorEvent.handed? : CursorEvent → Option Document
  | next handed => handed
  | hasNext | close => none

/-- A cursor with a record of its uses, the oldest first. -/
structure Recorded (σ : Type u) where
  cursor : σ
  events : List CursorEvent := []

namespace Recorded

variable {σ : Type u}

/-- The document in an answer, which a failure does not hand over. -/
def handed? : Except Error (Option Document) → Option Document
  | .ok handed => handed
  | .error _ => none

/-- The documents that a cursor handed over, in order. -/
def handedOver (recorded : Recorded σ) : List Document :=
  recorded.events.filterMap CursorEvent.handed?

/-- A further use hands over its own document after the earlier ones. -/
theorem handedOver_append (cursor : σ) (events : List CursorEvent) (event : CursorEvent) :
    handedOver { cursor, events := events ++ [event] } =
      events.filterMap CursorEvent.handed? ++ event.handed?.toList := by
  show (events ++ [event]).filterMap CursorEvent.handed? = _
  -- At most one document comes with a use.
  rw [List.filterMap_append]
  cases handed : event.handed? <;> simp [handed]

variable [DocumentCursor σ]

/-- Ask whether another document can be taken. -/
def hasNext (recorded : Recorded σ) : Except Error Bool × Recorded σ :=
  -- The record is written after the cursor has answered, and whatever it has answered.
  let (result, cursor) := DocumentCursor.hasNext recorded.cursor
  (result, { cursor, events := recorded.events ++ [.hasNext] })

/-- Ask for the next document. -/
def next (recorded : Recorded σ) : Except Error (Option Document) × Recorded σ :=
  let (result, cursor) := DocumentCursor.next recorded.cursor
  -- What the answer hands over is kept with it.
  (result, { cursor, events := recorded.events ++ [.next (handed? result)] })

/-- Let go of what the cursor holds. -/
def close (recorded : Recorded σ) : Except Error Unit × Recorded σ :=
  let (result, cursor) := DocumentCursor.close recorded.cursor
  (result, { cursor, events := recorded.events ++ [.close] })

instance : DocumentCursor (Recorded σ) where
  hasNext := hasNext
  next := next
  close := close

/-- Asking for more hands nothing over. -/
@[simp] theorem handedOver_hasNext (recorded : Recorded σ) :
    (DocumentCursor.hasNext recorded).2.handedOver = recorded.handedOver :=
  (handedOver_append ..).trans (List.append_nil _)

/-- Closing hands nothing over. -/
@[simp] theorem handedOver_close (recorded : Recorded σ) :
    (DocumentCursor.close recorded).2.handedOver = recorded.handedOver :=
  (handedOver_append ..).trans (List.append_nil _)

/-- A document that is answered was handed over last. -/
@[simp] theorem handedOver_next (recorded : Recorded σ) :
    (DocumentCursor.next recorded).2.handedOver =
      recorded.handedOver ++ (handed? (DocumentCursor.next recorded).1).toList :=
  handedOver_append ..

/-- The cursor behind the record does what is recorded. -/
theorem respects_cursor : Respects (cursor : Recorded σ → σ) :=
  -- All three uses are those of the cursor inside.
  ⟨fun _ => rfl, fun _ => rfl, fun _ => rfl⟩

/-- Closing answers the same with and without the record. -/
theorem closesAlike_cursor : ClosesAlike (cursor : Recorded σ → σ) :=
  fun _ => rfl

end Recorded

namespace ResultSet

variable {σ : Type u} {π : Type v} {τ : Type w}

/-- A result set whose cursor no longer keeps its record. -/
def unrecorded (rs : ResultSet (Recorded σ) π τ) : ResultSet σ π τ :=
  { rs with cursor := rs.cursor.cursor }

/-- What came of opening a result set, without the record of its cursor. -/
def openedUnrecorded :
    Except (OpenFailure (Recorded σ)) (ResultSet (Recorded σ) π τ) →
      Except (OpenFailure σ) (ResultSet σ π τ)
  | .ok rs => .ok rs.unrecorded
  | .error failure => .error ⟨failure.error, failure.cursor.cursor⟩

/-- Opened in the mode it already has, a result set only loses the record. -/
theorem openedThrough_cursor {mode : ConversionMode}
    {opened : Except (OpenFailure (Recorded σ)) (ResultSet (Recorded σ) π τ)}
    (own : ∀ rs, opened = .ok rs → rs.mode = mode) :
    openedThrough Recorded.cursor mode opened = openedUnrecorded opened := by
  -- Failures lose the record of the cursor they come with.
  cases opened with
  | error failure => rfl
  | ok rs =>
    obtain rfl := own rs rfl
    rfl

variable [DocumentCursor σ]

/-- The record does not show in the answers of a run, nor in where it ends. -/
theorem run_unrecorded [Libraries] [HeaderProvider π] [OwningStatement τ] (calls : List Call)
    (rs : ResultSet (Recorded σ) π τ) :
    run calls rs.unrecorded = ((run calls rs).1, (run calls rs).2.unrecorded) := by
  -- The record is dropped as any other view of a cursor is.
  obtain ⟨same, answers⟩ := run_viewed Recorded.respects_cursor calls rs
  exact Prod.ext (answers Recorded.closesAlike_cursor) same

end ResultSet

/-- The record does not show in any way to open a result set. -/
theorem Opening.start_unrecorded {σ : Type u} {τ : Type w} [DocumentCursor σ] (opening : Opening)
    (recorded : Recorded σ) (options : Options) :
    (opening.start recorded.cursor options : Except _ (ResultSet σ HeaderSource τ)) =
      ResultSet.openedUnrecorded (opening.start recorded options) := by
  -- A fresh result set has the mode of its options, so the image is opened in that mode.
  rw [← ResultSet.openedThrough_cursor fun _ opened => (start_fresh opened).mode]
  exact start_through Recorded.respects_cursor opening recorded options options.mode

/-- A result set that is opened over a cursor is one that keeps a record, without the record. -/
theorem Opening.start_recorded {σ : Type u} {τ : Type w} [DocumentCursor σ] {opening : Opening}
    {cursor : σ} {options : Options} {rs : ResultSet σ HeaderSource τ}
    (opened : opening.start cursor options = .ok rs) :
    ∃ recorded : ResultSet (Recorded σ) HeaderSource τ,
      opening.start { cursor } options = .ok recorded ∧ recorded.unrecorded = rs := by
  -- The two ways to open succeed together, so there is a result set with a record.
  have same := start_unrecorded (τ := τ) opening { cursor } options
  rw [opened] at same
  cases started : (opening.start { cursor } options :
      Except _ (ResultSet (Recorded σ) HeaderSource τ)) with
  | error failure =>
    rw [started] at same
    cases same
  | ok recorded =>
    rw [started] at same
    exact ⟨recorded, rfl, (Except.ok.inj same).symm⟩

end BsonTable
