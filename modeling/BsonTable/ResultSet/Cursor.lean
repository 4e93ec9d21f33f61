import BsonTable.Bson.Value
import BsonTable.Error

/-! Cursors that serve documents one at a time. -/

namespace BsonTable

/-- A source of documents in one direction; each call may fail and may change the cursor. -/
class DocumentCursor (σ : Type u) where
  /-- Whether another document can be taken. -/
  hasNext : σ → Except Error Bool × σ
  /-- The next document, none at the end. -/
  next : σ → Except Error (Option Document) × σ
  /-- Let go of what the cursor holds. -/
  close : σ → Except Error Unit × σ := fun cursor => (.ok (), cursor)

/-- Documents that wait in memory. -/
structure DocumentQueue where
  documents : List Document
  closed : Bool := false

namespace DocumentQueue

/-- The failure of a cursor that is used after it was closed. -/
def closedError : Error :=
  .cursor "cursor is closed"

/-- Whether a document waits. -/
def hasNext (queue : DocumentQueue) : Except Error Bool × DocumentQueue :=
  -- Once closed, a queue answers nothing but that.
  if queue.closed then (.error closedError, queue)
  else (.ok (!queue.documents.isEmpty), queue)

/-- Take the first document that waits. -/
def next (queue : DocumentQueue) : Except Error (Option Document) × DocumentQueue :=
  if queue.closed then (.error closedError, queue)
  else match queue.documents with
    | [] => (.ok none, queue)
    | doc :: rest => (.ok (some doc), { queue with documents := rest })

/-- Drop the documents that wait. -/
def close (_ : DocumentQueue) : Except Error Unit × DocumentQueue :=
  -- Closing twice is no failure.
  (.ok (), { documents := [], closed := true })

instance : DocumentCursor DocumentQueue where
  hasNext := hasNext
  next := next
  close := close

end DocumentQueue

end BsonTable
