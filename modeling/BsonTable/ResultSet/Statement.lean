import BsonTable.Error

/-! Statements, which a result set may close when it is closed itself. -/

namespace BsonTable

/-- The statement that produced a result. -/
class OwningStatement (τ : Type u) where
  /-- Whether the statement was closed, by anyone. -/
  isClosed : τ → Bool
  /-- Whether closing the result closes the statement. -/
  closesOnCompletion : τ → Bool
  /-- Close the statement, which may fail and leave it open. -/
  close : τ → Except Error Unit × τ

/-- A statement that only tracks its own life. -/
structure Statement where
  closed : Bool := false
  closesOnCompletion : Bool := false
deriving Repr, DecidableEq

namespace Statement

/-- Ask for closing together with the result. -/
def closeOnCompletion (statement : Statement) : Statement :=
  -- This may be asked for at any time before the result is closed.
  { statement with closesOnCompletion := true }

/-- Close the statement; closing it again changes nothing. -/
def close (statement : Statement) : Except Error Unit × Statement :=
  -- A statement of this kind never fails to close.
  (.ok (), { statement with closed := true })

instance : OwningStatement Statement where
  isClosed := closed
  closesOnCompletion := closesOnCompletion
  close := close

end Statement

end BsonTable
