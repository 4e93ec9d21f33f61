import BsonTable.Schema.Equality

/-! Unions of schemas: nested unions are spliced, repeated branches dropped. -/

namespace BsonTable.Schema

/-- Joining lists adds their sizes, the end of a list being counted once. -/
theorem sizeOf_append {α : Type u} [SizeOf α] (left right : List α) :
    sizeOf (left ++ right) + 1 = sizeOf left + sizeOf right := by
  -- Each element of the left list counts the same on both sides.
  induction left with
  | nil => simp; omega
  | cons first rest ih => simp only [List.cons_append, List.cons.sizeOf_spec]; omega

/-- The distinct branches of a work list, in order of first occurrence, unless one fits anything. -/
def collectBranches (kept : List Schema) : List Schema → Option (List Schema)
  | [] => some kept
  -- Nested branches take the place of their union.
  | anyOf nested :: rest => collectBranches kept (nested ++ rest)
  -- No other branch adds anything to one that fits everything.
  | any :: _ => none
  | branch :: rest =>
    if contains branch kept then collectBranches kept rest
    else collectBranches (kept ++ [branch]) rest
termination_by pending => sizeOf pending
decreasing_by
  · -- A union weighs more than the list of its branches, and any branch weighs something.
    have joined := sizeOf_append nested rest
    simp only [List.cons.sizeOf_spec, Schema.anyOf.sizeOf_spec]
    omega
  · simp only [List.cons.sizeOf_spec]; omega
  · simp only [List.cons.sizeOf_spec]; omega

/-- The simplest schema that fits what one of the branches fits. -/
def union (branches : List Schema) : Schema :=
  match collectBranches [] branches with
  | none | some [] => any
  -- A single branch needs no union.
  | some [only] => only
  | some kept => anyOf kept

end BsonTable.Schema
