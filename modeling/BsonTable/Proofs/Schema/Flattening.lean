import BsonTable.Proofs.Schema.Leaves
import Mathlib.Logic.Function.Iterate

/-!
How a union comes about, turn by turn. The loop over a stack of schemas ends after as many turns as
there are schemas to look at and one more, and leaves the flattened branches without repetition.
A union of canonical branches can be taken in parts.
-/

namespace BsonTable

namespace Schema

mutual

/-- The schemas that are met where nested unions are opened, these unions included. -/
def unionSize : Schema → Nat
  | anyOf branches => unionSizes branches + 1
  | any => 1
  | scalar _ => 1
  | object _ _ _ => 1
  | array _ => 1

/-- The schemas that are met in branches. -/
def unionSizes : List Schema → Nat
  | [] => 0
  | branch :: rest => unionSize branch + unionSizes rest

end

/-- As many schemas are met in joined lists as in both of them. -/
theorem unionSizes_append (left right : List Schema) :
    unionSizes (left ++ right) = unionSizes left + unionSizes right := by
  -- Each schema of the left list counts the same on both sides.
  induction left with
  | nil => simp [unionSizes]
  | cons first rest ih => simp only [List.cons_append, unionSizes, ih]; omega

/-- The union that given leaves make, when others were kept before them. -/
def unionOfLeaves (kept leaves : List Schema) : Schema :=
  if leaves.any isAny then any else ofLeaves (keepNew kept leaves)

/-- How far a union has come: what was kept, and a stack with the next schema on its end. -/
inductive UnionLoop where
  | running (kept stack : List Schema)
  | finished (result : Schema)

namespace UnionLoop

/-- The loop before its first turn, with the first branch on the end of the stack. -/
def start (branches : List Schema) : UnionLoop :=
  running [] branches.reverse

/-- One turn: the last schema leaves the stack to be opened, kept or dropped, or ends the loop. -/
def turn : UnionLoop → UnionLoop
  | finished result => finished result
  | running kept stack =>
    match stack.getLast? with
    | none => finished (ofLeaves kept)
    -- The branches go onto the stack from the last to the first, which comes next.
    | some (anyOf nested) => running kept (stack.dropLast ++ nested.reverse)
    | some any => finished any
    | some leaf =>
      if contains leaf kept then running kept stack.dropLast
      else running (kept ++ [leaf]) stack.dropLast

/-- The turns that a loop has left at most. -/
def turnsLeft : UnionLoop → Nat
  | running _ stack => unionSizes stack.reverse + 1
  | finished _ => 0

/-- What a loop is bound to end with. -/
def outcome : UnionLoop → Schema
  | running kept stack => unionOfLeaves kept (leavesOf stack.reverse)
  | finished result => result

/-- A turn changes nothing about the end of the loop, and leaves one turn less. -/
theorem turn_spec (loop : UnionLoop) :
    loop.turn.outcome = loop.outcome ∧ loop.turn.turnsLeft ≤ loop.turnsLeft - 1 := by
  cases loop with
  | finished result => simp [turn, turnsLeft]
  | running kept stack =>
    -- From its end, the stack is the list of schemas that are still to come, in order.
    obtain ⟨pending, rfl⟩ : ∃ pending : List Schema, stack = pending.reverse :=
      ⟨stack.reverse, by simp⟩
    cases pending with
    | nil => simp [turn, outcome, turnsLeft, unionOfLeaves, leavesOf, keepNew]
    | cons next rest =>
      cases next with
      | anyOf nested =>
        have opened : turn (running kept (anyOf nested :: rest).reverse) =
            running kept (nested ++ rest).reverse := by
          simp [turn]
        rw [opened]
        constructor
        · -- The leaves of the union come where the union came.
          simp only [outcome, List.reverse_reverse, leavesOf_append, leavesOf, leaves]
        · -- The union leaves the stack, and its branches are what it was counted with.
          simp only [turnsLeft, List.reverse_reverse, unionSizes_append, unionSizes, unionSize]
          omega
      | any => simp [turn, outcome, turnsLeft, unionOfLeaves, leavesOf, leaves, isAny]
      | _ =>
        -- Any other schema is a leaf, which is settled here and now.
        simp only [turn, List.reverse_cons, List.getLast?_append, List.getLast?_singleton,
          Option.some_or, List.dropLast_concat]
        split <;> rename_i found <;>
          simp [outcome, turnsLeft, unionOfLeaves, leavesOf, leaves, isAny, keepNew, found,
            unionSizes, unionSize, Nat.add_comm]

/-- No number of turns changes the end of the loop, and each of them is one that it had left. -/
theorem turns_spec (loop : UnionLoop) (count : Nat) :
    (turn^[count] loop).outcome = loop.outcome ∧
      (turn^[count] loop).turnsLeft ≤ loop.turnsLeft - count := by
  -- The induction is on the turns, each of which does what one turn does.
  induction count with
  | zero => exact ⟨rfl, Nat.le_refl _⟩
  | succ count ih =>
    rw [Function.iterate_succ_apply']
    have step := turn_spec (turn^[count] loop)
    exact ⟨step.1.trans ih.1, by omega⟩

/-- After as many turns as it had left, a loop has ended the way it was bound to. -/
theorem turns_finish (loop : UnionLoop) : turn^[loop.turnsLeft] loop = finished loop.outcome := by
  have spec := turns_spec loop loop.turnsLeft
  -- A loop without turns left is one that ended.
  cases ended : turn^[loop.turnsLeft] loop with
  | running kept stack =>
    rw [ended] at spec
    simp [turnsLeft] at spec
  | finished result =>
    rw [ended] at spec
    rw [← spec.1, outcome]

end UnionLoop

section Parts

/-- What is kept of joined lists is kept of the second beside what is kept of the first. -/
theorem keepNew_append (kept left right : List Schema) :
    keepNew kept (left ++ right) = keepNew (keepNew kept left) right := by
  -- The induction is on the first list, which is settled before the second.
  induction left generalizing kept with
  | nil => simp [keepNew]
  | cons leaf rest ih =>
    simp only [List.cons_append, keepNew]
    split <;> exact ih _

/-- What repeats one of some schemas repeats one that is kept of them. -/
theorem contains_keepNew {kept known : List Schema} {leaf : Schema}
    (irredundant : ∀ schema ∈ kept ++ known, schema.Irredundant) (plain : leaf.Irredundant)
    (found : contains leaf known = true) : contains leaf (keepNew kept known) = true := by
  obtain ⟨other, member, same⟩ := contains_iff.mp found
  have right : ∀ schema ∈ known, schema.Irredundant :=
    fun schema inside => irredundant schema (List.mem_append_right kept inside)
  -- The schema that it repeats has a like among those that are kept.
  obtain ⟨like, stays, same'⟩ : ∃ like ∈ keepNew kept known, like.same other = true :=
    keepNew_covers (fun schema inside => (right schema inside).same_self) other member
  have whole : like.Irredundant :=
    irredundant like (List.mem_append.mpr (mem_of_mem_keepNew stays))
  exact contains_iff.mpr
    ⟨like, stays, equivalenceOn_irredundant.trans whole (right other member) plain same' same⟩

/-- Repetitions among later schemas can be dropped before or after the earlier ones are known. -/
theorem keepNew_keepNew {kept known pending : List Schema}
    (irredundant : ∀ schema ∈ kept ++ known ++ pending, schema.Irredundant) :
    keepNew kept (keepNew known pending) = keepNew (keepNew kept known) pending := by
  induction pending generalizing known with
  | nil => rfl
  | cons leaf rest ih =>
    have before : ∀ schema ∈ kept ++ known, schema.Irredundant :=
      fun schema inside => irredundant schema (List.mem_append_left _ inside)
    rw [keepNew, keepNew]
    by_cases found : contains leaf known = true
    · -- What is dropped on the left repeats something on the right as well.
      have again := contains_keepNew before (irredundant leaf (by simp)) found
      rw [if_pos found, if_pos again]
      refine ih fun schema inside => irredundant schema ?_
      simp only [List.mem_append, List.mem_cons] at inside ⊢
      exact inside.imp_right .inr
    · -- What is kept on the left comes last of what was known when the right side looks at it.
      rw [if_neg found, ih, keepNew_append, keepNew]
      · split <;> rfl
      · intro schema inside
        exact irredundant schema (by simpa [or_assoc] using inside)

/-- Dropping repetitions beforehand changes nothing about what is kept. -/
theorem keepNew_dropped {kept pending : List Schema}
    (irredundant : ∀ schema ∈ kept ++ pending, schema.Irredundant) :
    keepNew kept (keepNew [] pending) = keepNew kept pending :=
  keepNew_keepNew (by simpa using irredundant)

variable {left right branches : List Schema}

/-- The leaves of a union are those that were kept, when none of them fits anything. -/
theorem leaves_union (canonical : ∀ branch ∈ branches, branch.IsCanonical)
    (nonempty : branches ≠ []) (concrete : any ∉ leavesOf branches) :
    (union branches).leaves = keepNew [] (leavesOf branches) := by
  -- What is kept are leaves of canonical branches, and so no unions.
  have inside : ∀ leaf ∈ keepNew [] (leavesOf branches), leaf ∈ leavesOf branches :=
    fun leaf kept => by simpa using mem_of_mem_keepNew kept
  rw [union_of_concrete concrete]
  exact leaves_ofLeaves (keepNew_leavesOf_ne_nil nonempty canonical)
    fun leaf kept => (leafOf_canonical canonical (inside leaf kept)).2

/-- A union of canonical branches can be taken in two parts. -/
theorem union_in_parts (canonical : ∀ branch ∈ left, branch.IsCanonical)
    (canonical' : ∀ branch ∈ right, branch.IsCanonical) (nonempty : left ≠ [])
    (nonempty' : right ≠ []) : union [union left, union right] = union (left ++ right) := by
  have parts : leavesOf [union left, union right] = (union left).leaves ++ (union right).leaves := by
    simp [leavesOf]
  have whole := leavesOf_append left right
  by_cases free : any ∈ leavesOf left
  · -- What fits anything on the left makes both unions fit anything.
    rw [union_of_any (by simp [union_of_any free, leavesOf, leaves]),
      union_of_any (by simp [whole, free])]
  by_cases free' : any ∈ leavesOf right
  · rw [union_of_any (by simp [union_of_any free', leavesOf, leaves]),
      union_of_any (by simp [whole, free'])]
  rw [leaves_union canonical nonempty free, leaves_union canonical' nonempty' free'] at parts
  have first : ∀ schema ∈ leavesOf left, schema.Irredundant :=
    fun schema inside => (leafOf_canonical canonical inside).1.irredundant
  have second : ∀ schema ∈ leavesOf right, schema.Irredundant :=
    fun schema inside => (leafOf_canonical canonical' inside).1.irredundant
  have keeps : ∀ schema ∈ keepNew [] (leavesOf left), schema ∈ leavesOf left :=
    fun schema inside => by simpa using mem_of_mem_keepNew inside
  have keeps' : ∀ schema ∈ keepNew [] (leavesOf right), schema ∈ leavesOf right :=
    fun schema inside => by simpa using mem_of_mem_keepNew inside
  -- Nothing that was dropped in a part would have been kept in the whole.
  have kept : keepNew [] (keepNew [] (leavesOf left) ++ keepNew [] (leavesOf right)) =
      keepNew [] (leavesOf left ++ leavesOf right) := by
    have both : ∀ schema ∈ keepNew [] (leavesOf left) ++ leavesOf right, schema.Irredundant :=
      fun schema inside => (List.mem_append.mp inside).elim (first schema ∘ keeps schema)
        (second schema)
    have again : keepNew [] (keepNew [] (leavesOf left)) = keepNew [] (leavesOf left) :=
      keepNew_dropped (by simpa using first)
    rw [keepNew_append, keepNew_append, again, keepNew_dropped both]
  have concrete : any ∉ leavesOf [union left, union right] := by
    rw [parts, List.mem_append]
    exact fun inside => inside.elim (free ∘ keeps any) (free' ∘ keeps' any)
  have concrete' : any ∉ leavesOf (left ++ right) := by simp [whole, free, free']
  rw [union_of_concrete concrete, union_of_concrete concrete', parts, whole, kept]

end Parts

/--
The loop over a stack of schemas ends, after a number of turns that the branches give, with the
union of the branches. The union fits anything if one of the flattened branches does, and is made
of the flattened branches without repetition otherwise, in their order. Unions of canonical
branches can be taken in parts.
-/
theorem union_is_flattened :
    (∀ branches : List Schema,
      UnionLoop.turn^[unionSizes branches + 1] (.start branches) = .finished (union branches) ∧
        (any ∈ leavesOf branches → union branches = any) ∧
        (any ∉ leavesOf branches →
          union branches = match keepNew [] (leavesOf branches) with
            | [] => any
            | [only] => only
            | kept => anyOf kept)) ∧
      ∀ left right : List Schema, left ≠ [] → right ≠ [] →
        (∀ branch ∈ left, branch.IsCanonical) → (∀ branch ∈ right, branch.IsCanonical) →
          union [union left, union right] = union (left ++ right) := by
  refine ⟨fun branches => ⟨?_, ?_, ?_⟩, ?_⟩
  · -- From the start, there are as many turns left as the stack gives and one more.
    have finish := UnionLoop.turns_finish (.start branches)
    simp only [UnionLoop.start, UnionLoop.turnsLeft, UnionLoop.outcome, List.reverse_reverse]
      at finish
    rw [union_eq]
    exact finish
  · exact union_of_any
  · intro concrete
    rw [union_of_concrete concrete]
    -- Distinct leaves make a schema by the same three cases.
    rfl
  · intro left right nonempty nonempty' canonical canonical'
    exact union_in_parts canonical canonical' nonempty nonempty'

/--
Nested unions are opened in place, a type that fits anything is found inside them, and an optional
number and an optional text share one null.
-/
theorem union_is_flattened_nested :
    any ∉ leavesOf [anyOf [scalar .int, anyOf [scalar .string, anyOf []]], scalar .int, array any] ∧
    union [anyOf [scalar .int, anyOf [scalar .string, anyOf []]], scalar .int, array any] =
      anyOf [scalar .int, scalar .string, array any] ∧
    any ∈ leavesOf [scalar .int, anyOf [anyOf [any], scalar .string]] ∧
    union [scalar .int, anyOf [anyOf [any], scalar .string]] = any ∧
    (anyOf [scalar .int, scalar .null]).IsCanonical ∧
    (anyOf [scalar .string, scalar .null]).IsCanonical ∧
    union [union [anyOf [scalar .int, scalar .null]], union [anyOf [scalar .string, scalar .null]]] =
      union [anyOf [scalar .int, scalar .null], anyOf [scalar .string, scalar .null]] := by
  -- Two distinct types that are both bare make a canonical union.
  have optional : ∀ name ∈ [TypeName.int, TypeName.string],
      (anyOf [scalar name, scalar .null]).IsCanonical := by
    intro name inside
    have bare : name ≠ .null ∧ name ≠ .object ∧ name ≠ .array := by
      revert name
      decide
    refine .anyOf (by simp) ?_ (by simp) ?_
    · simp [Distinct, same, bare.1, bare.1.symm]
    · simp [IsCanonical.scalar, bare.2]
  obtain ⟨flattened, parts⟩ := union_is_flattened
  have concrete : any ∉
      leavesOf [anyOf [scalar .int, anyOf [scalar .string, anyOf []]], scalar .int, array any] := by
    simp [leavesOf, leaves]
  have free : any ∈ leavesOf [scalar .int, anyOf [anyOf [any], scalar .string]] := by
    simp [leavesOf, leaves]
  have number := optional .int (by decide)
  have text := optional .string (by decide)
  refine ⟨concrete, ?_, free, (flattened _).2.1 free, number, text, ?_⟩
  · rw [(flattened _).2.2 concrete]
    -- The second number repeats the first, which was kept before it.
    simp [leavesOf, leaves, keepNew, contains, same]
  · exact parts _ _ (by simp) (by simp) (by simpa using number) (by simpa using text)

end Schema

end BsonTable
