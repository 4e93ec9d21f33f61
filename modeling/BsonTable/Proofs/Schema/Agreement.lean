import BsonTable.Proofs.Schema.Reading

/-! Computations that agree: both fail, or both succeed with linked results. -/

namespace BsonTable

/-- Two computations that both fail, or both succeed with linked results. -/
inductive Agree {α : Type u} {β : Type v} (link : α → β → Prop) :
    Except Error α → Except Error β → Prop
  | ok {left : α} {right : β} (linked : link left right) : Agree link (.ok left) (.ok right)
  -- Errors are not linked, since which of several faults is found depends on the order.
  | error (left right : Error) : Agree link (.error left) (.error right)

/-- Each element on either side is linked to one on the other side. -/
def Matched {α : Type u} {β : Type v} (link : α → β → Prop) (left : List α) (right : List β) :
    Prop :=
  (∀ x ∈ left, ∃ y ∈ right, link x y) ∧ ∀ y ∈ right, ∃ x ∈ left, link x y

namespace Matched

variable {α : Type u} {link : α → α → Prop}

/-- Lists of the same elements match when each element is linked to itself. -/
theorem of_mem_iff (self : ∀ x, link x x) {left right : List α} (same : ∀ x, x ∈ left ↔ x ∈ right) :
    Matched link left right :=
  ⟨fun x inside => ⟨x, (same x).mp inside, self x⟩,
    fun x inside => ⟨x, (same x).mpr inside, self x⟩⟩

/-- Replacing an element by a linked one leaves a matching list. -/
theorem replace (self : ∀ x, link x x) {x x' : α} (linked : link x x') (before after : List α) :
    Matched link (before ++ x :: after) (before ++ x' :: after) := by
  simp only [Matched, List.mem_append, List.mem_cons]
  constructor
  · -- Only the element that was replaced has another match than itself.
    rintro y (inside | rfl | inside)
    · exact ⟨y, .inl inside, self y⟩
    · exact ⟨x', .inr (.inl rfl), linked⟩
    · exact ⟨y, .inr (.inr inside), self y⟩
  · rintro y (inside | rfl | inside)
    · exact ⟨y, .inl inside, self y⟩
    · exact ⟨x, .inr (.inl rfl), linked⟩
    · exact ⟨y, .inr (.inr inside), self y⟩

end Matched

namespace Agree

section Steps

variable {α β γ δ : Type u} {link : α → β → Prop} {link' : γ → δ → Prop}
  {left : Except Error α} {right : Except Error β}

/-- Steps that agree may be followed by steps that agree on linked results. -/
theorem bind {first : α → Except Error γ} {second : β → Except Error δ}
    (agree : Agree link left right) (next : ∀ a b, link a b → Agree link' (first a) (second b)) :
    Agree link' (left >>= first) (right >>= second) := by
  -- A failure on both sides ends both computations.
  cases agree with
  | ok linked => exact next _ _ linked
  | error _ _ => exact .error _ _

/-- Links may be replaced where both computations succeed. -/
theorem imp {link' : α → β → Prop} (agree : Agree link left right)
    (implied : ∀ a b, left = .ok a → right = .ok b → link a b → link' a b) :
    Agree link' left right := by
  cases agree with
  | ok linked => exact .ok (implied _ _ rfl rfl linked)
  | error _ _ => exact .error _ _

/-- A computation agrees with itself when its result is linked to itself. -/
theorem refl {link : α → α → Prop} {step : Except Error α}
    (reflexive : ∀ a, step = .ok a → link a a) : Agree link step step := by
  cases step with
  | ok a => exact .ok (reflexive a rfl)
  | error error => exact .error error error

/-- Agreement can be turned around with its link. -/
theorem symm (agree : Agree link left right) : Agree (fun b a => link a b) right left := by
  cases agree with
  | ok linked => exact .ok linked
  | error _ _ => exact .error _ _

/-- Agreement can be chained when its link can. -/
theorem trans {link : α → α → Prop} {first second third : Except Error α}
    (chained : ∀ a b c, link a b → link b c → link a c) (agree : Agree link first second)
    (agree' : Agree link second third) : Agree link first third := by
  cases agree with
  | ok linked =>
    -- The middle one succeeded, so the third one does.
    cases agree' with
    | ok linked' => exact .ok (chained _ _ _ linked linked')
  | error _ _ =>
    cases agree' with
    | error _ _ => exact .error _ _

/-- Computations that agree succeed together. -/
theorem succeeds_iff (agree : Agree link left right) :
    (∃ a, left = .ok a) ↔ ∃ b, right = .ok b := by
  cases agree with
  | ok _ => exact iff_of_true ⟨_, rfl⟩ ⟨_, rfl⟩
  | error _ _ => exact iff_of_false nofun nofun

/-- Computations agree that succeed together, with linked results. -/
theorem of_succeeds (together : (∃ a, left = .ok a) ↔ ∃ b, right = .ok b)
    (linked : ∀ a b, left = .ok a → right = .ok b → link a b) : Agree link left right := by
  cases left with
  | ok a =>
    obtain ⟨b, rfl⟩ := together.mp ⟨a, rfl⟩
    exact .ok (linked a b rfl rfl)
  | error failure =>
    cases right with
    | ok b =>
      -- A success on the right alone is excluded.
      obtain ⟨_, impossible⟩ := together.mpr ⟨b, rfl⟩
      cases impossible
    | error failure' => exact .error failure failure'

/-- The results of computations that agree are linked. -/
theorem linked (agree : Agree link left right) {a : α} {b : β} (first : left = .ok a)
    (second : right = .ok b) : link a b := by
  cases agree with
  | ok linked =>
    cases first
    cases second
    exact linked
  | error _ _ => cases first

end Steps

section Lists

variable {α β γ δ : Type u} {link : γ → δ → Prop} {f : α → Except Error γ}
  {g : β → Except Error δ} {left : List α} {right : List β}

/-- What succeeds on every element of one list succeeds on every matching element. -/
theorem mapM_ok (matched : ∀ y ∈ right, ∃ x ∈ left, Agree link (f x) (g y))
    {results : List γ} (read : left.mapM f = .ok results) :
    ∃ results', right.mapM g = .ok results' := by
  -- The induction is on the list that is to be read; the other one stays whole.
  induction right with
  | nil => exact ⟨[], rfl⟩
  | cons first rest ih =>
    -- The match of the first element was read, so the first element can be.
    obtain ⟨x, inside, agree⟩ := matched first List.mem_cons_self
    obtain ⟨result, _, done⟩ := exists_of_forall₂ (mapM_eq_ok_iff.mp read).flip x inside
    obtain ⟨result', done'⟩ := agree.succeeds_iff.mp ⟨result, done⟩
    obtain ⟨results', rest'⟩ := ih fun y inside => matched y (List.mem_cons_of_mem _ inside)
    refine ⟨result' :: results', ?_⟩
    rw [List.mapM_cons, done', rest']
    rfl

/-- Lists whose elements match are read to lists whose elements match. -/
theorem mapM (matched : Matched (fun x y => Agree link (f x) (g y)) left right) :
    Agree (Matched link) (left.mapM f) (right.mapM g) := by
  obtain ⟨forth, back⟩ := matched
  have turned : ∀ x ∈ left, ∃ y ∈ right, Agree (fun b a => link a b) (g y) (f x) := by
    intro x inside
    obtain ⟨y, found, agree⟩ := forth x inside
    exact ⟨y, found, agree.symm⟩
  refine of_succeeds ⟨fun ⟨_, read⟩ => mapM_ok back read, fun ⟨_, read⟩ => mapM_ok turned read⟩ ?_
  -- Each result belongs to an element, whose match has a result of its own.
  intro results results' read read'
  have first := mapM_eq_ok_iff.mp read
  have second := mapM_eq_ok_iff.mp read'
  constructor
  · intro result inside
    obtain ⟨x, member, done⟩ := exists_of_forall₂ first result inside
    obtain ⟨y, found, agree⟩ := forth x member
    obtain ⟨result', inside', done'⟩ := exists_of_forall₂ second.flip y found
    exact ⟨result', inside', agree.linked done done'⟩
  · intro result' inside'
    obtain ⟨y, member, done'⟩ := exists_of_forall₂ second result' inside'
    obtain ⟨x, found, agree⟩ := back y member
    obtain ⟨result, inside, done⟩ := exists_of_forall₂ first.flip x found
    exact ⟨result, inside, agree.linked done done'⟩

end Lists

end Agree

end BsonTable
