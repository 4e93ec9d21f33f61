import BsonTable.Proofs.Schema.Alike

/-! Computations by the failures they may have, and the failures that find fault with a schema. -/

namespace BsonTable

/-- Whether a computation succeeds. -/
def Succeeds {α : Type u} (step : Except Error α) : Prop :=
  ∃ result, step = .ok result

namespace Succeeds

variable {α β : Type u}

/-- Success has a result. -/
theorem ok (result : α) : Succeeds (.ok result) :=
  ⟨result, rfl⟩

/-- A failure is no success. -/
theorem not_error (failure : Error) : ¬ Succeeds (.error failure : Except Error α) := by
  rintro ⟨_, ⟨⟩⟩

/-- A step and what follows it succeed when the step does and what follows its result does. -/
theorem bind_iff {step : Except Error α} {next : α → Except Error β} :
    Succeeds (step >>= next) ↔ ∃ value, step = .ok value ∧ Succeeds (next value) := by
  -- A success is taken apart at the step, and put together from it again.
  constructor
  · rintro ⟨result, done⟩
    obtain ⟨value, first, last⟩ := bind_eq_ok_iff.mp done
    exact ⟨value, first, result, last⟩
  · rintro ⟨value, first, result, last⟩
    exact ⟨result, bind_eq_ok_iff.mpr ⟨value, first, last⟩⟩

/-- A step and what follows it succeed together when its result does not matter to success. -/
theorem bind_iff_and {step : Except Error α} {next : α → Except Error β} {later : Prop}
    (same : ∀ value, Succeeds (next value) ↔ later) :
    Succeeds (step >>= next) ↔ Succeeds step ∧ later := by
  -- What follows does not depend on the result, so the result can be forgotten.
  rw [bind_iff]
  exact (exists_congr fun value => and_congr_right fun _ => same value).trans exists_and_right

/-- Putting a result into another form never fails. -/
theorem bind_pure_iff {step : Except Error α} {form : α → β} :
    (Succeeds do return form (← step)) ↔ Succeeds step :=
  (bind_iff_and fun value => iff_true_intro (ok (form value))).trans (and_iff_left trivial)

/-- Steps on the elements of a list succeed when each one does. -/
theorem mapM_iff {step : α → Except Error β} {elements : List α} :
    Succeeds (elements.mapM step) ↔ ∀ element ∈ elements, Succeeds (step element) := by
  -- The steps are taken in order, and the list of results is only put together from them.
  induction elements with
  | nil => exact iff_of_true (ok []) nofun
  | cons first rest ih =>
    rw [List.mapM_cons, List.forall_mem_cons, ← ih]
    exact bind_iff_and fun _ => bind_pure_iff

end Succeeds

/-- Whether a computation fails in no other way than by some faults. -/
def FailsOnly {α : Type u} (fault : Error → Prop) (step : Except Error α) : Prop :=
  ∀ error, step = .error error → fault error

namespace FailsOnly

variable {α β : Type u} {fault : Error → Prop}

/-- Success is no failure. -/
theorem ok (result : α) : FailsOnly fault (.ok result) :=
  nofun

/-- A failure is the only one of a computation that is nothing else. -/
theorem error {failure : Error} (expected : fault failure) :
    FailsOnly fault (.error failure : Except Error α) := by
  -- There is one failure, and it is the expected one.
  rintro error ⟨⟩
  exact expected

/-- Faults may be described more widely. -/
theorem imp {fault' : Error → Prop} {step : Except Error α} (only : FailsOnly fault step)
    (wider : ∀ error, fault error → fault' error) : FailsOnly fault' step :=
  fun error failed => wider error (only error failed)

/-- A step and all that may follow it fail that way together. -/
theorem bind {step : Except Error α} {next : α → Except Error β} (first : FailsOnly fault step)
    (later : ∀ result, step = .ok result → FailsOnly fault (next result)) :
    FailsOnly fault (step >>= next) := by
  -- Either the step fails, or what follows its result does.
  cases step with
  | error failure =>
    intro error failed
    cases failed
    exact first failure rfl
  | ok result => exact later result rfl

/-- Steps on a list fail that way when each one does that comes after successful ones. -/
theorem mapM {step : α → Except Error β} {elements : List α}
    (each : ∀ before element after, elements = before ++ element :: after →
      (∀ earlier ∈ before, Succeeds (step earlier)) → FailsOnly fault (step element)) :
    FailsOnly fault (elements.mapM step) := by
  -- The induction is on the list, with the successful elements before it growing.
  induction elements with
  | nil => exact ok []
  | cons first rest ih =>
    rw [List.mapM_cons]
    refine (each [] first rest rfl nofun).bind fun result done => ?_
    refine bind (ih fun before element after split earlier => ?_) fun _ _ => ok _
    -- Behind the first element, what came before has the first element in front.
    refine each (first :: before) element after (by rw [split]; rfl) ?_
    exact List.forall_mem_cons.mpr ⟨⟨result, done⟩, earlier⟩

end FailsOnly

/-- A failure that finds fault with a schema. -/
inductive Error.IsMalformed : Error → Prop
  | form (reason : String) : IsMalformed (.schemaFormat reason)
  | typeName (name : String) : IsMalformed (.unknownTypeName name)

/-- Whether a computation fails in no other way than by finding fault with a schema. -/
def OnlyMalformed {α : Type u} (step : Except Error α) : Prop :=
  ∀ error, step = .error error → error.IsMalformed

namespace OnlyMalformed

variable {α β : Type u}

/-- Success is no failure. -/
theorem ok (result : α) : OnlyMalformed (.ok result) :=
  FailsOnly.ok result

/-- A fault of form is one. -/
theorem malformed {α : Type} (reason : String) :
    OnlyMalformed (Schema.malformed reason : Except Error α) :=
  FailsOnly.error (.form reason)

/-- So is one at a value that the message quotes. -/
theorem unexpected {α : Type} (expected : String) (found : Value) :
    OnlyMalformed (Schema.unexpected expected found : Except Error α) :=
  malformed _

/-- A step and all that may follow it fail that way together. -/
theorem bind {step : Except Error α} {next : α → Except Error β} (first : OnlyMalformed step)
    (later : ∀ result, step = .ok result → OnlyMalformed (next result)) :
    OnlyMalformed (step >>= next) :=
  FailsOnly.bind first later

/-- Steps on the elements of a list fail that way when each one does. -/
theorem mapM {step : α → Except Error β} {elements : List α}
    (each : ∀ element ∈ elements, OnlyMalformed (step element)) :
    OnlyMalformed (elements.mapM step) := by
  -- Those before it do not matter where every element fails that way.
  refine FailsOnly.mapM fun before element after split _ => each element ?_
  rw [split]
  exact List.mem_append_right _ List.mem_cons_self

end OnlyMalformed

end BsonTable
