import BsonTable.Library.Standard
import BsonTable.Proofs.Reading.Modes
import BsonTable.Proofs.ResultSet.Simulation

/-! A strict and a relaxed result set go through the same calls together, misfits apart. -/

namespace BsonTable

namespace Header

/-- Only the caller can be wrong about the position of a column. -/
theorem column_fails {header : Header} {index : Nat} {error : Error}
    (failed : header.column index = .error error) : error.isCaller = true := by
  unfold column at failed
  split at failed
  · -- Columns are counted from one.
    cases failed
    rfl
  · -- Nor is there a column behind the last one.
    split at failed <;> cases failed
    rfl

/-- Only the caller can be wrong about a column. -/
theorem resolve_fails {header : Header} {ref : ColumnAddress} {error : Error}
    (failed : header.resolve ref = .error error) : error.isCaller = true := by
  -- An index is resolved by looking the column up, a label by searching for it.
  cases ref with
  | index index =>
    have failed : (header.column index).map (fun _ => index) = .error error := failed
    cases found : header.column index with
    | error failure =>
      rw [found] at failed
      cases failed
      exact column_fails found
    | ok column =>
      rw [found] at failed
      cases failed
  | label label =>
    -- The only failure is that of an unknown label.
    unfold resolve at failed
    dsimp only at failed
    split at failed <;> cases failed
    rfl

end Header

namespace ResultSet

variable {σ : Type u} {π : Type v} {τ : Type w}

/-- Locating a value fails at the wrong time or with the wrong column, but never for the value. -/
theorem locate_fails {rs : ResultSet σ π τ} {ref : ColumnAddress} {error : Error}
    (failed : rs.locate ref = .error error) :
    error.isLifecycle = true ∨ error.isCaller = true := by
  rw [locate_eq] at failed
  split at failed
  · -- Off the rows, it is the position that is wrong.
    cases failed
    exact .inl rfl
  · cases failed
    exact .inl rfl
  · cases failed
    exact .inl rfl
  · -- On a row, only the reference can be wrong.
    simp only [bind, Except.bind] at failed
    split at failed
    · rename_i resolved
      cases failed
      exact .inr (Header.resolve_fails resolved)
    · split at failed
      · rename_i found
        cases failed
        exact .inr (Header.column_fails found)
      · cases failed

/-- What is read is the value that is located, in the mode of the result set. -/
theorem read_answer [Libraries] (rs : ResultSet σ π τ) (ref : ColumnAddress) (target : Target) :
    (rs.read ref target).1 =
      (rs.locate ref).bind fun found => target.read rs.mode found.1.type found.2 := by
  -- Reading is locating first, and what was located decides the rest.
  unfold read
  cases rs.locate ref with
  | error _ => rfl
  | ok found =>
    dsimp only [Except.bind]
    split <;> rename_i read <;> exact read.symm

/-- Two result sets that differ in nothing but the mode and what they remember of reads. -/
structure Twins (strict relaxed : ResultSet σ π τ) : Prop where
  strictly : strict.mode = .strict
  same : relaxed = { strict with mode := .relaxed, lastReadNull := relaxed.lastReadNull }

/-- How a strict and a relaxed answer to reading what was located go together. -/
structure ReadTogether (target : Target) (located : Except Error (Column × Value))
    (strict relaxed : Except Error Reading) : Prop where
  /-- What is read strictly is read relaxedly too. -/
  fits : ∀ reading, strict = .ok reading → relaxed = .ok reading
  /-- Any failure but a mismatch is the same in both modes. -/
  fails : ∀ error, strict = .error error →
    (∀ source named, error ≠ .typeMismatch source named) → relaxed = .error error
  /-- A mismatch names the type of a value that is present, and reads relaxedly as zero. -/
  misfits : ∀ source named, strict = .error (.typeMismatch source named) →
    ∃ column value, located = .ok (column, value) ∧ source = value.typeName.text ∧
      value.isNullLike = false ∧ relaxed = .ok (target.zero column.type)

/-- A value that is not located fails to be read in both modes. -/
theorem ReadTogether.unlocated (target : Target) {located : Except Error (Column × Value)}
    {failure : Error} (kind : failure.isLifecycle = true ∨ failure.isCaller = true) :
    ReadTogether target located (.error failure) (.error failure) where
  fits := by
    intro reading fits
    cases fits
  fails := fun _ same _ => same
  misfits := by
    intro source named misfit
    cases misfit
    -- A mismatch is a failure of neither kind.
    rcases kind with lifecycle | caller
    · cases lifecycle
    · cases caller

/-- Readings that go together as those of a located value do so as answers. -/
theorem ReadTogether.located {target : Target} {column : Column} {value : Value}
    {strict relaxed : Except Error Reading}
    (lenient : Lenient value (target.zero column.type) strict relaxed) :
    ReadTogether target (.ok (column, value)) strict relaxed := by
  -- A located value fits both ways, or is a misfit of the strict reading alone.
  cases lenient with
  | fits reading =>
    refine ⟨fun _ same => same, ?_, ?_⟩
    · intro error fails
      cases fails
    · intro source named misfit
      cases misfit
  | misfits present named =>
    refine ⟨?_, ?_, ?_⟩
    · intro reading fits
      cases fits
    · intro error fails other
      -- The one failure is the mismatch itself.
      cases fails
      exact absurd rfl (other _ _)
    · intro source other misfit
      cases misfit
      exact ⟨column, value, rfl, rfl, present, rfl⟩

/-- How the answers of a strict and a relaxed result set to any call go together. -/
structure AnswerTogether [Libraries] [DocumentCursor σ] [HeaderProvider π] [OwningStatement τ]
    (strict relaxed : ResultSet σ π τ) : Prop where
  /-- What shows neither the mode nor earlier reads is answered the same. -/
  plain : ∀ call, call.isModal = false → (relaxed.perform call).1 = (strict.perform call).1
  reads : ∀ ref target,
    ReadTogether target (strict.locate ref) (strict.read ref target).1 (relaxed.read ref target).1

section Twins

variable {strict relaxed : ResultSet σ π τ}

/-- Twins read the same value, each in its own mode. -/
theorem Twins.reads [Libraries] (twins : Twins strict relaxed) (ref : ColumnAddress)
    (target : Target) :
    ReadTogether target (strict.locate ref) (strict.read ref target).1
      (relaxed.read ref target).1 := by
  have located : relaxed.locate ref = strict.locate ref := by
    rw [twins.same]
    rfl
  have relaxedly : relaxed.mode = .relaxed := by
    rw [twins.same]
  -- Only what is made of the located value can differ.
  rw [read_answer, read_answer, located, twins.strictly, relaxedly]
  cases place : strict.locate ref with
  | error failure => exact .unlocated target (locate_fails place)
  | ok found => exact .located (target.read_lenient found.1.type found.2)

variable [DocumentCursor σ] [HeaderProvider π] [OwningStatement τ]

/-- Any call leaves twins behind. -/
theorem Twins.perform [Libraries] (twins : Twins strict relaxed) (call : Call) :
    Twins (strict.perform call).2 (relaxed.perform call).2 := by
  have strictly := twins.strictly
  -- The relaxed twin is the strict one in another mode, with a memory of its own.
  obtain ⟨memory, rfl⟩ : ∃ memory, relaxed = strict.through id .relaxed memory := ⟨_, twins.same⟩
  cases plain : call.isModal with
  | false =>
    rw [(perform_through .relaxed memory respects_id plain strict).1]
    exact ⟨(perform_modal plain strict).1.trans strictly, rfl⟩
  | true =>
    cases call with
    | wasNull => exact ⟨strictly, rfl⟩
    | mode => exact ⟨strictly, rfl⟩
    | summary => exact ⟨strictly, rfl⟩
    | read ref target =>
      -- Whatever is read, either side changes its memory alone.
      show Twins (strict.read ref target).2 ((strict.through id .relaxed memory).read ref target).2
      rw [read_eq, read_eq (strict.through id .relaxed memory)]
      exact ⟨strictly, rfl⟩
    | _ => cases plain

/-- Twins answer any call together. -/
theorem Twins.answers [Libraries] (twins : Twins strict relaxed) :
    AnswerTogether strict relaxed where
  plain := by
    intro call plain
    -- Twins are images of each other under the identity of cursors.
    obtain ⟨memory, rfl⟩ : ∃ memory, relaxed = strict.through id .relaxed memory :=
      ⟨_, twins.same⟩
    exact (perform_through .relaxed memory respects_id plain strict).2 (.inl closesAlike_id)
  reads := twins.reads

/-- Any calls leave twins behind. -/
theorem Twins.run [Libraries] (twins : Twins strict relaxed) (calls : List Call) :
    Twins (run calls strict).2 (ResultSet.run calls relaxed).2 := by
  -- The induction is on the calls, from whatever twins the first of them leaves.
  induction calls generalizing strict relaxed with
  | nil => exact twins
  | cons call rest ih => exact ih (twins.perform call)

end Twins

section Opening

/-- Two openings that go together: both succeed with related result sets, or both fail alike. -/
def OpenedTogether (related : ResultSet σ π τ → ResultSet σ π τ → Prop) :
    Except (OpenFailure σ) (ResultSet σ π τ) → Except (OpenFailure σ) (ResultSet σ π τ) → Prop
  | .ok first, .ok second => related first second
  | .error first, .error second => first = second
  | _, _ => False

/-- Opened relaxedly, a strict result set has a twin. -/
theorem openedThrough_together {related : ResultSet σ π τ → ResultSet σ π τ → Prop}
    {opened : Except (OpenFailure σ) (ResultSet σ π τ)}
    (strictly : ∀ rs, opened = .ok rs → rs.mode = .strict)
    (twins : ∀ {strict relaxed}, Twins strict relaxed → related strict relaxed) :
    OpenedTogether related opened (openedThrough id .relaxed opened) := by
  -- Both openings fail alike, or the image of what was opened is its twin.
  cases opened with
  | error failure => rfl
  | ok rs => exact twins ⟨strictly rs rfl, rfl⟩

variable [DocumentCursor σ] [HeaderProvider π] [OwningStatement τ]

/-- How two result sets with the same statement stand to each other after the same calls. -/
def RunTogether [Libraries] (statement : Option τ) (calls : List Call)
    (strict relaxed : ResultSet σ π τ) :
    Prop :=
  let strict := (run calls { strict with statement }).2
  let relaxed := (run calls { relaxed with statement }).2
  Twins strict relaxed ∧ AnswerTogether strict relaxed

/-- Twins run together, whatever statement is attached to both. -/
theorem Twins.together [Libraries] {strict relaxed : ResultSet σ π τ} (twins : Twins strict relaxed)
    (statement : Option τ) (calls : List Call) : RunTogether statement calls strict relaxed := by
  -- Attaching a statement is one more change that both sides make.
  have attached : Twins { strict with statement } { relaxed with statement } := by
    refine ⟨twins.strictly, ?_⟩
    rw [twins.same]
  -- After the run both are twins still, so the next call is answered together.
  have ran := attached.run calls
  exact ⟨ran, ran.answers⟩

/--
Result sets that are opened alike but for the mode are opened together and run together.

After any calls they differ in nothing but the mode and what they remember of reads, and they
answer the next call together, over a provider of columns as well as over data alone.
-/
theorem relaxed_follows_strict [Libraries] (cursor : σ) (options : Options) (statement : Option τ)
    (calls : List Call) :
    (∀ provider : π, OpenedTogether (RunTogether statement calls)
      (openWith cursor provider { options with mode := .strict })
      (openWith cursor provider { options with mode := .relaxed })) ∧
    (∀ opening : Opening, OpenedTogether (RunTogether statement calls)
      (opening.start cursor { options with mode := .strict })
      (opening.start cursor { options with mode := .relaxed })) := by
  constructor
  · intro provider
    -- The relaxed opening is the image of the strict one over the same cursor.
    have same : (openWith cursor provider { options with mode := .relaxed } :
        Except _ (ResultSet σ π τ)) =
        openedThrough id .relaxed (openWith cursor provider { options with mode := .strict }) :=
      openWith_through respects_id cursor provider { options with mode := .strict } .relaxed
    rw [same]
    exact openedThrough_together (fun _ opened => (openWith_fresh opened).mode)
      fun twins => twins.together statement calls
  · intro opening
    have same : (opening.start cursor { options with mode := .relaxed } :
        Except _ (ResultSet σ HeaderSource τ)) =
        openedThrough id .relaxed (opening.start cursor { options with mode := .strict }) :=
      Opening.start_through respects_id opening cursor { options with mode := .strict } .relaxed
    rw [same]
    exact openedThrough_together (fun _ opened => (Opening.start_fresh opened).mode)
      fun twins => twins.together statement calls

/-- A text that is read as a number is a failure of the strict one and zero in the relaxed one. -/
theorem relaxed_follows_strict_text :
    let queue : DocumentQueue := { documents := [[("n", .string "seven")]] }
    let calls : List Call := [.next, .read (.label "n") .int, .rowNumber]
    ∃ strict relaxed : ResultSet DocumentQueue HeaderSource Statement,
      Opening.ofRows.start queue { mode := .strict } = .ok strict ∧
      Opening.ofRows.start queue { mode := .relaxed } = .ok relaxed ∧
      (run calls strict).1 =
        [.ok (.flag true), .error (.typeMismatch "string" "int"), .ok (.number 1)] ∧
      (run calls relaxed).1 =
        [.ok (.flag true), .ok (.reading (.int 0)), .ok (.number 1)] ∧
      RunTogether none calls strict relaxed := by
  intro queue calls
  have together := (relaxed_follows_strict (π := HeaderSource) queue {} (none : Option Statement)
    calls).2 .ofRows
  exact ⟨_, _, rfl, rfl, rfl, rfl, together⟩

end Opening

end ResultSet

end BsonTable
