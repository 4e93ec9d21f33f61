import BsonTable.Library.Standard
import BsonTable.Proofs.ResultSet.Position
import BsonTable.Proofs.Table.Addressing
import BsonTable.ResultSet.Call

/-!
Columns by their labels. A label stands for the position that it is found at: on a row, and over
whole runs in which the columns may change from row to row.
-/

namespace BsonTable

namespace ResultSet

variable {σ : Type u} {π : Type v} {τ : Type w}

section Reading

variable {rs : ResultSet σ π τ} {label : String} {index : Nat}

/-- A label that is found reads as its position does, wherever the result set stands. -/
theorem read_found [Libraries] (found : rs.header.find? label = some index) (target : Target) :
    rs.read (.label label) target = rs.read (.index index) target := by
  obtain ⟨byLabel, byPosition⟩ := Header.resolve_found found
  -- Off the rows neither is looked up, and on a row both resolve alike.
  have located : rs.locate (.label label) = rs.locate (.index index) := by
    unfold locate
    simp only [byLabel, byPosition]
  rw [read, read, located]

/-- On a row, a label that is not found is the failure of every reading, which changes nothing. -/
theorem read_missing [Libraries] {row : Row} (current : rs.position = .onRow row)
    (missing : rs.header.find? label = none) (target : Target) :
    rs.read (.label label) target = (.error (.columnNotFound label), rs) := by
  -- A row is needed for the label to be looked up at all.
  have located : rs.locate (.label label) = .error (.columnNotFound label) := by
    simp only [locate_eq, current, Header.resolve, missing]
    rfl
  simp only [read, located]

/-- A result set that is not closed finds a label where its columns have it. -/
theorem findColumn_of_open (opened : rs.isClosed = false) :
    rs.findColumn label = match rs.header.find? label with
      | some index => .ok index
      | none => .error (.columnNotFound label) := by
  rw [findColumn, whenOpen, opened]
  rfl

end Reading

section Running

variable [DocumentCursor σ] [HeaderProvider π] [OwningStatement τ]

/-- A call that reads by the position of a label, where that is found, in place of the label. -/
def byPosition (rs : ResultSet σ π τ) : Call → Call
  | .read (.label label) target =>
    match rs.findColumn label with
    | .ok index => .read (.index index) target
    | .error _ => .read (.label label) target
  | call => call

/-- A run in which every label gives way to the position that it is found at by then. -/
def runByPosition [Libraries] :
    List Call → ResultSet σ π τ → List (Except Error Answer) × ResultSet σ π τ
  | [], rs => ([], rs)
  -- The position is looked up when the call is made, not when the run begins.
  | call :: rest, rs =>
    let (answer, rs) := rs.perform (rs.byPosition call)
    let (answers, rs) := runByPosition rest rs
    (answer :: answers, rs)

/-- A call does the same by position as by label. -/
theorem perform_byPosition [Libraries] (call : Call) (rs : ResultSet σ π τ) :
    rs.perform (rs.byPosition call) = rs.perform call := by
  -- Only reading by a label can change, and only where the label is found.
  unfold byPosition
  split
  · rename_i label target
    split
    · rename_i index told
      -- Only an open result set finds a label, and it does so among its columns.
      have found : rs.header.find? label = some index := by
        cases closed : rs.isClosed with
        | true => simp [findColumn, whenOpen, closed] at told
        | false =>
          rw [findColumn_of_open closed] at told
          split at told <;> simp_all
      rw [perform, perform, read_found found]
    · rfl
  · rfl

/-- A run does the same by position as by label, also where columns move from row to row. -/
theorem runByPosition_eq [Libraries] (calls : List Call) (rs : ResultSet σ π τ) :
    runByPosition calls rs = run calls rs := by
  -- Both go on from the same result set, whatever columns it has by then.
  induction calls generalizing rs with
  | nil => rfl
  | cons call rest ih => simp only [runByPosition, run, perform_byPosition, ih]

end Running

/--
A label is found at the first column that carries it exactly, or else at the first that carries it
up to the case of ASCII letters, so that an exact match anywhere beats all others. On a row, a label
that is found reads as its position does, and any other is the failure of every reading.
-/
theorem labels_stand_for_positions [Libraries] (label : String) :
    (∀ (header : Header) (index : Nat), header.find? label = some index ↔
      header.IsFirst (·.label = label) index ∨
        (∀ column ∈ header.columns, column.label ≠ label) ∧
          header.IsFirst (Text.SameButCase ·.label label) index) ∧
    (∀ header : Header, header.find? label = none ↔ ∀ column ∈ header.columns,
      column.label ≠ label ∧ ¬ Text.SameButCase column.label label) ∧
    (∀ (header : Header) (index : Nat) (column : Column), header.column index = .ok column →
      column.label = label →
        ∃ first, header.find? label = some first ∧ header.IsFirst (·.label = label) first) ∧
    ∀ (rs : ResultSet σ π τ) (row : Row), rs.position = .onRow row →
      (∃ index, rs.header.find? label = some index ∧ rs.findColumn label = .ok index ∧
        ∀ target, rs.read (.label label) target = rs.read (.index index) target) ∨
      rs.header.find? label = none ∧ rs.findColumn label = .error (.columnNotFound label) ∧
        ∀ target, rs.read (.label label) target = (.error (.columnNotFound label), rs) := by
  refine ⟨fun _ _ => Header.find?_eq_some_iff, fun _ => Header.find?_eq_none_iff, ?_, ?_⟩
  · intro header index column there exact
    exact Header.find?_of_exact there exact
  · intro rs row current
    -- A result set that stands on a row is open.
    have opened : rs.isClosed = false := isClosed_of_open (current ▸ nofun)
    have told : rs.findColumn label = _ := findColumn_of_open opened
    -- The two cases exclude each other.
    cases found : rs.header.find? label with
    | some index =>
      rw [found] at told
      exact .inl ⟨index, rfl, told, read_found found⟩
    | none =>
      rw [found] at told
      exact .inr ⟨rfl, told, read_missing current found⟩

/-- A label in lower case stands for the second column, though the first carries it up to case. -/
theorem labels_stand_for_positions_later :
    let doc : Document := [("ID", .int 1), ("id", .int 2)]
    let header := HeaderSource.describeRow "" doc
    let rs : ResultSet DocumentQueue HeaderSource Statement :=
      { cursor := { documents := [] }, provider := .rows "" none, header, rowCount := 1,
        rowState := .onRow (.ofDocument header doc)
        mode := .strict }
    (∃ column, header.column 2 = .ok column ∧ column.label = "id") ∧
      (∃ first, header.find? "id" = some first ∧ header.IsFirst (·.label = "id") first) ∧
      (∀ target, rs.read (.label "id") target = rs.read (.index 2) target) ∧
      (∀ target, rs.read (.label "Id") target = rs.read (.index 1) target) ∧
      ∀ target, rs.read (.label "it") target = (.error (.columnNotFound "it"), rs) := by
  -- The three labels stand for the second column, for the first one and for none.
  intro doc header rs
  obtain ⟨_, _, beats, exact⟩ := labels_stand_for_positions (σ := DocumentQueue)
    (π := HeaderSource) (τ := Statement) "id"
  obtain ⟨_, _, _, folded⟩ := labels_stand_for_positions (σ := DocumentQueue)
    (π := HeaderSource) (τ := Statement) "Id"
  obtain ⟨_, _, _, missing⟩ := labels_stand_for_positions (σ := DocumentQueue)
    (π := HeaderSource) (τ := Statement) "it"
  refine ⟨⟨_, rfl, rfl⟩, beats header 2 _ rfl rfl, ?_, ?_, ?_⟩
  · -- The search computes to the second column.
    obtain ⟨index, found, _, alike⟩ | ⟨none, _⟩ := exact rs _ rfl
    · cases found
      exact alike
    · cases none
  · obtain ⟨index, found, _, alike⟩ | ⟨none, _⟩ := folded rs _ rfl
    · cases found
      exact alike
    · cases none
  · -- No case makes one label of the other, so nothing is found.
    obtain ⟨index, found, _⟩ | ⟨_, _, fails⟩ := missing rs _ rfl
    · cases found
    · exact fails

end ResultSet

end BsonTable
