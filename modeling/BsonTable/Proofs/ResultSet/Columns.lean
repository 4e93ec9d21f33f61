import BsonTable.Proofs.ResultSet.Delivery

/-! The columns that a result set shows over time, and how its current row stands under them. -/

namespace BsonTable

/-- How the row of a document stands under columns. -/
structure Row.Fits (header : Header) (doc : Document) (row : Row) : Prop where
  /-- There are as many values as columns. -/
  size : row.size = header.count
  /-- Each value is that of the column at its place. -/
  values : ∀ position : Nat,
    row.values[position]? = (header.columns[position]?).map (Column.extract · doc)
  /-- A column that a reference means is there, and so is its value. -/
  found : ∀ ref index, header.resolve ref = .ok index →
    ∃ column, header.column index = .ok column ∧ row.get? index = some (column.extract doc)

/-- The row of a document under some columns fits them. -/
theorem Row.ofDocument_fits (header : Header) (doc : Document) :
    (Row.ofDocument header doc).Fits header doc where
  size := List.length_map _
  values := fun _ => List.getElem?_map
  found := by
    intro ref index resolved
    -- A reference means only what is there, and the row has one value for each column.
    obtain ⟨column, found⟩ := Header.column_of_resolve resolved
    exact ⟨column, found, ofDocument_get? found doc⟩

namespace ResultSet

section Showing

variable {σ : Type u} {π : Type v} {τ : Type w}

/-- While it is open, a result set shows its columns. -/
theorem currentHeader_of_open {rs : ResultSet σ π τ} (opened : rs.position ≠ .closed) :
    rs.currentHeader = .ok rs.header :=
  whenOpen_of_open opened _

/-- On a row, the number of rows delivered so far is its own. -/
theorem rowNumber_of_onRow {rs : ResultSet σ π τ} {row : Row}
    (position : rs.position = .onRow row) :
    rs.rowNumber = .ok rs.rowCount := by
  simp [rowNumber_eq, whenOpen, isClosed_eq, position, Position.row?]

/-- Which columns a result set shows, and how the current row stands under them. -/
structure InStep (docs : List Document) (source : HeaderSource) (opened : Header)
    (rs : ResultSet σ HeaderSource τ) : Prop where
  /-- Columns of a known schema stay what they were at the opening. -/
  known : source.strategy = .schemaKnown → rs.position ≠ .closed → rs.currentHeader = .ok opened
  /-- Before the first row, columns of rows are those of the first document, if there is one. -/
  before : source.strategy = .rowDerived → rs.position = .beforeFirst →
    rs.currentHeader = .ok (source.describe docs.head?)
  /-- On a row, columns of rows are those of its document, and under either strategy it fits. -/
  current : ∀ row, rs.position = .onRow row → ∃ count doc,
    rs.rowNumber = .ok (count + 1) ∧ docs[count]? = some doc ∧ row.Fits rs.header doc ∧
      (source.strategy = .rowDerived → rs.currentHeader = .ok (source.describe (some doc)))
  /-- Behind the last row, columns of rows are still those of the last document. -/
  behind : source.strategy = .rowDerived → rs.position = .afterLast →
    rs.currentHeader = .ok (source.describe docs.getLast?)
  /-- Without any document, the columns stay what they were at the opening. -/
  empty : docs = [] → rs.position ≠ .closed → rs.currentHeader = .ok opened
  /-- What is read of a row is the value at the place of its column, and never stands in for it. -/
  located : ∀ row, rs.position = .onRow row → ∀ ref index, rs.header.resolve ref = .ok index →
    ∃ column value, rs.header.column index = .ok column ∧ row.get? index = some value ∧
      rs.locate ref = .ok (column, value)

/-- The record of a cursor has no part in the columns. -/
theorem InStep.unrecorded {docs : List Document} {source : HeaderSource} {opened : Header}
    {rs : ResultSet (Recorded σ) HeaderSource τ} (inStep : rs.InStep docs source opened) :
    rs.unrecorded.InStep docs source opened :=
  ⟨inStep.known, inStep.before, inStep.current, inStep.behind, inStep.empty, inStep.located⟩

end Showing

section Standing

variable {σ : Type u} {τ : Type w} [DocumentCursor σ]
  {docs : List Document} {source : HeaderSource} {rs : ResultSet (Recorded σ) HeaderSource τ}

/-- Where it is not closed, a result set shows the columns of the document delivered last. -/
theorem Delivering.shows (delivering : rs.Delivering docs source) {place : Position}
    (position : rs.position = place) (opened : place ≠ .closed) :
    rs.currentHeader = .ok (source.describe docs[rs.rowCount - 1]?) := by
  -- Before any row the count is zero, and so is one less, which means the first document.
  rw [← delivering.header]
  rw [← position] at opened
  exact currentHeader_of_open opened

/-- The current row is that of the document delivered last. -/
theorem Delivering.onRow (delivering : rs.Delivering docs source) {row : Row}
    (position : rs.position = .onRow row) : ∃ count doc,
      rs.rowCount = count + 1 ∧ docs[count]? = some doc ∧ row = .ofDocument rs.header doc := by
  have standing := delivering.standing
  unfold Standing at standing
  rw [position] at standing
  exact standing.1

/-- Columns and rows that are kept by every call are in step. -/
theorem Delivering.inStep (delivering : rs.Delivering docs source) :
    rs.InStep docs source (source.describe docs.head?) where
  known := by
    intro known opened
    -- A known schema describes every document alike.
    rw [delivering.shows rfl opened, source.describe_schemaKnown known _ docs.head?]
  before := by
    intro _ position
    have standing := delivering.standing
    unfold Standing at standing
    rw [position] at standing
    rw [delivering.shows position nofun, standing.1, List.head?_eq_getElem?]
  current := by
    intro row position
    obtain ⟨count, doc, counted, found, rfl⟩ := delivering.onRow position
    have number : rs.rowNumber = .ok (count + 1) := counted ▸ rowNumber_of_onRow position
    refine ⟨count, doc, number, found, Row.ofDocument_fits _ doc, ?_⟩
    intro _
    -- The document delivered last is the one whose row this is.
    rw [delivering.shows position nofun, counted, Nat.add_sub_cancel, found]
  behind := by
    intro _ position
    have standing := delivering.standing
    unfold Standing at standing
    rw [position] at standing
    -- Every document was delivered, so the one delivered last is the last of all.
    rw [delivering.shows position nofun, standing, List.getLast?_eq_getElem?]
  empty := by
    rintro rfl opened
    -- Whatever the count, it counts no document here, as at the opening.
    rw [delivering.shows rfl opened]
    rfl
  located := by
    intro row position ref index resolved
    obtain ⟨_, doc, _, _, rfl⟩ := delivering.onRow position
    -- The column and the value are found at the same place, so no null is made up for it.
    obtain ⟨column, found, value⟩ := (Row.ofDocument_fits rs.header doc).found ref index resolved
    exact ⟨column, _, found, value, locate_of_onRow position resolved found⟩

/--
The columns of a result set follow its rows, and every row stands under its own columns.

This holds after any calls over a cursor that serves some documents, however often it fails, and
for both sources of columns: those of a known schema never change, those of rows change together
with the row.
-/
theorem columns_follow_rows [Libraries] [OwningStatement τ] {cursor : σ}
    (serves : Serves cursor docs)
    {opening : Opening} {options : Options} {rs : ResultSet σ HeaderSource τ}
    (opened : opening.start cursor options = .ok rs) (statement : Option τ) (calls : List Call) :
    (run calls { rs with statement }).2.InStep docs rs.provider rs.header := by
  -- What is kept is known of cursors that keep a record, so the run is followed on one of those.
  obtain ⟨recorded, started, rfl⟩ := Opening.start_recorded opened
  obtain ⟨delivering, fresh⟩ := start_delivering serves started statement
  -- Right after the opening, no row was delivered.
  have header : recorded.header = recorded.provider.describe docs.head? := by
    have shown : recorded.header = recorded.provider.describe docs[recorded.rowCount - 1]? :=
      delivering.header
    rw [shown, fresh, List.head?_eq_getElem?]
  have kept := run_preserves calls (fun call _ _ kept => Delivering.perform call kept) delivering
  have inStep := kept.inStep
  rw [← header] at inStep
  -- The same calls lead to the same place without the record.
  have same := run_unrecorded calls { recorded with statement }
  show (run calls { recorded with statement }.unrecorded).2.InStep docs recorded.provider
    recorded.header
  rw [same]
  exact inStep.unrecorded

/--
Two documents with different fields are shown under columns of their own, one after the other, and
what is read under the second ones is the second document's.
-/
theorem columns_follow_rows_two :
    let docs : List Document := [[("n", .string "first")], [("sum", .int 2), ("n", .null)]]
    let queue : DocumentQueue := { documents := docs }
    let calls : List Call := [.header, .next, .next, .read (.label "SUM") .int]
    Serves queue docs ∧ ∃ rs : ResultSet DocumentQueue HeaderSource Statement,
      Opening.ofRows.start queue {} = .ok rs ∧
      let outcome := run calls { rs with statement := some ({} : Statement) }
      outcome.2.InStep docs rs.provider rs.header ∧
        rs.header.columns.map (·.label) = ["n"] ∧
        outcome.1 = [.ok (.header rs.header), .ok (.flag true), .ok (.flag true),
          .ok (.reading (.int 2))] ∧
        outcome.2.currentHeader = .ok (rs.provider.describe docs.getLast?) ∧
        outcome.2.header.columns.map (·.label) = ["sum", "n"] := by
  intro docs queue calls
  have serves := DocumentQueue.serves docs
  have opened : (Opening.ofRows.start queue {} : Except _ (ResultSet _ _ Statement)) = .ok _ :=
    rfl
  have inStep := columns_follow_rows serves opened (some ({} : Statement)) calls
  refine ⟨serves, _, opened, inStep, rfl, rfl, ?_, rfl⟩
  -- The second document is current, so the columns shown are its own.
  obtain ⟨count, doc, number, found, -, shown⟩ := inStep.current _ rfl
  cases number
  cases found
  exact shown rfl

end Standing

end ResultSet

end BsonTable
