import BsonTable.Library.Standard
import BsonTable.Proofs.ResultSet.Invariant

/-! Rows come in the order of the documents, whatever else is asked in between. -/

namespace BsonTable.ResultSet

section Reading

variable {σ : Type u} {π : Type v} {τ : Type w}

/-- Whether every column that can be addressed reads from a document. -/
def Reads [Libraries] (rs : ResultSet σ π τ) (doc : Document) : Prop :=
  ∀ ref target index column, rs.header.resolve ref = .ok index →
    rs.header.column index = .ok column →
      -- The value is that of the document, read with the mode and by the type of the column.
      (rs.read ref target).1 = target.read rs.mode column.type (column.extract doc)

/-- On the row of a document, a column that is addressed is located with its value there. -/
theorem locate_of_onRow {rs : ResultSet σ π τ} {doc : Document}
    (position : rs.position = .onRow (.ofDocument rs.header doc)) {ref : ColumnAddress}
    {index : Nat} {column : Column} (resolved : rs.header.resolve ref = .ok index)
    (found : rs.header.column index = .ok column) :
    rs.locate ref = .ok (column, column.extract doc) := by
  -- The reference leads to the column, and the row has a value for each column.
  rw [locate_eq]
  rw [position]
  dsimp only
  rw [resolved]
  show (do
    let column ← rs.header.column index
    return (column, ((Row.ofDocument rs.header doc).get? index).getD .null)) = _
  rw [found, Row.ofDocument_get? found]
  rfl

/-- On the row of a document, columns read from it. -/
theorem reads_of_onRow [Libraries] {rs : ResultSet σ π τ} {doc : Document}
    (position : rs.position = .onRow (.ofDocument rs.header doc)) : rs.Reads doc := by
  intro ref target index column resolved found
  -- On a row, reading is locating and converting, and the rest only remembers whether it was null.
  unfold read
  rw [locate_of_onRow position resolved found]
  dsimp only
  cases target.read rs.mode column.type (column.extract doc) <;> rfl

end Reading

variable {σ : Type u} {τ : Type w} [DocumentCursor σ]

/-- Whether the next row to be delivered is that of the document at a position, if there is one. -/
def Continues (docs : List Document) (count : Nat) (rs : ResultSet σ HeaderSource τ) : Prop :=
  -- A failure promises nothing about what comes next.
  ∀ more, rs.next.1 = .ok more →
    more = decide (count < docs.length) ∧
      ∀ doc, docs[count]? = some doc →
        rs.next.2.position = .onRow (.ofDocument rs.next.2.header doc)

/-- What a number of deliveries means for a result set over a cursor that serves documents. -/
structure Delivered [Libraries] [OwningStatement τ] (docs : List Document) (source : HeaderSource)
    (count : Nat) (rs : ResultSet (Recorded σ) HeaderSource τ) : Prop where
  /-- There are never more rows than documents. -/
  within : count ≤ docs.length
  /-- No document is handed over early, except the one that shows the first columns. -/
  handed : rs.cursor.handedOver = docs.take (source.strategy.fetched count)
  /-- The columns are those of the document delivered last, or of the first one before any row. -/
  columns : rs.header = source.describe docs[count - 1]?
  /-- The current row is that of the document delivered last. -/
  current : ∀ row, rs.position = .onRow row →
    ∃ doc, 0 < count ∧ docs[count - 1]? = some doc ∧ row = .ofDocument rs.header doc ∧
      rs.Reads doc
  /-- The next row is that of the following document. -/
  continues : rs.Continues docs count
  /-- Only a closed result set and a failing cursor keep the next row from coming. -/
  failing : ∀ error, rs.next.1 = .error error →
    rs.position = .closed ∨ (DocumentCursor.next rs.cursor).1 = .error error ∨
      (DocumentCursor.close (DocumentCursor.next rs.cursor).2).1 = .error error
  /-- Calls other than moving on leave the next row as it is. -/
  undisturbed : ∀ call, call ≠ .next → (rs.perform call).2.Continues docs count
  /-- Calls other than moving on and closing leave the current row as it is. -/
  steady : ∀ call, call ≠ .next → call ≠ .close →
    (rs.perform call).2.position = rs.position ∧ (rs.perform call).2.header = rs.header

variable {docs : List Document} {source : HeaderSource}
  {rs : ResultSet (Recorded σ) HeaderSource τ}

/-- Where the invariant holds, the next row is the one after those delivered so far. -/
theorem Delivering.continues (delivering : rs.Delivering docs source) :
    rs.Continues docs rs.rowCount := by
  -- What going on can do is taken case by case.
  intro more answer
  have advance := next_advance rs
  generalize rs.next = outcome at advance answer ⊢
  -- Behind the last row, and when no document is left, the answer is no and none can follow.
  have ended : docs.length ≤ rs.rowCount → false = decide (rs.rowCount < docs.length) ∧
      ∀ doc, docs[rs.rowCount]? = some doc →
        outcome.2.position = .onRow (.ofDocument outcome.2.header doc) := by
    intro all
    refine ⟨(decide_eq_false (by omega)).symm, ?_⟩
    intro doc found
    have below := (List.getElem?_eq_some_iff.mp found).1
    omega
  cases advance with
  | closed _ => cases answer
  | past position =>
    cases answer
    have standing := delivering.standing
    unfold Standing at standing
    rw [position] at standing
    exact ended (Nat.le_of_eq standing.symm)
  | failed _ _ => cases answer
  | @exhausted after ready taken =>
    have all := ((delivering.ahead ready).exhausted taken).1
    have no := finish_ok answer
    subst no
    exact ended all
  | @entered next after ready taken =>
    -- The document that was taken is the one at the position, so a row comes.
    have found := ((delivering.ahead ready).taken taken).1
    have below := (List.getElem?_eq_some_iff.mp found).1
    rw [(delivering.entered ready taken).1] at answer ⊢
    cases answer
    refine ⟨(decide_eq_true below).symm, ?_⟩
    intro doc also
    obtain rfl : next = doc := Option.some.inj (found.symm.trans also)
    rfl

/-- Where the invariant holds, going to the next row fails only with the cursor. -/
theorem Delivering.failing (delivering : rs.Delivering docs source) {error : Error}
    (answer : rs.next.1 = .error error) :
    rs.position = .closed ∨ (DocumentCursor.next rs.cursor).1 = .error error ∨
      (DocumentCursor.close (DocumentCursor.next rs.cursor).2).1 = .error error := by
  -- Of the ways to go on, only those that end in a failure are left.
  have advance := next_advance rs
  generalize rs.next = outcome at advance answer
  cases advance with
  | closed position => exact .inl position
  | past _ => cases answer
  | @failed failure after ready taken =>
    cases answer
    -- Only the cursor can have failed to give a document.
    rcases takeDocument_held (delivering.ahead ready).1 with ⟨doc, _, does⟩ | ⟨_, does⟩
    · rw [does] at taken
      cases taken
    · rw [does] at taken
      exact .inr (.inl (congrArg Prod.fst taken))
  | @exhausted after ready taken =>
    rcases takeDocument_held (delivering.ahead ready).1 with ⟨doc, _, does⟩ | ⟨_, does⟩
    · rw [does] at taken
      cases taken
    · -- The cursor that is let go is the one that was just asked.
      rw [does] at taken
      obtain ⟨_, rfl⟩ := Prod.mk.inj taken
      exact .inr (.inr (finish_fails answer))
  | entered ready taken =>
    rw [(delivering.entered ready taken).1] at answer
    cases answer

/-- Where the invariant holds, it tells what the deliveries so far mean. -/
theorem Delivering.delivered [Libraries] [OwningStatement τ]
    (delivering : rs.Delivering docs source) :
    rs.Delivered docs source rs.rowCount where
  within := delivering.within
  handed := delivering.handed
  columns := delivering.header
  current := by
    intro row position
    -- The position fits the count, so the row is that of the document counted last.
    have standing := delivering.standing
    unfold Standing at standing
    rw [position] at standing
    obtain ⟨⟨count, doc, counted, found, same⟩, _⟩ := standing
    subst same
    rw [counted]
    exact ⟨doc, Nat.succ_pos count, found, rfl, reads_of_onRow position⟩
  continues := delivering.continues
  failing := fun _ answer => delivering.failing answer
  undisturbed := by
    intro call notNext
    -- The invariant holds after the call, with the count as it was.
    have after := (delivering.perform call).continues
    have counted := perform_rowCount call rs
    rw [delivers_of_not_next notNext] at counted
    rwa [counted] at after
  steady := by
    intro call notNext notClose
    have inert := perform_inert notNext notClose rs
    generalize (rs.perform call).2 = after at inert
    cases inert <;> exact ⟨rfl, rfl⟩

/-- A run from the start delivers as many rows as its answers tell. -/
theorem Delivering.run_delivered [Libraries] [OwningStatement τ]
    (delivering : rs.Delivering docs source) (fresh : rs.rowCount = 0) (calls : List Call) :
    (run calls rs).2.Delivered docs rs.provider (deliveries calls (run calls rs).1) := by
  have kept := run_preserves calls (fun call _ _ kept => Delivering.perform call kept) delivering
  have counted := run_rowCount calls rs
  rw [fresh, Nat.zero_add] at counted
  rw [delivering.provider, ← counted]
  exact kept.delivered

/-- However it is opened, a result set delivers the documents of its cursor from the first one
on. -/
theorem start_delivering {cursor : σ} (serves : Serves cursor docs) {opening : Opening}
    {options : Options} (opened : opening.start { cursor } options = .ok rs)
    (statement : Option τ) :
    { rs with statement }.Delivering docs rs.provider ∧ rs.rowCount = 0 := by
  obtain ⟨source, opened⟩ := Opening.start_ok opened
  obtain ⟨delivering, fresh⟩ := Delivering.opened serves opened
  obtain rfl := delivering.provider
  -- The statement has no part in what is delivered.
  exact ⟨delivering.stays rfl rfl rfl rfl
    (delivering.standing.moved rfl rfl rfl fun ahead => ahead), fresh⟩

/--
Rows are delivered in the order of the documents that the cursor serves.

This holds after any calls on any opened result set, and the record of the cursor shows nowhere.
-/
theorem rows_delivered_in_order [Libraries] [OwningStatement τ] {cursor : σ}
    (serves : Serves cursor docs)
    {opening : Opening} {options : Options} (opened : opening.start { cursor } options = .ok rs)
    (statement : Option τ) (calls : List Call) :
    (run calls { rs with statement }).2.Delivered docs rs.provider
      (deliveries calls (run calls { rs with statement }).1) := by
  obtain ⟨delivering, fresh⟩ := start_delivering serves opened statement
  exact delivering.run_delivered fresh calls

/--
Two rows come from two documents, however often it is asked in between what comes next, and each
reads as its document has it.
-/
theorem rows_delivered_in_order_two :
    let docs : List Document := [[("n", .string "first")], [("n", .string "second")]]
    let queue : Recorded DocumentQueue := { cursor := { documents := docs } }
    let calls : List Call := [.isBeforeFirst, .next, .isLast, .read (.label "n") .string, .next]
    Serves queue.cursor docs ∧ ∃ rs : ResultSet (Recorded DocumentQueue) HeaderSource Statement,
      Opening.ofRows.start queue {} = .ok rs ∧
      let outcome := run calls { rs with statement := some ({} : Statement) }
      outcome.2.Delivered docs (.ofRows {}) 2 ∧
        outcome.1 = [.ok (.flag true), .ok (.flag true), .ok (.flag false),
          .ok (.reading (.string (some "first"))), .ok (.flag true)] ∧
        (outcome.2.read (.label "n") .string).1 = .ok (.string (some "second")) := by
  intro docs queue calls
  have opened : (Opening.ofRows.start queue {} : Except _ (ResultSet _ _ Statement)) = .ok _ :=
    rfl
  have serves := DocumentQueue.serves docs
  have delivered := rows_delivered_in_order serves opened (some ({} : Statement)) calls
  refine ⟨serves, _, opened, delivered, rfl, ?_⟩
  -- The row is that of the second document, which its column reads from.
  obtain ⟨doc, -, found, -, reads⟩ := delivered.current _ rfl
  cases found
  exact reads (.label "n") .string 1 _ rfl rfl

end BsonTable.ResultSet
