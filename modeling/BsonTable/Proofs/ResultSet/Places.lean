import BsonTable.Proofs.ResultSet.Cursor
import BsonTable.Proofs.ResultSet.Steps

/-!
Result sets over cursors that never fail: the place among the documents decides what they answer
about it, and where they go next.
-/

namespace BsonTable

section Showing

variable {π : Type v} [HeaderProvider π]

/-- The provider of columns and the columns shown, once the row of a document was entered. -/
def HeaderProvider.showRow (doc : Document) (shown : π × Header) : Except Error (π × Header) :=
  match HeaderProvider.strategy shown.1 with
  | .schemaKnown => .ok shown
  | .rowDerived =>
    match HeaderProvider.describe (some doc) shown.1 with
    | (.error error, _) => .error error
    | (.ok header, provider) => .ok (provider, header)

variable (π) in
/-- Whether providers of this kind find the columns of any row, and those of the result. -/
def Describing : Prop :=
  ∀ (row : Option Document) (provider : π),
    ∃ header, (HeaderProvider.describe row provider).1 = .ok header

/-- Columns that are found from data alone are always found. -/
theorem HeaderSource.describing : Describing HeaderSource :=
  fun row source => ⟨source.describe row, rfl⟩

/-- A provider that finds the columns of any row shows those of the one that is entered. -/
theorem Describing.showRow (describing : Describing π) (doc : Document) (shown : π × Header) :
    ∃ after, HeaderProvider.showRow doc shown = .ok after := by
  obtain ⟨header, described⟩ := describing (some doc) shown.1
  -- Known columns are not looked for again.
  unfold HeaderProvider.showRow
  cases HeaderProvider.strategy shown.1 with
  | schemaKnown => exact ⟨shown, rfl⟩
  | rowDerived =>
    dsimp only
    split
    · rename_i failed
      rw [failed] at described
      cases described
    · exact ⟨_, rfl⟩

end Showing

/-- The place that a call leads to from a place among a number of rows. -/
def Call.placed (rows place : Nat) : Call → Nat
  -- One place behind the last row is the end.
  | .next => min (place + 1) (rows + 1)
  | _ => place

namespace ResultSet

variable {σ : Type u} {π : Type v} {τ : Type w}

/-- A row is entered under the columns that its document is shown under. -/
theorem enterRow_shown [HeaderProvider π] {rs : ResultSet σ π τ} {doc : Document}
    {shown : π × Header}
    (shows : HeaderProvider.showRow doc (rs.provider, rs.header) = .ok shown) :
    rs.enterRow doc = (.ok true, { rs with provider := shown.1 }.standOn shown.2 doc) := by
  -- The strategy decides on both sides.
  unfold HeaderProvider.showRow at shows
  unfold enterRow
  dsimp only at shows
  cases strategy : HeaderProvider.strategy rs.provider with
  | schemaKnown =>
    rw [strategy] at shows
    cases shows
    rfl
  | rowDerived =>
    rw [strategy] at shows
    dsimp only at shows ⊢
    cases described : HeaderProvider.describe (some doc) rs.provider with
    | mk answer provider =>
      rw [described] at shows
      cases answer with
      | error failure => cases shows
      | ok header =>
        cases shows
        rfl

section Holding

variable [DocumentCursor σ]

/-- Whether the cursor is held and the documents still to come are these, none of which can fail. -/
def Holds (waiting : List Document) (rs : ResultSet σ π τ) : Prop :=
  -- What was fetched ahead comes before what the cursor still serves.
  rs.released = false ∧
    ∃ served, ServesReliably rs.cursor served ∧ rs.pending.toList ++ served = waiting

variable {waiting : List Document} {rs after : ResultSet σ π τ}

/-- What touches neither the cursor nor what was fetched ahead keeps what is to come. -/
theorem Holds.kept (holds : rs.Holds waiting) (cursor : after.cursor = rs.cursor)
    (pending : after.pending = rs.pending) (released : after.released = rs.released) :
    after.Holds waiting := by
  -- Being held is about these three fields.
  unfold Holds
  rw [cursor, pending, released]
  exact holds

/-- The first document to come is taken, and the others are to come behind it. -/
theorem Holds.taken (holds : rs.Holds waiting) :
    ∃ after, rs.takeDocument = (.ok waiting.head?, after) ∧ after.Holds waiting.tail := by
  obtain ⟨held, served, serves, rfl⟩ := holds
  obtain ⟨doc, pending, does⟩ | ⟨pending, does⟩ := takeDocument_held held
  · -- The one fetched ahead comes first, so the cursor still serves all the others.
    rw [does, pending]
    exact ⟨_, rfl, held, served, serves, rfl⟩
  · obtain ⟨answer, left⟩ := unfailing_servesReliably.next serves
    rw [does, answer, pending]
    exact ⟨_, rfl, held, served.tail, left, rfl⟩

/-- There is more exactly when some document is to come. -/
theorem Holds.hasMore (holds : rs.Holds waiting) : rs.hasMore.1 = .ok !waiting.isEmpty := by
  obtain ⟨held, served, serves, rfl⟩ := holds
  -- A document at hand answers the question.
  unfold ResultSet.hasMore
  cases rs.pending with
  | some doc => rfl
  | none =>
    -- Without a document at hand, the cursor is asked, and it knows.
    rw [held]
    exact (unfailing_servesReliably.hasNext serves).1

/-- Letting the cursor go succeeds. -/
theorem Holds.release (holds : rs.Holds waiting) : rs.release.1 = .ok () := by
  -- A cursor that never fails closes without failure.
  obtain ⟨held, served, serves, _⟩ := holds
  rw [(release_held rs held).2]
  exact unfailing_servesReliably.close serves

/-- What neither moves on nor closes takes no document. -/
theorem Holds.inert (holds : rs.Holds waiting) (inert : Inert rs after) : after.Holds waiting := by
  -- Asking the cursor leaves what it serves.
  cases inert with
  | remembers _ => exact holds
  | asks held =>
    obtain ⟨_, served, serves, split⟩ := holds
    exact ⟨held, served, (unfailing_servesReliably.hasNext serves).2, split⟩

end Holding

section Standing

variable [DocumentCursor σ]

/-- The position that belongs to a place among the documents, under the columns that are shown. -/
def positionAt (docs : List Document) (header : Header) : Nat → Position
  | 0 => .beforeFirst
  | place + 1 =>
    -- The place counts the calls to move on, so the row at hand is that of the place before.
    match docs[place]? with
    | some doc => .onRow (.ofDocument header doc)
    | none => .afterLast

/-- What it means to stand at a place among the documents, counted in calls to move on. -/
structure Stands (docs : List Document) (place : Nat) (rs : ResultSet σ π τ) : Prop where
  position : rs.position = positionAt docs rs.header place
  /-- The rows that were delivered are those up to the place. -/
  rowCount : rs.rowCount = min place docs.length
  /-- The documents behind the place are to come, until the end is noticed and the cursor let go. -/
  ahead : place ≤ docs.length ∧ rs.Holds (docs.drop place) ∨
    place = docs.length + 1 ∧ rs.released = true ∧ rs.pending = none

variable {docs : List Document} {place : Nat} {rs after : ResultSet σ π τ}

/-- A result set that stands at a place is open. -/
theorem Stands.opened (stands : Stands docs place rs) : rs.position ≠ .closed := by
  rw [stands.position]
  -- No place has the position of a closed result set.
  unfold positionAt
  split
  · nofun
  · split <;> nofun

/-- Up to the last document, the next row is looked for. -/
theorem Stands.ready (stands : Stands docs place rs) (within : place ≤ docs.length) :
    rs.IsReady := by
  -- Place zero is before the first row, any other one up to the end is on a row.
  have position := stands.position
  cases place with
  | zero => exact .inl position
  | succ place =>
    obtain ⟨doc, found⟩ : ∃ doc, docs[place]? = some doc := ⟨_, List.getElem?_eq_getElem within⟩
    simp only [positionAt, found] at position
    exact .inr ⟨_, position⟩

/-- Behind the last document, a result set has noticed the end. -/
theorem Stands.past (stands : Stands docs (docs.length + 1) rs) : rs.position = .afterLast := by
  -- There is no document at that place.
  have nothing : docs[docs.length]? = none :=
    List.getElem?_eq_none_iff.mpr (Nat.le_refl docs.length)
  have position := stands.position
  simp only [positionAt, nothing] at position
  exact position

/-- There is more to come as long as the place is before the last document. -/
theorem Stands.hasMore (stands : Stands docs place rs) :
    rs.hasMore.1 = .ok (decide (place < docs.length)) := by
  obtain ⟨_, holds⟩ | ⟨rfl, gone, spent⟩ := stands.ahead
  · -- What is to come are the documents behind the place.
    rw [holds.hasMore]
    by_cases ahead : place < docs.length
    · have left : docs.drop place ≠ [] := by
        rw [Ne, List.drop_eq_nil_iff]
        omega
      simp [ahead, left]
    · have spent : docs.drop place = [] := List.drop_eq_nil_iff.mpr (Nat.not_lt.mp ahead)
      simp [ahead, spent]
  · simp [ResultSet.hasMore, gone, spent]

/-- Letting the cursor go succeeds at any place. -/
theorem Stands.release (stands : Stands docs place rs) : rs.release.1 = .ok () := by
  obtain ⟨_, holds⟩ | ⟨_, gone, _⟩ := stands.ahead
  · exact holds.release
  · rw [ResultSet.release, if_pos gone]

/-- What neither moves on nor closes leaves the place. -/
theorem Stands.inert (stands : Stands docs place rs) (inert : Inert rs after) :
    Stands docs place after := by
  have ahead := stands.ahead.imp_left fun ⟨within, holds⟩ =>
    And.intro within (holds.inert inert)
  cases inert <;> exact ⟨stands.position, stands.rowCount, ahead⟩

/-- Attaching a statement leaves the place. -/
theorem Stands.attached (stands : Stands docs place rs) (statement : Option τ) :
    Stands docs place { rs with statement } :=
  ⟨stands.position, stands.rowCount, stands.ahead⟩

variable [HeaderProvider π]

/-- Before the last document, moving on delivers the next one under the columns of its row. -/
theorem Stands.delivers (stands : Stands docs place rs) {doc : Document}
    (found : docs[place]? = some doc) {shown : π × Header}
    (shows : HeaderProvider.showRow doc (rs.provider, rs.header) = .ok shown) :
    rs.next.1 = .ok true ∧ (rs.next.2.provider, rs.next.2.header) = shown ∧
      Stands docs (place + 1) rs.next.2 := by
  have below := (List.getElem?_eq_some_iff.mp found).1
  have counted := stands.rowCount
  obtain ⟨within, holds⟩ | ⟨rfl, _⟩ := stands.ahead
  · obtain ⟨after, takes, left⟩ := holds.taken
    -- Taking the document leaves everything else, so it is entered under its own columns.
    obtain ⟨provider, header, _, rowCount⟩ := takeDocument_keeps takes
    rw [← provider, ← header] at shows
    rw [List.head?_drop, found] at takes
    rw [List.tail_drop] at left
    rw [(stands.ready within).next_eq, advance, takes]
    dsimp only
    rw [enterRow_shown shows]
    -- The row is counted and the next place reached, with the rest still to come.
    refine ⟨rfl, rfl, ?_, ?_, .inl ⟨below, left.kept rfl rfl rfl⟩⟩
    · simp only [positionAt, found]
      rfl
    · show after.rowCount + 1 = min (place + 1) docs.length
      omega
  · omega

/-- At the last document and behind it, moving on leads behind it and says that nothing came. -/
theorem Stands.ends (stands : Stands docs place rs) (nothing : docs[place]? = none) :
    rs.next.1 = .ok false ∧ (rs.next.2.provider, rs.next.2.header) = (rs.provider, rs.header) ∧
      Stands docs (docs.length + 1) rs.next.2 := by
  have above := List.getElem?_eq_none_iff.mp nothing
  have counted := stands.rowCount
  obtain ⟨within, holds⟩ | ⟨rfl, _⟩ := stands.ahead
  · obtain ⟨after, takes, left⟩ := holds.taken
    obtain ⟨provider, header, _, rowCount⟩ := takeDocument_keeps takes
    rw [List.head?_drop, nothing] at takes
    -- Nothing was left to take, so the cursor is closed, which does not fail.
    rw [(stands.ready within).next_eq, advance, takes]
    dsimp only
    rw [finish_eq, left.release, release_eq]
    refine ⟨rfl, Prod.ext provider header, ?_, ?_, .inr ⟨rfl, rfl, rfl⟩⟩
    · simp only [positionAt, List.getElem?_eq_none_iff.mpr (Nat.le_refl docs.length)]
      rfl
    · show after.rowCount = min (docs.length + 1) docs.length
      omega
  · -- Once behind the last document, a result set does not look for more.
    have same : rs.next = (.ok false, rs) := by
      rw [rs.next_eq, stands.past]
    rw [same]
    exact ⟨rfl, rfl, stands⟩

/-- Every call but closing leads to its place, when the columns of each row are found. -/
theorem Stands.perform [Libraries] [OwningStatement τ] (stands : Stands docs place rs)
    (describing : Describing π) {call : Call} (notClose : call ≠ .close) :
    Stands docs (call.placed docs.length place) (rs.perform call).2 := by
  by_cases isNext : call = .next
  · subst isNext
    show Stands docs (min (place + 1) (docs.length + 1)) rs.next.2
    cases found : docs[place]? with
    | some doc =>
      have below := (List.getElem?_eq_some_iff.mp found).1
      obtain ⟨shown, shows⟩ := describing.showRow doc (rs.provider, rs.header)
      rw [Nat.min_eq_left (by omega)]
      exact (stands.delivers found shows).2.2
    | none =>
      have above := List.getElem?_eq_none_iff.mp found
      rw [Nat.min_eq_right (by omega)]
      exact (stands.ends found).2.2
  · have same : call.placed docs.length place = place := by
      cases call with
      | next => exact absurd rfl isNext
      | _ => rfl
    rw [same]
    exact stands.inert (perform_inert isNext notClose rs)

/-- Any calls but closing lead to their place. -/
theorem Stands.run [Libraries] [OwningStatement τ] (stands : Stands docs place rs)
    (describing : Describing π) {calls : List Call} (unclosed : .close ∉ calls) :
    Stands docs (calls.foldl (fun place call => call.placed docs.length place) place)
      (run calls rs).2 := by
  -- The induction is on the calls, from whatever place the first of them leads to.
  induction calls generalizing place rs with
  | nil => exact stands
  | cons call rest ih =>
    rw [List.mem_cons, not_or] at unclosed
    exact ih (stands.perform describing (Ne.symm unclosed.1)) unclosed.2

/-- What is fetched ahead of the first row comes before what the cursor still serves. -/
theorem prefetch_servesReliably {cursor : σ} (serves : ServesReliably cursor docs)
    (strategy : Strategy) :
    ∃ pending left served, prefetch strategy cursor = (.ok pending, left) ∧
      ServesReliably left served ∧ pending.toList ++ served = docs := by
  cases strategy with
  | schemaKnown => exact ⟨none, cursor, docs, rfl, serves, rfl⟩
  | rowDerived =>
    obtain ⟨answer, left⟩ := unfailing_servesReliably.next serves
    refine ⟨docs.head?, _, docs.tail, Prod.ext answer rfl, left, ?_⟩
    cases docs <;> rfl

/-- Opened over such a cursor, a result set stands before all its documents. -/
theorem openWith_stands {cursor : σ} (serves : ServesReliably cursor docs)
    {provider : π} {options : Options} (opened : openWith cursor provider options = .ok rs) :
    Stands docs 0 rs := by
  obtain ⟨pending, left, served, fetched, serves, split⟩ :=
    prefetch_servesReliably serves (HeaderProvider.strategy provider)
  unfold openWith at opened
  rw [fetched] at opened
  dsimp only at opened
  split at opened
  · cases opened
  · cases opened
    exact ⟨rfl, (Nat.zero_min _).symm, .inl ⟨Nat.zero_le _, rfl, served, serves, split⟩⟩

/-- Over such a cursor, and with a provider that finds all columns, opening succeeds. -/
theorem openWith_succeeds {cursor : σ} (serves : ServesReliably cursor docs)
    (describing : Describing π) (provider : π) (options : Options) :
    ∃ rs : ResultSet σ π τ, openWith cursor provider options = .ok rs := by
  obtain ⟨pending, left, served, fetched, _⟩ :=
    prefetch_servesReliably serves (HeaderProvider.strategy provider)
  -- Fetching ahead cannot fail, and neither can describing what was fetched.
  obtain ⟨header, described⟩ := describing pending provider
  unfold openWith
  rw [fetched]
  dsimp only
  split
  · rename_i failed
    rw [failed] at described
    cases described
  · exact ⟨_, rfl⟩

end Standing

end ResultSet

end BsonTable
