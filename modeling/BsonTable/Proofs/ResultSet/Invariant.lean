import BsonTable.Proofs.ResultSet.Cursor
import BsonTable.Proofs.ResultSet.Recorded

/-! What holds of a result set at any time, over a cursor that serves some documents. -/

namespace BsonTable

/-- The number of documents taken from the cursor after a number of rows. -/
def Strategy.fetched : Strategy → Nat → Nat
  | schemaKnown, count => count
  -- One document is fetched ahead to know the columns.
  | rowDerived, count => max count 1

/-- Once rows are delivered, no document is fetched ahead. -/
theorem Strategy.fetched_succ (strategy : Strategy) (count : Nat) :
    strategy.fetched (count + 1) = count + 1 := by
  cases strategy with
  | schemaKnown => rfl
  | rowDerived => exact Nat.max_eq_left (Nat.le_add_left 1 count)

/-- Every row has the columns that a known schema declares. -/
theorem HeaderSource.describe_schemaKnown {source : HeaderSource}
    (known : source.strategy = .schemaKnown) (row other : Option Document) :
    source.describe row = source.describe other := by
  cases source with
  | schema header => rfl
  | rows database placeholder => cases known

namespace ResultSet

variable {σ : Type u} {τ : Type w}

/-- Entering a row always succeeds when columns are found from data alone. -/
theorem enterRow_eq {rs : ResultSet σ HeaderSource τ} {row : Option Document}
    (described : rs.header = rs.provider.describe row)
    (doc : Document) :
    rs.enterRow doc = (.ok true, rs.standOn (rs.provider.describe (some doc)) doc) := by
  -- Only a strategy that describes each row looks for columns here.
  unfold enterRow
  cases strategy : HeaderProvider.strategy rs.provider with
  | schemaKnown =>
    -- The columns at hand are those of any other row.
    have same := rs.provider.describe_schemaKnown strategy row (some doc)
    rw [← same, ← described]
  | rowDerived => rfl

variable [DocumentCursor σ]

/--
What is still to come after a number of rows, while the cursor is held.

The cursor serves what it has not handed over yet, behind what was fetched ahead.
-/
def Ahead (docs : List Document) (count : Nat) (rs : ResultSet (Recorded σ) HeaderSource τ) :
    Prop :=
  rs.released = false ∧ ∃ waiting, Serves rs.cursor.cursor waiting ∧
    rs.cursor.handedOver ++ waiting = docs ∧ rs.pending.toList ++ waiting = docs.drop count

/-- Whether the position fits the number of rows delivered so far. -/
def Standing (docs : List Document) (rs : ResultSet (Recorded σ) HeaderSource τ) : Prop :=
  match rs.position with
  | .beforeFirst => rs.rowCount = 0 ∧ rs.Ahead docs 0
  | .onRow row =>
    (∃ count doc, rs.rowCount = count + 1 ∧ docs[count]? = some doc ∧
      row = .ofDocument rs.header doc) ∧ rs.Ahead docs rs.rowCount
  | .afterLast => rs.rowCount = docs.length
  | .closed => True

/-- What holds of a result set over a cursor that serves some documents, at any time. -/
structure Delivering (docs : List Document) (source : HeaderSource)
    (rs : ResultSet (Recorded σ) HeaderSource τ) : Prop where
  provider : rs.provider = source
  header : rs.header = source.describe docs[rs.rowCount - 1]?
  within : rs.rowCount ≤ docs.length
  handed : rs.cursor.handedOver = docs.take (source.strategy.fetched rs.rowCount)
  standing : rs.Standing docs

section Taking

variable {docs : List Document} {count : Nat} {rs after : ResultSet (Recorded σ) HeaderSource τ}

/-- Without a document fetched ahead, just the delivered ones were handed over. -/
theorem Ahead.handedOver (ahead : rs.Ahead docs count) (none : rs.pending = none) :
    rs.cursor.handedOver = docs.take count := by
  obtain ⟨_, waiting, _, total, rest⟩ := ahead
  rw [none] at rest
  -- Both sides complete the same rest to all documents.
  have both : rs.cursor.handedOver ++ docs.drop count = docs.take count ++ docs.drop count := by
    rw [List.take_append_drop, ← rest]
    exact total
  exact List.append_cancel_right both

/-- A document that is taken is the next one, and is no longer ahead. -/
theorem Ahead.taken (ahead : rs.Ahead docs count) {doc : Document}
    (taken : rs.takeDocument = (.ok (some doc), after)) :
    docs[count]? = some doc ∧ after.pending = none ∧ after.Ahead docs (count + 1) := by
  obtain ⟨held, waiting, serves, total, rest⟩ := ahead
  -- What remains behind the document at some position is all that comes later.
  have behind : ∀ {tail}, doc :: tail = docs.drop count →
      docs[count]? = some doc ∧ tail = docs.drop (count + 1) := by
    intro tail split
    constructor
    · rw [← List.head?_drop, ← split]
      rfl
    · rw [← List.tail_drop, ← split]
      rfl
  rcases takeDocument_held held with ⟨ready, pending, does⟩ | ⟨pending, does⟩
  · -- The document was fetched ahead, so the cursor is left alone.
    rw [does] at taken
    cases taken
    rw [pending] at rest
    obtain ⟨found, later⟩ := behind rest
    exact ⟨found, rfl, held, waiting, serves, total, later⟩
  · -- The cursor hands the document over, as the first of those it serves.
    rw [does] at taken
    obtain ⟨answer, rfl⟩ := Prod.mk.inj taken
    have served : (DocumentCursor.next rs.cursor.cursor).1 = .ok (some doc) := answer
    obtain ⟨tail, split, serves⟩ := serving_serves.handed serves served
    rw [pending, split] at rest
    obtain ⟨found, later⟩ := behind rest
    refine ⟨found, pending, held, tail, serves, ?_, ?_⟩
    · show (DocumentCursor.next rs.cursor).2.handedOver ++ tail = docs
      rw [Recorded.handedOver_next, answer, ← total, split]
      exact List.append_assoc ..
    · show rs.pending.toList ++ tail = docs.drop (count + 1)
      rw [pending]
      exact later

/-- When no document can be taken, all of them were, and the cursor handed over nothing. -/
theorem Ahead.exhausted (ahead : rs.Ahead docs count)
    (taken : rs.takeDocument = (.ok none, after)) :
    docs.length ≤ count ∧ rs.cursor.handedOver = docs.take count ∧
      after.cursor.handedOver = rs.cursor.handedOver := by
  rcases takeDocument_held ahead.1 with ⟨ready, _, does⟩ | ⟨pending, does⟩
  · rw [does] at taken
    cases taken
  · -- The cursor has come to its end, and so has the list that it serves.
    have handed := ahead.handedOver pending
    obtain ⟨_, waiting, serves, total, rest⟩ := ahead
    rw [does] at taken
    obtain ⟨answer, rfl⟩ := Prod.mk.inj taken
    have served : (DocumentCursor.next rs.cursor.cursor).1 = .ok none := answer
    obtain ⟨rfl, _⟩ := serving_serves.ended serves served
    rw [pending] at rest
    refine ⟨List.drop_eq_nil_iff.mp rest.symm, handed, ?_⟩
    show (DocumentCursor.next rs.cursor).2.handedOver = _
    rw [Recorded.handedOver_next, answer]
    exact List.append_nil _

/-- A failure to take a document leaves everything to come. -/
theorem Ahead.failed (ahead : rs.Ahead docs count) {error : Error}
    (taken : rs.takeDocument = (.error error, after)) :
    after.Ahead docs count ∧ after.cursor.handedOver = rs.cursor.handedOver := by
  obtain ⟨held, waiting, serves, total, rest⟩ := ahead
  rcases takeDocument_held held with ⟨ready, _, does⟩ | ⟨pending, does⟩
  · rw [does] at taken
    cases taken
  · -- A failing cursor serves what it served before.
    rw [does] at taken
    obtain ⟨answer, rfl⟩ := Prod.mk.inj taken
    have served : (DocumentCursor.next rs.cursor.cursor).1 = .error error := answer
    have handed : (DocumentCursor.next rs.cursor).2.handedOver = rs.cursor.handedOver := by
      rw [Recorded.handedOver_next, answer]
      exact List.append_nil _
    refine ⟨⟨held, waiting, serving_serves.failed serves served, ?_, rest⟩, handed⟩
    show (DocumentCursor.next rs.cursor).2.handedOver ++ waiting = docs
    rw [handed, total]

end Taking

section Keeping

variable {docs : List Document} {source : HeaderSource}
  {rs after : ResultSet (Recorded σ) HeaderSource τ}

/-- Letting the cursor go hands nothing over. -/
theorem release_handedOver (rs : ResultSet (Recorded σ) HeaderSource τ) :
    rs.release.2.cursor.handedOver = rs.cursor.handedOver := by
  unfold release
  split
  · rfl
  · exact Recorded.handedOver_close rs.cursor

/-- Where a next row is looked for, the cursor is held. -/
theorem Delivering.ahead (delivering : rs.Delivering docs source) (ready : rs.IsReady) :
    rs.Ahead docs rs.rowCount := by
  have standing := delivering.standing
  unfold Standing at standing
  -- There are two such places, and at both of them it is said what is to come.
  rcases ready with position | ⟨row, position⟩
  · rw [position] at standing
    rw [standing.1]
    exact standing.2
  · rw [position] at standing
    exact standing.2

/-- A position still fits when what is to come does. -/
theorem Standing.moved (standing : rs.Standing docs) (position : after.position = rs.position)
    (rowCount : after.rowCount = rs.rowCount) (header : after.header = rs.header)
    (ahead : ∀ {count}, rs.Ahead docs count → after.Ahead docs count) : after.Standing docs := by
  unfold Standing at standing ⊢
  rw [position, rowCount, header]
  -- Before the first row and on a row, what is to come is part of what fits.
  split at standing
  · exact ⟨standing.1, ahead standing.2⟩
  · exact ⟨standing.1, ahead standing.2⟩
  · exact standing
  · trivial

/-- Asking the cursor for more leaves everything to come. -/
theorem Ahead.asked {count : Nat} (ahead : rs.Ahead docs count) :
    { rs with cursor := (DocumentCursor.hasNext rs.cursor).2 }.Ahead docs count := by
  -- A cursor that was asked serves the same as before.
  obtain ⟨held, waiting, serves, total, rest⟩ := ahead
  refine ⟨held, waiting, serving_serves.hasNext serves, ?_, rest⟩
  rw [Recorded.handedOver_hasNext]
  exact total

/-- What delivers no row only has to keep the place. -/
theorem Delivering.stays (delivering : rs.Delivering docs source)
    (provider : after.provider = rs.provider) (header : after.header = rs.header)
    (rowCount : after.rowCount = rs.rowCount)
    (handed : after.cursor.handedOver = rs.cursor.handedOver) (standing : after.Standing docs) :
    after.Delivering docs source where
  provider := provider.trans delivering.provider
  -- The columns are those of the row counted last, and the count stays.
  header := by
    rw [header, rowCount]
    exact delivering.header
  within := by
    rw [rowCount]
    exact delivering.within
  handed := by
    rw [handed, rowCount]
    exact delivering.handed
  standing := standing

/-- Calls that neither move on nor close keep what holds. -/
theorem Delivering.inert (delivering : rs.Delivering docs source) (inert : rs.Inert after) :
    after.Delivering docs source := by
  have standing := delivering.standing
  -- Such a call changes what is remembered, or asks the cursor for more.
  cases inert with
  | remembers _ =>
    exact delivering.stays rfl rfl rfl rfl (standing.moved rfl rfl rfl fun ahead => ahead)
  | asks _ =>
    have handed := Recorded.handedOver_hasNext rs.cursor
    exact delivering.stays rfl rfl rfl handed (standing.moved rfl rfl rfl Ahead.asked)

/-- Closing keeps what holds. -/
theorem Delivering.close [OwningStatement τ] (delivering : rs.Delivering docs source) :
    rs.close.2.Delivering docs source := by
  -- Closing twice does nothing; the first time, the cursor is let go of.
  rcases close_cases rs with ⟨_, same⟩ | ⟨_, statement, same⟩
  · rw [same]
    exact delivering
  · rw [same]
    obtain ⟨provider, header, _, rowCount⟩ := release_keeps rs
    exact delivering.stays provider header rowCount (release_handedOver rs) trivial

/-- Entering the row of the next document keeps what holds, one row later. -/
theorem Delivering.entered (delivering : rs.Delivering docs source) (ready : rs.IsReady)
    {doc : Document} (taken : rs.takeDocument = (.ok (some doc), after)) :
    after.enterRow doc = (.ok true, after.standOn (source.describe (some doc)) doc) ∧
      (after.standOn (source.describe (some doc)) doc).Delivering docs source := by
  obtain ⟨provider, header, _, rowCount⟩ := takeDocument_keeps taken
  obtain ⟨found, pending, ahead⟩ := (delivering.ahead ready).taken taken
  have known := provider.trans delivering.provider
  have described : after.header = after.provider.describe docs[rs.rowCount - 1]? := by
    rw [header, known]
    exact delivering.header
  -- One row is counted, for the document that was next under the columns it is given.
  refine ⟨?_, known, ?_, ?_, ?_, ?_⟩
  · rw [← known]
    exact enterRow_eq described doc
  · show source.describe (some doc) = source.describe docs[after.rowCount + 1 - 1]?
    rw [Nat.add_sub_cancel, rowCount, found]
  · show after.rowCount + 1 ≤ docs.length
    have below := (List.getElem?_eq_some_iff.mp found).1
    omega
  · show after.cursor.handedOver = docs.take (source.strategy.fetched (after.rowCount + 1))
    rw [Strategy.fetched_succ, rowCount]
    exact ahead.handedOver pending
  · -- The row that is current now is that of the document that was next.
    refine ⟨⟨rs.rowCount, doc, congrArg (· + 1) rowCount, found, rfl⟩, ?_⟩
    show Ahead docs (after.rowCount + 1) _
    rw [rowCount]
    exact ahead

/-- Going to the next row keeps what holds. -/
theorem Delivering.next (delivering : rs.Delivering docs source) :
    rs.next.2.Delivering docs source := by
  have advance := next_advance rs
  generalize rs.next = outcome at advance
  cases advance with
  | closed _ => exact delivering
  | past _ => exact delivering
  | @failed error after ready taken =>
    -- The same document comes next when the call is made again.
    obtain ⟨provider, header, position, rowCount⟩ := takeDocument_keeps taken
    have handed := ((delivering.ahead ready).failed taken).2
    exact delivering.stays provider header rowCount handed
      (delivering.standing.moved position rowCount header fun ahead => (ahead.failed taken).1)
  | @exhausted after ready taken =>
    obtain ⟨provider, header, _, rowCount⟩ := takeDocument_keeps taken
    obtain ⟨all, _, handed⟩ := (delivering.ahead ready).exhausted taken
    have within := delivering.within
    obtain ⟨sameProvider, sameHeader, _, sameCount⟩ := release_keeps after
    have count := sameCount.trans rowCount
    rw [finish_eq]
    refine delivering.stays (sameProvider.trans provider) (sameHeader.trans header) count
      ((release_handedOver after).trans handed) ?_
    -- Every document was delivered, as none is left.
    show after.release.2.rowCount = docs.length
    omega
  | @entered doc after ready taken =>
    obtain ⟨enters, delivered⟩ := delivering.entered ready taken
    rw [enters]
    exact delivered

/-- Every call keeps what holds. -/
theorem Delivering.perform [Libraries] [OwningStatement τ] (call : Call)
    (delivering : rs.Delivering docs source) : (rs.perform call).2.Delivering docs source := by
  -- One case for each kind of call, each of which is a lemma above.
  have performed := performed call rs
  generalize (rs.perform call).2 = after at performed
  cases performed with
  | next => exact delivering.next
  | close => exact delivering.close
  | other _ inert => exact delivering.inert inert

/-- What was fetched ahead under a strategy is the first document, if it is needed. -/
theorem prefetch_ok {cursor : σ} (serves : Serves cursor docs) {strategy : Strategy}
    {pending : Option Document} {left : Recorded σ}
    (fetched : prefetch strategy ({ cursor } : Recorded σ) = (.ok pending, left)) :
    left.handedOver = docs.take (strategy.fetched 0) ∧
      (strategy = .rowDerived → pending = docs[0]?) ∧
      ∃ waiting, Serves left.cursor waiting ∧ left.handedOver ++ waiting = docs ∧
        pending.toList ++ waiting = docs := by
  cases strategy with
  | schemaKnown =>
    cases fetched
    exact ⟨rfl, (nomatch ·), docs, serves, rfl, rfl⟩
  | rowDerived =>
    have answer : (DocumentCursor.next ({ cursor } : Recorded σ)).1 = .ok pending :=
      congrArg Prod.fst fetched
    have same : (DocumentCursor.next ({ cursor } : Recorded σ)).2 = left :=
      congrArg Prod.snd fetched
    subst same
    have handed : (DocumentCursor.next ({ cursor } : Recorded σ)).2.handedOver =
        pending.toList := by
      rw [Recorded.handedOver_next, answer]
      rfl
    -- The cursor behind the record fetches the same document.
    have behind : prefetch .rowDerived cursor = (.ok pending, (DocumentCursor.next cursor).2) :=
      Prod.ext answer rfl
    obtain ⟨first, waiting, after, split⟩ := prefetch_serves serves behind
    rw [handed]
    refine ⟨?_, first, waiting, after, split, split⟩
    rw [first rfl]
    cases docs <;> rfl

/-- An opened result set delivers the documents of its cursor from the first one on. -/
theorem Delivering.opened {cursor : σ} (serves : Serves cursor docs) {options : Options}
    (opened : openWith ({ cursor } : Recorded σ) source options = .ok rs) :
    rs.Delivering docs source ∧ rs.rowCount = 0 := by
  unfold openWith at opened
  split at opened
  · cases opened
  · rename_i pending left fetched
    -- The columns are found from data alone, so describing the first row cannot fail.
    cases opened
    obtain ⟨handed, first, waiting, after, total, rest⟩ := prefetch_ok serves fetched
    refine ⟨⟨rfl, ?_, Nat.zero_le _, handed, rfl, rfl, waiting, after, total, rest⟩, rfl⟩
    show source.describe pending = source.describe docs[0]?
    cases strategy : source.strategy with
    | schemaKnown => exact source.describe_schemaKnown strategy pending docs[0]?
    | rowDerived => rw [first strategy]

end Keeping

end ResultSet

end BsonTable
