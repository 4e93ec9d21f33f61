import BsonTable.ResultSet.Opening

/-!
Cursors that serve a list of documents, however often they fail on the way, and cursors that serve
one without ever failing.
-/

namespace BsonTable

section Serving

variable {σ : Type u} [DocumentCursor σ]

/--
What it means for a relation between cursors and lists that the cursors serve the lists.

Only a document that is answered leaves the list, and the end comes when the list is empty.
-/
structure Serving (serves : σ → List Document → Prop) : Prop where
  /-- Asking for more takes nothing, whatever is answered. -/
  hasNext {cursor : σ} {docs : List Document} (before : serves cursor docs) :
    serves (DocumentCursor.hasNext cursor).2 docs
  /-- A failure takes nothing. -/
  failed {cursor : σ} {docs : List Document} {error : Error} (before : serves cursor docs)
    (answer : (DocumentCursor.next cursor).1 = .error error) :
    serves (DocumentCursor.next cursor).2 docs
  /-- Nothing is left at the end. -/
  ended {cursor : σ} {docs : List Document} (before : serves cursor docs)
    (answer : (DocumentCursor.next cursor).1 = .ok none) :
    docs = [] ∧ serves (DocumentCursor.next cursor).2 []
  /-- A document that is answered was the first of the list. -/
  handed {cursor : σ} {docs : List Document} {doc : Document} (before : serves cursor docs)
    (answer : (DocumentCursor.next cursor).1 = .ok (some doc)) :
    ∃ rest, docs = doc :: rest ∧ serves (DocumentCursor.next cursor).2 rest

/-- A cursor serves a list of documents when some relation of that kind holds between them. -/
def Serves (cursor : σ) (docs : List Document) : Prop :=
  -- Nothing is assumed of failures in advance, so a cursor may fail as often as it likes.
  ∃ serves : σ → List Document → Prop, Serving serves ∧ serves cursor docs

/-- Serving is itself such a relation, the widest one. -/
theorem serving_serves : Serving (Serves : σ → List Document → Prop) where
  hasNext := fun ⟨serves, serving, before⟩ => ⟨serves, serving, serving.hasNext before⟩
  failed := fun ⟨serves, serving, before⟩ answer =>
    ⟨serves, serving, serving.failed before answer⟩
  ended := by
    -- The relation that serves this cursor is kept for what is left.
    rintro cursor docs ⟨serves, serving, before⟩ answer
    obtain ⟨empty, after⟩ := serving.ended before answer
    exact ⟨empty, serves, serving, after⟩
  handed := by
    rintro cursor docs doc ⟨serves, serving, before⟩ answer
    obtain ⟨rest, split, after⟩ := serving.handed before answer
    exact ⟨rest, split, serves, serving, after⟩

/-- What is fetched ahead, the first document if any, is followed by what the cursor still
serves. -/
theorem prefetch_serves {cursor left : σ} {docs : List Document} (serves : Serves cursor docs)
    {strategy : Strategy} {pending : Option Document}
    (fetched : ResultSet.prefetch strategy cursor = (.ok pending, left)) :
    (strategy = .rowDerived → pending = docs[0]?) ∧
      ∃ waiting, Serves left waiting ∧ pending.toList ++ waiting = docs := by
  -- Only the columns of rows need a document before there is a row.
  cases strategy with
  | schemaKnown =>
    cases fetched
    exact ⟨nofun, docs, serves, rfl⟩
  | rowDerived =>
    have answer : (DocumentCursor.next cursor).1 = .ok pending := congrArg Prod.fst fetched
    have same : (DocumentCursor.next cursor).2 = left := congrArg Prod.snd fetched
    subst same
    -- Either there is no document at all, or the first one is at hand now.
    cases pending with
    | none =>
      obtain ⟨rfl, after⟩ := serving_serves.ended serves answer
      exact ⟨fun _ => rfl, [], after, rfl⟩
    | some doc =>
      obtain ⟨rest, rfl, after⟩ := serving_serves.handed serves answer
      exact ⟨fun _ => rfl, rest, after, rfl⟩

end Serving

section Reliable

variable {σ : Type u} [DocumentCursor σ]

/--
What it means for a relation between cursors and lists that the cursors serve them without failing.

Every answer follows from the list, and after closing nothing is said of a cursor any more.
-/
structure Unfailing (serves : σ → List Document → Prop) : Prop where
  hasNext {cursor : σ} {docs : List Document} (before : serves cursor docs) :
    (DocumentCursor.hasNext cursor).1 = .ok !docs.isEmpty ∧
      serves (DocumentCursor.hasNext cursor).2 docs
  next {cursor : σ} {docs : List Document} (before : serves cursor docs) :
    (DocumentCursor.next cursor).1 = .ok docs.head? ∧
      serves (DocumentCursor.next cursor).2 docs.tail
  close {cursor : σ} {docs : List Document} (before : serves cursor docs) :
    (DocumentCursor.close cursor).1 = .ok ()

/-- What serves a list without failing serves it. -/
theorem Unfailing.serving {serves : σ → List Document → Prop} (unfailing : Unfailing serves) :
    Serving serves where
  hasNext := fun before => (unfailing.hasNext before).2
  failed := by
    intro cursor docs error before answer
    -- A cursor that does not fail has no failure to answer for.
    rw [(unfailing.next before).1] at answer
    cases answer
  ended := by
    intro cursor docs before answer
    obtain ⟨first, left⟩ := unfailing.next before
    rw [first] at answer
    -- No document is the answer when the list is empty, and only then.
    have empty : docs = [] := List.head?_eq_none_iff.mp (Except.ok.inj answer)
    rw [empty] at left
    exact ⟨empty, left⟩
  handed := by
    intro cursor docs doc before answer
    obtain ⟨first, left⟩ := unfailing.next before
    rw [first] at answer
    -- A document that is answered is the first one of the list.
    obtain ⟨rest, rfl⟩ := List.head?_eq_some_iff.mp (Except.ok.inj answer)
    exact ⟨rest, rfl, left⟩

/-- A cursor serves a list reliably when some relation of that kind holds between them. -/
def ServesReliably (cursor : σ) (docs : List Document) : Prop :=
  ∃ serves : σ → List Document → Prop, Unfailing serves ∧ serves cursor docs

/-- Serving reliably is itself such a relation, the widest one. -/
theorem unfailing_servesReliably : Unfailing (ServesReliably : σ → List Document → Prop) where
  -- As before, the relation of this cursor is kept.
  hasNext := fun ⟨serves, unfailing, before⟩ =>
    ⟨(unfailing.hasNext before).1, serves, unfailing, (unfailing.hasNext before).2⟩
  next := fun ⟨serves, unfailing, before⟩ =>
    ⟨(unfailing.next before).1, serves, unfailing, (unfailing.next before).2⟩
  close := fun ⟨_, unfailing, before⟩ => unfailing.close before

end Reliable

namespace DocumentQueue

/-- An open queue serves the documents that wait in it without failing. -/
theorem unfailing : Unfailing fun (queue : DocumentQueue) docs =>
    queue.closed = false ∧ queue.documents = docs where
  hasNext := by
    -- The list is the queue itself, and it is taken from at the front.
    rintro ⟨documents, closed⟩ docs ⟨rfl, rfl⟩
    exact ⟨rfl, rfl, rfl⟩
  next := by
    rintro ⟨documents, closed⟩ docs ⟨rfl, rfl⟩
    cases documents <;> exact ⟨rfl, rfl, rfl⟩
  close := fun _ => rfl

/-- An open queue serves the documents that wait in it. -/
theorem serving : Serving fun (queue : DocumentQueue) docs =>
    queue.closed = false ∧ queue.documents = docs :=
  unfailing.serving

/-- A fresh queue serves its documents reliably. -/
theorem servesReliably (docs : List Document) :
    ServesReliably ({ documents := docs } : DocumentQueue) docs :=
  ⟨_, unfailing, rfl, rfl⟩

/-- A fresh queue serves its documents. -/
theorem serves (docs : List Document) : Serves ({ documents := docs } : DocumentQueue) docs :=
  ⟨_, serving, rfl, rfl⟩

end DocumentQueue

end BsonTable
