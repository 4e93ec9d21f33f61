import BsonTable.Library.Standard
import BsonTable.Proofs.ResultSet.Cursor
import BsonTable.Proofs.ResultSet.Steps

/-!
What a failure to go to the next row loses: nothing when the cursor fails to hand over a document,
and that document when its columns are not found.
-/

namespace BsonTable

/-- A provider of columns that fails once, after some descriptions that succeed. -/
structure Flaky (π : Type v) where
  provider : π
  /-- How many descriptions come before the failing one, if that is still to come. -/
  before : Option Nat

namespace Flaky

variable {π : Type v} [HeaderProvider π]

/-- Describe a row, unless it is the turn of the failure. -/
def describe (row : Option Document) (flaky : Flaky π) : Except Error Header × Flaky π :=
  match flaky.before with
  -- The failure is used up, so that the same row can be described when it is asked for again.
  | some 0 => (.error (.other "metadata failed"), { flaky with before := none })
  | before =>
    let (result, provider) := HeaderProvider.describe row flaky.provider
    (result, { provider, before := before.map Nat.pred })

instance : HeaderProvider (Flaky π) where
  strategy flaky := HeaderProvider.strategy flaky.provider
  describe := describe

end Flaky

namespace ResultSet

variable {σ : Type u} {π : Type v} {τ : Type w} [DocumentCursor σ]

/-- Whether some documents are those that are still to be delivered. -/
inductive Awaits (docs : List Document) (rs : ResultSet σ π τ) : Prop
  /-- What was fetched ahead comes before what the cursor serves. -/
  | ready (ready : rs.IsReady) (held : rs.released = false) {waiting : List Document}
      (serves : Serves rs.cursor waiting) (split : rs.pending.toList ++ waiting = docs)
  /-- Behind the last row, and once closed, nothing is to come. -/
  | ended (ended : ¬ rs.IsReady) (empty : docs = [])

/-- Whether going to the next row fails because the cursor does not hand over a document. -/
def FailsToFetch (rs : ResultSet σ π τ) (error : Error) : Prop :=
  -- A document that was fetched ahead is at hand without the cursor.
  rs.IsReady ∧ rs.pending = none ∧ (DocumentCursor.next rs.cursor).1 = .error error

/-- Whether going to the next row fails because the columns of its document are not found. -/
def FailsToDescribe [HeaderProvider π] (rs : ResultSet σ π τ) (doc : Document) (error : Error) :
    Prop :=
  -- Only columns of rows are looked for again, and only once the document is taken.
  rs.IsReady ∧ rs.takeDocument.1 = .ok (some doc) ∧
    HeaderProvider.strategy rs.provider = .rowDerived ∧
    (HeaderProvider.describe (some doc) rs.provider).1 = .error error

/-- Whether going to the next row fails because the cursor does not close at the end. -/
def FailsToClose (rs : ResultSet σ π τ) (error : Error) : Prop :=
  rs.IsReady ∧ rs.takeDocument.1 = .ok none ∧
    (DocumentCursor.close rs.takeDocument.2.cursor).1 = .error error

/-- Everything that can keep the next row from coming. -/
inductive AdvanceFails [HeaderProvider π] (rs : ResultSet σ π τ) (error : Error) : Prop
  | closed (closed : rs.position = .closed)
  | unfetched (unfetched : rs.FailsToFetch error)
  | undescribed (doc : Document) (undescribed : rs.FailsToDescribe doc error)
  | unclosed (unclosed : rs.FailsToClose error)

/-- How a result set goes on when some documents are still to be delivered. -/
structure Resumes [HeaderProvider π] (docs : List Document) (rs : ResultSet σ π τ) : Prop where
  /-- A row comes exactly when a document is to come, and it is the row of the first one. -/
  delivers : ∀ more, rs.next.1 = .ok more → more = !docs.isEmpty ∧
    ∀ doc rest, docs = doc :: rest →
      rs.next.2.position = .onRow (.ofDocument rs.next.2.header doc) ∧ rs.next.2.Awaits rest
  /-- Nothing else keeps it from coming. -/
  fails : ∀ error, rs.next.1 = .error error → rs.AdvanceFails error

/-- Whether going to the next row fails on the spot, with some documents still to come. -/
structure Stalls [HeaderProvider π] (docs : List Document) (error : Error)
    (rs : ResultSet σ π τ) : Prop where
  answer : rs.next.1 = .error error
  /-- Position, current row, columns, row count and memory are as they were. -/
  stays : rs.next.2 = { rs with
    cursor := rs.next.2.cursor, pending := rs.next.2.pending, provider := rs.next.2.provider }
  awaits : rs.next.2.Awaits docs
  resumes : rs.next.2.Resumes docs

/-- What becomes of the documents that are still to come when going to the next row fails. -/
structure LosesAtMostOne [HeaderProvider π] (docs : List Document) (rs : ResultSet σ π τ) :
    Prop where
  awaits : rs.Awaits docs
  resumes : rs.Resumes docs
  /-- A document that the cursor does not hand over is still the next one. -/
  unfetched : ∀ error, rs.FailsToFetch error → rs.Stalls docs error
  /-- A document whose columns are not found is lost, and the one behind it is next. -/
  undescribed : ∀ doc error, rs.FailsToDescribe doc error →
    ∃ rest, docs = doc :: rest ∧ rs.Stalls rest error

section Taking

variable {docs : List Document} {rs after : ResultSet σ π τ}

/-- What changes none of this awaits the same documents. -/
theorem Awaits.kept (awaits : rs.Awaits docs) (cursor : after.cursor = rs.cursor)
    (pending : after.pending = rs.pending) (released : after.released = rs.released)
    (ready : after.IsReady ↔ rs.IsReady) : after.Awaits docs := by
  -- Columns, rows and memory have no part in it.
  cases awaits with
  | ended ended empty => exact .ended (fun still => ended (ready.mp still)) empty
  | ready before held serves split =>
    rw [← pending] at split
    rw [← cursor] at serves
    exact .ready (ready.mpr before) (released.trans held) serves split

/-- A document that is taken is the first of those to come, and the others come behind it. -/
theorem Awaits.taken (awaits : rs.Awaits docs) (looks : rs.IsReady) {doc : Document}
    (taken : rs.takeDocument = (.ok (some doc), after)) :
    ∃ rest, docs = doc :: rest ∧ after.Awaits rest := by
  cases awaits with
  | ended ended _ => exact absurd looks ended
  | @ready _ held waiting serves split =>
    rcases takeDocument_held held with ⟨ahead, pending, does⟩ | ⟨pending, does⟩ <;>
      rw [does] at taken <;> rw [pending] at split
    · -- The document was fetched ahead, so the cursor still serves all the others.
      cases taken
      exact ⟨waiting, split.symm, .ready looks held serves rfl⟩
    · -- The cursor hands it over, as the first of those it serves.
      obtain ⟨answer, rfl⟩ := Prod.mk.inj taken
      obtain ⟨rest, first, serves⟩ := serving_serves.handed serves answer
      refine ⟨rest, split.symm.trans first, .ready looks held serves ?_⟩
      rw [pending]
      rfl

/-- When no document can be taken, none is to come. -/
theorem Awaits.exhausted (awaits : rs.Awaits docs)
    (taken : rs.takeDocument = (.ok none, after)) : docs = [] := by
  cases awaits with
  | ended _ empty => exact empty
  | ready _ held serves split =>
    rcases takeDocument_held held with ⟨ahead, _, does⟩ | ⟨pending, does⟩ <;> rw [does] at taken
    · cases taken
    · -- The cursor comes to its end only with nothing left to serve.
      obtain ⟨rfl, _⟩ := serving_serves.ended serves (congrArg Prod.fst taken)
      rw [← split, pending]
      rfl

/-- A document that cannot be taken is still to come, and it is the cursor that failed. -/
theorem Awaits.failed (awaits : rs.Awaits docs) (looks : rs.IsReady) {error : Error}
    (taken : rs.takeDocument = (.error error, after)) :
    rs.FailsToFetch error ∧ after.Awaits docs := by
  cases awaits with
  | ended ended _ => exact absurd looks ended
  | ready _ held serves split =>
    rcases takeDocument_held held with ⟨ahead, _, does⟩ | ⟨pending, does⟩ <;> rw [does] at taken
    · cases taken
    · -- A failing cursor serves what it served before.
      obtain ⟨answer, rfl⟩ := Prod.mk.inj taken
      have left := serving_serves.failed serves answer
      exact ⟨⟨looks, pending, answer⟩, .ready looks held left split⟩

/-- Once the end was reached, nothing is to come. -/
theorem awaits_finish (rs : ResultSet σ π τ) : rs.finish.2.Awaits [] := by
  rw [finish_eq]
  exact .ended (not_ready (.inl rfl)) rfl

end Taking

section Advancing

variable [HeaderProvider π] {docs : List Document} {rs after : ResultSet σ π τ}

/-- Entering a row takes nothing more, even when its columns are not found. -/
theorem Awaits.entered (awaits : rs.Awaits docs) (looks : rs.IsReady) (doc : Document) :
    (rs.enterRow doc).2.Awaits docs := by
  -- On the new row the next one is looked for, just as before the row.
  have standing : ∀ header : Header, (rs.standOn header doc).IsReady := fun _ => .inr ⟨_, rfl⟩
  have entering := enterRow_entering rs doc
  generalize rs.enterRow doc = outcome at entering
  cases entering with
  | known _ => exact awaits.kept rfl rfl rfl (iff_of_true (standing _) looks)
  | described _ _ => exact awaits.kept rfl rfl rfl (iff_of_true (standing _) looks)
  | undescribed _ _ =>
    -- The place is the one before, and so is what is looked for from there.
    exact awaits.kept rfl rfl rfl Iff.rfl

/-- Going to the next row takes at most the first document. -/
theorem Awaits.next (awaits : rs.Awaits docs) : ∃ rest, rest <:+ docs ∧ rs.next.2.Awaits rest := by
  have advance := next_advance rs
  generalize rs.next = outcome at advance
  cases advance with
  | closed _ => exact ⟨docs, List.suffix_refl docs, awaits⟩
  | past _ => exact ⟨docs, List.suffix_refl docs, awaits⟩
  | failed ready taken => exact ⟨docs, List.suffix_refl docs, (awaits.failed ready taken).2⟩
  -- At the end nothing is to come, even when the cursor could not be closed.
  | @exhausted after _ _ => exact ⟨[], List.nil_suffix, awaits_finish after⟩
  | @entered doc after ready taken =>
    -- Whether or not the row is entered, its document was taken.
    obtain ⟨rest, rfl, left⟩ := awaits.taken ready taken
    exact ⟨rest, List.suffix_cons doc rest, left.entered (ready.taken taken) doc⟩

/-- Every call leaves the documents to come, but for those at their front that it may take. -/
theorem Awaits.perform [Libraries] [OwningStatement τ] (call : Call) (awaits : rs.Awaits docs) :
    ∃ rest, rest <:+ docs ∧ (rs.perform call).2.Awaits rest := by
  have performed := performed call rs
  generalize (rs.perform call).2 = after at performed
  cases performed with
  | next => exact awaits.next
  | close =>
    rcases close_cases rs with ⟨_, same⟩ | ⟨_, statement, same⟩ <;> rw [same]
    · exact ⟨docs, List.suffix_refl docs, awaits⟩
    · -- Closing gives up whatever was still to come.
      exact ⟨[], List.nil_suffix, .ended (not_ready (.inr rfl)) rfl⟩
  | other _ inert =>
    refine ⟨docs, List.suffix_refl docs, ?_⟩
    cases inert with
    | remembers _ => exact awaits.kept rfl rfl rfl Iff.rfl
    | asks _ =>
      -- Asking for more takes nothing from what the cursor serves.
      cases awaits with
      | ready looks held serves split =>
        exact .ready looks held (serving_serves.hasNext serves) split
      | ended ended empty => exact .ended ended empty

/-- Right after opening, all documents of the cursor are to come. -/
theorem openWith_awaits {cursor : σ} (serves : Serves cursor docs) {provider : π}
    {options : Options} (opened : openWith cursor provider options = .ok rs) : rs.Awaits docs := by
  unfold openWith at opened
  split at opened
  · cases opened
  · rename_i fetched
    split at opened
    · cases opened
    · cases opened
      -- Describing the first columns took nothing from the cursor.
      obtain ⟨_, waiting, after, split⟩ := prefetch_serves serves fetched
      exact .ready (.inl rfl) rfl after split

/-- When documents are to come, the first of them makes the next row. -/
theorem Awaits.resumes (awaits : rs.Awaits docs) : rs.Resumes docs where
  delivers := by
    intro more answer
    have advance := next_advance rs
    generalize rs.next = outcome at advance answer ⊢
    -- Without any document to come, the answer is no.
    have finished : docs = [] → false = !docs.isEmpty ∧ ∀ doc rest, docs = doc :: rest →
        outcome.2.position = .onRow (.ofDocument outcome.2.header doc) ∧
          outcome.2.Awaits rest := by
      rintro rfl
      exact ⟨rfl, nofun⟩
    cases advance with
    | closed _ => cases answer
    | past position =>
      cases answer
      cases awaits with
      | ready looks _ _ _ => exact absurd looks (not_ready (.inl position))
      | ended _ empty => exact finished empty
    | failed _ _ => cases answer
    | exhausted _ taken =>
      obtain rfl := finish_ok answer
      exact finished (awaits.exhausted taken)
    | @entered next after ready taken =>
      obtain ⟨rest, rfl, left⟩ := awaits.taken ready taken
      -- A row that is entered is that of the document that was taken.
      obtain ⟨rfl, position⟩ := enterRow_ok answer
      refine ⟨rfl, ?_⟩
      rintro doc later same
      cases same
      exact ⟨position, left.entered (ready.taken taken) next⟩
  fails := by
    intro error answer
    have advance := next_advance rs
    generalize rs.next = outcome at advance answer
    cases advance with
    | closed position => exact .closed position
    | past _ => cases answer
    | failed ready taken =>
      cases answer
      exact .unfetched (awaits.failed ready taken).1
    | exhausted ready taken =>
      -- The end was found, so it is the closing of the cursor that failed.
      have unclosed := finish_fails answer
      have ended : rs.takeDocument.1 = .ok none := congrArg Prod.fst taken
      rw [← congrArg (·.2.cursor) taken] at unclosed
      exact .unclosed ⟨ready, ended, unclosed⟩
    | @entered doc after ready taken =>
      have handed : rs.takeDocument.1 = .ok (some doc) := congrArg Prod.fst taken
      -- The provider is asked about the document as it was before the call.
      obtain ⟨strategy, described⟩ := enterRow_fails answer
      rw [(takeDocument_keeps taken).1] at strategy described
      exact .undescribed doc ⟨ready, handed, strategy, described⟩

/-- A failed call that leaves the place leaves what is to come from there. -/
theorem Awaits.stalls (awaits : after.Awaits docs) {error : Error}
    (does : rs.next = (.error error, after))
    (stays : after = { rs with
      cursor := after.cursor, pending := after.pending, provider := after.provider }) :
    rs.Stalls docs error where
  answer := congrArg Prod.fst does
  stays := by
    rw [does]
    exact stays
  awaits := by
    rw [does]
    exact awaits
  resumes := by
    rw [does]
    exact awaits.resumes

/-- A failing cursor leaves everything as it was. -/
theorem Awaits.unfetched (awaits : rs.Awaits docs) {error : Error}
    (unfetched : rs.FailsToFetch error) : rs.Stalls docs error := by
  obtain ⟨looks, pending, answer⟩ := unfetched
  cases awaits with
  | ended ended _ => exact absurd looks ended
  | ready _ held serves split =>
    have does : rs.next =
        (.error error, { rs with cursor := (DocumentCursor.next rs.cursor).2 }) := by
      rw [looks.next_eq]
      simp only [advance, takeDocument, pending, held, Bool.false_eq_true, if_false, answer]
    -- The cursor serves what it served before it failed.
    have left := serving_serves.failed serves answer
    have awaits : { rs with cursor := (DocumentCursor.next rs.cursor).2 }.Awaits docs :=
      .ready looks held left split
    exact awaits.stalls does rfl

/-- Columns that are not found leave everything as it was, but for the document that was taken. -/
theorem Awaits.undescribed (awaits : rs.Awaits docs) {doc : Document} {error : Error}
    (undescribed : rs.FailsToDescribe doc error) :
    ∃ rest, docs = doc :: rest ∧ rs.Stalls rest error := by
  obtain ⟨looks, handed, strategy, described⟩ := undescribed
  have taken : rs.takeDocument = (.ok (some doc), rs.takeDocument.2) := Prod.ext handed rfl
  obtain ⟨rest, split, left⟩ := awaits.taken looks taken
  -- By now the document is neither ahead nor with the cursor, and nothing puts it back.
  rw [← (takeDocument_keeps taken).1] at strategy described
  obtain ⟨provider, enters⟩ := enterRow_undescribed strategy described
  have does : rs.next = (.error error, { rs.takeDocument.2 with provider }) := by
    rw [looks.next_eq, advance, taken]
    exact enters
  have awaits : { rs.takeDocument.2 with provider }.Awaits rest := left.kept rfl rfl rfl Iff.rfl
  refine ⟨rest, split, awaits.stalls does ?_⟩
  -- Taking the document changed the cursor and what was fetched ahead alone.
  dsimp only
  rw [takeDocument_eq]

/-- Whenever documents are to come, a failure loses at most the first of them. -/
theorem Awaits.losesAtMostOne (awaits : rs.Awaits docs) : rs.LosesAtMostOne docs where
  awaits := awaits
  resumes := awaits.resumes
  unfetched := fun _ unfetched => awaits.unfetched unfetched
  undescribed := fun _ _ undescribed => awaits.undescribed undescribed

variable [OwningStatement τ]

/-- After any calls, what is to come is what is left of the documents at the start. -/
theorem Awaits.run [Libraries] (awaits : rs.Awaits docs) (calls : List Call) :
    ∃ rest, rest <:+ docs ∧ (run calls rs).2.Awaits rest := by
  -- What is left after each call is a part of what was left before it.
  have step : ∀ call ∈ calls, ∀ rs : ResultSet σ π τ, (∃ rest, rest <:+ docs ∧ rs.Awaits rest) →
      ∃ rest, rest <:+ docs ∧ (rs.perform call).2.Awaits rest := by
    rintro call _ rs ⟨rest, suffix, awaits⟩
    obtain ⟨later, further, left⟩ := awaits.perform call
    exact ⟨later, further.trans suffix, left⟩
  exact run_preserves calls step ⟨docs, List.suffix_refl docs, awaits⟩

/-- Whatever statement is attached and whatever is called, a failure loses at most one document. -/
theorem Awaits.losesAfter [Libraries] (awaits : rs.Awaits docs) (statement : Option τ)
    (calls : List Call) :
    ∃ rest, rest <:+ docs ∧ (ResultSet.run calls { rs with statement }).2.LosesAtMostOne rest := by
  -- The statement has no part in what is to come.
  have attached : { rs with statement }.Awaits docs := awaits.kept rfl rfl rfl Iff.rfl
  obtain ⟨rest, suffix, left⟩ := attached.run calls
  exact ⟨rest, suffix, left.losesAtMostOne⟩

/--
A failure to go to the next row loses at most the document that was to be the next row.

When the cursor does not hand it over, it is not lost. When its columns are not found it is, as it
was taken before they were looked for. This holds after any calls, however the result set was
opened, and in either case the place is kept and the next row is that of the next document.
-/
theorem failed_advance_loses_at_most_one [Libraries] {cursor : σ} (serves : Serves cursor docs)
    (options : Options) (statement : Option τ) (calls : List Call) :
    (∀ (provider : π) (rs : ResultSet σ π τ), openWith cursor provider options = .ok rs →
      ∃ rest, rest <:+ docs ∧ (run calls { rs with statement }).2.LosesAtMostOne rest) ∧
    (∀ (opening : Opening) (rs : ResultSet σ HeaderSource τ),
      opening.start cursor options = .ok rs →
        ∃ rest, rest <:+ docs ∧ (run calls { rs with statement }).2.LosesAtMostOne rest) := by
  constructor
  · intro provider rs opened
    exact (openWith_awaits serves opened).losesAfter statement calls
  · intro opening rs opened
    -- Every opening over data ends in opening over some source of columns.
    obtain ⟨source, opened⟩ := Opening.start_ok opened
    exact (openWith_awaits serves opened).losesAfter statement calls

/-- Columns that are not found at the first of two rows stop there, with at most one row lost. -/
theorem failed_advance_loses_at_most_one_first :
    let docs : List Document := [[("n", .string "first")], [("n", .string "second")]]
    let queue : DocumentQueue := { documents := docs }
    let flaky : Flaky HeaderSource := { provider := .ofRows {}, before := some 1 }
    Serves queue docs ∧ ∃ rs : ResultSet DocumentQueue (Flaky HeaderSource) Statement,
      openWith queue flaky {} = .ok rs ∧
      rs.FailsToDescribe [("n", .string "first")] (.other "metadata failed") ∧
      ∃ rest, rest <:+ docs ∧
        (run [.isLast] { rs with statement := (none : Option Statement) }).2.LosesAtMostOne rest := by
  intro docs queue flaky
  have serves := DocumentQueue.serves docs
  have opened : (openWith queue flaky {} : Except _ (ResultSet _ _ Statement)) = .ok _ := rfl
  have loses := failed_advance_loses_at_most_one (π := Flaky HeaderSource) (τ := Statement) serves
    {} none [.isLast]
  exact ⟨serves, _, opened, ⟨.inl rfl, rfl, rfl, rfl⟩, loses.1 flaky _ opened⟩

/-- Not every failed call can be made again: the row whose columns were not found never comes. -/
theorem undescribed_row_never_comes :
    ¬ ∀ (docs : List Document) (provider : Flaky HeaderSource)
      (rs : ResultSet DocumentQueue (Flaky HeaderSource) Statement),
      openWith { documents := docs } provider {} = .ok rs →
      ∀ error more, rs.next.1 = .error error → rs.next.2.next.1 = .ok more →
        ∀ doc ∈ docs.head?,
          rs.next.2.next.2.position = .onRow (.ofDocument rs.next.2.next.2.header doc) := by
  intro comes
  have position := comes [[("paid", .bool true)], [("paid", .bool false)]]
    { provider := .ofRows {}, before := some 1 } _ rfl _ _ rfl rfl _ rfl
  -- The second call stands on the row of the second document.
  cases position

end Advancing

end ResultSet

end BsonTable
