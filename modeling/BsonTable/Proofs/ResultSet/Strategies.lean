import BsonTable.Proofs.ResultSet.Level
import BsonTable.Proofs.ResultSet.Memory
import BsonTable.Proofs.Table.RegularRows

/-!
A result set with a known schema and one whose rows show their own columns go through the same
calls together, as long as the rows are laid out as the schema declares.
-/

namespace BsonTable

/-- In the relaxed mode, every value is read as something. -/
theorem Target.read_relaxed [Libraries] (target : Target) (declared : ColumnType) (value : Value) :
    ∃ reading, target.read .relaxed declared value = .ok reading := by
  have lenient := target.read_lenient declared value
  -- Whether the strict reading fits or not, the relaxed one that follows it is there.
  generalize target.read .strict declared value = strictly at lenient
  generalize target.read .relaxed declared value = relaxedly at lenient
  cases lenient <;> exact ⟨_, rfl⟩

namespace ResultSet

variable {σ : Type u} {σ' : Type u'} {π : Type v} {π' : Type v'} {τ : Type w}

section Parting

/-- Whether the memories of two result sets may differ after a call, if they may before it. -/
def partedBy [Libraries] (call : Call) (rs : ResultSet σ π τ) (other : ResultSet σ' π' τ)
    (before : Bool) :
    Bool :=
  match call with
  | .read ref target =>
    match (rs.read ref target).1, (other.read ref target).1 with
    | .ok _, .ok _ => false
    | .error _, .error _ => before
    -- A read that succeeds on one side alone is remembered there alone.
    | _, _ => true
  | _ => before

variable [DocumentCursor σ] [DocumentCursor σ'] {docs : List Document}
  {alike : π × Header → π' × Header → Prop} {rs : ResultSet σ π τ} {other : ResultSet σ' π' τ}
  {before : Bool}

/-- But for the strict reading of objects, a read succeeds on both sides or fails alike. -/
theorem Level.readsTogether [Libraries] (level : Level docs alike rs other) (ref : ColumnAddress)
    {target : Target} (either : target ≠ .object ∨ rs.mode = .relaxed) :
    (∃ reading reading', (rs.read ref target).1 = .ok reading ∧
        (other.read ref target).1 = .ok reading') ∨
      ∃ error, (rs.read ref target).1 = .error error ∧
        (other.read ref target).1 = .error error := by
  -- Other targets look at the value alone, and the relaxed mode refuses none.
  rcases either with untyped | relaxed
  · rw [← level.read ref untyped]
    cases (rs.read ref target).1 with
    | ok reading => exact .inl ⟨reading, reading, rfl, rfl⟩
    | error failure => exact .inr ⟨failure, rfl, rfl⟩
  · rw [read_answer, read_answer, ← level.mode, relaxed]
    obtain ⟨error, here, there⟩ | ⟨column, column', value, here, there⟩ := level.located ref
    · rw [here, there]
      exact .inr ⟨error, rfl, rfl⟩
    · -- What is located is read as something, on either side as its own column wants it.
      obtain ⟨reading, reads⟩ := target.read_relaxed column.type value
      obtain ⟨reading', reads'⟩ := target.read_relaxed column'.type value
      rw [here, there]
      exact .inl ⟨reading, reading', reads, reads'⟩

/-- Only reading an object can part two result sets at the same place, and only strictly. -/
theorem Level.partedBy [Libraries] (level : Level docs alike rs other) {call : Call}
    (parts : partedBy call rs other before = true) :
    before = true ∨ rs.mode = .strict ∧ ∃ ref, call = .read ref .object := by
  -- Any other read comes out on both sides alike, and so parts nothing.
  have together : ∀ ref target, call = .read ref target →
      (target ≠ .object ∨ rs.mode = .relaxed) → before = true := by
    rintro ref target rfl either
    obtain ⟨_, _, reads, reads'⟩ | ⟨_, fails, fails'⟩ := level.readsTogether ref either
    · simp only [ResultSet.partedBy, reads, reads', Bool.false_eq_true] at parts
    · simp only [ResultSet.partedBy, fails, fails'] at parts
      exact parts
  cases call with
  | read ref target =>
    by_cases object : target = .object
    · subst object
      cases mode : rs.mode with
      | strict => exact .inr ⟨rfl, ref, rfl⟩
      | relaxed => exact .inl (together ref .object rfl (.inr mode))
    · exact .inl (together ref target rfl (.inl object))
  -- Calls other than reads leave the memories as they are.
  | _ => exact .inl parts

variable [HeaderProvider π] [HeaderProvider π'] [OwningStatement τ]

/-- Whether some read succeeded on one side alone, and none on both sides since. -/
def parted [Libraries] : List Call → ResultSet σ π τ → ResultSet σ' π' τ → Bool → Bool
  | [], _, _, before => before
  | call :: rest, rs, other, before =>
    parted rest (rs.perform call).2 (other.perform call).2 (partedBy call rs other before)

/-- Unless a call parts them, both remember the same. -/
theorem Level.memory [Libraries] (level : Level docs alike rs other)
    (same : before = false → rs.lastReadNull = other.lastReadNull) {call : Call}
    (together : ResultSet.partedBy call rs other before = false) :
    (rs.perform call).2.lastReadNull = (other.perform call).2.lastReadNull := by
  -- Only a read changes a memory, so the other calls are set apart first.
  cases isRead : call.isRead with
  | false =>
    -- Other calls leave the memories alone, and do not count as parting.
    have kept : before = false := by
      cases call with
      | read _ _ => cases isRead
      | _ => exact together
    rw [perform_unread isRead, perform_unread isRead, same kept]
  | true =>
    cases call with
    | read ref target =>
      show (rs.read ref target).2.lastReadNull = (other.read ref target).2.lastReadNull
      simp only [ResultSet.partedBy] at together
      split at together
      · rename_i reads reads'
        exact level.remembered reads reads'
      · -- A read that fails on both sides is remembered on neither.
        rename_i fails fails'
        rw [read_failed fails, read_failed fails', same together]
      · cases together
    | _ => cases isRead

/-- Unless some calls part them, both remember the same after them. -/
theorem Level.run_memory [Libraries] (level : Level docs alike rs other)
    (shown : ShownAlike docs alike)
    (calls : List Call) (same : before = false → rs.lastReadNull = other.lastReadNull)
    (together : parted calls rs other before = false) :
    (ResultSet.run calls rs).2.lastReadNull = (ResultSet.run calls other).2.lastReadNull := by
  -- The induction is on the calls, from whatever memories the first of them leaves.
  induction calls generalizing rs other before with
  | nil => exact same together
  | cons call rest ih => exact ih (level.perform shown call) (level.memory same) together

/-- Only reading an object can part two result sets at the same place, and only strictly. -/
theorem Level.run_parted [Libraries] (level : Level docs alike rs other)
    (shown : ShownAlike docs alike)
    (calls : List Call) (parts : parted calls rs other before = true) :
    before = true ∨ rs.mode = .strict ∧ ∃ ref, .read ref .object ∈ calls := by
  -- The induction is on the calls, from wherever the first of them leaves both.
  induction calls generalizing rs other before with
  | nil => exact .inl parts
  | cons call rest ih =>
    obtain first | ⟨mode, ref, later⟩ := ih (level.perform shown call) parts
    · -- It was the first call that parted them, if they were not parted before.
      obtain earlier | ⟨mode, ref, rfl⟩ := level.partedBy first
      · exact .inl earlier
      · exact .inr ⟨mode, ref, List.mem_cons_self⟩
    · rw [perform_mode] at mode
      exact .inr ⟨mode, ref, List.mem_cons_of_mem call later⟩

end Parting

section Strategies

/--
How the answers of two result sets of different strategies go together after some calls.

Each of them has a database of its own, which is what its columns are said to belong to.
-/
structure AnswerAlike [Libraries] [DocumentCursor σ] [DocumentCursor σ'] [OwningStatement τ]
    (database database' : String) (calls : List Call) (known : ResultSet σ HeaderSource τ)
    (byRow : ResultSet σ' HeaderSource τ) : Prop where
  /-- Moving, asking for the place and reading anything but objects comes to the same. -/
  answers : ∀ call, call.isShared = true →
    ((run calls known).2.perform call).1 = ((run calls byRow).2.perform call).1
  /-- So does what is remembered, while no read succeeded on one side alone since one on both. -/
  wasNull : parted calls known byRow false = false →
    (run calls known).2.wasNull = (run calls byRow).2.wasNull
  /-- Such a read is that of an object in the strict mode. -/
  parts : parted calls known byRow false = true →
    known.mode = .strict ∧ ∃ ref, .read ref .object ∈ calls
  /-- On a row, both show columns that go by the same names in the same order. -/
  columns : ∀ row, (run calls known).2.position = .onRow row → ∃ header header',
    (run calls known).2.currentHeader = .ok header ∧
      (run calls byRow).2.currentHeader = .ok header' ∧ header.ListsAs header' ∧
        header.IsIn database ∧ header'.IsIn database'

/-- A known schema beside columns that each row shows by itself in a database. -/
def Beside (header : Header) (database : String)
    (known byRow : HeaderSource × Header) : Prop :=
  known = (.schema header, header) ∧ (∃ placeholder, byRow.1 = .rows database placeholder) ∧
    byRow.2.IsIn database

/-- Where each row shows the columns that the schema lists, both stay beside each other. -/
theorem beside_shownAlike {header : Header} {database : String} {docs : List Document}
    (lists : ∀ doc ∈ docs, header.ListsAs (HeaderSource.describeRow database doc)) :
    ShownAlike docs (Beside header database) := by
  -- One side keeps its columns, the other takes those of the document.
  rintro known ⟨source, shown⟩ ⟨rfl, ⟨placeholder, same⟩, _⟩ doc among
  dsimp only at same
  subst same
  exact ⟨_, _, rfl, rfl, lists doc among, rfl, ⟨placeholder, rfl⟩,
    HeaderSource.describeRow_isIn database doc⟩

variable [DocumentCursor σ] [DocumentCursor σ'] {known : ResultSet σ HeaderSource τ}
  {byRow : ResultSet σ' HeaderSource τ}

/-- Result sets at the same place, which remember the same, answer alike after any calls. -/
theorem Level.answerAlike [Libraries] [OwningStatement τ] {header : Header}
    {database database' : String}
    {docs : List Document} (level : Level docs (Beside header database') known byRow)
    (shown : ShownAlike docs (Beside header database')) (inside : header.IsIn database)
    (memory : known.lastReadNull = byRow.lastReadNull) (calls : List Call) :
    AnswerAlike database database' calls known byRow where
  answers := fun _ shared => (level.run shown calls).answers shown shared
  wasNull := by
    -- Being open is the same at the same place, and then the memories are told.
    intro together
    rw [ResultSet.wasNull, ResultSet.wasNull, whenOpen_congr (level.run shown calls).position,
      level.run_memory shown calls (fun _ => memory) together]
  parts := by
    intro parts
    -- Nothing had parted them before the first call.
    obtain impossible | reads := level.run_parted shown calls parts
    · cases impossible
    · exact reads
  columns := by
    intro row position
    have after := level.run shown calls
    have isOpen : (ResultSet.run calls known).2.position ≠ .closed := by
      intro closed
      cases position.symm.trans closed
    have isOpen' : (ResultSet.run calls byRow).2.position ≠ .closed := by
      rw [← after.position]
      exact isOpen
    -- The columns of the schema are still those it was opened with.
    obtain ⟨same, _, inside'⟩ := after.columns
    have header : (ResultSet.run calls known).2.header = header := congrArg Prod.snd same
    -- On a row both are open, so both show the columns that they have.
    refine ⟨_, _, whenOpen_of_open isOpen _, whenOpen_of_open isOpen' _,
      after.listed row position, ?_, inside'⟩
    rw [header]
    exact inside

/-- Right after opening, both stand before all rows, with nothing remembered. -/
theorem openWith_beside {cursor : σ} {cursor' : σ'} {rows : List Document}
    (serves : ServesReliably cursor rows) (serves' : ServesReliably cursor' rows)
    {header : Header} {database : String} {placeholder : Option Document} {options : Options}
    {rowOptions : Options} (mode : rowOptions.mode = options.mode)
    (opened : openWith cursor (HeaderSource.schema header) options = .ok known)
    (opened' : openWith cursor' (HeaderSource.rows database placeholder) rowOptions = .ok byRow)
    (statement : Option τ) :
    Level rows (Beside header database) { known with statement } { byRow with statement } ∧
      known.lastReadNull = byRow.lastReadNull := by
  obtain ⟨⟨_, described⟩, memory⟩ := openWith_described opened
  obtain ⟨⟨_, described'⟩, memory'⟩ := openWith_described opened'
  -- Describing columns from data alone leaves the source of them as it is.
  have columns : header = known.header := Except.ok.inj (congrArg Prod.fst described)
  have source : .schema header = known.provider := congrArg Prod.snd described
  have source' : .rows database placeholder = byRow.provider := congrArg Prod.snd described'
  have fresh := openWith_fresh opened
  have here := openWith_stands serves opened
  have there := openWith_stands serves' opened'
  have shows : (HeaderSource.rows database placeholder).describe _ = byRow.header :=
    Except.ok.inj (congrArg Prod.fst described')
  -- The two agree in the place, the count and the mode, each by how it was opened.
  refine ⟨⟨.inl ⟨0, here.attached statement, there.attached statement⟩, ?_, ?_, rfl, ?_, ?_⟩,
    memory.trans memory'.symm⟩
  · exact here.rowCount.trans there.rowCount.symm
  · exact fresh.mode.trans (mode.symm.trans (openWith_fresh opened').mode.symm)
  · refine ⟨Prod.ext source.symm columns.symm, ⟨placeholder, source'.symm⟩, ?_⟩
    rw [← shows]
    exact HeaderSource.describe_isIn database placeholder _
  · -- What is listed matters on a row only, and none was entered yet.
    intro row position
    cases fresh.position.symm.trans position

variable [OwningStatement τ]

/--
A schema-known and a row-derived result set answer alike over rows laid out as the schema declares.

Both are opened whenever the schema is accepted, without a requested order and without sorting, over
any two cursors that serve the rows without failing, and in the same mode. After any calls, what
they answer is the same but for what depends on the types of columns: the reading of objects, and
the memory of it where only one side could read one. Their columns belong to the database that each
of them was given.
-/
theorem strategies_answer_alike [Libraries] {schema : ResultSchema} {options rowOptions : Options}
    {source : HeaderSource} (accepted : HeaderSource.ofSchema schema options = .ok source)
    (unordered : schema.selectOrder = none) (unsorted : options.sorted = false)
    (mode : rowOptions.mode = options.mode) {rows : List Document}
    (regular : ∀ row ∈ rows, HeaderSource.IsRegular schema row) {cursor : σ} {cursor' : σ'}
    (serves : ServesReliably cursor rows) (serves' : ServesReliably cursor' rows)
    (placeholder : Option Document) (statement : Option τ) (calls : List Call) :
    ∃ (known : ResultSet σ HeaderSource τ) (byRow : ResultSet σ' HeaderSource τ),
      openSchema cursor schema options = .ok known ∧
      openWith cursor' (.rows rowOptions.database placeholder) rowOptions = .ok byRow ∧
      AnswerAlike options.database rowOptions.database calls { known with statement }
        { byRow with statement } := by
  obtain ⟨header, rfl, inside, lists⟩ := HeaderSource.ofSchema_listsAs accepted unordered unsorted
  -- Neither cursor fails, so both result sets can be opened.
  obtain ⟨known, opened⟩ : ∃ known : ResultSet σ HeaderSource τ,
      openWith cursor (HeaderSource.schema header) options = .ok known :=
    openWith_succeeds serves HeaderSource.describing _ options
  obtain ⟨byRow, opened'⟩ : ∃ byRow : ResultSet σ' HeaderSource τ,
      openWith cursor' (.rows rowOptions.database placeholder) rowOptions = .ok byRow :=
    openWith_succeeds serves' HeaderSource.describing _ rowOptions
  have opens : openSchema cursor schema options = .ok known := by
    rw [openSchema, accepted]
    exact opened
  -- Every row shows the columns that the schema lists, so both stay at the same place.
  have shown := beside_shownAlike fun row among => lists row (regular row among) rowOptions.database
  obtain ⟨level, memory⟩ := openWith_beside serves serves' mode opened opened' statement
  exact ⟨known, byRow, opens, opened', level.answerAlike shown inside memory calls⟩

/-- Two declared columns, read in both ways over a row whose values are not of their types. -/
theorem strategies_answer_alike_regular :
    let shape : DocumentShape :=
      { properties := [("a", .scalar .int), ("b", .scalar .string)] }
    let schema : ResultSchema := { schema := .object [("t", shape.toSchema)] [] false }
    let rows : List Document := [[("t", .document [("a", .string "seven"), ("b", .null)])]]
    let queue : DocumentQueue := { documents := rows }
    let options : Options := { mode := .strict, database := "db" }
    let rowOptions : Options := { options with strategy := .rowDerived, database := "other" }
    let calls : List Call :=
      [.next, .read (.label "a") .int, .read (.index 2) .string, .wasNull, .next]
    let answers : List (Except Error Answer) := [.ok (.flag true),
      .error (.typeMismatch "string" "int"), .ok (.reading (.string none)), .ok (.flag true),
      .ok (.flag false)]
    ∃ known byRow : ResultSet DocumentQueue HeaderSource Statement,
      openSchema queue schema options = .ok known ∧
      openWith queue (.rows "other" none) rowOptions = .ok byRow ∧
      (run calls known).1 = answers ∧ (run calls byRow).1 = answers ∧
      AnswerAlike "db" "other" calls known byRow := by
  intro shape schema rows queue options rowOptions calls answers
  obtain ⟨source, accepted⟩ : ∃ source, HeaderSource.ofSchema schema options = .ok source :=
    ⟨_, rfl⟩
  have mode : rowOptions.mode = options.mode := rfl
  have regular : ∀ row ∈ rows, HeaderSource.IsRegular schema row := by
    intro row among
    rw [List.mem_singleton.mp among]
    exact ⟨by decide, _, rfl, .cons ⟨rfl, _, rfl, rfl⟩ .nil⟩
  have serves := DocumentQueue.servesReliably rows
  refine ⟨_, _, rfl, rfl, rfl, rfl, ?_⟩
  obtain ⟨known, byRow, opened, opened', alike⟩ := strategies_answer_alike accepted rfl rfl mode
    regular serves serves none (none : Option Statement) calls
  cases opened
  cases opened'
  exact alike

/--
A strict reading of an object parts the two: what one side cannot read, it does not remember.

The text stands in a column declared as an integer, so only the side that finds the type of the
column in the row reads it, and forgets the null that both read before.
-/
theorem strategies_part_on_object :
    let shape : DocumentShape :=
      { properties := [("a", .scalar .int), ("b", .scalar .string)] }
    let schema : ResultSchema := { schema := .object [("t", shape.toSchema)] [] false }
    let rows : List Document := [[("t", .document [("a", .string "seven"), ("b", .null)])]]
    let queue : DocumentQueue := { documents := rows }
    let options : Options := { mode := .strict, database := "db" }
    let calls : List Call := [.next, .read (.label "b") .bson, .read (.label "a") .object]
    (∀ row ∈ rows, HeaderSource.IsRegular schema row) ∧ ServesReliably queue rows ∧
    ∃ known byRow : ResultSet DocumentQueue HeaderSource Statement,
      openSchema queue schema options = .ok known ∧
      openWith queue (.rows "db" none) options = .ok byRow ∧
      (run calls known).2.wasNull = .ok true ∧ (run calls byRow).2.wasNull = .ok false := by
  intro shape schema rows queue options calls
  -- The two runs are computed; what is left is that the row is regular.
  refine ⟨?_, DocumentQueue.servesReliably rows, _, _, rfl, rfl, rfl, rfl⟩
  intro row among
  rw [List.mem_singleton.mp among]
  exact ⟨by decide, _, rfl, .cons ⟨rfl, _, rfl, rfl⟩ .nil⟩

end Strategies

end ResultSet

end BsonTable
