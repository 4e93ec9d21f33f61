import BsonTable.Proofs.Schema.Grammar
import BsonTable.Proofs.Table.DeclaredColumns
import BsonTable.ResultSet.Opening

/-!
What becomes of a schema request that fails: the schema is unavailable, for the reason that was
given, and the cursor is left alone.
-/

namespace BsonTable

/-- The values that deny success; a decimal zero is not one of them. -/
inductive Value.IsFalsy : Value → Prop
  | no : IsFalsy (.bool false)
  | int : IsFalsy (.int 0)
  | long : IsFalsy (.long 0)
  | double {number : Binary64} (zero : number.isZero = true) : IsFalsy (.double number)
  | null : IsFalsy .null
  | undefined : IsFalsy .undefined

/-- A value is not truthy exactly when it denies success. -/
theorem Value.isTruthy_eq_false_iff {value : Value} :
    value.isTruthy = false ↔ value.IsFalsy := by
  constructor
  · intro falsy
    -- Each kind of value is tested in its own way, and numbers by comparing them with zero.
    unfold isTruthy at falsy
    split at falsy
    · subst falsy
      exact .no
    · rw [bne_eq_false_iff_eq] at falsy
      subst falsy
      exact .int
    · rw [bne_eq_false_iff_eq] at falsy
      subst falsy
      exact .long
    · exact .double (by simpa using falsy)
    · exact .null
    · exact .undefined
    · cases falsy
  · intro falsy
    cases falsy with
    | double zero => simp [isTruthy, zero]
    | _ => rfl

namespace ResultSchema

variable {reply : Document} {reason : String}

/-- Whether a reply says that the request failed. -/
def Denies (reply : Document) : Prop :=
  -- A reply without the field denies nothing.
  ∃ ok, Fields.get? "ok" reply = some ok ∧ ok.IsFalsy

/-- The reason that a reply gives for its failure. -/
inductive Gives (reply : Document) : String → Prop
  | own {reason : String} (told : Fields.get? "errmsg" reply = some (.string reason)) :
    Gives reply reason
  /-- Without a text, the failure is all there is to say. -/
  | none (untold : ∀ reason, Fields.get? "errmsg" reply ≠ some (.string reason)) :
    Gives reply "server reported failure"

/-- A reply denies success by its `ok` field. -/
theorem deniesSuccess_iff : deniesSuccess reply = true ↔ Denies reply := by
  unfold deniesSuccess Denies
  -- The field decides, if it is there.
  cases Fields.get? "ok" reply with
  | none => simp
  | some ok => simp [Value.isTruthy_eq_false_iff]

/-- The failure that a reply reports has the reason that it gives. -/
theorem reportedFailure_eq_iff :
    reportedFailure reply = .schemaUnavailable reason ↔ Gives reply reason := by
  -- The reason is a text or it is none, and on either side the message tells it.
  unfold reportedFailure
  split
  · rename_i text told
    constructor
    · intro same
      cases same
      exact .own told
    · intro gives
      cases gives with
      | own told' =>
        cases told.symm.trans told'
        rfl
      | none untold => exact (untold text told).elim
  · rename_i untold
    constructor
    · intro same
      cases same
      exact .none untold
    · intro gives
      cases gives with
      | own told => exact (untold _ told).elim
      | none _ => rfl

/-- The requested columns of a reply fail to be read only for their form. -/
theorem selectOrderOf_onlyMalformed (reply : Document) : OnlyMalformed (selectOrderOf reply) := by
  -- The entries are read in order, and none of them looks at another one.
  unfold selectOrderOf
  split
  · exact .ok none
  · exact .ok none
  · refine OnlyMalformed.bind (.mapM ?_) fun _ _ => .ok _
    intro entry _
    unfold selectEntry
    split
    · exact .ok _
    · exact .unexpected _ _
  · exact .unexpected _ _

/-- Whether a reply is an envelope that says that the request failed. -/
def Refuses (reply : Document) : Prop :=
  (Fields.get? "schema" reply).isSome ∧ Denies reply

/-- An envelope that denies success fails to be read as it reports itself. -/
theorem ofDocument_of_refuses (refuses : Refuses reply) :
    ofDocument reply = .error (reportedFailure reply) := by
  -- Both fields are at hand, and the denial is looked at first.
  obtain ⟨present, denies⟩ := refuses
  obtain ⟨envelope, found⟩ := Option.isSome_iff_exists.mp present
  simp only [ofDocument, found, deniesSuccess_iff.mpr denies, if_true]

/-- Any other reply fails to be read only by being malformed. -/
theorem ofDocument_onlyMalformed (granted : ¬ Refuses reply) :
    OnlyMalformed (ofDocument reply) := by
  -- Past the denial, a failure comes from reading the schema or what is around it.
  unfold ofDocument
  split
  · exact (Schema.ofDocument_onlyMalformed reply).bind fun _ _ => .ok _
  · rename_i envelope found
    have notDenied : ¬ deniesSuccess reply = true := by
      rw [deniesSuccess_iff]
      exact fun denies => granted ⟨Option.isSome_of_eq_some found, denies⟩
    rw [if_neg notDenied]
    split
    · rename_i envelope
      -- Version, schema and requested columns are read one after the other, each for itself.
      have version : OnlyMalformed (versionOf envelope) := by
        unfold versionOf
        split
        · exact .ok _
        · exact .ok _
        · exact .ok _
        · exact .unexpected _ _
      have schema : OnlyMalformed (schemaOf envelope) := by
        unfold schemaOf
        split
        · exact Schema.ofDocument_onlyMalformed _
        · exact .unexpected _ _
        · exact .malformed _
      refine version.bind fun _ _ => schema.bind fun _ _ => ?_
      exact (selectOrderOf_onlyMalformed reply).bind fun _ _ => .ok _
    · exact .malformed _

/-- A reply makes the schema unavailable exactly by denying success in an envelope. -/
theorem ofDocument_eq_unavailable_iff :
    ofDocument reply = .error (.schemaUnavailable reason) ↔
      Refuses reply ∧ Gives reply reason := by
  -- A refusal fails with its own reason; what is no refusal fails as malformed or not at all.
  by_cases refuses : Refuses reply
  · rw [ofDocument_of_refuses refuses, Except.error.injEq, reportedFailure_eq_iff]
    exact (and_iff_right refuses).symm
  · constructor
    · intro failed
      -- A missing schema is no fault that is found with one.
      cases ofDocument_onlyMalformed refuses _ failed
    · exact fun ⟨refuses', _⟩ => (refuses refuses').elim

/-- A reply that is not read is malformed, or says itself why there is no schema. -/
theorem ofDocument_failed {error : Error} (failed : ofDocument reply = .error error) :
    error.IsMalformed ∨ ∃ reason, error = .schemaUnavailable reason := by
  -- The same two cases, for any failure.
  by_cases refuses : Refuses reply
  · rw [ofDocument_of_refuses refuses] at failed
    cases failed
    unfold reportedFailure
    split
    · exact .inr ⟨_, rfl⟩
    · exact .inr ⟨_, rfl⟩
  · exact .inl (ofDocument_onlyMalformed refuses _ failed)

end ResultSchema

/-- A schema fails to make columns only by being malformed. -/
theorem HeaderSource.ofSchema_onlyMalformed (schema : ResultSchema) (options : Options) :
    OnlyMalformed (ofSchema schema options) := by
  -- Tables are read first, then the columns are arranged.
  have tabled : OnlyMalformed (tables schema) := by
    unfold tables
    split
    · exact .malformed _
    · refine .mapM fun ⟨name, part⟩ _ => ?_
      dsimp only
      split
      · exact .ok _
      · exact .malformed _
  refine tabled.bind fun tables _ => OnlyMalformed.bind ?_ fun _ _ => .ok _
  -- Columns that were requested must be declared; any other order is at hand.
  unfold arrange
  split
  · refine .mapM fun key _ => ?_
    unfold checkDeclared
    split
    · exact .ok key
    · exact .malformed _
  · exact .ok _

namespace ResultSet

variable {σ : Type u} (τ : Type w) [DocumentCursor σ]

/-- A known schema fails to be opened only by being malformed, and without a look at the cursor. -/
theorem openSchema_failed {cursor : σ} {schema : ResultSchema} {options : Options}
    {failure : OpenFailure σ} (failed : (openSchema cursor schema options :
      Except _ (ResultSet σ HeaderSource τ)) = .error failure) :
    failure.error.IsMalformed ∧ failure.cursor = cursor := by
  unfold openSchema at failed
  split at failed
  · rename_i error refused
    cases failed
    exact ⟨HeaderSource.ofSchema_onlyMalformed schema options error refused, rfl⟩
  · rename_i source accepted
    -- Known columns need neither a document nor anything else that could fail.
    obtain ⟨header, rfl, _⟩ := HeaderSource.ofSchema_declares accepted
    cases failed

/-- Whether opening after a schema request fails for want of a schema, the cursor as it was. -/
structure FailsUnavailable (cursor : σ) (options : Options) (answer : Except Error Document)
    (reason : String) : Prop where
  replied : (openReply cursor answer options : Except _ (ResultSet σ HeaderSource τ)) =
    .error ⟨.schemaUnavailable reason, cursor⟩
  /-- The strategy of the options may ask for the same. -/
  byStrategy : options.strategy = .schemaKnown →
    (openByStrategy cursor (some answer) options : Except _ (ResultSet σ HeaderSource τ)) =
      .error ⟨.schemaUnavailable reason, cursor⟩

/-- What comes of a schema request that fails, whatever the cursor and the options. -/
structure ReportsRequest (cursor : σ) (options : Options) : Prop where
  /-- A reason that the request gives is passed on as it is. -/
  unavailable : ∀ reason,
    FailsUnavailable τ cursor options (.error (.schemaUnavailable reason)) reason
  /-- Any other failure is the reason, as it is shown to a reader. -/
  failed : ∀ error : Error, (∀ reason, error ≠ .schemaUnavailable reason) →
    FailsUnavailable τ cursor options (.error error) error.message
  /-- A denial counts in an envelope alone. -/
  denied : ∀ reply reason, FailsUnavailable τ cursor options (.ok reply) reason ↔
    ResultSchema.Refuses reply ∧ ResultSchema.Gives reply reason
  /-- Any other reply that opens nothing is malformed, and costs no document either. -/
  malformed : ∀ reply failure, (openReply cursor (.ok reply) options :
      Except _ (ResultSet σ HeaderSource τ)) = .error failure →
    failure.cursor = cursor ∧
      (failure.error.IsMalformed ∨
        ∃ reason, FailsUnavailable τ cursor options (.ok reply) reason)

variable {τ}

/-- With a known schema to be asked for, opening by strategy is opening after the request. -/
theorem failsUnavailable_iff {cursor : σ} {options : Options} {answer : Except Error Document}
    {reason : String} : FailsUnavailable τ cursor options answer reason ↔
      (openReply cursor answer options : Except _ (ResultSet σ HeaderSource τ)) =
        .error ⟨.schemaUnavailable reason, cursor⟩ := by
  refine ⟨FailsUnavailable.replied, fun replied => ⟨replied, ?_⟩⟩
  -- Only the other strategy would pass the answer by.
  intro known
  unfold openByStrategy
  rw [known]
  exact replied

/-- A failure other than a missing schema is shown as the reason for one. -/
theorem schemaFailure_of_ne {error : Error} (other : ∀ reason, error ≠ .schemaUnavailable reason) :
    schemaFailure error = .schemaUnavailable error.message := by
  -- The failure is told by its message, unless it is already one of a schema.
  unfold schemaFailure
  split
  · rename_i reason
    exact (other reason rfl).elim
  · rfl

section Replying

variable {cursor : σ} {options : Options} {reply : Document}

/-- A reply makes the schema unavailable exactly when it cannot be read for that reason. -/
theorem failsUnavailable_reply_iff {reason : String} :
    FailsUnavailable τ cursor options (.ok reply) reason ↔
      ResultSchema.ofDocument reply = .error (.schemaUnavailable reason) := by
  -- Only the reading of the reply can make the schema unavailable.
  rw [failsUnavailable_iff]
  cases read : ResultSchema.ofDocument reply with
  | error error => simp [openReply, read]
  | ok schema =>
    -- The schema that was read can only turn out to be malformed.
    constructor
    · intro failed
      simp only [openReply, read] at failed
      cases (openSchema_failed τ failed).1
    · nofun

/-- Whatever keeps a reply from opening a result set, the cursor is as it was. -/
theorem openReply_failed {failure : OpenFailure σ} (failed : (openReply cursor (.ok reply) options :
      Except _ (ResultSet σ HeaderSource τ)) = .error failure) :
    failure.cursor = cursor ∧
      (failure.error.IsMalformed ∨
        ∃ reason, FailsUnavailable τ cursor options (.ok reply) reason) := by
  cases read : ResultSchema.ofDocument reply with
  | ok schema =>
    simp only [openReply, read] at failed
    obtain ⟨malformed, same⟩ := openSchema_failed τ failed
    exact ⟨same, .inl malformed⟩
  | error error =>
    simp only [openReply, read] at failed
    cases failed
    -- The cursor is given back before anybody asked it for anything.
    refine ⟨rfl, (ResultSchema.ofDocument_failed read).imp_right ?_⟩
    rintro ⟨reason, rfl⟩
    exact ⟨reason, failsUnavailable_reply_iff.mpr read⟩

end Replying

/--
A schema request that fails makes the schema unavailable, and a reply that denies success does so
when it is an envelope.

The cursor is as it was, so no document was taken from it.
-/
theorem schema_request_failures_are_reported (cursor : σ) (options : Options) :
    ReportsRequest τ cursor options where
  unavailable _ := failsUnavailable_iff.mpr rfl
  failed error other := by
    rw [failsUnavailable_iff]
    simp only [openReply, schemaFailure_of_ne other]
  denied reply reason := by
    rw [failsUnavailable_reply_iff, ResultSchema.ofDocument_eq_unavailable_iff]
  malformed _ _ failed := openReply_failed failed

/-- A request that fails, and an envelope that denies success, leave the documents waiting. -/
theorem schema_request_failures_are_reported_queue :
    let queue : DocumentQueue := { documents := [[("a", .int 1)]] }
    let reply : Document :=
      [("ok", .int 0), ("errmsg", .string "no such collection"), ("schema", .document [])]
    FailsUnavailable Statement queue {} (.error (.cursor "socket closed"))
        "Cursor error: socket closed" ∧
      FailsUnavailable Statement queue {} (.ok reply) "no such collection" := by
  intro queue reply
  have reports : ReportsRequest Statement queue {} :=
    -- The first failure comes from the request itself, the second one from its reply.
    schema_request_failures_are_reported queue {}
  refine ⟨reports.failed (.cursor "socket closed") nofun, ?_⟩
  exact (reports.denied reply _).mpr ⟨⟨rfl, .int 0, rfl, .int⟩, .own rfl⟩

/--
A bare reply that denies success is read as a schema all the same.

So is an envelope that denies it by a decimal zero, and that one opens a result set.
-/
theorem bare_denial_read_as_schema :
    let queue : DocumentQueue := { documents := [] }
    let envelope : Document := [("jsonSchema", .document
      [("bsonType", .string "object"), ("properties", .document [])])]
    (¬ ∀ (reply : Document) (reason : String), ResultSchema.Denies reply →
      ResultSchema.Gives reply reason →
      FailsUnavailable Statement queue {} (.ok reply) reason) ∧
    (openReply queue (.ok [("ok", .decimal ⟨0x30400000000000000000000000000000#128⟩),
        ("schema", .document envelope)]) {} :
      Except _ (ResultSet _ HeaderSource Statement)).isOk = true := by
  intro queue envelope
  constructor
  · -- The reply is refused by its own account, but it is no envelope.
    intro unavailable
    let reply : Document := [("ok", .int 0), ("errmsg", .string "no such collection")]
    have failed := unavailable reply _ ⟨.int 0, rfl, .int⟩ (.own rfl)
    obtain ⟨refuses, _⟩ := ResultSchema.ofDocument_eq_unavailable_iff.mp
      (failsUnavailable_reply_iff.mp failed)
    -- There is no schema in the reply, and so no envelope.
    cases refuses.1
  · have read : ResultSchema.ofDocument
        [("ok", .decimal ⟨0x30400000000000000000000000000000#128⟩),
          ("schema", .document envelope)] = .ok { schema := .object [] [] false } := by cbv
    simp only [openReply, read]
    rfl

end ResultSet

end BsonTable
