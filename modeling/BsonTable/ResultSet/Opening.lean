import BsonTable.ResultSet.Basic

/-! The ways to open a result set; none of them closes the cursor when it fails. -/

namespace BsonTable

/-- A failed opening, with the cursor as it was left. -/
structure OpenFailure (σ : Type u) where
  error : Error
  cursor : σ

namespace ResultSet

variable {σ : Type u} {π : Type v} {τ : Type w} [DocumentCursor σ]

/-- The document to look at before the first row, which only row-derived columns need. -/
def prefetch (strategy : Strategy) (cursor : σ) : Except Error (Option Document) × σ :=
  match strategy with
  | .rowDerived => DocumentCursor.next cursor
  | .schemaKnown => (.ok none, cursor)

/-- Open a result set whose columns come from a provider. -/
def openWith [HeaderProvider π] (cursor : σ) (provider : π) (options : Options) :
    Except (OpenFailure σ) (ResultSet σ π τ) :=
  match prefetch (HeaderProvider.strategy provider) cursor with
  | (.error error, cursor) => .error ⟨error, cursor⟩
  | (.ok pending, cursor) =>
    -- The first columns are those of the document at hand, or of the result as a whole.
    match HeaderProvider.describe pending provider with
    | (.error error, _) => .error ⟨error, cursor⟩
    | (.ok header, provider) =>
      .ok { cursor, pending, provider, header, mode := options.mode }

/-- Open a result set whose columns come from a known schema. -/
def openSchema (cursor : σ) (schema : ResultSchema) (options : Options) :
    Except (OpenFailure σ) (ResultSet σ HeaderSource τ) :=
  match HeaderSource.ofSchema schema options with
  | .error error => .error ⟨error, cursor⟩
  | .ok source => openWith cursor source options

/-- A failed schema request is reported as a missing schema. -/
def schemaFailure : Error → Error
  | .schemaUnavailable reason => .schemaUnavailable reason
  | error => .schemaUnavailable error.message

/-- Open a result set whose schema is the answer to a schema request. -/
def openReply (cursor : σ) (reply : Except Error Document) (options : Options) :
    Except (OpenFailure σ) (ResultSet σ HeaderSource τ) :=
  match reply with
  | .error error => .error ⟨schemaFailure error, cursor⟩
  | .ok doc =>
    match ResultSchema.ofDocument doc with
    | .error error => .error ⟨error, cursor⟩
    | .ok schema => openSchema cursor schema options

/-- Open a result set whose columns are those of each row. -/
def openRows (cursor : σ) (options : Options) :
    Except (OpenFailure σ) (ResultSet σ HeaderSource τ) :=
  openWith cursor (.ofRows options) options

/-- Open a result set with the strategy of its options, which may not need the schema. -/
def openByStrategy (cursor : σ) (reply : Option (Except Error Document)) (options : Options) :
    Except (OpenFailure σ) (ResultSet σ HeaderSource τ) :=
  match options.strategy, reply with
  -- Rows that show their own columns need no schema, even one that is at hand.
  | .rowDerived, _ => openRows cursor options
  | .schemaKnown, some reply => openReply cursor reply options
  | .schemaKnown, none =>
    .error ⟨.schemaUnavailable "no schema provider for a schema-known result set", cursor⟩

end ResultSet

end BsonTable
