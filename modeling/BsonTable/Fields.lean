/-! Ordered fields: keys and values in the order in which the keys first came. -/

namespace BsonTable

/-- Keys with their values, in order. -/
abbrev Fields (α : Type u) := List (String × α)

namespace Fields

/-- The value of the first field with a key. -/
def get? {α : Type u} (key : String) : Fields α → Option α
  | [] => none
  -- The search stops at the first field with the key.
  | (k, value) :: rest => if k = key then some value else get? key rest

/-- Replace the value of a key where it stands, or add the key at the end. -/
def insert {α : Type u} (key : String) (value : α) : Fields α → Fields α
  | [] => [(key, value)]
  | (k, old) :: rest =>
    -- The other fields stay where they are.
    if k = key then (k, value) :: rest else (k, old) :: insert key value rest

/-- The fields without those of a key. -/
def erase {α : Type u} (key : String) (fields : Fields α) : Fields α :=
  fields.filter fun field => !decide (field.1 = key)

/-- Fields from pairs, in which a repeated key keeps its first place and its last value. -/
def ofPairs {α : Type u} (pairs : List (String × α)) : Fields α :=
  -- A pair that comes later wins, but only for the value.
  pairs.foldl (fun fields pair => insert pair.1 pair.2 fields) []

/-- The keys in order. -/
def keys {α : Type u} (fields : Fields α) : List String :=
  fields.map Prod.fst

/-- A value that is found stands in one of the fields. -/
theorem mem_of_get? {α : Type u} {key : String} {value : α} {fields : Fields α}
    (found : get? key fields = some value) : (key, value) ∈ fields := by
  -- The search stops either at the head or inside the rest.
  induction fields with
  | nil => simp [get?] at found
  | cons field rest ih =>
    obtain ⟨k, old⟩ := field
    by_cases same : k = key
    · simp only [get?, same, if_true, Option.some.injEq] at found
      simp [same, found]
    · simp only [get?, same, if_false] at found
      exact List.mem_cons_of_mem _ (ih found)

/-- A value that is found is smaller than the fields it stands in. -/
theorem sizeOf_lt_of_get? {α : Type u} [SizeOf α] {key : String} {value : α}
    {fields : Fields α} (found : get? key fields = some value) :
    sizeOf value < sizeOf fields := by
  -- The pair that holds the value is smaller than the list, and the value than the pair.
  have member := List.sizeOf_lt_of_mem (mem_of_get? found)
  simp only [Prod.mk.sizeOf_spec] at member
  omega

/-- A key is found exactly when it is one of the keys. -/
theorem get?_isSome_iff {α : Type u} {key : String} {fields : Fields α} :
    (get? key fields).isSome ↔ key ∈ keys fields := by
  -- The search passes over exactly the fields whose keys differ.
  induction fields with
  | nil => simp [get?, keys]
  | cons field rest ih =>
    obtain ⟨k, value⟩ := field
    by_cases same : k = key
    · simp [get?, keys, same]
    · simpa [get?, keys, same, Ne.symm same] using ih

/-- A key that finds nothing is none of the keys. -/
theorem get?_eq_none_iff {α : Type u} {key : String} {fields : Fields α} :
    get? key fields = none ↔ key ∉ keys fields := by
  rw [← get?_isSome_iff, Option.not_isSome_iff_eq_none]

/-- Where keys are distinct, every field is the one that its key finds. -/
theorem get?_of_mem {α : Type u} {key : String} {value : α} {fields : Fields α}
    (once : (keys fields).Nodup) (member : (key, value) ∈ fields) :
    get? key fields = some value := by
  -- A field behind the head has another key than the head.
  induction fields with
  | nil => simp at member
  | cons field rest ih =>
    obtain ⟨k, first⟩ := field
    obtain ⟨fresh, once⟩ := List.nodup_cons.mp once
    rcases List.mem_cons.mp member with same | member
    · cases same
      simp [get?]
    · have other : k ≠ key := by
        rintro rfl
        exact fresh (List.mem_map.mpr ⟨_, member, rfl⟩)
      simpa [get?, other] using ih once member

/-- Where values are replaced under their keys, a key finds the replacement of what it found. -/
theorem get?_map {α : Type u} {β : Type v} (replace : α → β) (key : String) (fields : Fields α) :
    get? key (fields.map fun field => (field.1, replace field.2)) =
      (get? key fields).map replace := by
  -- The keys stay as they are, so the search takes the same way.
  induction fields with
  | nil => rfl
  | cons field rest ih =>
    obtain ⟨k, value⟩ := field
    by_cases same : k = key
    · simp [get?, same]
    · simpa [get?, same] using ih

/-- A key finds the value that was inserted under it, and other keys find what they found. -/
theorem get?_insert {α : Type u} (key other : String) (value : α) (fields : Fields α) :
    get? other (insert key value fields) = if other = key then some value else get? other fields := by
  -- Three keys are compared: the inserted one, the one that is asked for and the one at the head.
  induction fields with
  | nil => simp [insert, get?, eq_comm]
  | cons field rest ih =>
    obtain ⟨k, old⟩ := field
    by_cases same : k = key
    · subst same
      by_cases asked : k = other
      · simp [insert, get?, asked]
      · simp [insert, get?, asked, Ne.symm asked]
    · by_cases asked : k = other
      · subst asked
        simp [insert, get?, same]
      · simp [insert, get?, same, asked, ih]

/-- A key that was erased finds nothing, and other keys find what they found. -/
theorem get?_erase {α : Type u} (key other : String) (fields : Fields α) :
    get? other (erase key fields) = if other = key then none else get? other fields := by
  -- Erasing may drop several fields, so the rest is erased as well.
  induction fields with
  | nil => simp [erase, get?]
  | cons field rest ih =>
    obtain ⟨k, value⟩ := field
    simp only [erase, List.filter_cons] at ih ⊢
    by_cases same : k = key
    · subst same
      by_cases asked : k = other
      · simpa [asked] using ih
      · simp [get?, asked, ih]
    · by_cases asked : k = other
      · subst asked
        simp [get?, same]
      · simp [get?, same, asked, ih]

/-- Inserting adds its key to the keys and loses none. -/
theorem mem_keys_insert {α : Type u} {key other : String} {value : α} {fields : Fields α} :
    other ∈ keys (insert key value fields) ↔ other = key ∨ other ∈ keys fields := by
  -- The key is new at the end only when no field had it.
  induction fields with
  | nil => simp [insert, keys]
  | cons field rest ih =>
    obtain ⟨k, old⟩ := field
    by_cases same : k = key
    · simp [insert, keys, same]
    · simp only [insert, same, if_false, keys, List.map_cons, List.mem_cons] at ih ⊢
      rw [ih]
      exact or_left_comm

/-- Inserting keeps keys distinct. -/
theorem nodup_keys_insert {α : Type u} {key : String} {value : α} {fields : Fields α}
    (once : (keys fields).Nodup) : (keys (insert key value fields)).Nodup := by
  -- The key is either replaced where it stands or new at the end.
  induction fields with
  | nil => simp [insert, keys]
  | cons field rest ih =>
    obtain ⟨k, old⟩ := field
    obtain ⟨fresh, once⟩ := List.nodup_cons.mp once
    by_cases same : k = key
    · simpa [insert, keys, same] using List.nodup_cons.mpr ⟨same ▸ fresh, once⟩
    · simp only [insert, same, if_false, keys, List.map_cons, List.nodup_cons]
      refine ⟨fun member => ?_, ih once⟩
      rcases mem_keys_insert.mp member with found | found
      · exact same found
      · exact fresh found

/-- What stands in the fields after inserting was inserted or stood there before. -/
theorem mem_of_mem_insert {α : Type u} {key : String} {value : α} {fields : Fields α}
    {field : String × α} (member : field ∈ insert key value fields) :
    field = (key, value) ∨ field ∈ fields := by
  -- Only the field with the key is replaced.
  induction fields with
  | nil => simpa [insert] using member
  | cons first rest ih =>
    obtain ⟨k, old⟩ := first
    by_cases same : k = key
    · simp only [insert, same, if_true, List.mem_cons] at member
      exact member.imp id (List.mem_cons_of_mem _)
    · simp only [insert, same, if_false, List.mem_cons] at member
      rcases member with head | tail
      · exact .inr (List.mem_cons.mpr (.inl head))
      · exact (ih tail).imp id (List.mem_cons_of_mem _)

/-- A key that is new goes to the end. -/
theorem insert_of_not_mem {α : Type u} {key : String} {value : α} {fields : Fields α}
    (fresh : key ∉ keys fields) : insert key value fields = fields ++ [(key, value)] := by
  -- The search for the key comes to the end.
  induction fields with
  | nil => rfl
  | cons field rest ih =>
    obtain ⟨k, old⟩ := field
    simp only [keys, List.map_cons, List.mem_cons, not_or] at fresh
    simp [insert, Ne.symm fresh.1, ih fresh.2]

/-- Fields made of pairs have distinct keys. -/
theorem nodup_keys_ofPairs {α : Type u} (pairs : List (String × α)) :
    (keys (ofPairs pairs)).Nodup := by
  -- The claim holds for any fields with distinct keys to start from.
  have general : ∀ fields : Fields α, (keys fields).Nodup →
      (keys (pairs.foldl (fun fields pair => insert pair.1 pair.2 fields) fields)).Nodup := by
    induction pairs with
    | nil => exact fun _ once => once
    | cons pair rest ih => exact fun fields once => ih _ (nodup_keys_insert once)
  exact general [] .nil

/-- Fields made of pairs hold nothing but pairs. -/
theorem mem_of_mem_ofPairs {α : Type u} {pairs : List (String × α)} {field : String × α}
    (member : field ∈ ofPairs pairs) : field ∈ pairs := by
  -- What is found at the end stood in the starting fields or was inserted on the way.
  have general : ∀ (pairs : List (String × α)) (fields : Fields α),
      field ∈ pairs.foldl (fun fields pair => insert pair.1 pair.2 fields) fields →
        field ∈ fields ∨ field ∈ pairs := by
    intro pairs
    induction pairs with
    | nil => exact fun _ member => .inl member
    | cons pair rest ih =>
      intro fields member
      rcases ih (insert pair.1 pair.2 fields) member with found | found
      · exact (mem_of_mem_insert found).elim
          (fun same => .inr (List.mem_cons.mpr (.inl same))) .inl
      · exact .inr (List.mem_cons_of_mem _ found)
  exact (general pairs [] member).elim (fun none => by simp at none) id

/-- Pairs with distinct keys are fields as they stand. -/
theorem ofPairs_of_nodup {α : Type u} {pairs : List (String × α)} (once : (keys pairs).Nodup) :
    ofPairs pairs = pairs := by
  -- Each pair goes to the end of the fields made of the pairs before it.
  have general : ∀ fields : Fields α, (keys (fields ++ pairs)).Nodup →
      pairs.foldl (fun fields pair => insert pair.1 pair.2 fields) fields = fields ++ pairs := by
    induction pairs with
    | nil => simp
    | cons pair rest ih =>
      intro fields distinct
      obtain ⟨key, value⟩ := pair
      have fresh : key ∉ keys fields := by
        intro member
        simp only [keys, List.map_append, List.map_cons] at distinct member
        exact (List.nodup_append.mp distinct).2.2 key member key List.mem_cons_self rfl
      have rest_once : (keys rest).Nodup := by
        simp only [keys, List.map_cons, List.nodup_cons] at once
        exact once.2
      rw [List.foldl_cons, insert_of_not_mem fresh, ih rest_once _ (by simpa using distinct)]
      simp
  simpa [ofPairs] using general [] (by simpa using once)

end Fields

end BsonTable
