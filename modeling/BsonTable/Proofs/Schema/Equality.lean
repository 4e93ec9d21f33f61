import BsonTable.Schema.Equality

/-! Equality of schemas is an equivalence as long as no union repeats a branch. -/

namespace BsonTable

namespace Schema

/-- Whatever is matched into no shorter a list without sharing partners leaves nothing out. -/
theorem covered_of_matched {α : Type u} {β : Type v} {link : α → β → Prop} {left : List α}
    {right : List β}
    (apart : left.Pairwise fun x x' => ∀ y ∈ right, link x y → ¬ link x' y)
    (short : right.length ≤ left.length) (matched : ∀ x ∈ left, ∃ y ∈ right, link x y) :
    ∀ y ∈ right, ∃ x ∈ left, link x y := by
  -- The partner of the head is taken out on the right, and the rest is matched without it.
  induction left generalizing right with
  | nil => simp [List.length_eq_zero_iff.mp (Nat.le_zero.mp short)]
  | cons head rest ih =>
    obtain ⟨alone, apart⟩ := List.pairwise_cons.mp apart
    obtain ⟨partner, member, linked⟩ := matched head List.mem_cons_self
    obtain ⟨before, after, rfl⟩ := List.append_of_mem member
    -- What is left on the right was there before.
    have narrowed : ∀ y ∈ before ++ after, y ∈ before ++ partner :: after := by
      intro y inside
      simp only [List.mem_append, List.mem_cons] at inside ⊢
      exact inside.imp_right .inr
    -- The head shares its partner with nobody, so the rest still finds its own.
    have others : ∀ x ∈ rest, ∃ y ∈ before ++ after, link x y := by
      intro x inside
      obtain ⟨y, found, linked'⟩ := matched x (List.mem_cons_of_mem _ inside)
      have different : y ≠ partner := by
        intro same
        subst same
        exact alone x inside y member linked linked'
      refine ⟨y, ?_, linked'⟩
      simpa [different] using found
    have shorter : (before ++ after).length ≤ rest.length := by
      simp only [List.length_append, List.length_cons] at short ⊢
      omega
    have remaining := ih (apart.imp fun separate y inside => separate y (narrowed y inside))
      shorter others
    intro y inside
    -- The partner was found by the head, and everything beside it by the rest.
    rcases List.mem_append.mp inside with inside | inside
    · obtain ⟨x, found, linked'⟩ := remaining y (List.mem_append_left _ inside)
      exact ⟨x, List.mem_cons_of_mem _ found, linked'⟩
    · rcases List.mem_cons.mp inside with same | inside
      · exact ⟨head, List.mem_cons_self, same ▸ linked⟩
      · obtain ⟨x, found, linked'⟩ := remaining y (List.mem_append_right _ inside)
        exact ⟨x, List.mem_cons_of_mem _ found, linked'⟩

/-- Whatever is matched without sharing partners is no longer than the list of partners. -/
theorem length_le_of_matched {α : Type u} {β : Type v} {link : α → β → Prop} {left : List α}
    {right : List β}
    (apart : left.Pairwise fun x x' => ∀ y ∈ right, link x y → ¬ link x' y)
    (matched : ∀ x ∈ left, ∃ y ∈ right, link x y) : left.length ≤ right.length := by
  apply Nat.le_of_not_lt
  intro long
  -- Were the left list longer, its tail would already take every partner of the head.
  cases left with
  | nil => simp at long
  | cons head rest =>
    obtain ⟨alone, apart⟩ := List.pairwise_cons.mp apart
    obtain ⟨partner, member, linked⟩ := matched head List.mem_cons_self
    have short : right.length ≤ rest.length := by simpa [Nat.lt_succ_iff] using long
    have covered := covered_of_matched apart short
      fun x inside => matched x (List.mem_cons_of_mem _ inside)
    obtain ⟨x, inside, linked'⟩ := covered partner member
    exact alone x inside partner member linked linked'

/-- Being one of the branches means being the same as one of them. -/
theorem contains_iff {branch : Schema} {branches : List Schema} :
    contains branch branches = true ↔ ∃ other ∈ branches, other.same branch = true := by
  -- The branches are asked in turn, each with itself on the left.
  induction branches with
  | nil => simp [contains]
  | cons first rest ih => simp [contains, ih]

/-- Being contained means that every branch on the left is one of the branches on the right. -/
theorem containsAll_iff {left right : List Schema} :
    containsAll left right = true ↔ ∀ x ∈ left, ∃ y ∈ right, y.same x = true := by
  -- One branch of the left side after the other is looked for.
  induction left with
  | nil => simp [containsAll]
  | cons first rest ih => simp [containsAll, contains_iff, ih]

/-- A field is the same as another one when its key finds the same schema. -/
theorem sameAt_iff {key : String} {schema : Schema} {fields : Fields Schema} :
    sameAt key schema fields = true ↔
      ∃ other, Fields.get? key fields = some other ∧ schema.same other = true := by
  -- The fields are searched by key, and the first one found is compared.
  induction fields with
  | nil => simp [sameAt, Fields.get?]
  | cons field rest ih =>
    obtain ⟨k, first⟩ := field
    by_cases found : k = key
    · simp [sameAt, Fields.get?, found]
    · simp [sameAt, Fields.get?, found, ih]

/-- Fields are the same as others when each of their keys finds the same schema there. -/
theorem sameFields_iff {left right : Fields Schema} :
    sameFields left right = true ↔
      ∀ field ∈ left, ∃ other, Fields.get? field.1 right = some other ∧
        field.2.same other = true := by
  induction left with
  | nil => simp [sameFields]
  | cons field rest ih =>
    obtain ⟨key, schema⟩ := field
    simp [sameFields, sameAt_iff, ih]

/-- The branches of a union that repeats none: they differ pairwise, whichever is asked first. -/
def Distinct (branches : List Schema) : Prop :=
  -- The comparison is not symmetric in general, so both directions are asked for.
  branches.Pairwise fun first second => first.same second = false ∧ second.same first = false

/-- No union inside the schema repeats a branch, and no object in it declares a name twice. -/
inductive Irredundant : Schema → Prop
  | any : Irredundant any
  | scalar (name : TypeName) : Irredundant (scalar name)
  | object {properties : Fields Schema} {required : List String} {additional : Bool}
      (once : (Fields.keys properties).Nodup)
      (parts : ∀ field ∈ properties, Irredundant field.2) :
      Irredundant (object properties required additional)
  | array {items : Schema} (part : Irredundant items) : Irredundant (array items)
  | anyOf {branches : List Schema} (distinct : Distinct branches)
      (parts : ∀ branch ∈ branches, Irredundant branch) : Irredundant (anyOf branches)

/-- Equality is an equivalence among the schemas with a property. -/
structure EquivalenceOn (p : Schema → Prop) : Prop where
  refl : ∀ {a}, p a → a.same a = true
  symm : ∀ {a b}, p a → p b → a.same b = true → b.same a = true
  trans : ∀ {a b c}, p a → p b → p c → a.same b = true → b.same c = true → a.same c = true

section Laws

variable {p : Schema → Prop}

/-- Distinct branches share no partner on the other side. -/
theorem EquivalenceOn.apart (laws : EquivalenceOn p) {left right : List Schema}
    (leftParts : ∀ x ∈ left, p x) (rightParts : ∀ y ∈ right, p y) (distinct : Distinct left) :
    left.Pairwise fun x x' => ∀ y ∈ right, y.same x = true → ¬ y.same x' = true := by
  apply List.pairwise_iff_forall_sublist.mpr
  intro x x' pair y inside first second
  have px := leftParts x (pair.subset (by simp))
  have px' := leftParts x' (pair.subset (by simp))
  have py := rightParts y inside
  -- Two branches with a common partner would be the same.
  have same := laws.trans px py px' (laws.symm py px first) second
  have differ := (List.pairwise_iff_forall_sublist.mp distinct pair).1
  simp [same] at differ

/-- Unions of distinct branches are the same exactly when each has all branches of the other. -/
theorem EquivalenceOn.same_anyOf_iff (laws : EquivalenceOn p) {left right : List Schema}
    (leftParts : ∀ x ∈ left, p x) (rightParts : ∀ y ∈ right, p y)
    (leftDistinct : Distinct left) (rightDistinct : Distinct right) :
    (anyOf left).same (anyOf right) = true ↔
      (∀ x ∈ left, ∃ y ∈ right, x.same y = true) ∧ ∀ y ∈ right, ∃ x ∈ left, y.same x = true := by
  -- The comparison counts the branches and looks for those on the left among those on the right.
  have compared : (anyOf left).same (anyOf right) = true ↔
      left.length = right.length ∧ ∀ x ∈ left, ∃ y ∈ right, y.same x = true := by
    rw [same]
    simp [containsAll_iff]
  rw [compared]
  constructor
  · intro compared
    obtain ⟨equal, contained⟩ := compared
    -- Equal lengths leave no branch on the right without a partner.
    have covered := covered_of_matched (laws.apart leftParts rightParts leftDistinct)
      (Nat.le_of_eq equal.symm) contained
    refine ⟨?_, covered⟩
    intro x inside
    obtain ⟨y, found, same⟩ := contained x inside
    exact ⟨y, found, laws.symm (rightParts y found) (leftParts x inside) same⟩
  · intro found
    obtain ⟨leftward, rightward⟩ := found
    -- Symmetry among the branches turns each side into the way that the comparison asks.
    have contained : ∀ x ∈ left, ∃ y ∈ right, y.same x = true := by
      intro x inside
      obtain ⟨y, found, same⟩ := leftward x inside
      exact ⟨y, found, laws.symm (leftParts x inside) (rightParts y found) same⟩
    have covering : ∀ y ∈ right, ∃ x ∈ left, x.same y = true := by
      intro y inside
      obtain ⟨x, found, same⟩ := rightward y inside
      exact ⟨x, found, laws.symm (rightParts y inside) (leftParts x found) same⟩
    -- Distinct branches with partners on the other side are no more than those, both ways.
    have shorter := length_le_of_matched (laws.apart leftParts rightParts leftDistinct) contained
    have longer := length_le_of_matched (laws.apart rightParts leftParts rightDistinct) covering
    exact ⟨Nat.le_antisymm shorter longer, contained⟩

/-- Branches that all occur in a list which all occurs in another one occur in that one. -/
theorem EquivalenceOn.matched_trans (laws : EquivalenceOn p) {left middle right : List Schema}
    (leftParts : ∀ x ∈ left, p x) (middleParts : ∀ y ∈ middle, p y) (rightParts : ∀ z ∈ right, p z)
    (first : ∀ x ∈ left, ∃ y ∈ middle, x.same y = true)
    (second : ∀ y ∈ middle, ∃ z ∈ right, y.same z = true) :
    ∀ x ∈ left, ∃ z ∈ right, x.same z = true := by
  -- The branch in the middle is a partner of both others.
  intro x inside
  obtain ⟨y, found, xy⟩ := first x inside
  obtain ⟨z, found', yz⟩ := second y found
  exact ⟨z, found', laws.trans (leftParts x inside) (middleParts y found) (rightParts z found') xy yz⟩

end Laws

/-- Fields under distinct keys never share a partner of their own name. -/
theorem apart_of_nodup {left right : Fields Schema} (once : (Fields.keys left).Nodup) :
    left.Pairwise fun x x' => ∀ y ∈ right, x.1 = y.1 → ¬ x'.1 = y.1 := by
  apply (List.pairwise_map.mp once).imp
  intro x x' differ y _ first second
  -- Both would be named like the field on the other side, but their own names differ.
  exact differ (first.trans second.symm)

/-- Two look-ups give the same schema, or both give none. -/
def SameFound : Option Schema → Option Schema → Prop :=
  Option.Rel fun first second => first.same second = true

/-- Look-ups that give the same schema succeed together. -/
theorem SameFound.isSome_eq {left right : Option Schema} (found : SameFound left right) :
    left.isSome = right.isSome := by
  cases found <;> rfl

/-- Fields that are the same under distinct keys answer every name with the same schema. -/
theorem sameFound_of_sameFields {left right : Fields Schema}
    (once : (Fields.keys left).Nodup) (equal : left.length = right.length)
    (same : sameFields left right = true) (name : String) :
    SameFound (Fields.get? name left) (Fields.get? name right) := by
  -- What the left side finds has a partner on the right, so only a miss is left to show.
  have matched := sameFields_iff.mp same
  cases found : Fields.get? name left with
  | some schema =>
    obtain ⟨other, located, same⟩ := matched _ (Fields.mem_of_get? found)
    rw [located]
    exact .some same
  | none =>
    -- A name found on the right alone would have no partner on the left.
    have absent : Fields.get? name right = none := by
      apply Fields.get?_eq_none_iff.mpr
      intro member
      obtain ⟨field, inside, rfl⟩ := List.mem_map.mp member
      have covered := covered_of_matched (apart_of_nodup once) (Nat.le_of_eq equal.symm)
        fun x inside => by
          obtain ⟨other, located, _⟩ := matched x inside
          exact ⟨_, Fields.mem_of_get? located, rfl⟩
      obtain ⟨x, member, named⟩ := covered field inside
      exact Fields.get?_eq_none_iff.mp found (List.mem_map.mpr ⟨x, member, named⟩)
    rw [absent]
    exact .none

/-- Fields whose names are found among others under distinct keys are no more than those. -/
theorem length_le_of_found {left right : Fields Schema} (once : (Fields.keys left).Nodup)
    (found : ∀ name, (Fields.get? name left).isSome → (Fields.get? name right).isSome) :
    left.length ≤ right.length := by
  apply length_le_of_matched (apart_of_nodup once)
  intro x inside
  -- A field has its partner under its own name.
  have located := found x.1 (by simp [Fields.get?_of_mem once inside])
  obtain ⟨y, member, named⟩ := List.mem_map.mp (Fields.get?_isSome_iff.mp located)
  exact ⟨y, member, named.symm⟩

/-- Objects are the same when every name finds the same schema and the other parts are equal. -/
theorem same_object_iff {left right : Fields Schema} {leftRequired rightRequired : List String}
    {leftAdditional rightAdditional : Bool} (leftOnce : (Fields.keys left).Nodup)
    (rightOnce : (Fields.keys right).Nodup) :
    (object left leftRequired leftAdditional).same
        (object right rightRequired rightAdditional) = true ↔
      (∀ name, SameFound (Fields.get? name left) (Fields.get? name right)) ∧
        leftRequired = rightRequired ∧ leftAdditional = rightAdditional := by
  -- The comparison counts the fields and looks for those on the left among those on the right.
  rw [same]
  simp only [Bool.and_eq_true, beq_iff_eq, and_assoc]
  constructor
  · intro compared
    obtain ⟨equal, fields, required, additional⟩ := compared
    exact ⟨sameFound_of_sameFields leftOnce equal fields, required, additional⟩
  · intro alike
    obtain ⟨found, required, additional⟩ := alike
    -- A name that one side finds is found by the other, so neither declares more.
    have equal : left.length = right.length :=
      Nat.le_antisymm
        (length_le_of_found leftOnce fun name present => (found name).isSome_eq ▸ present)
        (length_le_of_found rightOnce fun name present => (found name).isSome_eq ▸ present)
    refine ⟨equal, sameFields_iff.mpr ?_, required, additional⟩
    intro field inside
    have link := found field.1
    rw [Fields.get?_of_mem leftOnce inside] at link
    generalize located : Fields.get? field.1 right = there at link
    cases link with
    | some same => exact ⟨_, rfl, same⟩

/-- Two schemas of one kind; scalars name the same type. -/
inductive Alike : Schema → Schema → Prop
  | any : Alike any any
  | scalar (name : TypeName) : Alike (scalar name) (scalar name)
  | object (left right : Fields Schema) (leftRequired rightRequired : List String)
      (leftAdditional rightAdditional : Bool) :
      Alike (object left leftRequired leftAdditional) (object right rightRequired rightAdditional)
  | array (left right : Schema) : Alike (array left) (array right)
  | anyOf (left right : List Schema) : Alike (anyOf left) (anyOf right)

/-- Schemas that are the same are of one kind. -/
theorem alike_of_same {a b : Schema} (same : a.same b = true) : Alike a b := by
  -- Across two kinds the comparison says no at once.
  cases a <;> cases b <;> simp [Schema.same] at same
  case any.any => exact .any
  case scalar.scalar => exact same ▸ .scalar _
  case object.object => exact .object ..
  case array.array => exact .array ..
  case anyOf.anyOf => exact .anyOf ..

/-- A property is smaller than its object. -/
theorem sizeOf_lt_of_property {field : String × Schema} {properties : Fields Schema}
    (inside : field ∈ properties) (required : List String) (additional : Bool) :
    sizeOf field.2 < sizeOf (object properties required additional) := by
  have smaller := List.sizeOf_lt_of_mem inside
  obtain ⟨name, schema⟩ := field
  simp only [Prod.mk.sizeOf_spec] at smaller
  simp only [object.sizeOf_spec]
  omega

/-- A branch is smaller than its union. -/
theorem sizeOf_lt_of_branch {branch : Schema} {branches : List Schema}
    (inside : branch ∈ branches) : sizeOf branch < sizeOf (anyOf branches) := by
  have smaller := List.sizeOf_lt_of_mem inside
  simp only [anyOf.sizeOf_spec]
  omega

/-- An irredundant schema is the same as itself. -/
theorem Irredundant.same_self {schema : Schema} (irredundant : schema.Irredundant) :
    schema.same schema = true := by
  -- The induction follows the parts, each of which is the same as itself.
  induction irredundant with
  | any => simp [same]
  | scalar name => simp [same]
  | object once parts ih =>
    refine (same_object_iff once once).mpr ⟨?_, rfl, rfl⟩
    intro name
    cases found : Fields.get? name _ with
    | none => exact .none
    | some schema => exact .some (ih _ (Fields.mem_of_get? found))
  | array part ih => simpa [same] using ih
  | @anyOf branches distinct parts ih =>
    -- Each branch is its own partner.
    have contained : containsAll branches branches = true :=
      containsAll_iff.mpr fun branch inside => ⟨branch, inside, ih branch inside⟩
    simp [same, contained]

/-- Parts of irredundant schemas below a size are irredundant and below the next smaller size. -/
abbrev Below (size : Nat) (schema : Schema) : Prop :=
  schema.Irredundant ∧ sizeOf schema < size

/-- The parts of an object below a size. -/
theorem Below.properties {size : Nat} {properties : Fields Schema} {required : List String}
    {additional : Bool} (below : Below (size + 1) (object properties required additional)) :
    (Fields.keys properties).Nodup ∧
      ∀ {name schema}, Fields.get? name properties = some schema → Below size schema := by
  obtain ⟨irredundant, small⟩ := below
  cases irredundant with
  | object once parts =>
    refine ⟨once, ?_⟩
    intro name schema found
    have inside := Fields.mem_of_get? found
    have smaller := sizeOf_lt_of_property inside required additional
    simp only at smaller
    exact ⟨parts _ inside, by omega⟩

/-- The branches of a union below a size. -/
theorem Below.branches {size : Nat} {branches : List Schema}
    (below : Below (size + 1) (anyOf branches)) :
    Distinct branches ∧ ∀ branch ∈ branches, Below size branch := by
  -- The size of a part is less than that of the whole, which is less than the bound.
  obtain ⟨irredundant, small⟩ := below
  cases irredundant with
  | anyOf distinct parts =>
    refine ⟨distinct, ?_⟩
    intro branch inside
    have smaller := sizeOf_lt_of_branch inside
    exact ⟨parts branch inside, by omega⟩

/-- The elements of an array below a size. -/
theorem Below.items {size : Nat} {items : Schema} (below : Below (size + 1) (array items)) :
    Below size items := by
  obtain ⟨irredundant, small⟩ := below
  cases irredundant with
  | array part =>
    simp only [array.sizeOf_spec] at small
    exact ⟨part, by omega⟩

/-- Look-ups with the same result are so in either order. -/
theorem SameFound.symm {p : Schema → Prop} (laws : EquivalenceOn p)
    {left right : Option Schema} (found : SameFound left right)
    (leftParts : ∀ {s}, left = some s → p s) (rightParts : ∀ {s}, right = some s → p s) :
    SameFound right left := by
  -- The parts are needed for the laws, which hold of what was found.
  cases found with
  | none => exact .none
  | some same => exact .some (laws.symm (leftParts rfl) (rightParts rfl) same)

/-- Look-ups with the same result as a third one have the same result. -/
theorem SameFound.trans {p : Schema → Prop} (laws : EquivalenceOn p)
    {left middle right : Option Schema} (first : SameFound left middle)
    (second : SameFound middle right) (leftParts : ∀ {s}, left = some s → p s)
    (middleParts : ∀ {s}, middle = some s → p s) (rightParts : ∀ {s}, right = some s → p s) :
    SameFound left right := by
  -- Either all three find nothing, or all three find something.
  cases first with
  | none => exact second
  | some same =>
    cases second with
    | some same' =>
      exact .some (laws.trans (leftParts rfl) (middleParts rfl) (rightParts rfl) same same')

/-- Equality is an equivalence among the irredundant schemas below any size. -/
theorem equivalenceOn_below (size : Nat) : EquivalenceOn (Below size) := by
  -- Symmetry of unions rests on transitivity among their branches, so the laws go up together.
  induction size with
  | zero =>
    -- No schema is that small.
    have empty : ∀ {schema : Schema}, ¬ Below 0 schema := fun below => Nat.not_lt_zero _ below.2
    exact ⟨fun p => (empty p).elim, fun p => (empty p).elim, fun p => (empty p).elim⟩
  | succ size ih =>
    refine ⟨fun p => p.1.same_self, ?_, ?_⟩
    · -- Symmetry: what either side finds is compared the other way round one level down.
      intro a b pa pb ab
      cases alike_of_same ab with
      | any => exact ab
      | scalar name => exact ab
      | object =>
        obtain ⟨onceA, partsA⟩ := pa.properties
        obtain ⟨onceB, partsB⟩ := pb.properties
        obtain ⟨found, required, additional⟩ := (same_object_iff onceA onceB).mp ab
        exact (same_object_iff onceB onceA).mpr
          ⟨fun name => (found name).symm ih partsA partsB, required.symm, additional.symm⟩
      | array =>
        rw [same] at ab ⊢
        exact ih.symm pa.items pb.items ab
      | anyOf =>
        obtain ⟨distinctA, partsA⟩ := pa.branches
        obtain ⟨distinctB, partsB⟩ := pb.branches
        obtain ⟨forth, back⟩ := (ih.same_anyOf_iff partsA partsB distinctA distinctB).mp ab
        -- Set equality reads the same from either side.
        exact (ih.same_anyOf_iff partsB partsA distinctB distinctA).mpr ⟨back, forth⟩
    · -- Transitivity: the schema in the middle is of the kind of both others.
      intro a b c pa pb pc ab bc
      cases alike_of_same ab with
      | any => exact bc
      | scalar name => exact bc
      | object =>
        cases alike_of_same bc with
        | object =>
          obtain ⟨onceA, partsA⟩ := pa.properties
          obtain ⟨onceB, partsB⟩ := pb.properties
          obtain ⟨onceC, partsC⟩ := pc.properties
          obtain ⟨first, required, additional⟩ := (same_object_iff onceA onceB).mp ab
          obtain ⟨second, required', additional'⟩ := (same_object_iff onceB onceC).mp bc
          exact (same_object_iff onceA onceC).mpr
            ⟨fun name => (first name).trans ih (second name) partsA partsB partsC,
              required.trans required', additional.trans additional'⟩
      | array =>
        cases alike_of_same bc with
        | array =>
          rw [same] at ab bc ⊢
          exact ih.trans pa.items pb.items pc.items ab bc
      | anyOf =>
        cases alike_of_same bc with
        | anyOf =>
          obtain ⟨distinctA, partsA⟩ := pa.branches
          obtain ⟨distinctB, partsB⟩ := pb.branches
          obtain ⟨distinctC, partsC⟩ := pc.branches
          obtain ⟨forth, back⟩ := (ih.same_anyOf_iff partsA partsB distinctA distinctB).mp ab
          obtain ⟨forth', back'⟩ := (ih.same_anyOf_iff partsB partsC distinctB distinctC).mp bc
          exact (ih.same_anyOf_iff partsA partsC distinctA distinctC).mpr
            ⟨ih.matched_trans partsA partsB partsC forth forth',
              ih.matched_trans partsC partsB partsA back' back⟩

/-- Equality is an equivalence among irredundant schemas. -/
theorem equivalenceOn_irredundant : EquivalenceOn Irredundant := by
  -- Any few schemas lie below a common size.
  refine ⟨fun p => p.same_self, ?_, ?_⟩
  · intro a b pa pb ab
    exact (equivalenceOn_below (sizeOf a + sizeOf b + 1)).symm
      ⟨pa, by omega⟩ ⟨pb, by omega⟩ ab
  · intro a b c pa pb pc ab bc
    exact (equivalenceOn_below (sizeOf a + sizeOf b + sizeOf c + 1)).trans
      ⟨pa, by omega⟩ ⟨pb, by omega⟩ ⟨pc, by omega⟩ ab bc

/--
Where no union repeats a branch, equality is an equivalence, and unions are equal as sets.

The comparison itself counts the branches and looks for them one way only.
-/
theorem same_equivalence :
    Equivalence (fun a b : { schema : Schema // schema.Irredundant } => a.1.same b.1 = true) ∧
      ∀ left right : List Schema, (anyOf left).Irredundant → (anyOf right).Irredundant →
        ((anyOf left).same (anyOf right) = true ↔
          (∀ x ∈ left, ∃ y ∈ right, x.same y = true) ∧
            ∀ y ∈ right, ∃ x ∈ left, y.same x = true) := by
  -- Both parts follow from the laws among irredundant schemas.
  have laws := equivalenceOn_irredundant
  refine ⟨⟨fun a => a.2.same_self, ?_, ?_⟩, ?_⟩
  · intro a b ab
    exact laws.symm a.2 b.2 ab
  · intro a b c ab bc
    exact laws.trans a.2 b.2 c.2 ab bc
  · intro left right leftIrredundant rightIrredundant
    -- The branches of both unions are irredundant themselves, so the laws hold among them.
    cases leftIrredundant with
    | anyOf leftDistinct leftParts =>
      cases rightIrredundant with
      | anyOf rightDistinct rightParts =>
        exact laws.same_anyOf_iff leftParts rightParts leftDistinct rightDistinct

/-- Two spellings of one union are equal, since each has the branches of the other. -/
theorem same_equivalence_swapped :
    (anyOf [scalar .int, scalar .string]).same (anyOf [scalar .string, scalar .int]) = true := by
  have irredundant : ∀ {a b : TypeName}, a ≠ b → (anyOf [scalar a, scalar b]).Irredundant := by
    -- Both unions list two different types.
    intro a b differ
    refine .anyOf ?_ ?_
    · simp [Distinct, same, differ, Ne.symm differ]
    · simp [Irredundant.scalar]
  refine (same_equivalence.2 _ _ (irredundant (by decide)) (irredundant (by decide))).mpr ?_
  simp [same]

/-- A repeated branch is counted twice but found once, so the order of the two sides matters. -/
example :
    (anyOf [scalar .int, scalar .int]).same (anyOf [scalar .int, scalar .string]) = true ∧
      (anyOf [scalar .int, scalar .string]).same (anyOf [scalar .int, scalar .int]) = false := by
  cbv

end Schema

end BsonTable
