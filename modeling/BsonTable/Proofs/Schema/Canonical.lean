import BsonTable.Proofs.Schema.Equality
import BsonTable.Schema.Union

/-! Unions flatten, drop repetitions, and so bring canonical branches into canonical form. -/

namespace BsonTable

namespace Schema

mutual

/-- The parts of a schema that are no union, nested unions replaced by their branches in place. -/
def leaves : Schema → List Schema
  | anyOf branches => leavesOf branches
  | any => [any]
  | scalar name => [scalar name]
  | object properties required additional => [object properties required additional]
  | array items => [array items]

/-- The leaves of branches, in order. -/
def leavesOf : List Schema → List Schema
  | [] => []
  | branch :: rest => leaves branch ++ leavesOf rest

end

/-- Add the leaves that are no repetition, in order. -/
def keepNew (kept : List Schema) : List Schema → List Schema
  | [] => kept
  | leaf :: rest => if contains leaf kept then keepNew kept rest else keepNew (kept ++ [leaf]) rest

/-- The schema of distinct leaves: a single leaf stands for itself. -/
def ofLeaves : List Schema → Schema
  | [] => any
  | [only] => only
  | kept => anyOf kept

/-- The leaves of joined lists are joined. -/
theorem leavesOf_append (left right : List Schema) :
    leavesOf (left ++ right) = leavesOf left ++ leavesOf right := by
  -- The induction goes along the list in front.
  induction left with
  | nil => simp [leavesOf]
  | cons first rest ih => simp [leavesOf, ih]

/-- What fits anything is found among schemas by what it is. -/
theorem any_isAny_iff {schemas : List Schema} : schemas.any isAny = true ↔ any ∈ schemas := by
  rw [List.any_eq_true]
  constructor
  · rintro ⟨schema, inside, free⟩
    -- Only one constructor fits anything.
    cases schema <;> simp [isAny] at free
    exact inside
  · exact fun inside => ⟨any, inside, rfl⟩

/-- The work list collects the leaves that are new, unless one of the leaves fits anything. -/
theorem collectBranches_eq (kept pending : List Schema) :
    collectBranches kept pending =
      if (leavesOf pending).any isAny then none else some (keepNew kept (leavesOf pending)) := by
  -- The induction follows the work list: a union is replaced by its branches, a leaf is settled.
  induction kept, pending using collectBranches.induct with
  | case1 kept => simp [collectBranches, leavesOf, keepNew]
  | case2 kept nested rest ih => simp [collectBranches, ih, leavesOf, leaves, leavesOf_append]
  | case3 kept rest => simp [collectBranches, leavesOf, leaves, isAny]
  | case4 kept branch rest notUnion notAny found ih =>
    cases branch <;> simp_all [collectBranches, leavesOf, leaves, isAny, keepNew]
  | case5 kept branch rest notUnion notAny found ih =>
    cases branch <;> simp_all [collectBranches, leavesOf, leaves, isAny, keepNew]

/-- A union is made of its distinct leaves, unless one of its leaves fits anything. -/
theorem union_eq (branches : List Schema) :
    union branches =
      if (leavesOf branches).any isAny then any else ofLeaves (keepNew [] (leavesOf branches)) := by
  rw [union, collectBranches_eq]
  -- Either a leaf fits anything and the work list gives up, or the kept leaves decide.
  by_cases free : (leavesOf branches).any isAny = true
  · simp [free]
  · simp only [free]
    generalize keepNew [] (leavesOf branches) = kept
    match kept with
    | [] => rfl
    | [only] => rfl
    | first :: second :: rest => rfl

/-- A union with a leaf that fits anything fits anything. -/
theorem union_of_any {branches : List Schema} (free : any ∈ leavesOf branches) :
    union branches = any := by
  -- The work list stops at that leaf.
  rw [union_eq, if_pos (any_isAny_iff.mpr free)]

/-- A union without such a leaf is made of its distinct leaves. -/
theorem union_of_concrete {branches : List Schema} (concrete : any ∉ leavesOf branches) :
    union branches = ofLeaves (keepNew [] (leavesOf branches)) := by
  rw [union_eq, if_neg (by rwa [any_isAny_iff])]

/-- A schema that is no union is its own leaf. -/
theorem leaves_of_not_union {schema : Schema} (flat : ∀ nested, schema ≠ anyOf nested) :
    leaves schema = [schema] := by
  cases schema with
  | anyOf nested => exact (flat nested rfl).elim
  | _ => simp [leaves]

/-- Branches that are no unions are their own leaves. -/
theorem leavesOf_of_flat {branches : List Schema}
    (flat : ∀ branch ∈ branches, ∀ nested, branch ≠ anyOf nested) :
    leavesOf branches = branches := by
  induction branches with
  | nil => rfl
  | cons first rest ih =>
    have head := leaves_of_not_union (flat first List.mem_cons_self)
    have tail := ih fun branch inside => flat branch (List.mem_cons_of_mem _ inside)
    simp [leavesOf, head, tail]

/-- The leaves of branches are those of one of the branches. -/
theorem mem_leavesOf {leaf : Schema} {branches : List Schema} :
    leaf ∈ leavesOf branches ↔ ∃ branch ∈ branches, leaf ∈ leaves branch := by
  induction branches with
  | nil => simp [leavesOf]
  | cons first rest ih => simp [leavesOf, ih]

section Repetitions

variable {kept pending : List Schema}

/-- Nothing is kept but what was kept before and what is added. -/
theorem mem_of_mem_keepNew {schema : Schema} (inside : schema ∈ keepNew kept pending) :
    schema ∈ kept ∨ schema ∈ pending := by
  -- The induction is on what is added, from any list that is kept before.
  induction pending generalizing kept with
  | nil => exact .inl inside
  | cons leaf rest ih =>
    rw [keepNew] at inside
    split at inside
    · -- The leaf was dropped, so only later ones were added.
      exact (ih inside).imp_right (List.mem_cons_of_mem _)
    · -- The leaf was put behind those kept before.
      rcases ih inside with found | found
      · simp only [List.mem_append, List.mem_singleton] at found
        exact found.imp_right fun same => List.mem_cons.mpr (.inl same)
      · exact .inr (List.mem_cons_of_mem _ found)

/-- What was kept before stays. -/
theorem mem_keepNew_of_mem {schema : Schema} (inside : schema ∈ kept) :
    schema ∈ keepNew kept pending := by
  induction pending generalizing kept with
  | nil => exact inside
  | cons leaf rest ih =>
    rw [keepNew]
    -- Whether the next leaf is put behind or dropped, the kept ones stay in front.
    split
    · exact ih inside
    · exact ih (List.mem_append_left _ inside)

/-- Every leaf that is added is the same as one that is kept. -/
theorem keepNew_covers (reflexive : ∀ leaf ∈ pending, leaf.same leaf = true) :
    ∀ leaf ∈ pending, ∃ other ∈ keepNew kept pending, other.same leaf = true := by
  -- A leaf is dropped only for another one that is kept to the end.
  induction pending generalizing kept with
  | nil => simp
  | cons first rest ih =>
    have tail := fun leaf inside => reflexive leaf (List.mem_cons_of_mem first inside)
    intro leaf inside
    rw [keepNew]
    rcases List.mem_cons.mp inside with rfl | inside
    · split
      · -- It is dropped for a leaf that it repeats.
        rename_i found
        obtain ⟨other, member, same⟩ := contains_iff.mp found
        exact ⟨other, mem_keepNew_of_mem member, same⟩
      · -- It is kept for itself.
        exact ⟨leaf, mem_keepNew_of_mem (by simp), reflexive leaf List.mem_cons_self⟩
    · split
      · exact ih tail leaf inside
      · exact ih tail leaf inside

/-- No kept leaf is the same as a later one. -/
theorem keepNew_pairwise (apart : kept.Pairwise fun first second => first.same second = false) :
    (keepNew kept pending).Pairwise fun first second => first.same second = false := by
  -- What is kept grows along the induction, and stays apart at each step.
  induction pending generalizing kept with
  | nil => exact apart
  | cons leaf rest ih =>
    rw [keepNew]
    split
    · exact ih apart
    · -- A leaf that is added was found among none of those kept before it.
      rename_i fresh
      refine ih (List.pairwise_append.mpr ⟨apart, List.pairwise_singleton _ _, ?_⟩)
      intro other member schema inside
      rw [List.mem_singleton.mp inside]
      apply Bool.eq_false_iff.mpr
      intro same
      exact fresh (contains_iff.mpr ⟨other, member, same⟩)

/-- Leaves without repetition are all kept, in their order. -/
theorem keepNew_of_pairwise
    (apart : (kept ++ pending).Pairwise fun first second => first.same second = false) :
    keepNew kept pending = kept ++ pending := by
  induction pending generalizing kept with
  | nil => simp [keepNew]
  | cons leaf rest ih =>
    -- Anything that contained the leaf would be the same as a later one.
    have fresh : ¬ contains leaf kept = true := by
      intro found
      obtain ⟨other, member, same⟩ := contains_iff.mp found
      have differ := (List.pairwise_append.mp apart).2.2 other member leaf List.mem_cons_self
      simp [same] at differ
    -- So the leaf is put behind the kept ones, which is where it already stands.
    rw [keepNew, if_neg fresh, ih (by simpa using apart)]
    simp

end Repetitions

/-- Canonical form, at every depth. -/
inductive IsCanonical : Schema → Prop
  | any : IsCanonical any
  /-- Documents and arrays have schemas of their own. -/
  | scalar {name : TypeName} (bare : name ≠ .object ∧ name ≠ .array) : IsCanonical (scalar name)
  /-- Names are declared once, and required names are listed in ascending order. -/
  | object {properties : Fields Schema} {required : List String} {additional : Bool}
      (once : (Fields.keys properties).Nodup) (ascending : required.Pairwise (· < ·))
      (parts : ∀ field ∈ properties, IsCanonical field.2) :
      IsCanonical (object properties required additional)
  | array {items : Schema} (part : IsCanonical items) : IsCanonical (array items)
  /-- Unions have two or more distinct branches, none of which is a union or fits anything. -/
  | anyOf {branches : List Schema} (several : 2 ≤ branches.length) (distinct : Distinct branches)
      (flat : ∀ branch ∈ branches, branch ≠ .any ∧ ∀ nested, branch ≠ .anyOf nested)
      (parts : ∀ branch ∈ branches, IsCanonical branch) : IsCanonical (anyOf branches)

namespace IsCanonical

/-- With a single property, no name is declared twice. -/
theorem singleton {name : String} {part : Schema} {required : List String} {additional : Bool}
    (canonical : part.IsCanonical) (ascending : required.Pairwise (· < ·)) :
    (Schema.object [(name, part)] required additional).IsCanonical := by
  refine .object (List.pairwise_singleton _ _) ascending ?_
  intro field inside
  cases List.mem_singleton.mp inside
  exact canonical

/-- Canonical schemas repeat nothing. -/
theorem irredundant {schema : Schema} (canonical : schema.IsCanonical) : schema.Irredundant := by
  -- Canonical form asks for more than that, constructor by constructor.
  induction canonical with
  | any => exact .any
  | scalar bare => exact .scalar _
  | object once ascending parts ih => exact .object once ih
  | array part ih => exact .array ih
  | anyOf several distinct flat parts ih => exact .anyOf distinct ih

/-- The leaves of a canonical schema are canonical and no unions. -/
theorem leaf {schema leaf : Schema} (canonical : schema.IsCanonical)
    (inside : leaf ∈ leaves schema) :
    leaf.IsCanonical ∧ ∀ nested, leaf ≠ Schema.anyOf nested := by
  by_cases union : ∃ branches, schema = Schema.anyOf branches
  · -- The branches of a canonical union are its leaves, as none of them is a union.
    obtain ⟨branches, rfl⟩ := union
    cases canonical with
    | anyOf several distinct flat parts =>
      rw [leaves, leavesOf_of_flat fun branch member => (flat branch member).2] at inside
      exact ⟨parts leaf inside, (flat leaf inside).2⟩
  · have flat : ∀ nested, schema ≠ Schema.anyOf nested := fun nested same => union ⟨nested, same⟩
    rw [leaves_of_not_union flat, List.mem_singleton] at inside
    subst inside
    exact ⟨canonical, flat⟩

end IsCanonical

/-- The leaves of canonical branches are canonical, and no unions. -/
theorem leafOf_canonical {branches : List Schema}
    (canonical : ∀ branch ∈ branches, branch.IsCanonical) {leaf : Schema}
    (inside : leaf ∈ leavesOf branches) :
    leaf.IsCanonical ∧ ∀ nested, leaf ≠ anyOf nested := by
  obtain ⟨branch, member, within⟩ := mem_leavesOf.mp inside
  exact (canonical branch member).leaf within

/-- Schemas of which none is the same as a later one differ either way, if they repeat nothing. -/
theorem distinct_of_pairwise {branches : List Schema}
    (parts : ∀ branch ∈ branches, branch.Irredundant)
    (apart : branches.Pairwise fun first second => first.same second = false) :
    Distinct branches := by
  apply apart.imp_of_mem
  intro first second left right differ
  refine ⟨differ, Bool.eq_false_iff.mpr ?_⟩
  intro same
  -- By symmetry the first would be the same as the second after all.
  have back := equivalenceOn_irredundant.symm (parts second right) (parts first left) same
  simp [back] at differ

/-- The union of canonical branches is canonical. -/
theorem union_canonical {branches : List Schema}
    (parts : ∀ branch ∈ branches, branch.IsCanonical) : (union branches).IsCanonical := by
  -- A leaf that fits anything swallows all others.
  by_cases free : any ∈ leavesOf branches
  · rw [union_of_any free]
    exact .any
  · rw [union_of_concrete free]
    -- Each kept leaf comes from a canonical branch, and none of them fits anything.
    have leaf : ∀ kept ∈ keepNew [] (leavesOf branches),
        kept.IsCanonical ∧ kept ≠ any ∧ ∀ nested, kept ≠ anyOf nested := by
      intro kept inside
      have member : kept ∈ leavesOf branches := by simpa using mem_of_mem_keepNew inside
      obtain ⟨canonical, flat⟩ := leafOf_canonical parts member
      refine ⟨canonical, ?_, flat⟩
      rintro rfl
      exact free member
    have distinct : Distinct (keepNew [] (leavesOf branches)) :=
      distinct_of_pairwise (fun kept inside => (leaf kept inside).1.irredundant)
        (keepNew_pairwise .nil)
    -- One leaf stands for itself, and two or more make a union.
    generalize keepNew [] (leavesOf branches) = kept at leaf distinct
    match kept with
    | [] => exact .any
    | [only] => exact (leaf only (by simp)).1
    | first :: second :: rest =>
      exact .anyOf (by simp) distinct (fun branch inside => (leaf branch inside).2)
        fun branch inside => (leaf branch inside).1

/-- The branches of a canonical union make that union again. -/
theorem union_branches {branches : List Schema} (canonical : (anyOf branches).IsCanonical) :
    union branches = anyOf branches := by
  cases canonical with
  | anyOf several distinct flat parts =>
    have leaves : leavesOf branches = branches :=
      leavesOf_of_flat fun branch inside => (flat branch inside).2
    have concrete : any ∉ leavesOf branches := by
      rw [leaves]
      exact fun inside => (flat any inside).1 rfl
    -- Distinct branches are all kept, and there are enough of them for a union.
    have kept : keepNew [] branches = branches :=
      keepNew_of_pairwise (by simpa using distinct.imp fun differ => differ.1)
    rw [union_of_concrete concrete, leaves, kept]
    match branches, several with
    | first :: second :: rest, _ => rfl

/-- A canonical schema is the union of itself alone. -/
theorem union_singleton {schema : Schema} (canonical : schema.IsCanonical) :
    union [schema] = schema := by
  cases schema with
  | anyOf branches =>
    -- The branches of the only member are spliced in.
    have spliced : union [anyOf branches] = union branches := by
      rw [union_eq, union_eq]
      simp [leavesOf, leaves]
    rw [spliced, union_branches canonical]
  | any => simp [union_eq, leavesOf, leaves, isAny]
  | _ => simp [union_eq, leavesOf, leaves, isAny, keepNew, contains, ofLeaves]

end Schema

end BsonTable
