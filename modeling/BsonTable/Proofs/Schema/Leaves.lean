import BsonTable.Proofs.Schema.Acceptance
import BsonTable.Proofs.Schema.Agreement

/-! Branches with the same leaves, whose unions are the same whichever ones are kept. -/

namespace BsonTable

namespace Schema

/-- Canonical schemas that are the same. -/
structure Coincide (left right : Schema) : Prop where
  first : left.IsCanonical
  second : right.IsCanonical
  same : left.same right = true

/-- A canonical schema coincides with itself. -/
theorem Coincide.refl {schema : Schema} (canonical : schema.IsCanonical) :
    Coincide schema schema :=
  ⟨canonical, canonical, canonical.irredundant.same_self⟩

/-- Coinciding schemas coincide either way. -/
theorem Coincide.symm {left right : Schema} (coincide : Coincide left right) :
    Coincide right left where
  first := coincide.second
  second := coincide.first
  same := equivalenceOn_irredundant.symm coincide.first.irredundant coincide.second.irredundant
    coincide.same

/-- Schemas that coincide with the same one coincide. -/
theorem Coincide.trans {left middle right : Schema} (before : Coincide left middle)
    (after : Coincide middle right) : Coincide left right where
  first := before.first
  second := after.second
  same := equivalenceOn_irredundant.trans before.first.irredundant before.second.irredundant
    after.second.irredundant before.same after.same

section Leaves

/-- What fits anything is the same as nothing else. -/
theorem eq_any_of_same {schema : Schema} (same : any.same schema = true) : schema = any := by
  cases alike_of_same same
  rfl

/-- Schemas that coincide have the same leaves. -/
theorem Coincide.leaves {left right : Schema} (coincide : Coincide left right) :
    ∀ leaf ∈ leaves left, ∃ other ∈ right.leaves, leaf.same other = true := by
  obtain ⟨canonical, canonical', same⟩ := coincide
  have alike := alike_of_same same
  cases alike with
  | anyOf branches branches' =>
    -- The leaves of unions are their branches, and the comparison matches those.
    cases canonical with
    | anyOf several distinct flat parts =>
      cases canonical' with
      | anyOf several' distinct' flat' parts' =>
        rw [Schema.leaves, Schema.leaves,
          leavesOf_of_flat fun branch inside => (flat branch inside).2,
          leavesOf_of_flat fun branch inside => (flat' branch inside).2]
        exact ((equivalenceOn_irredundant.same_anyOf_iff
          (fun branch inside => (parts branch inside).irredundant)
          (fun branch inside => (parts' branch inside).irredundant) distinct distinct').mp same).1
  | _ =>
    -- Any other schema is its own leaf.
    intro leaf inside
    simp only [Schema.leaves, List.mem_singleton] at inside
    subst inside
    exact ⟨_, by simp [Schema.leaves], same⟩

/-- Whether each leaf on the left is the same as one on the right, unless anything fits there. -/
def Within (left right : List Schema) : Prop :=
  ∀ leaf ∈ leavesOf left, ∃ other ∈ leavesOf right, other = any ∨ leaf.same other = true

/-- Joined branches are within joined branches. -/
theorem Within.append {left left' right right' : List Schema} (first : Within left right)
    (second : Within left' right') : Within (left ++ left') (right ++ right') := by
  intro leaf inside
  -- A leaf of joined branches is one of either part.
  rw [leavesOf_append, List.mem_append] at inside
  rw [leavesOf_append]
  rcases inside with inside | inside
  · obtain ⟨other, found, link⟩ := first leaf inside
    exact ⟨other, List.mem_append_left _ found, link⟩
  · obtain ⟨other, found, link⟩ := second leaf inside
    exact ⟨other, List.mem_append_right _ found, link⟩

/-- Branches that coincide with some on the right are within those. -/
theorem within_of_coincide {left right : List Schema}
    (found : ∀ branch ∈ left, ∃ other ∈ right, Coincide branch other) : Within left right := by
  intro leaf inside
  -- The leaf is one of a branch, and the branch coincides with one on the right.
  obtain ⟨branch, member, within⟩ := mem_leavesOf.mp inside
  obtain ⟨other, member', coincide⟩ := found branch member
  obtain ⟨leaf', within', same⟩ := coincide.leaves leaf within
  exact ⟨leaf', mem_leavesOf.mpr ⟨other, member', within'⟩, .inr same⟩

/-- Canonical branches with the same leaves, once what fits anything stands for all others. -/
structure SameLeaves (left right : List Schema) : Prop where
  first : ∀ branch ∈ left, branch.IsCanonical
  second : ∀ branch ∈ right, branch.IsCanonical
  forth : Within left right
  back : Within right left

namespace SameLeaves

variable {left right : List Schema}

/-- The same leaves are the same either way. -/
theorem symm (same : SameLeaves left right) : SameLeaves right left :=
  ⟨same.second, same.first, same.back, same.forth⟩

/-- Joined branches have the same leaves as joined branches. -/
theorem append {left' right' : List Schema} (before : SameLeaves left right)
    (after : SameLeaves left' right') : SameLeaves (left ++ left') (right ++ right') where
  first := by
    intro branch inside
    exact (List.mem_append.mp inside).elim (before.first branch) (after.first branch)
  second := by
    intro branch inside
    exact (List.mem_append.mp inside).elim (before.second branch) (after.second branch)
  forth := before.forth.append after.forth
  back := before.back.append after.back

/-- Branches that match have the same leaves. -/
theorem of_matched (matched : Matched Coincide left right) : SameLeaves left right := by
  -- Every branch is half of a match, whichever side it is on.
  obtain ⟨forth, back⟩ := matched
  refine ⟨?_, ?_, within_of_coincide forth, within_of_coincide ?_⟩
  · intro branch inside
    obtain ⟨_, _, coincide⟩ := forth branch inside
    exact coincide.first
  · intro branch inside
    obtain ⟨_, _, coincide⟩ := back branch inside
    exact coincide.second
  · intro branch inside
    obtain ⟨other, found, coincide⟩ := back branch inside
    exact ⟨other, found, coincide.symm⟩

/-- Lists that match one by one are read to branches with the same leaves. -/
theorem mapM {α β : Type} {f : α → Except Error Schema} {g : β → Except Error Schema}
    {left : List α} {right : List β}
    (matched : Matched (fun x y => Agree Coincide (f x) (g y)) left right) :
    Agree SameLeaves (left.mapM f) (right.mapM g) :=
  (Agree.mapM matched).imp fun _ _ _ _ matched => of_matched matched

/-- Canonical branches have their own leaves. -/
theorem refl (canonical : ∀ branch ∈ left, branch.IsCanonical) : SameLeaves left left :=
  of_matched ⟨fun branch inside => ⟨branch, inside, .refl (canonical branch inside)⟩,
    fun branch inside => ⟨branch, inside, .refl (canonical branch inside)⟩⟩

/-- Without a branch on one side there is none on the other, as each branch has a leaf. -/
theorem nil_of_nil (same : SameLeaves left right) (empty : right = []) : left = [] := by
  subst empty
  cases left with
  | nil => rfl
  | cons first rest =>
    -- A leaf of the first branch would have its like among no leaves.
    obtain ⟨leaf, within⟩ :=
      List.exists_mem_of_ne_nil _ (same.first first List.mem_cons_self).leaves_ne_nil
    obtain ⟨_, none, _⟩ :=
      same.forth leaf (mem_leavesOf.mpr ⟨first, List.mem_cons_self, within⟩)
    cases none

end SameLeaves

end Leaves

section Unions

variable {branches kept : List Schema}

/-- Distinct leaves that stand for those of some branches, none of which fits anything. -/
structure Represents (kept branches : List Schema) : Prop where
  concrete : any ∉ leavesOf branches
  distinct : Distinct kept
  inside : ∀ leaf ∈ kept, leaf ∈ leavesOf branches
  covers : ∀ leaf ∈ leavesOf branches, ∃ other ∈ kept, leaf.same other = true

/-- The union of canonical branches fits anything if one of them does, or represents them. -/
theorem union_cases (canonical : ∀ branch ∈ branches, branch.IsCanonical) :
    any ∈ leavesOf branches ∧ union branches = any ∨
      ∃ kept, Represents kept branches ∧ union branches = ofLeaves kept := by
  -- Leaves of canonical branches repeat nothing, so comparing them is an equivalence.
  have irredundant : ∀ leaf ∈ leavesOf branches, leaf.Irredundant :=
    fun leaf inside => (leafOf_canonical canonical inside).1.irredundant
  have inside : ∀ leaf ∈ keepNew [] (leavesOf branches), leaf ∈ leavesOf branches :=
    fun leaf inside => by simpa using mem_of_mem_keepNew inside
  by_cases free : any ∈ leavesOf branches
  · -- What fits anything takes the place of all the others.
    exact .inl ⟨free, union_of_any free⟩
  · refine .inr ⟨keepNew [] (leavesOf branches), ⟨free, ?_, inside, ?_⟩, union_of_concrete free⟩
    · exact distinct_of_pairwise (fun leaf kept => irredundant leaf (inside leaf kept))
        (keepNew_pairwise .nil)
    · -- A leaf that was dropped is the same as one that was kept.
      intro leaf member
      obtain ⟨other, kept, same⟩ :=
        keepNew_covers (fun leaf inside => (irredundant leaf inside).same_self) leaf member
      exact ⟨other, kept, equivalenceOn_irredundant.symm (irredundant other (inside other kept))
        (irredundant leaf member) same⟩

/-- Representatives stand for at least one leaf. -/
theorem Represents.ne_nil (represents : Represents kept branches)
    (canonical : ∀ branch ∈ branches, branch.IsCanonical) (nonempty : branches ≠ []) :
    kept ≠ [] := by
  -- Some branch has a leaf, and what stands for that leaf is kept.
  obtain ⟨branch, inside⟩ := List.exists_mem_of_ne_nil branches nonempty
  obtain ⟨leaf, within⟩ := List.exists_mem_of_ne_nil _ (canonical branch inside).leaves_ne_nil
  obtain ⟨other, member, _⟩ := represents.covers leaf (mem_leavesOf.mpr ⟨branch, inside, within⟩)
  exact List.ne_nil_of_mem member

/-- Leaves that are no unions are those of the schema they make. -/
theorem leaves_ofLeaves (nonempty : kept ≠ [])
    (flat : ∀ leaf ∈ kept, ∀ nested, leaf ≠ anyOf nested) : (ofLeaves kept).leaves = kept := by
  -- A single leaf stands for itself, and several are the branches of a union.
  match kept, nonempty with
  | [only], _ => exact leaves_of_not_union (flat only List.mem_cons_self)
  | first :: second :: rest, _ =>
    show leaves (anyOf (first :: second :: rest)) = _
    rw [leaves]
    exact leavesOf_of_flat flat

/-- Distinct leaves that all occur on the other side make the same schema. -/
theorem ofLeaves_same {left right : List Schema} (leftParts : ∀ x ∈ left, x.Irredundant)
    (rightParts : ∀ y ∈ right, y.Irredundant) (leftDistinct : Distinct left)
    (rightDistinct : Distinct right) (forth : ∀ x ∈ left, ∃ y ∈ right, x.same y = true)
    (back : ∀ y ∈ right, ∃ x ∈ left, y.same x = true) :
    (ofLeaves left).same (ofLeaves right) = true := by
  -- As branches of unions they would be the same, so there are as many of them on both sides.
  have unions := (equivalenceOn_irredundant.same_anyOf_iff leftParts rightParts leftDistinct
    rightDistinct).mpr ⟨forth, back⟩
  have equal : left.length = right.length := by
    rw [same, Bool.and_eq_true, beq_iff_eq] at unions
    exact unions.1
  cases left with
  | nil =>
    rw [List.length_eq_zero_iff.mp equal.symm]
    simp [ofLeaves, same]
  | cons only rest =>
    cases rest with
    | nil =>
      -- Single leaves are each the like of the other.
      obtain ⟨other, rfl⟩ := List.length_eq_one_iff.mp equal.symm
      obtain ⟨y, found, same⟩ := forth only List.mem_cons_self
      rw [List.mem_singleton.mp found] at same
      exact same
    | cons =>
      obtain ⟨_, _, rfl⟩ := List.exists_cons_of_length_eq_add_one equal.symm
      obtain ⟨_, _, rfl⟩ := List.exists_cons_of_length_eq_add_one (Nat.succ.inj equal).symm
      exact unions

/-- Representatives repeat nothing. -/
theorem Represents.irredundant (represents : Represents kept branches)
    (canonical : ∀ branch ∈ branches, branch.IsCanonical) : ∀ leaf ∈ kept, leaf.Irredundant :=
  fun leaf member => (leafOf_canonical canonical (represents.inside leaf member)).1.irredundant

/-- A leaf that fits anything has its like among the same leaves. -/
theorem Within.any_mem {left right : List Schema} (within : Within left right)
    (inside : any ∈ leavesOf left) : any ∈ leavesOf right := by
  obtain ⟨other, found, rfl | same⟩ := within any inside
  · exact found
  · rw [← eq_any_of_same same]
    exact found

section Same

variable {left right kept kept' : List Schema}

/-- Representatives of the same leaves have their likes among each other. -/
theorem SameLeaves.represented (same : SameLeaves left right) (represents : Represents kept left)
    (represents' : Represents kept' right) :
    ∀ leaf ∈ kept, ∃ other ∈ kept', leaf.same other = true := by
  intro leaf member
  -- The like of the leaf on the other side has a representative of its own.
  obtain ⟨other, found, rfl | alike⟩ := same.forth leaf (represents.inside leaf member)
  · exact absurd found represents'.concrete
  · obtain ⟨other', member', alike'⟩ := represents'.covers other found
    refine ⟨other', member', equivalenceOn_irredundant.trans ?_ ?_ ?_ alike alike'⟩
    · exact represents.irredundant same.first leaf member
    · exact (leafOf_canonical same.second found).1.irredundant
    · exact represents'.irredundant same.second other' member'

/-- Branches with the same leaves have unions that coincide. -/
theorem SameLeaves.union (same : SameLeaves left right) :
    Coincide (union left) (union right) := by
  refine ⟨union_canonical same.first, union_canonical same.second, ?_⟩
  -- Either both unions fit anything, or both are made of representatives.
  obtain ⟨free, leftUnion⟩ | ⟨kept, represents, leftUnion⟩ := union_cases same.first
  · obtain ⟨_, rightUnion⟩ | ⟨kept', represents', _⟩ := union_cases same.second
    · -- If one of them fits anything, the other does, as that leaf is on both sides.
      rw [leftUnion, rightUnion]
      exact Irredundant.any.same_self
    · exact absurd (same.forth.any_mem free) represents'.concrete
  · obtain ⟨free, _⟩ | ⟨kept', represents', rightUnion⟩ := union_cases same.second
    · exact absurd (same.back.any_mem free) represents.concrete
    · rw [leftUnion, rightUnion]
      exact ofLeaves_same (represents.irredundant same.first)
        (represents'.irredundant same.second) represents.distinct represents'.distinct
        (same.represented represents represents') (same.symm.represented represents' represents)

end Same

/-- Branches have the leaves of their union. -/
theorem SameLeaves.of_union (canonical : ∀ branch ∈ branches, branch.IsCanonical)
    (nonempty : branches ≠ []) : SameLeaves branches [Schema.union branches] := by
  have whole : ∀ branch ∈ [Schema.union branches], branch.IsCanonical := by
    intro branch inside
    rw [List.mem_singleton.mp inside]
    exact union_canonical canonical
  have alone : leavesOf [Schema.union branches] = (Schema.union branches).leaves := by
    simp [leavesOf]
  obtain ⟨free, made⟩ | ⟨kept, represents, made⟩ := union_cases canonical
  · -- What fits anything stands for every other leaf.
    refine ⟨canonical, whole, ?_, ?_⟩
    · intro leaf _
      exact ⟨any, by simp [made, leavesOf, leaves], .inl rfl⟩
    · intro leaf inside
      exact ⟨any, free, .inl rfl⟩
  · -- The leaves of the union are the representatives.
    have flat : ∀ leaf ∈ kept, ∀ nested, leaf ≠ anyOf nested :=
      fun leaf member => (leafOf_canonical canonical (represents.inside leaf member)).2
    have own := leaves_ofLeaves (represents.ne_nil canonical nonempty) flat
    rw [← made] at own
    refine ⟨canonical, whole, ?_, ?_⟩
    · intro leaf inside
      rw [alone, own]
      obtain ⟨other, member, same⟩ := represents.covers leaf inside
      exact ⟨other, member, .inr same⟩
    · intro leaf inside
      rw [alone, own] at inside
      have self := (represents.irredundant canonical leaf inside).same_self
      exact ⟨leaf, represents.inside leaf inside, .inr self⟩

end Unions

end Schema

end BsonTable
