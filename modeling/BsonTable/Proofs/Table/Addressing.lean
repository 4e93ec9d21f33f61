import BsonTable.Table.Header
import Mathlib.Data.List.Forall2

/-!
Which references name a column and which column it is, what becomes of those that name none, and why
columns that go by the same names are addressed and read alike.
-/

namespace BsonTable

namespace Text

/-- Whether two characters are the same, or one ASCII letter in upper and in lower case. -/
def SameLetter (first second : Char) : Prop :=
  first = second ∨ first.isUpper ∧ second.toNat = first.toNat + 32 ∨
    second.isUpper ∧ first.toNat = second.toNat + 32

/-- Whether two texts are the same but for the case of ASCII letters. -/
def SameButCase (first second : String) : Prop :=
  List.Forall₂ SameLetter first.toList second.toList

/-- The upper case letters are the characters from 65 to 90. -/
theorem isUpper_iff (c : Char) : c.isUpper = true ↔ 65 ≤ c.toNat ∧ c.toNat ≤ 90 := by
  -- The test is one on code points, which are compared as numbers.
  show decide (c.val ≥ 'A'.val ∧ c.val ≤ 'Z'.val) = true ↔ _
  rw [decide_eq_true_eq, ge_iff_le, UInt32.le_iff_toNat_le, UInt32.le_iff_toNat_le]
  rfl

/-- An ASCII letter in upper case stands 32 places before the same letter in lower case. -/
theorem toNat_toLower (c : Char) :
    c.toLower.toNat = if c.isUpper then c.toNat + 32 else c.toNat := by
  unfold Char.toLower
  split
  · rename_i upper
    have letter : c.isUpper = true := decide_eq_true upper
    have last : c.val.toNat ≤ 90 := ((isUpper_iff c).mp letter).2
    have places : ('a'.val - 'A'.val).toNat = 32 := rfl
    rw [if_pos letter]
    show (c.val + ('a'.val - 'A'.val)).toNat = c.val.toNat + 32
    -- No letter is near the end of the words, so their sum is that of the numbers.
    rw [UInt32.toNat_add, places]
    omega
  · rename_i other
    have unlike : ¬ c.isUpper = true := fun letter => other (of_decide_eq_true letter)
    rw [if_neg unlike]

/-- Characters have one lower case exactly when they are the same but for the case of a letter. -/
theorem toLower_eq_iff {first second : Char} :
    first.toLower = second.toLower ↔ SameLetter first second := by
  -- Case by case, by whether either one is an upper case letter.
  have upper := isUpper_iff first
  have upper' := isUpper_iff second
  rw [← Char.toNat_inj, toNat_toLower, toNat_toLower, SameLetter, ← Char.toNat_inj]
  split_ifs <;> grind

/-- The comparison up to case tells whether texts are the same but for the case of letters. -/
theorem equalIgnoringAsciiCase_iff {first second : String} :
    equalIgnoringAsciiCase first second = true ↔ SameButCase first second := by
  -- The lower cases are equal letter by letter.
  rw [equalIgnoringAsciiCase, beq_iff_eq, SameButCase, ← List.forall₂_eq_eq_eq,
    List.forall₂_map_left_iff, List.forall₂_map_right_iff]
  simp only [toLower_eq_iff]

end Text

/-- What a column goes by in its database: its datasource, name and label. -/
def Column.identity (column : Column) : String × String × String :=
  (column.table, column.name, column.label)

/-- What a column reads depends on what it goes by alone. -/
theorem Column.extract_congr {column other : Column} (same : column.identity = other.identity)
    (doc : Document) : column.extract doc = other.extract doc := by
  -- All three texts are components of what it goes by.
  have table : column.table = other.table := congrArg (·.1) same
  have name : column.name = other.name := congrArg (·.2.1) same
  simp only [extract, qualifiedValue?, unqualifiedValue?, table, name]

namespace Header

/-- Whether a reference names one of the columns. -/
def Names (header : Header) : ColumnAddress → Prop
  | .index index => 1 ≤ index ∧ index ≤ header.count
  -- A label in the letters of another case is enough.
  | .label label => ∃ column ∈ header.columns,
      Text.equalIgnoringAsciiCase column.label label = true

/-- The failure of a reference that names no column. -/
def unknown (header : Header) : ColumnAddress → Error
  | .index index => .columnIndexOutOfRange index header.count
  | .label label => .columnNotFound label

/-- There is a column at each position from one to the number of columns, and at no other. -/
theorem column_cases (header : Header) (index : Nat) :
    (1 ≤ index ∧ index ≤ header.count) ∧ (∃ column, header.column index = .ok column) ∨
      ¬ (1 ≤ index ∧ index ≤ header.count) ∧
        header.column index = .error (.columnIndexOutOfRange index header.count) := by
  unfold column count
  cases index with
  | zero => exact .inr ⟨by omega, rfl⟩
  | succ position =>
    -- Positions are counted from one, so the search goes one place further down.
    dsimp only
    cases found : header.columns[position]? with
    | some column =>
      have below := (List.getElem?_eq_some_iff.mp found).1
      exact .inl ⟨by omega, column, rfl⟩
    | none =>
      have above := List.getElem?_eq_none_iff.mp found
      exact .inr ⟨by omega, rfl⟩

/-- There is a column at a position, counted from one, when the list has it there. -/
theorem column_eq_ok_iff {header : Header} {index : Nat} {column : Column} :
    header.column index = .ok column ↔
      ∃ position, index = position + 1 ∧ header.columns[position]? = some column := by
  -- There is no position zero, and every other one is that of the list plus one.
  cases index with
  | zero => simp [Header.column]
  | succ position =>
    unfold Header.column
    dsimp only
    split <;> simp_all

/-- Whether a position, counted from one, is the first of a column that fits. -/
structure IsFirst (header : Header) (fits : Column → Prop) (index : Nat) : Prop where
  found : ∃ column, header.column index = .ok column ∧ fits column
  least : ∀ other column, header.column other = .ok column → fits column → index ≤ other

/-- A search through the columns finds the first one that fits. -/
theorem isFirst_iff {header : Header} {carries : Column → Bool} {index : Nat} :
    (header.columns.findIdx? carries).map (· + 1) = some index ↔
      header.IsFirst (carries · = true) index := by
  -- Positions in the list count from zero, those of columns from one.
  simp only [Option.map_eq_some_iff, List.findIdx?_eq_some_iff_getElem]
  constructor
  · rintro ⟨position, ⟨within, carried, before⟩, rfl⟩
    refine ⟨⟨header.columns[position], ?_, carried⟩, ?_⟩
    · exact column_eq_ok_iff.mpr ⟨position, rfl, List.getElem?_eq_getElem within⟩
    · intro other column found carried'
      obtain ⟨earlier, rfl, present⟩ := column_eq_ok_iff.mp found
      obtain ⟨below, rfl⟩ := List.getElem?_eq_some_iff.mp present
      -- A column further to the front would have ended the search before.
      by_contra late
      exact before earlier (by omega) carried'
  · rintro ⟨⟨column, found, carried⟩, least⟩
    obtain ⟨position, rfl, present⟩ := column_eq_ok_iff.mp found
    obtain ⟨within, rfl⟩ := List.getElem?_eq_some_iff.mp present
    refine ⟨position, ⟨within, carried, ?_⟩, rfl⟩
    intro earlier less carried'
    have present' := List.getElem?_eq_getElem (show earlier < header.columns.length by omega)
    have first := least _ _ (column_eq_ok_iff.mpr ⟨earlier, rfl, present'⟩) carried'
    omega

section Labels

variable {header : Header} {label : String} {index : Nat}

/-- A label is found where it stands first, or else where it stands first in any case. -/
theorem find?_eq_some_iff :
    header.find? label = some index ↔
      header.IsFirst (·.label = label) index ∨
        (∀ column ∈ header.columns, column.label ≠ label) ∧
          header.IsFirst (Text.SameButCase ·.label label) index := by
  unfold find?
  dsimp only
  -- The search up to case counts only where the exact one finds nothing.
  rw [Option.map_or, Option.or_eq_some_iff, Option.map_eq_none_iff, List.findIdx?_eq_none_iff,
    isFirst_iff, isFirst_iff]
  simp only [beq_iff_eq, beq_eq_false_iff_ne, Text.equalIgnoringAsciiCase_iff, ne_eq]

/-- A label is not found when no column carries it, whatever its case. -/
theorem find?_eq_none_iff :
    header.find? label = none ↔ ∀ column ∈ header.columns,
      column.label ≠ label ∧ ¬ Text.SameButCase column.label label := by
  unfold find?
  dsimp only
  -- Both searches come to nothing.
  rw [Option.map_eq_none_iff, Option.or_eq_none_iff, List.findIdx?_eq_none_iff,
    List.findIdx?_eq_none_iff, ← forall₂_and]
  simp only [← Bool.not_eq_true, Text.equalIgnoringAsciiCase_iff, beq_iff_eq, ne_eq]

/-- Wherever a column carries a label exactly, the label is found at a column that does. -/
theorem find?_of_exact {column : Column} (there : header.column index = .ok column)
    (exact : column.label = label) :
    ∃ first, header.find? label = some first ∧ header.IsFirst (·.label = label) first := by
  obtain ⟨position, rfl, present⟩ := column_eq_ok_iff.mp there
  have carried : ∃ column ∈ header.columns, column.label = label :=
    ⟨column, List.mem_of_getElem? present, exact⟩
  cases found : header.find? label with
  | none =>
    obtain ⟨column, among, same⟩ := carried
    exact absurd same (find?_eq_none_iff.mp found column among).1
  | some first =>
    -- The label cannot have been found up to case, as it stands there exactly.
    rcases find?_eq_some_iff.mp found with isFirst | ⟨unlike, _⟩
    · exact ⟨first, rfl, isFirst⟩
    · obtain ⟨column, among, same⟩ := carried
      exact absurd same (unlike column among)

/-- A label that is found resolves to the position of a column, and so does this position. -/
theorem resolve_found (found : header.find? label = some index) :
    header.resolve (.label label) = .ok index ∧ header.resolve (.index index) = .ok index := by
  -- A column was found, so its position is one of the header.
  have byLabel : header.resolve (.label label) = .ok index := by simp only [resolve, found]
  obtain ⟨column, there⟩ := column_of_resolve byLabel
  exact ⟨byLabel, by simp only [resolve, there, Except.map]⟩

end Labels

/-- A label is found exactly when a column carries it up to case. -/
theorem find?_cases (header : Header) (label : String) :
    header.Names (.label label) ∧ (∃ index, header.find? label = some index) ∨
      ¬ header.Names (.label label) ∧ header.find? label = none := by
  -- The label is missing exactly when no column carries it, and then it is the other case.
  have missing : header.find? label = none ↔ ¬ header.Names (.label label) := by
    rw [find?_eq_none_iff]
    constructor
    · rintro unlike ⟨column, among, carries⟩
      exact (unlike column among).2 (Text.equalIgnoringAsciiCase_iff.mp carries)
    · intro unnamed column among
      have unlike : ¬ Text.SameButCase column.label label := fun same =>
        unnamed ⟨column, among, Text.equalIgnoringAsciiCase_iff.mpr same⟩
      refine ⟨?_, unlike⟩
      -- A label that is the same is the same up to case as well.
      rintro rfl
      exact unlike (Text.equalIgnoringAsciiCase_iff.mp BEq.rfl)
  cases found : header.find? label with
  | none => exact .inr ⟨missing.mp found, rfl⟩
  | some index =>
    refine .inl ⟨?_, index, rfl⟩
    by_contra unnamed
    rw [missing.mpr unnamed] at found
    cases found

/-- A reference resolves exactly when it names a column, and else it fails as unknown. -/
theorem resolve_cases (header : Header) (ref : ColumnAddress) :
    header.Names ref ∧ (∃ index, header.resolve ref = .ok index) ∨
      ¬ header.Names ref ∧ header.resolve ref = .error (header.unknown ref) := by
  cases ref with
  | index index =>
    obtain ⟨within, column, found⟩ | ⟨outside, failed⟩ := header.column_cases index
    · exact .inl ⟨within, index, by rw [resolve, found]; rfl⟩
    · exact .inr ⟨outside, by rw [resolve, failed]; rfl⟩
  | label label =>
    obtain ⟨carried, index, found⟩ | ⟨missing, failed⟩ := header.find?_cases label
    · exact .inl ⟨carried, index, by simp only [resolve, found]⟩
    · exact .inr ⟨missing, by simp only [resolve, failed, unknown]⟩

/-- Whether all columns belong to a database. -/
def IsIn (header : Header) (database : String) : Prop :=
  ∀ column ∈ header.columns, column.database = database

/-- Whether two headers list columns that go by the same names in the same order. -/
def ListsAs (header other : Header) : Prop :=
  header.columns.map Column.identity = other.columns.map Column.identity

namespace ListsAs

variable {header other : Header}

/-- Columns that go by the same names are as many. -/
theorem count (lists : header.ListsAs other) : header.count = other.count := by
  have lengths := congrArg List.length lists
  rw [List.length_map, List.length_map] at lengths
  exact lengths

/-- Columns that go by the same names carry the same labels. -/
theorem labels (lists : header.ListsAs other) :
    header.columns.map Column.label = other.columns.map Column.label := by
  have labels := congrArg (List.map (·.2.2)) lists
  simpa only [List.map_map, Function.comp_def, Column.identity] using labels

/-- A label is found at the same position. -/
theorem find? (lists : header.ListsAs other) (label : String) :
    header.find? label = other.find? label := by
  -- Both searches look at labels alone.
  have search : ∀ (given : Header) (carries : String → Bool),
      given.columns.findIdx? (carries ·.label) =
        (given.columns.map Column.label).findIdx? carries :=
    fun _ _ => List.findIdx?_map.symm
  simp only [Header.find?, search _ (· == label), search _ (Text.equalIgnoringAsciiCase · label),
    lists.labels]

/-- A reference resolves to the same position, or fails alike. -/
theorem resolve (lists : header.ListsAs other) (ref : ColumnAddress) :
    header.resolve ref = other.resolve ref := by
  cases ref with
  | label label => simp only [Header.resolve, lists.find? label]
  | index index =>
    -- There is a column on both sides or on neither, as there are equally many.
    obtain ⟨within, column, found⟩ | ⟨outside, failed⟩ := header.column_cases index <;>
      obtain ⟨within', column', found'⟩ | ⟨outside', failed'⟩ := other.column_cases index
    · simp only [Header.resolve, found, found', Except.map]
    · exact absurd (lists.count ▸ within) outside'
    · exact absurd (lists.count.symm ▸ within') outside
    · simp only [Header.resolve, failed, failed', Except.map, lists.count]

/-- A document has the same values under them. -/
theorem ofDocument (lists : header.ListsAs other) (doc : Document) :
    Row.ofDocument header doc = Row.ofDocument other doc := by
  -- Each value is found by what its column goes by, column by column.
  have values : ∀ columns others : List Column,
      columns.map Column.identity = others.map Column.identity →
        columns.map (·.extract doc) = others.map (·.extract doc) := by
    intro columns
    induction columns with
    | nil =>
      intro others same
      rw [List.map_eq_nil_iff.mp same.symm]
    | cons column rest ih =>
      intro others same
      obtain ⟨first, later, rfl, head, tail⟩ := List.map_eq_cons_iff.mp same.symm
      rw [List.map_cons, List.map_cons, ih later tail.symm, Column.extract_congr head.symm]
  exact congrArg Row.mk (values header.columns other.columns lists)

end ListsAs

end Header

end BsonTable
