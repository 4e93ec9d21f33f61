import BsonTable.Calendar.Rfc3339
import BsonTable.Proofs.Text.Numeral

/-!
Texts of fixed layout: numbers in slots of so many digits, each closed by a mark. Numbers that fit
their slots are read back from the text, and the texts are ordered as the lists of numbers are.
-/

namespace BsonTable.Text

/-- A place for a number of so many digits, with the mark that closes it. -/
structure Slot where
  width : Nat
  mark : Char

/-- Numbers in their slots. -/
def writeSlots : List Slot → List Nat → List Char
  -- Each number stands in its slot, in front of the mark that closes it.
  | slot :: slots, value :: values =>
    paddedNumeral slot.width value ++ slot.mark :: writeSlots slots values
  | _, _ => []

/-- The numbers of a text at the start of another one, with the characters behind it. -/
def readSlots? : List Slot → List Char → Option (List Nat × List Char)
  | [], cs => some ([], cs)
  | slot :: slots, cs => do
    let (value, cs) ← Instant.takeDigits? slot.width cs
    let cs ← Instant.takeChar? slot.mark cs
    let (values, cs) ← readSlots? slots cs
    return (value :: values, cs)

/-- Numbers that have no more digits than their slots. -/
def FitSlots : List Slot → List Nat → Prop :=
  -- Numbers and slots are paired one by one, so there are equally many.
  List.Forall₂ fun slot value => 0 < slot.width ∧ value < 10 ^ slot.width

/-- A number that fits is taken off the start of a text. -/
theorem takeDigits?_paddedNumeral {width value : Nat} (positive : 0 < width)
    (fits : value < 10 ^ width) (rest : List Char) :
    Instant.takeDigits? width (paddedNumeral width value ++ rest) = some (value, rest) := by
  -- The length tells how much to take, as padding filled the slot.
  have length := length_paddedNumeral positive fits
  have take : (paddedNumeral width value ++ rest).take width = paddedNumeral width value :=
    List.take_left' length
  have drop : (paddedNumeral width value ++ rest).drop width = rest := List.drop_left' length
  rw [Instant.takeDigits?, take, drop, if_pos length, readDigits?_paddedNumeral, Option.map_some]

section

variable {slots : List Slot} {values others : List Nat}

/-- Numbers that fit are read back. -/
theorem readSlots?_writeSlots (fit : FitSlots slots values) (rest : List Char) :
    readSlots? slots (writeSlots slots values ++ rest) = some (values, rest) := by
  -- The induction is on the slots with their numbers: each is read, and the others follow it.
  induction fit with
  | nil => rfl
  | cons fits _ ih =>
    rw [writeSlots, readSlots?, List.append_assoc, takeDigits?_paddedNumeral fits.1 fits.2]
    simp [Instant.takeChar?, ih]

/-- A text is as long as its slots and their marks. -/
theorem length_writeSlots (fit : FitSlots slots values) :
    (writeSlots slots values).length = (slots.map (·.width + 1)).sum := by
  -- A padded numeral is as long as its slot, and the mark adds one.
  induction fit with
  | nil => rfl
  | cons fits _ ih =>
    rw [writeSlots, List.length_append, List.length_cons, length_paddedNumeral fits.1 fits.2, ih,
      List.map_cons, List.sum_cons]
    omega

/-- Texts consist of digits and marks. -/
theorem mem_writeSlots {c : Char} (inside : c ∈ writeSlots slots values) :
    c.isDigit = true ∨ ∃ slot ∈ slots, c = slot.mark := by
  -- The induction is on the slots. Without a number for a slot nothing is written.
  induction slots generalizing values with
  | nil => cases inside
  | cons slot slots ih =>
    cases values with
    | nil => cases inside
    | cons value values =>
      rw [writeSlots, List.mem_append, List.mem_cons] at inside
      rcases inside with digit | mark | later
      · exact .inl (isDigit_of_mem_paddedNumeral _ _ c digit)
      · exact .inr ⟨slot, List.mem_cons_self, mark⟩
      · exact (ih later).imp_right fun ⟨slot, among, mark⟩ =>
          ⟨slot, List.mem_cons_of_mem _ among, mark⟩

/-- Texts are ordered as the lists of their numbers. -/
theorem writeSlots_lt (fit : FitSlots slots values) (fit' : FitSlots slots others)
    (less : values < others) : writeSlots slots values < writeSlots slots others := by
  -- The order of lists is decided by the first numbers that differ, as is that of the texts.
  induction fit generalizing others with
  | nil =>
    cases fit'
    exact absurd less (List.lt_irrefl _)
  | @cons slot value slots values fits _ ih =>
    cases fit' with
    | @cons _ other _ others fits' rest' =>
      rw [writeSlots, writeSlots]
      rcases List.cons_lt_cons_iff.mp less with first | ⟨rfl, later⟩
      · -- The first number decides, and is as long in both texts.
        refine append_lt_append (paddedNumeral_lt fits.1 first fits'.2) ?_ _ _
        rw [length_paddedNumeral fits.1 fits.2, length_paddedNumeral fits'.1 fits'.2]
      · exact List.append_left_lt (List.cons_lt_cons_iff.mpr (.inr ⟨rfl, ih rest' later⟩))

end

end BsonTable.Text
