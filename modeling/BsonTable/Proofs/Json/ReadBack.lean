import BsonTable.Json.Printer
import BsonTable.Proofs.Json.Numbers

/-! Written trees are read back, with blanks behind their separators or without. -/

namespace BsonTable.Json

section Strings

/-- A character that needs no escape is read as it stands. -/
theorem readCharacters?_cons {c : Char} (rest : List Char) (plain : c ≠ '"' ∧ c ≠ '\\')
    (printed : 32 ≤ c.toNat) : readCharacters? (c :: rest) =
      (readCharacters? rest).map fun (others, rest) => (c :: others, rest) := by
  -- The reader looks for a quote and for the backslash of an escape first, and this is neither.
  rw [readCharacters?.eq_def]
  split
  · contradiction
  · rename_i same
    cases same
    exact absurd rfl plain.1
  · rename_i same
    cases same
    exact absurd rfl plain.2
  · rename_i same
    cases same
    exact absurd rfl plain.2
  · rename_i same
    cases same
    simp only [guard, if_pos printed]
    cases readCharacters? rest <;> rfl

/-- A letter behind a backslash is read as the character that it stands for. -/
theorem readCharacters?_escape {letter c : Char} (stands : unescape? letter = some c)
    (rest : List Char) : readCharacters? ('\\' :: letter :: rest) =
      (readCharacters? rest).map fun (others, rest) => (c :: others, rest) := by
  -- A letter that stands for a character is not the one in front of four digits.
  have other : letter ≠ 'u' := by
    rintro rfl
    cases stands
  rw [readCharacters?.eq_4 _ _ fun _ _ _ _ _ same _ => other same, stands]
  cases readCharacters? rest <;> rfl

/-- A character is read back from whatever spells it. -/
theorem Spells.readCharacters? {c : Char} {cs : List Char} (spells : Spells c cs)
    (rest : List Char) : Json.readCharacters? (cs ++ rest) =
      (Json.readCharacters? rest).map fun (others, rest) => (c :: others, rest) := by
  cases spells with
  | itself plain printed => exact readCharacters?_cons rest plain printed
  | letter stands => exact readCharacters?_escape stands rest
  -- Four digits in front of the rest are matched before any single letter is.
  | digits code =>
    show Json.readCharacters? ('\\' :: 'u' :: _ :: _ :: _ :: _ :: rest) = _
    rw [Json.readCharacters?, code]
    cases Json.readCharacters? rest <;> rfl

variable [JsonLibrary] [LawfulJsonLibrary]

/-- The characters of a string are read back up to its closing quote. -/
theorem readCharacters?_quoted (text rest : List Char) :
    readCharacters? (text.flatMap JsonLibrary.escapeChar ++ '"' :: rest) = some (text, rest) := by
  -- The induction is on the characters: each is read back whole, and the others follow it.
  induction text with
  | nil => rfl
  | cons c text ih =>
    rw [List.flatMap_cons, List.append_assoc,
      (LawfulJsonLibrary.spells_escapeChar c).readCharacters?, ih]
    rfl

end Strings

section Values

variable {cs rest : List Char}

/-- Blanks in front of a text are skipped. -/
theorem skipBlanks_append {blanks : List Char} (all : ∀ c ∈ blanks, isBlank c = true)
    (cs : List Char) : skipBlanks (blanks ++ cs) = skipBlanks cs :=
  List.dropWhile_append_of_pos all

/-- What stands behind a first character that is no blank is shorter than the text. -/
theorem length_lt_of_skipBlanks {c : Char} (starts : skipBlanks cs = c :: rest) :
    rest.length < cs.length := by
  have shorter : (skipBlanks cs).length ≤ cs.length := (List.dropWhile_suffix _).length_le
  rw [starts, List.length_cons] at shorter
  exact shorter

/-- A number starts with a digit or a minus sign. -/
theorem head_of_readNumber? {result : Json × List Char} (read : readNumber? cs = some result) :
    ∃ first others, cs = first :: others ∧ (first = '-' ∨ first.isDigit = true) := by
  cases cs with
  | nil => cases read
  | cons first others =>
    -- Without a sign in front, digits must come first, and there are none.
    refine ⟨first, others, rfl, ?_⟩
    by_contra neither
    obtain ⟨unsigned, other⟩ := not_or.mp neither
    have run : readRun? (first :: others) = none := by
      unfold readRun?
      rw [List.takeWhile_cons_of_neg other]
    have sign : ((first :: others).head? == some '-') = false := by simpa using unsigned
    unfold readNumber? at read
    dsimp only at read
    rw [sign, if_neg Bool.false_ne_true, run] at read
    cases read

/-- A number is a value. -/
theorem readValue?_number {result : Json × List Char}
    (read : readNumber? (skipBlanks cs) = some result) :
    readValue? cs = some result := by
  -- No other kind of value starts with a digit or a minus sign, so only the last case is left.
  obtain ⟨first, others, starts, number⟩ := head_of_readNumber? read
  rw [readValue?.eq_def]
  rw [starts] at read ⊢
  split <;> first
    | exact read
    | (rename_i same; cases same; rcases number with same | same <;> cases same)

/-- A closing bracket starts no value. -/
theorem head?_of_readValue? {result : Json × List Char} (read : readValue? cs = some result) :
    (skipBlanks cs).head? ≠ some ']' := by
  intro closing
  -- There is no case for a bracket, and as the start of a number it is no digit either.
  obtain ⟨others, starts⟩ := List.head?_eq_some_iff.mp closing
  rw [readValue?.eq_def, starts] at read
  cases read

/-- Characters between quotes are a value. -/
theorem readValue?_string {text : List Char} (starts : skipBlanks cs = '"' :: rest)
    {behind : List Char} (read : readCharacters? rest = some (text, behind)) :
    readValue? cs = some (.string (String.ofList text), behind) := by
  -- A quote starts a string, whatever blanks are in front of it.
  rw [readValue?.eq_def, starts]
  show (readCharacters? rest).map _ = _
  rw [read]
  rfl

/-- Brackets around blanks are an empty list. -/
theorem readValue?_noElements {behind : List Char} (starts : skipBlanks cs = '[' :: rest)
    (ends : skipBlanks rest = ']' :: behind) : readValue? cs = some (.array [], behind) := by
  -- The reader looks behind the bracket first, where it finds the other one.
  rw [readValue?.eq_def, starts]
  show (if (skipBlanks rest).head? = some ']' then _ else _) = _
  rw [ends]
  rfl

/-- Elements between brackets are a list. -/
theorem readValue?_elements {elements : List Json} {behind : List Char}
    (starts : skipBlanks cs = '[' :: rest) (nonempty : (skipBlanks rest).head? ≠ some ']')
    (read : readElements? rest = some (elements, behind)) :
    readValue? cs = some (.array elements, behind) := by
  -- As the bracket is read, the text behind it is shorter, which is what the reader tests.
  rw [readValue?.eq_def, starts]
  show (if (skipBlanks rest).head? = some ']' then _ else if rest.length < cs.length then
    (readElements? rest).map _ else none) = _
  rw [if_neg nonempty, if_pos (length_lt_of_skipBlanks starts), read]
  rfl

/-- Braces around blanks are an empty object. -/
theorem readValue?_noMembers {behind : List Char} (starts : skipBlanks cs = '\x7b' :: rest)
    (ends : skipBlanks rest = '\x7d' :: behind) : readValue? cs = some (.object [], behind) := by
  -- As behind a bracket, the reader looks for the other brace first.
  rw [readValue?.eq_def, starts]
  show (if (skipBlanks rest).head? = some '\x7d' then _ else _) = _
  rw [ends]
  rfl

/-- Members between braces are an object. -/
theorem readValue?_members {members : List (String × Json)} {behind : List Char}
    (starts : skipBlanks cs = '\x7b' :: rest) (nonempty : (skipBlanks rest).head? ≠ some '\x7d')
    (read : readMembers? rest = some (members, behind)) :
    readValue? cs = some (.object members, behind) := by
  -- The test of the length holds here for the same reason as for elements.
  rw [readValue?.eq_def, starts]
  show (if (skipBlanks rest).head? = some '\x7d' then _ else if rest.length < cs.length then
    (readMembers? rest).map _ else none) = _
  rw [if_neg nonempty, if_pos (length_lt_of_skipBlanks starts), read]
  rfl

/-- A value in front of a closing bracket is the last element. -/
theorem readElements?_last {first : Json} {behind : List Char}
    (read : readValue? cs = some (first, rest)) (ends : skipBlanks rest = ']' :: behind) :
    readElements? cs = some ([first], behind) := by
  rw [readElements?.eq_def, read]
  simp only [Option.bind_eq_bind, Option.bind_some, ends, Option.pure_def]

/-- A value in front of a comma is followed by other elements. -/
theorem readElements?_cons {first : Json} {others : List Json} {next behind : List Char}
    (read : readValue? cs = some (first, rest)) (goes : skipBlanks rest = ',' :: next)
    (shorter : next.length < cs.length) (readOthers : readElements? next = some (others, behind)) :
    readElements? cs = some (first :: others, behind) := by
  -- The reader goes on only with less than the text that it began with.
  rw [readElements?.eq_def, read]
  simp only [Option.bind_eq_bind, Option.bind_some, goes, if_pos shorter, readOthers,
    Option.pure_def]

/-- A member in front of a closing brace is the last one. -/
theorem readMembers?_last {key : String} {first : Json} {behind : List Char}
    (read : readMember? cs = some (key, first, rest)) (ends : skipBlanks rest = '\x7d' :: behind) :
    readMembers? cs = some ([(key, first)], behind) := by
  rw [readMembers?.eq_def, read]
  simp only [Option.bind_eq_bind, Option.bind_some, ends, Option.pure_def]

/-- A member in front of a comma is followed by other members. -/
theorem readMembers?_cons {key : String} {first : Json} {others : List (String × Json)}
    {next behind : List Char} (read : readMember? cs = some (key, first, rest))
    (goes : skipBlanks rest = ',' :: next) (shorter : next.length < cs.length)
    (readOthers : readMembers? next = some (others, behind)) :
    readMembers? cs = some ((key, first) :: others, behind) := by
  -- The member counts as one piece here; its own parts are read below.
  rw [readMembers?.eq_def, read]
  simp only [Option.bind_eq_bind, Option.bind_some, goes, if_pos shorter, readOthers,
    Option.pure_def]

/-- A key, a colon and a value are a member. -/
theorem readMember?_eq {key : List Char} {value : Json} {next behind more : List Char}
    (starts : skipBlanks cs = '"' :: rest) (readKey : readCharacters? rest = some (key, next))
    (goes : skipBlanks next = ':' :: more) (shorter : more.length < cs.length)
    (read : readValue? more = some (value, behind)) :
    readMember? cs = some (String.ofList key, value, behind) := by
  -- The parts are read one behind the other, each from what the one before has left.
  rw [readMember?.eq_def, starts]
  simp only [readKey, Option.bind_eq_bind, Option.bind_some, goes, if_pos shorter, read,
    Option.pure_def]

end Values

section Trees

mutual

/-- Whether every double of a tree is a number. -/
def IsFinite : Json → Prop
  | double value => ∃ negative significand exponent,
      value.datum = .finite negative significand exponent
  | array elements => AreFinite elements
  | object members => MembersAreFinite members
  | _ => True

/-- Whether every double of the elements is a number. -/
def AreFinite : List Json → Prop
  | [] => True
  | element :: rest => element.IsFinite ∧ AreFinite rest

/-- Whether every double of the members is a number. -/
def MembersAreFinite : List (String × Json) → Prop
  | [] => True
  | (_, value) :: rest => value.IsFinite ∧ MembersAreFinite rest

end

/-- Whether separators are their marks with blanks behind them. -/
structure Separators.AreMarks (separators : Separators) : Prop where
  item : ∃ blanks, separators.item = ',' :: blanks ∧ ∀ c ∈ blanks, isBlank c = true
  member : ∃ blanks, separators.member = ':' :: blanks ∧ ∀ c ∈ blanks, isBlank c = true

/-- A closing bracket closes what is in front of it. -/
theorem closes_bracket (rest : List Char) : Closes (']' :: rest) := by
  rintro _ ⟨⟩
  exact .inr (.inl rfl)

/-- So does a closing brace. -/
theorem closes_brace (rest : List Char) : Closes ('\x7d' :: rest) := by
  rintro _ ⟨⟩
  exact .inr (.inr rfl)

/-- So does a comma. -/
theorem closes_comma (rest : List Char) : Closes (',' :: rest) := by
  rintro _ ⟨⟩
  exact .inl rfl

/-- A number is read back behind blanks. -/
theorem readValue?_token {token blanks rest : List Char} {tree : Json}
    (read : readNumber? (token ++ rest) = some (tree, rest))
    (all : ∀ c ∈ blanks, isBlank c = true) :
    readValue? (blanks ++ (token ++ rest)) = some (tree, rest) := by
  -- Neither a sign nor a digit is a blank, so skipping stops in front of the number.
  obtain ⟨first, others, starts, number⟩ := head_of_readNumber? read
  have printed : ¬ isBlank first = true := by
    rcases number with rfl | digit
    · exact Bool.false_ne_true
    · intro blank
      simp only [isBlank, Bool.or_eq_true, beq_iff_eq] at blank
      rcases blank with ((rfl | rfl) | rfl) | rfl <;> cases digit
  refine readValue?_number ?_
  rw [skipBlanks_append all, starts, skipBlanks, List.dropWhile_cons_of_neg printed, ← starts]
  exact read

variable [JsonLibrary] {separators : Separators} (marks : separators.AreMarks)

include marks

/-- What stands behind an element closes it. -/
theorem closes_elements (others : List Json) (rest : List Char) :
    Closes (writeElements separators others ++ ']' :: rest) := by
  -- Either there is another element with a comma in front, or the bracket follows.
  obtain ⟨spaces, item, -⟩ := marks.item
  cases others with
  | nil => exact closes_bracket rest
  | cons second others =>
    rw [writeElements, item]
    exact closes_comma _

/-- What stands behind a member closes it. -/
theorem closes_members (others : List (String × Json)) (rest : List Char) :
    Closes (writeMembers separators others ++ '\x7d' :: rest) := by
  -- What follows is a comma or the brace, as it is with elements.
  obtain ⟨spaces, item, -⟩ := marks.item
  cases others with
  | nil => exact closes_brace rest
  | cons second others =>
    rw [writeMembers, item]
    exact closes_comma _

mutual

/-- A written tree is read back, and nothing behind it. -/
theorem readValue?_write [LawfulJsonLibrary] (tree : Json) (finite : tree.IsFinite)
    {blanks rest : List Char} (closes : Closes rest) (all : ∀ c ∈ blanks, isBlank c = true) :
    readValue? (blanks ++ (write separators tree ++ rest)) = some (tree, rest) := by
  -- The induction is on the tree, and a list or an object has its own lemma below.
  match tree with
  | .null =>
    rw [readValue?.eq_def, skipBlanks_append all]
    rfl
  | .bool value =>
    rw [readValue?.eq_def, skipBlanks_append all]
    cases value <;> rfl
  | .int value => exact readValue?_token (readNumber?_int value closes) all
  | .double value =>
    -- Only a number has a token that is read back, so infinities are left out here.
    obtain ⟨_, _, _, finite⟩ := finite
    exact readValue?_token (LawfulJsonLibrary.readNumber?_doubleText finite closes) all
  | .string text =>
    have starts : skipBlanks (blanks ++ (write separators (.string text) ++ rest)) =
        '"' :: (text.toList.flatMap JsonLibrary.escapeChar ++ '"' :: rest) := by
      rw [skipBlanks_append all, write, quoted, List.append_assoc]
      rfl
    rw [readValue?_string starts (readCharacters?_quoted _ _), String.ofList_toList]
  | .array [] => exact readValue?_noElements (skipBlanks_append all _) rfl
  | .array (first :: others) =>
    -- The first element has no blanks in front, as the bracket is what is written before it.
    have read := readElements?_write first others finite rest (List.forall_mem_nil _)
    have starts : skipBlanks (blanks ++ (write separators (.array (first :: others)) ++ rest)) =
        '[' :: ([] ++ (write separators first ++
          (writeElements separators others ++ ']' :: rest))) := by
      rw [skipBlanks_append all, write]
      simp only [List.append_assoc, List.cons_append, List.nil_append]
      rfl
    -- An element is there, so that this is not the list without any.
    have nonempty := head?_of_readValue? (readValue?_write first finite.1
      (closes_elements marks others rest) (List.forall_mem_nil _))
    exact readValue?_elements starts nonempty read
  | .object [] => exact readValue?_noMembers (skipBlanks_append all _) rfl
  | .object ((key, first) :: others) =>
    have read := readMembers?_write key first others finite rest (List.forall_mem_nil _)
    have starts : skipBlanks (blanks ++
        (write separators (.object ((key, first) :: others)) ++ rest)) =
        '\x7b' :: ([] ++ (quoted key ++ (separators.member ++ (write separators first ++
          (writeMembers separators others ++ '\x7d' :: rest))))) := by
      rw [skipBlanks_append all, write]
      simp only [List.append_assoc, List.cons_append, List.nil_append]
      rfl
    -- A key starts with a quote, so the object is not the one without members.
    refine readValue?_members starts ?_ read
    intro closing
    cases closing
termination_by sizeOf tree

/-- Written elements are read back up to the closing bracket. -/
theorem readElements?_write [LawfulJsonLibrary] (first : Json) (others : List Json)
    (finite : AreFinite (first :: others)) {blanks : List Char} (rest : List Char)
    (all : ∀ c ∈ blanks, isBlank c = true) :
    readElements? (blanks ++ (write separators first ++
      (writeElements separators others ++ ']' :: rest))) = some (first :: others, rest) := by
  -- What follows the first element closes it, and decides whether the reader goes on.
  have read := readValue?_write first finite.1 (closes_elements marks others rest) all
  match others with
  | [] => exact readElements?_last read rfl
  | second :: others =>
    obtain ⟨spaces, item, allSpaces⟩ := marks.item
    have readOthers := readElements?_write second others finite.2 rest allSpaces
    have goes : writeElements separators (second :: others) ++ ']' :: rest =
        ',' :: (spaces ++ (write separators second ++
          (writeElements separators others ++ ']' :: rest))) := by
      rw [writeElements, item]
      simp only [List.append_assoc, List.cons_append]
    rw [goes] at read ⊢
    -- At the least the comma has been read by now.
    refine readElements?_cons read rfl ?_ readOthers
    simp only [List.length_append, List.length_cons]
    omega
termination_by sizeOf (first :: others)

/-- Written members are read back up to the closing brace. -/
theorem readMembers?_write [LawfulJsonLibrary] (key : String) (first : Json)
    (others : List (String × Json)) (finite : MembersAreFinite ((key, first) :: others))
    {blanks : List Char} (rest : List Char) (all : ∀ c ∈ blanks, isBlank c = true) :
    readMembers? (blanks ++ (quoted key ++ (separators.member ++ (write separators first ++
      (writeMembers separators others ++ '\x7d' :: rest))))) =
      some ((key, first) :: others, rest) := by
  -- The blanks behind the colon belong to the value, which is read first here.
  obtain ⟨gap, member, allGap⟩ := marks.member
  have readFirst := readValue?_write first finite.1 (closes_members marks others rest) allGap
  have starts : skipBlanks (blanks ++ (quoted key ++ (separators.member ++
      (write separators first ++ (writeMembers separators others ++ '\x7d' :: rest))))) =
      '"' :: (key.toList.flatMap JsonLibrary.escapeChar ++ '"' :: (':' :: (gap ++
        (write separators first ++ (writeMembers separators others ++ '\x7d' :: rest))))) := by
    rw [skipBlanks_append all, quoted, member]
    simp only [List.append_assoc, List.cons_append, List.nil_append]
    rfl
  -- The key and its colon have been read by now.
  have read := readMember?_eq starts (readCharacters?_quoted _ _) rfl (by
    rw [member]
    simp only [List.length_append, List.length_cons]
    omega) readFirst
  rw [String.ofList_toList] at read
  match others with
  | [] => exact readMembers?_last read rfl
  | (secondKey, second) :: others =>
    obtain ⟨spaces, item, allSpaces⟩ := marks.item
    have readOthers := readMembers?_write secondKey second others finite.2 rest allSpaces
    have goes : writeMembers separators ((secondKey, second) :: others) ++ '\x7d' :: rest =
        ',' :: (spaces ++ (quoted secondKey ++ (separators.member ++ (write separators second ++
          (writeMembers separators others ++ '\x7d' :: rest))))) := by
      rw [writeMembers, item]
      simp only [List.append_assoc, List.cons_append]
    rw [goes] at read ⊢
    -- As with elements, what is left to read is shorter by the comma at least.
    refine readMembers?_cons read rfl ?_ readOthers
    simp only [List.length_append, List.length_cons]
    omega
termination_by sizeOf ((key, first) :: others)

end

/-- The text of a tree is read back as the tree. -/
theorem read?_write [LawfulJsonLibrary] {tree : Json} (finite : tree.IsFinite) :
    read? (String.ofList (write separators tree)) = some tree := by
  -- Behind the tree there is nothing, which closes any token.
  have ends : Closes [] := nofun
  have read := readValue?_write marks tree finite ends (List.forall_mem_nil _)
  rw [List.nil_append, List.append_nil] at read
  unfold read?
  rw [String.toList_ofList, read]
  rfl

end Trees

/-- A space behind each separator is a blank. -/
theorem areMarks_spaced : Separators.spaced.AreMarks :=
  -- The space is the only blank, behind the comma as behind the colon.
  ⟨⟨[' '], rfl, List.forall_mem_singleton.mpr rfl⟩, ⟨[' '], rfl, List.forall_mem_singleton.mpr rfl⟩⟩

end BsonTable.Json
