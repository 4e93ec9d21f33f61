import BsonTable.Json.Printer
import BsonTable.Proofs.Json.Tokens

/-!
Spaced text is compact text with one space behind every separator: a scanner that keeps apart what
stands in strings finds the separators, and nothing else differs.
-/

namespace BsonTable.Json

/-- Where a character of a text stands: between strings, in one, or behind a backslash in one. -/
inductive Place where
  | outside
  | inside
  | escaped
deriving Repr, DecidableEq

/-- The place behind a character. -/
def Place.next : Place → Char → Place
  | outside, c => if c = '"' then inside else outside
  | inside, c => if c = '"' then outside else if c = '\\' then escaped else inside
  | escaped, _ => inside

/-- Whether a character at a place stands between two items, or between a key and its value. -/
def isSeparator (place : Place) (c : Char) : Bool :=
  place = .outside ∧ (c = ',' ∨ c = ':')

/-- The text without the single space that follows each separator. -/
def unspaced (place : Place) : List Char → List Char
  | [] => []
  | c :: ' ' :: rest =>
    if isSeparator place c then c :: unspaced (place.next c) rest
    else c :: unspaced (place.next c) (' ' :: rest)
  | c :: rest => c :: unspaced (place.next c) rest

/-- The strings of a text one behind the other, each with its quotes and as it is written. -/
def literals (place : Place) : List Char → List Char
  | [] => []
  | c :: rest =>
    -- A quote belongs to the string that it opens, though the place in front of it is outside.
    if place = .outside ∧ c ≠ '"' then literals (place.next c) rest
    else c :: literals (place.next c) rest

/-- Whether exactly one space follows each separator. -/
def SpacedOnce (place : Place) (cs : List Char) : Prop :=
  -- The place of a character is what the characters in front of it lead to.
  ∀ before c after, cs = before ++ c :: after → isSeparator (before.foldl Place.next place) c →
    ∃ d rest, after = ' ' :: d :: rest ∧ d ≠ ' '

mutual

/-- The keys and strings of a tree in the order of its text. -/
def texts : Json → List String
  | string text => [text]
  | array elements => elementTexts elements
  | object members => memberTexts members
  | _ => []

/-- The keys and strings of elements. -/
def elementTexts : List Json → List String
  | [] => []
  | element :: rest => element.texts ++ elementTexts rest

/-- The keys and strings of members. -/
def memberTexts : List (String × Json) → List String
  | [] => []
  | (key, value) :: rest => key :: value.texts ++ memberTexts rest

end

/-- A text with spaces, the same text without, and its strings. -/
inductive Spaced [JsonLibrary] : List Char → List Char → List String → Prop
  | nil : Spaced [] [] []
  | plain {c : Char} {spaced compact : List Char} {texts : List String} (plain : IsPlain c)
    (rest : Spaced spaced compact texts) : Spaced (c :: spaced) (c :: compact) texts
  | literal (text : String) {spaced compact : List Char} {texts : List String}
    (rest : Spaced spaced compact texts) :
    Spaced (quoted text ++ spaced) (quoted text ++ compact) (text :: texts)
  | separator {c : Char} {spaced compact : List Char} {texts : List String}
    (mark : c = ',' ∨ c = ':') (nonempty : spaced ≠ []) (rest : Spaced spaced compact texts) :
    Spaced (c :: ' ' :: spaced) (c :: compact) texts

section Characters

variable {place : Place} {c : Char} (rest : List Char)

/-- A character that is no separator is kept, and so is what follows it. -/
theorem unspaced_cons (other : isSeparator place c = false) :
    unspaced place (c :: rest) = c :: unspaced (place.next c) rest := by
  -- The scanner tests the space first, so both of its cases have to be seen.
  rw [unspaced.eq_def]
  split
  · contradiction
  · rename_i same
    obtain ⟨rfl, rfl⟩ := List.cons.inj same
    rw [if_neg (Bool.eq_false_iff.mp other)]
  · rename_i same
    obtain ⟨rfl, rfl⟩ := List.cons.inj same
    rfl

/-- A separator loses the space behind it. -/
theorem unspaced_separator (separates : isSeparator place c = true) :
    unspaced place (c :: ' ' :: rest) = c :: unspaced (place.next c) rest := by
  rw [unspaced, if_pos separates]

/-- Spacing is a property of each character and what follows it. -/
theorem spacedOnce_cons : SpacedOnce place (c :: rest) ↔
    (isSeparator place c = true → ∃ d others, rest = ' ' :: d :: others ∧ d ≠ ' ') ∧
      SpacedOnce (place.next c) rest := by
  constructor
  · intro once
    -- Behind the first character the same text is split one character later.
    refine ⟨fun separates => once [] c rest rfl separates, fun before d after split separates => ?_⟩
    exact once (c :: before) d after (by rw [split, List.cons_append]) separates
  · rintro ⟨first, others⟩ before d after split separates
    -- The first character is looked at with nothing in front of it, and any other with it.
    cases before with
    | nil =>
      obtain ⟨rfl, rfl⟩ := List.cons.inj split
      exact first separates
    | cons e before =>
      obtain ⟨rfl, rfl⟩ := List.cons.inj split
      exact others before d after rfl separates

/-- Nothing but a separator needs a space. -/
theorem SpacedOnce.cons {rest : List Char} (other : isSeparator place c = false)
    (once : SpacedOnce (place.next c) rest) : SpacedOnce place (c :: rest) :=
  (spacedOnce_cons rest).mpr ⟨fun separates => absurd (other ▸ separates) Bool.false_ne_true, once⟩

/-- In a string there are no separators. -/
theorem isSeparator_inside (c : Char) : isSeparator .inside c = false := rfl

/-- Behind a backslash there are none either. -/
theorem isSeparator_escaped (c : Char) : isSeparator .escaped c = false := rfl

end Characters

section Strings

/-- What stands between quotes: the character behind a backslash is passed over. -/
inductive IsBody : List Char → Prop
  | nil : IsBody []
  | plain {c : Char} {rest : List Char} (other : c ≠ '"' ∧ c ≠ '\\') (body : IsBody rest) :
    IsBody (c :: rest)
  | escape (c : Char) {rest : List Char} (body : IsBody rest) : IsBody ('\\' :: c :: rest)

variable {body : List Char} (rest : List Char)

/-- Bodies are joined to a body. -/
theorem IsBody.append (first : IsBody body) {rest : List Char} (others : IsBody rest) :
    IsBody (body ++ rest) := by
  -- The induction is on the first body, since a body is built from its start.
  induction first with
  | nil => exact others
  | plain other _ ih => exact .plain other ih
  | escape c _ ih => exact .escape c ih

/-- A code is read from hexadecimal digits only. -/
theorem hexValue?_of_foldlM {cs : List Char} {value code : ℕ}
    (read : cs.foldlM (fun value c => (Text.hexValue? c).map (16 * value + ·)) value = some code) :
    ∀ c ∈ cs, ∃ digit, Text.hexValue? c = some digit := by
  -- The induction is on the digits, with the value of those before them.
  induction cs generalizing value with
  | nil => exact List.forall_mem_nil _
  | cons c cs ih =>
    rw [List.foldlM_cons] at read
    cases digit : Text.hexValue? c with
    | none =>
      rw [digit] at read
      cases read
    | some first =>
      rw [digit] at read
      exact List.forall_mem_cons.mpr ⟨⟨first, digit⟩, ih read⟩

/-- So the digits of a character's code are hexadecimal. -/
theorem hexValue?_of_readCode? {cs : List Char} {c : Char} (read : readCode? cs = some c) :
    ∀ c ∈ cs, ∃ digit, Text.hexValue? c = some digit := by
  unfold readCode? Text.hexNumber? at read
  -- Digits that were read are a code, whatever character it turned out to be.
  split at read
  · cases read
  · obtain ⟨code, number, -⟩ := Option.bind_eq_some_iff.mp read
    exact hexValue?_of_foldlM number

/-- A hexadecimal digit is neither a quote nor a backslash. -/
theorem ne_of_hexValue? {c : Char} {value : ℕ} (digit : Text.hexValue? c = some value) :
    c ≠ '"' ∧ c ≠ '\\' := by
  -- Each of the two would have a value otherwise, and has none.
  constructor <;> rintro rfl <;> cases digit

/-- A character is spelled by a body, which no quote ends too early. -/
theorem Spells.isBody {c : Char} {cs : List Char} (spells : Spells c cs) : IsBody cs := by
  cases spells with
  | itself other _ => exact .plain other .nil
  | letter _ => exact .escape _ .nil
  | digits code =>
    -- Behind the backslash and its letter, the digits stand for themselves.
    have plain := fun c among => (hexValue?_of_readCode? code c among).elim fun _ => ne_of_hexValue?
    simp only [List.forall_mem_cons] at plain
    obtain ⟨first, second, third, fourth, -⟩ := plain
    exact .escape 'u' (.plain first (.plain second (.plain third (.plain fourth .nil))))

/-- The place behind a body is inside the string, as it is in front of it. -/
theorem next_plain {c : Char} (other : c ≠ '"' ∧ c ≠ '\\') : Place.next .inside c = .inside := by
  rw [Place.next, if_neg other.1, if_neg other.2]

/-- Between quotes nothing is deleted. -/
theorem unspaced_body (is : IsBody body) :
    unspaced .inside (body ++ '"' :: rest) = body ++ '"' :: unspaced .outside rest := by
  -- The induction follows the body, as an escape takes two characters of the text at once.
  induction is with
  | nil => exact unspaced_cons rest (isSeparator_inside _)
  | plain other _ ih =>
    rw [List.cons_append, unspaced_cons _ (isSeparator_inside _), next_plain other, ih]
    rfl
  | escape c _ ih =>
    rw [List.cons_append, unspaced_cons _ (isSeparator_inside _), List.cons_append]
    show _ :: unspaced .escaped _ = _
    rw [unspaced_cons _ (isSeparator_escaped _)]
    show _ :: _ :: unspaced .inside _ = _
    rw [ih]
    rfl

/-- Between quotes everything belongs to the string. -/
theorem literals_body (is : IsBody body) :
    literals .inside (body ++ '"' :: rest) = body ++ '"' :: literals .outside rest := by
  -- The same induction as for the scanner: the place is inside in front of each part of the body.
  induction is with
  | nil => rfl
  | plain other _ ih =>
    rw [List.cons_append, literals, if_neg nofun, next_plain other, ih]
    rfl
  | escape c _ ih =>
    rw [List.cons_append, literals, if_neg nofun, List.cons_append]
    show _ :: literals .escaped _ = _
    rw [literals, if_neg nofun]
    show _ :: _ :: literals .inside _ = _
    rw [ih]
    rfl

/-- Between quotes no space is needed. -/
theorem spacedOnce_body (is : IsBody body) {rest : List Char} (once : SpacedOnce .outside rest) :
    SpacedOnce .inside (body ++ '"' :: rest) := by
  induction is with
  | nil => exact .cons (isSeparator_inside _) once
  | plain other _ ih =>
    refine .cons (isSeparator_inside _) ?_
    rw [next_plain other]
    exact ih
  | escape c _ ih => exact .cons (isSeparator_inside _) (.cons (isSeparator_escaped c) ih)

/-- A plain character is no separator and leaves the place outside strings. -/
theorem next_isPlain {c : Char} (plain : IsPlain c) :
    isSeparator .outside c = false ∧ Place.next .outside c = .outside := by
  constructor
  · simp [isSeparator, plain.comma, plain.colon]
  · -- Only a quote leads into a string, and a plain character is none.
    rw [Place.next, if_neg plain.quote]

/-- A mark is a separator, and leaves the place outside strings too. -/
theorem next_mark {c : Char} (mark : c = ',' ∨ c = ':') :
    isSeparator .outside c = true ∧ c ≠ '"' ∧ Place.next .outside c = .outside := by
  rcases mark with rfl | rfl <;> decide

end Strings

namespace Spaced

variable [JsonLibrary] {spaced compact : List Char} {texts : List String}

/-- A quoted string is a body between quotes. -/
theorem quoted_append (text : String) (rest : List Char) :
    quoted text ++ rest = '"' :: (text.toList.flatMap JsonLibrary.escapeChar ++ '"' :: rest) := by
  rw [quoted, List.append_assoc, List.cons_append, List.singleton_append]

/-- No text starts with a space. -/
theorem head?_ne (related : Spaced spaced compact texts) : spaced.head? ≠ some ' ' := by
  -- Only in front of a separator could there be a space, and it comes behind the mark.
  cases related with
  | nil => exact nofun
  | plain plain _ => exact fun same => plain.space (Option.some.inj same)
  | literal text _ => exact nofun
  | separator mark _ _ =>
    intro same
    obtain rfl := Option.some.inj same
    rcases mark with mark | mark <;> cases mark

/-- Texts are put one behind the other. -/
theorem append (related : Spaced spaced compact texts) {spaced' compact' : List Char}
    {texts' : List String} (others : Spaced spaced' compact' texts') :
    Spaced (spaced ++ spaced') (compact ++ compact') (texts ++ texts') := by
  induction related with
  -- The induction is on the first text, and the other one stands behind its end.
  | nil => exact others
  | plain other _ ih => exact .plain other ih
  | literal text _ ih =>
    rw [List.append_assoc, List.append_assoc]
    exact .literal text ih
  | separator mark nonempty _ ih => exact .separator mark (by simp [nonempty]) ih

/-- Plain characters are the same with spaces and without. -/
theorem of_isPlain {cs : List Char} (all : ∀ c ∈ cs, IsPlain c) : Spaced cs cs [] := by
  induction cs with
  -- The induction is on the characters, with no string among them.
  | nil => exact .nil
  | cons c cs ih =>
    rw [List.forall_mem_cons] at all
    exact .plain all.1 (ih all.2)

variable [LawfulJsonLibrary]

/-- Written characters are a body. -/
theorem isBody_flatMap (text : List Char) : IsBody (text.flatMap JsonLibrary.escapeChar) := by
  -- Each character is spelled by a body, and bodies are joined.
  induction text with
  | nil => exact .nil
  | cons c text ih =>
    rw [List.flatMap_cons]
    exact (LawfulJsonLibrary.spells_escapeChar c).isBody.append ih

/-- The compact text is what is left without the spaces. -/
theorem unspaced_eq (related : Spaced spaced compact texts) :
    unspaced .outside spaced = compact := by
  -- The induction is on how the texts are related; after each piece the place is outside again.
  induction related with
  | nil => rfl
  | plain plain _ ih =>
    obtain ⟨separates, next⟩ := next_isPlain plain
    rw [unspaced_cons _ separates, next, ih]
  | literal text _ ih =>
    rw [quoted_append, quoted_append, unspaced_cons _ rfl]
    show _ :: unspaced .inside _ = _
    rw [unspaced_body _ (isBody_flatMap _), ih]
  | separator mark _ _ ih =>
    obtain ⟨separates, -, next⟩ := next_mark mark
    rw [unspaced_separator _ separates, next, ih]

/-- The strings are in the text as they are written. -/
theorem literals_eq (related : Spaced spaced compact texts) :
    literals .outside spaced = texts.flatMap quoted := by
  -- Plain characters and separators are passed over, and a string is taken whole.
  induction related with
  | nil => rfl
  | plain plain _ ih => rw [literals, if_pos ⟨rfl, plain.quote⟩, (next_isPlain plain).2, ih]
  | literal text _ ih =>
    rw [quoted_append, literals, if_neg (fun outside => outside.2 rfl)]
    show _ :: literals .inside _ = _
    rw [literals_body _ (isBody_flatMap _), ih, List.flatMap_cons, quoted_append]
  | separator mark _ _ ih =>
    obtain ⟨-, unquoted, next⟩ := next_mark mark
    rw [literals, if_pos ⟨rfl, unquoted⟩, next]
    exact ih

/-- One space follows each separator. -/
theorem once (related : Spaced spaced compact texts) : SpacedOnce .outside spaced := by
  induction related with
  -- Only the last case has a separator, and the rest does not start with a space.
  | nil =>
    -- There is no character in the empty text.
    intro before c after split
    cases before <;> cases split
  | plain plain _ ih =>
    obtain ⟨separates, next⟩ := next_isPlain plain
    refine .cons separates ?_
    rw [next]
    exact ih
  | literal text _ ih =>
    rw [quoted_append]
    exact .cons rfl (spacedOnce_body (isBody_flatMap _) ih)
  | separator mark nonempty rest ih =>
    obtain ⟨-, -, next⟩ := next_mark mark
    obtain ⟨d, others, rfl⟩ := List.exists_cons_of_ne_nil nonempty
    have printed : d ≠ ' ' := fun same => rest.head?_ne (congrArg some same)
    refine (spacedOnce_cons _).mpr ⟨fun _ => ⟨d, others, rfl, printed⟩, ?_⟩
    rw [next]
    exact .cons rfl ih

end Spaced

section Trees

variable [JsonLibrary] [LawfulJsonLibrary]

/-- Every value has a text. -/
theorem write_ne_nil (separators : Separators) (tree : Json) : write separators tree ≠ [] := by
  -- A token has a character by its law, and everything else starts with a mark of its own.
  cases tree with
  | null => exact nofun
  | bool value => cases value <;> exact nofun
  | int value => exact (isToken_signedNumeral value).nonempty
  | double value => exact (LawfulJsonLibrary.isToken_doubleText value).nonempty
  | string text => exact nofun
  | array elements => cases elements <;> exact nofun
  | object members => cases members <;> exact nofun

mutual

/-- The text of a tree has one space behind each of its separators. -/
theorem spaced_write (tree : Json) :
    Spaced (write .spaced tree) (write .compact tree) tree.texts := by
  -- The induction is on the tree: its text is put together from texts that are related already.
  match tree with
  | .null => exact .of_isPlain (forall_isPlain rfl)
  | .bool value => cases value <;> exact .of_isPlain (forall_isPlain rfl)
  | .int value => exact .of_isPlain (isToken_signedNumeral value).plain
  | .double value => exact .of_isPlain (LawfulJsonLibrary.isToken_doubleText value).plain
  | .string text =>
    -- A string is related to itself with nothing behind it.
    have literal := Spaced.literal text .nil
    rwa [List.append_nil] at literal
  | .array [] => exact .of_isPlain (forall_isPlain rfl)
  | .array (first :: rest) =>
    -- The elements and the bracket are joined, and the first bracket is put in front.
    have elements := (spaced_write first).append (spaced_writeElements rest)
    have bracket : Spaced [']'] [']'] [] := .of_isPlain (forall_isPlain rfl)
    have closed := elements.append bracket
    rw [List.append_nil] at closed
    exact .plain (by decide) closed
  | .object [] => exact .of_isPlain (forall_isPlain rfl)
  | .object ((key, first) :: rest) =>
    -- The value of a member follows its colon, which is where the space is.
    have members := (spaced_write first).append (spaced_writeMembers rest)
    have brace : Spaced ['\x7d'] ['\x7d'] [] := .of_isPlain (forall_isPlain rfl)
    have closed := members.append brace
    have member := Spaced.literal key
      (.separator (.inr rfl) (by simp [write_ne_nil]) closed)
    have opened := Spaced.plain (c := '\x7b') (by decide) member
    rw [write, write, texts, memberTexts]
    simp only [List.append_assoc, List.append_nil, List.cons_append] at opened ⊢
    exact opened

/-- So have the texts of elements. -/
theorem spaced_writeElements (elements : List Json) :
    Spaced (writeElements .spaced elements) (writeElements .compact elements)
      (elementTexts elements) := by
  match elements with
  | [] => exact .nil
  | element :: rest =>
    have related := (spaced_write element).append (spaced_writeElements rest)
    exact .separator (.inl rfl) (by simp [write_ne_nil]) related

/-- So have the texts of members. -/
theorem spaced_writeMembers (members : List (String × Json)) :
    Spaced (writeMembers .spaced members) (writeMembers .compact members)
      (memberTexts members) := by
  match members with
  | [] => exact .nil
  | (key, value) :: rest =>
    have related := (spaced_write value).append (spaced_writeMembers rest)
    have member := Spaced.literal key (.separator (.inr rfl) (by simp [write_ne_nil]) related)
    -- Between two members there is a comma, and another separator inside the member.
    have item := Spaced.separator (.inl rfl) (by simp [quoted]) member
    rw [writeMembers, writeMembers, memberTexts]
    simp only [List.append_assoc, List.cons_append]
    exact item

end

end Trees

end BsonTable.Json
