import Descent.Proofs.Json.Word

/-!
# The layout of JSON text

The text of a value is a row of words with blanks between.  The words depend on the value alone,
the blanks on the indentation; so texts of one value are the same without the blanks that stand
outside of strings, and every text is read as the tokens of the words.
-/

namespace Descent

/-- The blanks that a style puts between words. -/
def JsonStyle.blanks (style : JsonStyle) : List Char :=
  match style.indent with
  | none => [' ']
  | some _ => ['\n', ' ']

namespace Json

/-! ## The words of a value -/

/-- Items between two marks, with commas between them. -/
def bracketed (opening closing : Mark) (items : List (List Word)) : List Word :=
  .mark opening :: ([.mark .comma].intercalate items ++ [.mark closing])

/-- The words of a field. -/
def fieldWords (name : String) (value : List Word) : List Word :=
  .text name :: .mark .colon :: value

mutual

/-- The words of a value. -/
def words : Value → List Word
  | .null => [.null]
  | .truth value => [.truth value]
  | .integer value => [.integer value]
  | .number value => [.number value]
  | .text value => [.text value]
  | .tuple items => bracketed .openArray .closeArray (wordsOf items)
  | .list items => bracketed .openArray .closeArray (wordsOf items)
  | .record names values =>
      bracketed .openObject .closeObject (List.zipWith fieldWords names (wordsOf values))
  | .call target arguments =>
      bracketed .openObject .closeObject
        [fieldWords "target" [.text target],
          fieldWords "args" (bracketed .openArray .closeArray (wordsOf arguments))]

/-- The words of each of some values. -/
def wordsOf : List Value → List (List Word)
  | [] => []
  | item :: items => words item :: wordsOf items

end

theorem mem_intercalate {α : Type} {separator : List α} {items : List (List α)} {member : α}
    (mem : member ∈ separator.intercalate items) :
    member ∈ separator ∨ ∃ item ∈ items, member ∈ item := by
  induction items with
  | nil => exact absurd mem List.not_mem_nil
  | cons item items induction =>
      cases items with
      | nil =>
          rw [List.intercalate_singleton] at mem
          exact .inr ⟨item, List.mem_cons_self, mem⟩
      | cons next items =>
          rw [List.intercalate_cons_cons, List.append_assoc, List.mem_append, List.mem_append]
            at mem
          rcases mem with first | between | others
          · exact .inr ⟨item, List.mem_cons_self, first⟩
          · exact .inl between
          · refine (induction others).imp_right ?_
            rintro ⟨other, otherMem, mem⟩
            exact ⟨other, List.mem_cons_of_mem _ otherMem, mem⟩

theorem writable_bracketed {opening closing : Mark} {items : List (List Word)}
    (writable : ∀ item ∈ items, ∀ word ∈ item, word.unwritable? = none) :
    ∀ word ∈ bracketed opening closing items, word.unwritable? = none := by
  intro word mem
  rw [bracketed, List.mem_cons, List.mem_append, List.mem_singleton] at mem
  rcases mem with rfl | mem | rfl
  · rfl
  · rcases mem_intercalate mem with comma | ⟨item, itemMem, mem⟩
    · rw [List.mem_singleton.mp comma]
      rfl
    · exact writable item itemMem word mem
  · rfl

theorem writable_fieldWords {name : String} {value : List Word}
    (writable : ∀ word ∈ value, word.unwritable? = none) :
    ∀ word ∈ fieldWords name value, word.unwritable? = none := by
  intro word mem
  rw [fieldWords, List.mem_cons, List.mem_cons] at mem
  rcases mem with rfl | rfl | mem
  · rfl
  · rfl
  · exact writable word mem

theorem writable_fields {items : List (List Word)}
    (writable : ∀ item ∈ items, ∀ word ∈ item, word.unwritable? = none) (names : List String) :
    ∀ field ∈ List.zipWith fieldWords names items, ∀ word ∈ field, word.unwritable? = none := by
  induction names generalizing items with
  | nil => exact nofun
  | cons name names induction =>
      cases items with
      | nil => exact nofun
      | cons item items =>
          rw [List.forall_mem_cons] at writable
          rw [List.zipWith_cons_cons, List.forall_mem_cons]
          exact ⟨writable_fieldWords writable.1, induction writable.2⟩

mutual

/-- The words of a value can be written if the value can. -/
theorem writable_words : ∀ {value : Value}, firstUnwritable? value = none →
    ∀ word ∈ words value, word.unwritable? = none
  | .null, _ | .truth _, _ | .integer _, _ | .text _, _ => List.forall_mem_singleton.mpr rfl
  | .number _, writable => List.forall_mem_singleton.mpr writable
  | .tuple _, writable | .list _, writable => writable_bracketed (writable_wordsOf writable)
  | .record names _, writable =>
      writable_bracketed (writable_fields (writable_wordsOf writable) names)
  | .call _ _, writable =>
      writable_bracketed
        (List.forall_mem_cons.mpr
          ⟨writable_fieldWords (List.forall_mem_singleton.mpr rfl),
            List.forall_mem_singleton.mpr
              (writable_fieldWords (writable_bracketed (writable_wordsOf writable)))⟩)

theorem writable_wordsOf : ∀ {items : List Value}, firstUnwritableOf? items = none →
    ∀ item ∈ wordsOf items, ∀ word ∈ item, word.unwritable? = none
  | [], _ => nofun
  | item :: items, writable => by
      rw [firstUnwritableOf?] at writable
      split at writable
      · contradiction
      · rename_i first
        exact List.forall_mem_cons.mpr ⟨writable_words first, writable_wordsOf writable⟩

end

/-! ## Words with blanks between -/

/-- The text consists of the words with blanks around them; a number ends where its word does. -/
inductive Spaced (style : JsonStyle) : List Word → List Char → Prop where
  | nil : Spaced style [] []
  | blank {character : Char} (mem : character ∈ style.blanks) {words : List Word}
      {text : List Char} (spaced : Spaced style words text) :
      Spaced style words (character :: text)
  | word (word : Word) {words : List Word} {text : List Char}
      (ends : word.isNumeric = true → Call.HeadFails isNumberCharacter text)
      (spaced : Spaced style words text) :
      Spaced style (word :: words) (word.spelling style.asciiOnly ++ text)

/-- The text spells the words in front of any text that does not go on as a number. -/
def Spells (style : JsonStyle) (words : List Word) (text : List Char) : Prop :=
  ∀ ⦃others : List Word⦄ ⦃rest : List Char⦄, Spaced style others rest →
    Call.HeadFails isNumberCharacter rest → Spaced style (words ++ others) (text ++ rest)

variable {style : JsonStyle}

theorem space_mem_blanks (style : JsonStyle) : ' ' ∈ style.blanks := by
  rw [JsonStyle.blanks]
  split <;> decide

theorem spaced_gap {gap : List Char} (blank : ∀ character ∈ gap, character ∈ style.blanks)
    {others : List Word} {rest : List Char}
    (spaced : Spaced style others rest) :
    Spaced style others (gap ++ rest) := by
  induction gap with
  | nil => exact spaced
  | cons character gap induction =>
      rw [List.forall_mem_cons] at blank
      exact .blank blank.1 (induction blank.2)

theorem eq_of_mem_blanks {character : Char} (mem : character ∈ style.blanks) :
    character = '\n' ∨ character = ' ' := by
  rw [JsonStyle.blanks] at mem
  split at mem
  · exact .inr (List.mem_singleton.mp mem)
  · simpa using mem

theorem isNumberCharacter_of_mem_blanks {character : Char} (mem : character ∈ style.blanks) :
    isNumberCharacter character = false := by
  rcases eq_of_mem_blanks mem with rfl | rfl <;> rfl

theorem headFails_gap {gap : List Char} (blank : ∀ character ∈ gap, character ∈ style.blanks)
    {rest : List Char} (ends : Call.HeadFails isNumberCharacter rest) :
    Call.HeadFails isNumberCharacter (gap ++ rest) := by
  cases gap with
  | nil => exact ends
  | cons character gap =>
      exact Call.headFails_cons
        (isNumberCharacter_of_mem_blanks (blank character List.mem_cons_self)) _

theorem mem_blanks_of_mem_lineBreak (style : JsonStyle) (level : Nat) :
    ∀ character ∈ lineBreak style level, character ∈ style.blanks := by
  rw [lineBreak, JsonStyle.blanks]
  cases style.indent with
  | none => exact nofun
  | some count =>
      refine List.forall_mem_cons.mpr ⟨List.mem_cons_self, fun character mem => ?_⟩
      rw [List.eq_of_mem_replicate mem]
      exact List.mem_cons_of_mem _ List.mem_cons_self

/-- A separator is a comma and blanks. -/
theorem exists_gap_of_separator (style : JsonStyle) (level : Nat) :
    ∃ gap, separator style level = ',' :: gap ∧
      ∀ character ∈ gap, character ∈ style.blanks := by
  have broken := mem_blanks_of_mem_lineBreak style level
  rw [separator]
  cases indent_eq : style.indent with
  | none =>
      refine ⟨[' '], rfl, List.forall_mem_singleton.mpr (space_mem_blanks style)⟩
  | some count => exact ⟨lineBreak style level, rfl, broken⟩

/-! ## Texts of values as words -/

theorem spells_word (word : Word) : Spells style [word] (word.spelling style.asciiOnly) :=
  fun _ _ spaced ends => .word word (fun _ => ends) spaced

theorem spells_fieldWords (name : String) {value : List Word} {text : List Char}
    (spells : Spells style value text) :
    Spells style (fieldWords name value) (field style name text) := by
  intro others rest spaced ends
  have behind : Spaced style (value ++ others)
      (' ' :: (text ++ rest)) := .blank (space_mem_blanks style) (spells spaced ends)
  have colon := Spaced.word (.mark .colon) nofun behind
  have whole := Spaced.word (.text name) nofun colon
  rw [field, List.append_assoc]
  exact whole

theorem spaced_intercalate (style : JsonStyle) (level : Nat) {item : List Word} {text : List Char}
    {items : List (List Word)} {texts : List (List Char)}
    (spells : List.Forall₂ (Spells style) (item :: items) (text :: texts)) {others : List Word}
    {rest : List Char} (spaced : Spaced style others rest)
    (ends : Call.HeadFails isNumberCharacter rest) :
    Spaced style
      ([.mark .comma].intercalate (item :: items) ++ others)
      ((separator style level).intercalate (text :: texts) ++ rest) := by
  induction items generalizing item text texts with
  | nil =>
      obtain ⟨first, ⟨⟩⟩ := List.forall₂_cons.mp spells
      rw [List.intercalate_singleton, List.intercalate_singleton]
      exact first spaced ends
  | cons next items induction =>
      obtain ⟨first, further⟩ := List.forall₂_cons.mp spells
      cases texts with
      | nil => contradiction
      | cons nextText texts =>
          obtain ⟨gap, gap_eq, blank⟩ := exists_gap_of_separator style level
          have inner := spaced_gap blank (induction further)
          have comma := Spaced.word (.mark .comma) nofun inner
          -- A number at the end of the first item is ended by the comma.
          have whole := first comma (Call.headFails_cons rfl _)
          rw [List.intercalate_cons_cons, List.intercalate_cons_cons, gap_eq]
          rw [gap_eq] at whole
          simpa [Word.spelling, Mark.character] using whole

/-- Items between brackets are spelled if each item is. -/
theorem spells_enclose (opening closing : Mark) (level : Nat) {items : List (List Word)}
    {texts : List (List Char)} (spells : List.Forall₂ (Spells style) items texts) :
    Spells style (bracketed opening closing items)
      (enclose style level opening.character closing.character texts) := by
  intro others rest spaced ends
  have closed := Spaced.word (.mark closing) nofun spaced
  cases spells with
  | nil => exact Spaced.word (.mark opening) nofun closed
  | @cons item text items texts first further =>
      have outer := mem_blanks_of_mem_lineBreak style level
      have closes : Call.HeadFails isNumberCharacter
          ((Word.mark closing).spelling style.asciiOnly ++ rest) :=
        Call.headFails_cons (by cases closing <;> rfl) _
      have between := spaced_intercalate style (level + 1) (.cons first further)
        (spaced_gap outer closed) (headFails_gap outer closes)
      have whole := Spaced.word (.mark opening) nofun
        (spaced_gap (mem_blanks_of_mem_lineBreak style (level + 1)) between)
      rw [bracketed, enclose]
      simpa [Word.spelling] using whole

theorem spells_fields {items : List (List Word)} {texts : List (List Char)}
    (spells : List.Forall₂ (Spells style) items texts) (names : List String) :
    List.Forall₂ (Spells style) (List.zipWith fieldWords names items)
      (List.zipWith (field style) names texts) := by
  induction spells generalizing names with
  | nil => cases names <;> exact .nil
  | cons first further induction =>
      cases names with
      | nil => exact .nil
      | cons name names => exact .cons (spells_fieldWords name first) (induction names)

mutual

/-- The text of a value spells its words, at every level. -/
theorem spells_write (style : JsonStyle) : ∀ (value : Value) (level : Nat),
    Spells style (words value) (write style level value)
  | .null, _ => spells_word .null
  | .truth value, _ => spells_word (.truth value)
  | .integer value, _ => spells_word (.integer value)
  | .number value, _ => spells_word (.number value)
  | .text value, _ => spells_word (.text value)
  | .tuple items, level | .list items, level =>
      spells_enclose .openArray .closeArray level (spells_writeItems style items (level + 1))
  | .record names values, level =>
      spells_enclose .openObject .closeObject level
        (spells_fields (spells_writeItems style values (level + 1)) names)
  | .call target arguments, level =>
      spells_enclose .openObject .closeObject level
        (.cons (spells_fieldWords "target" (spells_word (.text target)))
          (.cons
            (spells_fieldWords "args"
              (spells_enclose .openArray .closeArray (level + 1)
                (spells_writeItems style arguments (level + 2))))
            .nil))

theorem spells_writeItems (style : JsonStyle) : ∀ (items : List Value) (level : Nat),
    List.Forall₂ (Spells style) (wordsOf items) (writeItems style level [] items)
  | [], _ => .nil
  | item :: items, level => by
      have first := spells_write style item level
      have others := spells_writeItems style items level
      rw [writeItems_eq, List.reverse_nil, List.nil_append] at others ⊢
      exact .cons first others

end

/-- JSON text consists of the words of its value, with blanks around them. -/
theorem spaced_text (style : JsonStyle) (value : Value) :
    Spaced style (words value) (text style value).toList := by
  have spaced := spells_write style value 0 Spaced.nil nofun
  rw [Json.text, String.toList_ofList]
  rwa [List.append_nil, List.append_nil] at spaced

/-! ## What follows for the text -/

variable {words : List Word} {text : List Char}

theorem isBlank_of_mem_blanks {character : Char} (mem : character ∈ style.blanks) :
    isBlank character = true := by
  rcases eq_of_mem_blanks mem with rfl | rfl <;> rfl

/-- The text is read as the tokens of its words. -/
theorem Spaced.tokens_eq (spaced : Spaced style words text)
    (writable : ∀ word ∈ words, word.unwritable? = none) :
    tokens text = some (words.map Word.token) := by
  induction spaced with
  | nil => rw [tokens, List.map_nil]
  | blank mem _ induction =>
      rw [tokens_of_isBlank (isBlank_of_mem_blanks mem), induction writable]
  | word word ends _ induction =>
      rw [List.forall_mem_cons] at writable
      rw [tokens_of_token? (word.token?_spelling style.asciiOnly writable.1 ends),
        induction writable.2]
      rfl

/-- Each character of the text is a blank of the style or shown. -/
theorem Spaced.mem_blanks_or_isShown (spaced : Spaced style words text)
    (writable : ∀ word ∈ words, word.unwritable? = none) :
    ∀ character ∈ text, character ∈ style.blanks ∨ IsShown style.asciiOnly character := by
  induction spaced with
  | nil => exact nofun
  | blank mem _ induction => exact List.forall_mem_cons.mpr ⟨.inl mem, induction writable⟩
  | word word ends _ induction =>
      rw [List.forall_mem_cons] at writable
      intro character mem
      rcases List.mem_append.mp mem with inside | behind
      · exact .inr (word.isShown_of_mem_spelling writable.1 inside)
      · exact induction writable.2 character behind

/-- The text of a value, on one line, has no control characters. -/
theorem le_toNat_of_mem_text {value : Value} (writable : firstUnwritable? value = none)
    {style : JsonStyle} (oneLine : style.indent = none) :
    ∀ character ∈ (Json.text style value).toList, 32 ≤ character.toNat := by
  intro character mem
  rcases (spaced_text style value).mem_blanks_or_isShown (writable_words writable) character mem
    with blank | shown
  · rw [JsonStyle.blanks, oneLine] at blank
    rw [List.mem_singleton.mp blank]
    decide
  · exact shown.1

/-- The text of a value, on one line, has no line break. -/
theorem newline_notMem_text {value : Value} (writable : firstUnwritable? value = none)
    {style : JsonStyle} (oneLine : style.indent = none) :
    '\n' ∉ (Json.text style value).toList :=
  fun mem => absurd (le_toNat_of_mem_text writable oneLine '\n' mem) (by decide)

/-- The text of a value in a style for ASCII has ASCII characters only. -/
theorem isAscii_of_mem_text {value : Value} (writable : firstUnwritable? value = none)
    {style : JsonStyle} (asciiOnly : style.asciiOnly = true) :
    ∀ character ∈ (Json.text style value).toList, character.toNat < 128 := by
  intro character mem
  rcases (spaced_text style value).mem_blanks_or_isShown (writable_words writable) character mem
    with blank | shown
  · rcases eq_of_mem_blanks blank with rfl | rfl <;> decide
  · exact Nat.lt_succ_of_le (Nat.le_succ_of_le (shown.2 asciiOnly))

/-! ## Text without the blanks between words -/

/-- Where a character of JSON text stands. -/
inductive Place where
  | outside
  | inside
  /-- Behind a backslash inside of a string. -/
  | escaped

/-- The text from a place on, without the blanks outside of strings. -/
def squeezeFrom : Place → List Char → List Char
  | _, [] => []
  | .outside, character :: rest =>
      if isBlank character then squeezeFrom .outside rest
      else if character = '"' then character :: squeezeFrom .inside rest
      else character :: squeezeFrom .outside rest
  | .inside, character :: rest =>
      if character = '"' then character :: squeezeFrom .outside rest
      else if character = '\\' then character :: squeezeFrom .escaped rest
      else character :: squeezeFrom .inside rest
  | .escaped, character :: rest => character :: squeezeFrom .inside rest

/-- The text without the blanks outside of strings. -/
def squeeze (text : List Char) : List Char := squeezeFrom .outside text

theorem squeezeFrom_inside {text : List Char}
    (plain : ∀ character ∈ text, character ≠ '"' ∧ character ≠ '\\') (rest : List Char) :
    squeezeFrom .inside (text ++ rest) = text ++ squeezeFrom .inside rest := by
  induction text with
  | nil => rfl
  | cons character text induction =>
      rw [List.forall_mem_cons] at plain
      rw [List.cons_append, squeezeFrom, if_neg plain.1.1, if_neg plain.1.2, induction plain.2,
        List.cons_append]

theorem squeezeFrom_unitEscape (code : Nat) (rest : List Char) :
    squeezeFrom .inside (unitEscape code ++ rest) =
      unitEscape code ++ squeezeFrom .inside rest := by
  have plain : ∀ character ∈ hexDigits 4 code, character ≠ '"' ∧ character ≠ '\\' :=
    fun character mem => ⟨(hexDigits_mem mem).1, (hexDigits_mem mem).2.1⟩
  rw [unitEscape, List.cons_append, List.cons_append, squeezeFrom, if_neg (by decide), if_pos rfl,
    squeezeFrom, squeezeFrom_inside plain, List.cons_append, List.cons_append]

/-- A character of a string stays as it is written. -/
theorem squeezeFrom_escape (asciiOnly : Bool) (character : Char) (rest : List Char) :
    squeezeFrom .inside (escape asciiOnly character ++ rest) =
      escape asciiOnly character ++ squeezeFrom .inside rest := by
  have shape := escape_cases asciiOnly character
  generalize escape asciiOnly character = written at shape ⊢
  cases shape with
  | named mark names noCode shown => rfl
  | numbered =>
      rw [codeEscape]
      split
      · exact squeezeFrom_unitEscape _ rest
      · rw [List.append_assoc, squeezeFrom_unitEscape, squeezeFrom_unitEscape, List.append_assoc]
  | plain open_mark no_escape shown ascii =>
      exact squeezeFrom_inside (List.forall_mem_singleton.mpr ⟨open_mark, no_escape⟩) rest

theorem squeeze_string (asciiOnly : Bool) (characters rest : List Char) :
    squeeze (string asciiOnly characters ++ rest) =
      string asciiOnly characters ++ squeeze rest := by
  have inside : squeezeFrom .inside (characters.flatMap (escape asciiOnly) ++ '"' :: rest) =
      characters.flatMap (escape asciiOnly) ++ '"' :: squeeze rest := by
    induction characters with
    | nil => rfl
    | cons character characters induction =>
        rw [List.flatMap_cons, List.append_assoc, squeezeFrom_escape, induction,
          List.append_assoc]
  rw [string, List.cons_append, List.append_assoc, List.singleton_append, squeeze, squeezeFrom,
    if_neg (by decide), if_pos rfl, inside, List.cons_append, List.append_assoc,
    List.singleton_append]

theorem squeeze_append {text : List Char}
    (plain : ∀ character ∈ text, isBlank character = false ∧ character ≠ '"') (rest : List Char) :
    squeeze (text ++ rest) = text ++ squeeze rest := by
  induction text with
  | nil => rfl
  | cons character text induction =>
      rw [List.forall_mem_cons] at plain
      rw [List.cons_append, squeeze, squeezeFrom, if_neg (by simp [plain.1.1]), if_neg plain.1.2,
        ← squeeze, induction plain.2, List.cons_append]

/-- A word stays as it is spelled. -/
theorem Word.squeeze_spelling {word : Word} (writable : word.unwritable? = none)
    (asciiOnly : Bool) (rest : List Char) :
    squeeze (word.spelling asciiOnly ++ rest) = word.spelling asciiOnly ++ squeeze rest := by
  rcases mark_or_text_or_bare asciiOnly writable with ⟨sign, rfl⟩ | ⟨value, rfl⟩ | bare
  · exact squeeze_append (List.forall_mem_singleton.mpr (by cases sign <;> decide)) rest
  · exact squeeze_string asciiOnly value.toList rest
  · refine squeeze_append (fun character mem => ?_) rest
    obtain ⟨-, noBlank, -, noQuote⟩ := isBare_only (bare character mem)
    exact ⟨noBlank, noQuote⟩

/-- Without blanks the text is the words one after another. -/
theorem Spaced.squeeze_eq (spaced : Spaced style words text)
    (writable : ∀ word ∈ words, word.unwritable? = none) :
    squeeze text = words.flatMap (Word.spelling style.asciiOnly) := by
  induction spaced with
  | nil => rfl
  | blank mem _ induction =>
      rw [squeeze, squeezeFrom, if_pos (isBlank_of_mem_blanks mem), ← squeeze, induction writable]
  | word word ends _ induction =>
      rw [List.forall_mem_cons] at writable
      rw [Word.squeeze_spelling writable.1, induction writable.2, List.flatMap_cons]

end Json
end Descent
