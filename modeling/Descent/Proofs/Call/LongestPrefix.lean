import Descent.Proofs.Call.Attempt

/-!
# Attempts find the longest derivation

A derivation whose text is followed by a character that can stand behind it is the one that an
attempt finds, and its height is the depth of the derivation.  Behind any other text an attempt
still takes at least as much as the derivation.  So the grammar is unambiguous, and a complete
attempt takes the longest text at the front that has a derivation.
-/

namespace Descent
namespace Call

/-- The characters that can stand behind a phrase inside an expression. -/
def Phrase.followers : Phrase → List Char
  | .once .argumentList => [')']
  | .once _ => [',', '(', ')']
  | .optionalArguments => [')']
  | .trailingArguments => [')']

/-- A text is empty or begins with one of some characters. -/
def BeginsIn (characters text : List Char) : Prop :=
  ∀ character ∈ text.head?, character ∈ characters

theorem beginsIn_nil (characters : List Char) : BeginsIn characters [] := nofun

theorem beginsIn_cons {characters : List Char} {character : Char}
    (mem : character ∈ characters) (rest : List Char) :
    BeginsIn characters (character :: rest) := by
  rintro _ ⟨rfl⟩
  exact mem

theorem BeginsIn.mono {characters more text : List Char} (begins : BeginsIn characters text)
    (subset : ∀ character ∈ characters, character ∈ more) : BeginsIn more text :=
  fun character head => subset character (begins character head)

theorem headFails_of_beginsIn {test : Char → Bool} {characters text : List Char}
    (begins : BeginsIn characters text)
    (fails : ∀ character ∈ characters, test character = false) : HeadFails test text :=
  fun character head => fails character (begins character head)

theorem numberEnds_of_beginsIn {text : List Char} (begins : BeginsIn [',', '(', ')'] text) :
    NumberEnds text := by
  intro character head
  have member := begins character head
  simp only [List.mem_cons, List.not_mem_nil, or_false] at member
  rcases member with rfl | rfl | rfl <;> exact ⟨rfl, by decide⟩

/-- No literal stands in front of a mark. -/
theorem split?_eq_none_of_beginsIn {text : List Char} (begins : BeginsIn [')'] text) :
    Literal.split? text = none := by
  cases text with
  | nil => rfl
  | cons character rest =>
      obtain rfl := List.mem_singleton.mp (begins character rfl)
      rfl

/-- The first character of a literal is no letter. -/
theorem headFails_literal (literal : Literal) (rest : List Char) :
    HeadFails isLetter (literal.text ++ rest) := by
  obtain ⟨sign, whole, fraction, sign_mem, whole_ne_nil, all_whole, all_fraction⟩ := literal
  cases sign with
  | some character =>
      refine headFails_cons ?_ _
      rcases sign_mem character rfl with rfl | rfl <;> rfl
  | none =>
      obtain ⟨digit, others, rfl⟩ := List.exists_cons_of_ne_nil whole_ne_nil
      exact headFails_cons (isLetter_eq_false_of_isDigit
        (List.all_eq_true.mp all_whole digit List.mem_cons_self)) _

namespace Derivation

/-- Behind an argument there is a comma, or what is behind the list. -/
theorem beginsIn_trailingArguments (others : Derivation .trailingArguments) {rest : List Char}
    (follows : BeginsIn [')'] rest) : BeginsIn [',', '(', ')'] (others.text ++ rest) := by
  cases others with
  | noMore => exact follows.mono (by simp)
  | more first others =>
      cases first with
      | trailingArgument argument => exact beginsIn_cons (by simp) _

/-- A list of further arguments is empty or begins with a comma. -/
theorem text_eq_nil_or_beginsIn (others : Derivation .trailingArguments) (rest : List Char) :
    others.text = [] ∨ BeginsIn [',', '(', ')'] (others.text ++ rest) := by
  cases others with
  | noMore => exact .inl rfl
  | more first others =>
      cases first with
      | trailingArgument argument => exact .inr (beginsIn_cons (by simp) _)

end Derivation

namespace Attempt

/-! ## What is found behind a derivation -/

/-- There is no argument list in front of a closing mark. -/
theorem noArguments_of_beginsIn {text : List Char} (begins : BeginsIn [')'] text) :
    Attempt .optionalArguments text (.complete .noArguments) 0 := by
  have noLetter : HeadFails isLetter text :=
    headFails_of_beginsIn begins (by simp only [List.mem_singleton, forall_eq]; rfl)
  have noTarget : Attempt (.once .call) text (.broken "identifier" []) 0 :=
    .noTarget ((Identifier.split?_eq_none_iff text).mpr noLetter)
  have noNumber : Attempt (.once .numberLiteral) text (.broken "number" []) 0 :=
    .noNumber (split?_eq_none_of_beginsIn begins)
  exact .noArguments (.noFirst (.noExpression noTarget noNumber))

/-- A complete call has nothing to do with the text behind it. -/
theorem call_append {arguments : Derivation .optionalArguments} {height : Nat}
    (attempt : ∀ rest, BeginsIn [')'] rest →
      Attempt .optionalArguments (arguments.text ++ rest) (.complete arguments) height)
    (target : Derivation (.once .identifier)) (rest : List Char) :
    Attempt (.once .call) ((Derivation.call target arguments).text ++ rest)
      (.complete (.call target arguments)) (height + 1) := by
  cases target with
  | identifier name =>
      have text_eq : (Derivation.call (.identifier name) arguments).text ++ rest =
          name.text ++ '(' :: (arguments.text ++ ')' :: rest) := by simp [Derivation.text]
      rw [text_eq]
      have opening : HeadFails isNameCharacter ('(' :: (arguments.text ++ ')' :: rest)) :=
        headFails_cons rfl _
      exact .call (name.split?_append opening) (attempt _ (beginsIn_cons (by simp) rest)) rfl

/-- A number in front of a text is attempted as a call in vain. -/
theorem ofNumber_of_split? {text rest : List Char} {literal : Literal}
    (split : Literal.split? text = some (literal, rest)) :
    Attempt (.once .expression) text (.complete (.ofNumber (.numberLiteral literal))) 0 := by
  have noLetter := headFails_literal literal rest
  rw [← Literal.eq_append_of_split? split] at noLetter
  exact .ofNumber (.noTarget ((Identifier.split?_eq_none_iff text).mpr noLetter))
    (.numberLiteral split)

/-- A derivation is found where one of its followers comes behind it, with its depth as height. -/
theorem ofDerivation : ∀ {phrase : Phrase} (derivation : Derivation phrase) (rest : List Char),
    BeginsIn phrase.followers rest →
      Attempt phrase (derivation.text ++ rest) (.complete derivation) derivation.depth
  | _, .identifier name, rest, follows =>
      .identifier (name.split?_append (headFails_of_beginsIn follows (by
        simp only [Phrase.followers, List.mem_cons, List.not_mem_nil, or_false, forall_eq_or_imp,
          forall_eq]
        exact ⟨rfl, rfl, rfl⟩)))
  | _, .numberLiteral literal, rest, follows =>
      .numberLiteral (literal.split?_append (numberEnds_of_beginsIn follows))
  | _, .trailingArgument argument, rest, follows =>
      .trailingArgument (ofDerivation argument rest follows)
  | _, .argumentList first others, rest, follows => by
      have text_eq : (Derivation.argumentList first others).text ++ rest =
          first.text ++ (others.text ++ rest) := by simp [Derivation.text]
      rw [text_eq]
      exact .argumentList (ofDerivation first _ (others.beginsIn_trailingArguments follows)) rfl
        (ofDerivation others rest follows)
  | _, .call target arguments, rest, _ =>
      call_append (fun rest follows => ofDerivation arguments rest follows) target rest
  | _, .ofCall inner, rest, follows => .ofCall (ofDerivation inner rest follows)
  | _, .ofNumber (.numberLiteral literal), rest, follows =>
      ofNumber_of_split? (literal.split?_append (numberEnds_of_beginsIn follows))
  | _, .noArguments, rest, follows => noArguments_of_beginsIn follows
  | _, .someArguments arguments, rest, follows =>
      .someArguments (ofDerivation arguments rest follows)
  | _, .noMore, rest, follows =>
      .noMore (.noComma fun comma => absurd (follows ',' comma) (by simp [Phrase.followers]))
  | _, .more first others, rest, follows => by
      have text_eq : (Derivation.more first others).text ++ rest =
          first.text ++ (others.text ++ rest) := by simp [Derivation.text]
      rw [text_eq]
      exact .more (ofDerivation first _ (others.beginsIn_trailingArguments follows)) rfl
        (ofDerivation others rest follows)

/-- A call is found whatever comes behind it. -/
theorem ofCallDerivation (inner : Derivation (.once .call)) (rest : List Char) :
    Attempt (.once .call) (inner.text ++ rest) (.complete inner) inner.depth := by
  cases inner with
  | call target arguments =>
      exact call_append (fun rest follows => ofDerivation arguments rest follows) target rest

/-- The height of a complete expression is its depth. -/
theorem height_eq_depth {text : List Char} {derivation : Derivation (.once .expression)}
    {height : Nat} (attempt : Attempt (.once .expression) text (.complete derivation) height) :
    height = derivation.depth := by
  cases attempt with
  | @ofCall _ inner _ attempt =>
      obtain ⟨rest, rfl⟩ := attempt.exists_rest
      exact (attempt.unique (ofCallDerivation inner rest)).2
  | ofNumber noCall attempt =>
      cases attempt with
      | numberLiteral split =>
          exact ((Attempt.ofNumber noCall (.numberLiteral split)).unique
            (ofNumber_of_split? split)).2

/-! ## The longest derivation -/

/-- The attempt at a list behind the derivation of its first part takes no less than any list. -/
theorem exists_more_of_longest {symbol : Symbol} {first : Derivation (.once symbol)}
    {others : Derivation .trailingArguments} {rest : List Char}
    (ordinary : (Phrase.once symbol).followers = [',', '(', ')'])
    (longest : ∃ longer height,
      Attempt (.once symbol) (first.text ++ (others.text ++ rest)) (.complete longer) height ∧
        first.text.length ≤ longer.text.length)
    (furtherLongest : ∃ longer height,
      Attempt .trailingArguments (others.text ++ rest) (.complete longer) height ∧
        others.text.length ≤ longer.text.length) :
    ∃ (longer : Derivation (.once symbol)) (further : Derivation .trailingArguments)
        (height furtherHeight : Nat) (after : List Char),
      Attempt (.once symbol) (first.text ++ (others.text ++ rest)) (.complete longer) height ∧
        first.text ++ (others.text ++ rest) = longer.text ++ after ∧
        Attempt .trailingArguments after (.complete further) furtherHeight ∧
        first.text.length + others.text.length ≤ longer.text.length + further.text.length := by
  rcases others.text_eq_nil_or_beginsIn rest with empty | comma
  · obtain ⟨longer, height, attempt, le⟩ := longest
    obtain ⟨after, text_eq⟩ := attempt.exists_rest
    obtain ⟨ending, furtherHeight, furtherAttempt⟩ := attempted .trailingArguments after
    obtain ⟨further, rfl⟩ := furtherAttempt.exists_complete_of_ne_once (by simp)
    refine ⟨longer, further, height, furtherHeight, after, attempt, text_eq, furtherAttempt, ?_⟩
    rw [empty, List.length_nil]
    omega
  · obtain ⟨further, furtherHeight, furtherAttempt, le⟩ := furtherLongest
    exact ⟨first, further, _, furtherHeight, _, ofDerivation first _ (ordinary ▸ comma), rfl,
      furtherAttempt, Nat.add_le_add_left le _⟩

/-- Behind any text an attempt takes at least as much as a derivation. -/
theorem exists_longer : ∀ {phrase : Phrase} (derivation : Derivation phrase) (rest : List Char),
    ∃ longer height, Attempt phrase (derivation.text ++ rest) (.complete longer) height ∧
      derivation.text.length ≤ longer.text.length
  | _, .identifier name, rest => by
      obtain ⟨longer, after, split, le, -⟩ := name.exists_split?_append rest
      exact ⟨.identifier longer, 0, .identifier split, le⟩
  | _, .numberLiteral literal, rest => by
      obtain ⟨longer, after, split, le⟩ := literal.exists_split?_append rest
      exact ⟨.numberLiteral longer, 0, .numberLiteral split, le⟩
  | _, .trailingArgument argument, rest => by
      obtain ⟨longer, height, attempt, le⟩ := exists_longer argument rest
      exact ⟨.trailingArgument longer, height, .trailingArgument attempt, Nat.succ_le_succ le⟩
  | _, .argumentList first others, rest => by
      obtain ⟨longer, further, height, furtherHeight, after, attempt, text_eq, listed, le⟩ :=
        exists_more_of_longest rfl (exists_longer first (others.text ++ rest))
          (exists_longer others rest)
      refine ⟨.argumentList longer further, max height furtherHeight, ?_, ?_⟩
      · rw [Derivation.text, List.append_assoc]
        exact .argumentList attempt text_eq listed
      · simpa [Derivation.text] using le
  | _, .call target arguments, rest =>
      ⟨.call target arguments, _, ofCallDerivation (.call target arguments) rest, Nat.le_refl _⟩
  | _, .ofCall inner, rest =>
      ⟨.ofCall inner, _, .ofCall (ofCallDerivation inner rest), Nat.le_refl _⟩
  | _, .ofNumber (.numberLiteral literal), rest => by
      obtain ⟨longer, after, split, le⟩ := literal.exists_split?_append rest
      exact ⟨.ofNumber (.numberLiteral longer), 0, ofNumber_of_split? split, le⟩
  | _, .noArguments, rest => by
      obtain ⟨ending, height, attempt⟩ := attempted .optionalArguments rest
      obtain ⟨arguments, rfl⟩ := attempt.exists_complete_of_ne_once (by simp)
      exact ⟨arguments, height, attempt, Nat.zero_le _⟩
  | _, .someArguments arguments, rest => by
      obtain ⟨longer, height, attempt, le⟩ := exists_longer arguments rest
      exact ⟨.someArguments longer, height, .someArguments attempt, le⟩
  | _, .noMore, rest => by
      obtain ⟨ending, height, attempt⟩ := attempted .trailingArguments rest
      obtain ⟨others, rfl⟩ := attempt.exists_complete_of_ne_once (by simp)
      exact ⟨others, height, attempt, Nat.zero_le _⟩
  | _, .more first others, rest => by
      obtain ⟨longer, further, height, furtherHeight, after, attempt, text_eq, listed, le⟩ :=
        exists_more_of_longest rfl (exists_longer first (others.text ++ rest))
          (exists_longer others rest)
      refine ⟨.more longer further, max height furtherHeight, ?_, ?_⟩
      · rw [Derivation.text, List.append_assoc]
        exact .more attempt text_eq listed
      · simpa [Derivation.text] using le

/-- A complete attempt takes at least as much as any derivation at the front of the text. -/
theorem length_le_of_isPrefix {phrase : Phrase} {text : List Char} {found : Derivation phrase}
    {height : Nat} (attempt : Attempt phrase text (.complete found) height)
    (derivation : Derivation phrase) (isPrefix : derivation.text <+: text) :
    derivation.text.length ≤ found.text.length := by
  obtain ⟨rest, rfl⟩ := isPrefix
  obtain ⟨longer, longerHeight, second, le⟩ := exists_longer derivation rest
  obtain ⟨⟨rfl⟩, -⟩ := attempt.unique second
  exact le

/-- A broken attempt has no derivation at the front of the text. -/
theorem not_isPrefix_of_broken {phrase : Phrase} {text taken : List Char} {label : String}
    {height : Nat} (attempt : Attempt phrase text (.broken label taken) height)
    (derivation : Derivation phrase) : ¬ derivation.text <+: text := by
  rintro ⟨rest, rfl⟩
  obtain ⟨longer, longerHeight, second, -⟩ := exists_longer derivation rest
  exact nomatch (attempt.unique second).1

end Attempt

/-- The grammar is unambiguous. -/
theorem Derivation.eq_of_text_eq {phrase : Phrase} {first second : Derivation phrase}
    (text_eq : first.text = second.text) : first = second := by
  have found := Attempt.ofDerivation first [] (beginsIn_nil _)
  have again := Attempt.ofDerivation second [] (beginsIn_nil _)
  rw [text_eq] at found
  obtain ⟨⟨rfl⟩, -⟩ := found.unique again
  rfl

end Call
end Descent
