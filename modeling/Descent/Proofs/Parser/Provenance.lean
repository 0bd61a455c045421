import Mathlib.Logic.Relation
import Descent.Call.Grammar
import Descent.Proofs.Parser.Settled

/-!
# Where matches end and where failures come from

Parsers are built from literals, patterns and the end of the text by the combinators and by named
rules.  A match of such a parser ends in the same source, not in front of the place where the parser
was started.  A failure was met by a primitive, or by a choice without alternatives, at that very
place during the run; the combinators pass it on as it is.
-/

namespace Descent

/-- A position is in the same source as the start, and not in front of it. -/
structure Cursor.Precedes (start next : Cursor) : Prop where
  source_eq : next.source = start.source
  offset_le : start.offset ≤ next.offset

namespace Cursor

theorem Precedes.refl (cursor : Cursor) : cursor.Precedes cursor := ⟨rfl, Nat.le_refl _⟩

theorem Precedes.trans {first second third : Cursor} (left : first.Precedes second)
    (right : second.Precedes third) : first.Precedes third :=
  ⟨right.source_eq.trans left.source_eq, Nat.le_trans left.offset_le right.offset_le⟩

theorem precedes_forward (cursor : Cursor) (count : Nat) : cursor.Precedes (cursor.forward count) :=
  ⟨rfl, cursor.offset_le_offset_forward count⟩

end Cursor

/-! ## Runs that account for their answers -/

/-- A match does not go back, and a failure is in the history. -/
def Accounted (start : Cursor) (moments : List Moment) : Except Fault Outcome → Prop
  | .error _ => True
  | .ok (.matched _ next) => start.Precedes next
  | .ok (.failed failure) => ∃ reader, .failed reader failure ∈ moments

/-- A failed primitive in a history is of an expected origin, and not in front of the start. -/
def Moment.IsFrom (origin : Parser → Failure → Prop) (start : Cursor) : Moment → Prop
  | failed reader failure => start.Precedes failure.cursor ∧ origin reader failure
  | _ => True

theorem Accounted.of_precedes {start middle : Cursor} {moments further : List Moment}
    {answer : Except Fault Outcome} (accounted : Accounted middle further answer)
    (precedes : start.Precedes middle) (subset : further ⊆ moments) :
    Accounted start moments answer := by
  match answer, accounted with
  | .error _, _ => trivial
  | .ok (.matched _ _), ahead => exact precedes.trans ahead
  | .ok (.failed _), ⟨reader, mem⟩ => exact ⟨reader, subset mem⟩

theorem Moment.IsFrom.of_precedes {origin : Parser → Failure → Prop} {start middle : Cursor}
    {moment : Moment} (isFrom : moment.IsFrom origin middle) (precedes : start.Precedes middle) :
    moment.IsFrom origin start := by
  cases moment with
  | failed reader failure => exact ⟨precedes.trans isFrom.1, isFrom.2⟩
  | entered | left | took => trivial

namespace Watched

/-- The answers of an action are accounted for by its history, whose failures have an origin. -/
structure Accounts (origin : Parser → Failure → Prop) (watched : Watched) : Prop where
  answer (cursor : Cursor) (session : Session) :
    Accounted cursor (watched.history cursor session) (watched.action cursor session).1
  isFrom (cursor : Cursor) (session : Session) :
    ∀ moment ∈ watched.history cursor session, moment.IsFrom origin cursor

variable {origin : Parser → Failure → Prop} {watched : Watched}

theorem Accounts.mono {wider : Parser → Failure → Prop} (accounts : watched.Accounts origin)
    (le : ∀ reader failure, origin reader failure → wider reader failure) :
    watched.Accounts wider where
  answer := accounts.answer
  isFrom cursor session moment mem := by
    have narrow := accounts.isFrom cursor session moment mem
    cases moment with
    | failed reader failure => exact ⟨narrow.1, le _ _ narrow.2⟩
    | entered | left | took => trivial

/-- An answer of a primitive: a match does not go back, and a failure is of an expected origin. -/
def Credible (origin : Parser → Failure → Prop) (reader : Parser) (start : Cursor) :
    Except Fault Outcome → Prop
  | .error _ => True
  | .ok (.matched _ next) => start.Precedes next
  | .ok (.failed failure) => start.Precedes failure.cursor ∧ origin reader failure

theorem accounts_primitive {reader : Parser} {action : Action}
    (credible : ∀ cursor session, Credible origin reader cursor (action cursor session).1) :
    Accounts origin ⟨action, primitive reader action⟩ where
  answer cursor session := by
    have answered := credible cursor session
    simp only [primitive]
    split
    · rename_i ran
      rwa [ran] at answered ⊢
    · rename_i failure ran
      rw [ran]
      exact ⟨reader, List.mem_singleton_self _⟩
    · rename_i ran
      rw [ran]
      trivial
  isFrom cursor session moment mem := by
    have answered := credible cursor session
    simp only [primitive] at mem
    split at mem
    · rw [List.mem_singleton.mp mem]
      trivial
    · rename_i failure ran
      rw [ran] at answered
      rw [List.mem_singleton.mp mem]
      exact answered
    · contradiction

/-! ### One body -/

theorem Accounts.optional (accounts : watched.Accounts origin) :
    Accounts origin ⟨Action.optional watched.action, watched.history⟩ where
  answer cursor session := by
    have answered := accounts.answer cursor session
    simp only [Action.optional]
    split
    · trivial
    · rename_i ran
      rwa [ran] at answered
    · exact Cursor.Precedes.refl cursor
  isFrom := accounts.isFrom

theorem Accounts.transform (accounts : watched.Accounts origin) (function : Value → Value) :
    Accounts origin ⟨Action.transform function watched.action, watched.history⟩ where
  answer cursor session := by
    have answered := accounts.answer cursor session
    simp only [Action.transform]
    split <;> rename_i ran <;> rwa [ran] at answered
  isFrom := accounts.isFrom

theorem Accounts.traced (accounts : watched.Accounts origin) (name : String) :
    Accounts origin
      ⟨Action.traced name watched.action, fun cursor session =>
        watched.history cursor (session.note (.trying name cursor.offset))⟩ where
  answer cursor session := by
    have answered := accounts.answer cursor (session.note (.trying name cursor.offset))
    simp only [Action.traced]
    split <;> rename_i ran <;> rwa [ran] at answered
  isFrom cursor _ := accounts.isFrom cursor _

/-- A body that is run in a session which depends on the start and the session before. -/
theorem Accounts.inSession (accounts : watched.Accounts origin)
    (change : Cursor → Session → Session) :
    Accounts origin
      ⟨fun cursor session => watched.action cursor (change cursor session),
        fun cursor session => watched.history cursor (change cursor session)⟩ where
  answer cursor _ := accounts.answer cursor _
  isFrom cursor _ := accounts.isFrom cursor _

/-- A body whose history is put between the begin and the end of a rule. -/
theorem Accounts.inRule (accounts : watched.Accounts origin) (name : String) :
    Accounts origin
      ⟨watched.action, fun cursor session =>
        .entered name cursor.offset :: (watched.history cursor session ++ [.left name])⟩ where
  answer cursor session := by
    have inside : watched.history cursor session ⊆
        .entered name cursor.offset :: (watched.history cursor session ++ [.left name]) :=
      List.subset_cons_of_subset _ (List.subset_append_left _ _)
    exact (accounts.answer cursor session).of_precedes (.refl cursor) inside
  isFrom cursor session moment mem := by
    rcases List.mem_cons.mp mem with rfl | mem
    · trivial
    · rcases List.mem_append.mp mem with mem | mem
      · exact accounts.isFrom cursor session moment mem
      · rw [List.mem_singleton.mp mem]
        trivial

/-- An action that answers with faults only, and has no history. -/
theorem accounts_fault {action : Action}
    (faulty : ∀ cursor session, ∃ fault, (action cursor session).1 = .error fault) :
    Accounts origin ⟨action, fun _ _ => []⟩ where
  answer cursor session := by
    obtain ⟨fault, answered⟩ := faulty cursor session
    simp only [answered]
    trivial
  isFrom _ _ _ mem := absurd mem List.not_mem_nil

/-! ### Choice -/

theorem furthest_eq (earlier : Option Failure) (failure : Failure) :
    Action.furthest earlier failure = failure ∨
      earlier = some (Action.furthest earlier failure) := by
  cases earlier with
  | none => exact .inl rfl
  | some first =>
      simp only [Action.furthest]
      split
      · exact .inl rfl
      · exact .inr rfl

/-- The answer of a choice, after moments that hold the earlier failures. -/
theorem answer_choice {alternatives : List Watched}
    (accounts : ∀ alternative ∈ alternatives, alternative.Accounts origin) (cursor : Cursor)
    (session : Session) {earlier : Option Failure} {moments : List Moment}
    (held : ∀ failure, earlier = some failure → ∃ reader, .failed reader failure ∈ moments)
    (some_or_cons : earlier ≠ none ∨ alternatives ≠ []) :
    Accounted cursor (moments ++ choice alternatives cursor session)
      (Action.anyOfFrom earlier (alternatives.map Watched.action) cursor session).1 := by
  induction alternatives generalizing session earlier moments with
  | nil =>
      obtain ⟨failure, rfl⟩ := Option.ne_none_iff_exists'.mp (some_or_cons.resolve_right (· rfl))
      obtain ⟨reader, mem⟩ := held failure rfl
      exact ⟨reader, List.mem_append_left _ mem⟩
  | cons alternative alternatives induction =>
      have answered := (accounts alternative List.mem_cons_self).answer cursor session
      rcases ran : alternative.action cursor session with ⟨answer, after⟩
      rw [ran] at answered
      simp only [List.map_cons, Action.anyOfFrom, choice, ran]
      rcases answer with fault | ⟨value, next⟩ | failure
      · trivial
      · exact answered
      · obtain ⟨reader, mem⟩ := answered
        rw [← List.append_assoc]
        apply induction fun other mem => accounts other (List.mem_cons_of_mem _ mem)
        · rintro _ ⟨⟩
          rcases furthest_eq earlier failure with latest | first
          · rw [latest]
            exact ⟨reader, List.mem_append_right _ mem⟩
          · obtain ⟨reader, mem⟩ := held _ first
            exact ⟨reader, List.mem_append_left _ mem⟩
        · exact .inl (Option.some_ne_none _)

theorem isFrom_choice {alternatives : List Watched}
    (accounts : ∀ alternative ∈ alternatives, alternative.Accounts origin) (cursor : Cursor)
    (session : Session) :
    ∀ moment ∈ choice alternatives cursor session, moment.IsFrom origin cursor := by
  induction alternatives generalizing session with
  | nil => exact fun _ mem => absurd mem List.not_mem_nil
  | cons alternative alternatives induction =>
      intro moment mem
      rcases List.mem_append.mp mem with first | later
      · exact (accounts alternative List.mem_cons_self).isFrom cursor session moment first
      · split at later
        · exact induction (fun other mem => accounts other (List.mem_cons_of_mem _ mem)) _ _ later
        · contradiction

theorem accounts_choice {alternatives : List Watched} (cons : alternatives ≠ [])
    (accounts : ∀ alternative ∈ alternatives, alternative.Accounts origin) :
    Accounts origin ⟨Action.anyOf (alternatives.map Watched.action), choice alternatives⟩ where
  answer cursor session := by
    have none_held : ∀ failure, none = some failure →
        ∃ reader, Moment.failed reader failure ∈ [] := fun _ none => nomatch none
    exact answer_choice accounts cursor session none_held (.inr cons)
  isFrom := isFrom_choice accounts

/-! ### Concatenation -/

theorem answer_steps {others : List Watched}
    (accounts : ∀ step ∈ others, step.Accounts origin) (values : List Value) (cursor : Cursor)
    (session : Session) :
    Accounted cursor (steps others cursor session)
      (Action.sequenceFrom values (others.map Watched.action) cursor session).1 := by
  induction others generalizing values cursor session with
  | nil => exact Cursor.Precedes.refl cursor
  | cons step others induction =>
      have answered := (accounts step List.mem_cons_self).answer cursor session
      rcases ran : step.action cursor session with ⟨answer, after⟩
      rw [ran] at answered
      simp only [List.map_cons, Action.sequenceFrom, steps, ran]
      rcases answer with fault | ⟨value, next⟩ | failure
      · trivial
      · have rest := induction (fun other mem => accounts other (List.mem_cons_of_mem _ mem))
          (value :: values) next after
        exact rest.of_precedes answered (List.subset_append_right _ _)
      · obtain ⟨reader, mem⟩ := answered
        exact ⟨reader, List.mem_append_left _ mem⟩

theorem isFrom_steps {others : List Watched}
    (accounts : ∀ step ∈ others, step.Accounts origin) (cursor : Cursor) (session : Session) :
    ∀ moment ∈ steps others cursor session, moment.IsFrom origin cursor := by
  induction others generalizing cursor session with
  | nil => exact fun _ mem => absurd mem List.not_mem_nil
  | cons step others induction =>
      have head := accounts step List.mem_cons_self
      intro moment mem
      rcases List.mem_append.mp mem with first | later
      · exact head.isFrom cursor session moment first
      · have ahead := head.answer cursor session
        split at later
        · rename_i next after ran
          rw [ran] at ahead
          have tail := induction (fun other mem => accounts other (List.mem_cons_of_mem _ mem))
            next after moment later
          exact tail.of_precedes ahead
        · contradiction

theorem accounts_steps {others : List Watched} (accounts : ∀ step ∈ others, step.Accounts origin) :
    Accounts origin ⟨Action.sequence (others.map Watched.action), steps others⟩ where
  answer := answer_steps accounts []
  isFrom := isFrom_steps accounts

/-! ### Repetition -/

theorem Accounts.answer_repetition (accounts : watched.Accounts origin) (bound : Nat)
    (values : List Value) (cursor : Cursor) (session : Session) :
    Accounted cursor (repetition watched bound cursor session)
      (Action.manyFrom watched.action bound values cursor session).1 := by
  induction bound generalizing values cursor session with
  | zero => trivial
  | succ bound induction =>
      have answered := accounts.answer cursor session
      rcases ran : watched.action cursor session with ⟨answer, after⟩
      rw [ran] at answered
      simp only [Action.manyFrom, repetition, ran]
      rcases answer with fault | ⟨value, next⟩ | failure
      · trivial
      · dsimp only
        split
        · exact Cursor.Precedes.refl cursor
        · have rest := induction (value :: values) next after
          exact rest.of_precedes answered (List.subset_append_right _ _)
      · exact Cursor.Precedes.refl cursor

theorem Accounts.isFrom_repetition (accounts : watched.Accounts origin) (bound : Nat)
    (cursor : Cursor) (session : Session) :
    ∀ moment ∈ repetition watched bound cursor session, moment.IsFrom origin cursor := by
  induction bound generalizing cursor session with
  | zero => exact fun _ mem => absurd mem List.not_mem_nil
  | succ bound induction =>
      intro moment mem
      rcases List.mem_append.mp mem with first | later
      · exact accounts.isFrom cursor session moment first
      · have ahead := accounts.answer cursor session
        split at later
        · rename_i next after ran
          rw [ran] at ahead
          split at later
          · contradiction
          · exact (induction next after moment later).of_precedes ahead
        · contradiction

theorem Accounts.many (accounts : watched.Accounts origin) :
    Accounts origin
      ⟨Action.many watched.action, fun cursor session =>
        repetition watched (cursor.remaining + 1) cursor session⟩ where
  answer cursor := accounts.answer_repetition (cursor.remaining + 1) [] cursor
  isFrom cursor := accounts.isFrom_repetition (cursor.remaining + 1) cursor

end Watched

namespace Parser

/-! ## Parts of parsers -/

/-- A parser is a direct part of another, or the rule that the other one names. -/
inductive Part (environment : Environment) : Parser → Parser → Prop where
  | alternative {parser : Parser} {alternatives : List Parser} (mem : parser ∈ alternatives) :
      Part environment parser (anyOf alternatives)
  | optional (body : Parser) : Part environment body (optional body)
  | many (body : Parser) : Part environment body (many body)
  | step {parser : Parser} {steps : List Parser} (mem : parser ∈ steps) :
      Part environment parser (sequence steps)
  | transform (function : Value → Value) (body : Parser) :
      Part environment body (transform function body)
  | traced (name : String) (body : Parser) : Part environment body (traced name body)
  | observed (tag : String) (body : Parser) : Part environment body (observed tag body)
  | product (cell : Nat) (tag : String) (references : List String) (body : Parser) :
      Part environment body (deferred cell tag references (.ok body))
  | rule {name : String} {body : Parser} (found : environment.rules.lookup name = some body) :
      Part environment body (rule name)

/-- A parser is in another one, or in a rule that can be reached from it. -/
def Occurs (environment : Environment) : Parser → Parser → Prop :=
  Relation.ReflTransGen (Part environment)

/-- No function of the position occurs in a parser: its primitives are those of the library. -/
def IsPlain (environment : Environment) (parser : Parser) : Prop :=
  ∀ answer, ¬ Occurs environment (primitive answer) parser

mutual

/-- No node of a term is a function of the position; references are not followed. -/
def isPlainTerm : Parser → Bool
  | literal _ _ | pattern _ _ | endOfInput | rule _ => true
  | primitive _ => false
  | anyOf alternatives => arePlainTerms alternatives
  | optional body | many body | transform _ body | traced _ body | observed _ body =>
      isPlainTerm body
  | sequence steps => arePlainTerms steps
  | deferred _ _ _ product => isPlainProduct product

/-- No node of some terms is a function of the position. -/
def arePlainTerms : List Parser → Bool
  | [] => true
  | parser :: parsers => isPlainTerm parser && arePlainTerms parsers

/-- No node of what a construction yields is a function of the position. -/
def isPlainProduct : Except Fault Parser → Bool
  | .error _ => true
  | .ok body => isPlainTerm body

end

/-- The label under which a primitive, or a choice without alternatives, reports a failure. -/
def label? : Parser → Option String
  | literal text _ => some text
  | pattern _ label => some label
  | endOfInput => some endOfInputLabel
  | anyOf [] => some noAlternativeLabel
  | _ => none

/--
A failure was met by a primitive in a parser: it has the label of the primitive, which fails in just
this way at the position of the failure.
-/
structure IsOrigin (environment : Environment) (parser reader : Parser) (failure : Failure) :
    Prop where
  occurs : Occurs environment reader parser
  label_eq : reader.label? = some failure.expected
  fails (session : Session) :
    runWithin environment 1 reader failure.cursor session = (.ok (.failed failure), session)

variable {environment : Environment} {part parser : Parser}

theorem IsPlain.of_part (plain : parser.IsPlain environment)
    (isPart : Part environment part parser) : part.IsPlain environment :=
  fun answer occurs => plain answer (occurs.tail isPart)

theorem IsOrigin.of_part {reader : Parser} {failure : Failure}
    (origin : IsOrigin environment part reader failure) (isPart : Part environment part parser) :
    IsOrigin environment parser reader failure :=
  { origin with occurs := origin.occurs.tail isPart }

theorem isPlainTerm_of_mem {parsers : List Parser} (plain : arePlainTerms parsers = true) :
    ∀ parser ∈ parsers, parser.isPlainTerm = true := by
  induction parsers with
  | nil => exact fun _ mem => absurd mem List.not_mem_nil
  | cons first others induction =>
      simp only [arePlainTerms, Bool.and_eq_true] at plain
      exact List.forall_mem_cons.mpr ⟨plain.1, induction plain.2⟩

theorem Part.isPlainTerm (isPart : Part environment part parser)
    (rules : arePlainTerms (environment.rules.map Prod.snd) = true)
    (plain : parser.isPlainTerm = true) : part.isPlainTerm = true := by
  cases isPart with
  | alternative mem | step mem =>
      simp only [Parser.isPlainTerm] at plain
      exact isPlainTerm_of_mem plain part mem
  | optional | many | transform | traced | observed | product =>
      simpa only [Parser.isPlainTerm, isPlainProduct] using plain
  | rule found =>
      obtain ⟨before, after, rules_eq, -⟩ := List.lookup_eq_some_iff.mp found
      apply isPlainTerm_of_mem rules
      rw [rules_eq]
      simp

theorem Occurs.isPlainTerm (occurs : Occurs environment part parser)
    (rules : arePlainTerms (environment.rules.map Prod.snd) = true)
    (plain : parser.isPlainTerm = true) : part.isPlainTerm = true := by
  induction occurs using Relation.ReflTransGen.head_induction_on with
  | refl => exact plain
  | head isPart _ induction => exact isPart.isPlainTerm rules induction

/-- Terms without functions of the position, over rules without them, are plain. -/
theorem isPlain_of_terms (rules : arePlainTerms (environment.rules.map Prod.snd) = true)
    (plain : parser.isPlainTerm = true) : parser.IsPlain environment := by
  intro answer occurs
  have reached := occurs.isPlainTerm rules plain
  simp [isPlainTerm] at reached

/-! ## Primitives -/

theorem credible_literal (text : String) (nonempty : text ≠ "") (cursor : Cursor)
    (session : Session) :
    Watched.Credible (IsOrigin environment (literal text nonempty)) (literal text nonempty) cursor
      (Action.literal text cursor session).1 := by
  by_cases starts : cursor.startsWith text.toList
  · simp only [Action.literal, starts, if_true]
    exact cursor.precedes_forward _
  · have refused := Bool.eq_false_iff.mpr starts
    simp only [Action.literal, refused]
    refine ⟨.refl cursor, .refl, rfl, fun session => ?_⟩
    exact (settled_literal_failed refused 1 (Nat.le_refl 1) session).1

theorem credible_pattern (described : Pattern) (label : String) (cursor : Cursor)
    (session : Session) :
    Watched.Credible (IsOrigin environment (pattern described label)) (pattern described label)
      cursor (Action.pattern described label cursor session).1 := by
  cases ended : described.matchEnd? cursor.offset cursor.rest with
  | some stop =>
      simp only [Action.pattern, ended]
      exact cursor.precedes_forward _
  | none =>
      simp only [Action.pattern, ended]
      refine ⟨.refl cursor, .refl, rfl, fun session => ?_⟩
      exact (settled_pattern_failed ended 1 (Nat.le_refl 1) session).1

theorem credible_endOfInput (cursor : Cursor) (session : Session) :
    Watched.Credible (IsOrigin environment endOfInput) endOfInput cursor
      (Action.endOfInput cursor session).1 := by
  by_cases atEnd : cursor.isAtEnd
  · simp only [Action.endOfInput, atEnd, if_true]
    exact .refl cursor
  · have inside := Bool.eq_false_iff.mpr atEnd
    simp only [Action.endOfInput, inside]
    refine ⟨.refl cursor, .refl, rfl, fun session => ?_⟩
    exact (settled_endOfInput_failed inside 1 (Nat.le_refl 1) session).1

theorem credible_noAlternative (cursor : Cursor) (session : Session) :
    Watched.Credible (IsOrigin environment (anyOf [])) (anyOf []) cursor
      (Action.anyOf [] cursor session).1 :=
  ⟨.refl cursor, .refl, rfl, fun _ => rfl⟩

/-! ## All parsers -/

theorem accounts_anyOf {origin : Parser → Failure → Prop} {depth : Nat} {alternatives : List Parser}
    (cons : alternatives ≠ [])
    (accounts : ∀ part ∈ alternatives, (watched environment depth part).Accounts origin) :
    Watched.Accounts origin
      ⟨Action.anyOf (alternatives.map (runWithin environment depth)),
        Watched.choice (alternatives.map (watched environment depth))⟩ := by
  have chosen := Watched.accounts_choice (mt List.map_eq_nil_iff.mp cons)
    (List.forall_mem_map.mpr accounts)
  rwa [List.map_map] at chosen

theorem accounts_sequence {origin : Parser → Failure → Prop} {depth : Nat} {steps : List Parser}
    (accounts : ∀ part ∈ steps, (watched environment depth part).Accounts origin) :
    Watched.Accounts origin
      ⟨Action.sequence (steps.map (runWithin environment depth)),
        Watched.steps (steps.map (watched environment depth))⟩ := by
  have joined := Watched.accounts_steps (List.forall_mem_map.mpr accounts)
  rwa [List.map_map] at joined

theorem watched_deferred_ok (environment : Environment) (depth cell : Nat) (tag : String)
    (references : List String) (body : Parser) :
    watched environment (depth + 1) (deferred cell tag references (.ok body)) =
      let change (session : Session) : Session :=
        if session.built.contains cell then session
        else ((session.report (.building tag)).mentionAll references).markBuilt cell
      ⟨fun cursor session => runWithin environment depth body cursor (change session),
        fun cursor session => historyWithin environment depth body cursor (change session)⟩ := by
  have action (cursor : Cursor) (session : Session) :
      Action.deferred cell tag references (.ok (runWithin environment depth body)) cursor session =
        runWithin environment depth body cursor
          (if session.built.contains cell then session
          else ((session.report (.building tag)).mentionAll references).markBuilt cell) := by
    simp only [Action.deferred]
    split <;> rfl
  simp only [watched, runWithin, historyWithin]
  exact congrArg (Watched.mk · _) (funext fun cursor => funext fun session => action cursor session)

/-- The failures of a run were met by primitives, and its answer goes back to them. -/
theorem watched_accounts (plain : parser.IsPlain environment) (depth : Nat) :
    (watched environment depth parser).Accounts (IsOrigin environment parser) := by
  -- The induction is on the depth and not on the term, for a rule is no part of its name.
  induction depth generalizing parser with
  | zero => exact Watched.accounts_fault fun _ _ => ⟨.unbounded, rfl⟩
  | succ depth induction =>
      have body {part : Parser} (isPart : Part environment part parser) :
          (watched environment depth part).Accounts (IsOrigin environment parser) :=
        (induction (plain.of_part isPart)).mono fun _ _ origin => origin.of_part isPart
      cases parser with
      | literal text nonempty => exact Watched.accounts_primitive (credible_literal text nonempty)
      | pattern described label =>
          exact Watched.accounts_primitive (credible_pattern described label)
      | endOfInput => exact Watched.accounts_primitive credible_endOfInput
      | primitive answer => exact absurd .refl (plain answer)
      | anyOf alternatives =>
          cases alternatives with
          | nil => exact Watched.accounts_primitive credible_noAlternative
          | cons first others =>
              exact accounts_anyOf (List.cons_ne_nil _ _) fun _ mem => body (.alternative mem)
      | optional inner => exact (body (.optional inner)).optional
      | many inner => exact (body (.many inner)).many
      | sequence steps => exact accounts_sequence fun _ mem => body (.step mem)
      | transform function inner => exact (body (.transform function inner)).transform function
      | traced name inner =>
          simp only [watched, runWithin, historyWithin]
          cases environment.tracing with
          | true => exact (body (.traced name inner)).traced name
          | false => exact body (.traced name inner)
      | observed tag inner => exact (body (.observed tag inner)).inSession _
      | deferred cell tag references product =>
          cases product with
          | error fault =>
              apply Watched.accounts_fault
              intro cursor session
              simp only [runWithin, Action.deferred]
              split <;> exact ⟨fault, rfl⟩
          | ok inner =>
              rw [watched_deferred_ok]
              exact (body (.product cell tag references inner)).inSession _
      | rule name =>
          simp only [watched, runWithin, historyWithin]
          cases found : environment.rules.lookup name with
          | none => exact Watched.accounts_fault fun _ _ => ⟨_, rfl⟩
          | some inner => exact (body (.rule found)).inRule name

/-- The failure that a settled run ends with is in its history. -/
theorem Settled.failure_mem (plain : parser.IsPlain environment) {depth : Nat} {cursor : Cursor}
    {failure : Failure} {moments : List Moment}
    (settled : Settled environment depth parser cursor (.failed failure) moments) :
    ∃ reader, .failed reader failure ∈ moments := by
  have accounted := (watched_accounts plain depth).answer cursor .fresh
  obtain ⟨ran, told⟩ := settled depth (Nat.le_refl depth) .fresh
  rwa [action_watched, history_watched, ran, told] at accounted

/--
A match of a parser ends in the same text, between the place where the parser was started and the
end.  A failure is one of the moments of the run: there a primitive of the parser, or of a rule that
can be reached from it, or a choice without alternatives failed with this label at this place, which
is not in front of the start.
-/
theorem outcome_provenance {environment : Environment} {parser : Parser}
    (plain : parser.IsPlain environment) {depth : Nat} {cursor : Cursor} {session after : Session}
    {outcome : Outcome}
    (ran : runWithin environment depth parser cursor session = (.ok outcome, after)) :
    match outcome with
    | .matched _ next =>
        next.source = cursor.source ∧ cursor.offset ≤ next.offset ∧
          next.offset ≤ cursor.source.size
    | .failed failure =>
        failure.cursor.source = cursor.source ∧ cursor.offset ≤ failure.offset ∧
          ∃ reader, .failed reader failure ∈ historyWithin environment depth parser cursor session ∧
            IsOrigin environment parser reader failure := by
  have accounts := watched_accounts plain depth
  have answered := accounts.answer cursor session
  simp only [action_watched, history_watched, ran] at answered
  cases outcome with
  | matched value next =>
      have bound := next.offset_le
      rw [answered.source_eq] at bound
      exact ⟨answered.source_eq, answered.offset_le, bound⟩
  | failed failure =>
      obtain ⟨reader, mem⟩ := answered
      obtain ⟨ahead, origin⟩ := accounts.isFrom cursor session _ mem
      exact ⟨ahead.source_eq, ahead.offset_le, reader, mem, origin⟩

/-- The closing mark that an open call lacks was looked for, in a rule, at the end of the text. -/
theorem failure_of_open_call :
    let start := Cursor.start ⟨['f', '('], 2, rfl⟩
    let failure : Failure := ⟨")", start.forward 2⟩
    runWithin Call.environment 20 Call.expression start .fresh = (.ok (.failed failure), .fresh) ∧
      ∃ reader,
        .failed reader failure ∈
            historyWithin Call.environment 20 Call.expression start .fresh ∧
          IsOrigin Call.environment Call.expression reader failure := by
  have plain : Call.expression.IsPlain Call.environment :=
    isPlain_of_terms (by decide) (by decide)
  have ran : runWithin Call.environment 20 Call.expression (Cursor.start ⟨['f', '('], 2, rfl⟩)
      .fresh = (.ok (.failed ⟨")", (Cursor.start ⟨['f', '('], 2, rfl⟩).forward 2⟩), .fresh) := rfl
  obtain ⟨-, -, found⟩ := outcome_provenance plain ran
  exact ⟨ran, found⟩

end Parser
end Descent
