import Descent.RuleSet
import Descent.Proofs.Parser.Bare
import Descent.Proofs.Parser.Mention
import Descent.Proofs.Parser.Occurrence

/-!
# Drafts of parsers

A draft says how a parser is built from literals, patterns, combinators and references to the rules
of the grammar in the making.  Parts are built at once, from left to right and inside out; only the
body of a deferred parser is built later.  A construction takes the references of the draft, up to a
part that cannot be built, and numbers its deferred parsers.  Built from the same draft but for its
traces, parsers are the same when bare.
-/

namespace Descent

namespace Session

/-- The session after a construction: it took some references and numbered some cells. -/
def taking (session : Session) (names : List String) (cells : Nat) : Session :=
  { session with referenced := addNames session.referenced names, cells := cells }

theorem taking_taking (session : Session) (first second : List String) (cells further : Nat) :
    (session.taking first cells).taking second further =
      session.taking (first ++ second) further := by
  simp only [taking, addNames_append]

theorem mention_eq_taking (session : Session) (name : String) :
    session.mention name = session.taking [name] session.cells := by
  simp only [mention, taking, addNames_cons]
  split <;> rfl

end Session

/-! ## Drafts -/

/-- A fault for which a primitive is not built. -/
def Fault.IsOfConstruction (fault : Fault) : Prop :=
  fault = .emptyLiteral ∨ fault = .malformedPattern

/-- A function of the position that does not go back. -/
structure Primitive where
  answer : Cursor → Except Fault Outcome
  forward : (Action.ofFunction answer).GoesForward

/-- The draft of a parser. -/
inductive Draft where
  | literal (text : String)
  | pattern (text label : String)
  | endOfInput
  | primitive (function : Primitive)
  | anyOf (alternatives : List Draft)
  | optional (body : Draft)
  | many (body : Draft)
  | sequence (steps : List Draft)
  | transform (function : Value → Value) (body : Draft)
  | traced (name : String) (body : Draft)
  | observed (tag : String) (body : Draft)
  | deferred (tag : String) (body : Draft)
  | reference (name : String)

namespace Draft

/-- Induction with a hypothesis for each alternative and each step. -/
@[induction_eliminator]
theorem induction {motive : Draft → Prop}
    (literal : ∀ text, motive (.literal text))
    (pattern : ∀ text label, motive (.pattern text label))
    (endOfInput : motive .endOfInput)
    (primitive : ∀ function, motive (.primitive function))
    (anyOf : ∀ alternatives, (∀ draft ∈ alternatives, motive draft) → motive (.anyOf alternatives))
    (optional : ∀ body, motive body → motive (.optional body))
    (many : ∀ body, motive body → motive (.many body))
    (sequence : ∀ steps, (∀ draft ∈ steps, motive draft) → motive (.sequence steps))
    (transform : ∀ function body, motive body → motive (.transform function body))
    (traced : ∀ name body, motive body → motive (.traced name body))
    (observed : ∀ tag body, motive body → motive (.observed tag body))
    (deferred : ∀ tag body, motive body → motive (.deferred tag body))
    (reference : ∀ name, motive (.reference name)) (draft : Draft) : motive draft :=
  @Draft.rec motive (fun drafts => ∀ draft ∈ drafts, motive draft) literal pattern endOfInput
    primitive anyOf optional many sequence transform traced observed deferred reference
    (fun _ mem => absurd mem List.not_mem_nil)
    (fun _ _ head tail => List.forall_mem_cons.mpr ⟨head, tail⟩) draft

mutual

/-- The construction of a draft. -/
def construct (set : RuleSet) : Draft → Builder Parser
  | literal text => Builder.literal text
  | pattern text label => Builder.pattern text label
  | endOfInput => return .endOfInput
  | primitive function => return .primitive function.answer
  | anyOf alternatives => return .anyOf (← constructAll set alternatives)
  | optional body => return .optional (← construct set body)
  | many body => return .many (← construct set body)
  | sequence steps => return .sequence (← constructAll set steps)
  | transform function body => return .transform function (← construct set body)
  | traced name body => return .traced name (← construct set body)
  | observed tag body => return .observed tag (← construct set body)
  | deferred tag body => Builder.deferred tag (construct set body)
  | reference name => set.reference name

/-- The construction of some drafts, the first one first. -/
def constructAll (set : RuleSet) : List Draft → Builder (List Parser)
  | [] => return []
  | draft :: drafts => return (← construct set draft) :: (← constructAll set drafts)

end

mutual

/-- The draft without its traces. -/
def untraced : Draft → Draft
  | literal text => literal text
  | pattern text label => pattern text label
  | endOfInput => endOfInput
  | primitive function => primitive function
  | anyOf alternatives => anyOf (untracedAll alternatives)
  | optional body => optional (untraced body)
  | many body => many (untraced body)
  | sequence steps => sequence (untracedAll steps)
  | transform function body => transform function (untraced body)
  | traced _ body => untraced body
  | observed tag body => observed tag (untraced body)
  | deferred tag body => deferred tag (untraced body)
  | reference name => reference name

/-- Some drafts without their traces. -/
def untracedAll : List Draft → List Draft
  | [] => []
  | draft :: drafts => untraced draft :: untracedAll drafts

end

mutual

/-- The fault that the construction ends with. -/
def fault? : Draft → Option Fault
  | literal text => if text = "" then some .emptyLiteral else none
  | pattern text _ => if (Pattern.ofText? text).isSome then none else some .malformedPattern
  | endOfInput | primitive _ | deferred _ _ | reference _ => none
  | anyOf drafts | sequence drafts => faultAll? drafts
  | optional body | many body | transform _ body | traced _ body | observed _ body => fault? body

/-- The fault that the construction of some drafts ends with. -/
def faultAll? : List Draft → Option Fault
  | [] => none
  | draft :: drafts => (fault? draft).or (faultAll? drafts)

end

mutual

/-- The references that the construction takes, up to the part that cannot be built. -/
def mentions : Draft → List String
  | literal _ | pattern _ _ | endOfInput | primitive _ | deferred _ _ => []
  | anyOf drafts | sequence drafts => mentionsAll drafts
  | optional body | many body | transform _ body | traced _ body | observed _ body =>
      mentions body
  | reference name => [name]

/-- The references that the construction of some drafts takes. -/
def mentionsAll : List Draft → List String
  | [] => []
  | draft :: drafts =>
      mentions draft ++ if (fault? draft).isSome then [] else mentionsAll drafts

end

mutual

/--
All references are taken when the parser is built, none in a deferred body, and they are the only
parts that may lack a rule.
-/
def IsDirect : Draft → Prop
  | literal _ | pattern _ _ | endOfInput | reference _ => True
  | primitive function => ∀ cursor cause, function.answer cursor ≠ .error (.undefinedRule cause)
  | anyOf drafts | sequence drafts => AreDirect drafts
  | optional body | many body | transform _ body | traced _ body | observed _ body =>
      IsDirect body
  | deferred _ body => mentions body = [] ∧ IsDirect body

/-- Some drafts are direct. -/
def AreDirect : List Draft → Prop
  | [] => True
  | draft :: drafts => IsDirect draft ∧ AreDirect drafts

end

end Draft

/-! ## Constructions -/

/-- Cells that are numbered from two starts get the same numbers. -/
def Peers (number : Nat → Nat) (cells otherCells : Nat) : Prop :=
  ∀ count, number (cells + count) = number (otherCells + count)

/-- The reference to a rule that a grammar hands out. -/
def RuleSet.pointer (set : RuleSet) (name : String) : Parser :=
  if set.tracing then .traced (set.name ++ "." ++ name) (.rule name) else .rule name

theorem RuleSet.bare_pointer (set : RuleSet) (name : String) (number : Nat → Nat) :
    (set.pointer name).bare number = .rule name := by
  rw [pointer]
  split <;> rfl

namespace Builder

variable {α β : Type} {number : Nat → Nat} {related : α → α → Prop} {target : β → β → Prop}
  {fault? : Option Fault} {names : List String} {first second : Builder α}

theorem build_bind (builder : Builder α) (next : α → Builder β) (session : Session) :
    (builder >>= next).build session =
      match builder.build session with
      | (.error fault, after) => (.error fault, after)
      | (.ok value, after) => (next value).build after := by
  change (match builder session with | (result, after) => ExceptT.bindCont next result after) = _
  simp only [build, ExceptT.run]
  rcases builder session with ⟨fault | value, after⟩ <;> rfl

/--
The ends of two constructions: both yield the expected fault, or related results.  Both took the
expected references, and their next cells are numbered alike.
-/
inductive Agreed (number : Nat → Nat) (related : α → α → Prop) (fault? : Option Fault)
    (names : List String) (session other : Session) :
    Except Fault α × Session → Except Fault α × Session → Prop where
  | fault {fault : Fault} (fails : fault? = some fault) {cells otherCells : Nat}
      (peers : Peers number cells otherCells) :
      Agreed number related fault? names session other
        (.error fault, session.taking names cells) (.error fault, other.taking names otherCells)
  | built (builds : fault? = none) {value otherValue : α} (same : related value otherValue)
      {cells otherCells : Nat} (peers : Peers number cells otherCells) :
      Agreed number related fault? names session other
        (.ok value, session.taking names cells) (.ok otherValue, other.taking names otherCells)

/-- Two constructions agree in all sessions whose next cells are numbered alike. -/
def Agrees (number : Nat → Nat) (related : α → α → Prop) (fault? : Option Fault)
    (names : List String) (first second : Builder α) : Prop :=
  ∀ session other, Peers number session.cells other.cells →
    Agreed number related fault? names session other (first.build session) (second.build other)

theorem Agreed.after_eq {session other : Session} {ran mirror : Except Fault α × Session}
    (agreed : Agreed number related fault? names session other ran mirror) :
    ran.2 = session.taking names ran.2.cells := by
  cases agreed with
  | fault | built => rfl

theorem Agreed.error_iff {session other : Session} {ran mirror : Except Fault α × Session}
    (agreed : Agreed number related fault? names session other ran mirror) {fault : Fault} :
    ran.1 = .error fault ↔ fault? = some fault := by
  cases agreed with
  | fault fails => simp [fails]
  | built builds => simp [builds]

theorem Agreed.answer_eq {session other : Session} {ran mirror : Except Fault α × Session}
    (agreed : Agreed number related fault? names session other ran mirror) {form : α → β}
    (forms : ∀ value other, related value other → form value = form other) :
    mirror.1.map form = ran.1.map form := by
  cases agreed with
  | fault => rfl
  | built builds same => exact congrArg Except.ok (forms _ _ same).symm

theorem Agreed.peers {session other : Session} {ran mirror : Except Fault α × Session}
    (agreed : Agreed number related fault? names session other ran mirror) :
    Peers number ran.2.cells mirror.2.cells := by
  cases agreed with
  | fault _ peers | built _ _ peers => exact peers

theorem Agreed.swap {session other : Session} {ran mirror : Except Fault α × Session}
    (agreed : Agreed number related fault? names session other ran mirror) {back : α → α → Prop}
    (swaps : ∀ value other, related value other → back other value) :
    Agreed number back fault? names other session mirror ran := by
  cases agreed with
  | fault fails peers => exact .fault fails fun count => (peers count).symm
  | built builds same peers => exact .built builds (swaps _ _ same) fun count => (peers count).symm

theorem agrees_pure {value other : α} (same : related value other) :
    Agrees number related none [] (pure value) (pure other) :=
  fun _ _ peers => .built rfl same peers

theorem agrees_error (fault : Fault) :
    Agrees number related (some fault) [] (ofExcept (.error fault)) (ofExcept (.error fault)) :=
  fun _ _ peers => .fault rfl peers

theorem Agrees.map (agrees : Agrees number related fault? names first second) {f g : α → β}
    (maps : ∀ value other, related value other → target (f value) (g other)) :
    Agrees number target fault? names (first >>= fun value => pure (f value))
      (second >>= fun value => pure (g value)) := by
  intro session other peers
  have ends := agrees session other peers
  rw [build_bind, build_bind]
  generalize first.build session = ran, second.build other = mirror at ends ⊢
  cases ends with
  | fault fails peers => exact .fault fails peers
  | built builds same peers => exact .built builds (maps _ _ same) peers

theorem Agrees.map_left (agrees : Agrees number related fault? names first second) {f : α → α}
    (maps : ∀ value other, related value other → related (f value) other) :
    Agrees number related fault? names (first >>= fun value => pure (f value)) second := by
  intro session other peers
  have ends := agrees session other peers
  rw [build_bind]
  generalize first.build session = ran, second.build other = mirror at ends ⊢
  cases ends with
  | fault fails peers => exact .fault fails peers
  | built builds same peers => exact .built builds (maps _ _ same) peers

theorem Agrees.cons {listed : List α → List α → Prop} {faults? : Option Fault}
    {others : List String} {firsts seconds : Builder (List α)}
    (agrees : Agrees number related fault? names first second)
    (agreesAll : Agrees number listed faults? others firsts seconds)
    (joins : ∀ value other values others, related value other → listed values others →
      listed (value :: values) (other :: others)) :
    Agrees number listed (fault?.or faults?) (names ++ if fault?.isSome then [] else others)
      (do return (← first) :: (← firsts)) (do return (← second) :: (← seconds)) := by
  intro session other peers
  have ends := agrees session other peers
  rw [build_bind, build_bind]
  generalize first.build session = ran, second.build other = mirror at ends ⊢
  cases ends with
  | fault fails peers =>
      simp only [fails, Option.isSome_some, if_true, List.append_nil]
      exact .fault rfl peers
  | @built builds value otherValue same cells otherCells peers =>
      have endsAll := agreesAll (session.taking names cells) (other.taking names otherCells) peers
      simp only [build_bind, builds, Option.isSome_none, Option.none_or]
      generalize firsts.build _ = ran, seconds.build _ = mirror at endsAll ⊢
      cases endsAll with
      | fault fails peers =>
          rw [Session.taking_taking, Session.taking_taking]
          exact .fault fails peers
      | built builds sameAll peers =>
          rw [Session.taking_taking, Session.taking_taking]
          exact .built builds (joins _ _ _ _ same sameAll) peers

end Builder

namespace Draft

open Builder

variable {number : Nat → Nat}

/-- Two parsers are the same when bare. -/
def SameBare (number : Nat → Nat) (parser other : Parser) : Prop :=
  parser.bare number = other.bare number

/-- Two lists of parsers are the same when bare. -/
def SameBares (number : Nat → Nat) (parsers others : List Parser) : Prop :=
  Parser.bareAll number parsers = Parser.bareAll number others

theorem agrees_reference (set other : RuleSet) (name : String) :
    Agrees number (SameBare number) none [name] (set.reference name) (other.reference name) := by
  have same : SameBare number (set.pointer name) (other.pointer name) :=
    (set.bare_pointer name number).trans (other.bare_pointer name number).symm
  intro session otherSession peers
  change Agreed number (SameBare number) none [name] session otherSession
    (.ok (set.pointer name), session.mention name)
    (.ok (other.pointer name), otherSession.mention name)
  rw [Session.mention_eq_taking, Session.mention_eq_taking]
  exact .built rfl same peers

/-- The construction of a deferred parser, its body being built apart. -/
theorem build_deferred (tag : String) (body : Builder Parser) (session : Session) :
    (Builder.deferred tag body).build session =
      let built := body.build { Session.fresh with cells := session.cells + 1 }
      (.ok (.deferred session.cells tag built.2.referenced built.1),
        session.taking [] built.2.cells) := rfl

theorem agrees_deferred (tag : String) {fault? : Option Fault} {names : List String}
    {first second : Builder Parser}
    (agrees : Agrees number (SameBare number) fault? names first second) :
    Agrees number (SameBare number) none [] (Builder.deferred tag first)
      (Builder.deferred tag second) := by
  intro session other peers
  have inside : Peers number (session.cells + 1) (other.cells + 1) := fun count => by
    rw [Nat.add_assoc, Nat.add_assoc]
    exact peers (1 + count)
  have ends := agrees { Session.fresh with cells := session.cells + 1 }
    { Session.fresh with cells := other.cells + 1 } inside
  rw [build_deferred, build_deferred]
  generalize first.build _ = ran, second.build _ = mirror at ends ⊢
  have cells : number session.cells = number other.cells := peers 0
  cases ends with
  | @fault fault fails _ _ peers =>
      refine .built rfl ?_ peers
      simp only [SameBare, Parser.bare, Parser.bareProduct, cells]
      rfl
  | @built builds body otherBody same _ _ peers =>
      refine .built rfl ?_ peers
      simp only [SameBare, Parser.bare, Parser.bareProduct, cells] at same ⊢
      rw [same]
      rfl

theorem agrees_literal (text : String) :
    Agrees number (SameBare number) (fault? (.literal text)) [] (Builder.literal text)
      (Builder.literal text) := by
  simp only [Builder.literal, Parser.literal?, fault?]
  split
  · exact agrees_error _
  · exact agrees_pure rfl

theorem agrees_pattern (text label : String) :
    Agrees number (SameBare number) (fault? (.pattern text label)) []
      (Builder.pattern text label) (Builder.pattern text label) := by
  simp only [Builder.pattern, fault?]
  cases Pattern.ofText? text with
  | none => exact agrees_error _
  | some described => exact agrees_pure rfl

theorem agrees_constructAll (set other : RuleSet) {drafts : List Draft}
    (each : ∀ draft ∈ drafts, Agrees number (SameBare number) draft.fault? draft.mentions
      (draft.construct set) (draft.untraced.construct other)) :
    Agrees number (SameBares number) (faultAll? drafts) (mentionsAll drafts)
      (constructAll set drafts) (constructAll other (untracedAll drafts)) := by
  induction drafts with
  | nil => exact agrees_pure rfl
  | cons draft drafts induction =>
      obtain ⟨head, tail⟩ := List.forall_mem_cons.mp each
      refine head.cons (induction tail) fun parser otherParser parsers others same sameAll => ?_
      simp only [SameBares, SameBare, Parser.bareAll] at same sameAll ⊢
      rw [same, sameAll]

/-- Constructions of a draft and of the draft without its traces agree. -/
theorem agrees_construct (set other : RuleSet) (draft : Draft) :
    Agrees number (SameBare number) draft.fault? draft.mentions (draft.construct set)
      (draft.untraced.construct other) := by
  induction draft with
  | literal text => exact agrees_literal text
  | pattern text label => exact agrees_pattern text label
  | endOfInput => exact agrees_pure rfl
  | primitive function => exact agrees_pure rfl
  | anyOf alternatives each =>
      refine (agrees_constructAll set other each).map fun parsers others same => ?_
      exact congrArg Parser.anyOf same
  | optional body agrees => exact agrees.map fun _ _ same => congrArg Parser.optional same
  | many body agrees => exact agrees.map fun _ _ same => congrArg Parser.many same
  | sequence steps each =>
      refine (agrees_constructAll set other each).map fun parsers others same => ?_
      exact congrArg Parser.sequence same
  | transform function body agrees =>
      exact agrees.map fun _ _ same => congrArg (Parser.transform function) same
  | traced name body agrees => exact agrees.map_left fun _ _ same => same
  | observed tag body agrees =>
      exact agrees.map fun _ _ same => congrArg (Parser.observed tag) same
  | deferred tag body agrees => exact agrees_deferred tag agrees
  | reference name => exact agrees_reference set other name

end Draft

/-! ## Nodes -/

/-- What a node of a parser is like that is built from a draft when some references are taken. -/
def IsBuiltNode (direct : Prop) (known : List String) : Parser → Prop
  | .primitive answer =>
      (Action.ofFunction answer).GoesForward ∧
        (direct → ∀ cursor cause, answer cursor ≠ .error (.undefinedRule cause))
  | .rule name => direct → name ∈ known
  | .deferred _ _ references product =>
      (direct → references = []) ∧ ∀ fault, product = .error fault → fault.IsOfConstruction
  | _ => True

/-- A construction ends with a fault of its own, or it yields such nodes. -/
def IsBuilt {α : Type} (holds : α → Parser → Prop) (direct : Prop) :
    Except Fault α × Session → Prop
  | (.error fault, _) => fault.IsOfConstruction
  | (.ok value, after) =>
      ∀ node, holds value node → IsBuiltNode direct after.referenced node

/-- A node occurs in a parser of a list. -/
def OccursIn (parsers : List Parser) (node : Parser) : Prop :=
  ∃ parser ∈ parsers, Parser.Occurs .empty node parser

/-- A node occurs in a parser. -/
def OccursInOne (parser node : Parser) : Prop := Parser.Occurs .empty node parser

variable {direct directly : Prop} {known more : List String} {node : Parser}

theorem IsBuiltNode.mono (built : IsBuiltNode direct known node) (sharper : directly → direct)
    (subset : directly → known ⊆ more) : IsBuiltNode directly more node := by
  cases node with
  | primitive => exact ⟨built.1, fun holds => built.2 (sharper holds)⟩
  | rule => exact fun holds => subset holds (built (sharper holds))
  | deferred => exact ⟨fun holds => built.1 (sharper holds), built.2⟩
  | _ => trivial

theorem RuleSet.occurs_pointer (set : RuleSet) {environment : Environment} {name : String}
    (occurs : Parser.Occurs environment node (set.pointer name)) :
    node = set.pointer name ∨ Parser.Occurs environment node (.rule name) := by
  cases traced : set.tracing with
  | true =>
      simp only [pointer, traced, if_true] at occurs ⊢
      exact Parser.occurs_traced.mp occurs
  | false =>
      simp only [pointer, traced] at occurs
      exact .inr occurs

theorem RuleSet.isBuiltNode_of_occurs_pointer (set : RuleSet) {name : String}
    (mem : direct → name ∈ known) (occurs : OccursInOne (set.pointer name) node) :
    IsBuiltNode direct known node := by
  rcases set.occurs_pointer occurs with rfl | occurs
  · rw [pointer]
    split
    · trivial
    · exact mem
  · rcases Parser.occurs_rule.mp occurs with rfl | ⟨body, found, -⟩
    · exact mem
    · cases found

namespace Draft

open Builder

theorem isBuilt_map {α : Type} {holds : α → Parser → Prop} {builder : Builder α}
    {session : Session} (built : IsBuilt holds direct (builder.build session)) {f : α → Parser}
    (nodes : ∀ value node, OccursInOne (f value) node → node = f value ∨ holds value node)
    (top : ∀ value known, IsBuiltNode direct known (f value)) :
    IsBuilt OccursInOne direct ((builder >>= fun value => pure (f value)).build session) := by
  rw [build_bind]
  generalize builder.build session = ran at built ⊢
  rcases ran with ⟨fault | value, after⟩
  · exact built
  · intro node occurs
    rcases nodes value node occurs with rfl | inside
    · exact top value _
    · exact built node inside

theorem after_construct (set : RuleSet) (draft : Draft) (session : Session) :
    ((draft.construct set).build session).2 =
      session.taking draft.mentions ((draft.construct set).build session).2.cells := by
  have agrees : Agrees id (SameBare id) draft.fault? draft.mentions (draft.construct set)
      (draft.untraced.construct set) := agrees_construct set set draft
  exact (agrees session session fun _ => rfl).after_eq

theorem error_construct_iff {set : RuleSet} {draft : Draft} {session : Session} {fault : Fault} :
    ((draft.construct set).build session).1 = .error fault ↔ draft.fault? = some fault := by
  have agrees : Agrees id (SameBare id) draft.fault? draft.mentions (draft.construct set)
      (draft.untraced.construct set) := agrees_construct set set draft
  exact (agrees session session fun _ => rfl).error_iff

/--
Constructions of drafts that are the same but for their traces agree with the construction without
traces.
-/
theorem agreed_of_untraced_eq {first second : Draft} (same : first.untraced = second.untraced)
    (set other : RuleSet) {session otherSession : Session}
    (peers : Peers number session.cells otherSession.cells) :
    Agreed number (SameBare number) first.fault? first.mentions session otherSession
        ((first.construct set).build session)
        ((second.untraced.construct other).build otherSession) ∧
      Agreed number (SameBare number) second.fault? second.mentions otherSession otherSession
        ((second.construct other).build otherSession)
        ((second.untraced.construct other).build otherSession) := by
  refine ⟨?_, agrees_construct other other second otherSession otherSession fun _ => rfl⟩
  rw [← same]
  exact agrees_construct set other first session otherSession peers

/-- Built from the same draft but for its traces, parsers are the same when bare. -/
theorem map_bare_construct_eq {first second : Draft} (same : first.untraced = second.untraced)
    (set other : RuleSet) {session otherSession : Session}
    (peers : Peers number session.cells otherSession.cells) :
    ((second.construct other).build otherSession).1.map (Parser.bare number) =
      ((first.construct set).build session).1.map (Parser.bare number) := by
  obtain ⟨endsFirst, endsSecond⟩ := agreed_of_untraced_eq same set other peers
  have forms (parser other : Parser) (same : SameBare number parser other) :
      parser.bare number = other.bare number := same
  rw [← endsFirst.answer_eq forms, endsSecond.answer_eq forms]

/-- The same draft but for its traces takes the same references and numbers as many cells. -/
theorem after_construct_eq {first second : Draft} (same : first.untraced = second.untraced)
    (set other : RuleSet) {session otherSession : Session}
    (cells_eq : otherSession.cells = session.cells) :
    ((second.construct other).build otherSession).2 =
      otherSession.taking first.mentions ((first.construct set).build session).2.cells := by
  have peers : Peers id session.cells otherSession.cells := fun count => by rw [cells_eq]
  obtain ⟨endsFirst, endsSecond⟩ := agreed_of_untraced_eq same set other peers
  have cellsFirst := endsFirst.peers 0
  have cellsSecond := endsSecond.peers 0
  have bareFirst := (endsFirst.swap fun _ _ same => same.symm).after_eq
  have bareSecond := (endsSecond.swap fun _ _ same => same.symm).after_eq
  simp only [id, Nat.add_zero] at cellsFirst cellsSecond
  rw [endsSecond.after_eq, cellsSecond, ← bareSecond, bareFirst, cellsFirst]

theorem referenced_subset_constructAll (set : RuleSet) (drafts : List Draft) (session : Session) :
    session.referenced ⊆ ((constructAll set drafts).build session).2.referenced := by
  have agrees : Agrees id (SameBares id) (faultAll? drafts) (mentionsAll drafts)
      (constructAll set drafts) (constructAll set (untracedAll drafts)) :=
    agrees_constructAll set set fun draft _ => agrees_construct set set draft
  rw [(agrees session session fun _ => rfl).after_eq]
  exact fun name mem => mem_addNames.mpr (.inl mem)

theorem isBuilt_constructAll (set : RuleSet) {drafts : List Draft}
    (each : ∀ draft ∈ drafts, ∀ session,
      IsBuilt OccursInOne draft.IsDirect ((draft.construct set).build session))
    (session : Session) :
    IsBuilt OccursIn (AreDirect drafts) ((constructAll set drafts).build session) := by
  induction drafts generalizing session with
  | nil =>
      rintro node ⟨parser, mem, -⟩
      exact absurd mem List.not_mem_nil
  | cons draft drafts induction =>
      obtain ⟨head, tail⟩ := List.forall_mem_cons.mp each
      have builtHead := head session
      simp only [constructAll, build_bind]
      generalize (draft.construct set).build session = ran at builtHead ⊢
      rcases ran with ⟨fault | parser, after⟩
      · exact builtHead
      · have builtTail := induction tail after
        have subset := referenced_subset_constructAll set drafts after
        dsimp only
        generalize (constructAll set drafts).build after = ran at builtTail subset ⊢
        rcases ran with ⟨fault | parsers, last⟩
        · exact builtTail
        · rintro node ⟨other, mem, occurs⟩
          rcases List.mem_cons.mp mem with rfl | mem
          · exact (builtHead node occurs).mono And.left fun _ => subset
          · exact (builtTail node ⟨other, mem, occurs⟩).mono And.right fun _ _ => id

theorem isBuilt_deferred {draft : Draft} (tag : String) {set : RuleSet}
    (built : ∀ session, IsBuilt OccursInOne draft.IsDirect ((draft.construct set).build session))
    (session : Session) :
    IsBuilt OccursInOne (draft.mentions = [] ∧ draft.IsDirect)
      ((Builder.deferred tag (draft.construct set)).build session) := by
  let start : Session := { Session.fresh with cells := session.cells + 1 }
  have inside := built start
  have none_taken (direct : draft.mentions = []) :
      ((draft.construct set).build start).2.referenced = [] := by
    rw [after_construct, direct]
    rfl
  rw [build_deferred]
  change IsBuilt OccursInOne _
    (.ok (.deferred session.cells tag ((draft.construct set).build start).2.referenced
        ((draft.construct set).build start).1),
      session.taking [] ((draft.construct set).build start).2.cells)
  generalize (draft.construct set).build start = ran at inside none_taken ⊢
  rcases ran with ⟨fault | parser, inner⟩
  · intro node occurs
    rw [Parser.occurs_deferred_error.mp occurs]
    refine ⟨fun direct => none_taken direct.1, fun other raised => ?_⟩
    cases raised
    exact inside
  · intro node occurs
    rcases Parser.occurs_deferred_ok.mp occurs with rfl | occurs
    · refine ⟨fun direct => none_taken direct.1, fun other raised => ?_⟩
      cases raised
    · refine (inside node occurs).mono And.right fun direct name mem => ?_
      rw [none_taken direct.1] at mem
      exact absurd mem List.not_mem_nil

theorem isBuilt_construct (set : RuleSet) (draft : Draft) (session : Session) :
    IsBuilt OccursInOne draft.IsDirect ((draft.construct set).build session) := by
  induction draft generalizing session with
  | literal text =>
      simp only [construct, Builder.literal, Parser.literal?]
      split
      · exact .inl rfl
      · intro node occurs
        rw [Parser.occurs_literal.mp occurs]
        trivial
  | pattern text label =>
      simp only [construct, Builder.pattern]
      cases Pattern.ofText? text with
      | none => exact .inr rfl
      | some described =>
          intro node occurs
          rw [Parser.occurs_pattern.mp occurs]
          trivial
  | endOfInput =>
      intro node occurs
      rw [Parser.occurs_endOfInput.mp occurs]
      trivial
  | primitive function =>
      intro node occurs
      rw [Parser.occurs_primitive.mp occurs]
      exact ⟨function.forward, id⟩
  | anyOf alternatives each =>
      exact isBuilt_map (isBuilt_constructAll set each session) (fun _ _ => Parser.occurs_anyOf.mp)
        fun _ _ => trivial
  | optional body built =>
      exact isBuilt_map (built session) (fun _ _ => Parser.occurs_optional.mp) fun _ _ => trivial
  | many body built =>
      exact isBuilt_map (built session) (fun _ _ => Parser.occurs_many.mp) fun _ _ => trivial
  | sequence steps each =>
      exact isBuilt_map (isBuilt_constructAll set each session)
        (fun _ _ => Parser.occurs_sequence.mp) fun _ _ => trivial
  | transform function body built =>
      exact isBuilt_map (built session) (fun _ _ => Parser.occurs_transform.mp) fun _ _ => trivial
  | traced name body built =>
      exact isBuilt_map (built session) (fun _ _ => Parser.occurs_traced.mp) fun _ _ => trivial
  | observed tag body built =>
      exact isBuilt_map (built session) (fun _ _ => Parser.occurs_observed.mp) fun _ _ => trivial
  | deferred tag body built => exact isBuilt_deferred tag built session
  | reference name =>
      intro node occurs
      have mem : name ∈ ((set.reference name).build session).2.referenced := by
        have after_eq := after_construct set (.reference name) session
        simp only [construct] at after_eq
        rw [after_eq]
        exact mem_addNames.mpr (.inr (List.mem_singleton_self name))
      exact set.isBuiltNode_of_occurs_pointer (fun _ => mem) occurs

end Draft

end Descent
