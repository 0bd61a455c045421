import Descent.Parser.Builder
import Descent.Parser.Run

/-!
# Rule sets

A rule set is a grammar under a name: parsers under names, in order of definition.  A reference to a
rule is looked up when it is run, so rules may be defined in any order and may refer to each other.
A rule is defined once.
-/

namespace Descent

/-- A grammar of named rules. -/
structure RuleSet where
  name : String
  /-- References are traced. -/
  tracing : Bool
  /-- Rules in order of definition. -/
  rules : List (String × Parser)

namespace RuleSet

/-- A grammar without rules. -/
def empty (name : String) (tracing : Bool) : RuleSet := ⟨name, tracing, []⟩

/-- Names of the rules in order of definition. -/
def names (set : RuleSet) : List String := set.rules.map Prod.fst

/-- A rule of the name is defined. -/
def contains (set : RuleSet) (name : String) : Bool := set.names.contains name

/-- Names in order of their characters. -/
def sortNames (names : List String) : List String :=
  names.mergeSort fun left right => decide (left ≤ right)

/-- The grammar as a reader of a session sees it. -/
def display (set : RuleSet) : String :=
  "RuleSet(" ++ quotedText set.name ++ ", rules=[" ++
    ", ".intercalate ((sortNames set.names).map quotedText) ++ "])"

/-- Mentioned rules that are not defined, in order of their characters. -/
def missing (set : RuleSet) (referenced : List String) : List String :=
  sortNames (referenced.filter fun name => !set.contains name)

/-- Every mentioned rule is defined. -/
def checkComplete (set : RuleSet) (referenced : List String) : Except Fault Unit :=
  match set.missing referenced with
  | [] => .ok ()
  | name :: names => .error (.undefinedRule (.incomplete set.name (name :: names)))

/-- A reference to a rule. -/
def reference (set : RuleSet) (name : String) : Builder Parser :=
  Builder.reference set.name set.tracing name

/-- The grammar with one more rule; a rule that is defined already stays as it is. -/
def define (set : RuleSet) (name : String) (parser : Parser) : Except Fault RuleSet :=
  if set.contains name then .error (.ruleRedefined name set.name)
  else .ok { set with rules := set.rules ++ [(name, parser)] }

/-- What a run of a parser over the grammar looks up. -/
def environment (set : RuleSet) (level : Level) : Environment :=
  ⟨set.name, set.rules, level.passes .debug⟩

theorem mem_of_lookup {rules : List (String × Parser)} {name : String} {parser : Parser}
    (found : rules.lookup name = some parser) : (name, parser) ∈ rules := by
  obtain ⟨before, behind, rfl, -⟩ := List.lookup_eq_some_iff.mp found
  exact List.mem_append_right before List.mem_cons_self

/-- Rules are looked up with success under their names only. -/
theorem lookup_eq_none_iff {rules : List (String × Parser)} {name : String} :
    rules.lookup name = none ↔ name ∉ rules.map Prod.fst := by
  simp only [List.lookup_eq_none_iff, bne_iff_ne, List.mem_map, not_exists, not_and]
  exact forall₂_congr fun _ _ => ⟨Ne.symm, Ne.symm⟩

theorem contains_eq_false_iff {set : RuleSet} {name : String} :
    set.contains name = false ↔ set.rules.lookup name = none := by
  rw [lookup_eq_none_iff, contains, names, List.contains_eq_mem, decide_eq_false_iff_not]

theorem exists_lookup_of_contains {set : RuleSet} {name : String}
    (known : set.contains name = true) : ∃ body, set.rules.lookup name = some body := by
  rw [← Option.ne_none_iff_exists', Ne, ← contains_eq_false_iff, known]
  exact Bool.false_ne_true.symm

end RuleSet

/-- A grammar in the making: its rules, the references kept under names, and the session. -/
structure Workshop where
  set : RuleSet
  kept : List (String × Parser)
  session : Session

namespace Workshop

/-- One step of work on a grammar. -/
inductive Step where
  /-- Build a parser, add it as a rule and keep a reference to the rule. -/
  | define (name : String) (body : RuleSet → Builder Parser)
  /-- Take a reference to a rule and keep it. -/
  | reference (name : String)
  /-- Run a kept reference at an offset of a text. -/
  | run (name : String) (source : Source) (offset : Int)
  | names
  | size
  | display
  | contains (name : String)
  | checkComplete

/-- The answer to a step. -/
inductive Answer where
  | done
  | outcome (outcome : Outcome)
  | names (names : List String)
  | size (size : Nat)
  | text (text : String)
  | truth (value : Bool)

/-- A grammar without rules, before any step. -/
def start (name : String) (tracing : Bool) : Workshop :=
  ⟨.empty name tracing, [], .fresh⟩

/-- Keep a parser under a name, in place of an earlier one. -/
def keep (workshop : Workshop) (name : String) (parser : Parser) : Workshop :=
  { workshop with kept := (name, parser) :: workshop.kept }

/-- Take a reference and keep it. -/
def takeReference (workshop : Workshop) (name : String) : Workshop :=
  match (workshop.set.reference name).build workshop.session with
  | (.ok parser, session) => { workshop with session := session }.keep name parser
  | (.error _, session) => { workshop with session := session }

/-- Add a rule that has been built, log it, and take a reference to it. -/
def install (workshop : Workshop) (name : String) (parser : Parser) :
    Except Fault Answer × Workshop :=
  match workshop.set.define name parser with
  | .error fault => (.error fault, workshop)
  | .ok set =>
      let session := workshop.session.note (.ruleDefined set.name name)
      (.ok .done, { workshop with set := set, session := session }.takeReference name)

/-- Run a kept reference. -/
def runKept (level : Level) (workshop : Workshop) (name : String) (source : Source)
    (offset : Int) : Except Fault Answer × Workshop :=
  match workshop.kept.lookup name with
  | none => (.error (.unknownReference name), workshop)
  | some parser =>
      match Cursor.locate source offset with
      | .error fault => (.error fault, workshop)
      | .ok cursor =>
          let (result, session) :=
            parser.run (workshop.set.environment level) cursor workshop.session
          (result.map .outcome, { workshop with session := session })

/-- The answer to a step, and the grammar after it. -/
def perform (level : Level) (workshop : Workshop) : Step → Except Fault Answer × Workshop
  | .define name body =>
      match (body workshop.set).build workshop.session with
      | (.error fault, session) => (.error fault, { workshop with session := session })
      | (.ok parser, session) => { workshop with session := session }.install name parser
  | .reference name => (.ok .done, workshop.takeReference name)
  | .run name source offset => workshop.runKept level name source offset
  | .names => (.ok (.names workshop.set.names), workshop)
  | .size => (.ok (.size workshop.set.rules.length), workshop)
  | .display => (.ok (.text workshop.set.display), workshop)
  | .contains name => (.ok (.truth (workshop.set.contains name)), workshop)
  | .checkComplete =>
      ((workshop.set.checkComplete workshop.session.referenced).map fun _ => .done, workshop)

/-- The answers to some steps, and the grammar after them. -/
def performAll (level : Level) (workshop : Workshop) :
    List Step → List (Except Fault Answer) × Workshop
  | [] => ([], workshop)
  | step :: steps =>
      let (answer, next) := workshop.perform level step
      let (answers, last) := next.performAll level steps
      (answer :: answers, last)

end Workshop

end Descent
