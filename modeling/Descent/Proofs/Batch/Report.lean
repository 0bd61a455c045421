import Descent.Batch.Report
import Descent.Proofs.Call.FailureReport
import Descent.Proofs.Call.Rendering
import Descent.Proofs.Call.TrailingText
import Descent.Proofs.Diagnostic.Record

/-!
# Batches are processed input by input

Every fault of an input is of an expected family and has a message of one line.  So each input adds
either its rendering to the standard output or its report to the standard error, whatever the inputs
around it, and the batch never ends early.
-/

namespace Descent

/-! ## Texts of one line -/

/-- The text has no line break. -/
def IsOneLine (text : String) : Prop := '\n' ∉ text.toList

instance (text : String) : Decidable (IsOneLine text) :=
  inferInstanceAs (Decidable (¬ '\n' ∈ text.toList))

theorem isOneLine_append_iff (first second : String) :
    IsOneLine (first ++ second) ↔ IsOneLine first ∧ IsOneLine second := by
  rw [IsOneLine, String.toList_append, List.mem_append, not_or]
  rfl

theorem isOneLine_ofList {characters : List Char} (notMem : '\n' ∉ characters) :
    IsOneLine (String.ofList characters) := by
  rwa [IsOneLine, String.toList_ofList]

theorem newline_notMem_digitsOf (number : Nat) : '\n' ∉ digitsOf number := by
  intro mem
  have all := all_digitsOf number
  rw [List.all_eq_true] at all
  exact absurd (all '\n' mem) (by decide)

theorem isOneLine_natText (number : Nat) : IsOneLine (toString number) := by
  rw [Nat.toString_eq_ofList_toDigits]
  exact isOneLine_ofList (newline_notMem_digitsOf number)

theorem isOneLine_intText (number : Int) : IsOneLine (toString number) := by
  cases number with
  | ofNat number => exact isOneLine_natText number
  | negSucc number =>
      show IsOneLine ("-" ++ toString (number + 1))
      exact (isOneLine_append_iff _ _).mpr ⟨by decide, isOneLine_natText (number + 1)⟩

theorem mem_groupThousands {digits : List Char} {character : Char}
    (mem : character ∈ groupThousands digits) : character = ',' ∨ character ∈ digits := by
  induction digits with
  | nil => exact absurd mem List.not_mem_nil
  | cons digit digits induction =>
      rw [groupThousands] at induction mem
      rw [List.foldr_cons] at mem
      dsimp only at mem
      split at mem
      · rcases List.mem_cons.mp mem with rfl | mem
        · exact .inr List.mem_cons_self
        · rcases List.mem_cons.mp mem with comma | mem
          · exact .inl comma
          · exact (induction mem).imp_right (List.mem_cons_of_mem _)
      · rcases List.mem_cons.mp mem with rfl | mem
        · exact .inr List.mem_cons_self
        · exact (induction mem).imp_right (List.mem_cons_of_mem _)

theorem isOneLine_groupedText (number : Int) : IsOneLine (String.ofList (groupedText number)) := by
  have notMem : '\n' ∉ groupThousands (digitsOf number.natAbs) := by
    intro mem
    rcases mem_groupThousands mem with comma | digit
    · exact absurd comma (by decide)
    · exact newline_notMem_digitsOf _ digit
  refine isOneLine_ofList ?_
  rw [groupedText]
  split
  · rw [List.mem_cons]
    exact fun mem => mem.elim (by decide) notMem
  · exact notMem

theorem isOneLine_numberText {number : Binary64} (infinite : number.isFinite = false) :
    IsOneLine number.text := by
  cases number with
  | finite => contradiction
  | infinite negative => cases negative <;> decide
  | nan => decide

/-! ## The faults of inputs -/

namespace Batch

/-- The faults with which an input of a batch can end. -/
inductive IsInputFault : Fault → Prop where
  | tooLarge (size limit : Int) : IsInputFault (.sourceTooLarge size limit)
  | tooDeep (depth limit : Int) :
      IsInputFault (.depthLimit (.structured (Diagnostic.nestingDepthExceeded depth limit)))
  | unread {failure : Failure} (text : String) {kind : Call.FailureKind}
      (expected : failure.expected = kind.label) :
      IsInputFault (.syntaxError (.ofFailure failure text))
  | unliterated {number : Binary64} (infinite : number.isFinite = false) :
      IsInputFault (Call.unliterated number)
  | unwritable {number : Binary64} (infinite : number.isFinite = false) :
      IsInputFault (Call.unwritableNumber number)

theorem isInputFault_of_read {reader : Call.Reader} {text : String} {fault : Fault}
    (unread : reader.read text = .error fault) : IsInputFault fault := by
  rw [Call.Reader.read] at unread
  split at unread
  · rename_i refused answer
    obtain rfl := Except.error.inj unread
    have limits := (reader.outcome_eq_error_iff _ _).mp answer
    rw [Call.Reader.checkLimits] at limits
    split at limits
    · rw [← Except.error.inj limits]
      exact .tooLarge _ _
    · split at limits
      · rw [← Except.error.inj limits]
        exact .tooDeep _ _
      · contradiction
  · contradiction
  · rename_i failure answer
    obtain rfl := Except.error.inj unread
    -- The limits hold, or the reader would not have begun; so the failure is one of the grammar's.
    have limits : reader.checkLimits (Source.ofString text) = .ok () := by
      cases checked : reader.checkLimits (Source.ofString text) with
      | ok _ => rfl
      | error fault =>
          rw [(reader.outcome_eq_error_iff _ _).mpr checked] at answer
          contradiction
    obtain ⟨kind, offset, -, expected, -⟩ := Call.Reader.exists_failsAt limits answer
    exact .unread text expected

theorem isFinite_of_findSome? {nodes : List (Int × Value)} {number : Binary64}
    (found : nodes.findSome? Call.nonFinite? = some number) : number.isFinite = false := by
  obtain ⟨⟨depth, value⟩, -, number_eq⟩ := List.exists_of_findSome?_eq_some found
  cases value with
  | number value =>
      rw [Call.nonFinite?] at number_eq
      split at number_eq
      · contradiction
      · rename_i infinite
        rw [← Option.some.inj number_eq]
        exact Bool.eq_false_iff.mpr infinite
  | null | truth | integer | text | tuple | list | record | call => contradiction

variable (options : Options)

/-- What the reader of a batch reads is denoted, and not nested too deeply. -/
theorem Options.isDenoted_of_read {text : String} {tree : Value}
    (read : options.reader.read text = .ok tree) :
    Call.IsDenoted tree ∧ Call.callDepth tree ≤ 64 := by
  obtain ⟨derivation, -, rfl, depth_le⟩ := Call.Reader.exists_derivation_of_read read
  have limit : options.reader.maxDepth = 64 := rfl
  exact ⟨derivation.isDenoted_value, by omega⟩

/-- An input ends with its rendering or with one of a few faults. -/
theorem Options.isInputFault_of_answer {text : String} {fault : Fault}
    (refused : options.answer text = .error fault) : IsInputFault fault := by
  rw [Options.answer] at refused
  split at refused
  · rename_i unread
    obtain rfl := Except.error.inj refused
    exact isInputFault_of_read unread
  · rename_i tree read
    obtain ⟨denoted, shallow⟩ := options.isDenoted_of_read read
    rw [Options.render] at refused
    split at refused
    · have first := denoted.fault?_print shallow
      rw [refused] at first
      obtain ⟨number, found, rfl⟩ := Option.map_eq_some_iff.mp first.symm
      exact .unliterated (isFinite_of_findSome? found)
    · have first := denoted.fault?_toJson shallow (some 2)
      rw [refused] at first
      obtain ⟨number, found, rfl⟩ := Option.map_eq_some_iff.mp first.symm
      exact .unwritable (isFinite_of_findSome? found)

/-- Every fault of an input is expected and reported. -/
theorem IsInputFault.handle?_eq {fault : Fault} (ofInput : IsInputFault fault) :
    options.handle? fault = some (line (options.describe fault) ++ options.excerpt fault) := by
  cases ofInput <;> exact if_pos rfl

/-! ## What an input adds -/

/-- What an input writes to the standard output: its rendering on a line, if it has one. -/
def Options.outputOf (text : String) : String :=
  match options.answer text with
  | .ok rendering => line rendering
  | .error _ => ""

/-- What an input writes to the standard error: the report of its fault, if it has one. -/
def Options.errorsOf (text : String) : String :=
  match options.answer text with
  | .ok _ => ""
  | .error fault => line (options.describe fault) ++ options.excerpt fault

/-- The input has no rendering. -/
def Options.fails (text : String) : Bool := !(options.answer text).isOk

theorem Options.fails_eq_false_iff (text : String) :
    options.fails text = false ↔ ∃ rendering, options.answer text = .ok rendering := by
  rw [Options.fails, Bool.not_eq_false']
  cases options.answer text <;> simp [Except.isOk, Except.toBool]

/-- No input ends the batch. -/
theorem Options.piece_eq (text : String) :
    options.piece text =
      .ok ⟨options.outputOf text, options.errorsOf text, options.fails text⟩ := by
  rw [Options.piece, Options.outputOf, Options.errorsOf, Options.fails]
  cases answer : options.answer text with
  | ok rendering => rfl
  | error fault =>
      simp only [(options.isInputFault_of_answer answer).handle?_eq]
      rfl

/-! ## Runs -/

/-- What an input writes to the standard error with its log. -/
def Options.tellOf (level : Level) (text : String) : String :=
  options.log level (options.reader.readEntries text) ++ options.errorsOf text

theorem Options.log_of_quiet (quiet : options.verbose = false) (level : Level)
    (entries : List Entry) : options.log level entries = "" := by
  rw [Options.log, quiet]
  rfl

theorem Options.process_nil (level : Level) (report : Report) :
    options.process level report [] = report := rfl

/-- One input adds what is its own, and the batch goes on. -/
theorem Options.process_cons (level : Level) (report : Report) (text : String)
    (texts : List String) :
    options.process level report (text :: texts) =
      options.process level
        { report with
          output := report.output ++ options.outputOf text
          errors := report.errors ++ options.tellOf level text
          failures := if options.fails text then report.failures + 1 else report.failures }
        texts := by
  rw [Options.process, options.piece_eq, Options.tellOf, ← String.append_assoc]
  cases quiet : options.verbose with
  | true => rfl
  | false =>
      rw [options.log_of_quiet quiet, String.append_empty]
      rfl

/-- A batch adds what each of its inputs adds, in their order. -/
theorem Options.process_eq (level : Level) (report : Report) (texts : List String) :
    options.process level report texts =
      { report with
        output := report.output ++ String.join (texts.map options.outputOf)
        errors := report.errors ++ String.join (texts.map (options.tellOf level))
        failures := report.failures + texts.countP options.fails } := by
  induction texts generalizing report with
  | nil => simp [options.process_nil]
  | cons text texts induction =>
      rw [options.process_cons, induction]
      simp only [List.map_cons, String.join_cons, String.append_assoc, List.countP_cons]
      split <;> simp [Nat.add_assoc, Nat.add_comm]

theorem Options.report_eq (level : Level) (texts : List String) :
    options.report level texts =
      { output := String.join (texts.map options.outputOf)
        errors := String.join (texts.map (options.tellOf level)) ++
          options.log level [.finished (texts.countP options.fails)]
        failures := texts.countP options.fails
        escaped := none } := by
  rw [Options.report, options.process_eq]
  simp [Report.start, Report.note]

theorem Options.report_of_quiet (quiet : options.verbose = false) (level : Level)
    (texts : List String) :
    options.report level texts =
      { output := String.join (texts.map options.outputOf)
        errors := String.join (texts.map options.errorsOf)
        failures := texts.countP options.fails
        escaped := none } := by
  have tell_eq : options.tellOf level = options.errorsOf := by
    funext text
    rw [Options.tellOf, options.log_of_quiet quiet, String.empty_append]
  rw [options.report_eq, tell_eq, options.log_of_quiet quiet, String.append_empty]

theorem Options.status_report (level : Level) (texts : List String) :
    (options.report level texts).status = if texts.all (!options.fails ·) then 0 else 1 := by
  rw [options.report_eq, Report.status]
  simp [List.countP_eq_zero]

/-! ## Reports of one line -/

theorem isOneLine_jsonLine (formatter : Formatter) (diagnostic : Diagnostic) :
    IsOneLine (formatter.jsonLine diagnostic) :=
  (formatter.jsonLine_is_line diagnostic).1

theorem isOneLine_mismatchMessage {label : String} (isLabel : IsOneLine label) (offset : Nat) :
    IsOneLine (Diagnostic.mismatchMessage label offset) := by
  show IsOneLine ("Parse error, expected " ++ label ++ " at char " ++ toString offset)
  simp only [isOneLine_append_iff, isLabel, isOneLine_natText]
  decide

theorem isOneLine_toDiagnostic {failure : Failure} (isLabel : IsOneLine failure.expected) :
    IsOneLine failure.toDiagnostic.message := by
  rw [Failure.toDiagnostic]
  split
  · show IsOneLine ("Parse error, no alternative matched at char " ++ toString _)
    simp only [isOneLine_append_iff, isOneLine_natText]
    decide
  · split
    · exact isOneLine_mismatchMessage (by decide) _
    · exact isOneLine_mismatchMessage isLabel _

/-- The message of a fault of an input is one line. -/
theorem IsInputFault.isOneLine_message {fault : Fault} (ofInput : IsInputFault fault) :
    IsOneLine (fault.message?.getD "") := by
  cases ofInput with
  | tooLarge size limit =>
      show IsOneLine
        ("Source size (" ++ String.ofList (groupedText size) ++ " characters) exceeds maximum (" ++
          String.ofList (groupedText limit) ++ " characters)")
      simp only [isOneLine_append_iff, isOneLine_groupedText]
      decide
  | tooDeep depth limit =>
      show IsOneLine
        ("Call nesting depth " ++ toString depth ++ " exceeds maximum (" ++ toString limit ++ ")")
      simp only [isOneLine_append_iff, isOneLine_intText]
      decide
  | @unread failure text kind expected =>
      have isLabel : IsOneLine failure.expected := by
        rw [expected]
        cases kind <;> decide
      exact isOneLine_toDiagnostic isLabel
  | @unliterated number infinite =>
      show IsOneLine
        ("Cannot serialize expression: " ++ ("number " ++ number.text ++ " has no literal form"))
      simp only [isOneLine_append_iff, isOneLine_numberText infinite]
      decide
  | @unwritable number infinite =>
      show IsOneLine
        ("Cannot serialize expression: " ++
          ("Out of range float values are not JSON compliant: " ++ number.text ++
            " in JSON output"))
      simp only [isOneLine_append_iff, isOneLine_numberText infinite]
      decide

/-- A diagnostic has the message of its fault. -/
theorem message?_of_diagnostic? {fault : Fault} {diagnostic : Diagnostic}
    (found : fault.diagnostic? = some diagnostic) : fault.message? = some diagnostic.message := by
  have ofNotice (notice : Notice) (found : notice.diagnostic? = some diagnostic) :
      notice.message = diagnostic.message := by
    cases notice with
    | plain message => contradiction
    | structured other => rw [← Option.some.inj found, Notice.message]
  cases fault with
  | general notice | syntaxError error | depthLimit notice => exact congrArg some (ofNotice _ found)
  | unserializable other => rw [← Option.some.inj found, Fault.message?]
  | _ => contradiction

theorem Options.isOneLine_describe (single : options.errorLayout ≠ some .report) {fault : Fault}
    (ofInput : IsInputFault fault) : IsOneLine (options.describe fault) := by
  have isMessage := ofInput.isOneLine_message
  rw [Options.describe]
  split
  · rename_i layout diagnostic layout_eq found
    rw [message?_of_diagnostic? found, Option.getD_some] at isMessage
    cases layout with
    | report => exact absurd layout_eq single
    | simple =>
        have isName : IsOneLine diagnostic.code.name := by cases diagnostic.code <;> decide
        show IsOneLine (diagnostic.code.name ++ ": " ++ diagnostic.message)
        simp only [isOneLine_append_iff, isName, isMessage]
        decide
    | json => exact isOneLine_jsonLine _ _
  · exact isMessage

end Batch
end Descent
