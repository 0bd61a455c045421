import Descent.Batch.Report
import Descent.Diagnostic.Format
import Descent.Proofs.Json.Decoding
import Descent.Proofs.Text.Lines

/-!
# Diagnostics as records

In the JSON layout the rendering of a diagnostic is one line, whatever its texts are.  It is read
back as an object that tells what the diagnostic has under fixed names, each of them at most once.
So without cuts a diagnostic is known by its rendering, and renderings that are written line by line
are told apart by their lines.
-/

namespace Descent

theorem Code.ofName?_name (code : Code) : ofName? code.name = some code := by
  cases code <;> rfl

theorem Code.name_injective : Function.Injective Code.name := by
  intro first second same
  rw [← Option.some_inj, ← ofName?_name, same, ofName?_name]

/-! ## Texts on lines of their own -/

/-- Lines with a text each are read as the texts. -/
theorem Batch.inputLines_join {texts : List String}
    (plain : ∀ text ∈ texts, '\n' ∉ text.toList ∧ '\r' ∉ text.toList) :
    inputLines (String.join (texts.map line)) = texts := by
  have lines_eq : linesOf (String.join (texts.map line)).toList =
      texts.map String.toList ++ [[]] := by
    have joined :
        (String.join (texts.map line)).toList = ended (texts.map String.toList) ++ [] := by
      rw [String.toList_join, List.flatMap_map, ended, List.flatMap_map, List.append_nil]
      exact congrArg (texts.flatMap ·) (funext fun text => String.toList_append)
    rw [joined, linesOf_ended_append]
    · rfl
    · exact List.forall_mem_map.mpr fun text mem => (plain text mem).1
  rw [inputLines, lines_eq, List.getLast?_concat]
  simp only
  rw [if_pos trivial, List.dropLast_concat, List.map_map]
  refine (List.map_congr_left fun text mem => ?_).trans (List.map_id texts)
  -- No line end is left at the end of a line.
  have kept : text.toList.reverse.dropWhile (· == '\r') = text.toList.reverse := by
    rw [List.dropWhile_eq_self_iff]
    intro inside first
    exact (plain text mem).2 (beq_iff_eq.mp first ▸ List.mem_reverse.mp (List.getElem_mem inside))
  rw [Function.comp_apply, kept, List.reverse_reverse, String.ofList_toList, id_eq]

/-- Texts of one line each, with empty lines between them, are the lines that are not empty. -/
theorem filter_linesOf_intercalate {texts : List (List Char)}
    (plain : ∀ text ∈ texts, '\n' ∉ text ∧ text ≠ []) :
    (linesOf (['\n', '\n'].intercalate texts)).filter (· ≠ []) = texts := by
  induction texts with
  | nil => rfl
  | cons text texts induction =>
      rw [List.forall_mem_cons] at plain
      have kept (others : List (List Char)) :
          (text :: others).filter (· ≠ []) = text :: others.filter (· ≠ []) :=
        List.filter_cons_of_pos (decide_eq_true plain.1.2)
      cases texts with
      | nil =>
          have alone := linesOf_append plain.1.1 (rfl : linesOf [] = [[]])
          rw [List.append_nil] at alone
          rw [List.intercalate_singleton, alone, kept]
          rfl
      | cons next texts =>
          have lines_eq := linesOf_append plain.1.1
            (linesOf_newline_cons ('\n' :: ['\n', '\n'].intercalate (next :: texts)))
          rw [List.append_nil, linesOf_newline_cons] at lines_eq
          rw [List.intercalate_cons_cons, List.append_assoc, List.cons_append, List.cons_append,
            List.nil_append, lines_eq, kept, List.filter_cons_of_neg (by decide),
            induction plain.2]

namespace Formatter

variable {formatter : Formatter} {diagnostic other : Diagnostic}

/-- What the JSON object of a diagnostic tells under a name. -/
def told? (formatter : Formatter) (diagnostic : Diagnostic) : String → Option Value
  | "code" => some (.text diagnostic.code.name)
  | "code_value" => some (.integer diagnostic.code.value)
  | "message" => some (.text (formatter.shown diagnostic.message))
  | "severity" => some (.text diagnostic.severity)
  | "line" => diagnostic.span.map (.integer ·.line)
  | "column" => diagnostic.span.map (.integer ·.column)
  | "start" => diagnostic.span.map (.integer ·.start)
  | "end" => diagnostic.span.map (.integer ·.stop)
  | "expected" => (nonempty? diagnostic.expected).map .text
  | "hint" => (nonempty? diagnostic.hint).map (.text <| formatter.shown ·)
  | _ => none

/-! ## The fields of the object -/

theorem nodup_names : ((formatter.fields diagnostic).map Prod.fst).Nodup := by
  rw [fields]
  cases diagnostic.span <;> cases nonempty? diagnostic.expected <;>
    cases nonempty? diagnostic.hint <;> simp

theorem lookup_cons_eq_ite (name key : String) (value : Value) (others : List (String × Value)) :
    ((key, value) :: others).lookup name =
      if name = key then some value else others.lookup name := by
  by_cases same : name = key
  · rw [same, List.lookup_cons_self, if_pos rfl]
  · rw [List.lookup_cons, beq_eq_false_iff_ne.mpr same, if_neg same]

theorem lookup_fields (name : String) :
    (formatter.fields diagnostic).lookup name = formatter.told? diagnostic name := by
  -- A name that is told is the one of one field, any other name that of none.
  unfold told?
  split <;> rw [fields] <;> cases diagnostic.span <;> cases nonempty? diagnostic.expected <;>
    cases nonempty? diagnostic.hint <;> simp_all [lookup_cons_eq_ite]

theorem zip_fields :
    ((formatter.fields diagnostic).map Prod.fst).zip ((formatter.fields diagnostic).map Prod.snd) =
      formatter.fields diagnostic := by
  rw [List.zip_map', List.map_id']

/-- The object is the same when it is read from its text. -/
theorem isData_fields :
    Json.IsData Json.readWhole
      (.record ((formatter.fields diagnostic).map Prod.fst)
        ((formatter.fields diagnostic).map Prod.snd)) := by
  have integer (value : Int) : Json.IsData Json.readWhole (.integer value) :=
    .integer (Json.readWhole_integerText value)
  refine .record (by rw [List.length_map, List.length_map]) ?_
  rw [fields]
  cases diagnostic.span <;> cases nonempty? diagnostic.expected <;>
    cases nonempty? diagnostic.hint <;> simp [integer, Json.IsData.text]

theorem le_toNat_of_mem_jsonLine :
    ∀ character ∈ (formatter.jsonLine diagnostic).toList, 32 ≤ character.toNat :=
  Json.le_toNat_of_mem_text isData_fields.firstUnwritable?_eq_none rfl

theorem decode_jsonLine (formatter : Formatter) (diagnostic : Diagnostic) :
    Json.decode Json.readWhole (formatter.jsonLine diagnostic).toList =
      some (.record ((formatter.fields diagnostic).map Prod.fst)
        ((formatter.fields diagnostic).map Prod.snd)) :=
  isData_fields.decode_text jsonStyle

/-! ## What is told makes up the diagnostic -/

theorem nonempty?_eq {text : Option String} (ne : text ≠ some "") : nonempty? text = text := by
  cases text with
  | none => rfl
  | some text => exact if_neg fun empty => ne (congrArg some empty)

theorem shown_eq (uncut : formatter.sanitize = false) (text : String) :
    formatter.shown text = text := by
  rw [shown, uncut]
  rfl

/-- The numbers of a span are told, and nothing of them without a span. -/
theorem span_eq_of_told?
    (same : ∀ name, formatter.told? diagnostic name = formatter.told? other name) :
    diagnostic.span = other.span := by
  have line_eq := same "line"
  have column_eq := same "column"
  have start_eq := same "start"
  have stop_eq := same "end"
  simp only [told?] at line_eq column_eq start_eq stop_eq
  generalize diagnostic.span = span at *
  generalize other.span = otherSpan at *
  cases span with
  | none =>
      cases otherSpan with
      | none => rfl
      | some otherSpan => contradiction
  | some span =>
      cases otherSpan with
      | none => contradiction
      | some otherSpan =>
          cases span
          cases otherSpan
          simp only [Option.map_some, Option.some.injEq, Value.integer.injEq, Int.natCast_inj]
            at line_eq column_eq start_eq stop_eq
          subst line_eq column_eq start_eq stop_eq
          rfl

/-- Without cuts, diagnostics that tell the same are the same. -/
theorem eq_of_told? (uncut : formatter.sanitize = false) 
    (told : diagnostic.hint ≠ some "" ∧ diagnostic.expected ≠ some "")
    (toldOther : other.hint ≠ some "" ∧ other.expected ≠ some "")
    (same : ∀ name, formatter.told? diagnostic name = formatter.told? other name) :
    diagnostic = other := by
  have code_eq := same "code"
  have message_eq := same "message"
  have severity_eq := same "severity"
  have expected_eq := same "expected"
  have hint_eq := same "hint"
  have span_eq := span_eq_of_told? same
  have text_injective : Function.Injective Value.text := fun _ _ => Value.text.inj
  simp only [told?, shown_eq uncut, nonempty?_eq told.1, nonempty?_eq told.2,
    nonempty?_eq toldOther.1, nonempty?_eq toldOther.2, Option.some.injEq, Value.text.injEq,
    (Option.map_injective text_injective).eq_iff]
    at code_eq message_eq severity_eq expected_eq hint_eq
  cases diagnostic
  cases other
  simp only [Diagnostic.mk.injEq]
  exact ⟨Code.name_injective code_eq, message_eq, span_eq, hint_eq, expected_eq, severity_eq⟩

/-! ## Renderings -/

theorem format_eq_jsonLine (json : formatter.layout = .json) (diagnostic : Diagnostic) :
    formatter.format diagnostic = formatter.jsonLine diagnostic := by
  rw [format, json]

/-- The rendering is one line, and not an empty one. -/
theorem jsonLine_is_line (formatter : Formatter) (diagnostic : Diagnostic) :
    '\n' ∉ (formatter.jsonLine diagnostic).toList ∧
      '\r' ∉ (formatter.jsonLine diagnostic).toList ∧
      (formatter.jsonLine diagnostic).toList ≠ [] := by
  refine ⟨fun mem => absurd (le_toNat_of_mem_jsonLine _ mem) (by decide),
    fun mem => absurd (le_toNat_of_mem_jsonLine _ mem) (by decide), fun empty => ?_⟩
  have decoded := formatter.decode_jsonLine diagnostic
  rw [empty, Json.decode, Json.tokens] at decoded
  contradiction

/-- Renderings that are the same tell the same. -/
theorem told?_eq_of_jsonLine_eq
    (same : formatter.jsonLine diagnostic = formatter.jsonLine other) (name : String) :
    formatter.told? diagnostic name = formatter.told? other name := by
  have decoded := formatter.decode_jsonLine diagnostic
  rw [same, decode_jsonLine, Option.some_inj, Value.record.injEq] at decoded
  rw [← lookup_fields, ← lookup_fields, ← zip_fields, ← decoded.1, ← decoded.2, zip_fields]

end Formatter
end Descent
