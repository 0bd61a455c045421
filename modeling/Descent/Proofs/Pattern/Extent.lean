import Descent.Pattern

/-!
# How far patterns reach

A match of a pattern takes some characters of the text that is left, and the match goes on behind
them.  A pattern that takes none of them somewhere also matches the empty text.
-/

namespace Descent
namespace Pattern

/-- In front of the end of an empty text a pattern leaves a match to what follows it. -/
def Passes (pattern : Pattern) : Prop :=
  ∀ next : Continuation, (next 0 []).isSome → (matchThen pattern next 0 []).isSome

/--
A continuation goes on to an answer behind some characters of the text that is left, under a
condition if there are none of them.
-/
def GoesOn (next : Continuation) (condition : Prop) (offset : Nat) (rest : List Char)
    (answer : Nat) : Prop :=
  ∃ count, count ≤ rest.length ∧ next (offset + count) (rest.drop count) = some answer ∧
    (count = 0 → condition)

variable {next : Continuation} {condition : Prop} {offset answer : Nat} {rest : List Char}

theorem goesOn_here (answered : next offset rest = some answer) (holds : condition) :
    GoesOn next condition offset rest answer :=
  ⟨0, Nat.zero_le _, answered, fun _ => holds⟩

theorem GoesOn.mono {weaker : Prop} (goesOn : GoesOn next condition offset rest answer)
    (implies : condition → weaker) : GoesOn next weaker offset rest answer := by
  obtain ⟨count, le, answered, empty⟩ := goesOn
  exact ⟨count, le, answered, fun none => implies (empty none)⟩

/-- Two stretches of text, one behind the other. -/
theorem GoesOn.trans {middle : Continuation} {further : Prop}
    (goesOn : GoesOn middle condition offset rest answer)
    (onward : ∀ offset rest, middle offset rest = some answer →
      GoesOn next further offset rest answer) :
    GoesOn next (condition ∧ further) offset rest answer := by
  obtain ⟨count, le, answered, empty⟩ := goesOn
  obtain ⟨more, more_le, final, moreEmpty⟩ := onward _ _ answered
  rw [List.length_drop] at more_le
  refine ⟨count + more, by omega, ?_, fun none => ⟨empty (by omega), moreEmpty (by omega)⟩⟩
  rwa [List.drop_drop, Nat.add_assoc] at final

/-! ## Runs of characters -/

/-- The positions inside a run lie behind its first characters, `least` of them or more. -/
theorem mem_runEnds {set : CharSet} {least taken : Nat} {most : Option Nat}
    {found : List (Nat × List Char)} {place : Nat × List Char}
    (mem : place ∈ runEnds set least most taken found offset rest) :
    place ∈ found ∨ ∃ count, count ≤ rest.length ∧ place = (offset + count, rest.drop count) ∧
      least ≤ taken + count := by
  induction rest generalizing taken found offset with
  | nil =>
      simp only [runEnds] at mem
      split at mem
      · rename_i enough
        rcases List.mem_cons.mp mem with rfl | mem
        · exact .inr ⟨0, Nat.le_refl 0, rfl, enough⟩
        · exact .inl mem
      · exact .inl mem
  | cons character rest induction =>
      have here : place ∈ (if least ≤ taken then (offset, character :: rest) :: found else found) →
          place ∈ found ∨ ∃ count, count ≤ (character :: rest).length ∧
            place = (offset + count, (character :: rest).drop count) ∧ least ≤ taken + count := by
        intro mem
        split at mem
        · rename_i enough
          rcases List.mem_cons.mp mem with rfl | mem
          · exact .inr ⟨0, Nat.zero_le _, rfl, enough⟩
          · exact .inl mem
        · exact .inl mem
      simp only [runEnds] at mem
      split at mem
      · rcases induction mem with mem | ⟨count, le, rfl, enough⟩
        · exact here mem
        · refine .inr ⟨count + 1, Nat.succ_le_succ le, ?_, by omega⟩
          rw [List.drop_succ_cons, Nat.add_assoc, Nat.add_comm 1]
      · exact here mem

theorem exists_mem_of_firstOf {places : List (Nat × List Char)}
    (answered : firstOf next places = some answer) :
    ∃ place ∈ places, next place.1 place.2 = some answer := by
  induction places with
  | nil => exact nomatch answered
  | cons place places induction =>
      simp only [firstOf] at answered
      split at answered
      · rename_i found
        exact ⟨place, List.mem_cons_self, found.trans answered⟩
      · obtain ⟨other, mem, found⟩ := induction answered
        exact ⟨other, List.mem_cons_of_mem _ mem, found⟩

/-- A run takes no characters only if it need not take any. -/
theorem goesOn_runEnds {set : CharSet} {least : Nat} {most : Option Nat}
    (answered : firstOf next (runEnds set least most 0 [] offset rest) = some answer) :
    GoesOn next (least = 0) offset rest answer := by
  obtain ⟨place, mem, found⟩ := exists_mem_of_firstOf answered
  rcases mem_runEnds mem with absent | ⟨count, le, rfl, enough⟩
  · exact absurd absent List.not_mem_nil
  · exact ⟨count, le, found, fun none => by omega⟩

/-! ## Copies -/

theorem further_succ (body : Continuation → Continuation) (greedy : Bool) (next : Continuation)
    (count offset : Nat) (rest : List Char) :
    further body greedy next (count + 1) offset rest =
      let copy := body (fun newOffset newRest =>
        if newOffset = offset then next newOffset newRest
        else further body greedy next count newOffset newRest) offset rest
      if greedy then copy.or (next offset rest) else (next offset rest).or copy := by
  simp only [further]
  split <;> split <;> simp_all

theorem isSome_further (body : Continuation → Continuation) (greedy : Bool) (count : Nat)
    (passed : (next 0 []).isSome) : (further body greedy next count 0 []).isSome := by
  cases count with
  | zero => exact passed
  | succ count =>
      rw [further_succ]
      cases greedy <;> simp [passed]

theorem isSome_repeat {body : Continuation → Continuation} (least : Nat)
    (passes : least = 0 ∨ ∀ next : Continuation, (next 0 []).isSome → (body next 0 []).isSome)
    (passed : (next 0 []).isSome) : (Nat.repeat body least next 0 []).isSome := by
  induction least with
  | zero => exact passed
  | succ least induction =>
      have copy := passes.resolve_left (Nat.succ_ne_zero least)
      exact copy _ (induction (.inr copy))

/-- Further copies take some characters; a copy that takes none ends them. -/
theorem goesOn_further {body : Continuation → Continuation} {greedy : Bool} {count : Nat}
    (reaches : ∀ next offset rest answer, body next offset rest = some answer →
      GoesOn next condition offset rest answer)
    (answered : further body greedy next count offset rest = some answer) :
    GoesOn next True offset rest answer := by
  induction count generalizing offset rest with
  | zero => exact goesOn_here answered trivial
  | succ count induction =>
      let again : Continuation := fun newOffset newRest =>
        if newOffset = offset then next newOffset newRest
        else further body greedy next count newOffset newRest
      have onward (newOffset : Nat) (newRest : List Char)
          (went : again newOffset newRest = some answer) :
          GoesOn next True newOffset newRest answer := by
        simp only [again] at went
        split at went
        · exact goesOn_here went trivial
        · exact induction went
      have copies (copied : body again offset rest = some answer) :
          GoesOn next True offset rest answer :=
        ((reaches _ _ _ _ copied).trans onward).mono fun _ => trivial
      rw [further_succ] at answered
      cases greedy with
      | true =>
          rcases Option.or_eq_some_iff.mp answered with copied | ⟨-, left⟩
          · exact copies copied
          · exact goesOn_here left trivial
      | false =>
          rcases Option.or_eq_some_iff.mp answered with left | ⟨-, copied⟩
          · exact goesOn_here left trivial
          · exact copies copied

theorem goesOn_repeat {body : Continuation → Continuation} {least : Nat}
    (reaches : ∀ next offset rest answer, body next offset rest = some answer →
      GoesOn next condition offset rest answer)
    (answered : Nat.repeat body least next offset rest = some answer) :
    GoesOn next (least = 0 ∨ condition) offset rest answer := by
  induction least generalizing offset rest with
  | zero => exact goesOn_here answered (.inl rfl)
  | succ least induction =>
      have copies := (reaches _ _ _ _ answered).trans fun _ _ onward => induction onward
      exact copies.mono fun ⟨holds, _⟩ => .inr holds

/-! ## Patterns -/

theorem passes_concat {first second : Pattern} (passesFirst : first.Passes)
    (passesSecond : second.Passes) : (concat first second).Passes :=
  fun next passed => passesFirst _ (passesSecond next passed)

theorem passes_either {first second : Pattern} (passes : first.Passes ∨ second.Passes) :
    (either first second).Passes := by
  intro next passed
  simp only [matchThen]
  split
  · rfl
  · rename_i refused
    rcases passes with passesFirst | passesSecond
    · simpa [refused] using passesFirst next passed
    · exact passesSecond next passed

theorem passes_run (set : CharSet) (most : Option Nat) : (run set 0 most).Passes := by
  intro next passed
  obtain ⟨answer, answered⟩ := Option.isSome_iff_exists.mp passed
  simp [matchThen, runEnds, firstOf, answered]

theorem passes_repeated {body : Pattern} {least : Nat} (passes : least = 0 ∨ body.Passes)
    (most : Option Nat) (greedy : Bool) : (repeated body least most greedy).Passes :=
  fun _ passed => isSome_repeat least passes (isSome_further _ _ _ passed)

/-- A match goes on behind some characters; if there are none, the pattern passes. -/
theorem goesOn_of_matchThen {pattern : Pattern}
    (answered : matchThen pattern next offset rest = some answer) :
    GoesOn next pattern.Passes offset rest answer := by
  induction pattern generalizing next offset rest answer with
  | empty => exact goesOn_here answered fun _ passed => passed
  | one set =>
      cases rest with
      | nil => exact nomatch answered
      | cons character rest =>
          simp only [matchThen] at answered
          split at answered
          · exact ⟨1, Nat.succ_le_succ (Nat.zero_le _), answered, fun none => by omega⟩
          · contradiction
  | startOfText =>
      simp only [matchThen] at answered
      split at answered
      · exact goesOn_here answered fun next passed => by simpa [matchThen] using passed
      · contradiction
  | endOfText =>
      simp only [matchThen] at answered
      split at answered
      · exact goesOn_here answered fun next passed => by simpa [matchThen] using passed
      · contradiction
  | concat first second reachesFirst reachesSecond =>
      have both := (reachesFirst answered).trans fun _ _ onward => reachesSecond onward
      exact both.mono fun ⟨passesFirst, passesSecond⟩ => passes_concat passesFirst passesSecond
  | either first second reachesFirst reachesSecond =>
      simp only [matchThen] at answered
      split at answered
      · rename_i taken
        exact (reachesFirst (taken.trans answered)).mono fun passes => passes_either (.inl passes)
      · exact (reachesSecond answered).mono fun passes => passes_either (.inr passes)
  | run set least most =>
      refine (goesOn_runEnds answered).mono fun none => ?_
      subst none
      exact passes_run set most
  | repeated body least most greedy reaches =>
      have copies := goesOn_repeat (fun _ _ _ _ answered => reaches answered) answered
      have all := copies.trans fun _ _ onward =>
        goesOn_further (fun _ _ _ _ answered => reaches answered) onward
      exact all.mono fun ⟨passes, _⟩ => passes_repeated passes most greedy

/--
A match ends behind some of the characters that are left.  If there are none, the pattern matches
the empty text as well.
-/
theorem exists_count_of_matchEnd? {pattern : Pattern} {stop : Nat}
    (matched : pattern.matchEnd? offset rest = some stop) :
    ∃ count, count ≤ rest.length ∧ stop = offset + count ∧
      (count = 0 → pattern.matchEnd? 0 [] = some 0) := by
  obtain ⟨count, le, answered, empty⟩ := goesOn_of_matchThen matched
  refine ⟨count, le, (Option.some.inj answered).symm, fun none => ?_⟩
  have passed : (pattern.matchEnd? 0 []).isSome := empty none (fun stop _ => some stop) rfl
  obtain ⟨answer, matchedEmpty⟩ := Option.isSome_iff_exists.mp passed
  obtain ⟨taken, taken_le, ended, -⟩ := goesOn_of_matchThen matchedEmpty
  have stop_eq := Option.some.inj ended
  rw [List.length_nil] at taken_le
  rw [matchedEmpty, ← stop_eq]
  congr
  omega

end Pattern
end Descent
