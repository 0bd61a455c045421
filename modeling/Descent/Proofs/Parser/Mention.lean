import Mathlib.Data.List.Nodup
import Descent.Proofs.Parser.Mirror

/-!
# Mentions of rules

A session keeps the names of the rules that references were taken to, each once, the first one
first.  Deferred parsers add theirs when they are built.
-/

namespace Descent

/-! ## Names, each once -/

/-- Names with some more names behind them, each once. -/
def addNames (known names : List String) : List String :=
  names.foldl (fun known name => if known.contains name then known else known ++ [name]) known

theorem addNames_cons (known : List String) (name : String) (names : List String) :
    addNames known (name :: names) =
      addNames (if known.contains name then known else known ++ [name]) names :=
  List.foldl_cons ..

theorem addNames_append (known first second : List String) :
    addNames known (first ++ second) = addNames (addNames known first) second :=
  List.foldl_append

theorem mem_addNames {known names : List String} {name : String} :
    name ∈ addNames known names ↔ name ∈ known ∨ name ∈ names := by
  induction names generalizing known with
  | nil => simp [addNames]
  | cons other names induction =>
      rw [addNames_cons, induction, List.mem_cons, ← or_assoc]
      refine or_congr_left ?_
      split
      · rename_i isKnown
        have mem := List.contains_iff_mem.mp isKnown
        exact ⟨.inl, fun either => either.elim id fun same => same ▸ mem⟩
      · simp

theorem nodup_addNames {known : List String} (nodup : known.Nodup) (names : List String) :
    (addNames known names).Nodup := by
  induction names generalizing known with
  | nil => exact nodup
  | cons other names induction =>
      rw [addNames_cons]
      refine induction ?_
      split
      · exact nodup
      · rename_i new
        have absent : other ∉ known := fun mem => new (List.contains_iff_mem.mpr mem)
        rw [← List.concat_eq_append]
        exact List.Nodup.concat absent nodup

namespace Session

theorem mentionAll_eq (session : Session) (names : List String) :
    session.mentionAll names =
      { session with referenced := addNames session.referenced names } := by
  induction names generalizing session with
  | nil => rfl
  | cons name names induction =>
      change (session.mention name).mentionAll names = _
      rw [induction, addNames_cons]
      simp only [mention]
      split <;> rfl

theorem referenced_mention (session : Session) (name : String) :
    (session.mention name).referenced = addNames session.referenced [name] := by
  simp only [mention, addNames_cons]
  split <;> rfl

theorem referenced_subset_mention (session : Session) (name : String) :
    session.referenced ⊆ (session.mention name).referenced := by
  rw [referenced_mention]
  exact fun _ mem => mem_addNames.mpr (.inl mem)

theorem mem_referenced_mention (session : Session) (name : String) :
    name ∈ (session.mention name).referenced := by
  rw [referenced_mention]
  exact mem_addNames.mpr (.inr (List.mem_singleton_self name))

theorem referenced_attempted (session : Session) (cell : Nat) (tag : String)
    (references : List String) :
    (session.attempted cell tag references).referenced =
      addNames session.referenced (if session.built.contains cell then [] else references) := by
  simp only [attempted]
  split
  · rfl
  · rw [mentionAll_eq]
    rfl

theorem log_attempted (session : Session) (cell : Nat) (tag : String)
    (references : List String) : (session.attempted cell tag references).log = session.log := by
  simp only [attempted]
  split
  · rfl
  · rw [mentionAll_eq]
    rfl

theorem log_opened (session : Session) (cell : Nat) (tag : String) (references : List String) :
    (session.opened cell tag references).log = session.log := by
  simp only [opened]
  split
  · rfl
  · exact session.log_attempted cell tag references

end Session

end Descent
