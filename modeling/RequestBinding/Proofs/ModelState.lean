import Mathlib.Algebra.GroupWithZero.Nat
import RequestBinding.ModelState
import RequestBinding.Proofs.Grouped

/-!
# A capped dictionary over its whole life

A dictionary is changed by offering it messages and exceptions and by clearing
it, in any order. Its entries, count and flag are those that `ModelState.log`
gives for the errors that were offered since it was last cleared: `after` is the
state computed from these errors alone. One change leads from such a state to the
next one, and so does every run.

Results:
1. `add_after`: an offered error leads to the state of the errors with it, and
   is kept itself exactly if it comes before the last place.
2. `run_after`: a run leads to the state of the errors since the last clear.
3. `run_eq_log`: the dictionary and its answers, from the changes alone.
-/

namespace RequestBinding

namespace ModelState

/-! ## Changes -/

/-- A change of a dictionary. -/
inductive Change where
  | message (key text : String)
  | exception (key : String) (e : Exception)
  | boxedException (key : String) (e : Exception)
  | clear
deriving DecidableEq

/-- The error that a change offers, with its key. -/
def Change.offered? : Change → Option (String × ModelError)
  | message key text => some (key, ⟨text, none⟩)
  | exception key e => some (key, .ofException e)
  | boxedException key e => some (key, .ofException e)
  | clear => none

/-- Makes a change. Clearing has no answer. -/
def change (s : ModelState) (c : Change) : Option Bool × ModelState :=
  match c with
  | .message key text => ((s.addMessage key text).1, (s.addMessage key text).2)
  | .exception key e => ((s.addException key e).1, (s.addException key e).2)
  | .boxedException key e => ((s.addBoxedException key e).1, (s.addBoxedException key e).2)
  | .clear => (none, s.clear)

/-- Makes changes one after another and collects their answers. -/
def run (s : ModelState) : List Change → List (Option Bool) × ModelState
  | [] => ([], s)
  | c :: cs =>
    let next := (s.change c).2.run cs
    ((s.change c).1 :: next.1, next.2)

/-- The errors since the last clear, if `l` were offered before the changes. -/
def offeredFrom (l : List (String × ModelError)) (cs : List Change) :
    List (String × ModelError) :=
  cs.foldl (fun l c => match c.offered? with | some p => l ++ [p] | none => []) l

/-- The errors that changes offer after the last clear among them. -/
def offered (cs : List Change) : List (String × ModelError) :=
  offeredFrom [] cs

theorem length_run (s : ModelState) (cs : List Change) : (s.run cs).1.length = cs.length := by
  induction cs generalizing s with
  | nil => rfl
  | cons c cs ih => exact congrArg (· + 1) (ih (s.change c).2)

theorem run_append (s : ModelState) (cs ds : List Change) :
    s.run (cs ++ ds) =
      ((s.run cs).1 ++ ((s.run cs).2.run ds).1, ((s.run cs).2.run ds).2) := by
  induction cs generalizing s with
  | nil => rfl
  | cons c cs ih => simp only [List.cons_append, run, ih]

/-! ## The errors that are kept -/

section

variable {maxErrors : Nat} {l : List (String × ModelError)}

theorem log_concat_of_room (h : l.length + 1 < max maxErrors 1) (p : String × ModelError) :
    log maxErrors (l ++ [p]) = log maxErrors l ++ [p] := by
  have hl : l.length ≤ max maxErrors 1 - 1 := by omega
  have hlp : (l ++ [p]).length ≤ max maxErrors 1 - 1 := by simp; omega
  simp only [log]
  rw [List.take_of_length_le hl, List.take_of_length_le hlp, if_neg (by omega),
    if_neg (by simp; omega), List.append_nil, List.append_nil]

theorem log_concat_of_last (h : l.length + 1 = max maxErrors 1) (p : String × ModelError) :
    log maxErrors (l ++ [p]) = log maxErrors l ++ [("", tooManyErrors)] := by
  have hl : max maxErrors 1 - 1 = l.length := by omega
  simp only [log]
  rw [hl, List.take_left, List.take_length, if_pos (by simp; omega), if_neg (by omega),
    List.append_nil]

theorem log_concat_of_full (h : max maxErrors 1 ≤ l.length) (p : String × ModelError) :
    log maxErrors (l ++ [p]) = log maxErrors l := by
  simp only [log]
  rw [List.take_append_of_le_length (by omega), if_pos (by simp; omega), if_pos h]

theorem length_log (maxErrors : Nat) (l : List (String × ModelError)) :
    (log maxErrors l).length = min l.length (max maxErrors 1) := by
  simp only [log, List.length_append, List.length_take]
  split
  · rw [List.length_singleton]; omega
  · rw [List.length_nil]; omega

end

/-! ## The state after errors were offered -/

/-- The state after the errors `l` were offered, computed from `l` alone. -/
def after (maxErrors : Nat) (l : List (String × ModelError)) : ModelState where
  entries := .ofList (log maxErrors l)
  errorCount := min l.length (max maxErrors 1)
  maxErrors := max maxErrors 1
  reachedMax := decide (max maxErrors 1 ≤ l.length)

theorem after_nil (maxErrors : Nat) : after maxErrors [] = withMaxErrors maxErrors := by
  have hcap : ¬ max maxErrors 1 ≤ 0 := by omega
  simp only [after, withMaxErrors, log, List.take_nil, List.length_nil, hcap, Nat.zero_min]
  rfl

/-- An offered error leads to the state of the errors with it. It is kept itself
if it comes before the last place, which is for the marker. -/
theorem add_after (maxErrors : Nat) (l : List (String × ModelError)) (key : String)
    (e : ModelError) :
    (after maxErrors l).add key e =
      (decide (l.length + 1 ≤ max maxErrors 1 - 1), after maxErrors (l ++ [(key, e)])) := by
  have hlen : (l ++ [(key, e)]).length = l.length + 1 := List.length_append
  -- before the last place, at it, and past it
  rcases Nat.lt_trichotomy (l.length + 1) (max maxErrors 1) with hroom | hlast | hfull
  · rw [add_of_room (by simp only [after]; omega)]
    simp only [after, log_concat_of_room hroom, Grouped.ofList_concat, hlen, Prod.mk.injEq,
      ModelState.mk.injEq, true_and]
    exact ⟨(decide_eq_true (by omega)).symm, by omega, decide_eq_decide.2 (by omega)⟩
  · rw [add_of_last (by simp only [after]; omega)]
    simp only [after, log_concat_of_last hlast, Grouped.ofList_concat, hlen, Prod.mk.injEq,
      ModelState.mk.injEq, true_and]
    exact ⟨(decide_eq_false (by omega)).symm, by omega, (decide_eq_true (by omega)).symm⟩
  · rw [add_of_full (by simp only [after]; omega)]
    simp only [after, log_concat_of_full (Nat.le_of_lt_succ hfull), hlen, Prod.mk.injEq,
      ModelState.mk.injEq, true_and]
    exact ⟨(decide_eq_false (by omega)).symm, by omega, decide_eq_decide.2 (by omega)⟩

theorem clear_after (maxErrors : Nat) (l : List (String × ModelError)) :
    (after maxErrors l).clear = after maxErrors [] := by
  rw [after_nil]
  rfl

/-- One change leads to the state of the errors that it leaves on offer. -/
theorem change_after (maxErrors : Nat) (l : List (String × ModelError)) (c : Change) :
    (after maxErrors l).change c =
      (c.offered?.map fun _ => decide (l.length + 1 ≤ max maxErrors 1 - 1),
        after maxErrors (offeredFrom l [c])) := by
  cases c with
  | message key text => simp only [change, addMessage, add_after]; rfl
  | exception key e => simp only [change, addException, add_after]; rfl
  | boxedException key e => simp only [change, addBoxedException, addException, add_after]; rfl
  | clear => simp only [change, clear_after]; rfl

/-- A run leads to the state of the errors since the last clear. -/
theorem run_after (maxErrors : Nat) (l : List (String × ModelError)) (cs : List Change) :
    ((after maxErrors l).run cs).2 = after maxErrors (offeredFrom l cs) := by
  induction cs generalizing l with
  | nil => rfl
  | cons c cs ih =>
    simp only [run, change_after]
    exact ih (offeredFrom l [c])

/-- The answer to a change depends on the errors before it alone. -/
theorem answer_after (maxErrors : Nat) (before rest : List Change) (c : Change) :
    ((withMaxErrors maxErrors).run (before ++ c :: rest)).1[before.length]? =
      some (c.offered?.map fun _ => decide ((offered before).length + 1 ≤ max maxErrors 1 - 1)) := by
  -- the answers up to the change are those of the run before it
  have hlen := length_run (withMaxErrors maxErrors) before
  rw [run_append, List.getElem?_append_right (Nat.le_of_eq hlen), hlen, Nat.sub_self,
    ← after_nil, run_after]
  simp only [run, change_after]
  rfl

/-! ## Entries -/

theorem isEmpty_after_iff (maxErrors : Nat) (l : List (String × ModelError)) :
    (after maxErrors l).entries.isEmpty = true ↔ l.length = 0 := by
  simp only [after]
  rw [Grouped.isEmpty_ofList, List.isEmpty_iff, ← List.length_eq_zero_iff, length_log]
  omega

/-- No entry is empty, so that only a dictionary without entries is valid. -/
theorem isValid_after_iff (maxErrors : Nat) (l : List (String × ModelError)) :
    (after maxErrors l).isValid = true ↔ l.length = 0 := by
  rw [← isEmpty_after_iff maxErrors, Grouped.isEmpty_eq_isEmpty_toList, List.isEmpty_iff, isValid,
    List.all_eq_true]
  constructor
  · rintro hall
    refine List.eq_nil_iff_forall_not_mem.2 fun g hg => ?_
    exact Grouped.values_ne_nil hg (List.isEmpty_iff.1 (hall g hg))
  · rintro hnil g hg
    rw [hnil] at hg
    exact absurd hg List.not_mem_nil

/-- What a dictionary holds after any run, and what it answered, is said by the
errors `offered` alone: all but the last place of the cap are for the errors
themselves, grouped by key, and the last one is for the marker. -/
theorem run_eq_log (maxErrors : Nat) (cs : List Change) :
    let answers := ((withMaxErrors maxErrors).run cs).1
    let s := ((withMaxErrors maxErrors).run cs).2
    let cap := max maxErrors 1
    let n := (offered cs).length
    s.entries.toList = Grouped.groups ((offered cs).take (min n (cap - 1)) ++
        if cap ≤ n then [("", tooManyErrors)] else []) ∧
      s.errorCount = min n cap ∧
      (s.entries.toList.map fun g => g.2.length).sum = min n cap ∧
      (s.reachedMax = true ↔ cap ≤ n) ∧
      (s.isValid = true ↔ n = 0) ∧
      (s.entries.isEmpty = true ↔ n = 0) ∧
      (∀ g ∈ s.entries.toList, g.2 ≠ []) ∧
      ∀ before c rest p, cs = before ++ c :: rest → c.offered? = some p →
        answers[before.length]? = some (some (decide ((offered before).length + 1 ≤ cap - 1))) := by
  intro answers s cap n
  have hs : s = after maxErrors (offered cs) := by
    have hrun := run_after maxErrors [] cs
    rwa [after_nil] at hrun
  refine ⟨?_, ?_, ?_, ?_, ?_, ?_, ?_, ?_⟩
  · rw [hs, after, Grouped.toList_ofList, log, List.take_eq_take_min, Nat.min_comm]
  · rw [hs]; rfl
  · rw [← List.length_flatMap, ← Grouped.count_eq_length_toList, hs, after, Grouped.count_ofList,
      length_log]
  · rw [hs, after, decide_eq_true_eq]
  · rw [hs]; exact isValid_after_iff maxErrors _
  · rw [hs]; exact isEmpty_after_iff maxErrors _
  · rw [hs]; exact fun g hg => Grouped.values_ne_nil hg
  · rintro before c rest p rfl hp
    have hanswer := answer_after maxErrors before rest c
    rwa [hp] at hanswer

end ModelState

end RequestBinding
