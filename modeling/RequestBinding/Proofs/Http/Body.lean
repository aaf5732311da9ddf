import RequestBinding.Http.Body

/-!
# What an operation does about a body

An operation that is handed a body either spares it, so that its answer cannot
depend on it, or takes its stream for a reader of its own. In the second case it
has an answer for the body whose stream is gone, which leaves that body as it
is; any other body is consumed afterwards, whatever the reader made of it.

Results:
1. `Spares.eq`: an operation that spares the body answers the same on every body.
2. `Takes.of_consumed`, `Takes.consumed`: one that takes the stream comes too late
   for a consumed body, and leaves none that is not.
3. `feedItems_eq_ok`, `feedItems_eq_error`: a read item by item takes chunks, to the end
   of the stream or up to the item that stops it.
4. `feedItems_invariant`: what every chunk that is taken preserves, a read to the end
   of a stream preserves.
5. `readToEnd_takes`, `takeStream_takes`: reading to the end takes the stream, and so
   does asking for it.
-/

namespace RequestBinding

/-! ## Items one by one -/

/-- The bytes of an item; a failure has none. -/
def BodyItem.bytes : BodyItem → Bytes
  | chunk bs => bs
  | failure _ => []

theorem BodyItem.flatMap_bytes_chunks (chunks : List Bytes) :
    (chunks.map BodyItem.chunk).flatMap BodyItem.bytes = chunks.flatten := by
  induction chunks with
  | nil => rfl
  | cons chunk chunks ih => exact congrArg (chunk ++ ·) ih

section

variable {σ ε : Type} {step : σ → Bytes → Except ε σ} {failed : IoError → ε} {s s' : σ} {e : ε}
  {n m : Nat} {items : List BodyItem}

/-- An item stops a read: the stream fails there, or the chunk is refused. -/
inductive StopsAt (step : σ → Bytes → Except ε σ) (failed : IoError → ε) (s : σ) :
    BodyItem → ε → Prop
  | failure (error : IoError) : StopsAt step failed s (.failure error) (failed error)
  | refused {chunk : Bytes} {e : ε} : step s chunk = .error e →
      StopsAt step failed s (.chunk chunk) e

/-- What holds of the bytes before a chunk and the state there, and is kept by every chunk
that is taken, holds after chunks that are taken one after another. -/
theorem foldlM_bytes (P : Bytes → σ → Prop) (bs : Bytes)
    (hstep : ∀ bs s chunk s', P bs s → step s chunk = .ok s' → P (bs ++ chunk) s')
    {chunks : List Bytes} (h : P bs s) (hfold : chunks.foldlM step s = .ok s') :
    P (bs ++ chunks.flatten) s' := by
  induction chunks generalizing bs s with
  | nil =>
    cases hfold
    rw [List.flatten_nil, List.append_nil]
    exact h
  | cons chunk chunks ih =>
    rw [List.foldlM_cons] at hfold
    rw [List.flatten_cons, ← List.append_assoc]
    cases hfirst : step s chunk with
    | ok s₁ =>
      rw [hfirst] at hfold
      exact ih _ (hstep bs s chunk s₁ h hfirst) hfold
    | error e =>
      rw [hfirst] at hfold
      cases hfold

/-- A read that comes to the end of the stream has taken every item, each of them a
chunk. -/
theorem feedItems_eq_ok (h : feedItems step failed s n items = (.ok s', m)) :
    ∃ chunks : List Bytes, items = chunks.map .chunk ∧ m = n + chunks.length ∧
      chunks.foldlM step s = .ok s' := by
  induction items generalizing s n with
  | nil =>
    cases h
    exact ⟨[], rfl, rfl, rfl⟩
  | cons item rest ih =>
    cases item with
    | failure error => cases h
    | chunk b =>
      rw [feedItems] at h
      split at h
      · next s₁ hstep =>
        obtain ⟨chunks, rfl, hm, hfold⟩ := ih h
        refine ⟨b :: chunks, rfl, by rw [hm, List.length_cons]; omega, ?_⟩
        rw [List.foldlM_cons, hstep]
        exact hfold
      · cases h

/-- A read that stops has taken the chunks before the item that stops it, and that
item. -/
theorem feedItems_eq_error (h : feedItems step failed s n items = (.error e, m)) :
    ∃ (chunks : List Bytes) (item : BodyItem) (rest : List BodyItem) (s' : σ),
      items = chunks.map .chunk ++ item :: rest ∧ m = n + (chunks.length + 1) ∧
        chunks.foldlM step s = .ok s' ∧ StopsAt step failed s' item e := by
  induction items generalizing s n with
  | nil => cases h
  | cons item rest ih =>
    cases item with
    | failure error =>
      cases h
      exact ⟨[], _, rest, s, rfl, rfl, rfl, .failure error⟩
    | chunk b =>
      rw [feedItems] at h
      split at h
      · next s₁ hstep =>
        obtain ⟨chunks, item, more, s', rfl, hm, hfold, hstop⟩ := ih h
        refine ⟨b :: chunks, item, more, s', rfl, by rw [hm, List.length_cons]; omega, ?_, hstop⟩
        rw [List.foldlM_cons, hstep]
        exact hfold
      · next hrefused =>
        cases h
        exact ⟨[], _, rest, s, rfl, rfl, rfl, .refused hrefused⟩

end

namespace Body

variable {α β : Type} {op : Body → α × Body} {late : α}

/-- The bytes of the items that were pulled from the stream so far. -/
def taken (body : Body) : Bytes :=
  (body.stream.items.take body.pulled).flatMap BodyItem.bytes

/-- The operation leaves the body alone. -/
def Spares (op : Body → α × Body) : Prop :=
  ∃ answer, ∀ body, op body = (answer, body)

/-- The operation gives the stream to a reader; `late` is its answer if the stream
was taken before. -/
def Takes (op : Body → α × Body) (late : α) : Prop :=
  ∃ reader, ∀ body, op body = body.deliver reader late

theorem Spares.map (h : Spares op) (g : α → β) :
    Spares fun body => (g (op body).1, (op body).2) := by
  obtain ⟨answer, hop⟩ := h
  exact ⟨g answer, fun body => by simp only [hop]⟩

theorem Takes.map (h : Takes op late) (g : α → β) :
    Takes (fun body => (g (op body).1, (op body).2)) (g late) := by
  obtain ⟨reader, hop⟩ := h
  refine ⟨fun stream => (g (reader stream).1, (reader stream).2), fun body => ?_⟩
  simp only [hop, deliver]
  split <;> rfl

/-- An operation that spares the body answers the same on every body. -/
theorem Spares.eq (h : Spares op) (body body' : Body) : op body' = ((op body).1, body') := by
  obtain ⟨answer, hop⟩ := h
  rw [hop, hop]

/-- Too late for the stream, the body stays as it is. -/
theorem Takes.of_consumed (h : Takes op late) {body : Body} (hbody : body.consumed = true) :
    op body = (late, body) := by
  obtain ⟨reader, hop⟩ := h
  rw [hop, deliver, if_pos hbody]

/-- Whatever becomes of the read, the body is consumed. -/
theorem Takes.consumed (h : Takes op late) (body : Body) : (op body).2.consumed = true := by
  obtain ⟨reader, hop⟩ := h
  rw [hop, deliver]
  split
  · next hbody => exact hbody
  · rfl

/-- What every chunk that is taken preserves holds when the stream has ended. -/
theorem feedItems_invariant {σ ε : Type} {step : σ → Bytes → Except ε σ} {failed : IoError → ε}
    {Inv : σ → Prop} (hstep : ∀ s b s', Inv s → step s b = .ok s' → Inv s') {s s' : σ} {n : Nat}
    {items : List BodyItem} (h : Inv s) (hfeed : (feedItems step failed s n items).1 = .ok s') :
    Inv s' := by
  induction items generalizing s n with
  | nil =>
    cases hfeed
    exact h
  | cons item rest ih =>
    cases item with
    | failure e => cases hfeed
    | chunk b =>
      rw [feedItems] at hfeed
      split at hfeed
      · next s₁ hs => exact ih (hstep s b s₁ h hs) hfeed
      · cases hfeed

/-- Where being late is an error, a success is the reader's. -/
theorem ok_of_deliver {ε : Type} {body : Body} {reader : BodyStream → Except ε α × Nat} {e : ε}
    {a : α} (h : (body.deliver reader (.error e)).1 = .ok a) :
    (reader body.stream).1 = .ok a := by
  rw [deliver] at h
  split at h
  · cases h
  · exact h

theorem readToEnd_takes : Takes readToEnd (.error bodyConsumed) :=
  ⟨gather, fun _ => rfl⟩

theorem takeStream_takes (pulls : BodyStream → Nat) : Takes (takeStream pulls) false :=
  ⟨fun stream => (true, pulls stream), fun _ => rfl⟩

end Body

end RequestBinding
