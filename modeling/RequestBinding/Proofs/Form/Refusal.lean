import RequestBinding.Proofs.Form.Reading
import RequestBinding.Proofs.Form.UrlEncoded

/-!
# Why a url-encoded form was not read

A read of a url-encoded body can fail at a complete pair, at a pair that is still
arriving, at the count of its bytes, on the connection, or before it has begun. Which of
these comes first depends on how the body is cut. Whichever it is, the error is true: the
bytes that had been taken by then, or the declared length, are beyond the limit that the
error names, and a failure of the connection is the first one in the stream (`Reason`).
There is no other error, and none of a malformed body. A crash returns no error, but it has
a reason too: more was declared, and is to be reserved, than a block of memory can have.

Results:
1. `Refused.reason`: bytes that may not be read are beyond the limit that is named.
2. `readStream_reason`: a stream that is not read fails, or its bytes may not be read.
3. `read_error_reason`: every error of a read has a reason.
-/

namespace RequestBinding

namespace UrlEncoded

/-- Why a read fails, from the declared length, the body, and the bytes `bs` that were
taken from its stream. -/
inductive Reason (o : FormOptions) (declared? : Option UInt64) (body : Body) (bs : Bytes) :
    FormError → Prop
  | declaredTooLarge {n : UInt64} (hbuffer : o.bufferBody = true) (hn : declared? = some n)
      (hlarge : o.bufferBodyLengthLimit < n) :
      Reason o declared? body bs (.bodyTooLarge o.bufferBodyLengthLimit)
  | tooLarge (hbuffer : o.bufferBody = true)
      (hlarge : o.bufferBodyLengthLimit.toNat < bs.length) :
      Reason o declared? body bs (.bodyTooLarge o.bufferBodyLengthLimit)
  | tooManyValues
      (hcount : o.valueCountLimit.toNat < ((segments bs).filter (!·.isEmpty)).length) :
      Reason o declared? body bs (.tooManyValues o.valueCountLimit)
  | keyTooLong {s : Bytes} (hs : s ∈ segments bs)
      (hkey : o.keyLengthLimit.toNat < byteLength (decodePart (splitPair s).1)) :
      Reason o declared? body bs (.keyTooLong o.keyLengthLimit)
  | valueTooLong {s : Bytes} (hs : s ∈ segments bs)
      (hvalue : o.valueLengthLimit.toNat < byteLength (decodePart (splitPair s).2)) :
      Reason o declared? body bs (.valueTooLong o.valueLengthLimit)
  | failure {chunks : List Bytes} {error : IoError} {rest : List BodyItem}
      (hunread : body.consumed = false)
      (hitems : body.stream.items = chunks.map .chunk ++ .failure error :: rest) :
      Reason o declared? body bs (.io error)
  | consumed (hconsumed : body.consumed = true) : Reason o declared? body bs (.io bodyConsumed)
  /-- The read crashes in front of the first item. -/
  | overflow (hunread : body.consumed = false)
      (hlarge : 2 ^ 63 ≤ min (declared?.getD 0).toNat o.memoryBufferThreshold.toNat) :
      Reason o declared? body bs (.crash .capacityOverflow)

section

variable {o : FormOptions} {declared? : Option UInt64} {body left : Body} {bs : Bytes}
  {e : FormError}

/-! ## Bytes -/

/-- Every pair is that of a segment. -/
theorem exists_segment_of_mem_pairs {p : String × String} (h : p ∈ pairs bs) :
    ∃ s ∈ segments bs, p = pair s := by
  rw [pairs] at h
  obtain ⟨s, hs, rfl⟩ := List.mem_map.mp h
  exact ⟨s, (List.mem_filter.mp hs).1, rfl⟩

theorem Refused.reason (h : Refused o bs e) : Reason o declared? body bs e := by
  cases h with
  | tooLarge hbuffer hlarge => exact .tooLarge hbuffer hlarge
  | pairs hexceeds =>
    cases hexceeds with
    | count hcount =>
      rw [UrlEncoded.pairs, List.length_map] at hcount
      exact .tooManyValues hcount
    | key hp hkey =>
      obtain ⟨s, hs, rfl⟩ := exists_segment_of_mem_pairs hp
      exact .keyTooLong hs hkey
    | value hp hvalue =>
      obtain ⟨s, hs, rfl⟩ := exists_segment_of_mem_pairs hp
      exact .valueTooLong hs hvalue

/-! ## A stream -/

/-- A stream that is not read fails on the connection, or its bytes up to there may not be
read. -/
theorem readStream_reason {stream : BodyStream} {pulled : Nat}
    (h : readStream o stream = (.error e, pulled))
    (hlen : (lastSegment ((stream.items.take pulled).flatMap BodyItem.bytes)).length
      ≤ maxUInt64) :
    (∃ (chunks : List Bytes) (error : IoError) (rest : List BodyItem),
      stream.items = chunks.map .chunk ++ .failure error :: rest ∧ e = .io error) ∨
      Refused o ((stream.items.take pulled).flatMap BodyItem.bytes) e := by
  rw [readStream] at h
  split at h
  · next p n hfeed =>
    -- the end of the stream was reached, and the last pair was refused
    obtain ⟨chunks, hitems, hn, hfold⟩ := feedItems_eq_ok hfeed
    obtain ⟨hfinish, rfl⟩ := Prod.mk.inj h
    have hread := (ReadTo.start o).foldlM hfold
    rw [List.nil_append] at hread
    have hall : stream.items.length ≤ n := by
      rw [hitems, hn, List.length_map]
      omega
    rw [List.take_of_length_le hall, hitems, BodyItem.flatMap_bytes_chunks]
    exact .inr (.pairs (hread.reader.finish_error hfinish))
  · next e' n hfeed =>
    obtain ⟨he, rfl⟩ := Prod.mk.inj h
    cases he
    obtain ⟨chunks, item, rest, p, hitems, hn, hfold, hstop⟩ := feedItems_eq_error hfeed
    have htaken : stream.items.take n = chunks.map .chunk ++ [item] := by
      have hlength : n = (chunks.map BodyItem.chunk).length + 1 := by
        rw [hn, List.length_map]
        omega
      rw [hitems, hlength, List.take_length_add_append]
      rfl
    rw [htaken, List.flatMap_append, BodyItem.flatMap_bytes_chunks, List.flatMap_singleton]
      at hlen ⊢
    cases hstop with
    | failure error => exact .inl ⟨chunks, error, rest, hitems, rfl⟩
    | refused hstep =>
      have hread := (ReadTo.start o).foldlM hfold
      rw [List.nil_append] at hread
      have hrefused := (hread.step_spec _).2 e hstep hlen []
      rw [List.append_nil] at hrefused
      exact .inr hrefused

/-! ## A body -/

/-- Where the reader asks for memory first, it can fail for that too. -/
theorem reserveAndRead_reason {pulled : Nat} (hunread : body.consumed = false)
    (h : reserveAndRead maxBlock o declared? body.stream = (.error e, pulled))
    (hlen : (lastSegment ((body.stream.items.take pulled).flatMap BodyItem.bytes)).length
      ≤ maxUInt64) :
    Reason o declared? body ((body.stream.items.take pulled).flatMap BodyItem.bytes) e := by
  rw [reserveAndRead] at h
  split at h
  · rcases readStream_reason h hlen with ⟨chunks, error, rest, hitems, rfl⟩ | hrefused
    · exact .failure hunread hitems
    · exact hrefused.reason
  · next c hrefused =>
    cases h
    rw [reserve_eq_error_iff, maxBlock] at hrefused
    rcases hrefused with ⟨rfl, hlarge⟩ | ⟨-, hsmall, hmore⟩
    · exact .overflow hunread hlarge
    · omega

/-- Every error of a read has a reason in the bytes that were taken, in the declared length
or in the body that was found, and carries the limit that it is about; none is about a
malformed body. The pair that is arriving is held as a whole, so that its length is a
number of 64 bits. -/
theorem read_error_reason (h : read o declared? body = (.error e, left))
    (hlen : (lastSegment left.taken).length < 2 ^ 64) :
    Reason o declared? body left.taken e ∧ ∀ reason, e ≠ .malformed reason := by
  have hreason : Reason o declared? body left.taken e := by
    by_cases hdeclared :
        o.bufferBody = true → ∀ n, declared? = some n → n ≤ o.bufferBodyLengthLimit
    · rw [read_eq_deliver hdeclared, Body.deliver] at h
      split at h
      · next hconsumed =>
        cases h
        exact .consumed hconsumed
      · next hconsumed =>
        obtain ⟨hresult, rfl⟩ := Prod.mk.inj h
        have hunread : body.consumed = false := Bool.not_eq_true _ ▸ hconsumed
        exact reserveAndRead_reason hunread (Prod.ext hresult rfl) (Nat.le_of_lt_succ hlen)
    · simp only [Classical.not_imp, not_forall, UInt64.not_le] at hdeclared
      obtain ⟨hbuffer, n, hn, hlarge⟩ := hdeclared
      rw [read_of_declaredTooLarge hbuffer hn hlarge] at h
      cases h
      exact .declaredTooLarge hbuffer hn hlarge
  refine ⟨hreason, ?_⟩
  rintro reason rfl
  cases hreason

/-- A key that is refused in the middle of its third escape. -/
theorem read_error_reason_cut :
    let o : FormOptions := { keyLengthLimit := 2 }
    let body : Body := .ofStream
      ⟨[.chunk (Utf8.encode "a=b&%C3"), .chunk (Utf8.encode "%A9%4"), .chunk [0x31]], true⟩
    let left := (read o none body).2
    (read o none body).1 = .error (.keyTooLong 2) ∧
      left.taken = Utf8.encode "a=b&%C3%A9%4" ∧
      Reason o none body left.taken (.keyTooLong 2) := by
  intro o body left
  have herror : (read o none body).1 = .error (.keyTooLong 2) := by decide +kernel
  have hread : read o none body = (.error (.keyTooLong 2), left) := Prod.ext herror rfl
  have hlen : (lastSegment left.taken).length < 2 ^ 64 := by decide +kernel
  exact ⟨herror, by decide +kernel, (read_error_reason hread hlen).1⟩

end

end UrlEncoded

end RequestBinding
