import RequestBinding.Form.Reading
import RequestBinding.Proofs.Form.Segments
import RequestBinding.Proofs.Grouped
import RequestBinding.Proofs.Http.Body

/-!
# A url-encoded form however its body is cut

The reader of a url-encoded body sees it chunk by chunk. What it knows after some
chunks is settled by their bytes alone (`After`): the bytes after the last
ampersand are pending, and the form holds the pairs of all segments before it,
which are within the limits. It refuses a chunk only if the pairs go beyond a
limit, and however the body may go on: a pair that is complete stays in the form,
and a pending part that is longer than three times its limit decodes to more than
the limit.

Results:
1. `push_spec`: a chunk that is taken keeps `After`; one that is refused goes
   beyond a limit, whatever follows.
2. `readStream_spec`, `readStream_eq_ok_iff`: a stream of chunks gives a form
   exactly if the body as a whole is within the limits, and an error names the
   limit that it is beyond.
3. `reserve_eq_ok_iff`, `reserve_eq_error_iff`: the memory that is given.
4. `FormFeature.read_urlEncoded_eq_ok_iff`: the form of a request, whose declared
   length counts too.
5. `FormFeature.not_read_urlEncoded_eq_ok_iff`: it also counts where it should not.
-/

namespace RequestBinding

namespace UrlEncoded

/-! ## Pairs and limits -/

/-- Pairs that are within the limits of a form. -/
structure Within (o : FormOptions) (l : List (String × String)) : Prop where
  count : l.length ≤ o.valueCountLimit.toNat
  key : ∀ p ∈ l, byteLength p.1 ≤ o.keyLengthLimit.toNat
  value : ∀ p ∈ l, byteLength p.2 ≤ o.valueLengthLimit.toNat

/-- The error names a limit that pairs go beyond. -/
inductive Exceeds (o : FormOptions) (l : List (String × String)) : FormError → Prop
  | count : o.valueCountLimit.toNat < l.length → Exceeds o l (.tooManyValues o.valueCountLimit)
  | key {p : String × String} : p ∈ l → o.keyLengthLimit.toNat < byteLength p.1 →
      Exceeds o l (.keyTooLong o.keyLengthLimit)
  | value {p : String × String} : p ∈ l → o.valueLengthLimit.toNat < byteLength p.2 →
      Exceeds o l (.valueTooLong o.valueLengthLimit)

section

variable {o : FormOptions} {l : List (String × String)} {p : String × String} {e : FormError}

theorem Exceeds.not_within (h : Exceeds o l e) : ¬ Within o l := by
  intro hw
  cases h with
  | count h => exact absurd hw.count (Nat.not_le.2 h)
  | key hp h => exact absurd (hw.key _ hp) (Nat.not_le.2 h)
  | value hp h => exact absurd (hw.value _ hp) (Nat.not_le.2 h)

theorem Exceeds.append (h : Exceeds o l e) (more : List (String × String)) :
    Exceeds o (l ++ more) e := by
  cases h with
  | count h => exact .count (Nat.lt_of_lt_of_le h (by simp))
  | key hp h => exact .key (List.mem_append_left _ hp) h
  | value hp h => exact .value (List.mem_append_left _ hp) h

theorem Exceeds.of_mem (h : Exceeds o [p] e) (hp : p ∈ l) : Exceeds o l e := by
  cases h with
  | count h => exact .count (Nat.lt_of_lt_of_le h (List.length_pos_of_mem hp))
  | key hq h => exact .key (List.mem_singleton.1 hq ▸ hp) h
  | value hq h => exact .value (List.mem_singleton.1 hq ▸ hp) h

theorem within_nil (o : FormOptions) : Within o [] :=
  ⟨Nat.zero_le _, fun _ h => absurd h List.not_mem_nil, fun _ h => absurd h List.not_mem_nil⟩

/-- A pair that passes its check joins those before it. -/
theorem within_concat (h : Within o l) (hc : checkPair o (l.length + 1) p = .ok ()) :
    Within o (l ++ [p]) := by
  rw [checkPair] at hc
  split at hc
  · cases hc
  · next hcount =>
    split at hc
    · cases hc
    · next hkey =>
      split at hc
      · cases hc
      · next hvalue =>
        refine ⟨by simpa using hcount, ?_, ?_⟩
        · intro q hq
          rcases List.mem_append.1 hq with hq | hq
          · exact h.key q hq
          · rw [List.mem_singleton.1 hq]
            exact Nat.not_lt.1 hkey
        · intro q hq
          rcases List.mem_append.1 hq with hq | hq
          · exact h.value q hq
          · rw [List.mem_singleton.1 hq]
            exact Nat.not_lt.1 hvalue

/-- A pair that fails its check goes beyond the limit that is named. -/
theorem exceeds_concat (hc : checkPair o (l.length + 1) p = .error e) : Exceeds o (l ++ [p]) e := by
  rw [checkPair] at hc
  split at hc
  · next h =>
    cases hc
    exact .count (by simpa using h)
  · split at hc
    · next h =>
      cases hc
      exact .key (List.mem_append_right _ (List.mem_singleton_self p)) h
    · split at hc
      · next h =>
        cases hc
        exact .value (List.mem_append_right _ (List.mem_singleton_self p)) h
      · cases hc

end

/-! ## The early refusal -/

/-- A part that begins with more bytes than three times its limit decodes to more
than the limit. -/
theorem lt_decodePart_of_begun {limit : Nat} {begun part : Bytes} (hb : begun <+: part)
    (h : 3 * limit < begun.length) : limit < byteLength (decodePart part) := by
  have hthird := length_le_decodePart part
  have hle := hb.length_le
  omega

theorem lt_decodePart_of_encodedLimit_lt {limit : UInt64} {begun part : Bytes}
    (hb : begun <+: part) (hl : begun.length ≤ maxUInt64)
    (h : encodedLimit limit < begun.length) : limit.toNat < byteLength (decodePart part) := by
  have hlong : 3 * limit.toNat < begun.length := by
    rw [encodedLimit, saturate] at h
    omega
  exact lt_decodePart_of_begun hb hlong

/-- A segment that is refused before it is complete goes beyond a limit, however it goes on. -/
theorem exceeds_pair_of_checkPending {o : FormOptions} {segment : Bytes} {e : FormError}
    (h : checkPending o segment = .error e) (hl : segment.length ≤ maxUInt64) (more : Bytes) :
    Exceeds o [pair (segment ++ more)] e := by
  have hgrow := splitPair_append segment more
  have hparts := length_splitPair_le segment
  simp only [checkPending] at h
  split at h
  · next hkey =>
    cases h
    exact .key List.mem_cons_self (lt_decodePart_of_encodedLimit_lt hgrow.1 (by omega) hkey)
  · split at h
    · next hvalue =>
      cases h
      exact .value List.mem_cons_self (lt_decodePart_of_encodedLimit_lt hgrow.2 (by omega) hvalue)
    · cases h

/-- A pending segment that is refused goes beyond a limit, however the body goes
on. -/
theorem exceeds_of_checkPending {o : FormOptions} {bs : Bytes} {e : FormError}
    (h : checkPending o (lastSegment bs) = .error e)
    (hl : (lastSegment bs).length ≤ maxUInt64) (rest : Bytes) :
    Exceeds o (pairs (bs ++ rest)) e := by
  obtain ⟨more, hseg⟩ := exists_segment_append bs rest
  -- an empty segment has no pair, but it is not refused either
  have hne : lastSegment bs ≠ [] := by
    intro hnil
    rw [hnil] at h
    cases h
  exact (exceeds_pair_of_checkPending h hl more).of_mem (pair_mem_pairs hseg (by simp [hne]))

/-! ## Between chunks -/

/-- The state of the reader after the bytes `bs`. -/
structure After (o : FormOptions) (bs : Bytes) (r : Reader) : Prop where
  pending : r.pending = lastSegment bs
  count : r.count = (pairsOf (ended bs)).length
  form : r.form = .ofPairs (pairsOf (ended bs))
  within : Within o (pairsOf (ended bs))

theorem ofPairs_concat (l : List (String × String)) (p : String × String) :
    Form.ofPairs (l ++ [p]) = (Form.ofPairs l).pushValue p.1 p.2 := by
  rw [Form.ofPairs, Grouped.ofList_concat]
  rfl

namespace After

variable {o : FormOptions} {bs chunk : Bytes} {r r' : Reader} {e : FormError}

theorem start (o : FormOptions) : After o [] .start :=
  ⟨rfl, rfl, rfl, within_nil o⟩

/-- Bytes without an ampersand are only pending. -/
theorem extend (h : After o bs r) {more : Bytes} (hm : 0x26 ∉ more) :
    After o (bs ++ more) { r with pending := r.pending ++ more } := by
  obtain ⟨hended, hlast⟩ := ended_append_of_no_amp bs hm
  refine ⟨?_, ?_, ?_, ?_⟩
  · rw [hlast, h.pending]
  · rw [hended]; exact h.count
  · rw [hended]; exact h.form
  · rw [hended]; exact h.within

/-- At an ampersand the pending segment is complete: its pair, if it has one,
joins the form. -/
theorem flush_ok (h : After o bs r) (hf : r.flush o = .ok r') : After o (bs ++ [0x26]) r' := by
  obtain ⟨hended, hlast⟩ := ended_append_amp bs
  have hall : pairsOf (segments bs) = pairsOf (ended bs) ++ pairsOf [lastSegment bs] := by
    rw [segments_eq bs, pairsOf_append]
  simp only [Reader.flush, h.pending] at hf
  split at hf
  · next hempty =>
    -- an empty segment is ended without a pair
    cases hf
    have hnil : lastSegment bs = [] := List.isEmpty_iff.1 hempty
    have hsame : pairsOf (segments bs) = pairsOf (ended bs) := by
      rw [hall, hnil]
      exact List.append_nil _
    refine ⟨?_, ?_, ?_, ?_⟩
    · rw [hlast, h.pending, hnil]
    · rw [hended, hsame]; exact h.count
    · rw [hended, hsame]; exact h.form
    · rw [hended, hsame]; exact h.within
  · next hne =>
    have hnew : pairsOf (segments bs) = pairsOf (ended bs) ++ [pair (lastSegment bs)] := by
      rw [hall, pairsOf_singleton_of_ne (by simpa using hne)]
    split at hf
    · next hcheck =>
      cases hf
      rw [h.count] at hcheck
      refine ⟨hlast.symm, ?_, ?_, ?_⟩
      · rw [hended, hnew, h.count, List.length_append, List.length_singleton]
      · rw [hended, hnew, h.form, ofPairs_concat]
      · rw [hended, hnew]; exact within_concat h.within hcheck
    · cases hf

/-- A segment that is refused goes beyond a limit with the pairs before it. -/
theorem flush_error (h : After o bs r) (hf : r.flush o = .error e) : Exceeds o (pairs bs) e := by
  simp only [Reader.flush, h.pending] at hf
  split at hf
  · cases hf
  · next hne =>
    split at hf
    · cases hf
    · next hcheck =>
      cases hf
      rw [h.count] at hcheck
      rw [pairs_eq_pairsOf, segments_eq bs, pairsOf_append,
        pairsOf_singleton_of_ne (by simpa using hne)]
      exact exceeds_concat hcheck

end After

/-! ## A chunk -/

theorem no_amp_takeWhile (chunk : Bytes) : 0x26 ∉ chunk.takeWhile (· != 0x26) := by
  intro hamp
  have hne := List.mem_takeWhile_imp hamp
  cases hne

theorem takeWhile_eq_of_dropWhile_nil {chunk : Bytes} (h : chunk.dropWhile (· != 0x26) = []) :
    chunk.takeWhile (· != 0x26) = chunk := by
  have hsplit := List.takeWhile_append_dropWhile (p := (· != (0x26 : UInt8))) (l := chunk)
  rwa [h, List.append_nil] at hsplit

/-- A chunk is cut at its first ampersand. -/
theorem takeWhile_append_amp {chunk rest : Bytes} {b : UInt8}
    (h : chunk.dropWhile (· != 0x26) = b :: rest) :
    chunk.takeWhile (· != 0x26) ++ 0x26 :: rest = chunk := by
  have hb : b = 0x26 := by
    have hhead := List.head?_dropWhile_not (· != (0x26 : UInt8)) chunk
    rw [h] at hhead
    simpa using hhead
  have hsplit := List.takeWhile_append_dropWhile (p := (· != (0x26 : UInt8))) (l := chunk)
  rwa [h, hb] at hsplit

/-- A chunk that is taken leaves the state after its bytes. One that is refused
goes beyond a limit, whatever bytes follow. -/
theorem push_spec {o : FormOptions} {bs : Bytes} {r : Reader} (chunk : Bytes)
    (h : After o bs r) :
    (∀ r', r.push o chunk = .ok r' → After o (bs ++ chunk) r') ∧
      ∀ e, r.push o chunk = .error e → (lastSegment (bs ++ chunk)).length ≤ maxUInt64 →
        ∀ rest, Exceeds o (pairs (bs ++ chunk ++ rest)) e := by
  -- the recursion is on what follows the first ampersand of the chunk
  revert bs
  fun_induction Reader.push o r chunk with
  | case1 r chunk r₀ hdrop =>
    intro bs h
    have hafter : After o (bs ++ chunk.takeWhile (· != 0x26)) r₀ :=
      h.extend (no_amp_takeWhile chunk)
    rw [takeWhile_eq_of_dropWhile_nil hdrop] at hafter
    refine ⟨?_, ?_⟩
    · rintro _ hr
      cases hr
      exact hafter
    · rintro _ he
      cases he
  | case2 r chunk r₀ hdrop e =>
    rename_i hcheck
    intro bs h
    have hafter : After o (bs ++ chunk.takeWhile (· != 0x26)) r₀ :=
      h.extend (no_amp_takeWhile chunk)
    rw [takeWhile_eq_of_dropWhile_nil hdrop] at hafter
    refine ⟨?_, ?_⟩
    · rintro _ hr
      cases hr
    · rintro _ he hlen rest
      cases he
      rw [hafter.pending] at hcheck
      exact exceeds_of_checkPending hcheck hlen rest
  | case3 r chunk r₀ b rest hdrop _ r₁ hflush =>
    rename_i ih
    intro bs h
    have hafter := (h.extend (no_amp_takeWhile chunk)).flush_ok hflush
    have hchunk : bs ++ chunk.takeWhile (· != 0x26) ++ [0x26] ++ rest = bs ++ chunk := by
      rw [List.append_assoc, List.append_assoc]
      exact congrArg (bs ++ ·) (takeWhile_append_amp hdrop)
    have hrest := ih hafter
    rwa [hchunk] at hrest
  | case4 r chunk r₀ b rest hdrop _ e =>
    rename_i hflush
    intro bs h
    refine ⟨?_, ?_⟩
    · rintro _ hr
      cases hr
    · rintro _ he _ more
      cases he
      have hexceeds := (h.extend (no_amp_takeWhile chunk)).flush_error hflush
      have hchunk : bs ++ chunk ++ more =
          bs ++ chunk.takeWhile (· != 0x26) ++ 0x26 :: (rest ++ more) := by
        conv => lhs; rw [← takeWhile_append_amp hdrop]
        simp only [List.append_assoc, List.cons_append]
      rw [hchunk, pairs_append_amp]
      exact hexceeds.append _

/-! ## The end of a body -/

/-- At the end of the body the pairs of all its bytes are in the form. -/
theorem After.finish_ok {o : FormOptions} {bs : Bytes} {r : Reader} {form : Form}
    (h : After o bs r) (hf : r.finish o = .ok form) :
    Within o (pairs bs) ∧ form = .ofPairs (pairs bs) := by
  rw [Reader.finish] at hf
  split at hf
  · next r' hflush =>
    cases hf
    have hafter := h.flush_ok hflush
    have hall : pairsOf (ended (bs ++ [0x26])) = pairs bs := by
      rw [(ended_append_amp bs).1, pairs_eq_pairsOf]
    exact ⟨hall ▸ hafter.within, hall ▸ hafter.form⟩
  · cases hf

theorem After.finish_error {o : FormOptions} {bs : Bytes} {r : Reader} {e : FormError}
    (h : After o bs r) (hf : r.finish o = .error e) : Exceeds o (pairs bs) e := by
  rw [Reader.finish] at hf
  split at hf
  · cases hf
  · next hflush =>
    cases hf
    exact h.flush_error hflush

/-! ## A stream -/

/-- A body that may be read: it may be buffered, if it has to be, and its pairs
are within the limits. -/
def Accepted (o : FormOptions) (bs : Bytes) : Prop :=
  (o.bufferBody = true → bs.length ≤ o.bufferBodyLengthLimit.toNat) ∧ Within o (pairs bs)

/-- The error names the reason why a body may not be read. -/
inductive Refused (o : FormOptions) (bs : Bytes) : FormError → Prop
  | tooLarge : o.bufferBody = true → o.bufferBodyLengthLimit.toNat < bs.length →
      Refused o bs (.bodyTooLarge o.bufferBodyLengthLimit)
  | pairs {e : FormError} : Exceeds o (pairs bs) e → Refused o bs e

theorem Refused.not_accepted {o : FormOptions} {bs : Bytes} {e : FormError}
    (h : Refused o bs e) : ¬ Accepted o bs := by
  rintro ⟨hlen, hwithin⟩
  cases h with
  | tooLarge hbuffer hlarge => exact absurd (hlen hbuffer) (Nat.not_le.2 hlarge)
  | pairs hexceeds => exact hexceeds.not_within hwithin

/-- The state of a read after the bytes `bs`. Their number is counted in 64 bits. -/
structure ReadTo (o : FormOptions) (bs : Bytes) (p : Progress) : Prop where
  reader : After o bs p.reader
  total : p.total = saturate bs.length
  buffered : o.bufferBody = true → p.total ≤ o.bufferBodyLengthLimit.toNat

namespace ReadTo

variable {o : FormOptions} {bs : Bytes} {p p' : Progress} {e : FormError}

theorem start (o : FormOptions) : ReadTo o [] ⟨.start, 0⟩ :=
  ⟨After.start o, rfl, fun _ => Nat.zero_le _⟩

/-- A chunk that is taken leaves the state after its bytes. For one that is refused there
is a reason to refuse the body, whatever bytes follow. -/
theorem step_spec (chunk : Bytes) (h : ReadTo o bs p) :
    (∀ p', p.step o chunk = .ok p' → ReadTo o (bs ++ chunk) p') ∧
      ∀ e, p.step o chunk = .error e → (lastSegment (bs ++ chunk)).length ≤ maxUInt64 →
        ∀ rest, Refused o (bs ++ chunk ++ rest) e := by
  have htotal : saturate (p.total + chunk.length) = saturate (bs ++ chunk).length := by
    rw [h.total, List.length_append, saturate, saturate, saturate]
    omega
  obtain ⟨hok, herror⟩ := push_spec chunk h.reader
  rw [Progress.step, htotal]
  by_cases hlarge :
      (o.bufferBody && o.bufferBodyLengthLimit.toNat < saturate (bs ++ chunk).length) = true
  · rw [if_pos hlarge]
    refine ⟨?_, ?_⟩
    · rintro _ hp
      cases hp
    · rintro _ he - rest
      cases he
      simp only [Bool.and_eq_true, decide_eq_true_eq] at hlarge
      -- what is counted is no more than what was taken
      have hcounted : saturate (bs ++ chunk).length ≤ (bs ++ chunk).length := Nat.min_le_left _ _
      have hgrow := (List.prefix_append (bs ++ chunk) rest).length_le
      exact .tooLarge hlarge.1 (by omega)
  · rw [if_neg hlarge]
    refine ⟨?_, ?_⟩
    · rintro _ hp
      split at hp
      · next r' hpush =>
        cases hp
        refine ⟨hok r' hpush, rfl, fun hbuffer => ?_⟩
        simpa [hbuffer] using hlarge
      · cases hp
    · rintro _ he hlen rest
      split at he
      · cases he
      · next hpush =>
        cases he
        exact .pairs (herror _ hpush hlen rest)

/-- Chunks that are taken one after another lead to the state after the bytes of all. -/
theorem foldlM {chunks : List Bytes} (h : ReadTo o bs p)
    (hfold : chunks.foldlM (Progress.step o) p = .ok p') :
    ReadTo o (bs ++ chunks.flatten) p' :=
  foldlM_bytes _ _ (fun _ _ chunk p' h => (h.step_spec chunk).1 p') h hfold

end ReadTo

/-- The form of a stream is that of its bytes, however they are cut; a body that
is refused is one that may not be read. -/
theorem readStream_spec (o : FormOptions) {chunks : List Bytes} (paced : Bool)
    (hlen : chunks.flatten.length ≤ maxUInt64) :
    (∀ form, (readStream o ⟨chunks.map .chunk, paced⟩).1 = .ok form →
        Accepted o chunks.flatten ∧ form = .ofPairs (pairs chunks.flatten)) ∧
      ∀ e, (readStream o ⟨chunks.map .chunk, paced⟩).1 = .error e → Refused o chunks.flatten e := by
  have hinjective : Function.Injective BodyItem.chunk := fun _ _ h => BodyItem.chunk.inj h
  simp only [readStream]
  split
  · next p pulled hfeed =>
    obtain ⟨all, hall, -, hfold⟩ := feedItems_eq_ok hfeed
    cases List.map_injective_iff.mpr hinjective hall
    have hread := (ReadTo.start o).foldlM hfold
    rw [List.nil_append] at hread
    refine ⟨?_, ?_⟩
    · rintro form hform
      obtain ⟨hwithin, heq⟩ := hread.reader.finish_ok hform
      refine ⟨⟨fun hbuffer => ?_, hwithin⟩, heq⟩
      have hbuffered := hread.buffered hbuffer
      rwa [hread.total, saturate, Nat.min_eq_left hlen] at hbuffered
    · rintro e he
      exact .pairs (hread.reader.finish_error he)
  · next e pulled hfeed =>
    obtain ⟨before, item, rest, p, hitems, -, hfold, hstop⟩ := feedItems_eq_error hfeed
    refine ⟨?_, ?_⟩
    · rintro _ hform
      cases hform
    · rintro _ he
      cases he
      -- there are only chunks, so one of them was refused
      obtain ⟨taken, others, rfl, htaken, hothers⟩ := List.map_eq_append_iff.mp hitems
      cases List.map_injective_iff.mpr hinjective htaken
      obtain ⟨chunk, after, rfl, rfl, -⟩ := List.map_eq_cons_iff.mp hothers
      cases hstop with
      | refused hstep =>
        have hread := (ReadTo.start o).foldlM hfold
        rw [List.nil_append] at hread
        have hbytes : (before ++ chunk :: after).flatten =
            before.flatten ++ chunk ++ after.flatten := by
          rw [List.flatten_append, List.flatten_cons, List.append_assoc]
        rw [hbytes] at hlen ⊢
        have hbegun := (List.prefix_append (before.flatten ++ chunk) after.flatten).length_le
        have hlast := length_lastSegment_le (before.flatten ++ chunk)
        exact (hread.step_spec chunk).2 e hstep (by omega) after.flatten

/-- A stream gives a form exactly if its bytes as a whole may be read. -/
theorem readStream_eq_ok_iff (o : FormOptions) {chunks : List Bytes} (paced : Bool) {form : Form}
    (hlen : chunks.flatten.length ≤ maxUInt64) :
    (readStream o ⟨chunks.map .chunk, paced⟩).1 = .ok form ↔
      Accepted o chunks.flatten ∧ form = .ofPairs (pairs chunks.flatten) := by
  obtain ⟨hok, herror⟩ := readStream_spec o paced hlen
  refine ⟨hok form, ?_⟩
  rintro ⟨haccepted, rfl⟩
  cases hread : (readStream o ⟨chunks.map .chunk, paced⟩).1 with
  | ok form => rw [(hok form hread).2]
  | error e => exact absurd haccepted (herror e hread).not_accepted

/-! ## Memory -/

theorem reserve_eq_ok_iff {memory bytes : Nat} :
    reserve memory bytes = .ok () ↔ bytes < 2 ^ 63 ∧ bytes ≤ memory := by
  rw [reserve, maxBlock]
  split
  · next hlarge =>
    constructor
    · rintro ⟨⟩
    · omega
  · split
    · next hmore =>
      constructor
      · rintro ⟨⟩
      · omega
    · exact ⟨fun _ => by omega, fun _ => rfl⟩

theorem reserve_eq_error_iff {memory bytes : Nat} {c : Crash} :
    reserve memory bytes = .error c ↔
      c = .capacityOverflow ∧ 2 ^ 63 ≤ bytes ∨
        c = .outOfMemory bytes ∧ bytes < 2 ^ 63 ∧ memory < bytes := by
  rw [reserve, maxBlock]
  split
  · next hlarge =>
    constructor
    · rintro ⟨⟩
      exact .inl ⟨rfl, by omega⟩
    · rintro (⟨rfl, -⟩ | ⟨-, hsmall, -⟩)
      · rfl
      · omega
  · split
    · next hmore =>
      constructor
      · rintro ⟨⟩
        exact .inr ⟨rfl, by omega, hmore⟩
      · rintro (⟨-, hlarge⟩ | ⟨rfl, -⟩)
        · omega
        · rfl
    · constructor
      · rintro ⟨⟩
      · omega

section

variable {o : FormOptions} {declared? : Option UInt64} {chunks : List Bytes}

/-- Where memory is asked for first, it has to be given too. -/
theorem reserveAndRead_eq_ok_iff {memory : Nat} {paced : Bool} {form : Form}
    (hlen : chunks.flatten.length ≤ maxUInt64) :
    (reserveAndRead memory o declared? ⟨chunks.map .chunk, paced⟩).1 = .ok form ↔
      reserve memory (reserved o declared?) = .ok () ∧
        Accepted o chunks.flatten ∧ form = .ofPairs (pairs chunks.flatten) := by
  rw [reserveAndRead, ← readStream_eq_ok_iff o paced hlen]
  split
  · next hgiven => exact ⟨fun hread => ⟨hgiven, hread⟩, And.right⟩
  · next c hrefused =>
    rw [hrefused]
    constructor
    · rintro ⟨⟩
    · rintro ⟨⟨⟩, -⟩

/-- Only the memory that is asked for crashes a read. -/
theorem reserveAndRead_eq_crash_iff {memory : Nat} {paced : Bool} {c : Crash}
    (hlen : chunks.flatten.length ≤ maxUInt64) :
    (reserveAndRead memory o declared? ⟨chunks.map .chunk, paced⟩).1 = .error (.crash c) ↔
      reserve memory (reserved o declared?) = .error c := by
  rw [reserveAndRead]
  split
  · next hgiven =>
    rw [hgiven]
    constructor
    · intro hcrash
      have hrefused := (readStream_spec o paced hlen).2 _ hcrash
      cases hrefused with
      | pairs hexceeds => cases hexceeds
    · rintro ⟨⟩
  · next c' hrefused =>
    rw [hrefused]
    constructor
    · rintro ⟨⟩
      rfl
    · rintro ⟨⟩
      rfl

/-! ## A body -/

/-- What becomes of an unread body: it is left to the reader, or more is declared than may
be buffered. -/
theorem read_fst_of_unread {body : Body} (memory : Nat) (hunread : body.consumed = false) :
    (o.bufferBody = true → ∀ n, declared? = some n → n ≤ o.bufferBodyLengthLimit) ∧
        (read o declared? body memory).1 = (reserveAndRead memory o declared? body.stream).1 ∨
      ¬ (o.bufferBody = true → ∀ n, declared? = some n → n ≤ o.bufferBodyLengthLimit) ∧
        (read o declared? body memory).1 = .error (.bodyTooLarge o.bufferBodyLengthLimit) := by
  by_cases hdeclared :
      o.bufferBody = true → ∀ n, declared? = some n → n ≤ o.bufferBodyLengthLimit
  · refine .inl ⟨hdeclared, ?_⟩
    rw [read_eq_deliver hdeclared, Body.deliver, if_neg (Bool.eq_false_iff.1 hunread)]
  · refine .inr ⟨hdeclared, ?_⟩
    simp only [Classical.not_imp, not_forall, UInt64.not_le] at hdeclared
    obtain ⟨hbuffer, n, hn, hlarge⟩ := hdeclared
    rw [read_of_declaredTooLarge hbuffer hn hlarge]

/-- A body gives a form exactly if no more is declared than may be buffered, the memory
that is reserved is given, and its bytes may be read. -/
theorem read_eq_ok_iff {body : Body} {memory : Nat} {form : Form} (hunread : body.consumed = false)
    (hitems : body.stream.items = chunks.map .chunk) (hlen : chunks.flatten.length ≤ maxUInt64) :
    (read o declared? body memory).1 = .ok form ↔
      (o.bufferBody = true → ∀ n, declared? = some n → n ≤ o.bufferBodyLengthLimit) ∧
        reserve memory (reserved o declared?) = .ok () ∧
        Accepted o chunks.flatten ∧ form = .ofPairs (pairs chunks.flatten) := by
  obtain ⟨⟨items, paced⟩, consumed, pulled⟩ := body
  cases hitems
  rcases read_fst_of_unread memory hunread with ⟨hdeclared, hread⟩ | ⟨hlarge, hread⟩
  · rw [hread, reserveAndRead_eq_ok_iff hlen]
    exact ⟨fun h => ⟨hdeclared, h⟩, And.right⟩
  · rw [hread]
    constructor
    · rintro ⟨⟩
    · exact fun h => absurd h.1 hlarge

/-- A read crashes exactly if no more is declared than may be buffered, and the memory that
is reserved is not given. -/
theorem read_eq_crash_iff {body : Body} {memory : Nat} {c : Crash} (hunread : body.consumed = false)
    (hitems : body.stream.items = chunks.map .chunk) (hlen : chunks.flatten.length ≤ maxUInt64) :
    (read o declared? body memory).1 = .error (.crash c) ↔
      (o.bufferBody = true → ∀ n, declared? = some n → n ≤ o.bufferBodyLengthLimit) ∧
        reserve memory (reserved o declared?) = .error c := by
  obtain ⟨⟨items, paced⟩, consumed, pulled⟩ := body
  cases hitems
  rcases read_fst_of_unread memory hunread with ⟨hdeclared, hread⟩ | ⟨hlarge, hread⟩
  · rw [hread, reserveAndRead_eq_crash_iff hlen]
    exact ⟨fun h => ⟨hdeclared, h⟩, And.right⟩
  · rw [hread]
    constructor
    · rintro ⟨⟩
    · exact fun h => absurd h.1 hlarge

end

end UrlEncoded

/-! ## The form of a request -/

namespace FormFeature

/-- A url-encoded body gives a form exactly if no more than may be buffered is declared or
sent, its pairs are within the limits, and a block of memory can be had for as many bytes as
are declared, up to the threshold; the form then holds these pairs. How the body is cut into
chunks does not matter. Without the block the read crashes, unless so much is declared that
the body is refused before. -/
theorem read_urlEncoded_eq_ok_iff {f : FormFeature} {r : Request} {m : MediaType}
    {chunks : List Bytes} {bytes : Nat} (memory : Nat) (hf : f.form? = none)
    (hm : MediaType.read? r.contentType = some m) (hessence : m.essence = urlEncodedType)
    (hunread : r.body.consumed = false) (hitems : r.body.stream.items = chunks.map .chunk)
    (hlen : chunks.flatten.length < 2 ^ 64)
    (hbytes : bytes =
      min (r.headers.contentLength?.getD 0).toNat f.options.memoryBufferThreshold.toNat) :
    (∀ form, (f.read r memory).result = .ok form ↔
      (f.options.bufferBody = true →
        (∀ n, r.headers.contentLength? = some n → n ≤ f.options.bufferBodyLengthLimit) ∧
          chunks.flatten.length ≤ f.options.bufferBodyLengthLimit.toNat) ∧
      (bytes < 2 ^ 63 ∧ bytes ≤ memory) ∧
      UrlEncoded.Within f.options (UrlEncoded.pairs chunks.flatten) ∧
      form = .ofPairs (UrlEncoded.pairs chunks.flatten)) ∧
    ∀ c, (f.read r memory).result = .error (.crash c) ↔
      (f.options.bufferBody = true →
        ∀ n, r.headers.contentLength? = some n → n ≤ f.options.bufferBodyLengthLimit) ∧
      (c = .capacityOverflow ∧ 2 ^ 63 ≤ bytes ∨
        c = .outOfMemory bytes ∧ bytes < 2 ^ 63 ∧ memory < bytes) := by
  have hlen' : chunks.flatten.length ≤ maxUInt64 := by
    rw [maxUInt64]
    omega
  -- of all ways to parse a form the content type leaves this one
  have hparse : parseForm f.options r memory =
      UrlEncoded.read f.options r.headers.contentLength? r.body memory := by
    simp only [parseForm, hm, hessence, beq_self_eq_true, if_true]
  have hresult : (f.read r memory).result =
      (UrlEncoded.read f.options r.headers.contentLength? r.body memory).1 := by
    simp only [read, hf, hparse]
    split
    · next h => rw [h]
    · next h => rw [h]
  rw [hresult]
  refine ⟨fun form => ?_, fun c => ?_⟩
  · rw [UrlEncoded.read_eq_ok_iff hunread hitems hlen', UrlEncoded.reserved,
      ← hbytes, UrlEncoded.reserve_eq_ok_iff, UrlEncoded.Accepted]
    constructor
    · rintro ⟨hdeclared, hgiven, ⟨hbuffered, hwithin⟩, hform⟩
      exact ⟨fun hb => ⟨hdeclared hb, hbuffered hb⟩, hgiven, hwithin, hform⟩
    · rintro ⟨hlimits, hgiven, hwithin, hform⟩
      exact ⟨fun hb => (hlimits hb).1, hgiven, ⟨fun hb => (hlimits hb).2, hwithin⟩, hform⟩
  · rw [UrlEncoded.read_eq_crash_iff hunread hitems hlen', UrlEncoded.reserved,
      ← hbytes, UrlEncoded.reserve_eq_error_iff]

/-- A body that is cut inside an escape and inside a character, and that meets
each of its limits exactly. -/
theorem read_urlEncoded_cut :
    let f : FormFeature := .ofOptions
      { bufferBody := true, bufferBodyLengthLimit := 11, valueCountLimit := 2,
        keyLengthLimit := 1, valueLengthLimit := 2 }
    let chunks : List Bytes :=
      [[0x61, 0x3D, 0x25], [], [0x34, 0x31], [0x26, 0x26, 0x62, 0x3D, 0xC3], [0xA9]]
    let r : Request :=
      { headers := ⟨[("content-type", Utf8.encode urlEncodedType),
          ("content-length", [0x31, 0x31])]⟩
        body := .ofStream ⟨chunks.map .chunk, true⟩ }
    (f.read r).result = .ok (.ofPairs [("a", "A"), ("b", "é")]) := by
  intro f chunks r
  have hm : MediaType.read? r.contentType = some ⟨"application", "x-www-form-urlencoded", none, [],
      "application/x-www-form-urlencoded"⟩ := by decide +kernel
  have hpairs : UrlEncoded.pairs chunks.flatten = [("a", "A"), ("b", "é")] := by decide +kernel
  have hdeclared : r.headers.contentLength? = some 11 := by decide +kernel
  have hbytes : 11 = min (r.headers.contentLength?.getD 0).toNat
      f.options.memoryBufferThreshold.toNat := by
    rw [hdeclared]
    decide
  refine ((read_urlEncoded_eq_ok_iff UrlEncoded.maxBlock rfl hm (by decide) rfl rfl (by decide)
    hbytes).1 _).2 ⟨?_, by decide, ?_, ?_⟩
  · rintro -
    refine ⟨?_, by decide⟩
    rintro n hn
    cases hdeclared.symm.trans hn
    decide
  · rw [hpairs]
    exact ⟨by decide, by decide, by decide⟩
  · rw [hpairs]

/-- Not every body within the limits gives a form: there may be no block of memory as large as
its declared length, although nothing of it is buffered. -/
theorem not_read_urlEncoded_eq_ok_iff :
    ¬ ∀ (f : FormFeature) (r : Request) (m : MediaType) (chunks : List Bytes), f.form? = none →
      MediaType.read? r.contentType = some m → m.essence = urlEncodedType →
      r.body.consumed = false → r.body.stream.items = chunks.map .chunk →
      chunks.flatten.length < 2 ^ 64 →
      ∀ form, (f.read r).result = .ok form ↔
        (f.options.bufferBody = true →
          (∀ n, r.headers.contentLength? = some n → n ≤ f.options.bufferBodyLengthLimit) ∧
            chunks.flatten.length ≤ f.options.bufferBodyLengthLimit.toNat) ∧
        UrlEncoded.Within f.options (UrlEncoded.pairs chunks.flatten) ∧
        form = .ofPairs (UrlEncoded.pairs chunks.flatten) := by
  intro h
  let f : FormFeature := .ofOptions { memoryBufferThreshold := 18446744073709551615 }
  let r : Request :=
    { headers := ⟨[("content-type", Utf8.encode urlEncodedType),
        ("content-length", Utf8.encode "18446744073709551615")]⟩
      body := .ofBytes (Utf8.encode "a=1") }
  have hm : MediaType.read? r.contentType = some ⟨"application", "x-www-form-urlencoded", none, [],
      "application/x-www-form-urlencoded"⟩ := by decide +kernel
  have hpairs : UrlEncoded.pairs [Utf8.encode "a=1"].flatten = [("a", "1")] := by decide +kernel
  have hwithin : UrlEncoded.Within f.options [("a", "1")] := ⟨by decide, by decide, by decide⟩
  have hcrash : (f.read r).result = .error (.crash .capacityOverflow) := by decide +kernel
  have hform := (h f r _ [Utf8.encode "a=1"] rfl hm (by decide) rfl rfl (by decide) _).2
    ⟨nofun, by rw [hpairs]; exact hwithin, rfl⟩
  cases hcrash.symm.trans hform

end FormFeature

end RequestBinding
