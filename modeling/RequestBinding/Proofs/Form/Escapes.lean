import RequestBinding.Proofs.Form.UrlEncoded

/-!
# How short a part can become

Of three bytes of a part one at least is left when it is decoded: an escape becomes one
byte, everything else is not made shorter, and the bytes that write no character are
replaced by as many or more. A part that is still arriving is the beginning of the whole
one, wherever it is cut, so what is too long already stays too long.

The third is what is left of a text that is written in escapes alone (`escape`). A reader
that refused parts of less than three times a limit would refuse such texts.

Results:
1. `decodePart_escape`, `length_escape`: every text can be sent in escapes.
2. `decodePart_third`: the bound, for parts, for segments and for what is refused early.
-/

namespace RequestBinding

namespace UrlEncoded

/-! ## A text in escapes -/

/-- The byte that writes the digit of `n < 16`. -/
def digitByte (n : Nat) : UInt8 :=
  UInt8.ofNat (hexDigit n).toNat

/-- The escape of a byte. -/
def escapeByte (b : UInt8) : Bytes :=
  [0x25, digitByte (b.toNat / 16), digitByte (b.toNat % 16)]

/-- A text in escapes alone. -/
def escape (s : String) : Bytes :=
  (Utf8.encode s).flatMap escapeByte

theorem hexByte?_digitByte {n : Nat} (h : n < 16) : hexByte? (digitByte n) = some n := by
  revert n
  decide

/-- A digit is no plus sign. -/
theorem plusToSpace_digitByte {n : Nat} (h : n < 16) : plusToSpace (digitByte n) = digitByte n := by
  revert n
  decide

theorem map_plusToSpace_escapeByte (b : UInt8) :
    (escapeByte b).map plusToSpace = escapeByte b := by
  have hb := b.toNat_lt
  have hhigh := plusToSpace_digitByte (n := b.toNat / 16) (by omega)
  have hlow := plusToSpace_digitByte (n := b.toNat % 16) (by omega)
  simp only [escapeByte, List.map_cons, List.map_nil, hhigh, hlow]
  rfl

/-- An escape is read as its byte. -/
theorem percentDecode_escapeByte (b : UInt8) (rest : Bytes) :
    percentDecode (escapeByte b ++ rest) = b :: percentDecode rest := by
  have hb := b.toNat_lt
  have hhigh := hexByte?_digitByte (n := b.toNat / 16) (by omega)
  have hlow := hexByte?_digitByte (n := b.toNat % 16) (by omega)
  have hvalue : 16 * (b.toNat / 16) + b.toNat % 16 = b.toNat := Nat.div_add_mod b.toNat 16
  simp only [escapeByte, List.cons_append, List.nil_append]
  rw [percentDecode, if_pos rfl]
  simp only [hhigh, hlow, hvalue, UInt8.ofNat_toNat]

theorem percentDecode_escapes (bs : Bytes) :
    percentDecode ((bs.flatMap escapeByte).map plusToSpace) = bs := by
  induction bs with
  | nil => rw [List.flatMap_nil, List.map_nil, percentDecode]
  | cons b bs ih =>
    rw [List.flatMap_cons, List.map_append, map_plusToSpace_escapeByte, percentDecode_escapeByte,
      ih]

/-- A text in escapes is read as that text. -/
theorem decodePart_escape (s : String) : decodePart (escape s) = s := by
  rw [decodePart, escape, percentDecode_escapes, Utf8.decodeLossy_encode]

theorem length_escape (s : String) : (escape s).length = 3 * byteLength s := by
  have hbyte (b : UInt8) : (escapeByte b).length = 3 := rfl
  rw [escape, ← Utf8.length_encode, List.length_flatMap]
  simp only [hbyte, List.map_const', List.sum_replicate_nat, Nat.mul_comm]

/-! ## The bound -/

/-- **Decoding leaves a third of a part at least.** So a part that is longer than three times a
limit, cut anywhere, cannot go on to one whose text is within the limit; nor can the key or the
value of a segment that is cut. What is refused before it is complete is therefore beyond the limit
that is named, whatever would have followed. The bound is met by every text in escapes. -/
theorem decodePart_third :
    (∀ part : Bytes, part.length ≤ 3 * byteLength (decodePart part)) ∧
      (∀ (part more : Bytes) (limit : Nat), 3 * limit < part.length →
        limit < byteLength (decodePart (part ++ more))) ∧
      (∀ (segment more : Bytes) (limit : Nat),
        (3 * limit < (splitPair segment).1.length →
          limit < byteLength (pair (segment ++ more)).1) ∧
        (3 * limit < (splitPair segment).2.length →
          limit < byteLength (pair (segment ++ more)).2)) ∧
      (∀ (o : FormOptions) (segment : Bytes) (e : FormError), segment.length ≤ maxUInt64 →
        checkPending o segment = .error e → ∀ more, Exceeds o [pair (segment ++ more)] e) ∧
      ∀ s : String, (escape s).length = 3 * byteLength s ∧ decodePart (escape s) = s := by
  refine ⟨length_le_decodePart, ?_, ?_, ?_, ?_⟩
  · intro part more limit h
    exact lt_decodePart_of_begun (List.prefix_append part more) h
  · intro segment more limit
    have hgrow := splitPair_append segment more
    exact ⟨lt_decodePart_of_begun hgrow.1, lt_decodePart_of_begun hgrow.2⟩
  · intro o segment e hl h more
    exact exceeds_pair_of_checkPending h hl more
  · intro s
    exact ⟨length_escape s, decodePart_escape s⟩

end UrlEncoded

end RequestBinding
