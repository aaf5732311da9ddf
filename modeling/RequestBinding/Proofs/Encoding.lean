import RequestBinding.Proofs.Formatter.Text
import RequestBinding.Proofs.Text.Utf8

/-!
# What an encoding says of a text

To decode bytes is to find the text that writes them. Each encoding writes a text in
one way (`encode?`), if it can write it at all: UTF-8 writes every text, the other two
give a character the byte of its code point. Decoding is the inverse of that, so it
neither drops bytes nor puts characters of its own.

The three encodings write a text of ASCII alike. A body of ASCII is therefore handed to
a reader as the same text, whatever charset was declared for it.

Results:
1. `decode_eq_ok_iff`: decoding finds the text that writes the bytes.
2. `exists_decode_iff`: the bytes that an encoding accepts.
3. `decode_of_ascii`: the text of ASCII bytes, in every encoding.
4. `decode_lossless`: all of this, and what a reader gets to see of it.
-/

namespace RequestBinding

namespace Encoding

/-! ## Writing -/

/-- The byte whose character is `c`, if its code point is below `bound`. -/
def charByte? (bound : Nat) (c : Char) : Option UInt8 :=
  if c.toNat < bound then some (UInt8.ofNat c.toNat) else none

/-- The bytes that write a text in an encoding, if it can write it. -/
def encode? : Encoding → String → Option Bytes
  | utf8, s => some (Utf8.encode s)
  | usAscii, s => s.toList.mapM (charByte? 0x80)
  | latin1, s => s.toList.mapM (charByte? 0x100)

/-- The bytes that write a text in an encoding. -/
def Accepts : Encoding → Bytes → Prop
  | utf8, bs => bs.toByteArray.IsValidUTF8
  | usAscii, bs => ∀ b ∈ bs, b < 0x80
  | latin1, _ => True

/-- The text whose characters have the code points `bs`. -/
def byteText (bs : Bytes) : String :=
  String.ofList (bs.map byteChar)

/-! ## One byte for a character -/

theorem toNat_byteChar (b : UInt8) : (byteChar b).toNat = b.toNat := by
  have hb : b.toNat < 0xD800 := by
    have := b.toNat_lt
    omega
  exact Utf8.SequenceLemmas.toNat_val_ofNat (Or.inl hb)

/-- A byte and its character determine each other. -/
theorem charByte?_eq_some_iff {bound : Nat} (hbound : bound ≤ 0x100) {c : Char} {b : UInt8} :
    charByte? bound c = some b ↔ b.toNat < bound ∧ byteChar b = c := by
  unfold charByte?
  constructor
  · intro h
    split at h
    · next hc =>
      cases h
      have hb : (UInt8.ofNat c.toNat).toNat = c.toNat := by
        rw [UInt8.toNat_ofNat', Nat.mod_eq_of_lt (Nat.lt_of_lt_of_le hc hbound)]
      exact ⟨by rwa [hb], by rw [byteChar, hb, Char.ofNat_toNat]⟩
    · cases h
  · rintro ⟨hb, rfl⟩
    rw [toNat_byteChar, if_pos hb, UInt8.ofNat_toNat]

/-- Bytes below a bound and their text determine each other. -/
theorem mapM_charByte?_eq_some_iff {bound : Nat} (hbound : bound ≤ 0x100) {cs : List Char}
    {bs : Bytes} :
    cs.mapM (charByte? bound) = some bs ↔
      (∀ b ∈ bs, b.toNat < bound) ∧ bs.map byteChar = cs := by
  induction cs generalizing bs with
  | nil => cases bs <;> simp
  | cons c cs ih =>
    rw [List.mapM_cons]
    constructor
    · intro h
      obtain ⟨b, hb, h⟩ := Option.bind_eq_some_iff.1 h
      obtain ⟨bs', hbs', h⟩ := Option.bind_eq_some_iff.1 h
      cases h
      obtain ⟨hlt, rfl⟩ := (charByte?_eq_some_iff hbound).1 hb
      obtain ⟨hall, rfl⟩ := ih.1 hbs'
      exact ⟨List.forall_mem_cons.2 ⟨hlt, hall⟩, rfl⟩
    · rintro ⟨hall, hmap⟩
      cases bs with
      | nil => cases hmap
      | cons b bs =>
        obtain ⟨hlt, hall⟩ := List.forall_mem_cons.1 hall
        obtain ⟨hc, hcs⟩ := List.cons.inj hmap
        rw [(charByte?_eq_some_iff hbound).2 ⟨hlt, hc⟩, ih.2 ⟨hall, hcs⟩]
        rfl

/-! ## Decoding -/

variable {e : Encoding} {bs : Bytes} {s : String}

theorem decode_usAscii_eq_ok_iff :
    decode usAscii bs = .ok s ↔ (∀ b ∈ bs, b < 0x80) ∧ byteText bs = s := by
  simp only [decode, List.all_eq_true, decide_eq_true_eq]
  split
  · next h => rw [and_iff_right h, Except.ok.injEq, byteText]
  · next h => simp only [h, false_and, reduceCtorEq]

theorem decode_utf8_eq_ok_iff : decode utf8 bs = .ok s ↔ Utf8.encode s = bs := by
  rw [← Utf8.decode_eq_ok_iff, decode]
  split
  · next h => simp only [h, Except.ok.injEq]
  · next h => simp only [h, reduceCtorEq]

/-- Decoding finds the text that writes the bytes. -/
theorem decode_eq_ok_iff : e.decode bs = .ok s ↔ e.encode? s = some bs := by
  cases e with
  | utf8 => rw [decode_utf8_eq_ok_iff, encode?, Option.some_inj]
  | usAscii =>
    rw [decode_usAscii_eq_ok_iff, encode?, mapM_charByte?_eq_some_iff (by omega), byteText,
      String.ofList_eq]
    simp only [UInt8.lt_iff_toNat_lt, UInt8.reduceToNat]
  | latin1 =>
    have hall : ∀ b ∈ bs, b.toNat < 0x100 := fun b _ => b.toNat_lt
    rw [decode_latin1_isOk, encode?, mapM_charByte?_eq_some_iff (Nat.le_refl _),
      and_iff_right hall, Except.ok.injEq, String.ofList_eq]

/-- The bytes that an encoding accepts are those that write a text in it. -/
theorem exists_decode_iff : (∃ s, e.decode bs = .ok s) ↔ e.Accepts bs := by
  cases e with
  | utf8 =>
    simp only [decode_utf8_eq_ok_iff]
    constructor
    · rintro ⟨s, rfl⟩
      exact .intro s.toList rfl
    · rintro ⟨cs, hcs⟩
      refine ⟨String.ofList cs, ?_⟩
      rw [Utf8.encode, String.toList_ofList]
      exact (List.toByteArray_inj.1 hcs).symm
  | usAscii => exact decode_usAscii_isOk bs
  | latin1 => exact iff_of_true ⟨_, decode_latin1_isOk bs⟩ trivial

/-- A text of ASCII is written in UTF-8 by the code points of its characters. -/
theorem encode_byteText (h : ∀ b ∈ bs, b < 0x80) : Utf8.encode (byteText bs) = bs := by
  rw [Utf8.encode, byteText, String.toList_ofList]
  induction bs with
  | nil => rfl
  | cons b bs ih =>
    obtain ⟨hb, hbs⟩ := List.forall_mem_cons.1 h
    rw [List.map_cons, List.flatMap_cons, ih hbs, byteChar,
      Utf8.SequenceLemmas.encodeChar_one (UInt8.lt_iff_toNat_lt.1 hb)]
    rfl

/-- The text of ASCII bytes, in every encoding. -/
theorem decode_of_ascii (h : ∀ b ∈ bs, b < 0x80) (e : Encoding) :
    e.decode bs = .ok (byteText bs) := by
  cases e with
  | utf8 => exact decode_utf8_eq_ok_iff.2 (encode_byteText h)
  | usAscii => exact decode_usAscii_eq_ok_iff.2 ⟨h, rfl⟩
  | latin1 => exact decode_latin1_isOk bs

/-- **Decoding loses nothing.** A text is read from bytes exactly if it writes these bytes in the
encoding, so that no two byte strings are read as one text. Every encoding accepts the bytes that
write a text in it. Bytes of ASCII are read alike in all encodings, so a formatter hands them to
its reader as one and the same text, whichever of its encodings the request selects. -/
theorem decode_lossless (e : Encoding) (bs : Bytes) :
    (∀ s, e.decode bs = .ok s ↔ e.encode? s = some bs) ∧
      (∀ s bs', e.decode bs = .ok s → e.decode bs' = .ok s → bs' = bs) ∧
      ((∃ s, e.decode bs = .ok s) ↔ e.Accepts bs) ∧
      ((∀ b ∈ bs, b < 0x80) → (∀ e' : Encoding, e'.decode bs = .ok (byteText bs)) ∧
        ∀ (f : TextFormatter) (c : FormatterContext), bs ≠ [] → f.Selects c e →
          c.request.body.consumed = false → c.request.headers.contentLength? ≠ some 0 →
          c.request.body.stream.Ends (.ok bs) → (f.read c).1 = f.reader (byteText bs)) := by
  refine ⟨fun s => decode_eq_ok_iff, ?_, exists_decode_iff, fun hascii => ?_⟩
  · intro s bs' h h'
    rw [decode_eq_ok_iff] at h h'
    exact Option.some.inj (h'.symm.trans h)
  · refine ⟨decode_of_ascii hascii, fun f c hbs hselects hunread hlength hstream => ?_⟩
    have hhand : f.Decides c (.hand (byteText bs)) :=
      .text hlength hstream hbs hselects (decode_of_ascii hascii e)
    rw [hhand.read_eq hunread]
    rfl

end Encoding

end RequestBinding
