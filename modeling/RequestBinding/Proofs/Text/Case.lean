import RequestBinding.Http.Token
import RequestBinding.Proofs.Text.Utf8
import RequestBinding.Text.Case

/-!
# Letter case in bytes

The letters of ASCII can be made small in a text or in its bytes, and before or after
bytes are read as a text: no byte of another character, or of a sequence that is broken,
looks like a letter.

Results:
1. `encode_asciiLower`: the bytes of a text in small letters.
2. `asciiLower_decodeLossy`: the small letters of what is read from bytes.
-/

namespace RequestBinding

/-! ## Bytes and characters -/

/-- The code of the small letter. -/
def lowerCode (n : Nat) : Nat :=
  if 0x41 ≤ n ∧ n ≤ 0x5A then n + 0x20 else n

theorem lowerCode_lowerCode (n : Nat) : lowerCode (lowerCode n) = lowerCode n := by
  unfold lowerCode
  split
  · rw [if_neg (by omega)]
  · rfl

theorem lowerCode_lt_iff (n : Nat) : lowerCode n < 0x80 ↔ n < 0x80 := by
  unfold lowerCode
  split <;> omega

theorem lowerCode_of_le {n : Nat} (h : 0x80 ≤ n) : lowerCode n = n := by
  rw [lowerCode, if_neg (by omega)]

theorem toNat_lowerByte (b : UInt8) : (lowerByte b).toNat = lowerCode b.toNat := by
  simp only [lowerByte, lowerCode, Bool.and_eq_true, decide_eq_true_eq, UInt8.le_iff_toNat_le,
    UInt8.reduceToNat]
  have hshift : (0x20 : UInt8).toNat = 0x20 := rfl
  split
  · rw [UInt8.toNat_add, hshift]
    omega
  · rfl

theorem toNat_toLower (c : Char) : c.toLower.toNat = lowerCode c.toNat := by
  have hiff : (c.val ≥ 'A'.val ∧ c.val ≤ 'Z'.val) ↔ 0x41 ≤ c.toNat ∧ c.toNat ≤ 0x5A := by
    simp only [ge_iff_le, UInt32.le_iff_toNat_le, Char.toNat_val]
    rfl
  have hshift : ('a'.val - 'A'.val).toNat = 0x20 := by decide
  unfold Char.toLower lowerCode
  simp only [hiff]
  split
  · rw [← Char.toNat_val, UInt32.toNat_add, hshift, Char.toNat_val]
    omega
  · rfl

theorem lowerByte_lowerByte (b : UInt8) : lowerByte (lowerByte b) = lowerByte b := by
  rw [← UInt8.toNat_inj, toNat_lowerByte, toNat_lowerByte, lowerCode_lowerCode]

theorem lowerByte_of_le {b : UInt8} (h : 0x80 ≤ b.toNat) : lowerByte b = b := by
  rw [← UInt8.toNat_inj, toNat_lowerByte, lowerCode_of_le h]

theorem toLower_of_le {c : Char} (h : 0x80 ≤ c.toNat) : c.toLower = c := by
  rw [← Char.toNat_inj, toNat_toLower, lowerCode_of_le h]

/-- A byte and its character have the same small letter. -/
theorem toLower_ofNat (b : UInt8) :
    (Char.ofNat b.toNat).toLower = Char.ofNat (lowerByte b).toNat := by
  have htoNat (n : UInt8) : (Char.ofNat n.toNat).toNat = n.toNat := by
    refine Utf8.SequenceLemmas.toNat_val_ofNat (Or.inl ?_)
    have := n.toNat_lt
    omega
  rw [← Char.toNat_inj, toNat_toLower, htoNat, htoNat, toNat_lowerByte]

namespace Utf8

open SequenceLemmas

/-! ## Writing -/

theorem le_of_mem_encodeChar {c : Char} (h : 0x80 ≤ c.toNat) :
    ∀ b ∈ String.utf8EncodeChar c, 0x80 ≤ b.toNat := by
  obtain ⟨b, l, ts, hbytes, hl, -, hhead, htail⟩ := exists_lead_of_encodeChar h
  have hcases := lead?_cases hl
  rw [hbytes, List.forall_mem_cons]
  refine ⟨by omega, fun t ht => ?_⟩
  cases ts with
  | nil => cases ht
  | cons u us =>
    rcases List.mem_cons.1 ht with rfl | ht
    · have hlow := UInt8.le_iff_toNat_le.1 (hhead _ rfl).1
      omega
    · exact UInt8.le_iff_toNat_le.1 (htail t ht).1

theorem encodeChar_toLower (c : Char) :
    String.utf8EncodeChar c.toLower = (String.utf8EncodeChar c).map lowerByte := by
  by_cases h : c.toNat < 0x80
  · have hlower : c.toLower.toNat < 0x80 := by rwa [toNat_toLower, lowerCode_lt_iff]
    have hbyte : UInt8.ofNat c.toLower.toNat = lowerByte (UInt8.ofNat c.toNat) := by
      rw [← UInt8.toNat_inj, toNat_lowerByte, UInt8.toNat_ofNat', UInt8.toNat_ofNat',
        Nat.mod_eq_of_lt (by omega), Nat.mod_eq_of_lt (by omega), toNat_toLower]
    rw [encodeChar_of_lt h, encodeChar_of_lt hlower, List.map_singleton, hbyte]
  · have hle : 0x80 ≤ c.toNat := Nat.not_lt.1 h
    have hsame : ∀ b ∈ String.utf8EncodeChar c, lowerByte b = b := fun b hb =>
      lowerByte_of_le (le_of_mem_encodeChar hle b hb)
    rw [toLower_of_le hle, List.map_congr_left hsame, List.map_id']

/-- The bytes of a text in small letters. -/
theorem encode_asciiLower (s : String) : encode (asciiLower s) = (encode s).map lowerByte := by
  rw [encode, encode, asciiLower, String.toList_ofList, List.flatMap_map, List.map_flatMap]
  exact List.flatMap_congr fun c _ => encodeChar_toLower c

/-! ## Reading -/

/-- The bytes that a sequence takes are no letters, so it is read as before. -/
theorem tails_map_lowerByte {n : Nat} {low high : UInt8} (width acc : Nat) (bs : Bytes)
    (hlow : 0x80 ≤ low.toNat) :
    tails n low high width acc (bs.map lowerByte) =
      ((tails n low high width acc bs).1, (tails n low high width acc bs).2.map lowerByte) := by
  induction bs generalizing n low high width acc with
  | nil =>
    rw [List.map_nil, tails]
    split <;> rfl
  | cons b bs ih =>
    cases n with
    | zero => rfl
    | succ n =>
      by_cases hb : 0x80 ≤ b.toNat
      · rw [List.map_cons, lowerByte_of_le hb, tails, tails]
        split
        · exact ih _ _ (by decide)
        · rw [List.map_cons, lowerByte_of_le hb]
      · -- a byte below 80 breaks the sequence, and so does its small letter
        have hbreaks (x : UInt8) (hx : x.toNat < 0x80) : ¬ (low ≤ x && x ≤ high) = true := by
          simp only [Bool.and_eq_true, decide_eq_true_eq, UInt8.le_iff_toNat_le]
          omega
        have hbyte : b.toNat < 0x80 := Nat.not_le.1 hb
        have hlower : (lowerByte b).toNat < 0x80 := by rwa [toNat_lowerByte, lowerCode_lt_iff]
        rw [List.map_cons, tails, tails, if_neg (hbreaks _ hbyte), if_neg (hbreaks _ hlower),
          List.map_cons]

/-- What has been read, in small letters. -/
def Front.lower : Front → Front
  | scalar c => scalar c.toLower
  | f => f

theorem Front.char_lower (f : Front) : f.lower.char = f.char.toLower := by
  cases f <;> rfl

theorem front?_map_lowerByte (bs : Bytes) :
    front? (bs.map lowerByte) = (front? bs).map fun p => (p.1.lower, p.2.map lowerByte) := by
  cases bs with
  | nil => rfl
  | cons b bs =>
    by_cases hb : b.toNat < 0x80
    · have hlower : (lowerByte b).toNat < 0x80 := by rwa [toNat_lowerByte, lowerCode_lt_iff]
      have hbyte (x : UInt8) (hx : x.toNat < 0x80) : x < 0x80 := UInt8.lt_iff_toNat_lt.2 hx
      rw [List.map_cons, front?, front?, if_pos (hbyte _ hb), if_pos (hbyte _ hlower),
        Option.map_some, Front.lower, toLower_ofNat]
    · have hle : 0x80 ≤ b.toNat := Nat.not_lt.1 hb
      have hne : ¬ b < 0x80 := by rwa [UInt8.lt_iff_toNat_lt]
      -- what is read is not ASCII, so it has no small letter of its own
      have hsame {f : Front} {rest : Bytes} (h : front? (b :: bs) = some (f, rest)) :
          f.lower = f := by
        cases f with
        | scalar c =>
          have hwrites := front?_scalar h
          have hc : 0x80 ≤ c.toNat := by
            by_contra hc
            rw [encodeChar_of_lt (Nat.not_le.1 hc)] at hwrites
            have hfirst := congrArg UInt8.toNat (List.cons.inj hwrites).1
            rw [UInt8.toNat_ofNat', Nat.mod_eq_of_lt (by omega)] at hfirst
            omega
          rw [Front.lower, toLower_of_le hc]
        | broken w => rfl
        | cut => rfl
      rw [List.map_cons, lowerByte_of_le hle]
      cases hl : lead? b with
      | none => simp only [front?, if_neg hne, hl, Option.map_some, Front.lower]
      | some l =>
        have hlow : 0x80 ≤ l.low.toNat := by
          have := lead?_cases hl
          omega
        have hfront : front? (b :: bs) = some (tails l.owed l.low l.high 1 l.bits bs) := by
          simp only [front?, if_neg hne, hl]
        rw [hfront, Option.map_some, hsame hfront]
        simp only [front?, if_neg hne, hl, tails_map_lowerByte _ _ _ hlow]

theorem decodeLossyChars_map_lowerByte (bs : Bytes) :
    decodeLossyChars (bs.map lowerByte) = (decodeLossyChars bs).map Char.toLower := by
  cases h : front? bs with
  | none =>
    have hnil : decodeLossyChars [] = [] := decodeLossyChars_flatMap_encodeChar []
    rw [(front?_eq_none_iff bs).1 h, List.map_nil, hnil, List.map_nil]
  | some p =>
    obtain ⟨f, rest⟩ := p
    have hshort := front?_length h
    have hlower := front?_map_lowerByte bs
    rw [h, Option.map_some] at hlower
    rw [decodeLossyChars_of_front? hlower, decodeLossyChars_of_front? h, List.map_cons,
      Front.char_lower, decodeLossyChars_map_lowerByte rest]
termination_by bs.length

/-- The small letters of what is read from bytes. -/
theorem asciiLower_decodeLossy (bs : Bytes) :
    asciiLower (decodeLossy bs) = decodeLossy (bs.map lowerByte) := by
  rw [asciiLower, decodeLossy, decodeLossy, String.toList_ofList, decodeLossyChars_map_lowerByte]

end Utf8

end RequestBinding
