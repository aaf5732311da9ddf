import Mathlib.Data.List.Basic
import Mathlib.Data.String.Basic
import RequestBinding.Text.Utf8

/-!
# What a byte string loses when it is read

A byte string is read one sequence at a time. A sequence that is complete and
well formed is the encoding of the character that is read for it, and every
encoding of a character is read so. Any other maximal part has at most three
bytes, and the replacement that stands for it is written in three. So reading
with replacements never makes a text shorter.

Results:
1. `front?_scalar`, `front?_encodeChar`: what is read as a character is the
   encoding of that character, and the other way round.
2. `front?_width`: the character put for a sequence is written in at least as
   many bytes as the sequence has.
3. `length_le_decodeLossy`: the text of a byte string has at least its length.
4. `encode_of_decode`, `decode_eq_ok_iff`: a byte string can be read as it is
   exactly if it is what a text writes, and that text is read.
-/

namespace RequestBinding

namespace Utf8

/-! ## Helpers -/

namespace SequenceLemmas

/-- The table of first bytes, as bounds on numbers. -/
theorem lead?_cases {b : UInt8} {l : Lead} (h : lead? b = some l) :
    (l.owed = 1 ∧ 0xC2 ≤ b.toNat ∧ b.toNat ≤ 0xDF ∧ l.bits = b.toNat - 0xC0 ∧
        l.low.toNat = 0x80 ∧ l.high.toNat = 0xBF) ∨
      (l.owed = 2 ∧ 0xE0 ≤ b.toNat ∧ b.toNat ≤ 0xEF ∧ l.bits = b.toNat - 0xE0 ∧
        0x80 ≤ l.low.toNat ∧ l.high.toNat ≤ 0xBF ∧
        (b.toNat = 0xE0 → 0xA0 ≤ l.low.toNat) ∧ (b.toNat = 0xED → l.high.toNat ≤ 0x9F)) ∨
      (l.owed = 3 ∧ 0xF0 ≤ b.toNat ∧ b.toNat ≤ 0xF4 ∧ l.bits = b.toNat - 0xF0 ∧
        0x80 ≤ l.low.toNat ∧ l.high.toNat ≤ 0xBF ∧
        (b.toNat = 0xF0 → 0x90 ≤ l.low.toNat) ∧ (b.toNat = 0xF4 → l.high.toNat ≤ 0x8F)) := by
  simp only [lead?, Bool.and_eq_true, decide_eq_true_eq, beq_iff_eq, UInt8.le_iff_toNat_le,
    ← UInt8.toNat_inj] at h
  repeat' split at h
  all_goals cases h
  all_goals
    simp at *
    omega

theorem owed_le {b : UInt8} {l : Lead} (h : lead? b = some l) : l.owed ≤ 3 := by
  rcases lead?_cases h with ⟨ho, _⟩ | ⟨ho, _⟩ | ⟨ho, _⟩ <;> omega

/-- A first byte narrows the range of the byte after it in four cases only. -/
theorem lead?_range {b : UInt8} (h : 0xC2 ≤ b.toNat ∧ b.toNat ≤ 0xF4) :
    ∃ l, lead? b = some l ∧
      (l.low.toNat ≤ 0x80 ∨ b.toNat = 0xE0 ∧ l.low.toNat ≤ 0xA0 ∨
        b.toNat = 0xF0 ∧ l.low.toNat ≤ 0x90) ∧
      (0xBF ≤ l.high.toNat ∨ b.toNat = 0xED ∧ 0x9F ≤ l.high.toNat ∨
        b.toNat = 0xF4 ∧ 0x8F ≤ l.high.toNat) := by
  simp only [lead?, Bool.and_eq_true, decide_eq_true_eq, beq_iff_eq, UInt8.le_iff_toNat_le,
    ← UInt8.toNat_inj]
  repeat' split
  all_goals
    simp at * <;> omega

/-- What is read as a character after a first byte: the owed bytes, the first of
them in its narrowed range, and the code point that they gather. -/
theorem tails_scalar {n : Nat} {low high : UInt8} {width acc : Nat} {bs rest : Bytes} {c : Char}
    (h : tails n low high width acc bs = (.scalar c, rest)) :
    ∃ ts : Bytes, bs = ts ++ rest ∧ ts.length = n ∧ c = Char.ofNat (ts.foldl gather acc) ∧
      (∀ t ∈ ts.head?, low ≤ t ∧ t ≤ high) ∧ ∀ t ∈ ts.tail, 0x80 ≤ t ∧ t ≤ 0xBF := by
  induction bs generalizing n low high width acc with
  | nil =>
    simp only [tails] at h
    split at h
    · next hn =>
      cases h
      exact ⟨[], by simp [hn]⟩
    · cases h
  | cons b bs ih =>
    cases n with
    | zero =>
      simp only [tails, Prod.mk.injEq, Front.scalar.injEq] at h
      exact ⟨[], by simp [h]⟩
    | succ n =>
      simp only [tails, Bool.and_eq_true, decide_eq_true_eq] at h
      split at h
      · next hb =>
        obtain ⟨ts, rfl, rfl, hc, hhead, htail⟩ := ih h
        refine ⟨b :: ts, by simp, by simp, by simpa using hc, by simpa using hb, fun t ht => ?_⟩
        -- the ranges are narrowed for one byte only, so the next one lies in 80 to BF
        cases ts with
        | nil => cases ht
        | cons t' ts =>
          rcases List.mem_cons.1 ht with rfl | ht
          · exact hhead _ rfl
          · exact htail t ht
      · cases h

/-- Bytes in their ranges are read as the character that they gather. -/
theorem tails_append {low high : UInt8} {ts : Bytes} (width acc : Nat) (rest : Bytes)
    (hhead : ∀ t ∈ ts.head?, low ≤ t ∧ t ≤ high) (htail : ∀ t ∈ ts.tail, 0x80 ≤ t ∧ t ≤ 0xBF) :
    tails ts.length low high width acc (ts ++ rest) =
      (.scalar (Char.ofNat (ts.foldl gather acc)), rest) := by
  induction ts generalizing low high width acc with
  | nil => cases rest <;> rfl
  | cons t ts ih =>
    have ht : (decide (low ≤ t) && decide (t ≤ high)) = true := by simpa using hhead t rfl
    simp only [List.length_cons, List.cons_append, tails, ht, if_true, List.foldl_cons]
    refine ih _ _ (fun u hu => htail u (List.mem_of_mem_head? hu)) fun u hu => ?_
    exact htail u (List.mem_of_mem_tail hu)

/-- Anything else is shorter than what is owed. -/
theorem tails_width {n : Nat} {low high : UInt8} {width acc : Nat} {bs rest : Bytes} {f : Front}
    (h : tails n low high width acc bs = (f, rest)) (hf : ∀ c, f ≠ .scalar c) :
    bs.length < rest.length + n := by
  induction bs generalizing n low high width acc with
  | nil =>
    simp only [tails] at h
    split at h
    · cases h
      exact absurd rfl (hf _)
    · next hn =>
      cases h
      simpa using Nat.pos_of_ne_zero hn
  | cons b bs ih =>
    cases n with
    | zero =>
      cases h
      exact absurd rfl (hf _)
    | succ n =>
      simp only [tails] at h
      split at h
      · have := ih h
        simp only [List.length_cons]
        omega
      · cases h
        simp

theorem toNat_val_ofNat {n : Nat} (h : n.isValidChar) : (Char.ofNat n).val.toNat = n := by
  rw [Char.ofNat, dif_pos h]
  rfl

theorem encodeChar_one {b : UInt8} (h : b.toNat < 0x80) :
    String.utf8EncodeChar (Char.ofNat b.toNat) = [b] := by
  have hn : b.toNat.isValidChar := Or.inl (by omega)
  simp only [String.utf8EncodeChar, toNat_val_ofNat hn]
  rw [if_pos (by omega), UInt8.ofNat_toNat]

theorem encodeChar_two {n : Nat} {a b : UInt8} (h1 : 0x80 ≤ n) (h2 : n ≤ 0x7FF)
    (ha : a.toNat = n / 64 + 0xC0) (hb : b.toNat = n % 64 + 0x80) :
    String.utf8EncodeChar (Char.ofNat n) = [a, b] := by
  have hn : n.isValidChar := Or.inl (by omega)
  simp only [String.utf8EncodeChar, toNat_val_ofNat hn]
  rw [if_neg (by omega), if_pos h2, Nat.mod_eq_of_lt (by omega), ← ha, ← hb,
    UInt8.ofNat_toNat, UInt8.ofNat_toNat]

theorem encodeChar_three {n : Nat} {a b c : UInt8} (hn : n.isValidChar) (h1 : 0x800 ≤ n)
    (h2 : n ≤ 0xFFFF) (ha : a.toNat = n / 4096 + 0xE0) (hb : b.toNat = n / 64 % 64 + 0x80)
    (hc : c.toNat = n % 64 + 0x80) : String.utf8EncodeChar (Char.ofNat n) = [a, b, c] := by
  simp only [String.utf8EncodeChar, toNat_val_ofNat hn]
  rw [if_neg (by omega), if_neg (by omega), if_pos h2, Nat.mod_eq_of_lt (b := 0x10) (by omega),
    ← ha, ← hb, ← hc, UInt8.ofNat_toNat, UInt8.ofNat_toNat, UInt8.ofNat_toNat]

theorem encodeChar_four {n : Nat} {a b c d : UInt8} (h1 : 0x10000 ≤ n) (h2 : n ≤ 0x10FFFF)
    (ha : a.toNat = n / 262144 + 0xF0) (hb : b.toNat = n / 4096 % 64 + 0x80)
    (hc : c.toNat = n / 64 % 64 + 0x80) (hd : d.toNat = n % 64 + 0x80) :
    String.utf8EncodeChar (Char.ofNat n) = [a, b, c, d] := by
  have hn : n.isValidChar := Or.inr ⟨by omega, by omega⟩
  simp only [String.utf8EncodeChar, toNat_val_ofNat hn]
  rw [if_neg (by omega), if_neg (by omega), if_neg (by omega),
    Nat.mod_eq_of_lt (b := 0x08) (by omega), ← ha, ← hb, ← hc, ← hd, UInt8.ofNat_toNat,
    UInt8.ofNat_toNat, UInt8.ofNat_toNat, UInt8.ofNat_toNat]

/-- Two bytes in their ranges are the encoding of what they gather. -/
theorem sequence_two {b t : UInt8} (hb : 0xC2 ≤ b.toNat ∧ b.toNat ≤ 0xDF)
    (ht : 0x80 ≤ t.toNat ∧ t.toNat ≤ 0xBF) :
    String.utf8EncodeChar (Char.ofNat ([t].foldl gather (b.toNat - 0xC0))) = [b, t] := by
  have hn : [t].foldl gather (b.toNat - 0xC0) = (b.toNat - 0xC0) * 64 + (t.toNat - 0x80) := rfl
  rw [hn]
  exact encodeChar_two (by omega) (by omega) (by omega) (by omega)

theorem sequence_three {b t u : UInt8} (hb : 0xE0 ≤ b.toNat ∧ b.toNat ≤ 0xEF)
    (ht : 0x80 ≤ t.toNat ∧ t.toNat ≤ 0xBF) (hlong : b.toNat = 0xE0 → 0xA0 ≤ t.toNat)
    (hsurrogate : b.toNat = 0xED → t.toNat ≤ 0x9F) (hu : 0x80 ≤ u.toNat ∧ u.toNat ≤ 0xBF) :
    String.utf8EncodeChar (Char.ofNat ([t, u].foldl gather (b.toNat - 0xE0))) = [b, t, u] := by
  have hn : [t, u].foldl gather (b.toNat - 0xE0) =
      ((b.toNat - 0xE0) * 64 + (t.toNat - 0x80)) * 64 + (u.toNat - 0x80) := rfl
  rw [hn]
  exact encodeChar_three (by omega) (by omega) (by omega) (by omega) (by omega) (by omega)

theorem sequence_four {b t u v : UInt8} (hb : 0xF0 ≤ b.toNat ∧ b.toNat ≤ 0xF4)
    (ht : 0x80 ≤ t.toNat ∧ t.toNat ≤ 0xBF) (hlong : b.toNat = 0xF0 → 0x90 ≤ t.toNat)
    (hlast : b.toNat = 0xF4 → t.toNat ≤ 0x8F) (hu : 0x80 ≤ u.toNat ∧ u.toNat ≤ 0xBF)
    (hv : 0x80 ≤ v.toNat ∧ v.toNat ≤ 0xBF) :
    String.utf8EncodeChar (Char.ofNat ([t, u, v].foldl gather (b.toNat - 0xF0))) =
      [b, t, u, v] := by
  have hn : [t, u, v].foldl gather (b.toNat - 0xF0) =
      (((b.toNat - 0xF0) * 64 + (t.toNat - 0x80)) * 64 + (u.toNat - 0x80)) * 64 +
        (v.toNat - 0x80) := rfl
  rw [hn]
  exact encodeChar_four (by omega) (by omega) (by omega) (by omega) (by omega) (by omega)

/-- The encoding of a character above 7F is a first byte with the bytes that it owes. -/
theorem exists_lead_of_encodeChar {c : Char} (h : 0x80 ≤ c.toNat) :
    ∃ (b : UInt8) (l : Lead) (ts : Bytes), String.utf8EncodeChar c = b :: ts ∧ lead? b = some l ∧
      ts.length = l.owed ∧ (∀ t ∈ ts.head?, l.low ≤ t ∧ t ≤ l.high) ∧
      ∀ t ∈ ts.tail, 0x80 ≤ t ∧ t ≤ 0xBF := by
  have hvalid : c.toNat < 0xD800 ∨ 0xDFFF < c.toNat ∧ c.toNat < 0x110000 := c.valid
  simp only [String.utf8EncodeChar, Char.toNat_val]
  generalize c.toNat = n at h hvalid
  rw [if_neg (by omega)]
  split
  · have hb : (UInt8.ofNat (n / 64 % 32 + 192)).toNat = n / 64 + 192 := by simp; omega
    have ht : (UInt8.ofNat (n % 64 + 128)).toNat = n % 64 + 128 := by simp; omega
    obtain ⟨l, hl, hlow, hhigh⟩ := lead?_range (b := UInt8.ofNat (n / 64 % 32 + 192)) (by omega)
    have hcases := lead?_cases hl
    refine ⟨_, l, _, rfl, hl, ?_, ?_, nofun⟩
    · simp only [List.length_singleton]
      omega
    · simp only [List.head?_cons, Option.mem_some_iff, forall_eq', UInt8.le_iff_toNat_le, ht]
      omega
  split
  · have hb : (UInt8.ofNat (n / 4096 % 16 + 224)).toNat = n / 4096 + 224 := by simp; omega
    have ht : (UInt8.ofNat (n / 64 % 64 + 128)).toNat = n / 64 % 64 + 128 := by simp; omega
    have hu : (UInt8.ofNat (n % 64 + 128)).toNat = n % 64 + 128 := by simp; omega
    obtain ⟨l, hl, hlow, hhigh⟩ := lead?_range (b := UInt8.ofNat (n / 4096 % 16 + 224)) (by omega)
    have hcases := lead?_cases hl
    refine ⟨_, l, _, rfl, hl, ?_, ?_, ?_⟩
    · simp only [List.length_cons, List.length_nil]
      omega
    · simp only [List.head?_cons, Option.mem_some_iff, forall_eq', UInt8.le_iff_toNat_le, ht]
      omega
    · simp only [List.tail_cons, List.mem_singleton, forall_eq, UInt8.le_iff_toNat_le, hu,
        UInt8.reduceToNat]
      omega
  · have hb : (UInt8.ofNat (n / 262144 % 8 + 240)).toNat = n / 262144 + 240 := by simp; omega
    have ht : (UInt8.ofNat (n / 4096 % 64 + 128)).toNat = n / 4096 % 64 + 128 := by simp; omega
    have hu : (UInt8.ofNat (n / 64 % 64 + 128)).toNat = n / 64 % 64 + 128 := by simp; omega
    have hv : (UInt8.ofNat (n % 64 + 128)).toNat = n % 64 + 128 := by simp; omega
    obtain ⟨l, hl, hlow, hhigh⟩ := lead?_range (b := UInt8.ofNat (n / 262144 % 8 + 240)) (by omega)
    have hcases := lead?_cases hl
    refine ⟨_, l, _, rfl, hl, ?_, ?_, ?_⟩
    · simp only [List.length_cons, List.length_nil]
      omega
    · simp only [List.head?_cons, Option.mem_some_iff, forall_eq', UInt8.le_iff_toNat_le, ht]
      omega
    · simp only [List.tail_cons, List.forall_mem_cons, UInt8.le_iff_toNat_le, hu, hv,
        UInt8.reduceToNat]
      exact ⟨by omega, by omega, nofun⟩

theorem encodeChar_injective : Function.Injective String.utf8EncodeChar := by
  intro c c' h
  have hc := ByteArray.utf8DecodeChar?_utf8EncodeChar_append (b := .empty) (c := c)
  rw [h, ByteArray.utf8DecodeChar?_utf8EncodeChar_append] at hc
  exact (Option.some.inj hc).symm

theorem encodeChar_of_lt {c : Char} (h : c.toNat < 0x80) :
    String.utf8EncodeChar c = [UInt8.ofNat c.toNat] := by
  simp only [String.utf8EncodeChar, Char.toNat_val]
  rw [if_pos (by omega)]

end SequenceLemmas

open SequenceLemmas

/-! ## One sequence -/

/-- What is read as a character is the encoding of that character. -/
theorem front?_scalar {bs rest : Bytes} {c : Char} (h : front? bs = some (.scalar c, rest)) :
    bs = String.utf8EncodeChar c ++ rest := by
  match bs with
  | [] => cases h
  | b :: bs =>
    simp only [front?] at h
    split at h
    · next hb =>
      cases h
      rw [encodeChar_one (by simpa [UInt8.lt_iff_toNat_lt] using hb)]
      rfl
    · split at h
      · next l hl =>
        obtain ⟨ts, rfl, hlen, rfl, hhead, htail⟩ := tails_scalar (Option.some.inj h)
        simp only [UInt8.le_iff_toNat_le, UInt8.reduceToNat] at hhead htail
        rcases lead?_cases hl with ⟨ho, h1, h2, hbits, hlow, hhigh⟩ |
          ⟨ho, h1, h2, hbits, hlow, hhigh, hlong, hsurrogate⟩ |
          ⟨ho, h1, h2, hbits, hlow, hhigh, hlong, hlast⟩
        · obtain ⟨t, rfl⟩ := List.length_eq_one_iff.1 (hlen.trans ho)
          have ht := hhead t (by simp)
          rw [hbits, sequence_two ⟨h1, h2⟩ (by omega)]
          rfl
        · obtain ⟨t, u, rfl⟩ := List.length_eq_two.1 (hlen.trans ho)
          have ht := hhead t (by simp)
          have hu := htail u (by simp)
          rw [hbits, sequence_three ⟨h1, h2⟩ (by omega) (by omega) (by omega) hu]
          rfl
        · obtain ⟨t, u, v, rfl⟩ := List.length_eq_three.1 (hlen.trans ho)
          have ht := hhead t (by simp)
          have hu := htail u (by simp)
          have hv := htail v (by simp)
          rw [hbits, sequence_four ⟨h1, h2⟩ (by omega) (by omega) (by omega) hu hv]
          rfl
      · cases h

/-- A first byte with the bytes that it owes, in their ranges. -/
theorem front?_of_lead {b : UInt8} {l : Lead} {ts : Bytes} (rest : Bytes) (hl : lead? b = some l)
    (hlen : ts.length = l.owed) (hhead : ∀ t ∈ ts.head?, l.low ≤ t ∧ t ≤ l.high)
    (htail : ∀ t ∈ ts.tail, 0x80 ≤ t ∧ t ≤ 0xBF) :
    front? (b :: (ts ++ rest)) = some (.scalar (Char.ofNat (ts.foldl gather l.bits)), rest) := by
  have hb : ¬ b < 0x80 := by
    rw [UInt8.lt_iff_toNat_lt]
    rcases lead?_cases hl with ⟨_, h, _⟩ | ⟨_, h, _⟩ | ⟨_, h, _⟩ <;> simp <;> omega
  simp only [front?, if_neg hb, hl, ← hlen, tails_append _ _ rest hhead htail]

/-- The encoding of a character is read as that character. -/
theorem front?_encodeChar (c : Char) (rest : Bytes) :
    front? (String.utf8EncodeChar c ++ rest) = some (.scalar c, rest) := by
  by_cases h : 0x80 ≤ c.toNat
  · obtain ⟨b, l, ts, hbytes, hl, hlen, hhead, htail⟩ := exists_lead_of_encodeChar h
    have hfront := front?_of_lead rest hl hlen hhead htail
    rw [← List.cons_append, ← hbytes] at hfront
    -- the character that is read has the same encoding
    have hsame := List.append_cancel_right (front?_scalar hfront)
    rw [hfront, ← encodeChar_injective hsame]
  · have hlt : c.toNat < 0x80 := Nat.not_le.1 h
    have hb : (UInt8.ofNat c.toNat).toNat = c.toNat := by simp; omega
    have hlow : UInt8.ofNat c.toNat < 0x80 := by
      rw [UInt8.lt_iff_toNat_lt, hb]
      exact hlt
    rw [encodeChar_of_lt hlt, List.singleton_append, front?, if_pos hlow, hb, Char.ofNat_toNat]

/-- The character that is put for a sequence. -/
def Front.char : Front → Char
  | scalar c => c
  | _ => replacement

/-- What is not a character has at most three bytes. -/
theorem front?_broken {bs rest : Bytes} {f : Front} (h : front? bs = some (f, rest))
    (hf : ∀ c, f ≠ .scalar c) : bs.length ≤ rest.length + 3 := by
  match bs with
  | [] => cases h
  | b :: bs =>
    simp only [front?] at h
    split at h
    · cases h
      exact absurd rfl (hf _)
    · split at h
      · next l hl =>
        have hw := tails_width (Option.some.inj h) hf
        have ho := owed_le hl
        simp only [List.length_cons]
        omega
      · cases h
        simp

/-- The character put for a sequence is written in at least as many bytes as the
sequence has. -/
theorem front?_width {bs rest : Bytes} {f : Front} (h : front? bs = some (f, rest)) :
    bs.length ≤ rest.length + f.char.utf8Size := by
  have hr : replacement.utf8Size = 3 := by decide
  cases f with
  | scalar c =>
    rw [front?_scalar h, List.length_append, String.length_utf8EncodeChar, Nat.add_comm]
    exact Nat.le_refl _
  | broken w =>
    show bs.length ≤ rest.length + replacement.utf8Size
    rw [hr]
    exact front?_broken h (by simp)
  | cut =>
    show bs.length ≤ rest.length + replacement.utf8Size
    rw [hr]
    exact front?_broken h (by simp)

/-! ## A whole byte string -/

theorem front?_eq_none_iff (bs : Bytes) : front? bs = none ↔ bs = [] := by
  constructor
  · intro h
    match bs with
    | [] => rfl
    | b :: bs =>
      simp only [front?] at h
      split at h
      · cases h
      · split at h <;> cases h
  · rintro rfl
    rfl

theorem decodeLossyChars_of_front? {bs rest : Bytes} {f : Front}
    (h : front? bs = some (f, rest)) :
    decodeLossyChars bs = f.char :: decodeLossyChars rest := by
  rw [decodeLossyChars]
  split
  · next hn => rw [h] at hn; cases hn
  · next hs =>
    rw [h] at hs
    cases hs
    cases f <;> rfl

theorem length_le_decodeLossyChars (bs : Bytes) :
    bs.length ≤ String.utf8Len (decodeLossyChars bs) := by
  cases h : front? bs with
  | none =>
    rw [(front?_eq_none_iff bs).1 h]
    exact Nat.zero_le _
  | some p =>
    obtain ⟨f, rest⟩ := p
    have hshort := front?_length h
    have hwidth := front?_width h
    have hrest := length_le_decodeLossyChars rest
    rw [decodeLossyChars_of_front? h, String.utf8Len_cons]
    omega
termination_by bs.length

/-- The characters that are read from a byte string write it. -/
theorem flatMap_encodeChar_of_decodeFrom {index : Nat} {bs : Bytes} {cs : List Char}
    (h : decodeFrom index bs = .ok cs) : cs.flatMap String.utf8EncodeChar = bs := by
  -- the recursion is on what follows the first sequence
  fun_induction decodeFrom index bs generalizing cs with
  | case1 index bs hfront =>
    cases h
    exact ((front?_eq_none_iff bs).1 hfront).symm
  | case2 index bs c rest hfront _ cs' hrest ih =>
    cases h
    rw [List.flatMap_cons, ih hrest, ← front?_scalar hfront]
  | case3 => cases h
  | case4 => cases h
  | case5 => cases h

/-- A byte string that can be read as it is, is what its text writes. -/
theorem encode_of_decode {bs : Bytes} {s : String} (h : decode bs = .ok s) : encode s = bs := by
  rw [decode] at h
  split at h
  · next cs hread =>
    cases h
    rw [encode, String.toList_ofList]
    exact flatMap_encodeChar_of_decodeFrom hread
  · cases h

/-- What characters write is read as these characters. -/
theorem decodeFrom_flatMap_encodeChar (index : Nat) (cs : List Char) :
    decodeFrom index (cs.flatMap String.utf8EncodeChar) = .ok cs := by
  induction cs generalizing index with
  | nil => rw [decodeFrom]; rfl
  | cons c cs ih =>
    have hfront := front?_encodeChar c (cs.flatMap String.utf8EncodeChar)
    rw [List.flatMap_cons, decodeFrom]
    split
    · next h => rw [hfront] at h; cases h
    · next h =>
      rw [hfront] at h
      cases h
      rw [ih]
    · next h => rw [hfront] at h; cases h
    · next h => rw [hfront] at h; cases h

/-- The bytes that can be read as they are, are those that a text writes. -/
theorem decode_eq_ok_iff {bs : Bytes} {s : String} : decode bs = .ok s ↔ encode s = bs := by
  refine ⟨encode_of_decode, ?_⟩
  rintro rfl
  simp only [decode, encode, decodeFrom_flatMap_encodeChar, String.ofList_toList]

theorem decodeLossyChars_flatMap_encodeChar (cs : List Char) :
    decodeLossyChars (cs.flatMap String.utf8EncodeChar) = cs := by
  induction cs with
  | nil => rw [decodeLossyChars]; rfl
  | cons c cs ih =>
    rw [List.flatMap_cons, decodeLossyChars_of_front? (front?_encodeChar c _), ih, Front.char]

/-- What a text writes is read without replacements. -/
theorem decodeLossy_encode (s : String) : decodeLossy (encode s) = s := by
  rw [decodeLossy, encode, decodeLossyChars_flatMap_encodeChar, String.ofList_toList]

theorem length_flatMap_encodeChar (cs : List Char) :
    (cs.flatMap String.utf8EncodeChar).length = String.utf8Len cs := by
  induction cs with
  | nil => rfl
  | cons c cs ih =>
    rw [List.flatMap_cons, List.length_append, String.length_utf8EncodeChar, ih,
      String.utf8Len_cons, Nat.add_comm]

theorem length_encode (s : String) : (encode s).length = byteLength s := by
  rw [encode, length_flatMap_encodeChar, byteLength, ← String.utf8ByteSize_ofList,
    String.ofList_toList]

/-- Reading with replacements never makes a text shorter. -/
theorem length_le_decodeLossy (bs : Bytes) : bs.length ≤ byteLength (decodeLossy bs) := by
  rw [byteLength, decodeLossy, String.utf8ByteSize_ofList]
  exact length_le_decodeLossyChars bs

end Utf8

end RequestBinding
