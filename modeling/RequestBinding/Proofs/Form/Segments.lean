import Mathlib.Data.List.TakeWhile
import RequestBinding.Form.UrlEncoded
import RequestBinding.Proofs.Text.Pieces
import RequestBinding.Proofs.Text.Utf8

/-!
# The segments of a body that is still arriving

Of a url-encoded body that has arrived in part, all segments but the last have
been ended by an ampersand and stay what they are, whatever follows. The last
one may still grow at its end, and with it the key and the value that are split
off it. What is decoded of a part is at least a third of it, so a part that is
long enough can be judged before it is complete.

Results:
1. `length_le_decodePart`: the text of a part has at least a third of its bytes.
2. `segments_append`: more bytes leave the ended segments alone and add to the
   last one.
3. `pairs_append_amp`: past an ampersand the pairs are those on both sides.
4. `splitPair_append`: as a segment grows, its key and its value only grow.
-/

namespace RequestBinding

namespace UrlEncoded

/-! ## Decoding -/

/-- The text of a part has at least a third of its bytes. -/
theorem length_le_decodePart (bs : Bytes) : bs.length ≤ 3 * byteLength (decodePart bs) := by
  have hescape := percentDecode_length (bs.map plusToSpace)
  have htext := Utf8.length_le_decodeLossy (percentDecode (bs.map plusToSpace))
  rw [List.length_map] at hescape
  rw [decodePart]
  omega

/-! ## Segments -/

theorem segments_ne_nil (bs : Bytes) : segments bs ≠ [] :=
  List.splitOn_ne_nil 0x26 bs

/-- The segments that an ampersand has ended. -/
def ended (bs : Bytes) : List Bytes :=
  (segments bs).dropLast

/-- The bytes after the last ampersand. -/
def lastSegment (bs : Bytes) : Bytes :=
  (segments bs).getLast (segments_ne_nil bs)

theorem segments_eq (bs : Bytes) : segments bs = ended bs ++ [lastSegment bs] :=
  (List.dropLast_concat_getLast (segments_ne_nil bs)).symm

theorem ended_eq_of_segments {bs last : Bytes} {done : List Bytes}
    (h : segments bs = done ++ [last]) : ended bs = done ∧ lastSegment bs = last := by
  have h' : ended bs ++ [lastSegment bs] = done ++ [last] := (segments_eq bs).symm.trans h
  exact List.append_singleton_inj.1 h'

theorem segments_cons_amp (bs : Bytes) : segments (0x26 :: bs) = [] :: segments bs :=
  List.splitOn_append_cons_self [] bs

/-- A byte that is no ampersand goes to the first segment. -/
theorem segments_cons_of_ne {b : UInt8} {bs s : Bytes} {ss : List Bytes} (h : b ≠ 0x26)
    (hs : segments bs = s :: ss) : segments (b :: bs) = (b :: s) :: ss := by
  rw [segments] at hs ⊢
  rw [List.splitOn_cons_eq_if_modifyHead, if_neg (by simpa using h), hs, List.modifyHead_cons]

/-- More bytes leave the ended segments alone and add to the last one. -/
theorem segments_append (bs : Bytes) {more s : Bytes} {ss : List Bytes}
    (hm : segments more = s :: ss) :
    segments (bs ++ more) = ended bs ++ (lastSegment bs ++ s) :: ss := by
  induction bs with
  | nil => exact hm
  | cons b bs ih =>
    by_cases hb : b = 0x26
    · subst hb
      have hs : segments (0x26 :: bs) = ([] :: ended bs) ++ [lastSegment bs] := by
        rw [segments_cons_amp, segments_eq bs]
        rfl
      obtain ⟨he, hl⟩ := ended_eq_of_segments hs
      rw [List.cons_append, segments_cons_amp, ih, he, hl]
      rfl
    · -- the byte joins the first segment, which is the last one if none has ended
      have hsplit := segments_eq bs
      cases hd : ended bs with
      | nil =>
        rw [hd] at hsplit ih
        have hs : segments (b :: bs) = [] ++ [b :: lastSegment bs] :=
          segments_cons_of_ne hb hsplit
        obtain ⟨he, hl⟩ := ended_eq_of_segments hs
        rw [List.cons_append, segments_cons_of_ne hb ih, he, hl]
        rfl
      | cons e es =>
        rw [hd] at hsplit ih
        have hs : segments (b :: bs) = ((b :: e) :: es) ++ [lastSegment bs] :=
          segments_cons_of_ne hb hsplit
        obtain ⟨he, hl⟩ := ended_eq_of_segments hs
        rw [List.cons_append, segments_cons_of_ne hb ih, he, hl]
        rfl

/-- Without an ampersand all of what follows goes to the last segment. -/
theorem ended_append_of_no_amp (bs : Bytes) {more : Bytes} (h : 0x26 ∉ more) :
    ended (bs ++ more) = ended bs ∧ lastSegment (bs ++ more) = lastSegment bs ++ more :=
  ended_eq_of_segments (segments_append bs (List.splitOn_eq_singleton h))

/-- An ampersand ends the last segment. -/
theorem ended_append_amp (bs : Bytes) :
    ended (bs ++ [0x26]) = segments bs ∧ lastSegment (bs ++ [0x26]) = [] :=
  ended_eq_of_segments (List.splitOn_append_cons_self bs [])

/-! ## Pairs -/

/-- The pairs of segments; an empty segment has none. -/
def pairsOf (ss : List Bytes) : List (String × String) :=
  (ss.filter (!·.isEmpty)).map pair

theorem pairs_eq_pairsOf (bs : Bytes) : pairs bs = pairsOf (segments bs) := rfl

theorem pairsOf_append (ss ts : List Bytes) : pairsOf (ss ++ ts) = pairsOf ss ++ pairsOf ts := by
  simp [pairsOf]

theorem pairsOf_singleton_of_ne {s : Bytes} (h : s ≠ []) : pairsOf [s] = [pair s] := by
  simp [pairsOf, h]

/-- Past an ampersand the pairs are those on both sides of it. -/
theorem pairs_append_amp (bs rest : Bytes) :
    pairs (bs ++ 0x26 :: rest) = pairs bs ++ pairs rest := by
  have hall : segments (bs ++ 0x26 :: rest) = segments bs ++ segments rest :=
    List.splitOn_append_cons_self bs rest
  rw [pairs_eq_pairsOf, hall, pairsOf_append]
  rfl

theorem pair_mem_pairs {bs s : Bytes} (hs : s ∈ segments bs) (hne : s ≠ []) :
    pair s ∈ pairs bs := by
  rw [pairs]
  exact List.mem_map_of_mem (List.mem_filter.2 ⟨hs, by simpa using hne⟩)

/-- However a body goes on, its last segment is the beginning of one. -/
theorem exists_segment_append (bs rest : Bytes) :
    ∃ more, lastSegment bs ++ more ∈ segments (bs ++ rest) := by
  obtain ⟨s, ss, hr⟩ := List.exists_cons_of_ne_nil (segments_ne_nil rest)
  refine ⟨s, ?_⟩
  rw [segments_append bs hr]
  exact List.mem_append_right _ List.mem_cons_self

theorem length_lastSegment_le (bs : Bytes) : (lastSegment bs).length ≤ bs.length :=
  (sublist_of_mem_splitOn (List.getLast_mem (segments_ne_nil bs))).length_le

/-! ## The two parts of a segment -/

/-- As a segment grows, its key and its value only grow. -/
theorem splitPair_append (s more : Bytes) :
    (splitPair s).1 <+: (splitPair (s ++ more)).1 ∧
      (splitPair s).2 <+: (splitPair (s ++ more)).2 := by
  induction s with
  | nil => exact ⟨List.nil_prefix, List.nil_prefix⟩
  | cons b s ih =>
    obtain ⟨hkey, hvalue⟩ := ih
    by_cases hb : b = 0x3D
    · subst hb
      simp [splitPair]
    · have hne : (b != 0x3D) = true := by simpa using hb
      simp only [splitPair, List.cons_append, List.takeWhile_cons, List.dropWhile_cons, hne, if_true]
      exact ⟨(List.prefix_cons_inj b).2 hkey, hvalue⟩

theorem length_splitPair_le (s : Bytes) :
    (splitPair s).1.length ≤ s.length ∧ (splitPair s).2.length ≤ s.length := by
  rw [splitPair]
  refine ⟨(List.takeWhile_sublist _).length_le, ?_⟩
  exact ((List.drop_sublist _ _).trans (List.dropWhile_sublist _)).length_le

end UrlEncoded

end RequestBinding
