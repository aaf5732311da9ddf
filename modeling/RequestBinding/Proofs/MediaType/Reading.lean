import RequestBinding.MediaType.Reading
import RequestBinding.Proofs.Text.Case

/-!
# Letter case in media types

A media type is scanned by marks that are no letters, so its parts lie where they lie,
whatever the letter case. Their text is kept in small letters, except for the values of
parameters, of which a charset is compared without regard to case. Two texts that differ
in letter case alone are therefore both media types or neither, and no part of them that
matters to a formatter differs (`Alike`).

Results:
1. `Scan.run_map_lowerByte`: a scan sees no letter case.
2. `Scan.run_inOrder`: type, subtype and suffix lie before the parameters.
3. `lowered_shownBytes_head`, `lowered_shownBytes_name`: what is kept in small letters.
4. `read?_alike`: reading a text in other letter case.
-/

namespace RequestBinding

namespace MediaType

/-! ## Scanning -/

theorem lowerByte_eq_or (b : UInt8) :
    lowerByte b = b ∨ 0x41 ≤ b.toNat ∧ b.toNat ≤ 0x5A ∧ (lowerByte b).toNat = b.toNat + 0x20 := by
  by_cases h : 0x41 ≤ b.toNat ∧ b.toNat ≤ 0x5A
  · refine .inr ⟨h.1, h.2, ?_⟩
    rw [toNat_lowerByte, lowerCode, if_pos h]
  · left
    rw [← UInt8.toNat_inj, toNat_lowerByte, lowerCode, if_neg h]

/-- A byte below the letters is no letter in any case. -/
theorem lowerByte_beq {mark : UInt8} (h : mark.toNat < 0x41) (b : UInt8) :
    (lowerByte b == mark) = (b == mark) := by
  rcases lowerByte_eq_or b with hb | ⟨h1, h2, h3⟩
  · rw [hb]
  · have hb : b ≠ mark := by
      rintro rfl
      omega
    have hl : lowerByte b ≠ mark := by
      rintro rfl
      omega
    rw [beq_eq_false_iff_ne.2 hb, beq_eq_false_iff_ne.2 hl]

theorem isTokenByte_lowerByte (b : UInt8) : isTokenByte (lowerByte b) = isTokenByte b := by
  rcases lowerByte_eq_or b with hb | ⟨h1, h2, h3⟩
  · rw [hb]
  · have htoken : isTokenByte b = true := by
      simp [isTokenByte, UInt8.le_iff_toNat_le]
      omega
    have hlower : isTokenByte (lowerByte b) = true := by
      simp [isTokenByte, UInt8.le_iff_toNat_le]
      omega
    rw [htoken, hlower]

theorem isQuotedByte_lowerByte (b : UInt8) : isQuotedByte (lowerByte b) = isQuotedByte b := by
  rcases lowerByte_eq_or b with hb | ⟨h1, h2, h3⟩
  · rw [hb]
  · have hquoted : isQuotedByte b = true := by
      simp [isQuotedByte, UInt8.lt_iff_toNat_lt, ← UInt8.toNat_inj]
      omega
    have hlower : isQuotedByte (lowerByte b) = true := by
      simp [isQuotedByte, UInt8.lt_iff_toNat_lt, ← UInt8.toNat_inj]
      omega
    rw [hquoted, hlower]

namespace Scan

/-- A step looks at marks only. The byte itself stands in an error at most. -/
theorem step_lowerByte (s : Scan) (i : Nat) (b : UInt8) :
    (s.step i (lowerByte b)).toOption = (s.step i b).toOption := by
  have hmark (m : UInt8) (hm : m.toNat < 0x41) := lowerByte_beq hm b
  unfold step
  split <;>
    · simp only [hmark 0x2F (by decide), hmark 0x2B (by decide), hmark 0x3B (by decide),
        hmark 0x20 (by decide), hmark 0x3D (by decide), hmark 0x22 (by decide),
        isTokenByte_lowerByte, isQuotedByte_lowerByte, apply_ite Except.toOption]
      rfl

/-- A scan sees no letter case. -/
theorem run_map_lowerByte (s : Scan) (i : Nat) (bs : Bytes) :
    (s.run i (bs.map lowerByte)).toOption = (s.run i bs).toOption := by
  induction bs generalizing s i with
  | nil => rfl
  | cons b bs ih =>
    have hstep := s.step_lowerByte i b
    rw [List.map_cons, run, run]
    cases h : s.step i b with
    | ok s' =>
      cases h' : s.step i (lowerByte b) with
      | ok s'' =>
        rw [h, h'] at hstep
        cases hstep
        exact ih s' (i + 1)
      | error e =>
        rw [h, h'] at hstep
        cases hstep
    | error e =>
      cases h' : s.step i (lowerByte b) with
      | ok s'' =>
        rw [h, h'] at hstep
        cases hstep
      | error e' => rfl

/-! ## Places -/

/-- Before position `i` the parts of the head lie before the parameters. -/
def Placed (s : Scan) (i : Nat) : Prop :=
  match s.stage with
  | .type => s.semicolon? = none
  | .subtype _ plus? => s.semicolon? = none ∧ s.slash ≤ i ∧ ∀ p ∈ plus?, p ≤ i
  | _ => ∃ e, s.semicolon? = some e ∧ s.slash ≤ e ∧ ∀ p ∈ s.plus?, p ≤ e

/-- The parts of the head of a text of `n` bytes lie before the parameters. -/
structure InOrder (s : Scan) (n : Nat) : Prop where
  slash : s.slash ≤ s.semicolon?.getD n
  plus : ∀ p ∈ s.plus?, p ≤ s.semicolon?.getD n

theorem step_placed {s s' : Scan} {i : Nat} {b : UInt8} (hs : s.Placed i)
    (h : s.step i b = .ok s') : s'.Placed (i + 1) := by
  obtain ⟨stage, slash, plus?, semicolon?, params⟩ := s
  cases stage with
  | type =>
    simp only [step] at h
    split_ifs at h
    · cases h
      exact hs
    · cases h
      exact ⟨hs, Nat.le_succ i, by simp⟩
  | subtype start last? =>
    obtain ⟨hnone, hslash, hplus⟩ := hs
    simp only [step] at h
    split_ifs at h
    · cases h
      exact ⟨hnone, Nat.le_succ_of_le hslash, by simp⟩
    · cases h
      exact ⟨i, rfl, hslash, hplus⟩
    · cases h
      exact ⟨hnone, Nat.le_succ_of_le hslash, fun p hp => Nat.le_succ_of_le (hplus p hp)⟩
  | name | value | quotedValue | closed =>
    simp only [step] at h
    split_ifs at h <;>
      · cases h
        exact hs

theorem finish_inOrder {s s' : Scan} {n : Nat} (hs : s.Placed n) (h : s.finish n = .ok s') :
    s'.InOrder n := by
  obtain ⟨stage, slash, plus?, semicolon?, params⟩ := s
  cases stage with
  | type | quotedValue => cases h
  | subtype start last? =>
    obtain ⟨hnone, hslash, hplus⟩ := hs
    cases hnone
    cases h
    exact ⟨hslash, hplus⟩
  | value | closed =>
    obtain ⟨e, he, hslash, hplus⟩ := hs
    cases he
    cases h
    exact ⟨hslash, hplus⟩
  | name start =>
    obtain ⟨e, he, hslash, hplus⟩ := hs
    cases he
    simp only [finish] at h
    split_ifs at h
    cases h
    exact ⟨hslash, hplus⟩

/-- Type, subtype and suffix lie before the parameters. -/
theorem run_inOrder {s s' : Scan} {i : Nat} {bs : Bytes} (hs : s.Placed i)
    (h : s.run i bs = .ok s') : s'.InOrder (i + bs.length) := by
  induction bs generalizing s i with
  | nil => exact finish_inOrder hs h
  | cons b bs ih =>
    rw [run] at h
    split at h
    next t hstep =>
      have := ih (step_placed hs hstep) h
      rwa [List.length_cons, Nat.add_comm bs.length, ← Nat.add_assoc]
    · cases h

end Scan

/-! ## Small letters in place -/

theorem Range.of_map (r : Range) (bs : Array UInt8) (f : UInt8 → UInt8) :
    r.of (bs.map f) = (r.of bs).map f := by
  simp [Range.of]

theorem map_lowerByte_map (b? : Option UInt8) :
    (b?.map lowerByte).map lowerByte = b?.map lowerByte := by
  cases b? with
  | none => rfl
  | some b => exact congrArg some (lowerByte_lowerByte b)

/-- A range holds no capital letter. -/
def Lowered (bs : Array UInt8) (r : Range) : Prop :=
  ∀ i, r.first ≤ i → i < r.last → bs[i]?.map lowerByte = bs[i]?

theorem Lowered.map_of {bs : Array UInt8} {r : Range} (h : Lowered bs r) :
    (r.of bs).map lowerByte = r.of bs := by
  apply List.ext_getElem?
  intro i
  rw [List.getElem?_map, Range.of, Array.getElem?_toList, Array.getElem?_extract]
  split
  · exact h (r.first + i) (by omega) (by omega)
  · rfl

/-- Texts that differ in letter case alone agree where neither has a capital letter. -/
theorem Lowered.of_eq {bs bs' : Array UInt8} {r : Range} (h : Lowered bs r) (h' : Lowered bs' r)
    (hmap : bs.map lowerByte = bs'.map lowerByte) : r.of bs = r.of bs' :=
  calc
    r.of bs = r.of (bs.map lowerByte) := by rw [r.of_map, h.map_of]
    _ = r.of (bs'.map lowerByte) := by rw [hmap]
    _ = r.of bs' := by rw [r.of_map, h'.map_of]

theorem Lowered.mono {bs : Array UInt8} {q r : Range} (h : Lowered bs r)
    (hfirst : r.first ≤ q.first) (hlast : q.last ≤ r.last) : Lowered bs q :=
  fun i hi hi' => h i (Nat.le_trans hfirst hi) (Nat.lt_of_lt_of_le hi' hlast)

theorem getElem?_foldl_modify (l : List Nat) (bs : Array UInt8) (i : Nat) :
    (l.foldl (fun bs i => bs.modify i lowerByte) bs)[i]? =
      if i ∈ l then bs[i]?.map lowerByte else bs[i]? := by
  induction l generalizing bs with
  | nil => simp
  | cons j l ih =>
    rw [List.foldl_cons, ih, Array.getElem?_modify]
    by_cases hj : i = j
    · subst hj
      rw [if_pos rfl, if_pos List.mem_cons_self, map_lowerByte_map, ite_self]
    · simp [hj, Ne.symm hj]

theorem getElem?_lowerRange (bs : Array UInt8) (r : Range) (i : Nat) :
    (lowerRange bs r)[i]? =
      if r.first ≤ i ∧ i < r.last then bs[i]?.map lowerByte else bs[i]? := by
  rw [lowerRange, getElem?_foldl_modify]
  congr 1
  rw [List.mem_range'_1, eq_iff_iff]
  omega

theorem map_lowerRange (bs : Array UInt8) (r : Range) :
    (lowerRange bs r).map lowerByte = bs.map lowerByte := by
  apply Array.ext_getElem?
  intro i
  rw [Array.getElem?_map, Array.getElem?_map, getElem?_lowerRange]
  split
  · exact map_lowerByte_map bs[i]?
  · rfl

theorem lowered_lowerRange (bs : Array UInt8) (r : Range) : Lowered (lowerRange bs r) r := by
  intro i hi hi'
  rw [getElem?_lowerRange, if_pos ⟨hi, hi'⟩]
  exact map_lowerByte_map bs[i]?

theorem Lowered.lowerRange {bs : Array UInt8} {q : Range} (h : Lowered bs q) (r : Range) :
    Lowered (lowerRange bs r) q := by
  intro i hi hi'
  rw [getElem?_lowerRange]
  split
  · rw [h i hi hi', h i hi hi']
  · exact h i hi hi'

/-- A parameter's name is always put in small letters, its value if it is a charset. -/
theorem lowerParam_eq (bs : Array UInt8) (p : Range × Range) :
    lowerParam bs p = lowerRange bs p.1 ∨
      lowerParam bs p = lowerRange (lowerRange bs p.1) p.2 := by
  by_cases h : (p.1.of (lowerRange bs p.1) == charsetBytes) = true
  · exact .inr (if_pos h)
  · exact .inl (if_neg h)

theorem map_lowerParam (bs : Array UInt8) (p : Range × Range) :
    (lowerParam bs p).map lowerByte = bs.map lowerByte := by
  rcases lowerParam_eq bs p with h | h <;> simp only [h, map_lowerRange]

theorem lowered_lowerParam_of_name {bs : Array UInt8} {p : Range × Range} {q : Range}
    (h : Lowered (lowerRange bs p.1) q) : Lowered (lowerParam bs p) q := by
  rcases lowerParam_eq bs p with hp | hp <;> rw [hp]
  · exact h
  · exact h.lowerRange p.2

theorem lowered_lowerParam (bs : Array UInt8) (p : Range × Range) :
    Lowered (lowerParam bs p) p.1 :=
  lowered_lowerParam_of_name (lowered_lowerRange bs p.1)

theorem Lowered.lowerParam {bs : Array UInt8} {q : Range} (hq : Lowered bs q)
    (p : Range × Range) : Lowered (lowerParam bs p) q :=
  lowered_lowerParam_of_name (hq.lowerRange p.1)

theorem map_foldl_lowerParam (params : List (Range × Range)) (bs : Array UInt8) :
    (params.foldl lowerParam bs).map lowerByte = bs.map lowerByte := by
  induction params generalizing bs with
  | nil => rfl
  | cons p params ih => rw [List.foldl_cons, ih, map_lowerParam]

theorem Lowered.foldl_lowerParam {bs : Array UInt8} {q : Range} (h : Lowered bs q)
    (params : List (Range × Range)) : Lowered (params.foldl MediaType.lowerParam bs) q := by
  induction params generalizing bs with
  | nil => exact h
  | cons p params ih => exact ih (h.lowerParam p)

theorem lowered_foldl_lowerParam {params : List (Range × Range)} {p : Range × Range}
    (hp : p ∈ params) (bs : Array UInt8) : Lowered (params.foldl lowerParam bs) p.1 := by
  induction params generalizing bs with
  | nil => cases hp
  | cons q params ih =>
    rcases List.mem_cons.1 hp with rfl | hp
    · exact (lowered_lowerParam bs p).foldl_lowerParam params
    · exact ih hp (lowerParam bs q)

/-! ## The parts -/

/-- The kept bytes of a text whose parameters begin at `semicolon`. -/
def shownBytes (bs : Array UInt8) (semicolon : Nat) (params : List (Range × Range)) :
    Array UInt8 :=
  let head := lowerRange bs ⟨0, semicolon⟩
  if params.isEmpty then head.extract 0 semicolon else params.foldl lowerParam head

theorem lowered_shownBytes_head (bs : Array UInt8) {semicolon : Nat} {r : Range}
    (hr : r.last ≤ semicolon) (params : List (Range × Range)) :
    Lowered (shownBytes bs semicolon params) r := by
  have hhead : Lowered (lowerRange bs ⟨0, semicolon⟩) r :=
    (lowered_lowerRange bs ⟨0, semicolon⟩).mono (Nat.zero_le _) hr
  rw [shownBytes]
  split
  · intro i hi hi'
    rw [Array.getElem?_extract]
    split
    · rw [Nat.zero_add]
      exact hhead i hi hi'
    · rfl
  · exact hhead.foldl_lowerParam params

theorem lowered_shownBytes_name (bs : Array UInt8) (semicolon : Nat)
    {params : List (Range × Range)} {p : Range × Range} (hp : p ∈ params) :
    Lowered (shownBytes bs semicolon params) p.1 := by
  have hne : params.isEmpty = false := List.isEmpty_eq_false_iff.2 (List.ne_nil_of_mem hp)
  rw [shownBytes, hne]
  exact lowered_foldl_lowerParam hp _

section

variable {bs bs' : Array UInt8} (hmap : bs.map lowerByte = bs'.map lowerByte)
include hmap

theorem map_of_congr (r : Range) : (r.of bs).map lowerByte = (r.of bs').map lowerByte := by
  rw [← r.of_map, hmap, r.of_map]

theorem map_shownBytes_congr (semicolon : Nat) (params : List (Range × Range)) :
    (shownBytes bs semicolon params).map lowerByte =
      (shownBytes bs' semicolon params).map lowerByte := by
  unfold shownBytes
  split
  · rw [Array.map_extract, Array.map_extract, map_lowerRange, map_lowerRange, hmap]
  · rw [map_foldl_lowerParam, map_foldl_lowerParam, map_lowerRange, map_lowerRange, hmap]

theorem keptParams_congr (semicolon : Nat) (params : List (Range × Range)) :
    keptParams bs semicolon params = keptParams bs' semicolon params := by
  have hutf8 (p : Range × Range) : declaresUtf8 bs semicolon p = declaresUtf8 bs' semicolon p := by
    rw [declaresUtf8, declaresUtf8, map_of_congr hmap, map_of_congr hmap]
  match params with
  | [] | [_] => rfl
  | p :: q :: rest => rw [keptParams, keptParams, hutf8]

end

/-- What a scan cuts out of the kept bytes. -/
def parts (s : Scan) (semicolon : Nat) (params : List (Range × Range)) (shown : Array UInt8) :
    MediaType where
  type := Utf8.decodeLossy ((Range.mk 0 s.slash).of shown)
  subtype := Utf8.decodeLossy ((Range.mk (s.slash + 1) (s.plus?.getD semicolon)).of shown)
  suffix? := s.plus?.map fun p => Utf8.decodeLossy ((Range.mk (p + 1) semicolon).of shown)
  params := params.map fun p => (Utf8.decodeLossy (p.1.of shown), Utf8.decodeLossy (p.2.of shown))
  text := Utf8.decodeLossy shown.toList

theorem ofScan_eq_parts {bs : Array UInt8} {s : Scan} {semicolon : Nat}
    {params : List (Range × Range)} (hsemicolon : s.semicolon?.getD bs.size = semicolon)
    (hparams : keptParams bs semicolon s.params.reverse = params) :
    ofScan bs s = parts s semicolon params (shownBytes bs semicolon params) := by
  subst hsemicolon hparams
  rfl

/-! ## Letter case -/

/-- No part of two media types that matters to a formatter differs. -/
structure Alike (m m' : MediaType) : Prop where
  type : m.type = m'.type
  subtype : m.subtype = m'.subtype
  suffix : m.suffix? = m'.suffix?
  charset : m.charset? = m'.charset?

section

variable {shown shown' : Array UInt8} {params : List (Range × Range)}

/-- A charset is found by its name and read without regard to letter case. -/
theorem charset?_parts_congr (s : Scan) (semicolon : Nat)
    (hshown : shown.map lowerByte = shown'.map lowerByte)
    (hname : ∀ p ∈ params, p.1.of shown = p.1.of shown') :
    (parts s semicolon params shown).charset? = (parts s semicolon params shown').charset? := by
  have hvalue (r : Range) : asciiLower (Utf8.decodeLossy (r.of shown)) =
      asciiLower (Utf8.decodeLossy (r.of shown')) := by
    rw [Utf8.asciiLower_decodeLossy, Utf8.asciiLower_decodeLossy, map_of_congr hshown]
  simp only [charset?, param?, parts]
  induction params with
  | nil => rfl
  | cons p params ih =>
    simp only [List.map_cons, List.lookup_cons, hname p List.mem_cons_self]
    split
    · simp only [Option.map_some, hvalue]
    · exact ih fun q hq => hname q (List.mem_cons_of_mem p hq)

theorem parts_alike {s : Scan} {semicolon : Nat}
    (hshown : shown.map lowerByte = shown'.map lowerByte)
    (hhead : ∀ r : Range, r.last ≤ semicolon → r.of shown = r.of shown')
    (hname : ∀ p ∈ params, p.1.of shown = p.1.of shown')
    (hslash : s.slash ≤ semicolon) (hplus : ∀ p ∈ s.plus?, p ≤ semicolon) :
    Alike (parts s semicolon params shown) (parts s semicolon params shown') where
  type := by simp only [parts, hhead ⟨0, s.slash⟩ hslash]
  subtype := by
    have hlast : s.plus?.getD semicolon ≤ semicolon := by
      cases hp : s.plus? with
      | none => exact Nat.le_refl semicolon
      | some p => exact hplus p hp
    simp only [parts, hhead ⟨s.slash + 1, s.plus?.getD semicolon⟩ hlast]
  suffix := by
    have htext (p : Nat) := hhead ⟨p + 1, semicolon⟩ (Nat.le_refl semicolon)
    simp only [parts, htext]
  charset := charset?_parts_congr s semicolon hshown hname

end

/-- The parts of texts that differ in letter case alone. -/
theorem ofScan_alike {bs bs' : Array UInt8} (hmap : bs.map lowerByte = bs'.map lowerByte)
    {s : Scan} (hs : s.InOrder bs.size) : Alike (ofScan bs s) (ofScan bs' s) := by
  have hsize : bs'.size = bs.size := by
    rw [← Array.size_map, ← hmap, Array.size_map]
  have hparams := keptParams_congr hmap (s.semicolon?.getD bs.size) s.params.reverse
  have hshown := map_shownBytes_congr hmap (s.semicolon?.getD bs.size)
    (keptParams bs (s.semicolon?.getD bs.size) s.params.reverse)
  rw [ofScan_eq_parts rfl rfl, ofScan_eq_parts (congrArg s.semicolon?.getD hsize) hparams.symm]
  exact parts_alike hshown
    (fun r hr => (lowered_shownBytes_head bs hr _).of_eq (lowered_shownBytes_head bs' hr _) hshown)
    (fun p hp => (lowered_shownBytes_name bs _ hp).of_eq
      (lowered_shownBytes_name bs' _ hp) hshown)
    hs.slash hs.plus

/-! ## Reading -/

theorem read?_eq (s : String) :
    read? s = (Scan.start.run 0 (Utf8.encode s)).toOption.map
      (ofScan (Utf8.encode s).toArray) := by
  simp only [read?, read]
  cases Scan.start.run 0 (Utf8.encode s) <;> rfl

/-- Texts that differ in letter case alone are both media types or neither, and nothing that
matters to a formatter differs. -/
theorem read?_alike {s s' : String} (h : asciiLower s = asciiLower s') :
    Option.Rel Alike (read? s) (read? s') := by
  have hbytes : (Utf8.encode s).map lowerByte = (Utf8.encode s').map lowerByte := by
    rw [← Utf8.encode_asciiLower, ← Utf8.encode_asciiLower, h]
  have hscan : (Scan.start.run 0 (Utf8.encode s)).toOption =
      (Scan.start.run 0 (Utf8.encode s')).toOption := by
    rw [← Scan.run_map_lowerByte, hbytes, Scan.run_map_lowerByte]
  rw [read?_eq, read?_eq, ← hscan]
  cases hrun : Scan.start.run 0 (Utf8.encode s) with
  | error e => exact .none
  | ok scan =>
    have hstart : Scan.start.Placed 0 := rfl
    have horder := Scan.run_inOrder hstart hrun
    rw [Nat.zero_add, ← List.size_toArray] at horder
    exact .some (ofScan_alike (by rw [List.map_toArray, List.map_toArray, hbytes]) horder)

end MediaType

end RequestBinding
