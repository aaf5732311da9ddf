import Mathlib.Data.List.TakeWhile
import RequestBinding.Config.Validation
import RequestBinding.Proofs.Text.Case
import RequestBinding.Proofs.Text.Pieces
import RequestBinding.Telemetry.Start

/-!
# Configured levels and log filters

The level of a configuration is documented as a list of directives, each a level by name or a
target with such a level after an equals sign (`LevelDirective`). The check of a configuration
takes every list of them, whatever the letter case and the blanks between them. It looks at the
end of a directive only, so it takes a target too that has equals signs of its own. The log does
not: such a level is no filter.

Results:
1. `isValidLevel_iff`: the levels that are taken.
2. `EndsInLevel.directive_iff`: of what is taken, directives are what has one equals sign at most.
3. `isFilter_eq_false`, `isFilter_of_directives`: what the log makes of both.
4. `validate_level`: all of this, of a configuration that is validated.
-/

namespace RequestBinding

/-! ## Levels by name -/

theorem isAlpha_iff (c : Char) :
    c.isAlpha = true ↔
      0x41 ≤ c.toNat ∧ c.toNat ≤ 0x5A ∨ 0x61 ≤ c.toNat ∧ c.toNat ≤ 0x7A := by
  unfold Char.isAlpha Char.isUpper Char.isLower
  simp [UInt32.le_iff_toNat_le]

theorem isAlpha_of_toLower {c : Char} (h : c.toLower.isAlpha = true) : c.isAlpha = true := by
  rw [isAlpha_iff, toNat_toLower, lowerCode] at h
  rw [isAlpha_iff]
  split at h <;> omega

theorem isBlank_of_isAlpha {c : Char} (h : c.isAlpha = true) : isBlank c = false := by
  rw [isAlpha_iff] at h
  simp [isBlank, blankRanges]
  omega

section

variable {l : String}

/-- A level is written in letters. -/
theorem isAlpha_of_isLevelName (h : isLevelName l = true) : ∀ c ∈ l.toList, c.isAlpha = true := by
  have hnames : (levelNames.all fun n => n.toList.all Char.isAlpha) = true := by decide
  have hl : asciiLower l ∈ levelNames := List.contains_iff_mem.1 h
  intro c hc
  have hlower : c.toLower ∈ (asciiLower l).toList := by
    rw [asciiLower, String.toList_ofList]
    exact List.mem_map_of_mem hc
  have hname := List.all_eq_true.1 hnames _ hl
  exact isAlpha_of_toLower (List.all_eq_true.1 hname _ hlower)

theorem isBlank_of_mem_level (h : isLevelName l = true) {c : Char} (hc : c ∈ l.toList) :
    isBlank c = false :=
  isBlank_of_isAlpha (isAlpha_of_isLevelName h c hc)

theorem not_mem_of_isLevelName (h : isLevelName l = true) {c : Char} (hc : c.isAlpha = false) :
    c ∉ l.toList := by
  intro hmem
  rw [isAlpha_of_isLevelName h c hmem] at hc
  cases hc

theorem ne_nil_of_isLevelName (h : isLevelName l = true) : l.toList ≠ [] := by
  intro hnil
  rw [String.toList_eq_nil_iff] at hnil
  rw [hnil] at h
  revert h
  decide

end

/-! ## Directives -/

/-- A directive as it is documented: a level, or a target with a level after the only equals
sign. -/
inductive LevelDirective : String → Prop
  | level {l : String} (hl : isLevelName l = true) : LevelDirective l
  | targeted {t l : String} (ht : '=' ∉ t.toList) (hl : isLevelName l = true) :
      LevelDirective (t ++ "=" ++ l)

/-- A directive as it is checked: the target may be anything. -/
inductive EndsInLevel : String → Prop
  | level {l : String} (hl : isLevelName l = true) : EndsInLevel l
  | targeted {t l : String} (hl : isLevelName l = true) : EndsInLevel (t ++ "=" ++ l)

variable {d s t l : String}

theorem LevelDirective.endsInLevel (h : LevelDirective d) : EndsInLevel d := by
  cases h with
  | level hl => exact .level hl
  | targeted _ hl => exact .targeted hl

theorem toList_targeted (t l : String) : (t ++ "=" ++ l).toList = t.toList ++ '=' :: l.toList := by
  simp only [String.toList_append, List.append_assoc]
  rfl

theorem count_targeted (hl : isLevelName l = true) :
    (t ++ "=" ++ l).toList.count '=' = t.toList.count '=' + 1 := by
  have hzero := List.count_eq_zero_of_not_mem (not_mem_of_isLevelName hl (c := '=') rfl)
  rw [toList_targeted, List.count_append, List.count_cons_self, hzero]

/-- Of what is checked, the directives are what has one equals sign at most. -/
theorem EndsInLevel.directive_iff (h : EndsInLevel d) :
    LevelDirective d ↔ d.toList.count '=' ≤ 1 := by
  constructor
  · intro hd
    cases hd with
    | level hl =>
      rw [List.count_eq_zero_of_not_mem (not_mem_of_isLevelName hl rfl)]
      exact Nat.zero_le 1
    | targeted ht hl =>
      rw [count_targeted hl, List.count_eq_zero_of_not_mem ht]
  · intro hcount
    cases h with
    | level hl => exact .level hl
    | targeted hl =>
      rw [count_targeted hl] at hcount
      exact .targeted (List.count_eq_zero.1 (by omega)) hl

/-! ## The check -/

theorem forall_bne_of_not_mem {mark : Char} {cs : List Char} (h : mark ∉ cs) :
    ∀ c ∈ cs, (c != mark) = true := by
  intro c hc
  refine bne_iff_ne.2 ?_
  rintro rfl
  exact h hc

theorem directiveEnd_of_no_eq (h : '=' ∉ d.toList) : directiveEnd d = d := by
  have hall := forall_bne_of_not_mem (mt List.mem_reverse.1 h)
  rw [directiveEnd, List.takeWhile_eq_self_iff.2 hall, List.reverse_reverse, String.ofList_toList]

theorem directiveEnd_targeted (h : '=' ∉ l.toList) : directiveEnd (t ++ "=" ++ l) = l := by
  have hall := forall_bne_of_not_mem (mt List.mem_reverse.1 h)
  have hstop : ('=' :: t.toList.reverse).takeWhile (· != '=') = [] := rfl
  rw [directiveEnd, toList_targeted, List.reverse_append, List.reverse_cons, List.append_assoc,
    List.takeWhile_append_of_pos hall, List.singleton_append, hstop, List.append_nil,
    List.reverse_reverse, String.ofList_toList]

/-- Text with an equals sign is cut at its last one. -/
theorem exists_target (h : '=' ∈ d.toList) : ∃ t l, d = t ++ "=" ++ l ∧ '=' ∉ l.toList := by
  obtain ⟨after, before, hsplit, hafter⟩ := List.eq_append_cons_of_mem (List.mem_reverse.2 h)
  refine ⟨String.ofList before.reverse, String.ofList after.reverse, ?_, ?_⟩
  · rw [← String.toList_inj, toList_targeted, String.toList_ofList, String.toList_ofList,
      ← List.reverse_inj, hsplit]
    simp
  · rwa [String.toList_ofList, List.mem_reverse]

/-- A directive passes the check exactly if it ends in a level. -/
theorem isLevelName_directiveEnd_iff : isLevelName (directiveEnd d) = true ↔ EndsInLevel d := by
  constructor
  · intro h
    by_cases heq : '=' ∈ d.toList
    · obtain ⟨t, l, rfl, hl⟩ := exists_target heq
      rw [directiveEnd_targeted hl] at h
      exact .targeted h
    · rw [directiveEnd_of_no_eq heq] at h
      exact .level h
  · intro h
    cases h with
    | level hl => rwa [directiveEnd_of_no_eq (not_mem_of_isLevelName hl rfl)]
    | targeted hl => rwa [directiveEnd_targeted (not_mem_of_isLevelName hl rfl)]

theorem isValidLevel_iff :
    isValidLevel s = true ↔ trimmedPieces s ≠ [] ∧ ∀ d ∈ trimmedPieces s, EndsInLevel d := by
  simp only [isValidLevel, Bool.and_eq_true, Bool.not_eq_true', List.isEmpty_eq_false_iff,
    List.all_eq_true, isLevelName_directiveEnd_iff]

/-! ## Directives between commas -/

/-- A directive with blanks around it. -/
structure PaddedDirective where
  before : String
  directive : String
  after : String
  blank_before : ∀ c ∈ before.toList, isBlank c = true
  blank_after : ∀ c ∈ after.toList, isBlank c = true
  isDirective : LevelDirective directive
  no_comma : ',' ∉ directive.toList

namespace PaddedDirective

/-- The directive with its blanks. -/
def text (p : PaddedDirective) : String :=
  p.before ++ p.directive ++ p.after

theorem no_comma_text (p : PaddedDirective) : ',' ∉ p.text.toList := by
  have hblank : isBlank ',' = false := by decide
  simp only [text, String.toList_append, List.mem_append, not_or]
  refine ⟨⟨fun h => ?_, p.no_comma⟩, fun h => ?_⟩
  · rw [p.blank_before _ h] at hblank
    cases hblank
  · rw [p.blank_after _ h] at hblank
    cases hblank

end PaddedDirective

theorem dropWhile_append_cons {p : Char → Bool} {c : Char} (hc : p c = false) (xs ys : List Char) :
    (xs ++ c :: ys).dropWhile p = xs.dropWhile p ++ c :: ys := by
  rw [List.dropWhile_append, List.dropWhile_cons_of_neg (by simp [hc])]
  split
  · next h => rw [List.isEmpty_iff.1 h, List.nil_append]
  · rfl

/-- Blanks behind a level are trimmed, and nothing else. -/
theorem dropTrailingBlanks_level {l : String} (hl : isLevelName l = true) (cs : List Char)
    {after : List Char} (ha : ∀ c ∈ after, isBlank c = true) :
    dropTrailingBlanks (cs ++ l.toList ++ after) = cs ++ l.toList := by
  obtain ⟨c, rest, hlast⟩ := List.exists_cons_of_ne_nil
    (mt List.reverse_eq_nil_iff.1 (ne_nil_of_isLevelName hl))
  have hc : isBlank c = false := by
    refine isBlank_of_mem_level hl (List.mem_reverse.1 ?_)
    rw [hlast]
    exact List.mem_cons_self
  have hdrop : after.reverse.dropWhile isBlank = [] :=
    List.dropWhile_eq_nil_iff.2 fun c hc => ha c (List.mem_reverse.1 hc)
  rw [dropTrailingBlanks, List.reverse_append, List.reverse_append, hlast, List.cons_append,
    dropWhile_append_cons hc, hdrop, List.nil_append, ← List.cons_append, ← hlast,
    ← List.reverse_append, List.reverse_reverse]

/-- Of a directive with blanks around it, trimming leaves a directive. -/
theorem PaddedDirective.trim_text (p : PaddedDirective) : LevelDirective (trim p.text) := by
  obtain ⟨before, d, after, hbefore, hafter, hd, -⟩ := p
  have hdrop : before.toList.dropWhile isBlank = [] := List.dropWhile_eq_nil_iff.2 hbefore
  simp only [text, trim, String.toList_append]
  cases hd with
  | @level l hl =>
    obtain ⟨c, cs, hcs⟩ := List.exists_cons_of_ne_nil (ne_nil_of_isLevelName hl)
    have hc : isBlank c = false := by
      refine isBlank_of_mem_level hl ?_
      rw [hcs]
      exact List.mem_cons_self
    have htrailing := dropTrailingBlanks_level hl [] hafter
    rw [List.nil_append] at htrailing
    rw [hcs, List.append_assoc, List.cons_append, dropWhile_append_cons hc, hdrop, List.nil_append,
      ← List.cons_append, ← hcs, htrailing, String.ofList_toList]
    exact .level hl
  | @targeted t l ht hl =>
    have htarget : '=' ∉ (String.ofList (t.toList.dropWhile isBlank)).toList := by
      rw [String.toList_ofList]
      exact fun h => ht ((List.dropWhile_sublist isBlank).mem h)
    have hshape : String.ofList (t.toList.dropWhile isBlank ++ ['='] ++ l.toList) =
        String.ofList (t.toList.dropWhile isBlank) ++ "=" ++ l := by
      rw [← String.toList_inj, toList_targeted, String.toList_ofList, String.toList_ofList,
        List.append_assoc, List.singleton_append]
    have hstart : (before.toList ++ t.toList).dropWhile isBlank = t.toList.dropWhile isBlank :=
      List.dropWhile_append_of_pos hbefore
    have hall : before.toList ++ (t ++ "=" ++ l).toList ++ after.toList =
        before.toList ++ t.toList ++ '=' :: (l.toList ++ after.toList) := by
      rw [toList_targeted]
      simp only [List.append_assoc, List.cons_append]
    rw [hall, dropWhile_append_cons (by decide), hstart, ← List.singleton_append,
      ← List.append_assoc, ← List.append_assoc, dropTrailingBlanks_level hl _ hafter, hshape]
    exact .targeted htarget hl

theorem LevelDirective.ne_empty (h : LevelDirective d) : d ≠ "" := by
  rw [Ne, ← String.toList_eq_nil_iff]
  cases h with
  | level hl => exact ne_nil_of_isLevelName hl
  | targeted _ _ =>
    rw [toList_targeted]
    exact List.append_ne_nil_of_right_ne_nil _ (List.cons_ne_nil _ _)

theorem commaPieces_intercalate {ps : List PaddedDirective} (hps : ps ≠ []) :
    commaPieces (",".intercalate (ps.map PaddedDirective.text)) =
      ps.map PaddedDirective.text := by
  have hcut : (List.intercalate [','] (ps.map fun p => p.text.toList)).splitOn ',' =
      ps.map fun p => p.text.toList := by
    refine List.splitOn_intercalate ',' (fun cs hcs => ?_) (mt List.map_eq_nil_iff.1 hps)
    obtain ⟨p, -, rfl⟩ := List.mem_map.1 hcs
    exact p.no_comma_text
  have hlist : (",".intercalate (ps.map PaddedDirective.text)).toList =
      List.intercalate [','] (ps.map fun p => p.text.toList) := by
    rw [String.toList_intercalate, List.map_map]
    rfl
  rw [commaPieces, hlist, hcut, List.map_map]
  exact List.map_congr_left fun p _ => String.ofList_toList

/-- Directives between commas, with blanks around them, are a level that is taken. -/
theorem isValidLevel_intercalate {ps : List PaddedDirective} (hps : ps ≠ []) :
    isValidLevel (",".intercalate (ps.map PaddedDirective.text)) = true := by
  have hpieces : trimmedPieces (",".intercalate (ps.map PaddedDirective.text)) =
      ps.map fun p => trim p.text := by
    rw [trimmedPieces, commaPieces_intercalate hps, List.map_map]
    refine List.filter_eq_self.2 fun d hd => ?_
    obtain ⟨p, -, rfl⟩ := List.mem_map.1 hd
    exact decide_eq_true p.trim_text.ne_empty
  rw [isValidLevel_iff, hpieces]
  refine ⟨mt List.map_eq_nil_iff.1 hps, fun d hd => ?_⟩
  obtain ⟨p, -, rfl⟩ := List.mem_map.1 hd
  exact p.trim_text.endsInLevel

/-! ## Filters -/

theorem readDigits_of_no_digit {max : Nat} {c : Char} (hc : digitValue? c = none) :
    ∀ {cs : List Char} (acc : Nat), c ∈ cs → ∃ e, readDigits max acc cs = .error e
  | [], _, h => absurd h List.not_mem_nil
  | x :: cs, acc, h => by
    rw [readDigits]
    split
    · exact ⟨_, rfl⟩
    · next hx =>
      have hmem : c ∈ cs := by
        refine (List.mem_cons.1 h).resolve_left ?_
        rintro rfl
        rw [hc] at hx
        cases hx
      split
      · exact ⟨_, rfl⟩
      · exact readDigits_of_no_digit hc _ hmem

theorem readUInt64?_of_eq (h : '=' ∈ s.toList) : readUInt64? s = none := by
  have hdigit : digitValue? '=' = none := by decide
  obtain ⟨e, he⟩ : ∃ e, readUnsigned maxUInt64 s = .error e := by
    rw [readUnsigned]
    split
    · exact ⟨_, rfl⟩
    · exact ⟨_, rfl⟩
    · next digits hs =>
      rw [hs] at h
      exact readDigits_of_no_digit hdigit 0 ((List.mem_cons.1 h).resolve_left (by decide))
    · exact readDigits_of_no_digit hdigit 0 h
  rw [readUInt64?, he]

/-- Behind the equals sign of a directive no other may follow. -/
theorem isGivenLevel_of_eq {cs : List Char} (h : '=' ∈ cs) : isGivenLevel cs = false := by
  have hmem : '=' ∈ (String.ofList cs).toList := by rwa [String.toList_ofList]
  have hname : isLevelName (String.ofList cs) = false := by
    rw [← Bool.not_eq_true]
    exact fun hl => not_mem_of_isLevelName hl rfl hmem
  rw [isGivenLevel, isLevel, hname, readUInt64?_of_eq hmem,
    List.isEmpty_eq_false_iff.2 (List.ne_nil_of_mem h)]
  rfl

theorem isGivenLevel_of_isLevelName {l : String} (h : isLevelName l = true) :
    isGivenLevel l.toList = true := by
  rw [isGivenLevel, String.ofList_toList, isLevel, h, Bool.true_or, Bool.or_true]

theorem startsTarget_eq : startsTarget '=' = false := by decide +kernel

theorem count_dropWhile_isBlank (cs : List Char) :
    (cs.dropWhile isBlank).count '=' = cs.count '=' := by
  have hblank : isBlank '=' = false := by decide
  conv => rhs; rw [← List.takeWhile_append_dropWhile (p := isBlank) (l := cs), List.count_append]
  have hno : '=' ∉ cs.takeWhile isBlank := by
    intro h
    have hall := List.all_takeWhile (p := isBlank) (l := cs)
    rw [List.all_eq_true.1 hall _ h] at hblank
    cases hblank
  rw [List.count_eq_zero_of_not_mem hno, Nat.zero_add]

theorem count_trim (s : String) : (trim s).toList.count '=' = s.toList.count '=' := by
  rw [trim, String.toList_ofList, dropTrailingBlanks, List.count_reverse, count_dropWhile_isBlank,
    List.count_reverse, count_dropWhile_isBlank]

section

variable {target : List Char} (hb : '[' ∉ target) (ht : '=' ∉ target)
include hb ht

theorem forall_target : ∀ c ∈ target, (c != '=' && c != '[') = true := fun c hc =>
  Bool.and_eq_true_iff.2 ⟨forall_bne_of_not_mem ht c hc, forall_bne_of_not_mem hb c hc⟩

/-- Without brackets, the target of a directive ends at the first equals sign. -/
theorem dropWhile_target (level : List Char) :
    ((target ++ '=' :: level).dropWhile fun c => c != '=' && c != '[') = '=' :: level := by
  rw [List.dropWhile_append_of_pos (forall_target hb ht)]
  rfl

end

/-- A directive without brackets that has several equals signs is none of a filter. -/
theorem isDirective_eq_false (hb : '[' ∉ d.toList) (hcount : 1 < d.toList.count '=') :
    isDirective d = false := by
  have hkept := count_dropWhile_isBlank d.toList
  have hbracket : '[' ∉ d.toList.dropWhile isBlank := fun h =>
    hb ((List.dropWhile_sublist isBlank).mem h)
  unfold isDirective
  dsimp only
  split
  · rfl
  · next c rest hrest =>
    rw [hrest] at hkept hbracket
    obtain ⟨hc, hrestb⟩ := not_or.1 (mt List.mem_cons.2 hbracket)
    rw [if_neg (by simpa using Ne.symm hc)]
    by_cases heq : c = '='
    · -- a directive does not begin with its equals sign
      rw [heq, startsTarget_eq, Bool.false_and]
    · rw [List.count_cons_of_ne heq] at hkept
      obtain ⟨target, level, rfl, htarget⟩ :=
        List.eq_append_cons_of_mem (List.count_pos_iff.1 (by omega : 0 < rest.count '='))
      rw [List.count_append, List.count_eq_zero_of_not_mem htarget, List.count_cons_self] at hkept
      have hlevel : '=' ∈ level := List.count_pos_iff.1 (by omega)
      have htargetb : '[' ∉ target := fun h => hrestb (List.mem_append_left _ h)
      simp only [dropWhile_target htargetb htarget, isGivenLevel_of_eq hlevel, Bool.and_false]

theorem mem_of_mem_commaPieces {piece : String} (hp : piece ∈ commaPieces s) {c : Char}
    (hc : c ∈ piece.toList) : c ∈ s.toList := by
  obtain ⟨cs, hcs, rfl⟩ := List.mem_map.1 hp
  rw [String.toList_ofList] at hc
  exact (sublist_of_mem_splitOn hcs).mem hc

/-- A list with a directive that has several equals signs is no filter, brackets apart. -/
theorem isFilter_eq_false (hb : '[' ∉ s.toList) (hd : d ∈ trimmedPieces s)
    (hcount : 1 < d.toList.count '=') : isFilter s = false := by
  obtain ⟨piece, hpiece, rfl⟩ := List.mem_map.1 (List.mem_filter.1 hd).1
  rw [count_trim] at hcount
  have hno := isDirective_eq_false (fun h => hb (mem_of_mem_commaPieces hpiece h)) hcount
  have hne : piece ≠ "" := by
    rintro rfl
    cases hcount
  rw [isFilter, List.all_eq_false]
  exact ⟨piece, hpiece, by simp only [hno, beq_eq_false_iff_ne.2 hne, Bool.or_false,
    Bool.false_eq_true, not_false_eq_true]⟩

/-- A directive that begins with a target, and has no brackets, is one of a filter. -/
theorem LevelDirective.isDirective (h : LevelDirective d) (hb : '[' ∉ d.toList)
    (hstart : ∀ c ∈ d.toList.head?, startsTarget c = true ∧ isBlank c = false) :
    isDirective d = true := by
  obtain ⟨c, rest, hd⟩ := List.exists_cons_of_ne_nil (mt String.toList_eq_nil_iff.1 h.ne_empty)
  obtain ⟨hc, hblank⟩ := hstart c (by rw [hd]; rfl)
  have hbracket : ¬ (c == '[') = true := by
    rintro hc'
    rw [hd, beq_iff_eq.1 hc'] at hb
    exact hb List.mem_cons_self
  have hrestb : '[' ∉ rest := fun h => hb (by rw [hd]; exact List.mem_cons_of_mem c h)
  unfold RequestBinding.isDirective
  simp only [hd, List.dropWhile_cons_of_neg (by simp [hblank] : ¬ isBlank c = true), hblank,
    if_neg hbracket, hc, Bool.not_false, Bool.true_and]
  cases h with
  | level hl =>
    have hno := not_mem_of_isLevelName hl (c := '=') rfl
    rw [hd] at hno
    rw [List.dropWhile_eq_nil_iff.2 (forall_target hrestb (mt (List.mem_cons_of_mem c) hno))]
  | @targeted t l ht hl =>
    rw [toList_targeted] at hd
    cases htarget : t.toList with
    | nil =>
      rw [htarget, List.nil_append] at hd
      rw [← (List.cons.inj hd).1, startsTarget_eq] at hc
      cases hc
    | cons x target =>
      rw [htarget, List.cons_append] at hd
      obtain ⟨-, rfl⟩ := List.cons.inj hd
      rw [htarget] at ht
      have htargetb : '[' ∉ target := fun h => hrestb (List.mem_append_left _ h)
      have hno : '=' ∉ target := fun h => ht (List.mem_cons_of_mem x h)
      rw [dropWhile_target htargetb hno]
      exact isGivenLevel_of_isLevelName hl

/-- Directives that begin with a target, and have no brackets, are a filter. -/
theorem isFilter_of_directives
    (h : ∀ d ∈ commaPieces s, d ≠ "" → LevelDirective d ∧ '[' ∉ d.toList ∧
      ∀ c ∈ d.toList.head?, startsTarget c = true ∧ isBlank c = false) : isFilter s = true := by
  rw [isFilter, List.all_eq_true]
  intro d hd
  by_cases hne : d = ""
  · rw [hne]
    rfl
  · obtain ⟨hdirective, hb, hstart⟩ := h d hd hne
    rw [hdirective.isDirective hb hstart, Bool.or_true]

/-! ## Configurations -/

/-- The rule on levels comes first, so a level that is not taken is always reported. -/
theorem Configuration.violation?_eq_unknownLevel_iff (c : Configuration) :
    c.violation? = some (.unknownLevel c.logging.level) ↔ isValidLevel c.logging.level = false := by
  unfold violation?
  split
  · next h => simpa using h
  · next h =>
    -- the other rules report other violations
    refine iff_of_false (fun hv => ?_) (by simpa using h)
    repeat' split at hv
    all_goals cases hv

theorem Configuration.isValidLevel_of_validate {c : Configuration} (h : c.validate = .ok ()) :
    isValidLevel c.logging.level = true := by
  rw [validate] at h
  split at h
  · cases h
  · next hnone => exact (c.violation?_eq_none_iff.1 hnone).1

/-- **A level that is validated lists directives, targets with equals signs apart.** A level is
taken exactly if it has a directive and all of its directives end in a level; they are directives
as they are documented if they have one equals sign at most. Every list of documented directives
is taken, with any blanks around them. A log without a filter of its environment cannot start with
a directive that has several equals signs, though it is taken, and can with documented directives
that begin with a target. -/
theorem validate_level (c : Configuration) :
    (c.violation? = some (.unknownLevel c.logging.level) ↔
      ¬ (trimmedPieces c.logging.level ≠ [] ∧
        ∀ d ∈ trimmedPieces c.logging.level, EndsInLevel d)) ∧
      (c.validate = .ok () → trimmedPieces c.logging.level ≠ [] ∧
        ∀ d ∈ trimmedPieces c.logging.level, LevelDirective d ↔ d.toList.count '=' ≤ 1) ∧
      (∀ ps : List PaddedDirective, ps ≠ [] →
        c.logging.level = ",".intercalate (ps.map PaddedDirective.text) →
          c.violation? ≠ some (.unknownLevel c.logging.level)) ∧
      ∀ p : Host, p.filter? = none →
        ('[' ∉ c.logging.level.toList →
          (∃ d ∈ trimmedPieces c.logging.level, 1 < d.toList.count '=') →
            p.logFilter c.telemetry.logging = .error (.logging "Invalid log level")) ∧
        ((∀ d ∈ commaPieces c.logging.level, d ≠ "" → LevelDirective d ∧ '[' ∉ d.toList ∧
          ∀ c ∈ d.toList.head?, startsTarget c = true ∧ isBlank c = false) →
            p.logFilter c.telemetry.logging = .ok c.logging.level) := by
  have hlog (p : Host) (hp : p.filter? = none) : p.logFilter c.telemetry.logging =
      if isFilter c.logging.level then .ok c.logging.level
      else .error (.logging "Invalid log level") := by
    have hrespect : c.telemetry.logging.respectEnvironment = true := rfl
    have hlevel : c.telemetry.logging.level = c.logging.level := rfl
    simp only [Host.logFilter, hrespect, hlevel, hp, if_true]
  refine ⟨?_, fun hvalidate => ?_, fun ps hps hlevel => ?_, fun p hp => ⟨?_, fun hplain => ?_⟩⟩
  · rw [c.violation?_eq_unknownLevel_iff, ← isValidLevel_iff, Bool.not_eq_true]
  · have hvalid := Configuration.isValidLevel_of_validate hvalidate
    rw [isValidLevel_iff] at hvalid
    exact ⟨hvalid.1, fun d hd => (hvalid.2 d hd).directive_iff⟩
  · rw [Ne, c.violation?_eq_unknownLevel_iff, hlevel, isValidLevel_intercalate hps]
    nofun
  · rintro hb ⟨d, hd, hcount⟩
    rw [hlog p hp, isFilter_eq_false hb hd hcount]
    rfl
  · rw [hlog p hp, isFilter_of_directives hplain]
    rfl

/-- A level that is taken, though it is no list of directives as they are documented and no
filter. -/
theorem not_validate_level :
    ({ logging := { level := "info=info=info" } } : Configuration).validate = .ok () ∧
      isFilter "info=info=info" = false ∧
      ¬ ∀ c : Configuration, c.validate = .ok () →
        ∀ d ∈ trimmedPieces c.logging.level, LevelDirective d := by
  have hvalid :
      ({ logging := { level := "info=info=info" } } : Configuration).validate = .ok () := by
    decide +kernel
  refine ⟨hvalid, by decide +kernel, fun h => ?_⟩
  have hd := h _ hvalid "info=info=info" (by decide +kernel)
  exact absurd (hd.endsInLevel.directive_iff.1 hd) (by decide +kernel)

end RequestBinding
