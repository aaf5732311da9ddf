import Mathlib.Data.List.Forall2
import Mathlib.Data.List.Nodup
import RequestBinding.Config.Decoding
import RequestBinding.Proofs.Document.Merge

/-!
# What a document decides

A document is read into a record field by field, and every field is put once. So
what the record has afterwards for a field is decided by the document, if it has
the field, and is otherwise as it was at the start (`Decided`). For a
configuration this holds at two levels, of the sections and of the settings in
them, and together it says which settings a document decides (`valueFor?`).

Results:
1. `readRecord_decided`: of a record, for each of its fields.
2. `ofDocument?_decided`: of a configuration, for each setting.
3. `ofDocument?_finite_toDocument`: a value that is written and can be read back is
   read back as it was.
-/

namespace RequestBinding

/-! ## Records -/

/-- What comes of a value that a document may decide: what the document writes, or
without one what was there before. -/
def Decided {γ : Type} (decode : Document → Option γ) (d? : Option Document) (before after : γ) :
    Prop :=
  match d? with
  | some d => decode d = some after
  | none => after = before

section

variable {α κ γ : Type} {put : α → κ → Document → Option α}

/-- Puts what a table has under a key into the field of that name. -/
def putNamed (fields : List κ) (name : κ → String) (put : α → κ → Document → Option α) (a : α)
    (key : String) (d : Document) : Option α :=
  (fields.find? (name · == key)).bind (put a · d)

theorem exists_of_putNamed {fields : List κ} {name : κ → String} {a a' : α} {key : String}
    {d : Document} (h : putNamed fields name put a key d = some a') :
    ∃ f ∈ fields, name f = key ∧ put a f d = some a' := by
  obtain ⟨f, hf, hput⟩ := Option.bind_eq_some_iff.1 h
  have hname : name f = key := beq_iff_eq.1 (List.find?_some (p := fun x => name x == key) hf)
  exact ⟨f, List.mem_of_find?_eq_some hf, hname, hput⟩

/-- What every step preserves holds at the end of a row of steps. -/
theorem foldlM_preserves (put : α → κ → Document → Option α) {P : α → Prop}
    {l : List (κ × Document)}
    (hput : ∀ a e a', e ∈ l → P a → put a e.1 e.2 = some a' → P a') {a r : α} (ha : P a)
    (h : l.foldlM (fun a e => put a e.1 e.2) a = some r) : P r := by
  induction l generalizing a with
  | nil =>
    cases h
    exact ha
  | cons e rest ih =>
    rw [List.foldlM_cons] at h
    obtain ⟨a', hfirst, hrest⟩ := Option.bind_eq_some_iff.1 h
    have ha' : P a' := hput a e a' List.mem_cons_self ha hfirst
    exact ih (fun a e a' he => hput a e a' (List.mem_cons_of_mem _ he)) ha' hrest

/-- A view that only one key has to do with is decided by the entry of that key. -/
theorem foldlM_decided [DecidableEq κ] (put : α → κ → Document → Option α) {view : α → γ}
    {decode : Document → Option γ} {part : Document → Option Document} {key : κ}
    (hown : ∀ a d a', put a key d = some a' → Decided decode (part d) (view a) (view a'))
    (hother : ∀ a k d a', k ≠ key → put a k d = some a' → view a' = view a)
    {l : List (κ × Document)} (hl : (l.map Prod.fst).Nodup) {a r : α}
    (h : l.foldlM (fun a e => put a e.1 e.2) a = some r) :
    Decided decode ((l.lookup key).bind part) (view a) (view r) := by
  induction l generalizing a with
  | nil =>
    cases h
    rfl
  | cons e rest ih =>
    obtain ⟨k, d⟩ := e
    rw [List.map_cons, List.nodup_cons] at hl
    rw [List.foldlM_cons] at h
    obtain ⟨a', hfirst, hrest⟩ := Option.bind_eq_some_iff.1 h
    rw [List.lookup_cons]
    by_cases hk : key = k
    · -- the key does not come again, so that the rest leaves the view alone
      subst hk
      have hsame : view r = view a' := by
        refine foldlM_preserves put (P := fun a => view a = view a') ?_ rfl hrest
        intro b e b' he hb hput
        refine (hother b e.1 e.2 b' ?_ hput).trans hb
        intro heq
        exact hl.1 (List.mem_map.2 ⟨e, he, heq⟩)
      rw [beq_self_eq_true, hsame]
      exact hown a d a' hfirst
    · rw [beq_eq_false_iff_ne.2 hk, ← hother a k d a' (Ne.symm hk) hfirst]
      exact ih hl.2 hrest

theorem nodup_map_fst_zip {fields : List κ} (h : fields.Nodup) (items : List Document) :
    ((fields.zip items).map Prod.fst).Nodup := by
  rw [List.zip_eq_zip_take_min, List.map_fst_zip (by simp)]
  exact (List.take_sublist _ _).nodup h

/-- What every field of a record preserves, reading the record preserves. -/
theorem readRecord_preserves {P : α → Prop} {format : DocumentFormat} {fields : List κ}
    {name : κ → String}
    (hput : ∀ a f d a', f ∈ fields → P a → put a f d = some a' → P a') {start r : α}
    {d : Document} (hstart : P start) (h : readRecord format fields name put start d = some r) :
    P r := by
  cases d with
  | table entries =>
    rw [readRecord] at h
    split at h
    · refine foldlM_preserves (putNamed fields name put) ?_ hstart h
      intro a e a' _ ha hnamed
      obtain ⟨f, hf, -, hfirst⟩ := exists_of_putNamed hnamed
      exact hput a f e.2 a' hf ha hfirst
    · cases h
  | list items =>
    rw [readRecord] at h
    split at h
    · cases h
    · refine foldlM_preserves put ?_ hstart h
      intro a e a' he ha hfirst
      exact hput a e.1 e.2 a' (List.of_mem_zip he).1 ha hfirst
  | _ => cases h

/-- A view that only one field has to do with is decided by what the document has for
that field. -/
theorem readRecord_decided [DecidableEq κ] (view : α → γ) {decode : Document → Option γ}
    (part : Document → Option Document) {format : DocumentFormat} {fields : List κ}
    {name : κ → String} (hfields : fields.Nodup)
    (hnames : ∀ f ∈ fields, ∀ g ∈ fields, name f = name g → f = g) {f : κ} (hf : f ∈ fields)
    (hown : ∀ a d a', put a f d = some a' → Decided decode (part d) (view a) (view a'))
    (hother : ∀ a g d a', g ≠ f → put a g d = some a' → view a' = view a)
    {start r : α} {d : Document} (h : readRecord format fields name put start d = some r) :
    Decided decode ((d.field? fields name f).bind part) (view start) (view r) := by
  cases d with
  | table entries =>
    rw [readRecord] at h
    split at h
    · next hkeys =>
      refine foldlM_decided (putNamed fields name put) ?_ ?_ hkeys h
      · intro a d a' hnamed
        obtain ⟨g, hg, hname, hfirst⟩ := exists_of_putNamed hnamed
        have heq : g = f := hnames g hg f hf hname
        exact hown a d a' (heq ▸ hfirst)
      · intro a k d a' hk hnamed
        obtain ⟨g, -, hname, hfirst⟩ := exists_of_putNamed hnamed
        refine hother a g d a' ?_ hfirst
        rintro rfl
        exact hk hname.symm
    · cases h
  | list items =>
    rw [readRecord] at h
    split at h
    · cases h
    · exact foldlM_decided put hown hother (nodup_map_fst_zip hfields items) h
  | _ => cases h

theorem exists_put_of_foldlM (put : α → κ → Document → Option α) {l : List (κ × Document)} {a r : α}
    (h : l.foldlM (fun a e => put a e.1 e.2) a = some r) {e : κ × Document} (he : e ∈ l) :
    ∃ a a', put a e.1 e.2 = some a' := by
  induction l generalizing a with
  | nil => cases he
  | cons first rest ih =>
    rw [List.foldlM_cons] at h
    obtain ⟨a', hfirst, hrest⟩ := Option.bind_eq_some_iff.1 h
    rcases List.mem_cons.1 he with rfl | he
    · exact ⟨a, a', hfirst⟩
    · exact ih hrest he

theorem mem_of_lookup_eq_some [DecidableEq κ] {l : List (κ × Document)} {key : κ} {d : Document}
    (h : l.lookup key = some d) : (key, d) ∈ l := by
  obtain ⟨before, after, rfl, -⟩ := List.lookup_eq_some_iff.1 h
  exact List.mem_append_right _ List.mem_cons_self

/-- What a document has for a field was put into the record. -/
theorem exists_put_of_readRecord [DecidableEq κ] {format : DocumentFormat} {fields : List κ}
    {name : κ → String} (hnames : ∀ f ∈ fields, ∀ g ∈ fields, name f = name g → f = g) {f : κ}
    (hf : f ∈ fields) {start r : α} {d d' : Document}
    (h : readRecord format fields name put start d = some r)
    (hd : d.field? fields name f = some d') : ∃ a a', put a f d' = some a' := by
  cases d with
  | table entries =>
    rw [readRecord] at h
    split at h
    · obtain ⟨a, a', hnamed⟩ := exists_put_of_foldlM (putNamed fields name put) h
        (mem_of_lookup_eq_some hd)
      obtain ⟨g, hg, hname, hfirst⟩ := exists_of_putNamed hnamed
      have heq : g = f := hnames g hg f hf hname
      exact ⟨a, a', heq ▸ hfirst⟩
    · cases h
  | list items =>
    rw [readRecord] at h
    split at h
    · cases h
    · exact exists_put_of_foldlM put h (mem_of_lookup_eq_some hd)
  | _ => cases h

/-- A table that is read names no field twice. -/
theorem nodup_of_readRecord {format : DocumentFormat} {fields : List κ} {name : κ → String}
    {start r : α} {entries : List (String × Document)}
    (h : readRecord format fields name put start (.table entries) = some r) :
    (entries.map Prod.fst).Nodup := by
  rw [readRecord] at h
  split at h
  · next hkeys => exact hkeys
  · cases h

end

/-! ## Configurations -/

/-- What a document has for a setting. -/
def Document.valueFor? (t : Setting) (d : Document) : Option Document :=
  (d.field? ConfigSection.all ConfigSection.name t.sectionOf).bind
    (Document.field? t.sectionOf.settings Setting.name t)

namespace ConfigSection

theorem nodup_all : all.Nodup := by
  decide

theorem name_injective {s s' : ConfigSection} (h : s.name = s'.name) : s = s' := by
  cases s <;> cases s' <;> first | rfl | exact absurd h (by decide)

theorem nodup_settings (s : ConfigSection) : s.settings.Nodup := by
  cases s <;> decide

theorem sectionOf_of_mem {s : ConfigSection} {t : Setting} (h : t ∈ s.settings) :
    t.sectionOf = s := by
  revert t
  cases s <;> decide

theorem setting_name_injective (s : ConfigSection) :
    ∀ t ∈ s.settings, ∀ t' ∈ s.settings, t.name = t'.name → t = t' := by
  cases s <;> decide

end ConfigSection

namespace Configuration

variable {format : DocumentFormat} {c c' : Configuration} {d : Document}

theorem putSetting_decided {t : Setting} (h : putSetting format c t d = some c') :
    Decided (t.type.ofDocument? format) (some d) (c.get t) (c'.get t) := by
  obtain ⟨v, hv, rfl⟩ := Option.map_eq_some_iff.1 h
  rw [get_set_self]
  exact hv

theorem putSetting_of_ne {s t : Setting} (hne : s ≠ t) (h : putSetting format c s d = some c') :
    c'.get t = c.get t := by
  obtain ⟨v, -, rfl⟩ := Option.map_eq_some_iff.1 h
  exact get_set_of_ne c (Ne.symm hne) v

/-- A section decides the settings that it has. -/
theorem putSection_decided (t : Setting) (h : putSection format c t.sectionOf d = some c') :
    Decided (t.type.ofDocument? format) (d.field? t.sectionOf.settings Setting.name t)
      (c.get t) (c'.get t) := by
  have hread := readRecord_decided (fun c => c.get t) some
    t.sectionOf.nodup_settings t.sectionOf.setting_name_injective t.mem_settings
    (fun _ _ _ => putSetting_decided) (fun _ _ _ _ => putSetting_of_ne) h
  rwa [Option.bind_fun_some] at hread

/-- A section has nothing to do with the settings of others. -/
theorem putSection_of_ne {s : ConfigSection} {t : Setting} (hne : s ≠ t.sectionOf)
    (h : putSection format c s d = some c') : c'.get t = c.get t := by
  refine readRecord_preserves (P := fun a => a.get t = c.get t) ?_ rfl h
  intro a t' d' a' ht' ha hput
  refine (putSetting_of_ne ?_ hput).trans ha
  rintro rfl
  exact hne (ConfigSection.sectionOf_of_mem ht').symm

/-- A document decides the settings that it has; all others are as usual. -/
theorem ofDocument?_decided (t : Setting) (h : ofDocument? format d = some c) :
    Decided (t.type.ofDocument? format) (d.valueFor? t) (({} : Configuration).get t) (c.get t) :=
  readRecord_decided (fun c => c.get t)
    (Document.field? t.sectionOf.settings Setting.name t) ConfigSection.nodup_all
    (fun _ _ _ _ => ConfigSection.name_injective) (ConfigSection.mem_all _)
    (fun _ _ _ => putSection_decided t) (fun _ _ _ _ => putSection_of_ne) h

end Configuration

/-! ## Writing and reading back -/

namespace SettingType

theorem mapM_eq_some_iff {α β : Type} {f : α → Option β} {l : List α} {r : List β} :
    l.mapM f = some r ↔ List.Forall₂ (fun a b => f a = some b) l r := by
  induction l generalizing r with
  | nil =>
    rw [List.mapM_nil, List.forall₂_nil_left_iff]
    exact ⟨fun h => (Option.some.inj h).symm, fun h => congrArg some h.symm⟩
  | cons a rest ih =>
    rw [List.mapM_cons, List.forall₂_cons_left_iff]
    constructor
    · intro h
      obtain ⟨b, hb, hmore⟩ := Option.bind_eq_some_iff.1 h
      obtain ⟨bs, hbs, hcons⟩ := Option.bind_eq_some_iff.1 hmore
      exact ⟨b, bs, hb, ih.1 hbs, (Option.some.inj hcons).symm⟩
    · rintro ⟨b, bs, hb, hbs, rfl⟩
      rw [hb, ih.2 hbs]
      rfl

theorem boundary?_of_finite {d : Document} {x : Binary64} (h : boundary? d.finite = some x) :
    boundary? d = some x := by
  cases d with
  | number y =>
    rw [Document.finite] at h
    split at h
    · exact h
    · cases h
  | integer n => exact h
  | _ => cases h

/-- Boundaries that are read without the numbers that are not finite are read with them. -/
theorem mapM_boundary?_of_finite {items : List Document} {xs : List Binary64}
    (h : (Document.finiteItems items).mapM boundary? = some xs) :
    items.mapM boundary? = some xs := by
  rw [Document.finiteItems_eq_map, mapM_eq_some_iff, List.forall₂_map_left_iff] at h
  rw [mapM_eq_some_iff]
  exact h.imp fun _ _ => boundary?_of_finite

theorem mapM_boundary?_map_number (xs : List Binary64) :
    (xs.map Document.number).mapM boundary? = some xs := by
  rw [mapM_eq_some_iff, List.forall₂_map_left_iff, List.forall₂_same]
  exact fun _ _ => rfl

/-- A value that is written and can be read back is read back as it was. -/
theorem ofDocument?_finite_toDocument {t : SettingType} {v v' : t.Value}
    (h : ofDocument? .json t (toDocument t v).finite = some v') : v' = v := by
  cases t with
  | flag => exact (Option.some.inj h).symm
  | count =>
    simp only [toDocument, Document.finite, ofDocument?] at h
    split at h
    · rw [Int.toNat_natCast, UInt64.ofNat_toNat] at h
      exact (Option.some.inj h).symm
    · cases h
  | text => exact (Option.some.inj h).symm
  | format =>
    have hword : LogFormat.ofName? v.name = some v' := h
    rw [LogFormat.ofName?_name] at hword
    exact (Option.some.inj hword).symm
  | numbers =>
    have hread : (v.map Document.number).mapM boundary? = some v' := mapM_boundary?_of_finite h
    exact Option.some.inj (hread.symm.trans (mapM_boundary?_map_number v))

end SettingType

end RequestBinding
