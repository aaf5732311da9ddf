import RequestBinding.Proofs.Config.Layer
import RequestBinding.Proofs.Document.Range

/-!
# When a layer is accepted

A layer that is right by itself is laid over a configuration unless a list in it is too long
for JSON, or what the merged document has for some setting cannot be read. The keys are no
obstacle: those of the configuration are all there are, so that the layer adds none. What the
configuration itself writes can be read back as long as its boundaries are finite (`Storable`),
and an accepted layer leaves it so.

Results:
1. `exists_readRecord`: a document of the shape of a record is read if each field can be put.
2. `exists_overlay?`, `short_of_overlay?`, `readable_of_overlay?`: when a layer is accepted.
3. `ofDocument?_unique`: what a setting is given does not depend on the format in which it
   is read.
4. `overlay?_storable`: accepted layers leave a configuration that can be written again.
-/

namespace RequestBinding

/-! ## Records -/

section

variable {α κ : Type} {put : α → κ → Document → Option α} {fields : List κ} {name : κ → String}

theorem exists_foldlM {ε : Type} {step : α → ε → Option α} {l : List ε}
    (hstep : ∀ e ∈ l, ∀ a, ∃ a', step a e = some a') (a : α) : ∃ r, l.foldlM step a = some r := by
  induction l generalizing a with
  | nil => exact ⟨a, rfl⟩
  | cons e rest ih =>
    obtain ⟨a', ha'⟩ := hstep e List.mem_cons_self a
    obtain ⟨r, hr⟩ := ih (fun e' he' => hstep e' (List.mem_cons_of_mem e he')) a'
    exact ⟨r, by rw [List.foldlM_cons, ha']; exact hr⟩

/-- A document that is read has the shape of the record, unless it is a list that is too long. -/
theorem shaped_of_readRecord {format : DocumentFormat} {start r : α} {d : Document}
    (h : readRecord format fields name put start d = some r)
    (hshort : ∀ items, d = .list items → items.length ≤ fields.length) :
    d.Shaped (fields.map name) := by
  cases d with
  | table entries =>
    have hnodup := nodup_of_readRecord h
    refine .table hnodup fun k hk => ?_
    obtain ⟨e, he, rfl⟩ := List.mem_map.mp hk
    rw [readRecord, if_pos hnodup] at h
    obtain ⟨a, a', hnamed⟩ := exists_put_of_foldlM (putNamed fields name put) h he
    obtain ⟨f, hf, hname, -⟩ := exists_of_putNamed hnamed
    exact List.mem_map.mpr ⟨f, hf, hname⟩
  | list items => exact .list ((hshort items rfl).trans_eq (List.length_map name).symm)
  | _ => cases h

/-- In JSON no list is too long. -/
theorem length_le_of_readRecord {start r : α} {items : List Document}
    (h : readRecord .json fields name put start (.list items) = some r) :
    items.length ≤ fields.length := by
  rw [readRecord] at h
  split at h
  · cases h
  · next hlength => exact Nat.le_of_not_lt fun hlong => hlength ⟨rfl, hlong⟩

/-- A document of the shape of a record is read if each of its fields can be put. -/
theorem exists_readRecord [DecidableEq κ] {format : DocumentFormat} (hfields : fields.Nodup)
    {d : Document} (hshape : d.Shaped (fields.map name))
    (hput : ∀ f ∈ fields, ∀ d', d.field? fields name f = some d' → ∀ a, ∃ a', put a f d' = some a')
    (start : α) : ∃ r, readRecord format fields name put start d = some r := by
  cases hshape with
  | @table entries hnodup hkeys =>
    rw [readRecord, if_pos hnodup]
    refine exists_foldlM (fun e he a => ?_) start
    obtain ⟨f, hf, hname⟩ := List.mem_map.mp (hkeys e.1 (List.mem_map_of_mem he))
    -- the field that is found under the key has the value of this entry
    obtain ⟨g, hg⟩ : ∃ g, fields.find? (name · == e.1) = some g :=
      Option.isSome_iff_exists.mp (List.find?_isSome.mpr ⟨f, hf, beq_iff_eq.mpr hname⟩)
    have hgname : name g = e.1 := beq_iff_eq.mp (List.find?_some (p := fun x => name x == e.1) hg)
    have hlookup : (Document.table entries).field? fields name g = some e.2 := by
      rw [Document.field?, hgname]
      exact Document.lookup_of_mem hnodup he
    rw [hg]
    exact hput g (List.mem_of_find?_eq_some hg) e.2 hlookup a
  | @list items hlength =>
    rw [List.length_map] at hlength
    rw [readRecord, if_neg fun hlong => Nat.not_lt.mpr hlength hlong.2]
    refine exists_foldlM (fun e he a => ?_) start
    exact hput e.1 (List.of_mem_zip he).1 e.2
      (Document.lookup_of_mem (nodup_map_fst_zip hfields items) he) a

end

/-! ## Lists of sections and settings -/

namespace Document

/-- No list in the document has more items than there is to be listed: sections, if it is a list
itself, or the settings of a section. -/
structure Short (d : Document) : Prop where
  sections : ∀ items, d = .list items → items.length ≤ ConfigSection.all.length
  settings : ∀ s items, d.field? ConfigSection.all ConfigSection.name s = some (.list items) →
    items.length ≤ s.settings.length

/-- The document is a table of tables. -/
def isSectioned : Document → Bool
  | table entries => entries.all fun e => e.2.isTable
  | _ => false

theorem isTable_of_field? {φ : Type} [DecidableEq φ] {fields : List φ} {name : φ → String} {f : φ}
    {d sd : Document} (h : d.isSectioned = true) (hsd : d.field? fields name f = some sd) :
    sd.isTable = true := by
  cases d with
  | table entries => exact List.all_eq_true.mp h _ (mem_of_lookup_eq_some hsd)
  | _ => cases h

theorem isList_of_isTable {d : Document} (h : d.isTable = true) : d.isList = false := by
  cases d with
  | table entries => rfl
  | _ => cases h

theorem short_of_isSectioned {d : Document} (h : d.isSectioned = true) : d.Short where
  sections items hd := by
    rw [hd] at h
    cases h
  settings s items hsd := by cases isTable_of_field? h hsd

theorem listsFor_of_isSectioned {d : Document} (h : d.isSectioned = true) (t : Setting) :
    d.listsFor t = false := by
  rw [listsFor, Bool.or_eq_false_iff]
  constructor
  · cases d with
    | table entries => rfl
    | _ => cases h
  · cases hsection : d.field? ConfigSection.all ConfigSection.name t.sectionOf with
    | none => rfl
    | some sd => exact isList_of_isTable (isTable_of_field? h hsection)

end Document

namespace Configuration

variable {format : DocumentFormat} {c c₀ c' : Configuration} {d : Document}

/-! ## The merged document -/

theorem toDocument_hasKeys (c : Configuration) :
    c.toDocument.HasKeys (ConfigSection.all.map ConfigSection.name) :=
  ⟨_, rfl, by rw [List.map_map]; rfl⟩

theorem sectionDocument_hasKeys (c : Configuration) (s : ConfigSection) :
    (c.sectionDocument s).HasKeys (s.settings.map Setting.name) :=
  ⟨_, rfl, by rw [List.map_map]; rfl⟩

theorem nodup_sectionNames : (ConfigSection.all.map ConfigSection.name).Nodup := by
  decide

theorem nodup_settingNames (s : ConfigSection) : (s.settings.map Setting.name).Nodup :=
  s.nodup_settings.map_on fun t ht t' ht' => s.setting_name_injective t ht t' ht'

/-- The merged document has the shape of a configuration. -/
theorem merge_shaped (hd : ofDocument? format d = some c₀) (hshort : d.Short)
    (c : Configuration) :
    (Document.merge c.toDocument d).Shaped (ConfigSection.all.map ConfigSection.name) :=
  c.toDocument_hasKeys.merge_shaped nodup_sectionNames (shaped_of_readRecord hd hshort.sections)

/-- What the merged document has for a section: that of the layer over the one so far, if both
are tables, or whichever there is. -/
theorem field?_merge_section (hd : ofDocument? format d = some c₀) (c : Configuration)
    (s : ConfigSection) :
    (Document.merge c.toDocument d).field? ConfigSection.all ConfigSection.name s =
      match d.field? ConfigSection.all ConfigSection.name s with
      | some sd => some (if d.isList then sd else Document.merge (c.sectionDocument s) sd)
      | none => if d.isList then none else some (c.sectionDocument s) := by
  cases d with
  | table entries =>
    have hbelow := c.field?_toDocument s
    rw [toDocument] at hbelow ⊢
    rw [Document.field?_merge (nodup_of_readRecord hd), hbelow]
    rfl
  | list items =>
    rw [Document.merge_not_table rfl]
    cases (Document.list items).field? ConfigSection.all ConfigSection.name s with
    | none => rfl
    | some sd => rfl
  | _ => cases hd

/-- What the merged document has for a section has the shape of it. -/
theorem field?_merge_shaped (hd : ofDocument? format d = some c₀) (hshort : d.Short)
    (c : Configuration) (s : ConfigSection) {sd : Document}
    (hsd : (Document.merge c.toDocument d).field? ConfigSection.all ConfigSection.name s =
      some sd) : sd.Shaped (s.settings.map Setting.name) := by
  rw [field?_merge_section hd] at hsd
  cases habove : d.field? ConfigSection.all ConfigSection.name s with
  | none =>
    simp only [habove] at hsd
    split at hsd
    · cases hsd
    · cases hsd
      obtain ⟨entries, hentries, hkeys⟩ := c.sectionDocument_hasKeys s
      rw [hentries]
      exact .table (hkeys ▸ nodup_settingNames s) fun k hk => hkeys ▸ hk
  | some above =>
    obtain ⟨a, a', hput⟩ := exists_put_of_readRecord
      (fun _ _ _ _ => ConfigSection.name_injective) s.mem_all hd habove
    have hshape : above.Shaped (s.settings.map Setting.name) :=
      shaped_of_readRecord hput fun items hitems => hshort.settings s items (hitems ▸ habove)
    simp only [habove] at hsd
    cases hsd
    split
    · exact hshape
    · exact (c.sectionDocument_hasKeys s).merge_shaped (nodup_settingNames s) hshape

/-- A layer is accepted if no list in it is too long, and what there is for each setting can be
read. -/
theorem exists_overlay? (hd : ofDocument? format d = some c₀) (hshort : d.Short)
    (hvalues : ∀ t v, (d.valueFor? t).or
        (if d.listsFor t then none else some (t.type.toDocument (c.get t))) = some v →
      ∃ a, t.type.ofDocument? .json v.finite = some a) :
    ∃ c', c.overlay? d = some c' := by
  refine exists_readRecord ConfigSection.nodup_all (merge_shaped hd hshort c).finite ?_
    ({} : Configuration)
  intro s _ sd hsd a
  rw [Document.field?_finite] at hsd
  obtain ⟨sd, hmerged, rfl⟩ := Option.map_eq_some_iff.mp hsd
  refine exists_readRecord s.nodup_settings (field?_merge_shaped hd hshort c s hmerged).finite ?_ a
  intro t ht v hv b
  rw [Document.field?_finite] at hv
  obtain ⟨v, hvalue, rfl⟩ := Option.map_eq_some_iff.mp hv
  -- seen from the document, this is the value for the setting
  obtain rfl := ConfigSection.sectionOf_of_mem ht
  have hfor : (Document.merge c.toDocument d).valueFor? t = some v := by
    rw [Document.valueFor?, hmerged]
    exact hvalue
  rw [valueFor?_merge hd] at hfor
  obtain ⟨x, hx⟩ := hvalues t v hfor
  exact ⟨b.set t x, by rw [putSetting, hx, Option.map_some]⟩

/-- In a layer that is accepted no list is too long. -/
theorem short_of_overlay? (hd : ofDocument? format d = some c₀) (h : c.overlay? d = some c') :
    d.Short where
  sections items hlist := by
    rw [overlay?, hlist, Document.merge_not_table rfl, Document.finite,
      Document.finiteItems_eq_map] at h
    exact (List.length_map Document.finite).symm.trans_le (length_le_of_readRecord h)
  settings s items hitems := by
    have hmerged : (Document.merge c.toDocument d).field? ConfigSection.all ConfigSection.name s =
        some (.list items) := by
      simp only [field?_merge_section hd, hitems]
      split
      · rfl
      · rw [Document.merge_not_table rfl]
    have hfinite : (Document.merge c.toDocument d).finite.field? ConfigSection.all
        ConfigSection.name s = some (.list (items.map Document.finite)) := by
      rw [Document.field?_finite, hmerged, Option.map_some, Document.finite,
        Document.finiteItems_eq_map]
    obtain ⟨a, a', hput⟩ := exists_put_of_readRecord
      (fun _ _ _ _ => ConfigSection.name_injective) s.mem_all h hfinite
    exact (List.length_map Document.finite).symm.trans_le (length_le_of_readRecord hput)

/-- Of a layer that is accepted, what there is for each setting can be read. -/
theorem readable_of_overlay? (hd : ofDocument? format d = some c₀) (h : c.overlay? d = some c')
    (t : Setting) (v : Document)
    (hv : (d.valueFor? t).or
      (if d.listsFor t then none else some (t.type.toDocument (c.get t))) = some v) :
    t.type.ofDocument? .json v.finite = some (c'.get t) := by
  have hread := ofDocument?_decided t h
  rw [Document.valueFor?_finite, valueFor?_merge hd, hv] at hread
  exact hread

end Configuration

/-! ## Values in both formats -/

namespace SettingType

/-- A word that both formats read is the same word. -/
theorem word?_unique {format : DocumentFormat} {d : Document} {a b : String}
    (ha : d.word? format = some a) (hb : d.finite.word? .json = some b) : b = a := by
  unfold Document.word? at ha
  split at ha
  · exact Option.some.inj (hb.symm.trans ha)
  · next key inner =>
    split at ha
    · cases ha
      simp only [Document.finite, Document.finiteEntries, Document.word?] at hb
      split at hb
      · exact (Option.some.inj hb).symm
      · cases hb
    · cases ha
  · cases ha

/-- What a setting is given does not depend on the format in which it is read. -/
theorem ofDocument?_unique {format : DocumentFormat} {t : SettingType} {d : Document}
    {a b : t.Value} (ha : ofDocument? format t d = some a)
    (hb : ofDocument? .json t d.finite = some b) : b = a := by
  cases t with
  | format =>
    obtain ⟨s, hs, hname⟩ := Option.bind_eq_some_iff.mp ha
    obtain ⟨s', hs', hname'⟩ := Option.bind_eq_some_iff.mp hb
    rw [word?_unique hs hs'] at hname'
    exact Option.some.inj (hname'.symm.trans hname)
  | numbers =>
    cases d with
    | list items =>
      have hsame : items.mapM boundary? = some b := mapM_boundary?_of_finite hb
      exact Option.some.inj (hsame.symm.trans ha)
    | _ => cases ha
  | flag =>
    cases d with
    | flag x => exact Option.some.inj (hb.symm.trans ha)
    | _ => cases ha
  | count =>
    cases d with
    | integer n => exact Option.some.inj (hb.symm.trans ha)
    | _ => cases ha
  | text =>
    cases d with
    | text s => exact Option.some.inj (hb.symm.trans ha)
    | _ => cases ha

theorem isFinite_of_boundary? {d : Document} {x : Binary64} (hd : d.Fits)
    (h : boundary? d.finite = some x) : x.isFinite = true := by
  cases hd with
  | number y =>
    rw [Document.finite] at h
    split at h
    · next hy =>
      cases h
      exact hy
    · cases h
  | integer hlow hhigh =>
    cases h
    rw [Binary64.ofInt, Binary64.isFinite_withSign]
    refine Binary64.isFinite_of_magnitude_le (Binary64.magnitude_ofNat_le ?_) (by decide)
    simp only [maxUInt64] at hhigh
    omega
  | _ => cases h

theorem isFinite_of_boundaries {items : List Document} {xs : List Binary64}
    (hitems : ∀ d ∈ items, d.Fits)
    (h : (Document.finiteItems items).mapM boundary? = some xs) : ∀ x ∈ xs, x.isFinite = true := by
  rw [Document.finiteItems_eq_map, mapM_eq_some_iff, List.forall₂_map_left_iff] at h
  have hboth := (List.forall₂_and_left _ _).mpr ⟨hitems, h⟩
  have hfinite : List.Forall₂ (fun (x : Binary64) (_ : Document) => x.isFinite = true ∧ True)
      xs items :=
    (hboth.imp fun _ _ hd => ⟨isFinite_of_boundary? hd.1 hd.2, trivial⟩).flip
  exact ((List.forall₂_and_left _ _).mp hfinite).1

theorem mapM_boundary?_number {xs : List Binary64} (hxs : ∀ x ∈ xs, x.isFinite = true) :
    (Document.finiteItems (xs.map .number)).mapM boundary? = some xs := by
  rw [Document.finiteItems_eq_map, mapM_eq_some_iff, List.forall₂_map_left_iff,
    List.forall₂_map_left_iff, List.forall₂_same]
  intro x hx
  rw [Document.finite, if_pos (hxs x hx)]
  rfl

end SettingType

/-! ## Configurations that can be written and read back -/

theorem Document.fits_of_field? {φ : Type} [DecidableEq φ] {fields : List φ} {name : φ → String}
    {f : φ} {d d' : Document} (hd : d.Fits) (h : d.field? fields name f = some d') : d'.Fits := by
  cases hd with
  | table hentries => exact hentries _ (mem_of_lookup_eq_some h)
  | list hitems => exact hitems _ (List.of_mem_zip (mem_of_lookup_eq_some h)).2
  | _ => cases h

theorem Document.fits_of_valueFor? {t : Setting} {d v : Document} (hd : d.Fits)
    (h : d.valueFor? t = some v) : v.Fits := by
  obtain ⟨sd, hsd, hv⟩ := Option.bind_eq_some_iff.mp h
  exact fits_of_field? (fits_of_field? hd hsd) hv

namespace Configuration

variable {format : DocumentFormat} {c c₀ c' : Configuration} {d : Document}

/-- The configuration is read back when it is written: its boundaries are finite. -/
def Storable (c : Configuration) : Prop :=
  ∀ x ∈ c.get .durationBuckets, x.isFinite = true

theorem default_storable : Storable {} := by
  have hbuckets : ∀ x ∈ defaultBuckets, x.isFinite = true := by decide +kernel
  exact hbuckets

/-- A setting is read again as it was written, but for boundaries that are not finite. -/
theorem exists_ofDocument?_iff (c : Configuration) (t : Setting) :
    (∃ a, t.type.ofDocument? .json (t.type.toDocument (c.get t)).finite = some a) ↔
      (t = .durationBuckets → c.Storable) := by
  cases t with
  | durationBuckets =>
    refine ⟨?_, fun hc => ⟨_, SettingType.mapM_boundary?_number (hc rfl)⟩⟩
    rintro ⟨a, ha⟩ -
    have hsame : a = c.get .durationBuckets := SettingType.ofDocument?_finite_toDocument ha
    rw [Storable, ← hsame]
    refine SettingType.isFinite_of_boundaries (fun item hitem => ?_) ha
    obtain ⟨x, -, rfl⟩ := List.mem_map.mp hitem
    exact .number x
  | limit f =>
    refine ⟨fun _ => nofun, fun _ => ⟨_, if_pos ⟨Int.natCast_nonneg _, ?_⟩⟩⟩
    exact Int.ofNat_le.mpr (Nat.le_of_lt_succ (c.formLimits.get f).toNat_lt)
  | logFormat => exact ⟨fun _ => nofun, fun _ => ⟨_, LogFormat.ofName?_name c.logging.format⟩⟩
  | _ => exact ⟨fun _ => nofun, fun _ => ⟨_, rfl⟩⟩

/-- An accepted layer leaves a configuration that can be written again. -/
theorem overlay?_storable (hd : ofDocument? format d = some c₀) (hfits : d.Fits) (hc : c.Storable)
    (h : c.overlay? d = some c') : c'.Storable := by
  have hdecided := overlay?_decided hd h .durationBuckets
  cases hvalue : d.valueFor? .durationBuckets with
  | none =>
    rw [hvalue] at hdecided
    have hsame : c'.get .durationBuckets = _ := hdecided
    rw [Storable, hsame]
    split
    · exact default_storable
    · exact hc
  | some v =>
    rw [hvalue] at hdecided
    have hread : SettingType.ofDocument? .json .numbers v.finite =
        some (c'.get .durationBuckets) := hdecided
    have hv := Document.fits_of_valueFor? hfits hvalue
    cases hv with
    | list hitems => exact SettingType.isFinite_of_boundaries hitems hread
    | number x =>
      rw [Document.finite] at hread
      split at hread <;> cases hread
    | _ => cases hread

/-- A configuration is what its settings say. -/
theorem eq_of_get (h : ∀ t, c.get t = c'.get t) : c = c' := by
  obtain ⟨binding, formLimits, logging, metrics⟩ := c
  obtain ⟨binding', formLimits', logging', metrics'⟩ := c'
  have hlimits : formLimits = formLimits' := by
    cases formLimits
    cases formLimits'
    rw [FormOptions.mk.injEq]
    exact ⟨h .bufferBody, h (.limit .memoryBufferThreshold), h (.limit .bufferBodyLengthLimit),
      h (.limit .valueCountLimit), h (.limit .keyLengthLimit), h (.limit .valueLengthLimit),
      h (.limit .multipartBoundaryLengthLimit), h (.limit .multipartHeadersCountLimit),
      h (.limit .multipartHeadersLengthLimit), h (.limit .multipartBodyLengthLimit)⟩
  have hbinding : binding = binding' := by
    cases binding
    cases binding'
    rw [BindingOptions.mk.injEq]
    exact ⟨h .allowEmptyInput, h .convertAllExceptions⟩
  have hlogging : logging = logging' := by
    cases logging
    cases logging'
    rw [LoggingSection.mk.injEq]
    exact ⟨h .loggingEnabled, h .level, h .logFormat, h .spanEvents, h .includeLocation⟩
  have hmetrics : metrics = metrics' := by
    cases metrics
    cases metrics'
    rw [MetricsSettings.mk.injEq]
    exact ⟨h .metricsEnabled, h .serviceName, h .durationBuckets⟩
  rw [hbinding, hlimits, hlogging, hmetrics]

end Configuration

end RequestBinding
