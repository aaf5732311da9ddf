import RequestBinding.Config.Loader
import RequestBinding.Proofs.Config.Decoding

/-!
# What a layer leaves as it was

A layer is a document that is laid over the configuration so far, which is written
as a table of tables. Where the document has tables too, a setting that it does not
name keeps its place in the merged document, and is read back as it was.

A section may also be written as a list of its first settings, and the whole
configuration as a list of its first sections. Such a list is no table, and replaces
what it is laid over. So the settings behind its end do not keep their values: they
are read as usual (`listsFor`).

Results:
1. `valueFor?_merge`: what the merged document has for a setting.
2. `overlay?_decided`: what becomes of each setting under a document.
3. `Loader.withText_get`: what becomes of the settings that a layer does not give.
4. `Loader.not_withText_keeps`: they are not always kept.
-/

namespace RequestBinding

namespace Document

/-- The document is a list. -/
def isList : Document → Bool
  | list _ => true
  | _ => false

/-- The document gives the section of a setting, or all sections, as a list. -/
def listsFor (t : Setting) (d : Document) : Bool :=
  d.isList || (d.field? ConfigSection.all ConfigSection.name t.sectionOf).any isList

theorem valueFor?_finite (t : Setting) (d : Document) :
    d.finite.valueFor? t = (d.valueFor? t).map finite := by
  rw [valueFor?, valueFor?, field?_finite]
  cases d.field? ConfigSection.all ConfigSection.name t.sectionOf with
  | none => rfl
  | some sd => exact field?_finite sd

end Document

namespace Configuration

/-! ## The merged document -/

theorem isTable_toDocument (t : SettingType) (v : t.Value) : (t.toDocument v).isTable = false := by
  cases t <;> rfl

theorem field?_toDocument (c : Configuration) (s : ConfigSection) :
    c.toDocument.field? ConfigSection.all ConfigSection.name s = some (c.sectionDocument s) :=
  Document.field?_table_map (fun _ _ => ConfigSection.name_injective) s.mem_all

theorem field?_sectionDocument (c : Configuration) (t : Setting) :
    (c.sectionDocument t.sectionOf).field? t.sectionOf.settings Setting.name t =
      some (t.type.toDocument (c.get t)) :=
  Document.field?_table_map
    (fun _ ht' => t.sectionOf.setting_name_injective _ ht' _ t.mem_settings) t.mem_settings

/-- What a section has for a setting when it is laid over the one before. -/
theorem field?_merge_sectionDocument {format : DocumentFormat} {c a a' : Configuration}
    {t : Setting} {sd : Document} (h : putSection format a t.sectionOf sd = some a') :
    (Document.merge (c.sectionDocument t.sectionOf) sd).field? t.sectionOf.settings
        Setting.name t =
      (sd.field? t.sectionOf.settings Setting.name t).or
        (if sd.isList then none else some (t.type.toDocument (c.get t))) := by
  cases sd with
  | table entries =>
    have hbelow := c.field?_sectionDocument t
    rw [sectionDocument] at hbelow ⊢
    rw [Document.field?_merge (nodup_of_readRecord h), hbelow]
    cases (Document.table entries).field? t.sectionOf.settings Setting.name t with
    | none => rfl
    | some v => exact congrArg some (Document.merge_of_not_table (isTable_toDocument _ _) v)
  | list items =>
    rw [Document.merge_not_table rfl]
    exact Option.or_none.symm
  | _ => cases h

/-- What the merged document has for a setting: what the layer gives, or else the value
so far, unless a list has replaced it. -/
theorem valueFor?_merge {format : DocumentFormat} {d : Document} {c₀ : Configuration}
    (h : ofDocument? format d = some c₀) (c : Configuration) (t : Setting) :
    (Document.merge c.toDocument d).valueFor? t =
      (d.valueFor? t).or
        (if d.listsFor t then none else some (t.type.toDocument (c.get t))) := by
  cases d with
  | table entries =>
    -- the sections are merged first, and the settings in a section that both have
    have hbelow := c.field?_toDocument t.sectionOf
    rw [toDocument] at hbelow ⊢
    rw [Document.valueFor?, Document.field?_merge (nodup_of_readRecord h), hbelow,
      Document.valueFor?, Document.listsFor]
    cases hsection : (Document.table entries).field? ConfigSection.all ConfigSection.name
      t.sectionOf with
    | none => exact c.field?_sectionDocument t
    | some sd =>
      obtain ⟨a, a', hput⟩ := exists_put_of_readRecord
        (fun _ _ _ _ => ConfigSection.name_injective) t.sectionOf.mem_all h hsection
      exact field?_merge_sectionDocument hput
  | list items =>
    rw [Document.merge_not_table rfl]
    exact Option.or_none.symm
  | _ => cases h

/-- Under a document a setting has the value that it gives. One that it does not give is
as usual if a list has replaced it, and as before if not. -/
theorem overlay?_decided {format : DocumentFormat} {d : Document} {c c₀ c' : Configuration}
    (hd : ofDocument? format d = some c₀) (h : c.overlay? d = some c') (t : Setting) :
    Decided (fun v => t.type.ofDocument? .json v.finite) (d.valueFor? t)
      (if d.listsFor t then ({} : Configuration).get t else c.get t) (c'.get t) := by
  have hread := ofDocument?_decided t h
  rw [Document.valueFor?_finite, valueFor?_merge hd] at hread
  cases hvalue : d.valueFor? t with
  | some v =>
    rw [hvalue] at hread
    exact hread
  | none =>
    rw [hvalue, Option.none_or] at hread
    cases hlists : d.listsFor t with
    | true =>
      rw [hlists] at hread
      exact hread
    | false =>
      rw [hlists] at hread
      exact SettingType.ofDocument?_finite_toDocument hread

end Configuration

/-! ## Layers -/

namespace Loader

theorem withText_eq_ok {l l' : Loader} {s format : String} (h : l.withText s format = .ok l') :
    ∃ f d c, DocumentFormat.ofName? format = some f ∧ Document.read? f s = some d ∧
      Configuration.ofDocument? f d = some c ∧ l.config.overlay? d = some l'.config := by
  rw [withText] at h
  split at h
  · cases h
  · next f hformat =>
    split at h
    · next c hlayer =>
      cases h
      rw [Configuration.layer] at hlayer
      split at hlayer
      · cases hlayer
      · next d hread =>
        split at hlayer
        · cases hlayer
        · next htyped =>
          obtain ⟨c₀, hc₀⟩ : ∃ c₀, Configuration.ofDocument? f d = some c₀ := by
            cases hc : Configuration.ofDocument? f d with
            | none => exact absurd (congrArg Option.isNone hc) htyped
            | some c₀ => exact ⟨c₀, rfl⟩
          split at hlayer
          · next c' hover =>
            cases hlayer
            exact ⟨f, d, c₀, hformat, hread, hc₀, hover⟩
          · cases hlayer
    · cases h

/-- Text that writes a configuration by itself is laid over the configuration, if that can be. -/
theorem withText_of_read {l : Loader} {s format : String} {f : DocumentFormat} {d : Document}
    {c₀ : Configuration} (hformat : DocumentFormat.ofName? format = some f)
    (hread : Document.read? f s = some d) (htyped : Configuration.ofDocument? f d = some c₀) :
    l.withText s format =
      match l.config.overlay? d with
      | some c => .ok { l with config := c }
      | none => .error .json := by
  rw [withText, hformat]
  simp only [Configuration.layer, hread, htyped, Option.isNone_some, Bool.false_eq_true, if_false]
  cases l.config.overlay? d with
  | none => rfl
  | some c => rfl

/-- A setting that a layer does not give has the value that it had before, unless the
layer writes its section, or the whole configuration, as a list: then it is as
usual, whatever it was before. -/
theorem withText_get {l l' : Loader} {s format : String} (h : l.withText s format = .ok l') :
    ∃ f d, DocumentFormat.ofName? format = some f ∧ Document.read? f s = some d ∧
      ∀ t : Setting, d.valueFor? t = none →
        l'.config.get t = if d.listsFor t then ({} : Configuration).get t else l.config.get t := by
  obtain ⟨f, d, c, hformat, hread, htyped, hover⟩ := withText_eq_ok h
  refine ⟨f, d, hformat, hread, fun t hnone => ?_⟩
  have hdecided := Configuration.overlay?_decided htyped hover t
  rw [hnone] at hdecided
  exact hdecided

/-- One setting of the log is given in a list: another one is as usual again, and those
of other sections are kept. -/
theorem withText_get_of_list :
    let l : Loader := ⟨{ Configuration.development with
      binding := { convertAllExceptions := true } }, none⟩
    ∃ l' : Loader, l.withText "logging = [false]" "toml" = .ok l' ∧
      l.config.get .level = "debug" ∧ l'.config.get .level = "info" ∧
      l'.config.get .convertAllExceptions = true := by
  intro l
  have hok : (l.withText "logging = [false]" "toml").isOk = true := by decide +kernel
  cases hresult : l.withText "logging = [false]" "toml" with
  | error e =>
    rw [hresult] at hok
    cases hok
  | ok l' =>
    obtain ⟨f, d, hformat, hread, hget⟩ := withText_get hresult
    have htoml : DocumentFormat.ofName? "toml" = some .toml := by decide +kernel
    cases htoml.symm.trans hformat
    -- documents are not compared, so that only what is asked of this one is computed
    have hgiven : ((Document.read? .toml "logging = [false]").map fun d =>
        ((d.valueFor? .level).isNone, (d.valueFor? .convertAllExceptions).isNone,
          d.listsFor .level, d.listsFor .convertAllExceptions)) =
        some (true, true, true, false) := by decide +kernel
    rw [hread] at hgiven
    simp only [Option.map_some, Option.some.injEq, Prod.mk.injEq, Option.isNone_iff_eq_none]
      at hgiven
    obtain ⟨hlevel, hconvert, hlisted, hkept⟩ := hgiven
    refine ⟨l', rfl, rfl, ?_, ?_⟩
    · rw [hget .level hlevel, hlisted]
      rfl
    · rw [hget .convertAllExceptions hconvert, hkept]
      rfl

/-- Not every layer keeps what it does not give: an empty list over the configuration of
a service at work. -/
theorem not_withText_keeps :
    ¬ ∀ (l l' : Loader) (s format : String), l.withText s format = .ok l' →
      ∀ f d, DocumentFormat.ofName? format = some f → Document.read? f s = some d →
        ∀ t : Setting, d.valueFor? t = none → l'.config.get t = l.config.get t := by
  intro hkeeps
  have hread : Document.read? .json "[]" = some (.list []) := by rfl
  have hformat : DocumentFormat.ofName? "json" = some .json := by decide +kernel
  have hlayer : Loader.withText ⟨.production, none⟩ "[]" "json" = .ok ⟨{}, none⟩ := by
    rw [withText, hformat]
    simp only [Configuration.layer, hread]
    rfl
  have hsame := hkeeps _ _ _ _ hlayer _ _ hformat hread .convertAllExceptions rfl
  cases hsame

end Loader

end RequestBinding
