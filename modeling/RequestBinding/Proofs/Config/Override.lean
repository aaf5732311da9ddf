import RequestBinding.Proofs.Config.Acceptance

/-!
# Layers as overrides

Laying text over a configuration sends all of it through a document and back. For layers
that are tables of sections this comes to no more than replacing the settings that the
layer names: the value that its own format reads is what the setting has afterwards, and
the others come back as they went (`Loader.lay_get`). Layers that have been accepted stay
acceptable, so that an empty layer, the same layer once more, or two layers of different
settings in the other order are accepted too, and lead to the same configuration.

Results:
1. `Loader.lay_get`: what one layer does to each setting.
2. `Loader.exists_lay`: a layer whose values were read once is accepted again.
3. `Loader.layAll_get_of_unnamed`, `Loader.layAll_get_of_last`: a run of layers.
4. `Loader.layers_override`: the configuration after any accepted layers, and what more
   layers do to it.
-/

namespace RequestBinding

/-- The configurations that a loader can start from without being given one. -/
def Configuration.presets : List Configuration :=
  [{}, development, production]

/-- Text that is laid over a configuration, in a format by its name. -/
structure Layer where
  text : String
  format : String

namespace Layer

/-- The document that a layer writes, with its format. -/
def document? (x : Layer) : Option (DocumentFormat × Document) :=
  (DocumentFormat.ofName? x.format).bind fun f => (Document.read? f x.text).map fun d => (f, d)

/-- The layer writes a configuration by itself. -/
def isTyped (x : Layer) : Bool :=
  x.document?.any fun p => (Configuration.ofDocument? p.1 p.2).isSome

/-- The layer is a table of sections. -/
def isSectioned (x : Layer) : Bool :=
  x.document?.any fun p => p.2.isSectioned

/-- The layer has a value for a setting. -/
def names (x : Layer) (t : Setting) : Bool :=
  x.document?.any fun p => (p.2.valueFor? t).isSome

/-- The value that a layer has for a setting, as its own format reads it. -/
def given? (x : Layer) (t : Setting) : Option t.type.Value :=
  x.document?.bind fun p => (p.2.valueFor? t).bind (t.type.ofDocument? p.1)

variable {x : Layer} {f : DocumentFormat} {d : Document}

theorem isSectioned_of_document? (h : x.document? = some (f, d)) :
    x.isSectioned = d.isSectioned := by
  rw [isSectioned, h, Option.any_some]

theorem names_of_document? (h : x.document? = some (f, d)) (t : Setting) :
    x.names t = (d.valueFor? t).isSome := by
  rw [names, h, Option.any_some]

theorem given?_of_document? (h : x.document? = some (f, d)) (t : Setting) :
    x.given? t = (d.valueFor? t).bind (t.type.ofDocument? f) := by
  rw [given?, h, Option.bind_some]

theorem exists_of_isTyped (h : x.isTyped = true) :
    ∃ f d c, x.document? = some (f, d) ∧ Configuration.ofDocument? f d = some c := by
  rw [isTyped] at h
  cases hx : x.document? with
  | none =>
    rw [hx] at h
    cases h
  | some p =>
    rw [hx, Option.any_some] at h
    obtain ⟨c, hc⟩ := Option.isSome_iff_exists.mp h
    exact ⟨p.1, p.2, c, rfl, hc⟩

end Layer

namespace Loader

variable {l l' : Loader} {x : Layer}

/-- Lays a layer over the configuration. -/
def lay (l : Loader) (x : Layer) : Except ConfigError Loader :=
  l.withText x.text x.format

/-- Lays layers over the configuration, one after another. -/
def layAll (l : Loader) (xs : List Layer) : Except ConfigError Loader :=
  xs.foldlM lay l

/-! ## One layer -/

theorem lay_eq_ok (h : l.lay x = .ok l') :
    ∃ f d c, x.document? = some (f, d) ∧ d.Fits ∧ Configuration.ofDocument? f d = some c ∧
      l.config.overlay? d = some l'.config := by
  obtain ⟨f, d, c, hformat, hread, htyped, hover⟩ := withText_eq_ok h
  refine ⟨f, d, c, ?_, Document.read?_fits hread, htyped, hover⟩
  rw [Layer.document?, hformat, Option.bind_some, hread, Option.map_some]

theorem lay_of_overlay? {f : DocumentFormat} {d : Document} {c c' : Configuration}
    (hx : x.document? = some (f, d)) (htyped : Configuration.ofDocument? f d = some c)
    (hover : l.config.overlay? d = some c') : l.lay x = .ok { l with config := c' } := by
  obtain ⟨f', hformat, hread⟩ := Option.bind_eq_some_iff.mp hx
  obtain ⟨d', hread, hpair⟩ := Option.map_eq_some_iff.mp hread
  cases hpair
  rw [lay, withText_of_read hformat hread htyped, hover]

theorem lay_word? (h : l.lay x = .ok l') : l'.word? = l.word? := by
  rw [lay, withText] at h
  split at h
  · cases h
  · split at h
    · cases h
      rfl
    · cases h

/-- Loaders that agree on every setting, and on the word of variables, are the same. -/
theorem eq_of_get (hword : l.word? = l'.word?) (hget : ∀ t, l.config.get t = l'.config.get t) :
    l = l' := by
  obtain ⟨c, w⟩ := l
  obtain ⟨c', w'⟩ := l'
  rw [Loader.mk.injEq]
  exact ⟨Configuration.eq_of_get hget, hword⟩

/-- A layer of tables gives the settings that it names the values that its format reads,
and leaves the others as they are. -/
theorem lay_get (hx : x.isSectioned = true) (h : l.lay x = .ok l') (t : Setting) :
    (x.names t = true → x.given? t = some (l'.config.get t)) ∧
      (x.names t = false → l'.config.get t = l.config.get t) := by
  obtain ⟨f, d, c, hdocument, -, htyped, hover⟩ := lay_eq_ok h
  rw [Layer.isSectioned_of_document? hdocument] at hx
  have hafter := Configuration.overlay?_decided htyped hover t
  rw [Document.listsFor_of_isSectioned hx] at hafter
  rw [Layer.names_of_document? hdocument, Layer.given?_of_document? hdocument]
  cases hvalue : d.valueFor? t with
  | none =>
    rw [hvalue] at hafter
    exact ⟨nofun, fun _ => hafter⟩
  | some v =>
    -- the layer was read by itself first, and the merged document afterwards
    have hown := Configuration.ofDocument?_decided t htyped
    rw [hvalue] at hafter hown
    refine ⟨fun _ => ?_, nofun⟩
    rw [Option.bind_some, SettingType.ofDocument?_unique hown hafter]
    exact hown

theorem lay_storable (hl : l.config.Storable) (h : l.lay x = .ok l') : l'.config.Storable := by
  obtain ⟨f, d, c, -, hfits, htyped, hover⟩ := lay_eq_ok h
  exact Configuration.overlay?_storable htyped hfits hl hover

end Loader

/-- What a layer has for a setting can be read in the merged document too. -/
def Layer.Readable (x : Layer) : Prop :=
  ∀ f d, x.document? = some (f, d) → ∀ t v, d.valueFor? t = some v →
    ∃ a, t.type.ofDocument? .json v.finite = some a

theorem Layer.readable_of_unnamed {x : Layer} (h : ∀ t, x.names t = false) : x.Readable := by
  intro f d hdocument t v hv
  have hnone := h t
  rw [names_of_document? hdocument, hv] at hnone
  cases hnone

namespace Loader

variable {l l' : Loader} {x y : Layer}

theorem readable_of_lay (h : l.lay x = .ok l') : x.Readable := by
  intro f d hdocument t v hv
  obtain ⟨f', d', c, hdocument', -, htyped, hover⟩ := lay_eq_ok h
  cases hdocument.symm.trans hdocument'
  have hafter := Configuration.overlay?_decided htyped hover t
  rw [hv] at hafter
  exact ⟨_, hafter⟩

theorem isTyped_of_lay (h : l.lay x = .ok l') : x.isTyped = true := by
  obtain ⟨f, d, c, hdocument, -, htyped, -⟩ := lay_eq_ok h
  rw [Layer.isTyped, hdocument, Option.any_some, htyped]
  rfl

/-- A layer whose values can be read is accepted over every configuration that can be
written. -/
theorem exists_lay (htyped : x.isTyped = true) (hx : x.isSectioned = true) (hread : x.Readable)
    (hl : l.config.Storable) : ∃ l', l.lay x = .ok l' := by
  obtain ⟨f, d, c, hdocument, hc⟩ := Layer.exists_of_isTyped htyped
  rw [Layer.isSectioned_of_document? hdocument] at hx
  obtain ⟨c', hover⟩ : ∃ c', l.config.overlay? d = some c' := by
    refine Configuration.exists_overlay? hc (Document.short_of_isSectioned hx) fun t v hv => ?_
    rw [Document.listsFor_of_isSectioned hx] at hv
    cases hvalue : d.valueFor? t with
    | none =>
      rw [hvalue] at hv
      cases hv
      exact (l.config.exists_ofDocument?_iff t).mpr fun _ => hl
    | some w =>
      rw [hvalue] at hv
      cases hv
      exact hread f d hdocument t v hvalue
  exact ⟨_, lay_of_overlay? hdocument hc hover⟩

/-- A layer that gives the settings that it names the values that they have changes
nothing. -/
theorem lay_eq_self (htyped : x.isTyped = true) (hx : x.isSectioned = true) (hread : x.Readable)
    (hl : l.config.Storable)
    (hsame : ∀ t, x.names t = true → x.given? t = some (l.config.get t)) : l.lay x = .ok l := by
  obtain ⟨l', hlaid⟩ := exists_lay htyped hx hread hl
  have heq : l' = l := by
    refine eq_of_get (lay_word? hlaid) fun t => ?_
    obtain ⟨hnamed, hunnamed⟩ := lay_get hx hlaid t
    cases ht : x.names t with
    | false => exact hunnamed ht
    | true => exact Option.some.inj ((hnamed ht).symm.trans (hsame t ht))
  rw [hlaid, heq]

/-- The same layer once more changes nothing. -/
theorem lay_again (hx : x.isSectioned = true) (hl : l.config.Storable) (h : l.lay x = .ok l') :
    l'.lay x = .ok l' :=
  lay_eq_self (isTyped_of_lay h) hx (readable_of_lay h) (lay_storable hl h) fun t ht =>
    (lay_get hx h t).1 ht

/-- Layers that name no setting in common may change places. -/
theorem lay_comm (hx : x.isSectioned = true) (hy : y.isSectioned = true)
    (hdisjoint : ∀ t, x.names t = true → y.names t = false) (hl : l.config.Storable)
    {m m' : Loader} (hfirst : l.lay x = .ok m) (hsecond : m.lay y = .ok m') :
    ∃ n, l.lay y = .ok n ∧ n.lay x = .ok m' := by
  obtain ⟨n, hn⟩ := exists_lay (isTyped_of_lay hsecond) hy (readable_of_lay hsecond) hl
  obtain ⟨n', hn'⟩ :=
    exists_lay (isTyped_of_lay hfirst) hx (readable_of_lay hfirst) (lay_storable hl hn)
  have hword : n'.word? = m'.word? := by
    rw [lay_word? hn', lay_word? hn, lay_word? hsecond, lay_word? hfirst]
  have heq : n' = m' := by
    refine eq_of_get hword fun t => ?_
    cases hxt : x.names t with
    | true =>
      have hleft := (lay_get hx hn' t).1 hxt
      have hright := (lay_get hx hfirst t).1 hxt
      rw [(lay_get hy hsecond t).2 (hdisjoint t hxt)]
      exact Option.some.inj (hleft.symm.trans hright)
    | false =>
      rw [(lay_get hx hn' t).2 hxt]
      cases hyt : y.names t with
      | true =>
        have hleft := (lay_get hy hn t).1 hyt
        have hright := (lay_get hy hsecond t).1 hyt
        exact Option.some.inj (hleft.symm.trans hright)
      | false =>
        rw [(lay_get hy hn t).2 hyt, (lay_get hy hsecond t).2 hyt, (lay_get hx hfirst t).2 hxt]
  exact ⟨n, hn, heq ▸ hn'⟩

/-! ## Layers in a row -/

theorem layAll_cons {xs : List Layer} (h : l.layAll (x :: xs) = .ok l') :
    ∃ m, l.lay x = .ok m ∧ m.layAll xs = .ok l' := by
  rw [layAll, List.foldlM_cons] at h
  cases hx : l.lay x with
  | error e =>
    rw [hx] at h
    cases h
  | ok m =>
    rw [hx] at h
    exact ⟨m, rfl, h⟩

theorem layAll_append {xs ys : List Layer} (h : l.layAll (xs ++ ys) = .ok l') :
    ∃ m, l.layAll xs = .ok m ∧ m.layAll ys = .ok l' := by
  rw [layAll, List.foldlM_append] at h
  cases hxs : xs.foldlM lay l with
  | error e =>
    rw [hxs] at h
    cases h
  | ok m =>
    rw [hxs] at h
    exact ⟨m, hxs, h⟩

theorem layAll_storable {xs : List Layer} (hl : l.config.Storable) (h : l.layAll xs = .ok l') :
    l'.config.Storable := by
  induction xs generalizing l with
  | nil =>
    cases h
    exact hl
  | cons x xs ih =>
    obtain ⟨m, hx, hrest⟩ := layAll_cons h
    exact ih (lay_storable hl hx) hrest

/-- A setting that no layer names is as it was. -/
theorem layAll_get_of_unnamed {xs : List Layer} {t : Setting}
    (hsections : ∀ x ∈ xs, x.isSectioned = true) (hnone : ∀ x ∈ xs, x.names t = false)
    (h : l.layAll xs = .ok l') : l'.config.get t = l.config.get t := by
  induction xs generalizing l with
  | nil =>
    cases h
    rfl
  | cons x xs ih =>
    obtain ⟨hxsection, hxssection⟩ := List.forall_mem_cons.mp hsections
    obtain ⟨hxnone, hxsnone⟩ := List.forall_mem_cons.mp hnone
    obtain ⟨m, hx, hrest⟩ := layAll_cons h
    exact (ih hxssection hxsnone hrest).trans ((lay_get hxsection hx t).2 hxnone)

/-- A setting has the value that the last layer that names it gives. -/
theorem layAll_get_of_last {before after : List Layer} {t : Setting}
    (hsections : ∀ y ∈ before ++ x :: after, y.isSectioned = true) (hx : x.names t = true)
    (hlast : ∀ y ∈ after, y.names t = false) (h : l.layAll (before ++ x :: after) = .ok l') :
    x.given? t = some (l'.config.get t) := by
  obtain ⟨-, hrest⟩ := List.forall_mem_append.mp hsections
  obtain ⟨hxsection, hafter⟩ := List.forall_mem_cons.mp hrest
  obtain ⟨m, -, hfrom⟩ := layAll_append h
  obtain ⟨n, hlaid, hlater⟩ := layAll_cons hfrom
  rw [layAll_get_of_unnamed hafter hlast hlater]
  exact (lay_get hxsection hlaid t).1 hx

theorem storable_of_mem_presets {c : Configuration} (h : c ∈ Configuration.presets) :
    c.Storable := by
  have hbuckets : c.get .durationBuckets = defaultBuckets := by
    rcases List.mem_cons.mp h with rfl | h
    · rfl
    · rcases List.mem_cons.mp h with rfl | h
      · rfl
      · cases List.mem_singleton.mp h
        rfl
  rw [Configuration.Storable, hbuckets]
  exact Configuration.default_storable

/-- Whatever layers of tables were accepted over a preset, in whichever formats, a setting
has the value that the last layer that names it gives, and the value of the preset if none
does. A layer that names nothing is accepted and changes nothing, and so is a layer that was
just accepted; layers that name no setting in common may change places. -/
theorem layers_override (start : Configuration) (word? : Option String) (layers : List Layer)
    (l : Loader) (hstart : start ∈ Configuration.presets)
    (hsections : ∀ x ∈ layers, x.isSectioned = true)
    (hlayers : Loader.layAll ⟨start, word?⟩ layers = .ok l) :
    (∀ t before x after, layers = before ++ x :: after → x.names t = true →
      (∀ y ∈ after, y.names t = false) → x.given? t = some (l.config.get t)) ∧
    (∀ t, (∀ x ∈ layers, x.names t = false) → l.config.get t = start.get t) ∧
    (∀ x : Layer, x.isTyped = true → x.isSectioned = true → (∀ t, x.names t = false) →
      l.lay x = .ok l) ∧
    (∀ (x : Layer) (m : Loader), x.isSectioned = true → l.lay x = .ok m → m.lay x = .ok m) ∧
    (∀ (x y : Layer) (m m' : Loader), x.isSectioned = true → y.isSectioned = true →
      (∀ t, x.names t = true → y.names t = false) → l.lay x = .ok m → m.lay y = .ok m' →
      ∃ n, l.lay y = .ok n ∧ n.lay x = .ok m') := by
  have hl : l.config.Storable := layAll_storable (storable_of_mem_presets hstart) hlayers
  refine ⟨?_, ?_, ?_, ?_, ?_⟩
  · rintro t before x after rfl hx hlast
    exact layAll_get_of_last hsections hx hlast hlayers
  · intro t hnone
    exact layAll_get_of_unnamed hsections hnone hlayers
  · intro x htyped hx hnone
    refine lay_eq_self htyped hx (Layer.readable_of_unnamed hnone) hl fun t ht => ?_
    rw [hnone t] at ht
    cases ht
  · intro x m hx h
    exact lay_again hx hl h
  · intro x y m m' hx hy hdisjoint hfirst hsecond
    exact lay_comm hx hy hdisjoint hl hfirst hsecond

/-- One setting is given twice, in both formats, and another one only by the preset. -/
theorem layers_override_mixed :
    let first : Layer := ⟨"form_limits.value_count_limit = 5\nlogging.level = 'warn'", "TOML"⟩
    let second : Layer :=
      ⟨"\x7b\"form_limits\": \x7b\"value_count_limit\": 18446744073709551615\x7d\x7d", "json"⟩
    ∃ l : Loader, layAll ⟨.production, none⟩ [first, second] = .ok l ∧
      l.config.get (.limit .valueCountLimit) = 18446744073709551615 ∧
      l.config.get .level = "warn" ∧ l.config.get .convertAllExceptions = true ∧
      l.lay ⟨"[metrics]", "toml"⟩ = .ok l := by
  intro first second
  have hok : (layAll ⟨.production, none⟩ [first, second]).isOk = true := by decide +kernel
  have hsections : ∀ x ∈ [first, second], x.isSectioned = true := by decide +kernel
  cases hlayers : layAll ⟨.production, none⟩ [first, second] with
  | error e =>
    rw [hlayers] at hok
    cases hok
  | ok l =>
    obtain ⟨hlast, hnone, hempty, -⟩ :=
      layers_override .production none [first, second] l (by decide) hsections hlayers
    refine ⟨l, rfl, ?_, ?_, ?_, ?_⟩
    · have hgiven := hlast (.limit .valueCountLimit) [first] second [] rfl (by decide +kernel)
        (fun y hy => absurd hy List.not_mem_nil)
      have hvalue : second.given? (.limit .valueCountLimit) = some 18446744073709551615 := by
        decide +kernel
      exact Option.some.inj (hgiven.symm.trans hvalue)
    · have hgiven := hlast .level [] first [second] rfl (by decide +kernel) (by decide +kernel)
      have hvalue : first.given? .level = some "warn" := by decide +kernel
      exact Option.some.inj (hgiven.symm.trans hvalue)
    · exact hnone .convertAllExceptions (by decide +kernel)
    · refine hempty _ (by decide +kernel) (by decide +kernel) fun t => ?_
      have hall : ∀ t ∈ Setting.all, Layer.names ⟨"[metrics]", "toml"⟩ t = false := by
        decide +kernel
      exact hall t t.mem_all

end Loader

end RequestBinding
