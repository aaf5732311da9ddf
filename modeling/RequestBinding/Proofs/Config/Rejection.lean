import RequestBinding.Proofs.Config.Override

/-!
# When a layer is refused

Text is read twice before it is laid over a configuration: by itself, in its own format, and as
part of the merged document, which is JSON. What TOML can say and JSON cannot is right the first
time and wrong the second: boundaries that are infinite or not a number, the word of a choice as
a table, and lists with more items than a section has settings. Nor can a configuration be
written that has such boundaries already, so that it takes no layer that leaves them in place.
There is no other obstacle (`Obstacle`), and none for JSON over what layers have led to.

Results:
1. `SettingType.exists_ofDocument?_iff`: which values are read again in the merged document.
2. `Configuration.exists_overlay?_iff`: which documents can be laid over a configuration.
3. `Loader.withText_decided`: which text a loader accepts, and what else it answers.
4. `Loader.not_withText_accepts`: it is not all text that writes a configuration.
-/

namespace RequestBinding

/-! ## Values -/

namespace SettingType

/-- The document has for a type what its format can say and JSON cannot. -/
inductive Lost (format : DocumentFormat) : SettingType → Document → Prop
  | number {items : List Document} {x : Binary64} (hx : Document.number x ∈ items)
      (h : x.isFinite = false) : Lost format .numbers (.list items)
  | word {entries : List (String × Document)} (h : format = .toml) :
      Lost format .format (.table entries)

variable {format : DocumentFormat}

theorem exists_mapM_iff {α β : Type} {f : α → Option β} {l : List α} :
    (∃ r, l.mapM f = some r) ↔ ∀ a ∈ l, ∃ b, f a = some b := by
  induction l with
  | nil => exact ⟨fun _ a ha => absurd ha List.not_mem_nil, fun _ => ⟨[], rfl⟩⟩
  | cons a rest ih =>
    rw [List.forall_mem_cons, ← ih, List.mapM_cons]
    constructor
    · rintro ⟨r, hr⟩
      obtain ⟨b, hb, hmore⟩ := Option.bind_eq_some_iff.mp hr
      obtain ⟨bs, hbs, -⟩ := Option.bind_eq_some_iff.mp hmore
      exact ⟨⟨b, hb⟩, bs, hbs⟩
    · rintro ⟨⟨b, hb⟩, bs, hbs⟩
      exact ⟨b :: bs, by rw [hb, hbs]; rfl⟩

theorem exists_boundary?_iff {d : Document} {x : Binary64} (h : boundary? d = some x) :
    (∃ y, boundary? d.finite = some y) ↔ ∀ y, d = .number y → y.isFinite = true := by
  cases d with
  | number y =>
    rw [Document.finite]
    constructor
    · rintro ⟨z, hz⟩ _ ⟨⟩
      split at hz
      · next hy => exact hy
      · cases hz
    · intro hall
      exact ⟨y, by rw [if_pos (hall y rfl)]; rfl⟩
  | integer n =>
    constructor
    · rintro - _ ⟨⟩
    · exact fun _ => ⟨x, h⟩
  | _ => cases h

theorem exists_word?_iff {d : Document} {s : String} (h : d.word? format = some s) :
    d.finite.word? .json = some s ↔ ¬ Lost format .format d := by
  unfold Document.word? at h
  split at h
  · constructor
    · rintro - ⟨⟩
    · exact fun _ => h
  · next key inner =>
    split at h
    · next hnothing =>
      cases h
      rw [Document.finite, Document.finiteEntries, Document.finiteEntries, Document.word?]
      -- what says nothing in one format says something in the other
      cases format with
      | json =>
        cases inner with
        | null =>
          refine ⟨fun _ hlost => ?_, fun _ => rfl⟩
          cases hlost with
          | word h => cases h
        | _ => cases hnothing
      | toml =>
        refine ⟨fun hword => ?_, fun hkept => absurd (Lost.word rfl) hkept⟩
        cases inner with
        | list items => cases hword
        | table entries => cases hword
        | _ => cases hnothing
    · cases h
  · cases h

/-- What a format reads for a type is read again in the merged document, unless it is lost. -/
theorem exists_ofDocument?_iff {t : SettingType} {d : Document} {a : t.Value}
    (h : ofDocument? format t d = some a) :
    (∃ b, ofDocument? .json t d.finite = some b) ↔ ¬ Lost format t d := by
  cases t with
  | flag =>
    cases d with
    | flag b => exact ⟨fun _ => nofun, fun _ => ⟨a, h⟩⟩
    | _ => cases h
  | count =>
    cases d with
    | integer n => exact ⟨fun _ => nofun, fun _ => ⟨a, h⟩⟩
    | _ => cases h
  | text =>
    cases d with
    | text s => exact ⟨fun _ => nofun, fun _ => ⟨a, h⟩⟩
    | _ => cases h
  | format =>
    obtain ⟨s, hs, hname⟩ := Option.bind_eq_some_iff.mp h
    rw [← exists_word?_iff hs]
    constructor
    · rintro ⟨b, hb⟩
      obtain ⟨s', hs', -⟩ := Option.bind_eq_some_iff.mp hb
      rw [hs', word?_unique hs hs']
    · intro hword
      exact ⟨a, Option.bind_eq_some_iff.mpr ⟨s, hword, hname⟩⟩
  | numbers =>
    cases d with
    | list items =>
      have hitems := exists_mapM_iff.mp ⟨a, h⟩
      rw [Document.finite, Document.finiteItems_eq_map]
      change (∃ b, (items.map Document.finite).mapM boundary? = some b) ↔ _
      rw [exists_mapM_iff, List.forall_mem_map]
      constructor
      · rintro hall ⟨hx, hinfinite⟩
        obtain ⟨y, hy⟩ := hitems _ hx
        rw [(exists_boundary?_iff hy).mp (hall _ hx) _ rfl] at hinfinite
        cases hinfinite
      · intro hkept d hd
        obtain ⟨x, hx⟩ := hitems d hd
        refine (exists_boundary?_iff hx).mpr fun y hy => ?_
        cases hfinite : y.isFinite with
        | true => rfl
        | false => exact absurd (Lost.number (hy ▸ hd) hfinite) hkept
    | _ => cases h

/-- In JSON a value without infinite numbers is not lost. -/
theorem not_lost_of_finite {t : SettingType} {d : Document} (h : d.finite = d) :
    ¬ Lost .json t d := by
  intro hlost
  cases hlost with
  | word hformat => cases hformat
  | @number items x hx hinfinite =>
    rw [Document.finite, Document.list.injEq, Document.finiteItems_eq_map] at h
    have hsame : Document.number x = (Document.number x).finite :=
      List.map_inj_left.mp ((List.map_id items).trans h.symm) _ hx
    rw [Document.finite, hinfinite] at hsame
    cases hsame

end SettingType

/-! ## Documents -/

/-- What keeps a document that writes a configuration by itself from being laid over another. -/
inductive Obstacle (c : Configuration) (format : DocumentFormat) (d : Document) : Prop
  /-- A value that only the format of the document can say. -/
  | lost {t : Setting} {v : Document} (hv : d.valueFor? t = some v) (h : t.type.Lost format v)
  /-- A list of more items than its section has settings. -/
  | surplus {s : ConfigSection} {items : List Document}
      (hs : d.field? ConfigSection.all ConfigSection.name s = some (.list items))
      (h : s.settings.length < items.length)
  /-- Boundaries of the configuration that cannot be written, and that the document leaves in
  place. -/
  | kept (hnone : d.valueFor? .durationBuckets = none)
      (hlists : d.listsFor .durationBuckets = false) (h : ¬ c.Storable)

namespace Configuration

variable {format : DocumentFormat} {c c₀ : Configuration} {d : Document}

/-- A document can be laid over a configuration unless there is an obstacle. -/
theorem exists_overlay?_iff (hd : ofDocument? format d = some c₀)
    (hlist : ∀ items, d = .list items → items.length ≤ ConfigSection.all.length) :
    (∃ c', c.overlay? d = some c') ↔ ¬ Obstacle c format d := by
  have htyped {t : Setting} {v : Document} (hv : d.valueFor? t = some v) :
      t.type.ofDocument? format v = some (c₀.get t) := by
    have hown := ofDocument?_decided t hd
    rw [hv] at hown
    exact hown
  constructor
  · rintro ⟨c', hover⟩ hobstacle
    cases hobstacle with
    | @lost t v hv hlost =>
      have hread := readable_of_overlay? hd hover t v (by rw [hv, Option.some_or])
      exact (SettingType.exists_ofDocument?_iff (htyped hv)).mp ⟨_, hread⟩ hlost
    | surplus hs hlong =>
      exact Nat.not_lt.mpr ((short_of_overlay? hd hover).settings _ _ hs) hlong
    | kept hnone hlists hc =>
      have hread := readable_of_overlay? hd hover .durationBuckets _
        (by rw [hnone, hlists, Option.none_or]; rfl)
      exact hc ((c.exists_ofDocument?_iff .durationBuckets).mp ⟨_, hread⟩ rfl)
  · intro hfree
    refine exists_overlay? hd ⟨hlist, fun s items hs => ?_⟩ fun t v hv => ?_
    · exact Nat.le_of_not_lt fun hlong => hfree (.surplus hs hlong)
    · cases hvalue : d.valueFor? t with
      | some w =>
        rw [hvalue, Option.some_or] at hv
        cases hv
        exact (SettingType.exists_ofDocument?_iff (htyped hvalue)).mpr
          fun hlost => hfree (.lost hvalue hlost)
      | none =>
        rw [hvalue, Option.none_or] at hv
        split at hv
        · cases hv
        · next hlists =>
          cases hv
          refine (c.exists_ofDocument?_iff t).mpr ?_
          rintro rfl
          by_contra hc
          exact hfree (.kept hvalue (Bool.eq_false_of_not_eq_true hlists) hc)

end Configuration

theorem Document.ofToml?_isTable {s : String} {d : Document} (h : ofToml? s = some d) :
    d.isTable = true := by
  obtain ⟨ts, -, hdocument⟩ := Option.bind_eq_some_iff.mp h
  obtain ⟨draft, -, rfl⟩ := Option.map_eq_some_iff.mp hdocument
  rfl

/-- Text is no list of more sections than there are. -/
theorem Document.length_le_of_read? {format : DocumentFormat} {s : String} {items : List Document}
    {c : Configuration} (hread : read? format s = some (.list items))
    (hd : Configuration.ofDocument? format (.list items) = some c) :
    items.length ≤ ConfigSection.all.length := by
  cases format with
  | toml => cases ofToml?_isTable hread
  | json => exact length_le_of_readRecord hd

theorem Document.finite_of_valueFor? {d v : Document} {t : Setting} (h : d.finite = d)
    (hv : d.valueFor? t = some v) : v.finite = v := by
  have hsame := valueFor?_finite t d
  rw [h, hv, Option.map_some] at hsame
  exact (Option.some.inj hsame).symm

/-- Text in JSON meets no obstacle over a configuration that can be written. -/
theorem not_obstacle_of_json {s : String} {d : Document} {c c₀ : Configuration}
    (hread : Document.read? .json s = some d) (hd : Configuration.ofDocument? .json d = some c₀)
    (hc : c.Storable) : ¬ Obstacle c .json d := by
  rintro (⟨hv, hlost⟩ | ⟨hs, hlong⟩ | ⟨-, -, hnot⟩)
  · have hfinite := Document.finite_of_valueFor? (Document.ofJson?_finite hread) hv
    exact SettingType.not_lost_of_finite hfinite hlost
  · obtain ⟨a, a', hput⟩ := exists_put_of_readRecord
      (fun _ _ _ _ => ConfigSection.name_injective) (ConfigSection.mem_all _) hd hs
    exact Nat.not_lt.mpr (length_le_of_readRecord hput) hlong
  · exact hnot hc

/-! ## Loaders -/

namespace Loader

/-- Text in a format that is not known is refused, and so is text that does not write a
configuration by itself. Text that does is accepted exactly if there is no obstacle, and is
otherwise refused as if it were wrong JSON, whatever its format is. In JSON there is no obstacle
over a configuration that can be written, such as those that layers over a preset lead to. -/
theorem withText_decided (l : Loader) (s format : String) :
    (DocumentFormat.ofName? format = none →
      l.withText s format = .error (.unsupportedFormat format)) ∧
    ∀ f, DocumentFormat.ofName? format = some f →
      (Configuration.ofText? f s = none → l.withText s format = .error f.error) ∧
      ∀ c, Configuration.ofText? f s = some c →
        ∃ d, Document.read? f s = some d ∧ Configuration.ofDocument? f d = some c ∧
          ((∃ l', l.withText s format = .ok l') ↔ ¬ Obstacle l.config f d) ∧
          (Obstacle l.config f d → l.withText s format = .error .json) ∧
          (f = .json → l.config.Storable → ∃ l', l.withText s format = .ok l') ∧
          (f = .json → ∀ start ∈ Configuration.presets, ∀ word? layers,
            layAll ⟨start, word?⟩ layers = .ok l → ∃ l', l.withText s format = .ok l') := by
  refine ⟨fun hunknown => ?_, fun f hformat => ⟨fun hnone => ?_, fun c hc => ?_⟩⟩
  · rw [withText, hunknown]
  · rw [withText, hformat]
    cases hread : Document.read? f s with
    | none => simp only [Configuration.layer, hread]
    | some d =>
      have htyped : Configuration.ofDocument? f d = none := by
        rwa [Configuration.ofText?, hread] at hnone
      simp only [Configuration.layer, hread, htyped, Option.isNone_none, if_true]
  · obtain ⟨d, hread, hd⟩ := Option.bind_eq_some_iff.mp hc
    have hover := Configuration.exists_overlay?_iff (c := l.config) hd fun items hitems =>
      Document.length_le_of_read? (hitems ▸ hread) (hitems ▸ hd)
    have hlaid := withText_of_read (l := l) hformat hread hd
    have haccepted : (∃ l', l.withText s format = .ok l') ↔ ¬ Obstacle l.config f d := by
      rw [← hover, hlaid]
      constructor
      · rintro ⟨l', hl'⟩
        split at hl'
        · next c' hsome => exact ⟨c', hsome⟩
        · cases hl'
      · rintro ⟨c', hsome⟩
        exact ⟨{ l with config := c' }, by rw [hsome]⟩
    have hjson : f = .json → l.config.Storable → ∃ l', l.withText s format = .ok l' := by
      rintro rfl hstorable
      exact haccepted.mpr (not_obstacle_of_json hread hd hstorable)
    refine ⟨d, hread, hd, haccepted, fun hobstacle => ?_, hjson, ?_⟩
    · cases hnone : l.config.overlay? d with
      | none => rw [hlaid, hnone]
      | some c' => exact absurd hobstacle (hover.mp ⟨c', hnone⟩)
    · intro hf start hstart word? layers hlayers
      exact hjson hf (layAll_storable (storable_of_mem_presets hstart) hlayers)

/-- Not all text that writes a configuration is accepted: an infinite boundary in TOML. -/
theorem not_withText_accepts :
    ¬ ∀ (l : Loader) (s format : String) (f : DocumentFormat) (c : Configuration),
      DocumentFormat.ofName? format = some f → Configuration.ofText? f s = some c →
        ∃ l', l.withText s format = .ok l' := by
  intro hall
  let text := "[metrics]\nduration_buckets = [0.5, inf]"
  have hformat : DocumentFormat.ofName? "toml" = some .toml := by decide +kernel
  have htyped : (Configuration.ofText? .toml text).isSome = true := by decide +kernel
  have hrefused : (withText {} text "toml").isOk = false := by decide +kernel
  obtain ⟨c, hc⟩ := Option.isSome_iff_exists.mp htyped
  obtain ⟨l', hl'⟩ := hall {} text "toml" .toml c hformat hc
  rw [hl'] at hrefused
  cases hrefused

end Loader

end RequestBinding
