import Mathlib.Data.List.Forall2
import Mathlib.Logic.Relation
import RequestBinding.MediaType.Collection
import RequestBinding.Proofs.MediaType.Reading

/-!
# Matching media types

A supported media type is made more general one step at a time (`Widens`): a wildcard for its
type or its subtype, no charset, other parameters. No step loses a request. A collection accepts
what one of its types accepts, which depends on neither the order nor the letter case in which
they are written.

Results:
1. `accepts_of_widens`, `accepts_of_generalises`: one step, and any number of them.
2. `isSupported_congr_mem`, `isSupported_push`: order, repetition and growth.
3. `isSupported_any`, `isSupported_suffix`: wildcards.
4. `Alike.isSupported`, `Alike.foldlM_add`: letter case.
5. `matching_laws`: all of this.
-/

namespace RequestBinding

namespace MediaType

/-! ## Generalisation -/

/-- One step that makes a media type more general. How the result is shown does not matter. -/
inductive Widens (m : MediaType) : MediaType → Prop
  /-- Any type. -/
  | type (text : String) : Widens m { m with type := "*", text := text }
  /-- Any subtype with the suffix. -/
  | subtype (text : String) : Widens m { m with subtype := "*", text := text }
  /-- Any subtype at all. -/
  | bareSubtype (text : String) :
      Widens m { m with subtype := "*", suffix? := none, text := text }
  /-- No charset. -/
  | noCharset {params : List (String × String)} (text : String) :
      params.lookup "charset" = none → Widens m { m with params := params, text := text }
  /-- Other parameters, with the charset as it is. -/
  | params {params : List (String × String)} (text : String) :
      params.lookup "charset" = m.params.lookup "charset" →
        Widens m { m with params := params, text := text }

/-- Any number of steps. -/
abbrev Generalises : MediaType → MediaType → Prop :=
  Relation.ReflTransGen Widens

theorem accepts_iff (m r : MediaType) :
    m.accepts r = true ↔
      m.acceptsType r = true ∧ m.acceptsSubtype r = true ∧ m.acceptsCharset r = true := by
  rw [accepts, Bool.and_eq_true, Bool.and_eq_true, and_assoc]

/-- A subtype and its suffix, taken as they are or by wildcard, leave the suffix asked for. -/
theorem suffix?_of_acceptsSubtype {m r : MediaType} {s : String}
    (h : m.acceptsSubtype r = true) (hs : m.suffix? = some s) : r.suffix? = some s := by
  rw [acceptsSubtype, hs] at h
  split at h
  · exact beq_iff_eq.1 h
  · exact (beq_iff_eq.1 (Bool.and_eq_true_iff.1 h).2).symm

/-- A wildcard for the subtype asks for the suffix alone. -/
theorem acceptsSubtype_star {m : MediaType} (hm : m.subtype = "*") (r : MediaType) :
    m.acceptsSubtype r = true ↔ ∀ s ∈ m.suffix?, r.suffix? = some s := by
  rw [acceptsSubtype, hm]
  cases m.suffix? <;> simp

theorem acceptsCharset_of_none {m : MediaType} (hm : m.params.lookup "charset" = none)
    (r : MediaType) : m.acceptsCharset r = true := by
  rw [acceptsCharset, charset?, param?, hm]
  rfl

/-- A step loses no request. -/
theorem accepts_of_widens {m m' r : MediaType} (h : Widens m m') (hr : m.accepts r = true) :
    m'.accepts r = true := by
  obtain ⟨htype, hsubtype, hcharset⟩ := (m.accepts_iff r).1 hr
  rw [accepts_iff]
  cases h with
  | type => exact ⟨rfl, hsubtype, hcharset⟩
  | subtype =>
    exact ⟨htype, (acceptsSubtype_star rfl r).2 fun s hs => suffix?_of_acceptsSubtype hsubtype hs,
      hcharset⟩
  | bareSubtype => exact ⟨htype, (acceptsSubtype_star rfl r).2 (by simp), hcharset⟩
  | noCharset text hparams => exact ⟨htype, hsubtype, acceptsCharset_of_none hparams r⟩
  | params text hparams =>
    refine ⟨htype, hsubtype, ?_⟩
    rw [acceptsCharset, charset?, param?] at hcharset ⊢
    rwa [hparams]

/-- Nothing is lost by any number of steps. -/
theorem accepts_of_generalises {m m' r : MediaType} (h : Generalises m m')
    (hr : m.accepts r = true) : m'.accepts r = true := by
  induction h with
  | refl => exact hr
  | tail _ hstep ih => exact accepts_of_widens hstep ih

/-! ## Letter case -/

/-- Whether a request is accepted depends on nothing else. -/
theorem Alike.accepts {m m' r r' : MediaType} (hm : Alike m m') (hr : Alike r r') :
    m.accepts r = m'.accepts r' := by
  simp only [MediaType.accepts, acceptsType, acceptsSubtype, acceptsCharset, hm.type, hm.subtype,
    hm.suffix, hm.charset, hr.type, hr.subtype, hr.suffix, hr.charset]

end MediaType

namespace MediaTypeCollection

open MediaType

/-! ## Collections -/

theorem isSupported_iff (c : MediaTypeCollection) (text : String) :
    c.isSupported text = true ↔ ∃ r, read? text = some r ∧ ∃ m ∈ c.types, m.accepts r = true := by
  rw [isSupported]
  cases read? text <;> simp [accepts]

/-- Types may stand in any order and any number of times. -/
theorem isSupported_congr_mem {c c' : MediaTypeCollection} (h : ∀ m, m ∈ c.types ↔ m ∈ c'.types)
    (text : String) : c.isSupported text = c'.isSupported text := by
  rw [Bool.eq_iff_iff, isSupported_iff, isSupported_iff]
  simp only [h]

theorem isSupported_push {c : MediaTypeCollection} {text : String}
    (h : c.isSupported text = true) (m : MediaType) : (c.push m).isSupported text = true := by
  rw [isSupported] at h ⊢
  split at h
  · rw [accepts_push, h, Bool.true_or]
  · cases h

theorem isSupported_add {c c' : MediaTypeCollection} {shown text : String}
    (hadd : c.add shown = .ok c') (h : c.isSupported text = true) :
    c'.isSupported text = true := by
  rw [add] at hadd
  split at hadd
  next m hread =>
    cases hadd
    exact isSupported_push h m
  · cases hadd

/-- The collection of types that are written out, in their order. -/
def ofTexts (texts : List String) : Except MediaTypeError MediaTypeCollection :=
  texts.foldlM add empty

theorem toOption_add (c : MediaTypeCollection) (text : String) :
    (c.add text).toOption = (read? text).map c.push := by
  rw [add, read?]
  cases read text <;> rfl

theorem ofTexts_singleton {text : String} {m : MediaType} (h : read? text = some m) :
    ofTexts [text] = .ok ⟨[m]⟩ := by
  have hadd := empty.toOption_add text
  rw [h] at hadd
  rw [ofTexts, List.foldlM_cons]
  cases hread : empty.add text with
  | error e =>
    rw [hread] at hadd
    cases hadd
  | ok c =>
    rw [hread] at hadd
    cases hadd
    rfl

theorem isSupported_singleton (m : MediaType) (text : String) :
    (MediaTypeCollection.mk [m]).isSupported text = true ↔
      ∃ r, read? text = some r ∧ m.accepts r = true := by
  rw [isSupported_iff]
  simp only [List.mem_singleton, exists_eq_left]

theorem read?_any : read? "*/*" = some ⟨"*", "*", none, [], "*/*"⟩ := by
  decide +kernel

theorem read?_anyJson :
    read? "application/*+json" =
      some ⟨"application", "*", some "json", [], "application/*+json"⟩ := by
  decide +kernel

/-- Wildcards alone leave nothing but that the text is a media type. -/
theorem isSupported_any (text : String) :
    (MediaTypeCollection.mk [⟨"*", "*", none, [], "*/*"⟩]).isSupported text =
      (read? text).isSome := by
  have hany (r : MediaType) : (MediaType.mk "*" "*" none [] "*/*").accepts r = true :=
    accepts_star rfl rfl rfl rfl r
  rw [Bool.eq_iff_iff, isSupported_singleton, Option.isSome_iff_exists]
  simp only [hany, and_true]

/-- A wildcard with a suffix asks for that suffix. -/
theorem isSupported_suffix (type suffix shown text : String) :
    (MediaTypeCollection.mk [⟨type, "*", some suffix, [], shown⟩]).isSupported text = true ↔
      ∃ r, read? text = some r ∧ (type = "*" ∨ type = r.type) ∧ r.suffix? = some suffix := by
  rw [isSupported_singleton]
  refine exists_congr fun r => and_congr_right fun _ => ?_
  rw [accepts_iff, acceptsSubtype_star rfl, acceptsType, Bool.or_eq_true, beq_iff_eq, beq_iff_eq]
  constructor
  · rintro ⟨htype, hsuffix, -⟩
    exact ⟨htype, hsuffix suffix rfl⟩
  · rintro ⟨htype, hsuffix⟩
    exact ⟨htype, fun s hs => Option.some.inj hs ▸ hsuffix, acceptsCharset_of_none rfl r⟩

/-! ## Letter case in collections -/

/-- Collections of types that are alike, in the same order. -/
def Alike (c c' : MediaTypeCollection) : Prop :=
  List.Forall₂ MediaType.Alike c.types c'.types

theorem Alike.isSupported {c c' : MediaTypeCollection} (h : c.Alike c') {text text' : String}
    (htext : asciiLower text = asciiLower text') : c.isSupported text = c'.isSupported text' := by
  obtain ⟨types⟩ := c
  obtain ⟨types'⟩ := c'
  change List.Forall₂ MediaType.Alike types types' at h
  have hread := read?_alike htext
  rw [MediaTypeCollection.isSupported, MediaTypeCollection.isSupported]
  generalize read? text = r?, read? text' = r'? at hread ⊢
  cases hread with
  | none => rfl
  | some hr =>
    simp only [accepts]
    induction h with
    | nil => rfl
    | cons hm _ ih => simp only [List.any_cons, hm.accepts hr, ih]

theorem Alike.add {c c' : MediaTypeCollection} (h : c.Alike c') {text text' : String}
    (htext : asciiLower text = asciiLower text') :
    Option.Rel Alike (c.add text).toOption (c'.add text').toOption := by
  have hread := read?_alike htext
  rw [toOption_add, toOption_add]
  generalize read? text = m?, read? text' = m'? at hread ⊢
  cases hread with
  | none => exact .none
  | some hm => exact .some (List.rel_append h (.cons hm .nil))

theorem Alike.foldlM_add {texts texts' : List String}
    (htexts : List.Forall₂ (fun s s' => asciiLower s = asciiLower s') texts texts')
    {c c' : MediaTypeCollection} (h : c.Alike c') :
    Option.Rel Alike (texts.foldlM MediaTypeCollection.add c).toOption
      (texts'.foldlM MediaTypeCollection.add c').toOption := by
  induction htexts generalizing c c' with
  | nil => exact .some h
  | @cons text text' _ _ htext _ ih =>
    have hadd := h.add htext
    rw [List.foldlM_cons, List.foldlM_cons]
    generalize c.add text = r, c'.add text' = r' at hadd ⊢
    cases r <;> cases r'
    case error.error => exact .none
    case ok.ok =>
      cases hadd with
      | some hadd => exact ih hadd
    all_goals cases hadd

/-! ## The laws -/

/-- **Matching is monotone under generalisation and blind to letter case.** A media type that is
made more general accepts what it accepted. So `*/*` accepts whatever is a media type, and
`application/*+json` accepts the applications with that suffix and nothing else. A collection
answers by the types in it, in whatever order and number, accepts no less when it grows, and
accepts nothing that is no media type. Types and requests that are written in other letter case
are media types as before and get the same answers. -/
theorem matching_laws :
    (∀ m m' r : MediaType, Generalises m m' → m.accepts r = true → m'.accepts r = true) ∧
    (∃ c, ofTexts ["*/*"] = .ok c ∧ ∀ text, c.isSupported text = (read? text).isSome) ∧
    (∃ c, ofTexts ["application/*+json"] = .ok c ∧ ∀ text, c.isSupported text = true ↔
      ∃ r, read? text = some r ∧ r.type = "application" ∧ r.suffix? = some "json") ∧
    (∀ c c' : MediaTypeCollection, (∀ m, m ∈ c.types ↔ m ∈ c'.types) →
      ∀ text, c.isSupported text = c'.isSupported text) ∧
    (∀ (c : MediaTypeCollection) (m : MediaType) (text : String),
      c.isSupported text = true → (c.push m).isSupported text = true) ∧
    (∀ (c c' : MediaTypeCollection) (shown text : String), c.add shown = .ok c' →
      c.isSupported text = true → c'.isSupported text = true) ∧
    (∀ (c : MediaTypeCollection) (text : String),
      read? text = none → c.isSupported text = false) ∧
    ∀ texts texts' : List String,
      List.Forall₂ (fun s s' => asciiLower s = asciiLower s') texts texts' →
        Option.Rel
          (fun c c' => ∀ text text', asciiLower text = asciiLower text' →
            c.isSupported text = c'.isSupported text')
          (ofTexts texts).toOption (ofTexts texts').toOption := by
  refine ⟨fun _ _ _ hgeneral hr => accepts_of_generalises hgeneral hr,
    ⟨_, ofTexts_singleton read?_any, isSupported_any⟩,
    ⟨_, ofTexts_singleton read?_anyJson, fun text => ?_⟩,
    fun _ _ hmem text => isSupported_congr_mem hmem text,
    fun _ m _ hsupported => isSupported_push hsupported m,
    fun _ _ _ _ hadd hsupported => isSupported_add hadd hsupported,
    fun c text hnone => ?_, fun texts texts' htexts => ?_⟩
  · rw [isSupported_suffix]
    simp [eq_comm]
  · rw [isSupported, hnone]
  · have hempty : empty.Alike empty := .nil
    have halike := hempty.foldlM_add htexts
    rw [ofTexts, ofTexts]
    generalize (texts.foldlM add empty).toOption = c?, (texts'.foldlM add empty).toOption = c'?
      at halike ⊢
    cases halike with
    | none => exact .none
    | some hc => exact .some fun _ _ htext => hc.isSupported htext

end MediaTypeCollection

end RequestBinding
