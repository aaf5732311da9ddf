import RequestBinding.Proofs.Binder.Body
import RequestBinding.Proofs.Form.Reading

/-!
# A body over a whole run

Whoever handles a request may read its body to the end, ask for its stream, bind
a model from it, or read its form, in any order and as often as they like. Each of
these looks at other parts of the request first and may be settled by them; only
one that is not needs the body (`NeedsBody`).

The first use that needs the body takes its stream, whatever becomes of the read.
From then on the body stays as it is: a use that needs it comes too late
(`TooLate`), and every other one answers as it would on any body.

Results:
1. `effect_spares`, `effect_takes`: a use leaves the body alone, or takes its stream.
2. `performAll_body_of_consumed`: a consumed body stays as it is over every run.
3. `takings_le_one`: no run takes the stream twice.
4. `body_delivered_once`: what all of this means for each use of a run.
-/

namespace RequestBinding

/-- A use of the body of a request. -/
inductive BodyUse where
  | readToEnd
  | takeStream (pulls : BodyStream → Nat)
  | bind (b : TextBinder) (c : BindingContext)
  | readFeature (f : FormFeature)
  | readInstalledForm
  | readForm

namespace BodyUse

/-- What a use answers. -/
@[reducible] def Answer : BodyUse → Type
  | readToEnd => Except IoError Bytes
  | takeStream _ => Bool
  | bind _ _ => Bound
  | readFeature _ => Except FormError Form × FormFeature × Journal
  | readInstalledForm => Option (Except FormError Form) × Journal
  | readForm => Except FormError Form × Journal

/-- Makes use of the body of a request. A context brings all but the request. -/
def perform : (u : BodyUse) → Request → u.Answer × Request
  | readToEnd, r => (r.body.readToEnd.1, { r with body := r.body.readToEnd.2 })
  | takeStream pulls, r =>
    ((r.body.takeStream pulls).1, { r with body := (r.body.takeStream pulls).2 })
  | bind b c, r =>
    let attempt := b.binder.bind { c with request := r }
    (attempt.bound, attempt.context.request)
  | readFeature f, r =>
    let read := f.read r
    ((read.result, read.feature, read.journal), { r with body := read.body })
  | readInstalledForm, r =>
    ((r.readInstalledForm.1, r.readInstalledForm.2.2), r.readInstalledForm.2.1)
  | readForm, r => ((r.readForm.1, r.readForm.2.2), r.readForm.2.1)

/-- A use that the other parts of the request do not settle. -/
def NeedsBody : BodyUse → Request → Prop
  | readToEnd, _ => True
  | takeStream _, _ => True
  | bind b c, r => b.NeedsBody { c with request := r }
  | readFeature f, r => f.NeedsBody r
  | readInstalledForm, r => ∃ f, r.form? = some f ∧ f.NeedsBody r
  | readForm, r => r.formOrDefault.NeedsBody r

/-- The answer to a use that comes too late for the body. -/
def TooLate : (u : BodyUse) → Request → u.Answer → Prop
  | readToEnd, _, a => a = .error bodyConsumed
  | takeStream _, _, a => a = false
  | bind b c, r, a => b.TooLate { c with request := r } a
  | readFeature f, _, a => a = (.error (.io bodyConsumed), f, [])
  | readInstalledForm, _, a => a = (some (.error (.io bodyConsumed)), [])
  | readForm, _, a => a = (.error (.io bodyConsumed), [])

/-- What a use does with a body in the place of the one of the request. -/
def effect (u : BodyUse) (r : Request) (body : Body) : (u.Answer × Features) × Body :=
  let p := u.perform { r with body := body }
  ((p.1, p.2.features), p.2.body)

/-! ## One use -/

/-- Of the request, a binder changes the body alone. -/
theorem bind_request (b : TextBinder) (c : BindingContext) :
    (b.binder.bind c).context.request =
      { c.request with body := (b.binder.bind c).context.request.body } := by
  cases hf : b.binder.selected? c with
  | none => rw [(BodyBinder.bind_of_none hf).2]
  | some f => rw [(BodyBinder.bind_of_some hf).2]

theorem effect_bind (b : TextBinder) (c : BindingContext) (r : Request) :
    (bind b c).effect r = fun body =>
      (((b.bindOn { c with request := r } body).1, r.features),
        (b.bindOn { c with request := r } body).2) := by
  funext body
  have hrequest := bind_request b { c with request := { r with body := body } }
  have hfeatures := congrArg Request.features hrequest
  exact Prod.ext (Prod.ext rfl hfeatures) rfl

theorem effect_readInstalledForm_of_none {r : Request} (h : r.form? = none) :
    readInstalledForm.effect r = fun body => (((none, []), r.features), body) := by
  funext body
  have hbody : Request.form? { r with body := body } = none := h
  simp only [effect, perform, Request.readInstalledForm, hbody]

theorem effect_readInstalledForm_of_some {r : Request} {f : FormFeature} (h : r.form? = some f) :
    readInstalledForm.effect r = fun body =>
      (((some (f.readOn r body).1.1, (f.readOn r body).1.2.2),
        (r.setForm (f.readOn r body).1.2.1).features), (f.readOn r body).2) := by
  funext body
  have hbody : Request.form? { r with body := body } = some f := h
  simp only [effect, perform, Request.readInstalledForm, hbody]
  rfl

/-- A use changes nothing of the request but its body and its features. -/
theorem perform_eq_effect (u : BodyUse) (r : Request) (body : Body) :
    u.perform { r with body := body } = ((u.effect r body).1.1,
      { r with body := (u.effect r body).2, features := (u.effect r body).1.2 }) := by
  cases u with
  | bind b c =>
    have hrequest := bind_request b { c with request := { r with body := body } }
    refine Prod.ext rfl (hrequest.trans ?_)
    have hfeatures := congrArg Request.features hrequest
    simp only [effect, perform, hfeatures]
  | readInstalledForm =>
    cases hf : r.form? with
    | none =>
      have hbody : Request.form? { r with body := body } = none := hf
      simp only [effect, perform, Request.readInstalledForm, hbody]
    | some f =>
      have hbody : Request.form? { r with body := body } = some f := hf
      simp only [effect, perform, Request.readInstalledForm, hbody]
      rfl
  | _ => rfl

/-- A use that does not need the body leaves it alone. -/
theorem effect_spares {u : BodyUse} {r : Request} (h : ¬ u.NeedsBody r) :
    Body.Spares (u.effect r) := by
  cases u with
  | readToEnd => exact absurd trivial h
  | takeStream => exact absurd trivial h
  | bind b c =>
    rw [effect_bind]
    exact (TextBinder.bind_spares h).map fun a => (a, r.features)
  | readFeature f => exact (FormFeature.read_spares h).map fun a => (a, r.features)
  | readInstalledForm =>
    cases hf : r.form? with
    | none =>
      rw [effect_readInstalledForm_of_none hf]
      exact ⟨_, fun _ => rfl⟩
    | some f =>
      rw [effect_readInstalledForm_of_some hf]
      exact (FormFeature.read_spares fun hneeds => h ⟨f, hf, hneeds⟩).map fun a =>
        ((some a.1, a.2.2), (r.setForm a.2.1).features)
  | readForm =>
    exact (FormFeature.read_spares h).map fun a => ((a.1, a.2.2), (r.setForm a.2.1).features)

/-- A use that needs the body takes its stream, and comes too late if it is gone. -/
theorem effect_takes {u : BodyUse} {r : Request} (h : u.NeedsBody r) :
    ∃ late features, u.TooLate r late ∧ Body.Takes (u.effect r) (late, features) := by
  cases u with
  | readToEnd => exact ⟨_, r.features, rfl, Body.readToEnd_takes.map fun a => (a, r.features)⟩
  | takeStream pulls =>
    exact ⟨_, r.features, rfl, (Body.takeStream_takes pulls).map fun a => (a, r.features)⟩
  | bind b c =>
    obtain ⟨late, hlate, htakes⟩ := TextBinder.bind_takes h
    refine ⟨late, r.features, hlate, ?_⟩
    rw [effect_bind]
    exact htakes.map fun a => (a, r.features)
  | readFeature f =>
    exact ⟨_, r.features, rfl, (FormFeature.read_takes h).map fun a => (a, r.features)⟩
  | readInstalledForm =>
    obtain ⟨f, hf, hneeds⟩ := h
    refine ⟨_, (r.setForm f).features, rfl, ?_⟩
    rw [effect_readInstalledForm_of_some hf]
    exact (FormFeature.read_takes hneeds).map fun a =>
      ((some a.1, a.2.2), (r.setForm a.2.1).features)
  | readForm =>
    exact ⟨_, (r.setForm r.formOrDefault).features, rfl, (FormFeature.read_takes h).map fun a =>
      ((a.1, a.2.2), (r.setForm a.2.1).features)⟩

section

variable {u : BodyUse} {r : Request}

theorem perform_body (u : BodyUse) (r : Request) :
    (u.perform r).2.body = (u.effect r r.body).2 :=
  congrArg (·.2.body) (perform_eq_effect u r r.body)

/-- A consumed body stays as it is. -/
theorem perform_body_of_consumed (u : BodyUse) (h : r.body.consumed = true) :
    (u.perform r).2.body = r.body := by
  rw [perform_body]
  by_cases hneeds : u.NeedsBody r
  · obtain ⟨late, features, -, htakes⟩ := effect_takes hneeds
    rw [htakes.of_consumed h]
  · obtain ⟨answer, heffect⟩ := effect_spares hneeds
    rw [heffect]

/-- Afterwards the body is consumed exactly if it was before or was needed. -/
theorem perform_consumed_iff :
    (u.perform r).2.body.consumed = true ↔ r.body.consumed = true ∨ u.NeedsBody r := by
  constructor
  · intro hconsumed
    by_cases hneeds : u.NeedsBody r
    · exact .inr hneeds
    · obtain ⟨answer, heffect⟩ := effect_spares hneeds
      rw [perform_body, heffect] at hconsumed
      exact .inl hconsumed
  · rintro (hconsumed | hneeds)
    · rw [perform_body_of_consumed u hconsumed]
      exact hconsumed
    · obtain ⟨late, features, -, htakes⟩ := effect_takes hneeds
      rw [perform_body]
      exact htakes.consumed r.body

theorem tooLate_of_consumed (hconsumed : r.body.consumed = true) (hneeds : u.NeedsBody r) :
    u.TooLate r (u.perform r).1 := by
  obtain ⟨late, features, hlate, htakes⟩ := effect_takes hneeds
  have hanswer : (u.perform r).1 = (u.effect r r.body).1.1 := rfl
  rw [hanswer, htakes.of_consumed hconsumed]
  exact hlate

/-- A use that does not need the body does the same with every body. -/
theorem perform_withBody (h : ¬ u.NeedsBody r) (body : Body) :
    u.perform { r with body := body } =
      ((u.perform r).1, { (u.perform r).2 with body := body }) := by
  have hown : u.perform r = ((u.effect r r.body).1.1,
      { r with body := (u.effect r r.body).2, features := (u.effect r r.body).1.2 }) :=
    perform_eq_effect u r r.body
  rw [perform_eq_effect u r body, (effect_spares h).eq r.body body, hown]

end

/-! ## A run -/

/-- The request after a run. -/
def performAll (r : Request) (us : List BodyUse) : Request :=
  us.foldl (fun r u => (u.perform r).2) r

/-- The use takes the stream of the body. -/
def takes (u : BodyUse) (r : Request) : Bool :=
  !r.body.consumed && (u.perform r).2.body.consumed

/-- The number of uses in a run that take the stream. -/
def takings (r : Request) : List BodyUse → Nat
  | [] => 0
  | u :: us => (if u.takes r then 1 else 0) + takings (u.perform r).2 us

theorem takes_iff {u : BodyUse} {r : Request} :
    u.takes r = true ↔ r.body.consumed = false ∧ u.NeedsBody r := by
  rw [takes, Bool.and_eq_true, Bool.not_eq_true', perform_consumed_iff]
  constructor
  · rintro ⟨hunread, hconsumed | hneeds⟩
    · rw [hunread] at hconsumed
      cases hconsumed
    · exact ⟨hunread, hneeds⟩
  · rintro ⟨hunread, hneeds⟩
    exact ⟨hunread, .inr hneeds⟩

/-- A consumed body stays as it is over every run. -/
theorem performAll_body_of_consumed {r : Request} (h : r.body.consumed = true)
    (us : List BodyUse) : (performAll r us).body = r.body := by
  induction us generalizing r with
  | nil => rfl
  | cons u us ih =>
    have hbody := perform_body_of_consumed u h
    exact (ih (hbody ▸ h)).trans hbody

theorem takings_of_consumed {r : Request} (h : r.body.consumed = true) (us : List BodyUse) :
    takings r us = 0 := by
  induction us generalizing r with
  | nil => rfl
  | cons u us ih =>
    have hrest := ih (perform_body_of_consumed u h ▸ h : (u.perform r).2.body.consumed = true)
    rw [takings, hrest, takes, h]
    rfl

/-- No run takes the stream twice. -/
theorem takings_le_one (r : Request) (us : List BodyUse) : takings r us ≤ 1 := by
  induction us generalizing r with
  | nil => exact Nat.zero_le 1
  | cons u us ih =>
    rw [takings]
    split
    · next htakes =>
      -- after the stream was taken the body is consumed, and nothing takes it again
      have hconsumed := perform_consumed_iff.2 (.inr (takes_iff.1 htakes).2)
      exact Nat.add_le_add_left (Nat.le_of_eq (takings_of_consumed hconsumed us)) 1
    · rw [Nat.zero_add]
      exact ih _

/-- Over any run at most one use takes the stream of the body: the first that needs
it. Once the body is consumed it stays as it is, every use that needs it comes too
late, and a use that does not need it does what it would do with any other body. -/
theorem body_delivered_once (r : Request) (before : List BodyUse) (u : BodyUse)
    (after : List BodyUse) :
    let s := performAll r before
    let left := u.perform s
    takings r (before ++ u :: after) ≤ 1 ∧
      (u.takes s = true ↔ s.body.consumed = false ∧ u.NeedsBody s) ∧
      (s.body.consumed = true → left.2.body = s.body ∧ (performAll left.2 after).body = s.body) ∧
      (s.body.consumed = true → u.NeedsBody s → u.TooLate s left.1) ∧
      (¬ u.NeedsBody s → ∀ body,
        u.perform { s with body := body } = (left.1, { left.2 with body := body })) := by
  intro s left
  refine ⟨takings_le_one r _, takes_iff, ?_, tooLate_of_consumed, perform_withBody⟩
  intro hconsumed
  have hbody : left.2.body = s.body := perform_body_of_consumed u hconsumed
  exact ⟨hbody, (performAll_body_of_consumed (hbody ▸ hconsumed) after).trans hbody⟩

/-- A form whose read fails at the second item of the stream leaves a body that is gone
for every other reader. -/
theorem body_delivered_once_failed :
    let failure : BodyItem := .failure ⟨.connectionReset, "connection reset"⟩
    let r : Request :=
      { headers := ⟨[("content-type", Utf8.encode urlEncodedType)]⟩
        body := .ofStream ⟨[.chunk [0x61, 0x3D], failure, .chunk [0x62]], true⟩ }
    let s := performAll r [.readForm]
    (readForm.perform r).1.1.isOk = false ∧ s.body.pulled = 2 ∧
      (readToEnd.perform s).1 = .error bodyConsumed ∧
      (performAll (readToEnd.perform s).2 [.takeStream fun _ => 1, .readForm]).body = s.body := by
  intro failure r s
  have hread : (readForm.perform r).1.1.isOk = false ∧ s.body.pulled = 2 := by
    decide +kernel
  have hconsumed : s.body.consumed = true := by decide +kernel
  obtain ⟨-, -, hstays, hlate, -⟩ :=
    body_delivered_once r [.readForm] readToEnd [.takeStream fun _ => 1, .readForm]
  exact ⟨hread.1, hread.2, hlate hconsumed trivial, (hstays hconsumed).2⟩

end BodyUse

end RequestBinding
