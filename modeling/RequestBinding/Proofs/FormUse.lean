import RequestBinding.Proofs.Form.Limits
import RequestBinding.Proofs.Form.Policy

/-!
# A form over a whole run

Policies, reads and a form that is given all write to one slot, the form feature
of the request, in any order and as often as they like. The feature is exchanged
only by policies that are applied, and none is while it holds a form; a read that
finds no feature installs one of the default options.

So a form that is there once stays for the rest of the run, with the options that
stand beside it, and every use afterwards is answered from it (`Settled`). A form
that a read has put there was parsed by these very options.

Results:
1. `perform_of_held`: a use that finds a form leaves it, and the body, as they are.
2. `options_perform`, `options_performAll`: the installed options are those that were
   applied last.
3. `heldForm?_perform`, `within_of_read`: a form comes from a read or is given, and
   one that was read is within the limits beside it.
4. `form_obtained_once`: what all of this means for each use of a run.
-/

namespace RequestBinding

/-! ## The feature after one use -/

/-- A read keeps the options of its feature, and a form exactly if it gave one. -/
theorem FormFeature.read_feature (f : FormFeature) (r : Request) :
    (f.read r).feature = { f with form? := (f.read r).result.toOption } := by
  cases hf : f.form? with
  | some form =>
    rw [read_of_form hf]
    exact congrArg (FormFeature.mk f.options) hf
  | none =>
    simp only [read, hf]
    rcases parseForm f.options r with ⟨_ | form, body⟩
    · exact congrArg (FormFeature.mk f.options) hf
    · rfl

/-- A form that a read obtained is within the limits of the feature. -/
theorem FormFeature.read_within {f : FormFeature} {r : Request} {form : Form}
    (hf : f.form? = none) (h : (f.read r).result = .ok form) : form.Within f.options := by
  simp only [read, hf] at h
  split at h
  · next form' body hparse =>
    cases h
    exact parseForm_within (congrArg Prod.fst hparse)
  · cases h

namespace Request

variable {r : Request} {f : FormFeature}

theorem formOrDefault_of_some (hf : r.form? = some f) : r.formOrDefault = f := by
  rw [formOrDefault, hf, Option.getD_some]

theorem heldForm?_of_some (hf : r.form? = some f) : r.heldForm? = f.form? := by
  rw [heldForm?, hf, Option.bind_some]

theorem form?_readForm (r : Request) :
    r.readForm.2.1.form? = some { r.formOrDefault with form? := r.readForm.1.toOption } :=
  (form?_setForm _ _).trans (congrArg some (r.formOrDefault.read_feature r))

theorem readInstalledForm_of_none (hf : r.form? = none) :
    r.readInstalledForm = (none, r, []) := by
  rw [readInstalledForm, hf]

theorem readInstalledForm_of_some (hf : r.form? = some f) :
    r.readInstalledForm = (some r.readForm.1, r.readForm.2.1, r.readForm.2.2) := by
  simp only [readInstalledForm, readForm, hf, formOrDefault_of_some hf]

theorem giveForm_of_none (hf : r.form? = none) (form : Form) :
    r.giveForm form = (none, r) := by
  rw [giveForm, hf]

theorem giveForm_of_unread (hf : r.form? = some f) (hform : f.form? = none) (form : Form) :
    r.giveForm form = (some (.ok ()), r.setForm { f with form? := some form }) := by
  simp only [giveForm, hf, FormFeature.give, hform]

theorem giveForm_of_held {held : Form} (hf : r.form? = some f) (hform : f.form? = some held)
    (form : Form) : r.giveForm form = (some (.error .alreadyRead), r) := by
  simp only [giveForm, hf, FormFeature.give_of_form hform]

/-- A read of a form that is held gives that form, and touches neither the feature nor
the body. -/
theorem readForm_of_held {form : Form} (hf : r.form? = some f) (hform : f.form? = some form) :
    r.readForm = (.ok form, r.setForm f, []) := by
  rw [readForm, formOrDefault_of_some hf, FormFeature.read_of_form hform]

end Request

/-! ## Uses -/

/-- A use of the form feature of a request. -/
inductive FormUse where
  | readForm
  | readInstalledForm
  | give (form : Form)
  | authorize (p : Policy) (candidates : List PolicyDescriptor)
  | applyPolicies (ps : Policies)

namespace FormUse

/-- What a use answers. -/
@[reducible] def Answer : FormUse → Type
  | readForm => Except FormError Form × Journal
  | readInstalledForm => Option (Except FormError Form) × Journal
  | give _ => Option (Except FormError Unit)
  | authorize _ _ => Except PolicyNotRegistered LimitsOutcome × Journal
  | applyPolicies _ => Except PolicyNotRegistered (List LimitsOutcome) × Journal

/-- Makes use of the form feature of a request. -/
def perform : (u : FormUse) → Request → u.Answer × Request
  | readForm, r => ((r.readForm.1, r.readForm.2.2), r.readForm.2.1)
  | readInstalledForm, r =>
    ((r.readInstalledForm.1, r.readInstalledForm.2.2), r.readInstalledForm.2.1)
  | give form, r => r.giveForm form
  | authorize p candidates, r =>
    let authorized := p.authorize candidates r
    ((authorized.1, authorized.2.2), authorized.2.1)
  | applyPolicies ps, r => (((ps.apply r).1, (ps.apply r).2.2), (ps.apply r).2.1)

/-- The answer of a use that finds a form: a read gives it, no other form is taken, and
a policy that governs comes too late. -/
def Settled (form : Form) : (u : FormUse) → u.Answer → Prop
  | readForm, a => a = (.ok form, [])
  | readInstalledForm, a => a = (some (.ok form), [])
  | give _, a => a = some (.error .alreadyRead)
  | authorize p candidates, a => a.1 = p.answer candidates .alreadyRead
  | applyPolicies ps, a =>
    a.1 = .ok (ps.entries.map fun e => e.1.outcome ps.descriptors .alreadyRead)

/-- The options that a use has applied, by its answer. -/
def applied? : (u : FormUse) → u.Answer → Option FormOptions
  | authorize p _, a => if a.1 = .ok .applied then some p.options else none
  | applyPolicies ps, a => Policies.lastApplied? (ps.entries.map Prod.fst) (a.1.toOption.getD [])
  | _, _ => none

/-- The form that a use has obtained for a feature without one, by its answer. -/
def obtained? : (u : FormUse) → u.Answer → Option Form
  | readForm, a => a.1.toOption
  | readInstalledForm, a => a.1.bind Except.toOption
  | give form, some (.ok ()) => some form
  | _, _ => none

/-- A use that parses the form of the request. -/
def isRead : FormUse → Bool
  | readForm => true
  | readInstalledForm => true
  | _ => false

/-- A use that installs a feature of the default options if there is none. -/
def installsDefault : FormUse → Bool
  | readForm => true
  | _ => false

section

variable {r : Request} {f : FormFeature} {form : Form}

/-- A use that finds a form leaves it, and the body, as they are. -/
theorem perform_of_held (u : FormUse) (hf : r.form? = some f) (hform : f.form? = some form) :
    u.Settled form (u.perform r).1 ∧ (u.perform r).2.form? = some f ∧
      (u.perform r).2.body = r.body := by
  have hheld : r.heldForm?.isSome = true := by
    rw [r.heldForm?_of_some hf, hform]
    rfl
  have hown : Policy.ownOutcome r = .alreadyRead := if_pos hheld
  cases u with
  | readForm =>
    simp only [perform, Request.readForm_of_held hf hform]
    exact ⟨rfl, r.form?_setForm f, rfl⟩
  | readInstalledForm =>
    simp only [perform, Request.readInstalledForm_of_some hf, Request.readForm_of_held hf hform]
    exact ⟨rfl, r.form?_setForm f, rfl⟩
  | give other =>
    rw [perform, Request.giveForm_of_held hf hform]
    exact ⟨rfl, hf, rfl⟩
  | authorize p candidates =>
    obtain ⟨hanswer, -⟩ := p.authorize_spec candidates r
    have hsame := Policy.authorize_of_held hheld p candidates
    rw [hown] at hanswer
    refine ⟨hanswer, ?_, congrArg Request.body hsame⟩
    exact (congrArg Request.form? hsame).trans hf
  | applyPolicies ps =>
    obtain ⟨hanswer, -, -⟩ := Policies.run_spec ps.forall_candidate r
    have hsame : (ps.apply r).2.1 = r := Policies.run_of_held ps.forall_candidate hheld
    rw [hown, List.map_map] at hanswer
    refine ⟨hanswer, ?_, congrArg Request.body hsame⟩
    exact (congrArg Request.form? hsame).trans hf

/-- After a use the installed options are those that it applied, or those that were
installed, or the default ones if it had to install a feature. -/
theorem options_perform (u : FormUse) (r : Request) :
    (u.perform r).2.form?.map (·.options) = (u.applied? (u.perform r).1).or
      ((r.form?.map (·.options)).or (if u.installsDefault then some {} else none)) := by
  cases u with
  | readForm =>
    simp only [perform, r.form?_readForm, applied?, installsDefault, Option.none_or, if_true]
    cases hf : r.form? with
    | none => simp only [Request.formOrDefault, hf]; rfl
    | some f => simp only [Request.formOrDefault, hf]; rfl
  | readInstalledForm =>
    simp only [applied?, installsDefault, Option.none_or, Bool.false_eq_true, if_false,
      Option.or_none, perform]
    cases hf : r.form? with
    | none => rw [Request.readInstalledForm_of_none hf, hf]
    | some f =>
      rw [Request.readInstalledForm_of_some hf, r.form?_readForm, Request.formOrDefault_of_some hf]
      rfl
  | give form =>
    simp only [applied?, installsDefault, Option.none_or, Bool.false_eq_true, if_false,
      Option.or_none, perform]
    cases hf : r.form? with
    | none => rw [Request.giveForm_of_none hf, hf]
    | some f =>
      cases hform : f.form? with
      | none =>
        rw [Request.giveForm_of_unread hf hform, r.form?_setForm]
        rfl
      | some held => rw [Request.giveForm_of_held hf hform, hf]
  | authorize p candidates =>
    show (p.authorize candidates r).2.1.form?.map (·.options) =
      (if (p.authorize candidates r).1 = .ok .applied then some p.options else none).or
        ((r.form?.map (·.options)).or none)
    rw [(p.authorize_spec candidates r).2, Option.or_none]
    split
    · rw [r.form?_setForm]
      rfl
    · rw [Option.none_or]
  | applyPolicies ps =>
    obtain ⟨hanswer, -, hoptions⟩ := Policies.run_spec ps.forall_candidate r
    simp only [applied?, installsDefault, Bool.false_eq_true, if_false, Option.or_none, perform,
      Policies.apply, hanswer]
    exact hoptions

/-- Where no form was held, exactly the one is held afterwards that the use obtained. -/
theorem heldForm?_perform (u : FormUse) (hheld : r.heldForm? = none) :
    (u.perform r).2.heldForm? = u.obtained? (u.perform r).1 := by
  cases u with
  | readForm => exact Request.heldForm?_of_some r.form?_readForm
  | readInstalledForm =>
    simp only [perform, obtained?]
    cases hf : r.form? with
    | none =>
      rw [Request.readInstalledForm_of_none hf]
      exact hheld
    | some f =>
      rw [Request.readInstalledForm_of_some hf]
      exact Request.heldForm?_of_some r.form?_readForm
  | give form =>
    simp only [perform, obtained?]
    cases hf : r.form? with
    | none =>
      rw [Request.giveForm_of_none hf]
      exact hheld
    | some f =>
      have hform : f.form? = none := (Request.heldForm?_of_some hf).symm.trans hheld
      rw [Request.giveForm_of_unread hf hform, Request.heldForm?_of_some (r.form?_setForm _)]
  | authorize p candidates => exact (p.heldForm?_authorize candidates r).trans hheld
  | applyPolicies ps => exact (Policies.run_spec ps.forall_candidate r).2.1.trans hheld

/-- A form that was read is within the limits that stand beside it. -/
theorem within_of_read {u : FormUse} (hheld : r.heldForm? = none) (hread : u.isRead = true)
    (hf : (u.perform r).2.form? = some f) (hform : f.form? = some form) :
    form.Within f.options := by
  have hunread : r.formOrDefault.form? = none := by
    cases hinstalled : r.form? with
    | none => rw [Request.formOrDefault, hinstalled]; rfl
    | some f =>
      rw [Request.formOrDefault_of_some hinstalled]
      exact (Request.heldForm?_of_some hinstalled).symm.trans hheld
  -- both ways of reading leave the feature of a free read, if there is one to be left
  have hfree : r.readForm.2.1.form? = some f := by
    cases u with
    | readForm => exact hf
    | readInstalledForm =>
      cases hinstalled : r.form? with
      | none =>
        simp only [perform, Request.readInstalledForm_of_none hinstalled, hinstalled] at hf
        cases hf
      | some f' =>
        simp only [perform, Request.readInstalledForm_of_some hinstalled] at hf
        exact hf
    | give => cases hread
    | authorize => cases hread
    | applyPolicies => cases hread
  rw [r.form?_readForm] at hfree
  cases hfree
  cases hresult : r.readForm.1 with
  | error e =>
    rw [hresult] at hform
    cases hform
  | ok form' =>
    rw [hresult] at hform
    cases hform
    exact FormFeature.read_within (f := r.formOrDefault) hunread hresult

end

/-! ## A run -/

/-- The request after a run. -/
def performAll (r : Request) (us : List FormUse) : Request :=
  us.foldl (fun r u => (u.perform r).2) r

/-- The options that were applied last in a run. -/
def lastApplied? (r : Request) : List FormUse → Option FormOptions
  | [] => none
  | u :: us => (lastApplied? (u.perform r).2 us).or (u.applied? (u.perform r).1)

/-- A form that is there once stays for the rest of the run. -/
theorem performAll_of_held {r : Request} {f : FormFeature} {form : Form}
    (hf : r.form? = some f) (hform : f.form? = some form) (us : List FormUse) :
    (performAll r us).form? = some f ∧ (performAll r us).body = r.body := by
  induction us generalizing r with
  | nil => exact ⟨hf, rfl⟩
  | cons u us ih =>
    obtain ⟨-, hkept, hbody⟩ := perform_of_held u hf hform
    obtain ⟨hkepts, hbodies⟩ := ih hkept
    exact ⟨hkepts, hbodies.trans hbody⟩

/-- The installed options are those that were applied last; without any, those that were
there at the start, or the default ones if a read had to install a feature. -/
theorem options_performAll (r : Request) (us : List FormUse) :
    (performAll r us).form?.map (·.options) = (lastApplied? r us).or
      ((r.form?.map (·.options)).or (if us.any installsDefault then some {} else none)) := by
  induction us generalizing r with
  | nil =>
    rw [lastApplied?, Option.none_or, List.any_nil]
    exact (Option.or_none).symm
  | cons u us ih =>
    have hrest := ih (u.perform r).2
    rw [options_perform] at hrest
    simp only [Option.or_assoc] at hrest
    refine hrest.trans ?_
    rw [lastApplied?, Option.or_assoc, List.any_cons]
    cases u.installsDefault with
    | true => rfl
    | false => rfl

/-- Over any run the installed options are those of the policy that was applied last.
A form that is there once is never changed or displaced: its feature and the body stay
as they are, and every use is answered from it. A feature without a form has one
after a use exactly if the use obtained one, and a form that was read is within the
limits that stand beside it. -/
theorem form_obtained_once (r : Request) (before : List FormUse) (u : FormUse)
    (after : List FormUse) :
    let s := performAll r before
    let left := u.perform s
    s.form?.map (·.options) = (lastApplied? r before).or
        ((r.form?.map (·.options)).or (if before.any installsDefault then some {} else none)) ∧
      (∀ f form, s.form? = some f → f.form? = some form →
        u.Settled form left.1 ∧ left.2.form? = some f ∧ left.2.body = s.body ∧
          (performAll left.2 after).form? = some f ∧ (performAll left.2 after).body = s.body) ∧
      (s.heldForm? = none → left.2.heldForm? = u.obtained? left.1 ∧
        ∀ f form, u.isRead = true → left.2.form? = some f → f.form? = some form →
          form.Within f.options) := by
  intro s left
  refine ⟨options_performAll r before, ?_, ?_⟩
  · intro f form hf hform
    obtain ⟨hsettled, hkept, hbody⟩ := perform_of_held u hf hform
    obtain ⟨hkepts, hbodies⟩ := performAll_of_held hkept hform after
    exact ⟨hsettled, hkept, hbody, hkepts, hbodies.trans hbody⟩
  · intro hheld
    exact ⟨heldForm?_perform u hheld, fun f form hread => within_of_read hheld hread⟩

/-- A policy is applied, the form is read by its options, and nothing that follows
displaces it. -/
theorem form_obtained_once_read :
    let p : Policy := ⟨"p", { valueCountLimit := 1 }, .recording⟩
    let q : Policy := ⟨"q", { valueCountLimit := 2 }, .recording⟩
    let r : Request :=
      { headers := ⟨[("content-type", Utf8.encode urlEncodedType)]⟩
        body := .ofStream ⟨[.chunk [0x61, 0x3D, 0x62]], true⟩ }
    let read := performAll r [.authorize p [⟨"p", .global⟩], .readForm]
    let refused := (authorize q [⟨"q", .action⟩]).perform read
    refused.1.1 = .ok .alreadyRead ∧
      (performAll refused.2 [.give .empty, .readForm]).form? =
        some ⟨p.options, some (.ofPairs [("a", "b")])⟩ := by
  intro p q r read refused
  have hf : read.form? = some ⟨p.options, some (.ofPairs [("a", "b")])⟩ := by decide +kernel
  obtain ⟨hsettled, -, -, hkept, -⟩ :=
    (form_obtained_once r [.authorize p [⟨"p", .global⟩], .readForm]
      (authorize q [⟨"q", .action⟩]) [.give .empty, .readForm]).2.1 _ _ hf rfl
  exact ⟨hsettled, hkept⟩

end FormUse

end RequestBinding
