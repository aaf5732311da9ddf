import Mathlib.Data.List.Induction
import RequestBinding.Form.Policy
import RequestBinding.Proofs.Form.Reading

/-!
# The one policy that governs

Each policy finds out for itself whether it governs, while the policies run one
after another on the same request. They agree nevertheless: the candidate that
stands last among those of the highest scope splits the others into those before
it, none of a higher scope, and those after it, all of a lower one (`Governs`).
The others leave the request alone, so that what they carry does not matter,
and the governing one meets the request as it was.

Results:
1. `governing?_of_governs`, `exists_governs`: among candidates there is such a
   split, and the policy in its middle is the one that is found.
2. `run_of_others`: policies that do not govern change nothing.
3. `apply_of_governs`: what all policies together do is what one of them does.
4. `authorize_spec`, `run_spec`: what policies answer and leave installed among any
   candidates.
5. `apply_ofRegistrations`: outcomes, events, the form that is installed and how
   it is read afterwards, for every row of registrations.
-/

namespace RequestBinding

/-! ## Candidates -/

namespace PolicyDescriptor

/-- `g` governs between candidates: none before it has a higher scope, and all
after it have a lower one. -/
structure Governs (before : List PolicyDescriptor) (g : PolicyDescriptor)
    (after : List PolicyDescriptor) : Prop where
  before_le : ∀ d ∈ before, d.scope.rank ≤ g.scope.rank
  after_lt : ∀ d ∈ after, d.scope.rank < g.scope.rank

theorem later_eq_or (d e : PolicyDescriptor) : d.later e = d ∨ d.later e = e := by
  unfold later
  split
  · exact .inl rfl
  · exact .inr rfl

theorem governing?_mem {ds : List PolicyDescriptor} {g : PolicyDescriptor}
    (h : governing? ds = some g) : g ∈ ds := by
  induction ds using List.reverseRecOn generalizing g with
  | nil => cases h
  | append_singleton ds d ih =>
    rw [governing?_concat] at h
    cases hds : governing? ds with
    | none =>
      rw [hds] at h
      cases h
      exact List.mem_append_right _ (List.mem_singleton_self d)
    | some e =>
      rw [hds] at h
      cases h
      rcases later_eq_or e d with he | hd
      · rw [he]
        exact List.mem_append_left _ (ih hds)
      · rw [hd]
        exact List.mem_append_right _ (List.mem_singleton_self d)

/-- The candidate that governs between the others is the one that is found. -/
theorem governing?_of_governs {before after : List PolicyDescriptor} {g : PolicyDescriptor}
    (h : Governs before g after) : governing? (before ++ g :: after) = some g := by
  obtain ⟨hbefore, hafter⟩ := h
  -- candidates after `g` are added one by one; `g` itself comes last of those before them
  induction after using List.reverseRecOn with
  | nil =>
    rw [governing?_concat]
    cases hfirst : governing? before with
    | none => rfl
    | some e =>
      have hle := hbefore e (governing?_mem hfirst)
      exact congrArg some (if_neg (Nat.not_lt.2 hle))
  | append_singleton after d ih =>
    have hlt := hafter d (List.mem_append_right _ (List.mem_singleton_self d))
    have hg := ih fun e he => hafter e (List.mem_append_left _ he)
    rw [← List.cons_append, ← List.append_assoc, governing?_concat, hg]
    exact congrArg some (if_pos hlt)

/-- Among candidates there is always one that governs. -/
theorem exists_governs {ds : List PolicyDescriptor} (h : ds ≠ []) :
    ∃ before g after, ds = before ++ g :: after ∧ Governs before g after := by
  induction ds using List.reverseRecOn with
  | nil => exact absurd rfl h
  | append_singleton ds d ih =>
    by_cases hds : ds = []
    · subst hds
      exact ⟨[], d, [], rfl, List.forall_mem_nil _, List.forall_mem_nil _⟩
    · obtain ⟨before, g, after, hsplit, hbefore, hafter⟩ := ih hds
      rcases Nat.lt_or_ge d.scope.rank g.scope.rank with hlt | hge
      · -- a lower scope: the governing candidate stays
        refine ⟨before, g, after ++ [d], by rw [hsplit, List.append_assoc, List.cons_append],
          hbefore, ?_⟩
        intro e he
        rcases List.mem_append.1 he with he | he
        · exact hafter e he
        · rw [List.mem_singleton.1 he]
          exact hlt
      · -- the same scope or a higher one: the last candidate takes over
        refine ⟨ds, d, [], rfl, ?_, List.forall_mem_nil _⟩
        intro e he
        rw [hsplit] at he
        rcases List.mem_append.1 he with he | he
        · exact Nat.le_trans (hbefore e he) hge
        · rcases List.mem_cons.1 he with rfl | he
          · exact hge
          · exact Nat.le_trans (Nat.le_of_lt (hafter e he)) hge

end PolicyDescriptor

/-! ## One policy -/

namespace Policy

variable {p : Policy} {candidates : List PolicyDescriptor} {g : PolicyDescriptor}

/-- What a policy tells when it steps back behind another. -/
def steppedBack (p : Policy) (governing : String) : Journal :=
  [p.sink.emit (.preemptedPolicy p.id governing), .measurement (.limits .superseded)]

/-- The event of a policy that governs. -/
def ownEvent : LimitsOutcome → Event
  | .alreadyRead => .cannotApplyFormLimits
  | _ => .appliedFormLimits

/-- How a policy ends that governs a request. -/
def ownOutcome (r : Request) : LimitsOutcome :=
  if r.heldForm?.isSome then .alreadyRead else .applied

theorem apply_eq (p : Policy) (r : Request) :
    p.apply r = (ownOutcome r,
      if r.heldForm?.isSome then r else r.setForm (.ofOptions p.options),
      [p.sink.emit (ownEvent (ownOutcome r))]) := by
  rw [apply, r.hasForm_formOrDefault, ownOutcome]
  split <;> rfl

/-- Every candidate finds the one that governs. -/
theorem governing_of_candidate (hp : p.id ∈ candidates.map (·.id))
    (hg : PolicyDescriptor.governing? candidates = some g) :
    p.governing candidates = .ok g.id := by
  obtain ⟨d, hd, hid⟩ := List.mem_map.1 hp
  have hany : candidates.any (·.id == p.id) = true :=
    List.any_eq_true.2 ⟨d, hd, beq_iff_eq.2 hid⟩
  rw [governing, if_pos hany, hg]

theorem authorize_of_other (hp : p.id ∈ candidates.map (·.id))
    (hg : PolicyDescriptor.governing? candidates = some g) (hne : p.id ≠ g.id) (r : Request) :
    p.authorize candidates r = (.ok .superseded, r, p.steppedBack g.id) := by
  have hid : (g.id == p.id) = false := beq_eq_false_iff_ne.2 (Ne.symm hne)
  rw [authorize, governing_of_candidate hp hg]
  simp only [hid]
  rfl

theorem authorize_of_governing (hp : p.id ∈ candidates.map (·.id))
    (hg : PolicyDescriptor.governing? candidates = some g) (hid : p.id = g.id) (r : Request) :
    p.authorize candidates r =
      (.ok (p.apply r).1, (p.apply r).2.1,
        (p.apply r).2.2 ++ [.measurement (.limits (p.apply r).1)]) := by
  have hbeq : (g.id == p.id) = true := beq_iff_eq.2 hid.symm
  rw [authorize, governing_of_candidate hp hg]
  simp only [hbeq, if_true]

/-- How a candidate ends: as `own` if it governs. -/
def outcome (p : Policy) (candidates : List PolicyDescriptor) (own : LimitsOutcome) :
    LimitsOutcome :=
  if (PolicyDescriptor.governing? candidates).map (·.id) = some p.id then own else .superseded

/-- What a policy answers: only a candidate has an outcome. -/
def answer (p : Policy) (candidates : List PolicyDescriptor) (own : LimitsOutcome) :
    Except PolicyNotRegistered LimitsOutcome :=
  if p.id ∈ candidates.map (·.id) then .ok (p.outcome candidates own) else .error ⟨p.id⟩

theorem outcome_of_governing (hg : PolicyDescriptor.governing? candidates = some g)
    (hid : p.id = g.id) (own : LimitsOutcome) : p.outcome candidates own = own := by
  rw [outcome, hg, hid]
  exact if_pos rfl

theorem outcome_of_other (hg : PolicyDescriptor.governing? candidates = some g)
    (hne : p.id ≠ g.id) (own : LimitsOutcome) : p.outcome candidates own = .superseded := by
  rw [outcome, hg]
  exact if_neg fun h => hne (Option.some.inj h).symm

theorem exists_governing (hp : p.id ∈ candidates.map (·.id)) :
    ∃ g, PolicyDescriptor.governing? candidates = some g := by
  cases candidates with
  | nil => cases hp
  | cons d ds => exact ⟨_, rfl⟩

/-- A policy that is no candidate finds none that governs, and does nothing. -/
theorem not_registered (hp : p.id ∉ candidates.map (·.id)) :
    p.governing candidates = .error ⟨p.id⟩ ∧
      ∀ r, p.authorize candidates r = (.error ⟨p.id⟩, r, []) := by
  have hnone : candidates.any (·.id == p.id) = false := by
    rw [List.any_eq_false]
    intro d hd hid
    exact hp (List.mem_map.mpr ⟨d, hd, beq_iff_eq.mp hid⟩)
  constructor
  · simp only [governing, hnone, Bool.false_eq_true, if_false]
  · exact authorize_not_registered hnone

/-- An authorization answers for the request as it is, and installs the options of the
policy exactly if it says so. -/
theorem authorize_spec (p : Policy) (candidates : List PolicyDescriptor) (r : Request) :
    (p.authorize candidates r).1 = p.answer candidates (ownOutcome r) ∧
      (p.authorize candidates r).2.1 =
        if (p.authorize candidates r).1 = .ok .applied then r.setForm (.ofOptions p.options)
        else r := by
  by_cases hp : p.id ∈ candidates.map (·.id)
  · obtain ⟨g, hg⟩ := exists_governing hp
    rw [answer, if_pos hp]
    by_cases hid : p.id = g.id
    · rw [authorize_of_governing hp hg hid, p.apply_eq, outcome_of_governing hg hid]
      refine ⟨rfl, ?_⟩
      cases hheld : r.heldForm?.isSome with
      | true => simp [ownOutcome, hheld]
      | false => simp [ownOutcome, hheld]
    · rw [authorize_of_other hp hg hid, outcome_of_other hg hid]
      exact ⟨rfl, rfl⟩
  · rw [(not_registered hp).2, answer, if_neg hp]
    exact ⟨rfl, rfl⟩

/-- Options are applied only where no form is held. -/
theorem heldForm?_of_applied {r : Request}
    (h : (p.authorize candidates r).1 = .ok .applied) : r.heldForm? = none := by
  rw [(authorize_spec p candidates r).1, answer] at h
  split at h
  · cases hheld : r.heldForm? with
    | none => rfl
    | some form =>
      have hown : ownOutcome r = .alreadyRead := if_pos (by rw [hheld]; rfl)
      rw [hown, outcome] at h
      split at h <;> cases h
  · cases h

/-- Where a form is held, an authorization changes nothing. -/
theorem authorize_of_held {r : Request} (hheld : r.heldForm?.isSome = true) (p : Policy)
    (candidates : List PolicyDescriptor) : (p.authorize candidates r).2.1 = r := by
  rw [(authorize_spec p candidates r).2]
  refine if_neg fun happlied => ?_
  rw [heldForm?_of_applied happlied] at hheld
  cases hheld

/-- No authorization gives or takes a form. -/
theorem heldForm?_authorize (p : Policy) (candidates : List PolicyDescriptor) (r : Request) :
    (p.authorize candidates r).2.1.heldForm? = r.heldForm? := by
  rw [(authorize_spec p candidates r).2]
  split
  · next happlied =>
    rw [heldForm?_of_applied happlied, Request.heldForm?, r.form?_setForm]
    rfl
  · rfl

end Policy

/-! ## All policies -/

namespace Policies

/-- The policies after a row of registrations. -/
def ofRegistrations (registrations : List (Policy × Scope)) : Policies :=
  registrations.foldl (fun ps e => ps.register e.1 e.2) .empty

theorem foldl_register (ps : Policies) (registrations : List (Policy × Scope)) :
    registrations.foldl (fun ps e => ps.register e.1 e.2) ps =
      ⟨ps.entries ++ registrations⟩ := by
  induction registrations generalizing ps with
  | nil => rw [List.append_nil]; rfl
  | cons e rest ih =>
    rw [List.foldl_cons, ih, register, List.append_assoc]
    rfl

theorem ofRegistrations_eq (registrations : List (Policy × Scope)) :
    ofRegistrations registrations = ⟨registrations⟩ :=
  foldl_register .empty registrations

theorem id_mem_descriptors {ps : Policies} {e : Policy × Scope} (h : e ∈ ps.entries) :
    e.1.id ∈ ps.descriptors.map (·.id) :=
  List.mem_map.2 ⟨⟨e.1.id, e.2⟩, List.mem_map.2 ⟨e, h, rfl⟩, rfl⟩

theorem forall_candidate (ps : Policies) :
    ∀ p ∈ ps.entries.map Prod.fst, p.id ∈ ps.descriptors.map (·.id) := by
  intro p hp
  obtain ⟨e, he, rfl⟩ := List.mem_map.1 hp
  exact id_mem_descriptors he

theorem run_append (candidates : List PolicyDescriptor) (r : Request) (ps qs : List Policy) :
    run candidates r (ps ++ qs) =
      match run candidates r ps with
      | (.error e, r, journal) => (.error e, r, journal)
      | (.ok outcomes, r, journal) =>
        ((run candidates r qs).1.map (outcomes ++ ·), (run candidates r qs).2.1,
          journal ++ (run candidates r qs).2.2) := by
  induction ps generalizing r with
  | nil =>
    rw [List.nil_append]
    rcases hqs : run candidates r qs with ⟨_ | outcomes, r₁, journal⟩
    · simp only [run, hqs, Except.map, List.nil_append]
    · simp only [run, hqs, Except.map, List.nil_append]
  | cons p ps ih =>
    simp only [List.cons_append, run]
    rcases p.authorize candidates r with ⟨_ | outcome, r₁, told⟩
    · rfl
    · simp only [ih]
      rcases run candidates r₁ ps with ⟨_ | outcomes, r₂, more⟩
      · rfl
      · simp only [Except.map, List.append_assoc]
        cases (run candidates r₂ qs).1 <;> rfl

/-- Policies that do not govern step back and change nothing. -/
theorem run_of_others {candidates : List PolicyDescriptor} {g : PolicyDescriptor}
    (hg : PolicyDescriptor.governing? candidates = some g) {ps : List Policy}
    (hps : ∀ p ∈ ps, p.id ∈ candidates.map (·.id) ∧ p.id ≠ g.id) (r : Request) :
    run candidates r ps =
      (.ok (ps.map fun _ => .superseded), r, ps.flatMap (·.steppedBack g.id)) := by
  induction ps with
  | nil => rfl
  | cons p ps ih =>
    obtain ⟨hp, hne⟩ := hps p List.mem_cons_self
    have hrest := ih fun q hq => hps q (List.mem_cons_of_mem p hq)
    simp only [run, Policy.authorize_of_other hp hg hne, hrest]
    rfl

/-- The options of the last policy that was applied, by the outcomes. -/
def lastApplied? : List Policy → List LimitsOutcome → Option FormOptions
  | p :: ps, outcome :: outcomes =>
    (lastApplied? ps outcomes).or (if outcome = .applied then some p.options else none)
  | _, _ => none

/-- A row of candidates answers for the request as it was at the start; it leaves the
form alone, and the options that were applied last. -/
theorem run_spec {candidates : List PolicyDescriptor} {ps : List Policy}
    (hps : ∀ p ∈ ps, p.id ∈ candidates.map (·.id)) (r : Request) :
    let outcomes := ps.map (·.outcome candidates (Policy.ownOutcome r))
    (run candidates r ps).1 = .ok outcomes ∧
      (run candidates r ps).2.1.heldForm? = r.heldForm? ∧
      (run candidates r ps).2.1.form?.map (·.options) =
        (lastApplied? ps outcomes).or (r.form?.map (·.options)) := by
  induction ps generalizing r with
  | nil => exact ⟨rfl, rfl, rfl⟩
  | cons p ps ih =>
    intro outcomes
    obtain ⟨hanswer, hrequest⟩ := p.authorize_spec candidates r
    rw [Policy.answer, if_pos (hps p List.mem_cons_self)] at hanswer
    have hheld := p.heldForm?_authorize candidates r
    obtain ⟨hoks, hhelds, hoptions⟩ :=
      ih (fun q hq => hps q (List.mem_cons_of_mem p hq)) (p.authorize candidates r).2.1
    have hown : Policy.ownOutcome (p.authorize candidates r).2.1 = Policy.ownOutcome r := by
      rw [Policy.ownOutcome, hheld, Policy.ownOutcome]
    rw [hown] at hoks hoptions
    have hrun : run candidates r (p :: ps) =
        (.ok outcomes, (run candidates (p.authorize candidates r).2.1 ps).2.1,
          (p.authorize candidates r).2.2 ++
            (run candidates (p.authorize candidates r).2.1 ps).2.2) := by
      rw [run]
      generalize p.authorize candidates r = authorized at *
      obtain ⟨result, r', told⟩ := authorized
      cases hanswer
      simp only [hoks, Except.map]
      rfl
    rw [hrun]
    refine ⟨rfl, hhelds.trans hheld, hoptions.trans ?_⟩
    have hstep : (p.authorize candidates r).2.1.form?.map (·.options) =
        (if p.outcome candidates (Policy.ownOutcome r) = .applied then some p.options
          else none).or (r.form?.map (·.options)) := by
      rw [hrequest, hanswer]
      by_cases happlied : p.outcome candidates (Policy.ownOutcome r) = .applied
      · rw [if_pos (congrArg _ happlied), if_pos happlied, r.form?_setForm]
        rfl
      · rw [if_neg fun h => happlied (Except.ok.inj h), if_neg happlied, Option.none_or]
    rw [hstep, ← Option.or_assoc]
    rfl

/-- Where a form is held, a row of candidates changes nothing. -/
theorem run_of_held {candidates : List PolicyDescriptor} {ps : List Policy}
    (hps : ∀ p ∈ ps, p.id ∈ candidates.map (·.id)) {r : Request}
    (hheld : r.heldForm?.isSome = true) : (run candidates r ps).2.1 = r := by
  induction ps with
  | nil => rfl
  | cons p ps ih =>
    have hsame := Policy.authorize_of_held hheld p candidates
    have hrest := ih fun q hq => hps q (List.mem_cons_of_mem p hq)
    rw [run]
    generalize p.authorize candidates r = authorized at *
    obtain ⟨result, r', told⟩ := authorized
    cases hsame
    cases result with
    | error e => rfl
    | ok outcome => exact hrest

/-- What all policies do is what the governing one does; the others step back
behind it. -/
theorem apply_of_governs {before after : List (Policy × Scope)} {w : Policy} {scope : Scope}
    (hids : ((before ++ (w, scope) :: after).map fun e => e.1.id).Nodup)
    (h : PolicyDescriptor.Governs (descriptors ⟨before⟩) ⟨w.id, scope⟩ (descriptors ⟨after⟩))
    (r : Request) :
    apply ⟨before ++ (w, scope) :: after⟩ r =
      (.ok (before.map (fun _ => .superseded) ++ (w.apply r).1 :: after.map fun _ => .superseded),
        (w.apply r).2.1,
        before.flatMap (·.1.steppedBack w.id) ++
          ((w.apply r).2.2 ++ [.measurement (.limits (w.apply r).1)]) ++
          after.flatMap (·.1.steppedBack w.id)) := by
  have hg : PolicyDescriptor.governing? (descriptors ⟨before ++ (w, scope) :: after⟩) =
      some ⟨w.id, scope⟩ := by
    have hsplit : descriptors ⟨before ++ (w, scope) :: after⟩ =
        descriptors ⟨before⟩ ++ ⟨w.id, scope⟩ :: descriptors ⟨after⟩ := List.map_append
    rw [hsplit]
    exact PolicyDescriptor.governing?_of_governs h
  -- the identifiers are distinct, so that no other policy takes itself for the governing one
  have hothers : ∀ e ∈ before ++ after, e.1.id ≠ w.id := by
    intro e he hid
    rw [List.map_append, List.map_cons, List.nodup_append] at hids
    rcases List.mem_append.1 he with he | he
    · exact hids.2.2 _ (List.mem_map_of_mem he) _ List.mem_cons_self hid
    · exact (List.nodup_cons.1 hids.2.1).1 (hid ▸ List.mem_map_of_mem he)
  have hstep : ∀ l : List (Policy × Scope), (∀ e ∈ l, e ∈ before ++ after) → ∀ r,
      run (descriptors ⟨before ++ (w, scope) :: after⟩) r (l.map Prod.fst) =
        (.ok (l.map fun _ => .superseded), r, l.flatMap (·.1.steppedBack w.id)) := by
    intro l hl r
    have hps : ∀ p ∈ l.map Prod.fst,
        p.id ∈ (descriptors ⟨before ++ (w, scope) :: after⟩).map (·.id) ∧ p.id ≠ w.id := by
      intro p hp
      obtain ⟨e, he, rfl⟩ := List.mem_map.1 hp
      refine ⟨id_mem_descriptors ?_, hothers e (hl e he)⟩
      rcases List.mem_append.1 (hl e he) with hb | ha
      · exact List.mem_append_left _ hb
      · exact List.mem_append_right _ (List.mem_cons_of_mem _ ha)
    rw [run_of_others hg hps r, List.map_map, List.flatMap_map]
    rfl
  have hw : w.id ∈ (descriptors ⟨before ++ (w, scope) :: after⟩).map (·.id) :=
    id_mem_descriptors (List.mem_append_right _ List.mem_cons_self)
  rw [apply, List.map_append, List.map_cons, run_append,
    hstep before (fun e he => List.mem_append_left _ he)]
  simp only [run, Policy.authorize_of_governing hw hg rfl,
    hstep after (fun e he => List.mem_append_right _ he), Except.map, List.append_assoc]

/-- Of registered policies exactly one governs, the last of those of the highest
scope, and only its outcome is not superseded. If the installed form has been
read, the request stays as it is. If not, its form is afterwards read by the
options of that policy, as if it alone had been there, whatever the others carry
and whatever was installed before. -/
theorem apply_ofRegistrations (registrations : List (Policy × Scope))
    (hids : (registrations.map fun e => e.1.id).Nodup) (r : Request) :
    let applied := (ofRegistrations registrations).apply r
    (registrations = [] → applied = (.ok [], r, [])) ∧
    (registrations ≠ [] → ∃ before w scope after,
      registrations = before ++ (w, scope) :: after ∧
      PolicyDescriptor.Governs (descriptors ⟨before⟩) ⟨w.id, scope⟩ (descriptors ⟨after⟩) ∧
      applied.1 = .ok (before.map (fun _ => .superseded) ++
        Policy.ownOutcome r :: after.map fun _ => .superseded) ∧
      applied.2.2 = before.flatMap (·.1.steppedBack w.id) ++
        [w.sink.emit (Policy.ownEvent (Policy.ownOutcome r)),
          .measurement (.limits (Policy.ownOutcome r))] ++
        after.flatMap (·.1.steppedBack w.id) ∧
      (r.heldForm?.isSome = true → Policy.ownOutcome r = .alreadyRead ∧ applied.2.1 = r) ∧
      (r.heldForm? = none →
        Policy.ownOutcome r = .applied ∧
        applied.2.1 = r.setForm (.ofOptions w.options) ∧
        applied.2.1.form? = some (.ofOptions w.options) ∧
        applied.2.1.readForm.1 = ((FormFeature.ofOptions w.options).read r).result ∧
        applied.2.1.readForm.2.1.body = ((FormFeature.ofOptions w.options).read r).body)) := by
  rw [ofRegistrations_eq]
  intro applied
  refine ⟨?_, ?_⟩
  · rintro rfl
    rfl
  · intro hne
    have hds : descriptors ⟨registrations⟩ ≠ [] := by
      simpa [descriptors] using hne
    obtain ⟨dbefore, g, dafter, hsplit, hgoverns⟩ := PolicyDescriptor.exists_governs hds
    -- the split of the candidates is one of the registrations
    obtain ⟨before, rest, rfl, rfl, hrest⟩ := List.map_eq_append_iff.1 hsplit
    obtain ⟨⟨w, scope⟩, after, rfl, rfl, rfl⟩ := List.map_eq_cons_iff.1 hrest
    have happly := apply_of_governs hids hgoverns r
    rw [w.apply_eq] at happly
    refine ⟨before, w, scope, after, rfl, hgoverns, congrArg (·.1) happly,
      congrArg (·.2.2) happly, ?_, ?_⟩
    · intro hheld
      refine ⟨if_pos hheld, (congrArg (·.2.1) happly).trans (if_pos hheld)⟩
    · intro hheld
      have hunread : ¬ r.heldForm?.isSome = true := by simp [hheld]
      have hleft : applied.2.1 = r.setForm (.ofOptions w.options) :=
        (congrArg (·.2.1) happly).trans (if_neg hunread)
      have hform : (r.setForm (.ofOptions w.options)).form? = some (.ofOptions w.options) :=
        r.form?_setForm _
      -- reading a form looks at the content type, the headers and the body alone
      have hread : (r.setForm (.ofOptions w.options)).formOrDefault.read
          (r.setForm (.ofOptions w.options)) = (FormFeature.ofOptions w.options).read r := by
        rw [Request.formOrDefault, hform]
        rfl
      rw [hleft]
      refine ⟨if_neg hunread, rfl, hform, ?_, ?_⟩
      · simp only [Request.readForm, hread]
      · simp only [Request.readForm, hread]
        rfl

/-- Two policies of the highest scope around one of a lower scope, on a request
with an unread form of other options: the last of them governs. -/
theorem apply_ofRegistrations_three :
    let p : Policy := ⟨"p", { valueCountLimit := 1 }, .recording⟩
    let q : Policy := ⟨"q", { valueCountLimit := 2 }, .recording⟩
    let w : Policy := ⟨"w", { valueCountLimit := 3 }, .logging⟩
    let r : Request := Request.setForm {} (.ofOptions { keyLengthLimit := 4 })
    let applied := (ofRegistrations [(p, .action), (q, .global), (w, .action)]).apply r
    ([(p, .action), (q, .global), (w, .action)].map fun e : Policy × Scope => e.1.id).Nodup ∧
      applied.1 = .ok [.superseded, .superseded, .applied] ∧
      applied.2.1.form? = some (.ofOptions { valueCountLimit := 3 }) := by
  intro p q w r applied
  have hids : ([(p, .action), (q, .global), (w, .action)].map
      fun e : Policy × Scope => e.1.id).Nodup := by decide
  obtain ⟨before, w', scope, after, hsplit, hgoverns, houtcomes, -, -, hunread⟩ :=
    (apply_ofRegistrations _ hids r).2 (List.cons_ne_nil _ _)
  -- of the three splits only the last is one at a governing policy
  rcases before with _ | ⟨_, _ | ⟨_, _ | ⟨_, _⟩⟩⟩
  · cases hsplit
    exact absurd (hgoverns.after_lt ⟨"w", .action⟩ (by decide)) (by decide)
  · cases hsplit
    exact absurd (hgoverns.before_le ⟨"p", .action⟩ (by decide)) (by decide)
  · cases hsplit
    exact ⟨hids, houtcomes, (hunread rfl).2.2.1⟩
  · simp at hsplit

end Policies

end RequestBinding
