import RequestBinding.Proofs.Form.Policy

/-!
# Policies that are called in any order

Policies need not run as they were registered: each may be called with a list of
candidates whenever and as often as one likes, and the list may name a policy
several times or not at all. A policy is known by its id, which no other policy
has, so that calls with the same id are calls of the same policy.

No call gives or takes a form, so that all of them find the same policy in charge
and the same outcome for it. What is installed in the end is settled by whether
that policy was called, and not by when.

Results:
1. `ownOutcome_authorizeAll`: the governing policy ends as it would have at the start.
2. `authorizeAll_of_held`, `authorizeAll_of_others`, `authorizeAll_of_called`: the request
   after any calls.
3. `authorizeAll_perm`: their order does not matter for it.
4. `authorizations_agree`: what each call answers and tells, and what all of them leave.
-/

namespace RequestBinding

namespace Policy

variable {candidates : List PolicyDescriptor} {g : PolicyDescriptor}

/-- Lets policies act one after another, each on the request that those before it
left. -/
def authorizeAll (candidates : List PolicyDescriptor) (r : Request) (calls : List Policy) :
    Request :=
  calls.foldl (fun r p => (p.authorize candidates r).2.1) r

/-! ## One call -/

theorem request_of_other {p : Policy} (hg : PolicyDescriptor.governing? candidates = some g)
    (hne : p.id ≠ g.id) (r : Request) : (p.authorize candidates r).2.1 = r := by
  by_cases hp : p.id ∈ candidates.map (·.id)
  · rw [authorize_of_other hp hg hne]
  · rw [(not_registered hp).2]

theorem request_of_governing {p : Policy} (hg : PolicyDescriptor.governing? candidates = some g)
    (hid : p.id = g.id) {r : Request} (hheld : r.heldForm? = none) :
    (p.authorize candidates r).2.1 = r.setForm (.ofOptions p.options) := by
  have hp : p.id ∈ candidates.map (·.id) :=
    List.mem_map.mpr ⟨g, PolicyDescriptor.governing?_mem hg, hid.symm⟩
  rw [authorize_of_governing hp hg hid, p.apply_eq]
  exact if_neg (by rw [hheld]; exact Bool.false_ne_true)

theorem heldForm?_setForm_ofOptions (r : Request) (o : FormOptions) :
    (r.setForm (.ofOptions o)).heldForm? = none := by
  rw [Request.heldForm?, r.form?_setForm]
  rfl

/-! ## All calls -/

/-- No calls give or take a form. -/
theorem heldForm?_authorizeAll (candidates : List PolicyDescriptor) (r : Request)
    (calls : List Policy) : (authorizeAll candidates r calls).heldForm? = r.heldForm? := by
  induction calls generalizing r with
  | nil => rfl
  | cons p rest ih => exact (ih _).trans (p.heldForm?_authorize candidates r)

/-- After any calls the governing policy ends as it would have at the start. -/
theorem ownOutcome_authorizeAll (candidates : List PolicyDescriptor) (r : Request)
    (calls : List Policy) : ownOutcome (authorizeAll candidates r calls) = ownOutcome r := by
  rw [ownOutcome, heldForm?_authorizeAll, ownOutcome]

theorem authorizeAll_of_held {r : Request} (hheld : r.heldForm?.isSome = true)
    (candidates : List PolicyDescriptor) (calls : List Policy) :
    authorizeAll candidates r calls = r := by
  induction calls with
  | nil => rfl
  | cons p rest ih =>
    have hsame := authorize_of_held hheld p candidates
    rw [authorizeAll, List.foldl_cons, hsame]
    exact ih

theorem authorizeAll_of_others (hg : PolicyDescriptor.governing? candidates = some g)
    {calls : List Policy} (hcalls : ∀ p ∈ calls, p.id ≠ g.id) (r : Request) :
    authorizeAll candidates r calls = r := by
  induction calls with
  | nil => rfl
  | cons p rest ih =>
    have hsame := request_of_other hg (hcalls p List.mem_cons_self) r
    rw [authorizeAll, List.foldl_cons, hsame]
    exact ih fun q hq => hcalls q (List.mem_cons_of_mem p hq)

theorem authorizeAll_of_no_candidates (r : Request) (calls : List Policy) :
    authorizeAll [] r calls = r := by
  induction calls with
  | nil => rfl
  | cons p rest ih =>
    have hp : p.id ∉ ([] : List PolicyDescriptor).map (·.id) := List.not_mem_nil
    rw [authorizeAll, List.foldl_cons, (not_registered hp).2]
    exact ih

/-- Where no form is held, the options of the policy that governs are installed once it
has been called. -/
theorem authorizeAll_of_called (hg : PolicyDescriptor.governing? candidates = some g)
    {calls : List Policy} {w : Policy} (hw : w ∈ calls)
    (hown : ∀ p ∈ calls, p.id = g.id → p = w) (hid : w.id = g.id) {r : Request}
    (hheld : r.heldForm? = none) :
    authorizeAll candidates r calls = r.setForm (.ofOptions w.options) := by
  induction calls generalizing r with
  | nil => cases hw
  | cons p rest ih =>
    have hrest : ∀ q ∈ rest, q.id = g.id → q = w :=
      fun q hq => hown q (List.mem_cons_of_mem p hq)
    rw [authorizeAll, List.foldl_cons]
    by_cases hp : p.id = g.id
    · obtain rfl := hown p List.mem_cons_self hp
      rw [request_of_governing hg hp hheld]
      by_cases hagain : p ∈ rest
      · -- called once more, it puts the same options in their place
        have hsame := ih hagain hrest (heldForm?_setForm_ofOptions r p.options)
        exact hsame.trans (r.setForm_setForm _ _)
      · have hothers : ∀ q ∈ rest, q.id ≠ g.id := by
          intro q hq hqid
          exact hagain (hrest q hq hqid ▸ hq)
        exact authorizeAll_of_others hg hothers _
    · rw [request_of_other hg hp]
      rcases List.mem_cons.mp hw with rfl | hw
      · exact absurd hid hp
      · exact ih hw hrest hheld

/-- The order of calls does not matter for what they leave. -/
theorem authorizeAll_perm {calls calls' : List Policy} (hperm : calls.Perm calls')
    (hids : ∀ p ∈ calls, ∀ q ∈ calls, p.id = q.id → p = q) (r : Request) :
    authorizeAll candidates r calls' = authorizeAll candidates r calls := by
  by_cases hne : candidates = []
  · subst hne
    rw [authorizeAll_of_no_candidates, authorizeAll_of_no_candidates]
  · obtain ⟨before, g, after, rfl, hgoverns⟩ := PolicyDescriptor.exists_governs hne
    have hg := PolicyDescriptor.governing?_of_governs hgoverns
    cases hheld : r.heldForm? with
    | some form =>
      have hsome : r.heldForm?.isSome = true := by rw [hheld]; rfl
      rw [authorizeAll_of_held hsome, authorizeAll_of_held hsome]
    | none =>
      by_cases hcalled : ∃ w ∈ calls, w.id = g.id
      · obtain ⟨w, hw, hid⟩ := hcalled
        have hown : ∀ p ∈ calls, p.id = g.id → p = w :=
          fun p hp hpid => hids p hp w hw (hpid.trans hid.symm)
        rw [authorizeAll_of_called hg hw hown hid hheld,
          authorizeAll_of_called hg (hperm.mem_iff.mp hw)
            (fun p hp => hown p (hperm.mem_iff.mpr hp)) hid hheld]
      · have hothers : ∀ p ∈ calls, p.id ≠ g.id := fun p hp hid => hcalled ⟨p, hp, hid⟩
        rw [authorizeAll_of_others hg hothers,
          authorizeAll_of_others hg fun p hp => hothers p (hperm.mem_iff.mpr hp)]

/-- All policies find the same candidate in charge, the last of those of the highest
scope, whatever was called before. The policy that governs installs its options, or
comes too late for a form that was there at the start; any other candidate steps back
behind it, and a policy that is no candidate does nothing at all. Each outcome is told
by one event and counted once, and what the calls leave does not depend on their
order. -/
theorem authorizations_agree (candidates : List PolicyDescriptor) (r : Request)
    (calls : List Policy) (hids : ∀ p ∈ calls, ∀ q ∈ calls, p.id = q.id → p = q) :
    let left := authorizeAll candidates r calls
    (∀ p : Policy, p.id ∉ candidates.map (·.id) →
      p.governing candidates = .error ⟨p.id⟩ ∧
        ∀ s, p.authorize candidates s = (.error ⟨p.id⟩, s, [])) ∧
    (candidates = [] → left = r) ∧
    (candidates ≠ [] → ∃ before g after,
      candidates = before ++ g :: after ∧ PolicyDescriptor.Governs before g after ∧
      (∀ p : Policy, p.id ∈ candidates.map (·.id) → p.governing candidates = .ok g.id) ∧
      (∀ earlier p later, calls = earlier ++ p :: later → p.id ∈ candidates.map (·.id) →
        let s := authorizeAll candidates r earlier
        let call := p.authorize candidates s
        (p.id = g.id →
          call.1 = .ok (ownOutcome r) ∧
          call.2.2 = [p.sink.emit (ownEvent (ownOutcome r)),
            .measurement (.limits (ownOutcome r))]) ∧
        (p.id ≠ g.id →
          call = (.ok .superseded, s,
            [p.sink.emit (.preemptedPolicy p.id g.id), .measurement (.limits .superseded)]))) ∧
      (r.heldForm?.isSome = true → ownOutcome r = .alreadyRead ∧ left = r) ∧
      (r.heldForm? = none → ownOutcome r = .applied ∧
        (∀ w ∈ calls, w.id = g.id → left = r.setForm (.ofOptions w.options)) ∧
        ((∀ p ∈ calls, p.id ≠ g.id) → left = r))) ∧
    (∀ calls', calls.Perm calls' → authorizeAll candidates r calls' = left) := by
  intro left
  refine ⟨fun p hp => not_registered hp, ?_, ?_,
    fun calls' hperm => authorizeAll_perm hperm hids r⟩
  · rintro rfl
    exact authorizeAll_of_no_candidates r calls
  · intro hne
    obtain ⟨before, g, after, hsplit, hgoverns⟩ := PolicyDescriptor.exists_governs hne
    have hg : PolicyDescriptor.governing? candidates = some g := by
      rw [hsplit]
      exact PolicyDescriptor.governing?_of_governs hgoverns
    refine ⟨before, g, after, hsplit, hgoverns,
      fun p hp => governing_of_candidate hp hg, ?_, ?_, ?_⟩
    · intro earlier p later _ hp s call
      constructor
      · intro hid
        have hcall : call = _ := authorize_of_governing hp hg hid s
        rw [p.apply_eq, ownOutcome_authorizeAll] at hcall
        rw [hcall]
        exact ⟨rfl, rfl⟩
      · intro hother
        exact authorize_of_other hp hg hother s
    · intro hheld
      exact ⟨if_pos hheld, authorizeAll_of_held hheld candidates calls⟩
    · intro hheld
      refine ⟨if_neg (by rw [hheld]; exact Bool.false_ne_true), ?_, ?_⟩
      · intro w hw hid
        have hown : ∀ p ∈ calls, p.id = g.id → p = w :=
          fun p hp hpid => hids p hp w hw (hpid.trans hid.symm)
        exact authorizeAll_of_called hg hw hown hid hheld
      · intro hothers
        exact authorizeAll_of_others hg hothers r

/-- One policy stands among the candidates twice, and is called twice, between one that
steps back behind it and one that is no candidate. -/
theorem authorizations_agree_repeated :
    let p : Policy := ⟨"p", { valueCountLimit := 1 }, .recording⟩
    let q : Policy := ⟨"q", { valueCountLimit := 2 }, .recording⟩
    let x : Policy := ⟨"x", { valueCountLimit := 3 }, .logging⟩
    let candidates : List PolicyDescriptor :=
      [⟨"p", .global⟩, ⟨"q", .action⟩, ⟨"p", .action⟩, ⟨"q", .controller⟩]
    let r : Request := Request.setForm {} (.ofOptions { keyLengthLimit := 4 })
    (∀ a ∈ [q, p, x, p], ∀ b ∈ [q, p, x, p], a.id = b.id → a = b) ∧
      (authorizeAll candidates r [q, p, x, p]).form? = some (.ofOptions p.options) ∧
      (q.authorize candidates (authorizeAll candidates r [])).2.2 =
        [.event (.preemptedPolicy "q" "p"), .measurement (.limits .superseded)] ∧
      authorizeAll candidates r [p, p, q, x] = authorizeAll candidates r [q, p, x, p] := by
  intro p q x candidates r
  have hids : ∀ a ∈ [q, p, x, p], ∀ b ∈ [q, p, x, p], a.id = b.id → a = b := by decide
  obtain ⟨-, -, hagree, hperm⟩ := authorizations_agree candidates r [q, p, x, p] hids
  obtain ⟨before, g, after, hsplit, hgoverns, -, hcalls, -, hunread⟩ :=
    hagree (List.cons_ne_nil _ _)
  have hg : PolicyDescriptor.governing? candidates = some g := by
    rw [hsplit]
    exact PolicyDescriptor.governing?_of_governs hgoverns
  obtain rfl : ⟨"p", .action⟩ = g := Option.some.inj hg
  refine ⟨hids, ?_, ?_, hperm _ (by decide)⟩
  · rw [(hunread rfl).2.1 p (by decide) rfl]
    exact Request.form?_setForm _ _
  · rw [(hcalls [] q [p, x, p] rfl (by decide)).2 (by decide)]
    rfl

end Policy

end RequestBinding
