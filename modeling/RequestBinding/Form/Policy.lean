import RequestBinding.Form.Reading

/-!
# Form limits policies

A policy sets the options by which the form of a request is read. Several may
apply to one request, each declared for a scope; one of them governs: the last
of those declared for the highest scope. Each policy finds out for itself
whether it governs. The governing one installs its options unless the form has
been read; the others step back.

Results:
1. `governing?_concat`: the last candidate governs unless an earlier one has a
   higher scope.
2. `authorize_not_registered`: a policy that is no candidate changes nothing.
-/

namespace RequestBinding

/-- A policy: its identifier, its options, and where its events go. -/
structure Policy where
  id : String
  options : FormOptions
  sink : Sink
deriving DecidableEq

/-- A policy that is declared for a scope, by its identifier. -/
structure PolicyDescriptor where
  id : String
  scope : Scope
deriving DecidableEq

/-- The policy is not among the candidates. -/
structure PolicyNotRegistered where
  id : String
deriving DecidableEq

/-- The text of the error. -/
def PolicyNotRegistered.message (e : PolicyNotRegistered) : String :=
  "form limits policy '" ++ e.id ++ "' is not registered for the current request"

namespace PolicyDescriptor

/-- The later of two candidates governs unless the earlier has a higher scope. -/
def later (earlier later : PolicyDescriptor) : PolicyDescriptor :=
  if later.scope.rank < earlier.scope.rank then earlier else later

/-- The governing candidate. -/
def governing? : List PolicyDescriptor → Option PolicyDescriptor
  | [] => none
  | d :: ds => some (ds.foldl PolicyDescriptor.later d)

theorem governing?_concat (ds : List PolicyDescriptor) (d : PolicyDescriptor) :
    governing? (ds ++ [d]) =
      match governing? ds with
      | none => some d
      | some g => some (g.later d) := by
  cases ds with
  | nil => rfl
  | cons a as => simp [governing?]

end PolicyDescriptor

namespace Policy

/-- The identifier of the candidate that governs. -/
def governing (p : Policy) (candidates : List PolicyDescriptor) :
    Except PolicyNotRegistered String :=
  if candidates.any (·.id == p.id) then
    match PolicyDescriptor.governing? candidates with
    | some d => .ok d.id
    | none => .error ⟨p.id⟩
  else .error ⟨p.id⟩

/-- Installs the options of a policy, unless the form has been read. -/
def apply (p : Policy) (r : Request) : LimitsOutcome × Request × Journal :=
  if r.formOrDefault.hasForm then (.alreadyRead, r, [p.sink.emit .cannotApplyFormLimits])
  else (.applied, r.setForm (.ofOptions p.options), [p.sink.emit .appliedFormLimits])

/-- Lets a policy act on a request among candidates. -/
def authorize (p : Policy) (candidates : List PolicyDescriptor) (r : Request) :
    Except PolicyNotRegistered LimitsOutcome × Request × Journal :=
  match p.governing candidates with
  | .error e => (.error e, r, [])
  | .ok id =>
    let (outcome, r, journal) :=
      if id == p.id then p.apply r
      else (.superseded, r, [p.sink.emit (.preemptedPolicy p.id id)])
    (.ok outcome, r, journal ++ [.measurement (.limits outcome)])

theorem authorize_not_registered {p : Policy} {candidates : List PolicyDescriptor}
    (h : candidates.any (·.id == p.id) = false) (r : Request) :
    p.authorize candidates r = (.error ⟨p.id⟩, r, []) := by
  simp [authorize, governing, h]

end Policy

/-- The policies of a request in the order in which they were registered. -/
structure Policies where
  entries : List (Policy × Scope)

namespace Policies

def empty : Policies := ⟨[]⟩

/-- Registers a policy for a scope. -/
def register (ps : Policies) (p : Policy) (scope : Scope) : Policies :=
  ⟨ps.entries ++ [(p, scope)]⟩

/-- The candidates that the policies are. -/
def descriptors (ps : Policies) : List PolicyDescriptor :=
  ps.entries.map fun e => ⟨e.1.id, e.2⟩

def size (ps : Policies) : Nat :=
  ps.entries.length

def isEmpty (ps : Policies) : Bool :=
  ps.entries.isEmpty

/-- Lets policies act one after another, until one is not among the candidates. -/
def run (candidates : List PolicyDescriptor) (r : Request) :
    List Policy → Except PolicyNotRegistered (List LimitsOutcome) × Request × Journal
  | [] => (.ok [], r, [])
  | p :: rest =>
    match p.authorize candidates r with
    | (.error e, r, journal) => (.error e, r, journal)
    | (.ok outcome, r, journal) =>
      let (outcomes, r, more) := run candidates r rest
      (outcomes.map (outcome :: ·), r, journal ++ more)

/-- Lets all policies act on a request. -/
def apply (ps : Policies) (r : Request) :
    Except PolicyNotRegistered (List LimitsOutcome) × Request × Journal :=
  run ps.descriptors r (ps.entries.map Prod.fst)

end Policies

end RequestBinding
