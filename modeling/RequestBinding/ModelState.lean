import RequestBinding.Exception
import RequestBinding.Grouped

/-!
# Model state

The errors of a model, grouped by the key of the part that they belong to. The
number of errors is capped: when only one more may be kept, the next error is
replaced by a marker under the empty key, and all later ones are dropped.

The dictionary keeps its own count of errors and a flag for the marker beside
the entries; `ModelState.log` says what all of them amount to, from the errors
that were offered alone.

Results:
1. `add_of_room`: below the cap an error is kept under its key.
2. `add_of_last`: the last free place takes the marker.
3. `add_of_full`: a full dictionary stays as it is.
-/

namespace RequestBinding

/-- An error of a model. -/
structure ModelError where
  message : String
  exception? : Option Exception := none
deriving DecidableEq

/-- The error that keeps an exception. -/
def ModelError.ofException (e : Exception) : ModelError :=
  ⟨e.message, some e⟩

/-- The error that stands for those beyond the cap. -/
def tooManyErrors : ModelError :=
  ⟨"The maximum number of allowed model errors has been reached.", none⟩

/-- The errors of a model under their keys. -/
structure ModelState where
  entries : Grouped ModelError
  errorCount : Nat
  maxErrors : Nat
  reachedMax : Bool
deriving DecidableEq

namespace ModelState

/-- The cap unless another is given. -/
def defaultMaxErrors : Nat := 200

/-- An empty dictionary; the marker always has a place. -/
def withMaxErrors (maxErrors : Nat) : ModelState :=
  ⟨.empty, 0, max maxErrors 1, false⟩

def empty : ModelState := withMaxErrors defaultMaxErrors

/-- Offers an error under a key; the answer says whether it was kept itself. -/
def add (s : ModelState) (key : String) (error : ModelError) : Bool × ModelState :=
  if s.maxErrors ≤ s.errorCount then (false, s)
  else if s.errorCount + 1 = s.maxErrors then
    (false, { s with
      entries := s.entries.push "" tooManyErrors
      errorCount := s.errorCount + 1
      reachedMax := true })
  else
    (true, { s with entries := s.entries.push key error, errorCount := s.errorCount + 1 })

/-- Offers a message under a key. -/
def addMessage (s : ModelState) (key message : String) : Bool × ModelState :=
  s.add key ⟨message, none⟩

/-- Offers an exception under a key. -/
def addException (s : ModelState) (key : String) (e : Exception) : Bool × ModelState :=
  s.add key (.ofException e)

/-- Offers an exception that is handed over; it is kept like one that is shared. -/
def addBoxedException (s : ModelState) (key : String) (e : Exception) : Bool × ModelState :=
  s.addException key e

/-- Offers errors one after another; the answer counts those that were kept. -/
def addAll (s : ModelState) (errors : List (String × ModelError)) : Nat × ModelState :=
  errors.foldl (fun (n, s) (key, e) =>
    let (kept, s) := s.add key e
    (if kept then n + 1 else n, s)) (0, s)

/-- Removes all errors. -/
def clear (s : ModelState) : ModelState :=
  { s with entries := .empty, errorCount := 0, reachedMax := false }

/-- The errors of a key, if it has an entry. -/
def get? (s : ModelState) (key : String) : Option (List ModelError) :=
  s.entries.get? key

/-- No entry holds an error. -/
def isValid (s : ModelState) : Bool :=
  s.entries.toList.all fun g => g.2.isEmpty

/-! ## The errors that a capped dictionary holds -/

/-- The errors, in order, that a dictionary with the given cap holds after
`offered` were offered to it: all but the last place for the errors themselves,
then the marker. -/
def log (maxErrors : Nat) (offered : List (String × ModelError)) : List (String × ModelError) :=
  let cap := max maxErrors 1
  offered.take (cap - 1) ++ if cap ≤ offered.length then [("", tooManyErrors)] else []

theorem add_of_room {s : ModelState} (h : s.errorCount + 1 < s.maxErrors) (key : String)
    (e : ModelError) :
    s.add key e =
      (true, { s with entries := s.entries.push key e, errorCount := s.errorCount + 1 }) := by
  simp only [add]
  rw [if_neg (by omega), if_neg (by omega)]

theorem add_of_last {s : ModelState} (h : s.errorCount + 1 = s.maxErrors) (key : String)
    (e : ModelError) :
    s.add key e = (false, { s with
      entries := s.entries.push "" tooManyErrors
      errorCount := s.errorCount + 1
      reachedMax := true }) := by
  simp only [add]
  rw [if_neg (by omega), if_pos h]

theorem add_of_full {s : ModelState} (h : s.maxErrors ≤ s.errorCount) (key : String)
    (e : ModelError) : s.add key e = (false, s) := by
  simp [add, h]

end ModelState

end RequestBinding
