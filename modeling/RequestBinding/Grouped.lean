/-!
# Values grouped by key

A dictionary that holds a list of values for each of its keys. Keys stand in
the order of their first values, and the values of a key in the order in which
they were pushed; `toList` shows both. The values themselves are kept with the
last one first, so that a push does not walk over them.

Results:
1. `get?_push`: a push adds to the values of its key and to no others.
2. `keys_push`: it adds a key only if that key is new, and then as the last.
3. `count_push`: it adds one value.
4. `get?_eq_lookup_toList`, `keys_eq_map_toList`, `count_eq_length_toList`: keys,
   values and their number are those of the list.
-/

namespace RequestBinding

/-- Values of type `α` under textual keys. -/
structure Grouped (α : Type) where
  /-- The keys with their values, the last value of a key first. -/
  piles : List (String × List α)
deriving DecidableEq

namespace Grouped

variable {α : Type}

def empty : Grouped α := ⟨[]⟩

/-- Adds a value on top of its pile, or a new pile at the end. -/
def pushTo (key : String) (a : α) : List (String × List α) → List (String × List α)
  | [] => [(key, [a])]
  | g :: rest => if g.1 = key then (g.1, a :: g.2) :: rest else g :: pushTo key a rest

/-- Adds a value under a key. -/
def push (d : Grouped α) (key : String) (a : α) : Grouped α :=
  ⟨pushTo key a d.piles⟩

/-- The values of a list of pairs, in its order. -/
def ofList (l : List (String × α)) : Grouped α :=
  l.foldl (fun d p => d.push p.1 p.2) empty

/-- The keys with their values. -/
def toList (d : Grouped α) : List (String × List α) :=
  d.piles.map fun g => (g.1, g.2.reverse)

/-- The values of a key, if it has any. -/
def get? (d : Grouped α) (key : String) : Option (List α) :=
  (d.piles.lookup key).map List.reverse

def contains (d : Grouped α) (key : String) : Bool :=
  (d.get? key).isSome

def keys (d : Grouped α) : List String :=
  d.piles.map Prod.fst

/-- The number of keys. -/
def size (d : Grouped α) : Nat :=
  d.piles.length

def isEmpty (d : Grouped α) : Bool :=
  d.piles.isEmpty

/-- The number of values. -/
def count (d : Grouped α) : Nat :=
  (d.piles.flatMap fun g => g.2).length

/-! ## The list -/

theorem get?_eq_lookup_toList (d : Grouped α) (key : String) :
    d.get? key = d.toList.lookup key := by
  obtain ⟨piles⟩ := d
  simp only [get?, toList]
  induction piles with
  | nil => rfl
  | cons g rest ih =>
    obtain ⟨x, vs⟩ := g
    by_cases h : key = x
    · simp [h]
    · simp [List.lookup_cons, beq_eq_false_iff_ne.2 h, ih]

theorem keys_eq_map_toList (d : Grouped α) : d.keys = d.toList.map Prod.fst := by
  simp [keys, toList]

theorem count_eq_length_toList (d : Grouped α) :
    d.count = (d.toList.flatMap fun g => g.2).length := by
  obtain ⟨piles⟩ := d
  simp only [count, toList]
  induction piles with
  | nil => rfl
  | cons g rest ih =>
    simp only [List.map_cons, List.flatMap_cons, List.length_append, List.length_reverse, ih]

/-! ## A push -/

theorem get?_push (d : Grouped α) (key k : String) (a : α) :
    (d.push key a).get? k =
      if k = key then some ((d.get? key).getD [] ++ [a]) else d.get? k := by
  obtain ⟨piles⟩ := d
  simp only [get?, push]
  induction piles with
  | nil =>
    by_cases h : k = key
    · simp [pushTo, h]
    · have : (k == key) = false := by simpa using h
      simp [pushTo, List.lookup_cons, h, this]
  | cons g rest ih =>
    obtain ⟨x, vs⟩ := g
    by_cases hx : x = key
    · subst hx
      by_cases h : k = x
      · simp [pushTo, h]
      · have : (k == x) = false := by simpa using h
        simp [pushTo, List.lookup_cons, h, this]
    · have hkx : (key == x) = false := by simpa using fun h => hx h.symm
      by_cases h : k = x
      · subst h
        simp [pushTo, hx]
      · have : (k == x) = false := by simpa using h
        simp [pushTo, List.lookup_cons, hx, this, hkx, ih]

theorem map_fst_pushTo (key : String) (a : α) (l : List (String × List α)) :
    (pushTo key a l).map Prod.fst =
      if key ∈ l.map Prod.fst then l.map Prod.fst else l.map Prod.fst ++ [key] := by
  induction l with
  | nil => simp [pushTo]
  | cons g rest ih =>
    by_cases hx : g.1 = key
    · simp [pushTo, hx]
    · have hne : ¬ key = g.1 := fun h => hx h.symm
      simp only [pushTo, hx, if_false, List.map_cons, ih, List.mem_cons, hne, false_or]
      by_cases hm : key ∈ rest.map Prod.fst
      · rw [if_pos hm, if_pos hm]
      · rw [if_neg hm, if_neg hm, List.cons_append]

theorem keys_push (d : Grouped α) (key : String) (a : α) :
    (d.push key a).keys = if key ∈ d.keys then d.keys else d.keys ++ [key] :=
  map_fst_pushTo key a d.piles

theorem count_push (d : Grouped α) (key : String) (a : α) :
    (d.push key a).count = d.count + 1 := by
  obtain ⟨piles⟩ := d
  simp only [count, push]
  induction piles with
  | nil => simp [pushTo]
  | cons g rest ih =>
    by_cases hx : g.1 = key
    · simp only [pushTo, hx, if_true, List.flatMap_cons, List.length_append,
        List.length_cons]
      omega
    · simp only [pushTo, hx, if_false, List.flatMap_cons, List.length_append, ih]
      omega

end Grouped

end RequestBinding
