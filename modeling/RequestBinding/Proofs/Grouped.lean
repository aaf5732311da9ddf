import Mathlib.Data.List.Induction
import Mathlib.Data.List.Nodup
import RequestBinding.Grouped

/-!
# Grouping as a function of the list

What a grouped dictionary holds after a list of values was pushed to it can be
said of the list alone: a key stands where it occurs first, and its values are
those that the list has for it, in its order. So no key is without a value, and
no value is lost.

Results:
1. `toList_ofList`: the keys and values of a grouped list, from the list.
2. `values_ne_nil`: every key has a value.
3. `count_ofList`: there are as many values as the list has.
4. `forall_keys_ofList`, `forall_values_ofList`: what all entries of the list have,
   all keys and all values have.
-/

namespace RequestBinding

namespace Grouped

variable {α : Type}

/-! ## The groups of a list -/

/-- The values that a list has for a key, in its order. -/
def valuesAt (key : String) (l : List (String × α)) : List α :=
  l.filterMap fun p => if p.1 = key then some p.2 else none

/-- The keys of a list, each where it occurs first, with their values. -/
def groups (l : List (String × α)) : List (String × List α) :=
  (l.map Prod.fst).eraseDups.map fun key => (key, valuesAt key l)

theorem valuesAt_concat (key : String) (l : List (String × α)) (p : String × α) :
    valuesAt key (l ++ [p]) = valuesAt key l ++ if p.1 = key then [p.2] else [] := by
  simp only [valuesAt, List.filterMap_append, List.filterMap_cons, List.filterMap_nil]
  split <;> simp_all

theorem valuesAt_ne_nil {key : String} {l : List (String × α)} (h : key ∈ l.map Prod.fst) :
    valuesAt key l ≠ [] := by
  obtain ⟨p, hp, rfl⟩ := List.mem_map.1 h
  have hmem : p.2 ∈ valuesAt p.1 l := List.mem_filterMap.2 ⟨p, hp, if_pos rfl⟩
  exact List.ne_nil_of_mem hmem

theorem eraseDups_concat (l : List String) (k : String) :
    (l ++ [k]).eraseDups = if k ∈ l then l.eraseDups else l.eraseDups ++ [k] := by
  rw [List.eraseDups_append]
  by_cases h : k ∈ l
  · simp [List.removeAll, h]
  · simp [List.removeAll, h, List.eraseDups_cons]

/-! ## The dictionary of a list -/

theorem isEmpty_eq_isEmpty_toList (d : Grouped α) : d.isEmpty = d.toList.isEmpty := by
  simp [isEmpty, toList]

theorem ofList_concat (l : List (String × α)) (p : String × α) :
    ofList (l ++ [p]) = (ofList l).push p.1 p.2 := by
  simp [ofList]

theorem keys_ofList (l : List (String × α)) : (ofList l).keys = (l.map Prod.fst).eraseDups := by
  induction l using List.reverseRecOn with
  | nil => rfl
  | append_singleton l p ih =>
    rw [ofList_concat, keys_push, ih, List.map_append, List.map_singleton, eraseDups_concat]
    simp only [List.mem_eraseDups]

theorem get?_ofList (l : List (String × α)) (key : String) :
    ((ofList l).get? key).getD [] = valuesAt key l := by
  induction l using List.reverseRecOn with
  | nil => rfl
  | append_singleton l p ih =>
    rw [ofList_concat, get?_push, valuesAt_concat, ← ih]
    by_cases h : key = p.1
    · rw [if_pos h, if_pos h.symm, h, Option.getD_some]
    · rw [if_neg h, if_neg (Ne.symm h), List.append_nil]

theorem nodup_keys_push {d : Grouped α} (h : d.keys.Nodup) (key : String) (a : α) :
    (d.push key a).keys.Nodup := by
  rw [keys_push]
  split
  · exact h
  · next hkey =>
    rw [List.nodup_append]
    refine ⟨h, List.nodup_singleton key, ?_⟩
    rintro k hk _ hkey' rfl
    exact hkey (List.mem_singleton.1 hkey' ▸ hk)

theorem nodup_keys_ofList (l : List (String × α)) : (ofList l).keys.Nodup := by
  induction l using List.reverseRecOn with
  | nil => exact List.nodup_nil
  | append_singleton l p ih => exact ofList_concat l p ▸ nodup_keys_push ih p.1 p.2

/-- A list of groups under different keys is read off by looking up each key. -/
theorem eq_map_lookup {l : List (String × List α)} (h : (l.map Prod.fst).Nodup) :
    l = (l.map Prod.fst).map fun key => (key, (l.lookup key).getD []) := by
  induction l with
  | nil => rfl
  | cons g rest ih =>
    obtain ⟨hnew, hrest⟩ := List.nodup_cons.1 h
    have hfirst : g = (g.1, ((g :: rest).lookup g.1).getD []) := by
      rw [List.lookup_cons, beq_self_eq_true]
      rfl
    rw [List.map_cons, List.map_cons]
    refine List.cons_eq_cons.2 ⟨hfirst, ?_⟩
    conv => lhs; rw [ih hrest]
    refine List.map_congr_left fun key hkey => ?_
    have hne : (key == g.1) = false := by
      rw [beq_eq_false_iff_ne]
      rintro rfl
      exact hnew hkey
    rw [List.lookup_cons, hne]

/-- The keys and values of a grouped list are the groups of the list. -/
theorem toList_ofList (l : List (String × α)) : (ofList l).toList = groups l := by
  have hkeys : (ofList l).toList.map Prod.fst = (l.map Prod.fst).eraseDups := by
    rw [← keys_eq_map_toList, keys_ofList]
  have hnodup : ((ofList l).toList.map Prod.fst).Nodup := by
    rw [← keys_eq_map_toList]
    exact nodup_keys_ofList l
  -- the keys are distinct, so that a lookup finds the group of its key
  rw [eq_map_lookup hnodup, hkeys, groups]
  refine List.map_congr_left fun key _ => ?_
  rw [← get?_eq_lookup_toList, get?_ofList]

example : (ofList [("b", 1), ("a", 2), ("b", 3)]).toList = [("b", [1, 3]), ("a", [2])] := by decide

/-- Every key of a grouped list has a value. -/
theorem values_ne_nil {l : List (String × α)} {g : String × List α}
    (h : g ∈ (ofList l).toList) : g.2 ≠ [] := by
  rw [toList_ofList, groups] at h
  obtain ⟨key, hkey, rfl⟩ := List.mem_map.1 h
  exact valuesAt_ne_nil (List.mem_eraseDups.1 hkey)

theorem count_ofList (l : List (String × α)) : (ofList l).count = l.length := by
  induction l using List.reverseRecOn with
  | nil => rfl
  | append_singleton l p ih =>
    rw [ofList_concat, count_push, ih, List.length_append, List.length_singleton]

/-- All values, key by key. -/
def values (d : Grouped α) : List α :=
  d.toList.flatMap fun g => g.2

theorem mem_values_push {d : Grouped α} {key : String} {a b : α} :
    b ∈ (d.push key a).values ↔ b = a ∨ b ∈ d.values := by
  obtain ⟨piles⟩ := d
  simp only [values, toList, push]
  induction piles with
  | nil => simp [pushTo]
  | cons g rest ih =>
    by_cases hg : g.1 = key
    · simp only [pushTo, if_pos hg, List.map_cons, List.flatMap_cons, List.mem_append,
        List.mem_reverse, List.mem_cons, or_assoc]
    · simp only [pushTo, if_neg hg, List.map_cons, List.flatMap_cons, List.mem_append, ih]
      exact or_left_comm

/-- What all keys of a list have, all keys of its dictionary have. -/
theorem forall_keys_ofList {P : String → Prop} {l : List (String × α)} (h : ∀ p ∈ l, P p.1) :
    ∀ key ∈ (ofList l).keys, P key := by
  intro key hkey
  rw [keys_ofList, List.mem_eraseDups] at hkey
  obtain ⟨p, hp, rfl⟩ := List.mem_map.1 hkey
  exact h p hp

/-- What all values of a list have, all values of its dictionary have. -/
theorem forall_values_ofList {P : α → Prop} {l : List (String × α)} (h : ∀ p ∈ l, P p.2) :
    ∀ a ∈ (ofList l).values, P a := by
  induction l using List.reverseRecOn with
  | nil => exact List.forall_mem_nil _
  | append_singleton l p ih =>
    intro a ha
    rw [ofList_concat, mem_values_push] at ha
    rcases ha with rfl | ha
    · exact h p (List.mem_append_right _ (List.mem_singleton_self p))
    · exact ih (fun q hq => h q (List.mem_append_left _ hq)) a ha

theorem isEmpty_push (d : Grouped α) (key : String) (a : α) : (d.push key a).isEmpty = false := by
  obtain ⟨piles⟩ := d
  cases piles with
  | nil => rfl
  | cons g rest =>
    simp only [push, isEmpty, pushTo]
    split <;> rfl

theorem isEmpty_ofList (l : List (String × α)) : (ofList l).isEmpty = l.isEmpty := by
  induction l using List.reverseRecOn with
  | nil => rfl
  | append_singleton l p _ =>
    rw [ofList_concat, isEmpty_push]
    simp

end Grouped

end RequestBinding
