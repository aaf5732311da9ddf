import Mathlib.Data.List.Basic
import RequestBinding.Document.Basic

/-!
# Looking into documents

A record is written in a document field by field: a table has a field under its
name, a list at its place. What a document laid over another one has for a field
is merged from both, unless one of them is no table; then there is nothing to
merge, and what lies above replaces what lies below.

Results:
1. `lookup_put`, `lookup_mergeEntries`: the entries of a merged table, key by key.
2. `merge_of_not_table`: over anything but a table a document stands as it is.
3. `HasKeys.merge`, `HasKeys.merge_shaped`: what is laid over a table of all keys adds none.
4. `field?_finite`, `field?_merge`: the fields of a document without infinite
   numbers, and of merged tables.
-/

namespace RequestBinding

namespace Document

/-! ## Entries -/

theorem lookup_put (key k : String) (value : Document) (l : List (String × Document)) :
    (put key value l).lookup k = if k = key then some value else l.lookup k := by
  induction l with
  | nil =>
    rw [put, List.lookup_cons]
    by_cases hk : k = key
    · rw [if_pos hk, beq_iff_eq.2 hk]
    · rw [if_neg hk, beq_eq_false_iff_ne.2 hk]
  | cons e rest ih =>
    obtain ⟨key', value'⟩ := e
    rw [put]
    by_cases hkey : key' = key
    · rw [if_pos hkey, List.lookup_cons, List.lookup_cons, hkey]
      by_cases hk : k = key
      · rw [if_pos hk, beq_iff_eq.2 hk]
      · rw [if_neg hk, beq_eq_false_iff_ne.2 hk]
    · rw [if_neg hkey, List.lookup_cons, List.lookup_cons, ih]
      by_cases hk : k = key'
      · rw [beq_iff_eq.2 hk]
        exact (if_neg fun h => hkey (hk.symm.trans h)).symm
      · rw [beq_eq_false_iff_ne.2 hk]

/-- Over anything but a table a document stands as it is. -/
theorem merge_of_not_table {below : Document} (h : below.isTable = false) (d : Document) :
    merge below d = d := by
  cases d with
  | table above =>
    cases below with
    | table entries => cases h
    | _ => rw [merge.eq_def]
  | _ => exact merge_not_table rfl below

/-- A key of the table above is merged with what lies below it; any other is kept. -/
theorem lookup_mergeEntries {above : List (String × Document)} (h : (above.map Prod.fst).Nodup)
    (below : List (String × Document)) (k : String) :
    (mergeEntries below above).lookup k =
      match above.lookup k with
      | some value => some (merge ((below.lookup k).getD null) value)
      | none => below.lookup k := by
  induction above generalizing below with
  | nil => rw [mergeEntries_nil, List.lookup_nil]
  | cons e rest ih =>
    obtain ⟨key, value⟩ := e
    rw [List.map_cons, List.nodup_cons] at h
    obtain ⟨hnew, hrest⟩ := h
    rw [mergeEntries, ih hrest, lookup_put, List.lookup_cons]
    by_cases hk : k = key
    · -- the keys are distinct, so that this one does not come again
      have hlast : rest.lookup k = none := by
        rw [List.lookup_eq_none_iff]
        intro p hp
        rw [bne_iff_ne, hk]
        rintro rfl
        exact hnew (List.mem_map.2 ⟨p, hp, rfl⟩)
      rw [hlast, beq_iff_eq.2 hk, hk]
      exact if_pos rfl
    · rw [beq_eq_false_iff_ne.2 hk, if_neg hk]

theorem lookup_finiteEntries (l : List (String × Document)) (k : String) :
    (finiteEntries l).lookup k = (l.lookup k).map finite := by
  induction l with
  | nil => rfl
  | cons e rest ih =>
    obtain ⟨key, value⟩ := e
    rw [finiteEntries, List.lookup_cons, List.lookup_cons, ih]
    cases k == key with
    | true => rfl
    | false => rfl

theorem finiteItems_eq_map (l : List Document) : finiteItems l = l.map finite := by
  induction l with
  | nil => rfl
  | cons d rest ih => rw [finiteItems, ih, List.map_cons]

theorem finiteEntries_eq_map (l : List (String × Document)) :
    finiteEntries l = l.map fun e => (e.1, e.2.finite) := by
  induction l with
  | nil => rfl
  | cons e rest ih =>
    obtain ⟨key, d⟩ := e
    rw [finiteEntries, ih, List.map_cons]

/-! ## Keys -/

theorem keys_put {key : String} {l : List (String × Document)} (h : key ∈ l.map Prod.fst)
    (value : Document) : (put key value l).map Prod.fst = l.map Prod.fst := by
  induction l with
  | nil => cases h
  | cons e rest ih =>
    rw [put]
    by_cases hkey : e.1 = key
    · rw [if_pos hkey, List.map_cons, List.map_cons, hkey]
    · rw [if_neg hkey, List.map_cons, List.map_cons]
      rcases List.mem_cons.mp h with hfirst | hrest
      · exact absurd hfirst.symm hkey
      · rw [ih hrest]

/-- A table that only has keys of the one below it adds none. -/
theorem keys_mergeEntries {below above : List (String × Document)}
    (h : ∀ k ∈ above.map Prod.fst, k ∈ below.map Prod.fst) :
    (mergeEntries below above).map Prod.fst = below.map Prod.fst := by
  induction above generalizing below with
  | nil => rw [mergeEntries_nil]
  | cons e rest ih =>
    obtain ⟨key, value⟩ := e
    have hput := keys_put (h key List.mem_cons_self) (merge ((below.lookup key).getD null) value)
    have hrest : ∀ k ∈ rest.map Prod.fst, k ∈ below.map Prod.fst :=
      fun k hk => h k (List.mem_cons_of_mem key hk)
    rw [← hput] at hrest
    rw [mergeEntries, ih hrest, hput]

theorem keys_finiteEntries (l : List (String × Document)) :
    (finiteEntries l).map Prod.fst = l.map Prod.fst := by
  rw [finiteEntries_eq_map, List.map_map]
  rfl

theorem lookup_of_mem {κ : Type} [DecidableEq κ] {l : List (κ × Document)}
    (h : (l.map Prod.fst).Nodup) {e : κ × Document} (he : e ∈ l) : l.lookup e.1 = some e.2 := by
  induction l with
  | nil => cases he
  | cons first rest ih =>
    obtain ⟨key, d⟩ := first
    rw [List.map_cons, List.nodup_cons] at h
    rw [List.lookup_cons]
    rcases List.mem_cons.mp he with rfl | hrest
    · rw [beq_self_eq_true]
    · have hkey : e.1 ∈ rest.map Prod.fst := List.mem_map_of_mem hrest
      have hne : e.1 ≠ key := fun heq => h.1 (heq ▸ hkey)
      rw [beq_eq_false_iff_ne.mpr hne]
      exact ih h.2 hrest

/-- The document is a table of these keys, in this order. -/
def HasKeys (d : Document) (keys : List String) : Prop :=
  ∃ entries, d = table entries ∧ entries.map Prod.fst = keys

theorem HasKeys.merge {below : Document} {keys : List String} (h : below.HasKeys keys)
    {above : List (String × Document)} (habove : ∀ k ∈ above.map Prod.fst, k ∈ keys) :
    (Document.merge below (table above)).HasKeys keys := by
  obtain ⟨entries, rfl, rfl⟩ := h
  exact ⟨_, by rw [Document.merge], keys_mergeEntries habove⟩

/-- The document has the shape of a record of these keys: it is a table that names each of them at
most once and no other, or a list of no more values than there are keys. -/
inductive Shaped (keys : List String) : Document → Prop
  | table {entries : List (String × Document)} (hnodup : (entries.map Prod.fst).Nodup)
      (hkeys : ∀ k ∈ entries.map Prod.fst, k ∈ keys) : Shaped keys (.table entries)
  | list {items : List Document} (h : items.length ≤ keys.length) : Shaped keys (.list items)

theorem Shaped.finite {d : Document} {keys : List String} (h : d.Shaped keys) :
    d.finite.Shaped keys := by
  cases h with
  | table hnodup hkeys =>
    rw [Document.finite]
    rw [← keys_finiteEntries] at hnodup hkeys
    exact .table hnodup hkeys
  | list h =>
    rw [Document.finite, finiteItems_eq_map]
    exact .list (by rwa [List.length_map])

/-- What is laid over a table of all keys leaves a record of them. -/
theorem HasKeys.merge_shaped {below above : Document} {keys : List String} (hkeys : keys.Nodup)
    (h : below.HasKeys keys) (habove : above.Shaped keys) :
    (Document.merge below above).Shaped keys := by
  cases habove with
  | table _ hnames =>
    obtain ⟨entries, hmerged, hentries⟩ := h.merge hnames
    rw [hmerged]
    exact .table (hentries ▸ hkeys) fun k hk => hentries ▸ hk
  | list h =>
    rw [merge_not_table rfl]
    exact .list h

/-! ## Fields -/

variable {φ : Type} [DecidableEq φ]

/-- What a document has for a field: a table under its name, a list at its place. -/
def field? (fields : List φ) (name : φ → String) (f : φ) : Document → Option Document
  | table entries => entries.lookup (name f)
  | list items => (fields.zip items).lookup f
  | _ => none

variable {fields : List φ} {name : φ → String} {f : φ}

/-- A table of all fields has each of them. -/
theorem field?_table_map {write : φ → Document} (hname : ∀ g ∈ fields, name g = name f → g = f)
    (hf : f ∈ fields) :
    (table (fields.map fun g => (name g, write g))).field? fields name f = some (write f) := by
  rw [field?]
  induction fields with
  | nil => cases hf
  | cons g rest ih =>
    rw [List.map_cons, List.lookup_cons]
    by_cases hg : name f = name g
    · rw [beq_iff_eq.2 hg, hname g List.mem_cons_self hg.symm]
    · rw [beq_eq_false_iff_ne.2 hg]
      refine ih (fun g' hg' => hname g' (List.mem_cons_of_mem g hg')) ?_
      rcases List.mem_cons.1 hf with rfl | hrest
      · exact absurd rfl hg
      · exact hrest

theorem lookup_zip_map (g : Document → Document) (items : List Document) :
    (fields.zip (items.map g)).lookup f = ((fields.zip items).lookup f).map g := by
  induction fields generalizing items with
  | nil => rfl
  | cons f' rest ih =>
    cases items with
    | nil => rfl
    | cons d items =>
      rw [List.map_cons, List.zip_cons_cons, List.zip_cons_cons, List.lookup_cons,
        List.lookup_cons, ih]
      cases f == f' with
      | true => rfl
      | false => rfl

theorem field?_finite (d : Document) :
    d.finite.field? fields name f = (d.field? fields name f).map finite := by
  cases d with
  | table entries => exact lookup_finiteEntries entries (name f)
  | list items =>
    rw [finite, finiteItems_eq_map]
    exact lookup_zip_map finite items
  | number x =>
    rw [finite]
    split <;> rfl
  | _ => rfl

/-- A field of merged tables is that of the table above, merged with the one below. -/
theorem field?_merge {above : List (String × Document)} (h : (above.map Prod.fst).Nodup)
    (below : List (String × Document)) :
    (merge (table below) (table above)).field? fields name f =
      match (table above).field? fields name f with
      | some value => some (merge (((table below).field? fields name f).getD null) value)
      | none => (table below).field? fields name f := by
  rw [merge]
  exact lookup_mergeEntries h below (name f)

end Document

end RequestBinding
