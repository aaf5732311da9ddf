import RequestBinding.Document.Reading
import RequestBinding.Proofs.Document.Merge
import RequestBinding.Proofs.Numeric.Binary64

/-!
# What a document that was read can hold

Both formats keep an integer as such only if it has 64 bits, or 63 and a minus sign
(`Document.Fits`). So every integer that is read may be taken for floating point
without becoming infinite. A number in JSON is finite by itself, while TOML has words for
those that are not; so a document in JSON is what is left of it without them.

Results:
1. `Document.ofJson?_holds`: what plain values in JSON have, and lists and tables of such, all
   documents have.
2. `Document.read?_fits`: a document that was read has only integers in the range.
3. `Document.ofJson?_finite`: a document in JSON has only finite numbers.
-/

namespace RequestBinding

/-! ## Documents -/

/-- Every integer in the document lies in the range that is read. -/
inductive Document.Fits : Document → Prop
  | null : Fits .null
  | flag (b : Bool) : Fits (.flag b)
  | integer {n : Int} (hlow : -9223372036854775808 ≤ n) (hhigh : n ≤ maxUInt64) : Fits (.integer n)
  | number (x : Binary64) : Fits (.number x)
  | text (s : String) : Fits (.text s)
  | list {items : List Document} (h : ∀ d ∈ items, Fits d) : Fits (.list items)
  | table {entries : List (String × Document)} (h : ∀ e ∈ entries, Fits e.2) : Fits (.table entries)

theorem Document.Fits.natural {n : Nat} (h : n ≤ maxUInt64) : (Document.integer n).Fits :=
  .integer (by omega) (Int.ofNat_le.mpr h)

theorem Document.Fits.negative {n : Nat} (h : n ≤ 9223372036854775808) :
    (Document.integer (-(n : Int))).Fits :=
  .integer (by omega) (by simp only [maxUInt64]; omega)

/-! ## JSON -/

/-- Lists and tables have the property if their parts do, and all text has it. -/
structure Document.Closed (P : Document → Prop) : Prop where
  text : ∀ s, P (.text s)
  list : ∀ {items}, (∀ d ∈ items, P d) → P (.list items)
  table : ∀ {entries}, (∀ e ∈ entries, P e.2) → P (.table entries)

namespace JsonReader

/-- The value of a token has a property. -/
def Token.Holds (P : Document → Prop) : Token → Prop
  | .plain d => P d
  | _ => True

/-- The values of all tokens do. -/
def TokensHold (P : Document → Prop) (l : List Token) : Prop :=
  ∀ t ∈ l, t.Holds P

variable {P : Document → Prop}

theorem TokensHold.head {t : Token} {l : List Token} (h : TokensHold P (t :: l)) : t.Holds P :=
  h t List.mem_cons_self

theorem TokensHold.tail {t : Token} {l : List Token} (h : TokensHold P (t :: l)) :
    TokensHold P l :=
  fun t' ht' => h t' (List.mem_cons_of_mem t ht')

theorem mark?_holds {c : Char} {t : Token} (h : mark? c = some t) : t.Holds P := by
  rw [mark?] at h
  repeat' split at h
  all_goals cases h
  all_goals trivial

theorem token?_holds (hplain : ∀ l d, plain? l = some d → P d) {l rest : List Char} {t : Token}
    (h : token? l = some (t, rest)) : t.Holds P := by
  rw [token?.eq_def] at h
  split at h
  · cases h
  · obtain ⟨p, -, hp⟩ := Option.map_eq_some_iff.mp h
    cases hp
    trivial
  · split at h
    · next hmark =>
      cases h
      exact mark?_holds hmark
    · obtain ⟨d, hd, hpair⟩ := Option.map_eq_some_iff.mp h
      cases hpair
      exact hplain _ d hd

theorem tokens?_holds (hplain : ∀ l d, plain? l = some d → P d) {n : Nat} {l : List Char}
    {before ts : List Token} (hbefore : TokensHold P before)
    (h : tokens? before n l = some ts) : TokensHold P ts := by
  induction n generalizing l before with
  | zero =>
    cases l with
    | nil =>
      cases h
      exact fun t ht => hbefore t (List.mem_reverse.mp ht)
    | cons c rest => cases h
  | succ n ih =>
    cases l with
    | nil =>
      cases h
      exact fun t ht => hbefore t (List.mem_reverse.mp ht)
    | cons c rest =>
      rw [tokens?] at h
      split at h
      · exact ih hbefore h
      · split at h
        · next t rest' htoken =>
          refine ih ?_ h
          intro t' ht'
          rcases List.mem_cons.mp ht' with rfl | ht'
          · exact token?_holds hplain htoken
          · exact hbefore t' ht'
        · cases h

/-- What is read at the front of tokens has the property, and so does what follows. -/
theorem parsed_holds (hP : Document.Closed P) (n : Nat) :
    (∀ {l rest d}, TokensHold P l → value? n l = some (d, rest) → P d ∧ TokensHold P rest) ∧
    (∀ {l rest ds}, TokensHold P l → items? n l = some (ds, rest) →
      (∀ d ∈ ds, P d) ∧ TokensHold P rest) ∧
    (∀ {l rest es}, TokensHold P l → entries? n l = some (es, rest) →
      (∀ e ∈ es, P e.2) ∧ TokensHold P rest) := by
  induction n with
  | zero =>
    refine ⟨?_, ?_, ?_⟩
    · intro l rest d _ h
      simp [value?] at h
    · intro l rest ds _ h
      simp [items?] at h
    · intro l rest es _ h
      simp [entries?] at h
  | succ n ih =>
    obtain ⟨ihvalue, ihitems, ihentries⟩ := ih
    refine ⟨?_, ?_, ?_⟩
    · intro l rest d hl h
      unfold value? at h
      split at h
      · cases h
        exact ⟨hl.head, hl.tail⟩
      · cases h
        exact ⟨hP.text _, hl.tail⟩
      · cases h
        exact ⟨hP.list (fun d hd => absurd hd List.not_mem_nil), hl.tail.tail⟩
      · cases h
        exact ⟨hP.table (fun d hd => absurd hd List.not_mem_nil), hl.tail.tail⟩
      · next n' rest' _ hn =>
        cases hn
        obtain ⟨p, hp, hd⟩ := Option.map_eq_some_iff.mp h
        cases hd
        obtain ⟨hitems, hrest⟩ := ihitems hl.tail hp
        exact ⟨hP.list hitems, hrest⟩
      · next n' rest' _ hn =>
        cases hn
        obtain ⟨p, hp, hd⟩ := Option.map_eq_some_iff.mp h
        cases hd
        obtain ⟨hentries, hrest⟩ := ihentries hl.tail hp
        exact ⟨hP.table hentries, hrest⟩
      · cases h
    · intro l rest ds hl h
      unfold items? at h
      split at h
      · next d rest' hvalue =>
        cases h
        obtain ⟨hd, hrest⟩ := ihvalue hl hvalue
        exact ⟨fun d' hd' => List.mem_singleton.mp hd' ▸ hd, hrest.tail⟩
      · next d rest' hvalue =>
        obtain ⟨hd, hrest⟩ := ihvalue hl hvalue
        obtain ⟨p, hp, hcons⟩ := Option.map_eq_some_iff.mp h
        cases hcons
        obtain ⟨hitems, hend⟩ := ihitems hrest.tail hp
        exact ⟨List.forall_mem_cons.mpr ⟨hd, hitems⟩, hend⟩
      · cases h
    · intro l rest es hl h
      unfold entries? at h
      split at h
      · next n' key rest' hn =>
        cases hn
        split at h
        · next d rest' hvalue =>
          cases h
          obtain ⟨hd, hrest⟩ := ihvalue hl.tail.tail hvalue
          exact ⟨fun e he => List.mem_singleton.mp he ▸ hd, hrest.tail⟩
        · next d rest' hvalue =>
          obtain ⟨hd, hrest⟩ := ihvalue hl.tail.tail hvalue
          obtain ⟨p, hp, hcons⟩ := Option.map_eq_some_iff.mp h
          cases hcons
          obtain ⟨hentries, hend⟩ := ihentries hrest.tail hp
          exact ⟨List.forall_mem_cons.mpr ⟨hd, hentries⟩, hend⟩
        · cases h
      · cases h

end JsonReader

/-! ### Plain values -/

theorem JsonNumber.integer?_fits {negative : Bool} {digits : List Char} {n : Int}
    (h : integer? negative digits = some n) : (Document.integer n).Fits := by
  rw [integer?] at h
  split at h
  · split at h
    · next hn =>
      simp only [Bool.and_eq_true, decide_eq_true_eq] at hn
      cases h
      exact .negative hn.2
    · cases h
  · split at h
    · next hn =>
      cases h
      exact .natural hn
    · cases h

/-- What a plain value in JSON can be. -/
inductive JsonReader.Plain : Document → Prop
  | null : Plain .null
  | flag (b : Bool) : Plain (.flag b)
  | integer {n : Int} (h : (Document.integer n).Fits) : Plain (.integer n)
  | number {x : Binary64} (h : x.isFinite = true) : Plain (.number x)

theorem JsonNumber.read?_plain {l : List Char} {d : Document} (h : read? l = some d) :
    JsonReader.Plain d := by
  have hnumber {negative : Bool} {whole fraction : List Char} {exponent : Int}
      (hfloat : (float? negative whole fraction exponent).map Document.number = some d) :
      JsonReader.Plain d := by
    obtain ⟨x, hx, rfl⟩ := Option.map_eq_some_iff.mp hfloat
    exact .number (isFinite_of_float? hx)
  simp only [read?] at h
  split at h
  · cases h
  · split at h
    · split at h
      · exact hnumber h
      · split at h
        · next n hn =>
          cases h
          exact .integer (integer?_fits hn)
        · exact hnumber h
    · split at h
      · obtain ⟨e, -, hfloat⟩ := Option.bind_eq_some_iff.mp h
        exact hnumber hfloat
      · cases h

theorem JsonReader.plain?_plain {l : List Char} {d : Document} (h : plain? l = some d) :
    Plain d := by
  rw [plain?] at h
  split at h
  · cases h
    exact .null
  · split at h
    · cases h
      exact .flag true
    · split at h
      · cases h
        exact .flag false
      · exact JsonNumber.read?_plain h

/-! ### Whole documents -/

/-- What plain values have, and lists and tables of such, all documents in JSON have. -/
theorem Document.ofJson?_holds {P : Document → Prop} (hP : Document.Closed P)
    (hplain : ∀ d, JsonReader.Plain d → P d) {s : String} {d : Document}
    (h : ofJson? s = some d) : P d := by
  obtain ⟨ts, htokens, hdocument⟩ := Option.bind_eq_some_iff.mp h
  have hts := JsonReader.tokens?_holds (fun _ d hd => hplain d (JsonReader.plain?_plain hd))
    (fun t ht => absurd ht List.not_mem_nil) htokens
  rw [JsonReader.document?] at hdocument
  split at hdocument
  · next hvalue =>
    cases hdocument
    exact ((JsonReader.parsed_holds hP _).1 hts hvalue).1
  · cases hdocument

theorem Document.ofJson?_fits {s : String} {d : Document} (h : ofJson? s = some d) : d.Fits := by
  refine ofJson?_holds ⟨.text, .list, .table⟩ (fun d hd => ?_) h
  cases hd with
  | null => exact .null
  | flag b => exact .flag b
  | integer hn => exact hn
  | number _ => exact .number _

theorem Document.finite_closed : Closed fun d => d.finite = d where
  text _ := rfl
  list {items} h := by
    rw [finite, finiteItems_eq_map, List.map_congr_left h, List.map_id']
  table {entries} h := by
    have hsame : ∀ e ∈ entries, (e.1, e.2.finite) = e := fun e he => Prod.ext rfl (h e he)
    rw [finite, finiteEntries_eq_map, List.map_congr_left hsame, List.map_id']

/-- A document in JSON has only finite numbers. -/
theorem Document.ofJson?_finite {s : String} {d : Document} (h : ofJson? s = some d) :
    d.finite = d := by
  refine ofJson?_holds finite_closed (fun d hd => ?_) h
  cases hd with
  | number hx => rw [finite, if_pos hx]
  | _ => rfl

/-! ## TOML -/

namespace TomlReader

theorem maxInteger_le : maxInteger ≤ maxUInt64 := by
  decide

theorem based?_fits {base : Nat} {l : List Char} {d : Document} (h : based? base l = some d) :
    d.Fits := by
  simp only [based?] at h
  split at h
  · split at h
    · next hn =>
      cases h
      exact .natural (Nat.le_trans hn maxInteger_le)
    · cases h
  · cases h

theorem integer?_fits {negative : Bool} {l : List Char} {d : Document}
    (h : integer? negative l = some d) : d.Fits := by
  simp only [integer?] at h
  split at h
  · cases h
  · split at h
    · split at h
      · next hn =>
        cases h
        exact .negative hn
      · cases h
    · split at h
      · next hn =>
        cases h
        exact .natural (Nat.le_trans hn maxInteger_le)
      · cases h

theorem number?_fits {negative : Bool} {l : List Char} {d : Document}
    (h : number? negative l = some d) : d.Fits := by
  simp only [number?] at h
  split at h
  · split at h
    · cases h
      exact .number _
    · cases h
  · cases h

theorem wordValue?_fits {l : List Char} {d : Document} (h : wordValue? l = some d) : d.Fits := by
  simp only [wordValue?] at h
  split at h
  · cases h
    exact .flag true
  · split at h
    · cases h
      exact .flag false
    · split at h
      · cases h
        exact .null
      · split at h
        · exact based?_fits h
        · exact based?_fits h
        · exact based?_fits h
        · -- the rest is the same for each sign
          split at h
          all_goals
            dsimp only at h
            split at h
            · cases h
              exact .number _
            · split at h
              · cases h
                exact .number _
              · split at h
                · next hinteger =>
                  cases h
                  exact integer?_fits hinteger
                · split at h
                  · exact number?_fits h
                  · cases h

/-- Every integer in an item lies in the range. -/
inductive Item.Fits : Item → Prop
  | value {d : Document} (h : d.Fits) : Fits (.value d)
  | table {implicit dotted : Bool} {entries : List (String × Item)} (h : ∀ e ∈ entries, Fits e.2) :
      Fits (.table implicit dotted entries)

/-- Every integer in a table that is being built does. -/
def Building.Fits (t : Building) : Prop :=
  ∀ e ∈ t.entries, e.2.Fits

theorem Building.empty_fits : Building.empty.Fits :=
  fun _ he => absurd he List.not_mem_nil

theorem itemDocuments_eq_map (entries : List (String × Item)) :
    itemDocuments entries = entries.map fun e => (e.1, e.2.document) := by
  induction entries with
  | nil => rfl
  | cons e rest ih =>
    rw [itemDocuments, ih, List.map_cons]

theorem Item.document_fits {item : Item} (h : item.Fits) : item.document.Fits := by
  induction h with
  | value h => exact h
  | table _ ih =>
    rw [document, itemDocuments_eq_map]
    refine .table fun e he => ?_
    obtain ⟨e', he', rfl⟩ := List.mem_map.mp he
    exact ih e' he'

theorem putItem_fits {key : String} {item : Item} {l : List (String × Item)} (hitem : item.Fits)
    (hl : ∀ e ∈ l, e.2.Fits) : ∀ e ∈ putItem key item l, e.2.Fits := by
  induction l with
  | nil => exact List.forall_mem_singleton.mpr hitem
  | cons first rest ih =>
    obtain ⟨hfirst, hrest⟩ := List.forall_mem_cons.mp hl
    rw [putItem]
    split
    · exact List.forall_mem_cons.mpr ⟨hitem, hrest⟩
    · exact List.forall_mem_cons.mpr ⟨hfirst, ih hrest⟩

theorem fits_of_lookup {l : List (String × Item)} {key : String} {item : Item}
    (hl : ∀ e ∈ l, e.2.Fits) (h : l.lookup key = some item) : item.Fits := by
  obtain ⟨before, after, rfl, -⟩ := List.lookup_eq_some_iff.mp h
  exact hl _ (List.mem_append_right _ List.mem_cons_self)

theorem Item.Fits.entries {implicit dotted : Bool} {entries : List (String × Item)}
    (h : (Item.table implicit dotted entries).Fits) : ∀ e ∈ entries, e.2.Fits := by
  cases h with
  | table h => exact h

namespace Building

variable {t t' : Building}

/-- A change at the end of a path keeps the range if the change itself does. -/
theorem alter?_fits {dotted : Bool} {change : Building → Option Building}
    (hchange : ∀ t t', Building.Fits t → change t = some t' → t'.Fits) {path : List String}
    (ht : t.Fits) (h : alter? dotted change path t = some t') : t'.Fits := by
  induction path generalizing t t' with
  | nil => exact hchange t t' ht h
  | cons key path ih =>
    simp only [alter?] at h
    split at h
    · cases h
    · next inner hinner =>
      have hfits : inner.Fits := by
        split at hinner
        · cases hinner
          exact fun e he => absurd he List.not_mem_nil
        · next hitem =>
          split at hinner
          · cases hinner
          · cases hinner
            exact (fits_of_lookup ht hitem).entries
        · cases hinner
      obtain ⟨changed, hchanged, rfl⟩ := Option.map_eq_some_iff.mp h
      exact putItem_fits (.table (ih hfits hchanged)) ht

theorem add?_fits {key : List String} {value : Document} (hvalue : value.Fits) (ht : t.Fits)
    (h : t.add? key value = some t') : t'.Fits := by
  rw [add?] at h
  split at h
  · cases h
  · refine alter?_fits ?_ ht h
    intro s s' hs hput
    split at hput
    · cases hput
    · cases hput
      exact putItem_fits (.value hvalue) hs

end Building

/-- What is read at the front of tokens lies in the range. -/
theorem parsed_fits (n : Nat) :
    (∀ {l rest d}, value? n l = some (d, rest) → d.Fits) ∧
    (∀ {l rest ds}, items? n l = some (ds, rest) → ∀ d ∈ ds, d.Fits) ∧
    (∀ {t l rest t'}, Building.Fits t → entries? n t l = some (t', rest) → t'.Fits) := by
  induction n with
  | zero =>
    refine ⟨?_, ?_, ?_⟩
    · intro l rest d h
      simp [value?] at h
    · intro l rest ds h
      simp [items?] at h
    · intro t l rest t' _ h
      simp [entries?] at h
  | succ n ih =>
    obtain ⟨ihvalue, ihitems, ihentries⟩ := ih
    refine ⟨?_, ?_, ?_⟩
    · intro l rest d h
      unfold value? at h
      split at h
      · obtain ⟨d', hword, hd⟩ := Option.map_eq_some_iff.mp h
        cases hd
        exact wordValue?_fits hword
      · cases h
        exact .text _
      · cases h
        exact .text _
      · next n' rest' hn =>
        cases hn
        obtain ⟨p, hp, hd⟩ := Option.map_eq_some_iff.mp h
        cases hd
        exact .list (ihitems hp)
      · cases h
        exact .table fun e he => absurd he List.not_mem_nil
      · next n' rest' _ hn =>
        cases hn
        obtain ⟨p, hp, hd⟩ := Option.map_eq_some_iff.mp h
        cases hd
        exact Item.document_fits (.table (ihentries Building.empty_fits hp))
      · cases h
    · intro l rest ds h
      unfold items? at h
      split at h
      · cases h
        exact fun d hd => absurd hd List.not_mem_nil
      · split at h
        · cases h
        · next hvalue =>
          split at h
          · cases h
            exact List.forall_mem_singleton.mpr (ihvalue hvalue)
          · obtain ⟨p, hp, hcons⟩ := Option.map_eq_some_iff.mp h
            cases hcons
            exact List.forall_mem_cons.mpr ⟨ihvalue hvalue, ihitems hp⟩
          · cases h
    · intro t l rest t' ht h
      unfold entries? at h
      split at h
      · split at h
        · cases h
        · next hvalue =>
          split at h
          · cases h
          · next hadd =>
            have hfits := Building.add?_fits (ihvalue hvalue) ht hadd
            split at h
            · cases h
              exact hfits
            · exact ihentries hfits h
            · cases h
      · cases h

theorem Draft.open?_fits {d d' : Draft} {heading : List String} (hd : d.root.Fits)
    (h : d.open? heading = some d') : d'.root.Fits := by
  simp only [open?] at h
  split at h
  · cases h
  · obtain ⟨root, hroot, rfl⟩ := Option.map_eq_some_iff.mp h
    refine Building.alter?_fits ?_ hd hroot
    intro t t' ht hstart
    split at hstart
    · cases hstart
      exact putItem_fits (.table fun e he => absurd he List.not_mem_nil) ht
    · next hitem =>
      cases hstart
      exact putItem_fits (.table (fits_of_lookup ht hitem).entries) ht
    · cases hstart

theorem Draft.add?_fits {d d' : Draft} {key : List String} {value : Document}
    (hvalue : value.Fits) (hd : d.root.Fits) (h : d.add? key value = some d') : d'.root.Fits := by
  obtain ⟨root, hroot, rfl⟩ := Option.map_eq_some_iff.mp h
  exact Building.alter?_fits (fun t t' ht hadd => Building.add?_fits hvalue ht hadd) hd hroot

theorem line?_fits {d d' : Draft} {l rest : List Token} (hd : d.root.Fits)
    (h : line? d l = some (d', rest)) : d'.root.Fits := by
  unfold line? at h
  split at h
  · cases h
    exact hd
  · split at h
    · split at h
      · next hopen _ =>
        cases h
        exact Draft.open?_fits hd hopen
      · cases h
    · cases h
  · split at h
    · split at h
      · cases h
      · next hvalue =>
        split at h
        · next hadd _ =>
          cases h
          exact Draft.add?_fits ((parsed_fits _).1 hvalue) hd hadd
        · cases h
    · cases h

theorem lines?_fits {d d' : Draft} {n : Nat} {l : List Token} (hd : d.root.Fits)
    (h : lines? d n l = some d') : d'.root.Fits := by
  induction n generalizing d l with
  | zero =>
    cases l with
    | nil =>
      cases h
      exact hd
    | cons t rest => cases h
  | succ n ih =>
    cases l with
    | nil =>
      cases h
      exact hd
    | cons t rest =>
      simp only [lines?] at h
      split at h
      · next hline => exact ih (line?_fits hd hline) h
      · cases h

end TomlReader

theorem Document.ofToml?_fits {s : String} {d : Document} (h : ofToml? s = some d) : d.Fits := by
  obtain ⟨ts, -, hdocument⟩ := Option.bind_eq_some_iff.mp h
  obtain ⟨draft, hlines, rfl⟩ := Option.map_eq_some_iff.mp hdocument
  exact TomlReader.Item.document_fits
    (.table (TomlReader.lines?_fits TomlReader.Building.empty_fits hlines))

/-- A document that was read has no integer beyond the range. -/
theorem Document.read?_fits {format : DocumentFormat} {s : String} {d : Document}
    (h : read? format s = some d) : d.Fits := by
  cases format with
  | toml => exact ofToml?_fits h
  | json => exact ofJson?_fits h

end RequestBinding
