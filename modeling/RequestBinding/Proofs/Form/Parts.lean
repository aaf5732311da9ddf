import Mathlib.Algebra.GroupWithZero.Nat
import RequestBinding.Proofs.Form.Delivery
import RequestBinding.Proofs.Form.Reading
import RequestBinding.Proofs.Grouped

/-!
# The form of a delivery

Of a multipart body the reader sees the parts as they are delivered. It gives a form exactly if
the body was closed and every part is within the limits (`Delivery.Accepted`), in whatever pieces
the data came. Otherwise its error is that of the first part with which something is wrong, and
of that part the first thing in this order: the number of the part, the number of its header
fields, their length, its name, the length of its data, their encoding (`Delivery.Refused`). The
data of a file are neither limited nor decoded.

Results:
1. `foldlM_take`: data that are taken in pieces are as if they were taken at once.
2. `Reader.add_eq_ok_iff`, `Reader.add_eq_error_iff`: what one part does.
3. `foldlM_add_eq_ok_iff`, `foldlM_add_eq_error_iff`: what a row of parts does.
4. `outcome_eq_ok_iff`, `outcome_eq_error_iff`: what a delivery does.
5. `read_decided`: all deliveries, and so all bodies.
-/

namespace RequestBinding

section

variable {ε α β : Type} {x : Except ε α} {f : α → Except ε β}

theorem bind_eq_ok_iff {b : β} : (x >>= f) = .ok b ↔ ∃ a, x = .ok a ∧ f a = .ok b := by
  cases x with
  | ok a =>
    show f a = .ok b ↔ _
    simp only [Except.ok.injEq, exists_eq_left']
  | error e =>
    show Except.error e = .ok b ↔ _
    simp only [reduceCtorEq, false_and, exists_false]

theorem bind_eq_error_iff {e : ε} :
    (x >>= f) = .error e ↔ x = .error e ∨ ∃ a, x = .ok a ∧ f a = .error e := by
  cases x with
  | ok a =>
    show f a = .error e ↔ _
    simp only [reduceCtorEq, Except.ok.injEq, exists_eq_left', false_or]
  | error e' =>
    show Except.error e' = .error e ↔ _
    simp only [Except.error.injEq, reduceCtorEq, false_and, exists_false, or_false]

end

namespace Multipart

/-! ## Limits -/

/-- The head of a part is within the limits; without a name its name is empty. -/
structure PartHead.Within (o : FormOptions) (h : PartHead) : Prop where
  headersCount : h.headers.length ≤ o.multipartHeadersCountLimit.toNat
  headersLength : (h.headers.map fun f => byteLength f.1 + f.2.length).sum ≤
    o.multipartHeadersLengthLimit.toNat
  key : byteLength (h.name?.getD "") ≤ o.keyLengthLimit.toNat

/-- Nothing is wrong with the `n`-th part before its end. -/
structure Part.OpensWithin (o : FormOptions) (n : Nat) (p : Part) : Prop where
  count : n ≤ o.valueCountLimit.toNat
  head : p.head.Within o
  data : p.head.fileName? = none → p.data.length ≤ o.valueLengthLimit.toNat

/-- A part is within the limits, and if it is a field, it is text. -/
structure Part.Within (o : FormOptions) (p : Part) : Prop where
  head : p.head.Within o
  data : p.head.fileName? = none → p.data.length ≤ o.valueLengthLimit.toNat
  text : p.head.fileName? = none → ∃ value, Utf8.decode p.data = .ok value

/-- The body is closed, and its parts are within the limits. -/
structure Delivery.Accepted (o : FormOptions) (d : Delivery) : Prop where
  closed : d.ending = .closed
  count : d.parts.length ≤ o.valueCountLimit.toNat
  parts : ∀ p ∈ d.parts, p.Within o

/-- What is wrong with the head of the `n`-th part: a check fails, and those before it do not. -/
inductive PartHead.Refused (o : FormOptions) (n : Nat) (h : PartHead) : FormError → Prop
  | count (hn : o.valueCountLimit.toNat < n) : Refused o n h (.tooManyValues o.valueCountLimit)
  | headersCount (hn : n ≤ o.valueCountLimit.toNat)
      (hcount : o.multipartHeadersCountLimit.toNat < h.headers.length) :
      Refused o n h (.tooManyHeaders o.multipartHeadersCountLimit)
  | headersLength (hn : n ≤ o.valueCountLimit.toNat)
      (hcount : h.headers.length ≤ o.multipartHeadersCountLimit.toNat)
      (hlength : o.multipartHeadersLengthLimit.toNat <
        (h.headers.map fun f => byteLength f.1 + f.2.length).sum) :
      Refused o n h (.headersTooLong o.multipartHeadersLengthLimit)
  | key (hn : n ≤ o.valueCountLimit.toNat)
      (hcount : h.headers.length ≤ o.multipartHeadersCountLimit.toNat)
      (hlength : (h.headers.map fun f => byteLength f.1 + f.2.length).sum ≤
        o.multipartHeadersLengthLimit.toNat)
      (hkey : o.keyLengthLimit.toNat < byteLength (h.name?.getD "")) :
      Refused o n h (.keyTooLong o.keyLengthLimit)

/-- What is wrong with the `n`-th part before its end: its head, or a field that is too long. -/
inductive Part.OpensRefused (o : FormOptions) (n : Nat) (p : Part) : FormError → Prop
  | head {e : FormError} (h : p.head.Refused o n e) : OpensRefused o n p e
  | data (hn : n ≤ o.valueCountLimit.toNat) (hhead : p.head.Within o)
      (hfield : p.head.fileName? = none) (hdata : o.valueLengthLimit.toNat < p.data.length) :
      OpensRefused o n p (.valueTooLong o.valueLengthLimit)

/-- What is wrong with the `n`-th part: something before its end, or a field that is no text. -/
inductive Part.Refused (o : FormOptions) (n : Nat) (p : Part) : FormError → Prop
  | opens {e : FormError} (h : p.OpensRefused o n e) : Refused o n p e
  | text {e : Utf8.DecodeError} (h : p.OpensWithin o n) (hfield : p.head.fileName? = none)
      (htext : Utf8.decode p.data = .error e) : Refused o n p (.malformed e.message)

/-- The error that a failure of the body is told as: a stream that is too large is a body that is
too large. -/
inductive Reports : MultipartError → FormError → Prop
  | tooLarge (limit : UInt64) : Reports (.streamTooLarge limit) (.bodyTooLarge limit)
  | other {e : MultipartError} (h : ∀ limit, e ≠ .streamTooLarge limit) : Reports e (.multipart e)

/-- What is wrong with the end of a body after `n - 1` parts. A failure inside a part is seen
only if nothing is wrong with what came of the part. -/
inductive Ending.Refused (o : FormOptions) (n : Nat) : Ending → FormError → Prop
  | failed {m : MultipartError} {e : FormError} (h : Reports m e) : Refused o n (.failed m) e
  | opens {p : Part} {m : MultipartError} {e : FormError} (h : p.OpensRefused o n e) :
      Refused o n (.cut p m) e
  | cut {p : Part} {m : MultipartError} {e : FormError} (hp : p.OpensWithin o n)
      (h : Reports m e) : Refused o n (.cut p m) e

/-- What is wrong with a body: the first part with which something is wrong, or its end. -/
inductive Delivery.Refused (o : FormOptions) (d : Delivery) : FormError → Prop
  | part {before after : List Part} {p : Part} {e : FormError}
      (hparts : d.parts = before ++ p :: after)
      (hcount : before.length ≤ o.valueCountLimit.toNat) (hbefore : ∀ q ∈ before, q.Within o)
      (hp : p.Refused o (before.length + 1) e) : Refused o d e
  | ending {e : FormError} (hcount : d.parts.length ≤ o.valueCountLimit.toNat)
      (hparts : ∀ p ∈ d.parts, p.Within o) (h : d.ending.Refused o (d.parts.length + 1) e) :
      Refused o d e

/-! ## The form -/

namespace Part

/-- The field that a part is, if it is no file and its data are text. -/
def field? (p : Part) : Option (String × String) :=
  match p.head.fileName? with
  | some _ => none
  | none => (Utf8.decode p.data).toOption.map fun value => (p.head.name?.getD "", value)

/-- The file that a part is. -/
def file? (p : Part) : Option FormFile :=
  p.head.fileName?.map fun fileName =>
    ⟨p.head.name?.getD "", fileName, p.head.contentType?, p.data⟩

end Part

/-- The form with the fields and files of more parts. -/
def addParts (f : Form) (parts : List Part) : Form :=
  ⟨(parts.filterMap Part.field?).foldl (fun d v => d.push v.1 v.2) f.fields,
    f.files ++ parts.filterMap Part.file?⟩

/-- The form of a delivery: fields grouped by name, files in their order. -/
def Delivery.form (d : Delivery) : Form :=
  ⟨.ofList (d.parts.filterMap Part.field?), d.parts.filterMap Part.file?⟩

theorem addParts_append (f : Form) (l l' : List Part) :
    addParts f (l ++ l') = addParts (addParts f l) l' := by
  simp only [addParts, List.filterMap_append, List.foldl_append, List.append_assoc]

/-! ## The checks of a part -/

section

variable {o : FormOptions} {n : Nat} {h : PartHead} {r r' : Reader} {p : Part} {e : FormError}

theorem headersLength_eq_sum (headers : PartHeaders) :
    headersLength headers = (headers.map fun f => byteLength f.1 + f.2.length).sum := by
  rw [headersLength, List.sum_eq_foldr, List.foldr_map]

theorem checkHead_eq_ok_iff : checkHead o n h = .ok () ↔ n ≤ o.valueCountLimit.toNat ∧ h.Within o := by
  unfold checkHead
  rw [headersLength_eq_sum]
  split_ifs with hn hcount hlength hkey
  · exact ⟨nofun, fun hall => absurd hall.1 (Nat.not_le.2 hn)⟩
  · exact ⟨nofun, fun hall => absurd hall.2.headersCount (Nat.not_le.2 hcount)⟩
  · exact ⟨nofun, fun hall => absurd hall.2.headersLength (Nat.not_le.2 hlength)⟩
  · exact ⟨nofun, fun hall => absurd hall.2.key (Nat.not_le.2 hkey)⟩
  · exact ⟨fun _ => ⟨Nat.not_lt.1 hn, Nat.not_lt.1 hcount, Nat.not_lt.1 hlength,
      Nat.not_lt.1 hkey⟩, fun _ => rfl⟩

theorem checkHead_eq_error_iff : checkHead o n h = .error e ↔ h.Refused o n e := by
  constructor
  · intro herror
    unfold checkHead at herror
    rw [headersLength_eq_sum] at herror
    split_ifs at herror with hn hcount hlength hkey <;> cases herror
    · exact .count hn
    · exact .headersCount (Nat.not_lt.1 hn) hcount
    · exact .headersLength (Nat.not_lt.1 hn) (Nat.not_lt.1 hcount) hlength
    · exact .key (Nat.not_lt.1 hn) (Nat.not_lt.1 hcount) (Nat.not_lt.1 hlength) hkey
  · intro hrefused
    unfold checkHead
    rw [headersLength_eq_sum]
    cases hrefused with
    | count hn => rw [if_pos hn]
    | headersCount hn hcount => rw [if_neg (Nat.not_lt.2 hn), if_pos hcount]
    | headersLength hn hcount hlength =>
      rw [if_neg (Nat.not_lt.2 hn), if_neg (Nat.not_lt.2 hcount), if_pos hlength]
    | key hn hcount hlength hkey =>
      rw [if_neg (Nat.not_lt.2 hn), if_neg (Nat.not_lt.2 hcount), if_neg (Nat.not_lt.2 hlength),
        if_pos hkey]

/-- A piece of data is taken unless it makes a field too long. -/
theorem take_eq_ok_iff {bytes : Bytes} : r.take o bytes = .ok r' ↔
    (r.head.fileName? = none → r.data.length + bytes.length ≤ o.valueLengthLimit.toNat) ∧
      r' = { r with data := r.data ++ bytes } := by
  unfold Reader.take
  split_ifs with h
  · rw [Bool.and_eq_true, Option.isNone_iff_eq_none, decide_eq_true_eq] at h
    exact ⟨nofun, fun hall => absurd (hall.1 h.1) (Nat.not_le.2 h.2)⟩
  · have hfits (hfield : r.head.fileName? = none) :
        r.data.length + bytes.length ≤ o.valueLengthLimit.toNat := by
      simpa only [hfield, Option.isNone_none, Bool.true_and, decide_eq_true_eq, Nat.not_lt] using h
    exact ⟨fun hok => ⟨hfits, (Except.ok.inj hok).symm⟩, fun hall => congrArg _ hall.2.symm⟩

theorem take_eq_error_iff {bytes : Bytes} : r.take o bytes = .error e ↔
    r.head.fileName? = none ∧ o.valueLengthLimit.toNat < r.data.length + bytes.length ∧
      e = .valueTooLong o.valueLengthLimit := by
  unfold Reader.take
  split_ifs with h
  · rw [Bool.and_eq_true, Option.isNone_iff_eq_none, decide_eq_true_eq] at h
    exact ⟨fun herror => ⟨h.1, h.2, (Except.error.inj herror).symm⟩,
      fun hall => congrArg _ hall.2.2.symm⟩
  · rw [Bool.and_eq_true, Option.isNone_iff_eq_none, decide_eq_true_eq] at h
    exact ⟨nofun, fun hall => absurd ⟨hall.1, hall.2.1⟩ h⟩

/-- Data that are taken in pieces are as if they were taken at once. -/
theorem foldlM_take {pieces : List Bytes}
    (hr : r.head.fileName? = none → r.data.length ≤ o.valueLengthLimit.toNat) :
    pieces.foldlM (Reader.take o) r = r.take o pieces.flatten := by
  induction pieces generalizing r with
  | nil => exact (take_eq_ok_iff.2 ⟨hr, by rw [List.flatten_nil, List.append_nil]⟩).symm
  | cons b rest ih =>
    rw [List.foldlM_cons, List.flatten_cons]
    cases hb : r.take o b with
    | ok r₁ =>
      obtain ⟨hfits, rfl⟩ := take_eq_ok_iff.1 hb
      show rest.foldlM (Reader.take o) _ = _
      rw [ih fun hfield => List.length_append ▸ hfits hfield]
      unfold Reader.take
      simp only [List.length_append, List.append_assoc, Nat.add_assoc]
    | error e =>
      obtain ⟨hfield, hlarge, rfl⟩ := take_eq_error_iff.1 hb
      have hall : r.take o (b ++ rest.flatten) = .error (.valueTooLong o.valueLengthLimit) := by
        refine take_eq_error_iff.2 ⟨hfield, ?_, rfl⟩
        rw [List.length_append]
        omega
      exact hall.symm

/-- Takes a part up to its end. -/
def Reader.opened (o : FormOptions) (r : Reader) (p : Part) : Except FormError Reader :=
  r.begin o p.head >>= fun r => p.pieces.foldlM (Reader.take o) r

theorem begin_eq_ok_iff : r.begin o h = .ok r' ↔
    (r.count + 1 ≤ o.valueCountLimit.toNat ∧ h.Within o) ∧ r' = ⟨r.form, r.count + 1, h, []⟩ := by
  rw [← checkHead_eq_ok_iff]
  unfold Reader.begin
  cases checkHead o (r.count + 1) h with
  | ok u => exact ⟨fun hok => ⟨rfl, (Except.ok.inj hok).symm⟩, fun hall => congrArg _ hall.2.symm⟩
  | error e => exact ⟨nofun, fun hall => absurd hall.1 nofun⟩

theorem begin_eq_error_iff : r.begin o h = .error e ↔ h.Refused o (r.count + 1) e := by
  rw [← checkHead_eq_error_iff]
  unfold Reader.begin
  cases checkHead o (r.count + 1) h with
  | ok u => exact ⟨nofun, nofun⟩
  | error e' => exact ⟨fun h => congrArg _ (Except.error.inj h),
      fun h => congrArg _ (Except.error.inj h)⟩

theorem opened_eq_bind : r.opened o p =
    (r.begin o p.head >>= fun r => r.take o p.data) := by
  unfold Reader.opened
  cases hbegin : r.begin o p.head with
  | ok r₁ =>
    obtain ⟨-, rfl⟩ := begin_eq_ok_iff.1 hbegin
    exact foldlM_take fun _ => Nat.zero_le _
  | error e => rfl

theorem opened_eq_ok_iff : r.opened o p = .ok r' ↔
    p.OpensWithin o (r.count + 1) ∧ r' = ⟨r.form, r.count + 1, p.head, p.data⟩ := by
  rw [opened_eq_bind, bind_eq_ok_iff]
  constructor
  · rintro ⟨r₁, hbegin, htake⟩
    obtain ⟨⟨hcount, hhead⟩, rfl⟩ := begin_eq_ok_iff.1 hbegin
    obtain ⟨hdata, rfl⟩ := take_eq_ok_iff.1 htake
    exact ⟨⟨hcount, hhead, fun hfield => Nat.zero_add p.data.length ▸ hdata hfield⟩, rfl⟩
  · rintro ⟨hp, rfl⟩
    refine ⟨_, begin_eq_ok_iff.2 ⟨⟨hp.count, hp.head⟩, rfl⟩, take_eq_ok_iff.2 ⟨?_, rfl⟩⟩
    exact fun hfield => (Nat.zero_add p.data.length).symm ▸ hp.data hfield

theorem opened_eq_error_iff : r.opened o p = .error e ↔ p.OpensRefused o (r.count + 1) e := by
  rw [opened_eq_bind, bind_eq_error_iff]
  constructor
  · rintro (hbegin | ⟨r₁, hbegin, htake⟩)
    · exact .head (begin_eq_error_iff.1 hbegin)
    · obtain ⟨⟨hcount, hhead⟩, rfl⟩ := begin_eq_ok_iff.1 hbegin
      obtain ⟨hfield, hdata, rfl⟩ := take_eq_error_iff.1 htake
      exact .data hcount hhead hfield (Nat.zero_add p.data.length ▸ hdata)
  · intro hrefused
    cases hrefused with
    | head hhead => exact .inl (begin_eq_error_iff.2 hhead)
    | data hn hhead hfield hdata =>
      refine .inr ⟨_, begin_eq_ok_iff.2 ⟨⟨hn, hhead⟩, rfl⟩, take_eq_error_iff.2 ⟨hfield, ?_, rfl⟩⟩
      exact (Nat.zero_add p.data.length).symm ▸ hdata

/-- Takes a whole part. -/
def Reader.add (o : FormOptions) (r : Reader) (p : Part) : Except FormError Reader :=
  r.opened o p >>= Reader.close

/-- The reader after a part. -/
def Reader.after (r : Reader) (p : Part) : Reader :=
  ⟨addParts r.form [p], r.count + 1, p.head, p.data⟩

theorem addParts_file {f : Form} {fileName : String} (hfile : p.head.fileName? = some fileName) :
    addParts f [p] =
      f.pushFile ⟨p.head.name?.getD "", fileName, p.head.contentType?, p.data⟩ := by
  have hnone : p.field? = none := by simp only [Part.field?, hfile]
  simp only [addParts, List.filterMap_cons, List.filterMap_nil, hnone, Part.file?, hfile,
    Option.map_some, List.foldl_nil, Form.pushFile]

theorem addParts_field {f : Form} {value : String} (hfield : p.head.fileName? = none)
    (htext : Utf8.decode p.data = .ok value) :
    addParts f [p] = f.pushValue (p.head.name?.getD "") value := by
  have hsome : p.field? = some (p.head.name?.getD "", value) := by
    simp only [Part.field?, hfield, htext, Except.toOption, Option.map_some]
  simp only [addParts, List.filterMap_cons, List.filterMap_nil, hsome, Part.file?, hfield,
    Option.map_none, List.foldl_cons, List.foldl_nil, List.append_nil, Form.pushValue]

theorem close_eq_ok_iff {f : Form} : (Reader.mk f n p.head p.data).close = .ok r' ↔
    (p.head.fileName? = none → ∃ value, Utf8.decode p.data = .ok value) ∧
      r' = ⟨addParts f [p], n, p.head, p.data⟩ := by
  simp only [Reader.close]
  cases hfile : p.head.fileName? with
  | some fileName =>
    rw [addParts_file hfile]
    exact ⟨fun hok => ⟨nofun, (Except.ok.inj hok).symm⟩, fun hall => congrArg _ hall.2.symm⟩
  | none =>
    cases htext : Utf8.decode p.data with
    | ok value =>
      rw [addParts_field hfile htext]
      exact ⟨fun hok => ⟨fun _ => ⟨value, rfl⟩, (Except.ok.inj hok).symm⟩,
        fun hall => congrArg _ hall.2.symm⟩
    | error d => exact ⟨nofun, fun hall => absurd (hall.1 rfl) nofun⟩

theorem close_eq_error_iff {f : Form} : (Reader.mk f n p.head p.data).close = .error e ↔
    p.head.fileName? = none ∧ ∃ d, Utf8.decode p.data = .error d ∧ e = .malformed d.message := by
  simp only [Reader.close]
  cases hfile : p.head.fileName? with
  | some fileName => exact ⟨nofun, nofun⟩
  | none =>
    cases htext : Utf8.decode p.data with
    | ok value => exact ⟨nofun, fun hall => absurd hall.2 nofun⟩
    | error d =>
      constructor
      · intro herror
        exact ⟨rfl, d, rfl, (Except.error.inj herror).symm⟩
      · rintro ⟨-, d', hd', rfl⟩
        rw [Except.error.inj hd']

/-- A part that is within the limits is added, and no other. -/
theorem Reader.add_eq_ok_iff : r.add o p = .ok r' ↔
    (r.count + 1 ≤ o.valueCountLimit.toNat ∧ p.Within o) ∧ r' = r.after p := by
  rw [Reader.add, bind_eq_ok_iff]
  constructor
  · rintro ⟨r₁, hopened, hclose⟩
    obtain ⟨hp, rfl⟩ := opened_eq_ok_iff.1 hopened
    obtain ⟨htext, rfl⟩ := close_eq_ok_iff.1 hclose
    exact ⟨⟨hp.count, hp.head, hp.data, htext⟩, rfl⟩
  · rintro ⟨⟨hcount, hp⟩, rfl⟩
    exact ⟨_, opened_eq_ok_iff.2 ⟨⟨hcount, hp.head, hp.data⟩, rfl⟩,
      close_eq_ok_iff.2 ⟨hp.text, rfl⟩⟩

/-- A part is refused for the first thing that is wrong with it. -/
theorem Reader.add_eq_error_iff : r.add o p = .error e ↔ p.Refused o (r.count + 1) e := by
  rw [Reader.add, bind_eq_error_iff]
  constructor
  · rintro (hopened | ⟨r₁, hopened, hclose⟩)
    · exact .opens (opened_eq_error_iff.1 hopened)
    · obtain ⟨hp, rfl⟩ := opened_eq_ok_iff.1 hopened
      obtain ⟨hfield, d, htext, rfl⟩ := close_eq_error_iff.1 hclose
      exact .text hp hfield htext
  · intro hrefused
    cases hrefused with
    | opens hopens => exact .inl (opened_eq_error_iff.2 hopens)
    | text hp hfield htext =>
      exact .inr ⟨_, opened_eq_ok_iff.2 ⟨hp, rfl⟩, close_eq_error_iff.2 ⟨hfield, _, htext, rfl⟩⟩

end

/-! ## Rows of parts -/

section

variable {o : FormOptions} {r r' : Reader} {parts : List Part} {e : FormError}

theorem count_foldl_after (r : Reader) (parts : List Part) :
    (parts.foldl Reader.after r).count = r.count + parts.length := by
  induction parts generalizing r with
  | nil => rfl
  | cons p rest ih =>
    rw [List.foldl_cons, ih, List.length_cons]
    show r.count + 1 + rest.length = _
    omega

theorem form_foldl_after (r : Reader) (parts : List Part) :
    (parts.foldl Reader.after r).form = addParts r.form parts := by
  induction parts generalizing r with
  | nil => simp only [List.foldl_nil, addParts, List.filterMap_nil, List.append_nil]
  | cons p rest ih =>
    rw [List.foldl_cons, ih, Reader.after, ← addParts_append, List.singleton_append]

/-- Parts are added if all are within the limits, and they are not too many. -/
theorem foldlM_add_eq_ok_iff (hr : r.count ≤ o.valueCountLimit.toNat) :
    parts.foldlM (Reader.add o) r = .ok r' ↔
      (r.count + parts.length ≤ o.valueCountLimit.toNat ∧ ∀ p ∈ parts, p.Within o) ∧
        r' = parts.foldl Reader.after r := by
  induction parts generalizing r with
  | nil =>
    exact ⟨fun hok => ⟨⟨hr, List.forall_mem_nil _⟩, (Except.ok.inj hok).symm⟩,
      fun hall => congrArg _ hall.2.symm⟩
  | cons p rest ih =>
    have hlength : (r.after p).count + rest.length = r.count + (p :: rest).length := by
      show r.count + 1 + rest.length = r.count + (rest.length + 1)
      omega
    rw [List.foldlM_cons, bind_eq_ok_iff]
    constructor
    · rintro ⟨r₁, hadd, hrest⟩
      obtain ⟨⟨hcount, hp⟩, rfl⟩ := Reader.add_eq_ok_iff.1 hadd
      obtain ⟨⟨hcounts, hwithin⟩, rfl⟩ := (ih hcount).1 hrest
      exact ⟨⟨hlength ▸ hcounts, List.forall_mem_cons.2 ⟨hp, hwithin⟩⟩, rfl⟩
    · rintro ⟨⟨hcounts, hwithin⟩, rfl⟩
      obtain ⟨hp, hrest⟩ := List.forall_mem_cons.1 hwithin
      rw [← hlength] at hcounts
      have hcount : (r.after p).count ≤ o.valueCountLimit.toNat :=
        Nat.le_trans (Nat.le_add_right _ _) hcounts
      exact ⟨_, Reader.add_eq_ok_iff.2 ⟨⟨hcount, hp⟩, rfl⟩, (ih hcount).2 ⟨⟨hcounts, hrest⟩, rfl⟩⟩

/-- Parts are refused for the first of them that is. -/
theorem foldlM_add_eq_error_iff (hr : r.count ≤ o.valueCountLimit.toNat) :
    parts.foldlM (Reader.add o) r = .error e ↔
      ∃ before p after, parts = before ++ p :: after ∧
        r.count + before.length ≤ o.valueCountLimit.toNat ∧ (∀ q ∈ before, q.Within o) ∧
          p.Refused o (r.count + before.length + 1) e := by
  induction parts generalizing r with
  | nil => exact ⟨nofun, fun ⟨_, _, _, hparts, _⟩ => absurd hparts (by simp)⟩
  | cons p rest ih =>
    have hlength (l : List Part) :
        (r.after p).count + l.length = r.count + (p :: l).length := by
      show r.count + 1 + l.length = r.count + (l.length + 1)
      omega
    rw [List.foldlM_cons, bind_eq_error_iff]
    constructor
    · rintro (hadd | ⟨r₁, hadd, hrest⟩)
      · exact ⟨[], p, rest, rfl, hr, List.forall_mem_nil _, Reader.add_eq_error_iff.1 hadd⟩
      · obtain ⟨⟨hcount, hp⟩, rfl⟩ := Reader.add_eq_ok_iff.1 hadd
        obtain ⟨before, q, after, rfl, hcounts, hbefore, hq⟩ := (ih hcount).1 hrest
        rw [hlength] at hcounts hq
        exact ⟨p :: before, q, after, rfl, hcounts, List.forall_mem_cons.2 ⟨hp, hbefore⟩, hq⟩
    · rintro ⟨before, q, after, hparts, hcounts, hbefore, hq⟩
      cases before with
      | nil =>
        obtain ⟨rfl, rfl⟩ := List.cons.inj hparts
        exact .inl (Reader.add_eq_error_iff.2 hq)
      | cons p' before =>
        obtain ⟨rfl, rfl⟩ := List.cons.inj hparts
        obtain ⟨hp, hbefore⟩ := List.forall_mem_cons.1 hbefore
        rw [← hlength] at hcounts hq
        have hcount : (r.after p).count ≤ o.valueCountLimit.toNat :=
          Nat.le_trans (Nat.le_add_right _ _) hcounts
        exact .inr ⟨_, Reader.add_eq_ok_iff.2 ⟨⟨hcount, hp⟩, rfl⟩,
          (ih hcount).2 ⟨before, q, after, rfl, hcounts, hbefore, hq⟩⟩

end

/-! ## Deliveries -/

/-- What is read of events. -/
def outcome (o : FormOptions) (r : Reader) (events : List PartEvent) : Except FormError Form :=
  (readEvents o r (events.map (·, 0))).1

section

variable {o : FormOptions} {r : Reader} {events : List PartEvent}

theorem outcome_head {h : PartHead} :
    outcome o r (.head h :: events) = r.begin o h >>= fun r => outcome o r events := by
  simp only [outcome, List.map_cons, readEvents]
  cases r.begin o h with
  | ok r' => rfl
  | error e => rfl

theorem outcome_data {bytes : Bytes} :
    outcome o r (.data bytes :: events) = r.take o bytes >>= fun r => outcome o r events := by
  simp only [outcome, List.map_cons, readEvents]
  cases r.take o bytes with
  | ok r' => rfl
  | error e => rfl

theorem outcome_partEnd :
    outcome o r (.partEnd :: events) = r.close >>= fun r => outcome o r events := by
  simp only [outcome, List.map_cons, readEvents]
  cases r.close with
  | ok r' => rfl
  | error e => rfl

/-- What is read of events does not depend on when they are told. -/
theorem readEvents_fst (told : List (PartEvent × Nat)) :
    (readEvents o r told).1 = outcome o r (told.map Prod.fst) := by
  induction told generalizing r with
  | nil => rfl
  | cons event rest ih =>
    obtain ⟨event, pulled⟩ := event
    rw [List.map_cons]
    cases event with
    | closed => rfl
    | failed e => rfl
    | head h =>
      rw [outcome_head, readEvents]
      cases r.begin o h with
      | ok r' => exact ih
      | error e => rfl
    | data bytes =>
      rw [outcome_data, readEvents]
      cases r.take o bytes with
      | ok r' => exact ih
      | error e => rfl
    | partEnd =>
      rw [outcome_partEnd, readEvents]
      cases r.close with
      | ok r' => exact ih
      | error e => rfl

theorem outcome_pieces (pieces : List Bytes) :
    outcome o r (pieces.map .data ++ events) =
      pieces.foldlM (Reader.take o) r >>= fun r => outcome o r events := by
  induction pieces generalizing r with
  | nil => rfl
  | cons b rest ih =>
    rw [List.map_cons, List.cons_append, outcome_data, List.foldlM_cons, bind_assoc]
    exact bind_congr fun r' => ih

theorem outcome_opening (p : Part) :
    outcome o r (p.opening ++ events) = r.opened o p >>= fun r => outcome o r events := by
  rw [Part.opening, List.cons_append, outcome_head, Reader.opened, bind_assoc]
  exact bind_congr fun r' => outcome_pieces p.pieces

theorem outcome_part (p : Part) :
    outcome o r (p.events ++ events) = r.add o p >>= fun r => outcome o r events := by
  rw [Part.events, List.append_assoc, outcome_opening, Reader.add, bind_assoc]
  exact bind_congr fun r' => outcome_partEnd

theorem outcome_parts (parts : List Part) :
    outcome o r (parts.flatMap Part.events ++ events) =
      parts.foldlM (Reader.add o) r >>= fun r => outcome o r events := by
  induction parts generalizing r with
  | nil => rfl
  | cons p rest ih =>
    rw [List.flatMap_cons, List.append_assoc, outcome_part, List.foldlM_cons, bind_assoc]
    exact bind_congr fun r' => ih

theorem outcome_closed : outcome o r [.closed] = .ok r.form := rfl

theorem outcome_failed (m : MultipartError) : outcome o r [.failed m] = .error (.ofMultipart m) :=
  rfl

theorem ofMultipart_eq_iff {m : MultipartError} {e : FormError} :
    .ofMultipart m = e ↔ Reports m e := by
  constructor
  · rintro rfl
    cases m with
    | streamTooLarge limit => exact .tooLarge limit
    | _ => exact .other nofun
  · intro h
    cases h with
    | tooLarge limit => rfl
    | other hm =>
      cases m with
      | streamTooLarge limit => exact absurd rfl (hm limit)
      | _ => rfl

theorem ending_eq_ok_iff {ending : Ending} {form : Form} :
    outcome o r ending.events = .ok form ↔ ending = .closed ∧ r.form = form := by
  cases ending with
  | closed =>
    rw [Ending.events, outcome_closed, Except.ok.injEq]
    exact ⟨fun h => ⟨rfl, h⟩, fun h => h.2⟩
  | failed m => exact ⟨nofun, nofun⟩
  | cut p m =>
    rw [Ending.events, outcome_opening, bind_eq_ok_iff]
    constructor
    · rintro ⟨r', -, hfailed⟩
      cases hfailed
    · exact nofun

theorem ending_eq_error_iff {ending : Ending} {e : FormError} :
    outcome o r ending.events = .error e ↔ ending.Refused o (r.count + 1) e := by
  cases ending with
  | closed => exact ⟨nofun, nofun⟩
  | failed m =>
    rw [Ending.events, outcome_failed, Except.error.injEq, ofMultipart_eq_iff]
    exact ⟨.failed, fun | .failed h => h⟩
  | cut p m =>
    rw [Ending.events, outcome_opening, bind_eq_error_iff, opened_eq_error_iff]
    constructor
    · rintro (hopens | ⟨r', hopened, hfailed⟩)
      · exact .opens hopens
      · obtain ⟨hp, -⟩ := opened_eq_ok_iff.1 hopened
        exact .cut hp (ofMultipart_eq_iff.1 (Except.error.inj hfailed))
    · intro hrefused
      cases hrefused with
      | opens hopens => exact .inl hopens
      | cut hp hm =>
        exact .inr ⟨_, opened_eq_ok_iff.2 ⟨hp, rfl⟩, congrArg _ (ofMultipart_eq_iff.2 hm)⟩

end

section

variable {o : FormOptions} {d : Delivery}

theorem count_start : Reader.start.count = 0 := rfl

theorem count_start_le : Reader.start.count ≤ o.valueCountLimit.toNat :=
  Nat.zero_le _

/-- A delivery is accepted exactly if it is within the limits, with its form. -/
theorem outcome_eq_ok_iff {form : Form} :
    outcome o .start d.events = .ok form ↔ d.Accepted o ∧ form = d.form := by
  have hform : (d.parts.foldl Reader.after .start).form = d.form := form_foldl_after _ _
  rw [Delivery.events, outcome_parts, bind_eq_ok_iff]
  simp only [foldlM_add_eq_ok_iff count_start_le, ending_eq_ok_iff, count_start, Nat.zero_add]
  constructor
  · rintro ⟨r, ⟨⟨hcount, hwithin⟩, rfl⟩, hclosed, rfl⟩
    exact ⟨⟨hclosed, hcount, hwithin⟩, hform⟩
  · rintro ⟨⟨hclosed, hcount, hwithin⟩, rfl⟩
    exact ⟨_, ⟨⟨hcount, hwithin⟩, rfl⟩, hclosed, hform⟩

/-- A delivery is refused for the first thing that is wrong with it. -/
theorem outcome_eq_error_iff {e : FormError} :
    outcome o .start d.events = .error e ↔ d.Refused o e := by
  rw [Delivery.events, outcome_parts, bind_eq_error_iff]
  simp only [foldlM_add_eq_error_iff count_start_le, foldlM_add_eq_ok_iff count_start_le,
    ending_eq_error_iff, count_start, Nat.zero_add]
  constructor
  · rintro (⟨before, p, after, hparts, hcount, hbefore, hp⟩ |
      ⟨r, ⟨⟨hcount, hwithin⟩, rfl⟩, hending⟩)
    · exact .part hparts hcount hbefore hp
    · rw [count_foldl_after, count_start, Nat.zero_add] at hending
      exact .ending hcount hwithin hending
  · intro hrefused
    cases hrefused with
    | part hparts hcount hbefore hp => exact .inl ⟨_, _, _, hparts, hcount, hbefore, hp⟩
    | ending hcount hwithin hending =>
      refine .inr ⟨_, ⟨⟨hcount, hwithin⟩, rfl⟩, ?_⟩
      rw [count_foldl_after, count_start, Nat.zero_add]
      exact hending

end

/-- What is read of the stream of a body is what is read of its delivery. -/
theorem exists_delivery_read {o : FormOptions} {m : MediaType} {boundary : String} {body : Body}
    (hsome : m.param? "boundary" = some boundary)
    (hshort : byteLength boundary ≤ o.multipartBoundaryLengthLimit.toNat)
    (hunread : body.consumed = false) :
    ∃ d : Delivery,
      (events o.multipartBodyLengthLimit (Utf8.encode boundary) body.stream).map Prod.fst =
        d.events ∧ d.NamesLimit o.multipartBodyLengthLimit ∧
      (read o m body).1 = outcome o .start d.events := by
  obtain ⟨d, hd, hlimit⟩ :=
    exists_delivery o.multipartBodyLengthLimit (Utf8.encode boundary) body.stream
  refine ⟨d, hd, hlimit, ?_⟩
  rw [read_eq_deliver hsome (Nat.not_lt.2 hshort), Body.deliver,
    if_neg (Bool.eq_false_iff.1 hunread), ← hd, ← readEvents_fst]
  rfl

/-- **Multipart reading accepts exactly the bodies within the limits, and reports the first
violation.** However the parts of a body are delivered, in whatever pieces and at whatever time,
they give a form exactly if the body is closed and all are within the limits, and it holds the
fields grouped by their names in the order of their first values and the files in their order;
otherwise the error is that of the first thing that is wrong. Every unread body whose boundary is
not too long is delivered so, and if its stream is too large, the limit that is told is its own. -/
theorem read_decided (o : FormOptions) :
    (∀ (d : Delivery) (told : List (PartEvent × Nat)), told.map Prod.fst = d.events →
      (∀ form, (readEvents o .start told).1 = .ok form ↔ d.Accepted o ∧ form = d.form) ∧
      ∀ e, (readEvents o .start told).1 = .error e ↔ d.Refused o e) ∧
    (∀ d : Delivery,
      d.form.fields.toList = Grouped.groups (d.parts.filterMap Part.field?) ∧
      d.form.files = d.parts.filterMap Part.file?) ∧
    ∀ (m : MediaType) (boundary : String) (body : Body), m.param? "boundary" = some boundary →
      byteLength boundary ≤ o.multipartBoundaryLengthLimit.toNat → body.consumed = false →
      ∃ d : Delivery,
        (events o.multipartBodyLengthLimit (Utf8.encode boundary) body.stream).map Prod.fst =
          d.events ∧
        (∀ limit, d.ending.error? = some (.streamTooLarge limit) →
          limit = o.multipartBodyLengthLimit) ∧
        (∀ form, (read o m body).1 = .ok form ↔ d.Accepted o ∧ form = d.form) ∧
        ∀ e, (read o m body).1 = .error e ↔ d.Refused o e := by
  refine ⟨?_, fun d => ⟨Grouped.toList_ofList _, rfl⟩, ?_⟩
  · intro d told htold
    rw [readEvents_fst, htold]
    exact ⟨fun _ => outcome_eq_ok_iff, fun _ => outcome_eq_error_iff⟩
  · intro m boundary body hsome hshort hunread
    obtain ⟨d, hd, hlimit, hread⟩ := exists_delivery_read hsome hshort hunread
    rw [hread]
    exact ⟨d, hd, fun limit h => hlimit _ h limit rfl, fun _ => outcome_eq_ok_iff,
      fun _ => outcome_eq_error_iff⟩

end Multipart

end RequestBinding
