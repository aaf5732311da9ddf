import RequestBinding.Form.Reading
import RequestBinding.Proofs.Http.Body

/-!
# Forms that are refused with their body unread

The content type, the boundary and the declared length of a request are looked
at before its body. A form that is refused for one of them leaves the body alone
(`RefusedUnread`), and so does a feature that has its form already. Every other
read takes the stream of the body, and there is no third kind.

Results:
1. `parseForm_of_refusedUnread`: such a refusal is the answer on every body.
2. `exists_formReader`, `parseForm_takes`: without one the stream is taken, and goes to
   one of the two readers of forms.
3. `FormFeature.read_spares`, `FormFeature.read_takes`: the same for a feature.
-/

namespace RequestBinding

/-! ## Refusals -/

/-- Why a form is refused before its body is looked at. -/
inductive RefusedUnread (o : FormOptions) (r : Request) : FormError → Prop
  | noMediaType (hm : MediaType.read? r.contentType = none) :
      RefusedUnread o r (.unsupportedContentType r.contentType)
  | otherType {m : MediaType} (hm : MediaType.read? r.contentType = some m)
      (hurl : m.essence ≠ urlEncodedType) (hdata : m.essence ≠ formDataType) :
      RefusedUnread o r (.unsupportedContentType r.contentType)
  | declaredTooLarge {m : MediaType} {n : UInt64} (hm : MediaType.read? r.contentType = some m)
      (hurl : m.essence = urlEncodedType) (hbuffer : o.bufferBody = true)
      (hn : r.headers.contentLength? = some n) (hlarge : o.bufferBodyLengthLimit < n) :
      RefusedUnread o r (.bodyTooLarge o.bufferBodyLengthLimit)
  | noBoundary {m : MediaType} (hm : MediaType.read? r.contentType = some m)
      (hdata : m.essence = formDataType) (hnone : m.param? "boundary" = none) :
      RefusedUnread o r (.multipart .noBoundary)
  | longBoundary {m : MediaType} {boundary : String} (hm : MediaType.read? r.contentType = some m)
      (hdata : m.essence = formDataType) (hsome : m.param? "boundary" = some boundary)
      (hlong : o.multipartBoundaryLengthLimit.toNat < byteLength boundary) :
      RefusedUnread o r (.boundaryTooLong o.multipartBoundaryLengthLimit)

theorem formDataType_ne_urlEncodedType : formDataType ≠ urlEncodedType := by
  decide

section

variable {o : FormOptions} {r : Request}

theorem parseForm_of_urlEncoded {m : MediaType} (hm : MediaType.read? r.contentType = some m)
    (hurl : m.essence = urlEncodedType) (body : Body) :
    parseForm o { r with body := body } = UrlEncoded.read o r.headers.contentLength? body := by
  rw [Request.contentType] at hm
  simp only [parseForm, Request.contentType, hm, hurl, beq_self_eq_true, if_true]

theorem parseForm_of_formData {m : MediaType} (hm : MediaType.read? r.contentType = some m)
    (hdata : m.essence = formDataType) (body : Body) :
    parseForm o { r with body := body } = Multipart.read o m body := by
  rw [Request.contentType] at hm
  simp only [parseForm, Request.contentType, hm, hdata, beq_self_eq_true, if_true,
    beq_eq_false_iff_ne.2 formDataType_ne_urlEncodedType, Bool.false_eq_true, if_false]

/-- A form that is refused unread is refused with every body, which stays as it
is. -/
theorem parseForm_of_refusedUnread {e : FormError} (h : RefusedUnread o r e) (body : Body) :
    parseForm o { r with body := body } = (.error e, body) := by
  cases h with
  | noMediaType hm =>
    rw [Request.contentType] at hm
    simp only [parseForm, Request.contentType, hm]
  | otherType hm hurl hdata =>
    rw [Request.contentType] at hm
    simp only [parseForm, Request.contentType, hm, beq_eq_false_iff_ne.2 hurl,
      beq_eq_false_iff_ne.2 hdata, Bool.false_eq_true, if_false]
  | declaredTooLarge hm hurl hbuffer hn hlarge =>
    rw [parseForm_of_urlEncoded hm hurl]
    exact UrlEncoded.read_of_declaredTooLarge hbuffer hn hlarge body _
  | noBoundary hm hdata hnone =>
    rw [parseForm_of_formData hm hdata, Multipart.read, hnone]
  | longBoundary hm hdata hsome hlong =>
    rw [parseForm_of_formData hm hdata, Multipart.read, hsome]
    simp only [if_pos hlong]

theorem Multipart.read_eq_deliver {m : MediaType} {boundary : String}
    (hsome : m.param? "boundary" = some boundary)
    (hshort : ¬ o.multipartBoundaryLengthLimit.toNat < byteLength boundary) (body : Body) :
    Multipart.read o m body =
      body.deliver (Multipart.readStream o boundary) (.error (.io bodyConsumed)) := by
  simp only [Multipart.read, hsome, if_neg hshort]

/-- The two readers of forms. -/
inductive FormReader (o : FormOptions) : (BodyStream → Except FormError Form × Nat) → Prop
  | urlEncoded (declared? : Option UInt64) :
      FormReader o (UrlEncoded.reserveAndRead UrlEncoded.maxBlock o declared?)
  | multipart (boundary : String) : FormReader o (Multipart.readStream o boundary)

/-- A form that is not refused unread is left to one of the two readers. -/
theorem exists_formReader (h : ∀ e, ¬ RefusedUnread o r e) :
    ∃ reader, FormReader o reader ∧ ∀ body, parseForm o { r with body := body } =
      body.deliver reader (.error (.io bodyConsumed)) := by
  -- one case for each check in front of the body; it fails only for a reason in `h`
  cases hm : MediaType.read? r.contentType with
  | none => exact absurd (.noMediaType hm) (h _)
  | some m =>
    by_cases hurl : m.essence = urlEncodedType
    · have hdeclared : o.bufferBody = true →
          ∀ n, r.headers.contentLength? = some n → n ≤ o.bufferBodyLengthLimit :=
        fun hbuffer n hn => UInt64.not_lt.1 fun hlarge =>
          h _ (.declaredTooLarge hm hurl hbuffer hn hlarge)
      refine ⟨_, .urlEncoded r.headers.contentLength?, fun body => ?_⟩
      rw [parseForm_of_urlEncoded hm hurl, UrlEncoded.read_eq_deliver hdeclared]
    · by_cases hdata : m.essence = formDataType
      · cases hboundary : m.param? "boundary" with
        | none => exact absurd (.noBoundary hm hdata hboundary) (h _)
        | some boundary =>
          have hshort : ¬ o.multipartBoundaryLengthLimit.toNat < byteLength boundary :=
            fun hlong => h _ (.longBoundary hm hdata hboundary hlong)
          refine ⟨_, .multipart boundary, fun body => ?_⟩
          rw [parseForm_of_formData hm hdata, Multipart.read_eq_deliver hboundary hshort]
      · exact absurd (.otherType hm hurl hdata) (h _)

/-- A form that is not refused unread takes the stream of the body. -/
theorem parseForm_takes (h : ∀ e, ¬ RefusedUnread o r e) :
    Body.Takes (fun body => parseForm o { r with body := body }) (.error (.io bodyConsumed)) := by
  obtain ⟨reader, -, hread⟩ := exists_formReader h
  exact ⟨reader, hread⟩

/-- A form that was parsed is one that a reader gave for the stream. -/
theorem exists_formReader_of_ok {form : Form} (h : (parseForm o r).1 = .ok form) :
    ∃ reader, FormReader o reader ∧ (reader r.body.stream).1 = .ok form := by
  have hread : ∀ e, ¬ RefusedUnread o r e := by
    intro e he
    rw [show parseForm o r = (.error e, r.body) from parseForm_of_refusedUnread he r.body] at h
    cases h
  obtain ⟨reader, hreader, hdeliver⟩ := exists_formReader hread
  rw [show parseForm o r = _ from hdeliver r.body] at h
  exact ⟨reader, hreader, Body.ok_of_deliver h⟩

end

/-! ## Features -/

namespace FormFeature

/-- The feature gets as far as the body of a request: it has no form yet, and the
form of the request is not refused before. -/
def NeedsBody (f : FormFeature) (r : Request) : Prop :=
  f.form? = none ∧ ∀ e, ¬ RefusedUnread f.options r e

/-- What a read gives apart from the body. -/
def readOn (f : FormFeature) (r : Request) (body : Body) :
    (Except FormError Form × FormFeature × Journal) × Body :=
  let read := f.read { r with body := body }
  ((read.result, read.feature, read.journal), read.body)

/-- What a feature without a form makes of a form that was parsed. -/
def keep (f : FormFeature) (result : Except FormError Form) :
    Except FormError Form × FormFeature × Journal :=
  match result with
  | .ok form => (.ok form, { f with form? := some form }, [.record (.ofForm form)])
  | .error e => (.error e, f, [])

variable {f : FormFeature} {r : Request}

theorem readOn_of_unread (hf : f.form? = none) :
    f.readOn r = fun body => (f.keep (parseForm f.options { r with body := body }).1,
      (parseForm f.options { r with body := body }).2) := by
  funext body
  simp only [readOn, read, hf]
  rcases parseForm f.options { r with body := body } with ⟨_ | form, body'⟩
  · rfl
  · rfl

/-- A feature that does not need the body leaves it alone. -/
theorem read_spares (h : ¬ f.NeedsBody r) : Body.Spares (f.readOn r) := by
  cases hf : f.form? with
  | some form =>
    refine ⟨(.ok form, f, []), fun body => ?_⟩
    simp only [readOn, read_of_form hf]
  | none =>
    have hrefused : ∃ e, RefusedUnread f.options r e :=
      Classical.byContradiction fun hno => h ⟨hf, fun e he => hno ⟨e, he⟩⟩
    obtain ⟨e, he⟩ := hrefused
    refine ⟨(.error e, f, []), fun body => ?_⟩
    rw [readOn_of_unread hf]
    simp only [parseForm_of_refusedUnread he, keep]

/-- A feature that needs the body takes its stream, and fails if it is gone. -/
theorem read_takes (h : f.NeedsBody r) :
    Body.Takes (f.readOn r) (.error (.io bodyConsumed), f, []) := by
  rw [readOn_of_unread h.1]
  exact (parseForm_takes h.2).map f.keep

end FormFeature

/-- The form that the installed feature of a request holds. -/
def Request.heldForm? (r : Request) : Option Form :=
  r.form?.bind (·.form?)

theorem Request.hasForm_formOrDefault (r : Request) :
    r.formOrDefault.hasForm = r.heldForm?.isSome := by
  unfold formOrDefault heldForm?
  cases r.form? with
  | none => rfl
  | some f => rfl

end RequestBinding
