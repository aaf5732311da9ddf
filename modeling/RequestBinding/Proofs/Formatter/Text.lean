import RequestBinding.Formatter.Text
import RequestBinding.Proofs.Http.Body

/-!
# What a text formatter makes of a request

A text formatter asks its questions in a fixed order, and the first that is answered badly, or
by an empty input, settles the read. Only if all are answered well is a text handed to the
reader. `Decides` says this as a relation, with one case for each outcome that holds exactly if
the questions before it have not settled the read; it looks at the body only through the bytes
that its stream comes to, or the failure that comes first (`BodyStream.Ends`). The reader does
not occur in it. What it may do beside giving an answer is left open: `readWith` runs it in any
monad, and the reading of the formatter is the case where it does nothing.

Results:
1. `BodyStream.ends_iff`: what a stream comes to is what is gathered from it.
2. `selectEncoding_eq_ok_iff`, `selectEncoding_eq_error_iff`: the encoding.
3. `exists_decides`, `Decides.readWith_eq`: one of the outcomes holds, and the read is its run.
4. `Decides.unique`: no other holds.
5. `read_precedence`: the outcome of every request with an unread body.
-/

namespace RequestBinding

/-! ## Streams -/

/-- What a stream comes to: the bytes of its chunks, or its first failure. -/
inductive BodyStream.Ends (stream : BodyStream) : Except IoError Bytes → Prop
  | complete {chunks : List Bytes} (h : stream.items = chunks.map .chunk) :
      Ends stream (.ok chunks.flatten)
  | failed {chunks : List Bytes} {e : IoError} {rest : List BodyItem}
      (h : stream.items = chunks.map .chunk ++ .failure e :: rest) : Ends stream (.error e)

theorem fst_feedItems_failure (acc : Bytes) (pulled : Nat) (chunks : List Bytes) (e : IoError)
    (rest : List BodyItem) :
    (feedItems (fun acc b => Except.ok (acc ++ b)) id acc pulled
      (chunks.map .chunk ++ .failure e :: rest)).1 = .error e := by
  induction chunks generalizing acc pulled with
  | nil => rfl
  | cons b chunks ih => exact ih (acc ++ b) (pulled + 1)

/-- What a stream comes to is what is gathered from it. -/
theorem BodyStream.ends_iff {stream : BodyStream} {r : Except IoError Bytes} :
    stream.Ends r ↔ (gather stream).1 = r := by
  constructor
  · intro h
    cases h with
    | @complete chunks h =>
      rw [gather, h, feedItems_gather]
      rfl
    | failed h => rw [gather, h, fst_feedItems_failure]
  · rintro rfl
    cases hgather : gather stream with
    | mk r pulled =>
      rw [gather] at hgather
      cases r with
      | ok bs =>
        obtain ⟨chunks, hitems, -, -⟩ := feedItems_eq_ok hgather
        rw [hitems, feedItems_gather] at hgather
        obtain rfl : chunks.flatten = bs := Except.ok.inj (congrArg Prod.fst hgather)
        exact .complete hitems
      | error e =>
        obtain ⟨chunks, item, rest, s, hitems, -, -, hstop⟩ := feedItems_eq_error hgather
        -- no chunk is refused, so the read stopped at a failure
        cases hstop with
        | failure error => exact .failed hitems
        | refused hrefused => cases hrefused

theorem Body.readToEnd_of_unread {body : Body} (h : body.consumed = false) :
    body.readToEnd = ((gather body.stream).1,
      { body with consumed := true, pulled := (gather body.stream).2 }) := by
  simp only [readToEnd, deliver, h, Bool.false_eq_true, if_false]

namespace TextFormatter

/-! ## Encodings -/

/-- The encoding by which a body is read: the first that is supported if no charset is declared,
and otherwise the declared one, if it is supported. -/
inductive Selects (f : TextFormatter) (c : FormatterContext) (encoding : Encoding) : Prop
  | first {rest : List Encoding} (h : f.encodings = encoding :: rest)
      (hnone : c.charset? = none)
  | declared {charset : String} (h : c.charset? = some charset)
      (hlabel : Encoding.ofLabel? charset = some encoding) (hmem : encoding ∈ f.encodings)

/-- A charset is declared, with the content type, and no supported encoding is of that name. -/
structure Unsupported (f : TextFormatter) (c : FormatterContext) (contentType : String) :
    Prop where
  encodings : f.encodings ≠ []
  contentType : c.contentType? = some contentType
  charset : ∃ charset, c.charset? = some charset ∧
    ∀ encoding ∈ f.encodings, Encoding.ofLabel? charset ≠ some encoding

/-- The error of a content type whose charset is not read. -/
def unsupportedError (contentType : String) : FormatError :=
  ⟨"Unsupported content type '" ++ contentType ++ "'.", some (.unsupportedContentType contentType)⟩

variable {f : TextFormatter} {c : FormatterContext}

/-- A charset stands in a content type. -/
theorem exists_contentType_of_charset {charset : String} (h : c.charset? = some charset) :
    ∃ contentType, c.contentType? = some contentType := by
  obtain ⟨m, hm, -⟩ := Option.bind_eq_some_iff.1 h
  obtain ⟨contentType, hcontentType, -⟩ := Option.bind_eq_some_iff.1 hm
  exact ⟨contentType, hcontentType⟩

theorem selectEncoding_eq_ok_iff {encoding : Encoding} :
    f.selectEncoding c = .ok encoding ↔ f.Selects c encoding := by
  constructor
  · intro h
    unfold selectEncoding at h
    split at h
    · cases h
    · next first rest hencodings =>
      split at h
      · next hnone =>
        cases h
        exact .first hencodings hnone
      · next charset hcharset =>
        split at h
        · next e hlabel =>
          split at h
          · next hmem =>
            cases h
            exact .declared hcharset hlabel hmem
          · cases h
        · cases h
  · intro h
    cases h with
    | first h hnone => simp only [selectEncoding, h, hnone]
    | declared h hlabel hmem =>
      obtain ⟨first, rest, hencodings⟩ := List.exists_cons_of_ne_nil (List.ne_nil_of_mem hmem)
      rw [hencodings] at hmem
      simp only [selectEncoding, hencodings, h, hlabel, if_pos hmem]

theorem selectEncoding_eq_error_iff {e : ReadError} :
    f.selectEncoding c = .error e ↔
      (f.encodings = [] ∧ e = .other (noEncodingMessage f.name)) ∨
        ∃ contentType, f.Unsupported c contentType ∧
          e = .format (unsupportedError contentType) := by
  constructor
  · intro h
    unfold selectEncoding at h
    split at h
    · next hnone =>
      cases h
      exact .inl ⟨hnone, rfl⟩
    · next first rest hencodings =>
      have hne : f.encodings ≠ [] := by
        rw [hencodings]
        exact List.cons_ne_nil first rest
      split at h
      · cases h
      · next charset hcharset =>
        obtain ⟨contentType, hcontentType⟩ := exists_contentType_of_charset hcharset
        rw [hcontentType] at h
        refine .inr ⟨contentType, ?_⟩
        split at h
        · next e' hlabel =>
          split at h
          · cases h
          · next hmem =>
            cases h
            refine ⟨⟨hne, hcontentType, charset, hcharset, ?_⟩, rfl⟩
            rintro encoding hencoding hlabel'
            cases hlabel.symm.trans hlabel'
            exact hmem hencoding
        · next hlabel =>
          cases h
          refine ⟨⟨hne, hcontentType, charset, hcharset, ?_⟩, rfl⟩
          intro encoding _ hlabel'
          cases hlabel.symm.trans hlabel'
  · rintro (⟨hnone, rfl⟩ | ⟨contentType, hcharset, rfl⟩)
    · simp only [selectEncoding, hnone]
    · obtain ⟨charset, hdeclared, hnot⟩ := hcharset.charset
      obtain ⟨first, rest, hencodings⟩ := List.exists_cons_of_ne_nil hcharset.encodings
      simp only [selectEncoding, hencodings, hdeclared, hcharset.contentType, Option.getD_some]
      cases hlabel : Encoding.ofLabel? charset with
      | none => rfl
      | some encoding =>
        have hmem : encoding ∉ first :: rest := by
          intro hmem
          rw [← hencodings] at hmem
          exact hnot encoding hmem hlabel
        simp only [if_neg hmem]
        rfl

/-- The encoding does not depend on the body. -/
theorem selectEncoding_withBody (f : TextFormatter) (c : FormatterContext) (body : Body) :
    f.selectEncoding (c.withBody body) = f.selectEncoding c := by
  simp only [selectEncoding, FormatterContext.charset?_withBody,
    FormatterContext.contentType?_withBody]

theorem Selects.withBody {encoding : Encoding} (h : f.Selects c encoding) (body : Body) :
    f.Selects (c.withBody body) encoding := by
  rw [← selectEncoding_eq_ok_iff] at h ⊢
  rw [selectEncoding_withBody, h]

/-! ## Outcomes -/

/-- What becomes of a request: an answer that has nothing to do with the reader, or a text for
the reader. -/
inductive Verdict where
  | answer (result : Except ReadError ReadResult)
  | hand (text : String)

/-- What becomes of a request, in the order of the questions. -/
inductive Decides (f : TextFormatter) (c : FormatterContext) : Verdict → Prop
  | declaredEmpty (hlength : c.request.headers.contentLength? = some 0) :
      Decides f c (.answer (.ok (.ofEmpty c)))
  | failed {e : IoError} (hlength : c.request.headers.contentLength? ≠ some 0)
      (hstream : c.request.body.stream.Ends (.error e)) : Decides f c (.answer (.error (.io e)))
  | empty (hlength : c.request.headers.contentLength? ≠ some 0)
      (hstream : c.request.body.stream.Ends (.ok [])) : Decides f c (.answer (.ok (.ofEmpty c)))
  | noEncoding {bs : Bytes} (hlength : c.request.headers.contentLength? ≠ some 0)
      (hstream : c.request.body.stream.Ends (.ok bs)) (hbs : bs ≠ []) (hnone : f.encodings = []) :
      Decides f c (.answer (.error (.other (noEncodingMessage f.name))))
  | unsupported {bs : Bytes} {contentType : String}
      (hlength : c.request.headers.contentLength? ≠ some 0)
      (hstream : c.request.body.stream.Ends (.ok bs)) (hbs : bs ≠ [])
      (hcharset : f.Unsupported c contentType) :
      Decides f c (.answer (.error (.format (unsupportedError contentType))))
  | undecodable {bs : Bytes} {encoding : Encoding} {e : DecodeFailure}
      (hlength : c.request.headers.contentLength? ≠ some 0)
      (hstream : c.request.body.stream.Ends (.ok bs)) (hbs : bs ≠ [])
      (hencoding : f.Selects c encoding) (hdecode : encoding.decode bs = .error e) :
      Decides f c (.answer (.error (.format (.ofDecodeFailure e))))
  | text {bs : Bytes} {encoding : Encoding} {text : String}
      (hlength : c.request.headers.contentLength? ≠ some 0)
      (hstream : c.request.body.stream.Ends (.ok bs)) (hbs : bs ≠ [])
      (hencoding : f.Selects c encoding) (hdecode : encoding.decode bs = .ok text) :
      Decides f c (.hand text)

namespace Verdict

/-- The answer, if the reader only answers. -/
def result (reader : TextReader) : Verdict → Except ReadError ReadResult
  | answer r => r
  | hand text => reader text

/-- What is done with a reader: nothing, or one call of it with the text, in a context whose body
is the one that is left; its answer is the answer. -/
def run {m : Type → Type} [Monad m]
    (reader : FormatterContext → String → m (Except ReadError ReadResult)) (c : FormatterContext)
    (left : Body) : Verdict → m (Except ReadError ReadResult × Body)
  | answer r => pure (r, left)
  | hand text => do
    let result ← reader (c.withBody left) text
    pure (result, left)

end Verdict

/-- The body that a read leaves. -/
def bodyAfter (c : FormatterContext) : Body :=
  if c.request.headers.contentLength? = some 0 then c.request.body else c.request.body.readToEnd.2

section

variable {m : Type → Type} [Monad m]
  {reader : FormatterContext → String → m (Except ReadError ReadResult)}

theorem readBytesWith_nil : f.readBytesWith reader c [] = pure (.ok (.ofEmpty c)) := rfl

/-- Bytes for which there is no encoding are not decoded. -/
theorem readBytesWith_of_error {bs : Bytes} {e : ReadError} (hbs : bs ≠ [])
    (hencoding : f.selectEncoding c = .error e) (body : Body) :
    f.readBytesWith reader (c.withBody body) bs = pure (.error e) := by
  unfold readBytesWith
  rw [if_neg (mt List.isEmpty_iff.1 hbs), selectEncoding_withBody, hencoding]

/-- Bytes for which there is one are decoded by it. -/
theorem readBytesWith_of_selects {bs : Bytes} {encoding : Encoding} (hbs : bs ≠ [])
    (hencoding : f.Selects c encoding) (body : Body) :
    f.readBytesWith reader (c.withBody body) bs =
      match encoding.decode bs with
      | .error e => pure (.error (.format (.ofDecodeFailure e)))
      | .ok text => reader (c.withBody body) text := by
  have hselected := selectEncoding_eq_ok_iff.2 hencoding
  unfold readBytesWith
  rw [if_neg (mt List.isEmpty_iff.1 hbs), selectEncoding_withBody]
  cases hchosen : f.selectEncoding c with
  | error e => cases hselected.symm.trans hchosen
  | ok chosen =>
    cases hselected.symm.trans hchosen
    rfl

/-- A read that gets as far as the body, and finds bytes. -/
theorem readWith_of_bytes {bs : Bytes} (hunread : c.request.body.consumed = false)
    (hlength : c.request.headers.contentLength? ≠ some 0)
    (hstream : c.request.body.stream.Ends (.ok bs)) :
    f.readWith reader c =
      f.readBytesWith reader (c.withBody (bodyAfter c)) bs >>= fun result =>
        pure (result, bodyAfter c) := by
  unfold readWith bodyAfter
  rw [if_neg hlength, if_neg hlength, Body.readToEnd_of_unread hunread,
    BodyStream.ends_iff.1 hstream]

/-- The read of a request is the run of what becomes of it. -/
theorem Decides.readWith_eq [LawfulMonad m] {v : Verdict} (h : f.Decides c v)
    (hunread : c.request.body.consumed = false) :
    f.readWith reader c = v.run reader c (bodyAfter c) := by
  cases h with
  | declaredEmpty hlength =>
    unfold readWith bodyAfter
    rw [if_pos hlength, if_pos hlength]
    rfl
  | failed hlength hstream =>
    unfold readWith bodyAfter
    rw [if_neg hlength, if_neg hlength, Body.readToEnd_of_unread hunread,
      BodyStream.ends_iff.1 hstream]
    rfl
  | empty hlength hstream =>
    rw [readWith_of_bytes hunread hlength hstream, readBytesWith_nil, pure_bind]
    rfl
  | noEncoding hlength hstream hbs hnone =>
    have hselect := (selectEncoding_eq_error_iff (c := c)).2 (.inl ⟨hnone, rfl⟩)
    rw [readWith_of_bytes hunread hlength hstream, readBytesWith_of_error hbs hselect, pure_bind]
    rfl
  | unsupported hlength hstream hbs hcharset =>
    have hselect := selectEncoding_eq_error_iff.2 (.inr ⟨_, hcharset, rfl⟩)
    rw [readWith_of_bytes hunread hlength hstream, readBytesWith_of_error hbs hselect, pure_bind]
    rfl
  | undecodable hlength hstream hbs hencoding hdecode =>
    rw [readWith_of_bytes hunread hlength hstream, readBytesWith_of_selects hbs hencoding, hdecode,
      pure_bind]
    rfl
  | text hlength hstream hbs hencoding hdecode =>
    rw [readWith_of_bytes hunread hlength hstream, readBytesWith_of_selects hbs hencoding, hdecode]
    rfl

end

/-- A reader that gives its text away: what is done with it shows what became of the request. -/
def probe (_ : FormatterContext) (text : String) :
    Except String (Except ReadError ReadResult) :=
  .error text

theorem Verdict.run_probe_injective (c : FormatterContext) (body : Body) {v v' : Verdict}
    (h : v.run probe c body = v'.run probe c body) : v = v' := by
  cases v with
  | answer r =>
    cases v' with
    | answer r' => exact congrArg _ (congrArg Prod.fst (Except.ok.inj h))
    | hand text => cases h
  | hand text =>
    cases v' with
    | answer r => cases h
    | hand text' => exact congrArg _ (Except.error.inj h)

/-- One thing becomes of a request, and no other. -/
theorem Decides.unique {v v' : Verdict} (h : f.Decides c v) (h' : f.Decides c v')
    (hunread : c.request.body.consumed = false) : v = v' := by
  refine Verdict.run_probe_injective c (bodyAfter c) ?_
  rw [← h.readWith_eq hunread, h'.readWith_eq hunread]

/-- What a stream comes to is all that is looked at of a body. -/
theorem Decides.withBody {v : Verdict} {r : Except IoError Bytes} {body : Body}
    (h : f.Decides c v) (hr : c.request.body.stream.Ends r) (hbody : body.stream.Ends r) :
    f.Decides (c.withBody body) v := by
  have hends (r' : Except IoError Bytes) (h' : c.request.body.stream.Ends r') :
      (c.withBody body).request.body.stream.Ends r' := by
    cases (BodyStream.ends_iff.1 hr).symm.trans (BodyStream.ends_iff.1 h')
    exact hbody
  cases h with
  | declaredEmpty hlength => exact .declaredEmpty hlength
  | failed hlength hstream => exact .failed hlength (hends _ hstream)
  | empty hlength hstream => exact .empty hlength (hends _ hstream)
  | noEncoding hlength hstream hbs hnone => exact .noEncoding hlength (hends _ hstream) hbs hnone
  | unsupported hlength hstream hbs hcharset =>
    exact .unsupported hlength (hends _ hstream) hbs ⟨hcharset.1, hcharset.2, hcharset.3⟩
  | undecodable hlength hstream hbs hencoding hdecode =>
    exact .undecodable hlength (hends _ hstream) hbs (hencoding.withBody body) hdecode
  | text hlength hstream hbs hencoding hdecode =>
    exact .text hlength (hends _ hstream) hbs (hencoding.withBody body) hdecode

/-- What a formatter answers is what becomes of the request, with its own reader. -/
theorem Decides.read_eq {v : Verdict} (h : f.Decides c v)
    (hunread : c.request.body.consumed = false) : f.read c = (v.result f.reader, bodyAfter c) := by
  unfold read
  rw [h.readWith_eq hunread]
  cases v with
  | answer r => rfl
  | hand text => rfl

end TextFormatter

end RequestBinding
