import RequestBinding.Formatter.Text
import RequestBinding.Proofs.Binder.Basic
import RequestBinding.Proofs.Http.Body

/-!
# Binding and the body

Whether a text formatter accepts a request does not depend on the body, so that
the formatter which is selected, and what is told of its selection, are the same
for every body. The formatter leaves the body alone if the declared length is
zero, and takes its stream otherwise. An attempt to bind does what its formatter
does, and leaves the body alone if there is none.

Results:
1. `TextFormatter.read_spares`, `TextFormatter.read_takes`: a text formatter.
2. `BodyBinder.bind_eq_of_none`, `BodyBinder.bind_eq_of_some`: an attempt, by the formatter
   that is selected.
3. `TextBinder.bind_spares`, `TextBinder.bind_takes`: an attempt to bind.
-/

namespace RequestBinding

/-! ## Selection -/

/-- Apart from what formatters answer, their selection looks at the content type
and the name alone. -/
theorem FormatterCollection.selectFrom_congr (c c' : FormatterContext) {l : List InputFormatter}
    (htype : c.request.contentType = c'.request.contentType) (hname : c.modelName = c'.modelName)
    (hread : ∀ f ∈ l, f.canRead c = f.canRead c') (sink : Sink) :
    selectFrom sink c l = selectFrom sink c' l := by
  induction l with
  | nil => simp only [selectFrom, htype, hname]
  | cons f rest ih =>
    have hrest := ih fun g hg => hread g (List.mem_cons_of_mem f hg)
    simp only [selectFrom, hread f List.mem_cons_self, hrest, htype]

/-! ## A text formatter -/

namespace TextFormatter

variable {c : FormatterContext}

theorem canRead_withBody (f : TextFormatter) (c : FormatterContext) (body : Body) :
    f.canRead (c.withBody body) = f.canRead c := by
  simp only [canRead, FormatterContext.mediaType?_withBody, FormatterContext.metadata_withBody]

theorem readBytes_withBody (f : TextFormatter) (c : FormatterContext) (body : Body)
    (bs : Bytes) : f.readBytes (c.withBody body) bs = f.readBytes c bs := by
  simp only [readBytes, readBytesWith, selectEncoding, ReadResult.ofEmpty_withBody,
    FormatterContext.charset?_withBody, FormatterContext.contentType?_withBody]

/-- What a formatter makes of a body is what it makes of its bytes. -/
theorem read_of_declared (f : TextFormatter) (h : c.request.headers.contentLength? ≠ some 0) :
    f.read c = match c.request.body.readToEnd with
      | (.error e, body) => (.error (.io e), body)
      | (.ok bs, body) => (f.readBytes (c.withBody body) bs, body) := by
  unfold read readWith
  rw [if_neg h]
  rcases c.request.body.readToEnd with ⟨_ | bs, body⟩
  · rfl
  · rfl

/-- A declared length of zero leaves the body alone. -/
theorem read_spares (f : TextFormatter) (h : c.request.headers.contentLength? = some 0) :
    Body.Spares fun body => f.read (c.withBody body) :=
  ⟨.ok (.ofEmpty c), fun body => read_of_declared_empty (c := c.withBody body) h f⟩

/-- What a formatter answers once the body was read, or could not be. -/
def answer (f : TextFormatter) (c : FormatterContext) :
    Except IoError Bytes → Except ReadError ReadResult
  | .error e => .error (.io e)
  | .ok bs => f.readBytes c bs

/-- Any other declaration takes the stream; if it is gone, the connection is said
to have failed. -/
theorem read_takes (f : TextFormatter) (h : c.request.headers.contentLength? ≠ some 0) :
    Body.Takes (fun body => f.read (c.withBody body)) (.error (.io bodyConsumed)) := by
  -- the formatter reads to the end and looks only at the bytes
  have hread : (fun body => f.read (c.withBody body)) = fun body : Body =>
      (f.answer c body.readToEnd.1, body.readToEnd.2) := by
    funext body
    simp only [read_of_declared (c := c.withBody body) f h, FormatterContext.body_withBody,
      readBytes_withBody]
    rcases body.readToEnd with ⟨_ | bs, left⟩
    · rfl
    · rfl
  rw [hread]
  exact Body.readToEnd_takes.map (f.answer c)

end TextFormatter

/-! ## An attempt to bind -/

/-- What an attempt to bind gives apart from the request. -/
structure Bound where
  outcome : Except BindingError Unit
  result : BindingResult
  modelState : ModelState
  journal : Journal

/-- The part of an attempt that is not the request. -/
def Attempt.bound (a : Attempt) : Bound :=
  ⟨a.outcome, a.context.result, a.context.modelState, a.journal⟩

namespace BodyBinder

variable {b : BodyBinder} {c : BindingContext}

/-- What the answer of a formatter makes of a context has nothing to do with the
body. -/
theorem bound_conclude_withBody (b : BodyBinder) (f : InputFormatter) (c : BindingContext)
    (body : Body) (answer : Except ReadError ReadResult) :
    (b.conclude f (c.withBody body) answer).bound = (b.conclude f c answer).bound := by
  -- the branches differ in what they record, and none of them looks at the request
  match answer with
  | .ok (.success _) => rfl
  | .ok .noValue => rfl
  | .error e =>
    simp only [conclude]
    split
    · rfl
    · split <;> rfl

/-- What is told of the selection for a context. -/
def selectionJournal (b : BodyBinder) (c : BindingContext) : Journal :=
  (b.formatters.select b.sink (b.formatterContext c)).2

/-- What an attempt makes of the answer of its formatter. -/
def boundOf (b : BodyBinder) (c : BindingContext) (f : InputFormatter)
    (answer : Except ReadError ReadResult) : Bound :=
  let attempt := b.conclude f c answer
  { attempt.bound with
    journal := b.selectionJournal c ++ .measurement (.read f.name) :: attempt.journal }

/-- What an attempt makes of a context that no formatter accepts. -/
def boundOfNothing (b : BodyBinder) (c : BindingContext) : Bound :=
  let attempt := b.bindNothing c
  { attempt.bound with journal := b.selectionJournal c ++ attempt.journal }

/-- An attempt without a formatter. -/
theorem bind_eq_of_none (h : b.selected? c = none) :
    b.bind c = { b.bindNothing c with
      journal := b.selectionJournal c ++ (b.bindNothing c).journal } := by
  have hfirst := b.formatters.select_formatter b.sink (b.formatterContext c)
  rcases hs : b.formatters.select b.sink (b.formatterContext c) with ⟨f?, journal⟩
  rw [hs] at hfirst
  cases hfirst.trans h
  simp only [bind, selectionJournal, hs]

/-- An attempt with a formatter, which finds the context as it was. -/
theorem bind_eq_of_some {f : InputFormatter} (h : b.selected? c = some f) :
    b.bind c =
      let attempt := b.conclude f (c.withBody (f.read (b.formatterContext c)).2)
        (f.read (b.formatterContext c)).1
      { attempt with
        journal := b.selectionJournal c ++ .measurement (.read f.name) :: attempt.journal } := by
  have hfirst := b.formatters.select_formatter b.sink (b.formatterContext c)
  rcases hs : b.formatters.select b.sink (b.formatterContext c) with ⟨f?, journal⟩
  rw [hs] at hfirst
  cases hfirst.trans h
  simp only [bind, selectionJournal, hs]
  rfl

theorem bind_of_none (h : b.selected? c = none) :
    (b.bind c).bound = b.boundOfNothing c ∧ (b.bind c).context.request = c.request := by
  rw [bind_eq_of_none h]
  exact ⟨rfl, rfl⟩

theorem bind_of_some {f : InputFormatter} (h : b.selected? c = some f) :
    (b.bind c).bound = b.boundOf c f (f.read (b.formatterContext c)).1 ∧
      (b.bind c).context.request =
        { c.request with body := (f.read (b.formatterContext c)).2 } := by
  have hbound := b.bound_conclude_withBody f c (f.read (b.formatterContext c)).2
    (f.read (b.formatterContext c)).1
  have hcontext := b.conclude_context f (c.withBody (f.read (b.formatterContext c)).2)
    (f.read (b.formatterContext c)).1
  simp only [Attempt.bound, Bound.mk.injEq] at hbound
  simp only [bind_eq_of_some h, boundOf, Attempt.bound, Bound.mk.injEq]
  refine ⟨⟨hbound.1, hbound.2.1, hbound.2.2.1, ?_⟩, hcontext.2.2⟩
  exact congrArg (fun told => b.selectionJournal c ++ .measurement (.read f.name) :: told)
    hbound.2.2.2

/-- What an attempt without a formatter tells. -/
theorem journal_bind_of_none (h : b.selected? c = none) :
    (b.bind c).journal = b.selectionJournal c ++ (b.bindNothing c).journal :=
  congrArg Bound.journal (bind_of_none h).1

/-- What an attempt with a formatter tells, whichever body is left. -/
theorem journal_bind_of_some {f : InputFormatter} (h : b.selected? c = some f) :
    (b.bind c).journal = b.selectionJournal c ++ .measurement (.read f.name) ::
      (b.conclude f c (f.read (b.formatterContext c)).1).journal :=
  congrArg Bound.journal (bind_of_some h).1

end BodyBinder

/-- A binder whose formatters are all formatters of text, each of a family. -/
structure TextBinder where
  formatters : List (TextFormatter × String)
  options : BindingOptions
  sink : Sink

namespace TextBinder

/-- The binder as one among others. -/
def binder (b : TextBinder) : BodyBinder :=
  ⟨⟨b.formatters.map fun f => f.1.toFormatter f.2⟩, b.options, b.sink⟩

/-- The attempt gets as far as the body: a formatter accepts the request, and its
declared length is not zero. -/
def NeedsBody (b : TextBinder) (c : BindingContext) : Prop :=
  (b.binder.selected? c).isSome = true ∧ c.request.headers.contentLength? ≠ some 0

/-- An attempt that comes too late for the body: the selected formatter fails on
the connection, which is recorded if the binder or the formatter says so, and
ends the attempt otherwise. -/
def TooLate (b : TextBinder) (c : BindingContext) (a : Bound) : Prop :=
  ∃ f, b.binder.selected? c = some f ∧ a.result = c.result ∧
    if b.options.convertAllExceptions || f.convertsExceptions then
      a.outcome = .ok () ∧
        a.modelState = (c.modelState.addException c.errorKey (.io bodyConsumed)).2
    else a.outcome = .error (.unhandled (.io bodyConsumed)) ∧ a.modelState = c.modelState

/-- An attempt on a context with another body. -/
def bindOn (b : TextBinder) (c : BindingContext) (body : Body) : Bound × Body :=
  let attempt := b.binder.bind (c.withBody body)
  (attempt.bound, attempt.context.request.body)

variable {b : TextBinder} {c : BindingContext}

/-- The selection does not depend on the body. -/
theorem select_withBody (b : TextBinder) (c : BindingContext) (body : Body) :
    b.binder.formatters.select b.binder.sink (b.binder.formatterContext (c.withBody body)) =
      b.binder.formatters.select b.binder.sink (b.binder.formatterContext c) := by
  refine FormatterCollection.selectFrom_congr ((b.binder.formatterContext c).withBody body)
    (b.binder.formatterContext c) rfl rfl ?_ b.binder.sink
  intro f hf
  obtain ⟨g, -, rfl⟩ := List.mem_map.1 hf
  exact g.1.canRead_withBody (b.binder.formatterContext c) body

theorem selected?_withBody (b : TextBinder) (c : BindingContext) (body : Body) :
    b.binder.selected? (c.withBody body) = b.binder.selected? c := by
  have hselect := congrArg Prod.fst (select_withBody b c body)
  rwa [FormatterCollection.select_formatter, FormatterCollection.select_formatter] at hselect

/-- An attempt on another body asks the same formatter, and makes the same of its
answer. -/
theorem bindOn_of_some {f : InputFormatter} (h : b.binder.selected? c = some f) :
    b.bindOn c = fun body =>
      (b.binder.boundOf c f (f.read ((b.binder.formatterContext c).withBody body)).1,
        (f.read ((b.binder.formatterContext c).withBody body)).2) := by
  funext body
  have hbind := BodyBinder.bind_of_some ((selected?_withBody b c body).trans h)
  have hbound : ∀ answer, b.binder.boundOf (c.withBody body) f answer =
      b.binder.boundOf c f answer := by
    intro answer
    have hconclude := b.binder.bound_conclude_withBody f c body answer
    simp only [Attempt.bound, Bound.mk.injEq] at hconclude
    simp only [BodyBinder.boundOf, BodyBinder.selectionJournal, select_withBody, Attempt.bound,
      hconclude]
  rw [bindOn]
  refine Prod.ext (hbind.1.trans (hbound _)) ?_
  exact congrArg Request.body hbind.2

/-- The selected formatter is a formatter of text. -/
theorem exists_textFormatter {f : InputFormatter} (h : b.binder.selected? c = some f) :
    ∃ (g : TextFormatter) (family : String), f = g.toFormatter family := by
  obtain ⟨g, -, rfl⟩ := List.mem_map.1 (List.mem_of_find?_eq_some h)
  exact ⟨g.1, g.2, rfl⟩

/-- An attempt that does not get as far as the body leaves it alone. -/
theorem bind_spares (h : ¬ b.NeedsBody c) : Body.Spares (b.bindOn c) := by
  cases hf : b.binder.selected? c with
  | none =>
    refine ⟨b.binder.boundOfNothing c, fun body => ?_⟩
    have hbind := BodyBinder.bind_of_none ((selected?_withBody b c body).trans hf)
    have hnothing : b.binder.boundOfNothing (c.withBody body) = b.binder.boundOfNothing c := by
      rw [BodyBinder.boundOfNothing, BodyBinder.selectionJournal, select_withBody]
      rfl
    exact Prod.ext (hbind.1.trans hnothing) (congrArg Request.body hbind.2)
  | some f =>
    obtain ⟨g, family, rfl⟩ := exists_textFormatter hf
    have hzero : c.request.headers.contentLength? = some 0 :=
      Decidable.byContradiction fun hne => h ⟨by rw [hf]; rfl, hne⟩
    rw [bindOn_of_some hf]
    exact (g.read_spares (c := b.binder.formatterContext c) hzero).map _

/-- One that does takes its stream, and fails if it is gone. -/
theorem bind_takes (h : b.NeedsBody c) :
    ∃ late, b.TooLate c late ∧ Body.Takes (b.bindOn c) late := by
  obtain ⟨f, hf⟩ := Option.isSome_iff_exists.1 h.1
  obtain ⟨g, family, rfl⟩ := exists_textFormatter hf
  refine ⟨b.binder.boundOf c (g.toFormatter family) (.error (.io bodyConsumed)), ?_, ?_⟩
  · refine ⟨_, hf, ?_⟩
    cases hconvert : b.options.convertAllExceptions ||
      (g.toFormatter family).convertsExceptions with
    | true =>
      have hbinder : (b.binder.options.convertAllExceptions ||
          (g.toFormatter family).convertsExceptions) = true := hconvert
      simp only [BodyBinder.boundOf, BodyBinder.conclude, hbinder]
      exact ⟨rfl, rfl, rfl⟩
    | false =>
      have hbinder : (b.binder.options.convertAllExceptions ||
          (g.toFormatter family).convertsExceptions) = false := hconvert
      simp only [BodyBinder.boundOf, BodyBinder.conclude, hbinder]
      exact ⟨rfl, rfl, rfl⟩
  · rw [bindOn_of_some hf]
    exact (g.read_takes (c := b.binder.formatterContext c) h.2).map _

end TextBinder

end RequestBinding
