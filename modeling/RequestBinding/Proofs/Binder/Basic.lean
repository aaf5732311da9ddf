import Mathlib.Logic.ExistsUnique
import RequestBinding.Binder.Basic

/-!
# The six ends of an attempt

An attempt to bind a body ends in one of six ways, and which one is settled by
the formatters, by what the selected one answers, and by two flags. Each of them
has its own effect (`Ends`): a value becomes the result and the model state is
left alone, an unhandled exception leaves both alone, and in all other cases one
error is offered to the model state.

A result that was there before an attempt is replaced by a value and taken away
if nothing was read. The other ends leave it where it is.

Results:
1. `bind_ends`: what an attempt does is one of these ends.
2. `Ends.outcome_eq`: there is no second one.
3. `existsUnique_ends`: without an earlier result, only a value gives one.
4. `result_unset_iff`: when an attempt without a value leaves no result.
-/

namespace RequestBinding

/-! ## Effects on a context -/

namespace BindingContext

/-- The key that belongs to the errors of a model. At the top it is the name that the binder
was given, or the empty text without one; a nested model goes by its own name, whatever the
binder was given. -/
def keyOf (c : BindingContext) : String :=
  match c.isTopLevel, c.binderName? with
  | true, some name => name
  | true, none => ""
  | false, _ => c.modelName

theorem errorKey_eq_keyOf (c : BindingContext) : c.errorKey = c.keyOf := by
  rw [errorKey, keyOf]
  cases c.isTopLevel with
  | true => cases c.binderName? <;> rfl
  | false => rfl

/-- Offers an error to the model state under its key. -/
def offer (c : BindingContext) (e : ModelError) : BindingContext :=
  { c with modelState := (c.modelState.add c.keyOf e).2 }

theorem recordException_eq_offer (c : BindingContext) (e : Exception) :
    c.recordException e = c.offer ⟨e.message, some e⟩ := by
  rw [recordException, offer, errorKey_eq_keyOf]
  rfl

theorem recordMessage_eq_offer (c : BindingContext) (message : String) :
    c.recordMessage message = c.offer ⟨message, none⟩ := by
  rw [recordMessage, offer, errorKey_eq_keyOf]
  rfl

/-- The body as a formatter has left it. -/
def withBody (c : BindingContext) (body : Body) : BindingContext :=
  { c with request := { c.request with body := body } }

end BindingContext

/-- There is no model in a result exactly if nothing came of the binding. -/
theorem BindingResult.unset_iff {r : BindingResult} :
    r.isModelSet = false ∧ r.model? = none ↔ r = .failed := by
  cases r <;> simp [isModelSet, model?]

namespace BodyBinder

/-! ## The ends -/

/-- The first formatter that accepts the request. -/
def selected? (b : BodyBinder) (c : BindingContext) : Option InputFormatter :=
  b.formatters.list.find? (·.canRead (b.formatterContext c))

/-- What the selected formatter answers. -/
def answer? (b : BodyBinder) (c : BindingContext) : Option (Except ReadError ReadResult) :=
  (b.selected? c).map fun f => (f.read (b.formatterContext c)).1

/-- The end of an attempt, with what is given back and the context after it. -/
inductive Ends (b : BodyBinder) (c : BindingContext) :
    BindingOutcome → Except BindingError Unit → BindingContext → Prop
  | noFormatter (hnone : ∀ f ∈ b.formatters.list, f.canRead (b.formatterContext c) = false) :
      Ends b c .noFormatter (.ok ()) (c.offer
        ⟨unsupportedContentTypeMessage c.request.contentType,
          some (.unsupportedContentType c.request.contentType)⟩)
  | bound {f : InputFormatter} {model? : Option Model} {body : Body}
      (hf : b.selected? c = some f)
      (hread : f.read (b.formatterContext c) = (.ok (.success model?), body)) :
      Ends b c .bound (.ok ()) { c.withBody body with result := .success model? }
  | noValue {f : InputFormatter} {body : Body} (hf : b.selected? c = some f)
      (hread : f.read (b.formatterContext c) = (.ok .noValue, body)) :
      Ends b c .noValue (.ok ())
        ({ c.withBody body with result := .failed }.offer ⟨c.metadata.messages.missingBody, none⟩)
  | formatError {f : InputFormatter} {e : FormatError} {body : Body}
      (hf : b.selected? c = some f)
      (hread : f.read (b.formatterContext c) = (.error (.format e), body)) :
      Ends b c .formatError (.ok ()) ((c.withBody body).offer ⟨e.message, some (.format e)⟩)
  | convertedException {f : InputFormatter} {e : ReadError} {body : Body}
      (hf : b.selected? c = some f)
      (hread : f.read (b.formatterContext c) = (.error e, body)) (he : e.isFormatError = false)
      (hconvert : b.options.convertAllExceptions = true ∨ f.convertsExceptions = true) :
      Ends b c .convertedException (.ok ())
        ((c.withBody body).offer ⟨e.message, some e.toException⟩)
  | unhandledException {f : InputFormatter} {e : ReadError} {body : Body}
      (hf : b.selected? c = some f)
      (hread : f.read (b.formatterContext c) = (.error e, body)) (he : e.isFormatError = false)
      (hall : b.options.convertAllExceptions = false) (hown : f.convertsExceptions = false) :
      Ends b c .unhandledException (.error (.unhandled e.toException)) (c.withBody body)

section

variable {b : BodyBinder} {c : BindingContext} {o : BindingOutcome}
  {given : Except BindingError Unit} {left : BindingContext}

theorem selected?_eq_none_iff :
    b.selected? c = none ↔ ∀ f ∈ b.formatters.list, f.canRead (b.formatterContext c) = false := by
  simp [selected?]

theorem answer?_of_read {f : InputFormatter} {answer : Except ReadError ReadResult} {body : Body}
    (hf : b.selected? c = some f) (hread : f.read (b.formatterContext c) = (answer, body)) :
    b.answer? c = some answer := by
  rw [answer?, hf, Option.map_some, hread]

/-- An exception that is no format error is converted if a flag says so. -/
theorem conclude_ends_of_exception {f : InputFormatter} {e : ReadError} {body : Body}
    (hf : b.selected? c = some f) (hread : f.read (b.formatterContext c) = (.error e, body))
    (he : e.isFormatError = false) :
    ∃ o, Ends b c o (b.conclude f (c.withBody body) (.error e)).outcome
      (b.conclude f (c.withBody body) (.error e)).context := by
  simp only [conclude, he, Bool.false_eq_true, if_false, BindingContext.recordException_eq_offer]
  split
  · next hconvert => exact ⟨_, .convertedException hf hread he (by simpa using hconvert)⟩
  · next hconvert =>
    rw [Bool.or_eq_true, not_or, Bool.not_eq_true, Bool.not_eq_true] at hconvert
    exact ⟨_, .unhandledException hf hread he hconvert.1 hconvert.2⟩

/-- What the answer of the selected formatter makes of a context is an end. -/
theorem conclude_ends {f : InputFormatter} {answer : Except ReadError ReadResult} {body : Body}
    (hf : b.selected? c = some f) (hread : f.read (b.formatterContext c) = (answer, body)) :
    ∃ o, Ends b c o (b.conclude f (c.withBody body) answer).outcome
      (b.conclude f (c.withBody body) answer).context := by
  match answer with
  | .ok (.success model?) => exact ⟨_, .bound hf hread⟩
  | .ok .noValue =>
    rw [conclude, BindingContext.recordMessage_eq_offer]
    exact ⟨_, .noValue hf hread⟩
  | .error (.format e) =>
    simp only [conclude, ReadError.isFormatError, if_true, BindingContext.recordException_eq_offer]
    exact ⟨_, .formatError hf hread⟩
  | .error (.io e) => exact conclude_ends_of_exception hf hread rfl
  | .error (.other m) => exact conclude_ends_of_exception hf hread rfl

/-- What an attempt does is one of the six ends. -/
theorem bind_ends (b : BodyBinder) (c : BindingContext) :
    ∃ o, Ends b c o (b.bind c).outcome (b.bind c).context := by
  have hselect := b.formatters.select_formatter b.sink (b.formatterContext c)
  simp only [bind]
  split
  · next journal hs =>
    rw [hs] at hselect
    rw [bindNothing, BindingContext.recordException_eq_offer]
    exact ⟨_, .noFormatter (selected?_eq_none_iff.1 hselect.symm)⟩
  · next f journal hs =>
    rw [hs] at hselect
    exact conclude_ends hselect.symm rfl

/-- The end that an attempt has, from the answer of the selected formatter. -/
def endOf (b : BodyBinder) (c : BindingContext) : BindingOutcome :=
  match b.selected? c with
  | none => .noFormatter
  | some f =>
    match (f.read (b.formatterContext c)).1 with
    | .ok (.success _) => .bound
    | .ok .noValue => .noValue
    | .error e =>
      if e.isFormatError then .formatError
      else if b.options.convertAllExceptions || f.convertsExceptions then .convertedException
      else .unhandledException

/-- There is no second end. -/
theorem Ends.outcome_eq (h : Ends b c o given left) : o = b.endOf c := by
  cases h with
  | noFormatter hnone => simp only [endOf, selected?_eq_none_iff.2 hnone]
  | bound hf hread => simp only [endOf, hf, hread]
  | noValue hf hread => simp only [endOf, hf, hread]
  | formatError hf hread => simp only [endOf, hf, hread, ReadError.isFormatError, if_true]
  | convertedException hf hread he hconvert =>
    simp [endOf, hf, hread, he, hconvert]
  | unhandledException hf hread he hall hown =>
    simp [endOf, hf, hread, he, hall, hown]

/-! ## The result -/

end

/-- A value replaces the result and an empty body takes it away; nothing else
touches it. -/
theorem bind_result (b : BodyBinder) (c : BindingContext) :
    (b.bind c).context.result =
      match b.answer? c with
      | some (.ok (.success model?)) => .success model?
      | some (.ok .noValue) => .failed
      | _ => c.result := by
  obtain ⟨o, hends⟩ := bind_ends b c
  generalize (b.bind c).context = left, (b.bind c).outcome = given at hends
  cases hends with
  | noFormatter hnone =>
    rw [answer?, selected?_eq_none_iff.2 hnone]
    rfl
  | bound hf hread => rw [answer?_of_read hf hread]
  | noValue hf hread =>
    rw [answer?_of_read hf hread]
    rfl
  | formatError hf hread =>
    rw [answer?_of_read hf hread]
    rfl
  | convertedException hf hread =>
    rw [answer?_of_read hf hread]
    rfl
  | unhandledException hf hread =>
    rw [answer?_of_read hf hread]
    rfl

/-- An attempt without a value leaves no result exactly if there was none before
it, or if the selected formatter read nothing. -/
theorem result_unset_iff {b : BodyBinder} {c : BindingContext}
    (hvalue : ∀ model?, b.answer? c ≠ some (.ok (.success model?))) :
    ((b.bind c).context.result.isModelSet = false ∧ (b.bind c).context.result.model? = none) ↔
      c.result = .failed ∨ b.answer? c = some (.ok .noValue) := by
  rw [BindingResult.unset_iff, bind_result]
  split
  · next model? h => exact absurd h (hvalue model?)
  · next h => simp [h]
  · next h => exact ⟨.inl, fun h' => h'.resolve_right h⟩

/-- An earlier result is taken away when a formatter reads nothing. -/
theorem result_unset_of_empty_body :
    let f : InputFormatter := ⟨"Empty", "empty", fun _ => true,
      fun c => (.ok .noValue, c.request.body), false⟩
    let b : BodyBinder := ⟨⟨[f]⟩, {}, .recording⟩
    let c : BindingContext :=
      { BindingContext.topLevel {} .empty ⟨.text, "String", none, {}, false⟩ "order" with
        result := .success (some ⟨.text, "preset"⟩) }
    (b.bind c).context.result.isModelSet = false ∧ (b.bind c).context.result.model? = none := by
  intro f b c
  have hanswer : b.answer? c = some (.ok .noValue) := rfl
  refine (result_unset_iff fun model? h => ?_).2 (.inr hanswer)
  cases hanswer.symm.trans h

/-- An earlier result stays where no formatter accepts the request. -/
theorem not_result_unset_of_no_formatter :
    ¬ ∀ (b : BodyBinder) (c : BindingContext), (b.bind c).outcome = .ok () →
      (∀ model?, b.answer? c ≠ some (.ok (.success model?))) →
      (b.bind c).context.result.isModelSet = false ∧ (b.bind c).context.result.model? = none := by
  intro h
  have hunset := h ⟨.empty, {}, .recording⟩
    { BindingContext.topLevel {} .empty ⟨.text, "String", none, {}, false⟩ "order" with
      result := .success (some ⟨.text, "preset"⟩) } rfl (fun _ hm => nomatch hm)
  cases hunset.1

end BodyBinder

end RequestBinding
