import RequestBinding.ModelBinding
import RequestBinding.Proofs.Binder.Accounting

/-!
# Binding a body is all or nothing

Each call that binds the body of a request starts with a dictionary of its own, and with no
result. Of the six ends of an attempt, a value is then the only one that leaves the dictionary
as it was, apart from an exception that nobody records, which the caller is given instead. So
a caller who is given a binding at all may ask it whether it is valid or whether the model is
set: both say the same.

A model that is set need not be there: the formatter may have read a value of another type, or
none.

Results:
1. `Model.as?_eq_some_iff`: a model is seen at its own type alone.
2. `BodyBinder.Ends.unhandled_iff`: which exceptions the caller is given.
3. `BodyBinder.Ends.all_or_nothing`: a dictionary of one's own tells if the model is set.
4. `ModelBinding.bindBody_all_or_nothing`: what a caller is given for any request.
-/

namespace RequestBinding

/-- A model is seen at its own type alone. -/
theorem Model.as?_eq_some_iff {m : Model} {t : ModelType} {v : t.Value} :
    m.as? t = some v ↔ m = ⟨t, v⟩ := by
  constructor
  · intro h
    by_cases htype : m.type = t
    · subst htype
      rw [Model.as?_mk, Option.some.injEq] at h
      rw [← h]
    · rw [Model.as?_of_ne htype] at h
      cases h
  · rintro rfl
    exact Model.as?_mk t v

theorem Model.bind_as?_eq_some_iff {model? : Option Model} {t : ModelType} {v : t.Value} :
    model?.bind (·.as? t) = some v ↔ model? = some ⟨t, v⟩ := by
  cases model? with
  | none => exact iff_of_false nofun nofun
  | some m => rw [Option.bind_some, Model.as?_eq_some_iff, Option.some.injEq]

theorem BindingResult.isModelSet_eq_false_iff {r : BindingResult} :
    r.isModelSet = false ↔ r = .failed := by
  cases r <;> simp [isModelSet]

namespace ModelState

theorem isValid_empty : empty.isValid = true := rfl

/-- The first error stands alone. -/
theorem entries_add_empty (key : String) (e : ModelError) :
    (empty.add key e).2.entries.toList = [(key, [e])] := by
  rw [add_of_room (by decide)]
  rfl

theorem isValid_add_empty (key : String) (e : ModelError) :
    (empty.add key e).2.isValid = false := by
  rw [isValid, entries_add_empty]
  rfl

end ModelState

/-! ## The ends of an attempt with a dictionary of its own -/

namespace BodyBinder

/-- The selected formatter fails with what is no format error, and neither the binder nor the
formatter says that this is recorded. -/
def FailsWith (b : BodyBinder) (c : BindingContext) (e : ReadError) : Prop :=
  ∃ f, b.selected? c = some f ∧ (f.read (b.formatterContext c)).1 = .error e ∧
    e.isFormatError = false ∧ b.options.convertAllExceptions = false ∧
      f.convertsExceptions = false

variable {b : BodyBinder} {c : BindingContext} {o : BindingOutcome}
  {given : Except BindingError Unit} {left : BindingContext}

/-- An attempt that fails with an exception has this end. -/
theorem FailsWith.endOf {e : ReadError} (h : b.FailsWith c e) :
    b.endOf c = .unhandledException := by
  obtain ⟨f, hf, hread, he, hall, hown⟩ := h
  simp only [BodyBinder.endOf, hf, hread, he, hall, hown, Bool.or_self, Bool.false_eq_true,
    if_false]

theorem FailsWith.answer? {e : ReadError} (h : b.FailsWith c e) :
    b.answer? c = some (.error e) := by
  obtain ⟨f, hf, hread, -⟩ := h
  rw [BodyBinder.answer?, hf, Option.map_some, hread]

/-- The exceptions that an attempt gives back are those that nobody records. -/
theorem Ends.unhandled_iff (h : Ends b c o given left) {x : Exception} :
    given = .error (.unhandled x) ↔ ∃ e, b.FailsWith c e ∧ x = e.toException := by
  constructor
  · intro hgiven
    cases h with
    | @unhandledException f e body hf hread he hall hown =>
      cases hgiven
      exact ⟨e, ⟨f, hf, congrArg Prod.fst hread, he, hall, hown⟩, rfl⟩
    | _ => cases hgiven
  · rintro ⟨e, hfails, rfl⟩
    -- there is no other end for it, and the formatter has given one answer
    cases h.outcome_eq.trans hfails.endOf
    cases h with
    | unhandledException hf hread =>
      cases (answer?_of_read hf hread).symm.trans hfails.answer?
      rfl

/-- An attempt gives back nothing but exceptions that nobody records. -/
theorem Ends.given_eq (h : Ends b c o given left) :
    given = .ok () ∨ ∃ x, given = .error (.unhandled x) := by
  cases h with
  | unhandledException => exact .inr ⟨_, rfl⟩
  | _ => exact .inl rfl

/-- With an empty dictionary and no result to start from, an attempt that gives nothing back
leaves the dictionary empty beside a result, or else one error and no result. -/
theorem Ends.all_or_nothing (h : Ends b c o (.ok ()) left) (hunset : c.result = .failed)
    (hstate : c.modelState = .empty) :
    (left.result.isModelSet = true ∧ left.modelState = .empty) ∨
      (left.result = .failed ∧
        ∃ e, left.modelState = (ModelState.empty.add c.keyOf e).2) := by
  rcases h.modelState with ⟨hrecorded, e, hleft⟩ | ⟨hquiet, hleft⟩
  · refine .inr ⟨BindingResult.isModelSet_eq_false_iff.mp ?_, e, by rw [hleft, hstate]⟩
    rw [Bool.eq_false_iff, ne_eq, ← h.bound_iff hunset]
    rintro rfl
    cases hrecorded
  · refine .inl ⟨(h.bound_iff hunset).mp ?_, hleft.trans hstate⟩
    rcases BindingOutcome.isRecorded_eq_false_iff.mp hquiet with hbound | hunhandled
    · exact hbound
    · obtain ⟨x, hx⟩ := h.unhandledException_iff.mp hunhandled
      cases hx

/-- Without an earlier result, the result is a value exactly if the formatter has read it. -/
theorem result_eq_success_iff (hunset : c.result = .failed) {model? : Option Model} :
    (b.bind c).context.result = .success model? ↔
      b.answer? c = some (.ok (.success model?)) := by
  rw [bind_result]
  split
  · next read? h => simp [h]
  · next h => simp [h]
  · next hvalue _ => exact iff_of_false (by rw [hunset]; exact nofun) (hvalue model?)

end BodyBinder

/-! ## What a caller is given -/

namespace ModelBinding

variable {b : ModelBinding} {t : ModelType} {typeName : String} {r : Request} {modelName : String}

/-- The context in which the body of a request is bound. -/
def bodyContext (t : ModelType) (typeName : String) (r : Request) (modelName : String) :
    BindingContext :=
  .topLevel r .empty (bodyMetadata t typeName) modelName

theorem bindBody_of_formatters (h : b.provider.binder.formatters.list ≠ []) :
    b.bindBody t typeName r modelName =
      let attempt := b.provider.binder.bind (bodyContext t typeName r modelName)
      (seen t attempt, attempt.context.request, attempt.journal) := by
  have hsome : b.provider.binder.formatters.isEmpty = false := List.isEmpty_eq_false_iff.mpr h
  simp only [bindBody, BinderProvider.binder?, bodyMetadata, ne_eq, not_true_eq_false, if_false,
    hsome, Bool.false_eq_true]
  rfl

theorem seen_eq_ok_iff {a : Attempt} {bound : BodyBinding t} :
    seen t a = .ok bound ↔ a.outcome = .ok () ∧
      bound = ⟨a.context.result.model?.bind (·.as? t), a.context.result.isModelSet,
        a.context.modelState⟩ := by
  rw [seen]
  cases a.outcome with
  | error e => exact iff_of_false nofun (fun h => nomatch h.1)
  | ok u => simp [eq_comm]

theorem seen_eq_error_iff {a : Attempt} {e : BindingError} :
    seen t a = .error e ↔ a.outcome = .error e := by
  rw [seen]
  cases a.outcome with
  | error x => simp
  | ok u => exact iff_of_false nofun nofun

/-- With formatters, a caller is never told of a mistake in how binding was put together. -/
theorem bindBody_ne_internal (h : b.provider.binder.formatters.list ≠ []) (m : String) :
    (b.bindBody t typeName r modelName).1 ≠ .error (.internal m) := by
  intro hmade
  rw [bindBody_of_formatters h] at hmade
  have hgiven := seen_eq_error_iff.mp hmade
  obtain ⟨o, hends⟩ := b.provider.binder.bind_ends (bodyContext t typeName r modelName)
  rcases hends.given_eq with hok | ⟨x, hx⟩
  · cases hgiven.symm.trans hok
  · cases hgiven.symm.trans hx

/-- The exceptions that a caller is given are those that nobody records. -/
theorem bindBody_unhandled_iff {x : Exception} :
    (b.bindBody t typeName r modelName).1 = .error (.unhandled x) ↔
      ∃ e, b.provider.binder.FailsWith (bodyContext t typeName r modelName) e ∧
        x = e.toException := by
  by_cases h : b.provider.binder.formatters.list = []
  · rw [bindBody_of_no_formatters (List.isEmpty_iff.mpr h)]
    refine iff_of_false nofun ?_
    rintro ⟨e, ⟨f, hf, -⟩, -⟩
    rw [BodyBinder.selected?, h] at hf
    cases hf
  · obtain ⟨o, hends⟩ := b.provider.binder.bind_ends (bodyContext t typeName r modelName)
    rw [bindBody_of_formatters h, ← hends.unhandled_iff]
    exact seen_eq_error_iff

/-- A binding that a caller is given is a set model beside an empty dictionary, or exactly one
error under the empty key. -/
theorem bound_all_or_nothing {bound : BodyBinding t}
    (h : (b.bindBody t typeName r modelName).1 = .ok bound) :
    (bound.isModelSet = true ∧ bound.modelState = .empty ∧
        ∀ v, bound.model? = some v ↔
          b.provider.binder.answer? (bodyContext t typeName r modelName) =
            some (.ok (.success (some ⟨t, v⟩)))) ∨
      (bound.isModelSet = false ∧ bound.model? = none ∧
        ∃ e, bound.modelState = (ModelState.empty.add "" e).2) := by
  have hsome : b.provider.binder.formatters.list ≠ [] := by
    intro hnone
    rw [bindBody_of_no_formatters (List.isEmpty_iff.mpr hnone)] at h
    cases h
  rw [bindBody_of_formatters hsome] at h
  obtain ⟨hgiven, rfl⟩ := seen_eq_ok_iff.mp h
  obtain ⟨o, hends⟩ := b.provider.binder.bind_ends (bodyContext t typeName r modelName)
  rw [hgiven] at hends
  rcases hends.all_or_nothing rfl rfl with ⟨hset, hstate⟩ | ⟨hfailed, e, hstate⟩
  · refine .inl ⟨hset, hstate, fun v => ?_⟩
    rw [← BodyBinder.result_eq_success_iff rfl]
    cases hresult :
        (b.provider.binder.bind (bodyContext t typeName r modelName)).context.result with
    | failed =>
      rw [hresult] at hset
      cases hset
    | success model? =>
      rw [BindingResult.success.injEq]
      exact Model.bind_as?_eq_some_iff
  · refine .inr ⟨?_, ?_, e, hstate⟩
    · simp only [hfailed, BindingResult.isModelSet]
    · simp only [hfailed, BindingResult.model?, Option.bind_none]

/-- Binding the body of a request is all or nothing. A caller is told of a mistake in how
binding was put together exactly if there is no formatter, and then nothing was done at all;
an exception is given to a caller exactly if the selected formatter failed with it and nobody
records it. In every other case there is a binding. It is valid exactly if its model is set;
if not, it has one error, under the empty key, and no model, and if it is, the model is there
exactly if the formatter has read a value of the type that was asked for. -/
theorem bindBody_all_or_nothing (b : ModelBinding) (t : ModelType) (typeName : String)
    (r : Request) (modelName : String) :
    let binder := b.provider.binder
    let c := bodyContext t typeName r modelName
    let made := b.bindBody t typeName r modelName
    ((∃ m, made.1 = .error (.internal m)) ↔ binder.formatters.list = []) ∧
      (binder.formatters.list = [] → made.2 = (r, [])) ∧
      (∀ x, made.1 = .error (.unhandled x) ↔
        ∃ e, binder.FailsWith c e ∧ x = e.toException) ∧
      (binder.formatters.list ≠ [] → (∀ e, ¬ binder.FailsWith c e) →
        ∃ bound, made.1 = .ok bound) ∧
      ∀ bound, made.1 = .ok bound →
        bound.isValid = bound.isModelSet ∧
        (bound.isModelSet = false →
          (∃ e, bound.modelState.entries.toList = [("", [e])]) ∧ bound.model? = none) ∧
        (bound.isModelSet = true →
          bound.modelState = .empty ∧ bound.modelState.entries.toList = [] ∧
            ∀ v, bound.model? = some v ↔
              binder.answer? c = some (.ok (.success (some ⟨t, v⟩)))) := by
  intro binder c made
  have hnothing (h : binder.formatters.list = []) :
      made = (.error (.internal noFormattersMessage), r, []) :=
    bindBody_of_no_formatters (List.isEmpty_iff.mpr h) t typeName r modelName
  refine ⟨⟨?_, fun h => ⟨noFormattersMessage, by rw [hnothing h]⟩⟩, fun h => by rw [hnothing h],
    fun x => bindBody_unhandled_iff, ?_, ?_⟩
  · rintro ⟨m, hm⟩
    by_contra hsome
    exact bindBody_ne_internal hsome m hm
  · intro hsome hfails
    match hmade : made.1 with
    | .ok bound => exact ⟨bound, rfl⟩
    | .error (.internal m) => exact absurd hmade (bindBody_ne_internal hsome m)
    | .error (.unhandled x) =>
      obtain ⟨e, he, -⟩ := bindBody_unhandled_iff.mp hmade
      exact absurd he (hfails e)
  · intro bound hbound
    rcases bound_all_or_nothing hbound with ⟨hset, hstate, hmodel⟩ | ⟨hunset, hnone, e, hstate⟩
    · refine ⟨?_, fun h => absurd (h.symm.trans hset) nofun, fun _ => ⟨hstate, ?_, hmodel⟩⟩
      · rw [BodyBinding.isValid, hstate, hset, ModelState.isValid_empty]
      · rw [hstate]
        rfl
    · refine ⟨?_, fun _ => ⟨⟨e, ?_⟩, hnone⟩, fun h => absurd (hunset.symm.trans h) nofun⟩
      · rw [BodyBinding.isValid, hstate, hunset, ModelState.isValid_add_empty]
      · rw [hstate, ModelState.entries_add_empty]

/-- A formatter that reads text sets the model of whoever asks for a number, which is not
there. -/
theorem bindBody_all_or_nothing_other_type :
    let f : InputFormatter := ⟨"Text", "text", fun _ => true,
      fun c => (.ok (.success (some ⟨.text, "hello"⟩)), c.request.body), false⟩
    let b : ModelBinding := (ModelBindingSetup.build { formatters := ⟨[f]⟩ }).1
    ∃ bound, (b.bindBody .number "u32" {} "count").1 = .ok bound ∧ bound.isModelSet = true ∧
      bound.isValid = true ∧ ∀ v, bound.model? ≠ some v := by
  intro f b
  obtain ⟨-, -, -, htotal, hbound⟩ := bindBody_all_or_nothing b .number "u32" {} "count"
  obtain ⟨bound, hmade⟩ := htotal nofun (by
    rintro e ⟨g, hg, hread, -⟩
    cases hg
    cases hread)
  have hset : bound.isModelSet = true := by
    cases hmade
    rfl
  obtain ⟨hvalid, -, hmodel⟩ := hbound bound hmade
  refine ⟨bound, hmade, hset, hvalid.trans hset, fun v hv => ?_⟩
  have hanswer := ((hmodel hset).2.2 v).mp hv
  cases hanswer

end ModelBinding

end RequestBinding
