import RequestBinding.Proofs.Binder.Body
import RequestBinding.Proofs.Text.Utf8

/-!
# The story of a selection

Formatters are asked in turn until one can read the request. What an attempt to bind tells
of this is settled by the formatters that were passed over and by the one that was selected
(`selectionEvents`), and all of it is told before that formatter reads. Apart from these
events the formatters that were passed over leave no trace, and those behind the selected
one are not even asked.

Results:
1. `Request.encode_contentType`, `Request.contentType_of_not_text`: the content type that
   events carry is the declared one, byte for byte, or nothing.
2. `bind_journal_of_none`, `bind_journal_of_some`: an attempt tells the events of its
   selection first, and no event later.
3. `bind_alone`: what an attempt does is what the selected formatter alone would do.
4. `bind_append`: formatters behind one that can read do not matter.
5. `selection_told`: the selection of any attempt.
-/

namespace RequestBinding

/-! ## The declared content type -/

theorem encode_of_visibleText? {v : Bytes} {s : String} (h : visibleText? v = some s) :
    Utf8.encode s = v := by
  rw [visibleText?] at h
  split at h
  · next hall =>
    cases h
    rw [Utf8.encode, String.toList_ofList]
    induction v with
    | nil => rfl
    | cons b rest ih =>
      rw [List.all_cons, Bool.and_eq_true] at hall
      have hascii : b.toNat < 0x80 := by
        have hvisible := hall.1
        simp only [isVisibleByte, Bool.or_eq_true, Bool.and_eq_true, decide_eq_true_eq,
          beq_iff_eq, UInt8.le_iff_toNat_le] at hvisible
        rcases hvisible with ⟨-, hle⟩ | rfl
        · exact Nat.lt_of_le_of_lt hle (by decide)
        · decide
      rw [List.map_cons, List.flatMap_cons, Utf8.SequenceLemmas.encodeChar_one hascii, ih hall.2]
      rfl
  · cases h

namespace Request

/-- The first value of the field for the content type is text. -/
def DeclaresText (r : Request) (v : Bytes) : Prop :=
  r.headers.first? "content-type" = some v ∧ v.all isVisibleByte = true

/-- A content type that is text is given as it was received. -/
theorem encode_contentType {r : Request} {v : Bytes} (h : r.DeclaresText v) :
    Utf8.encode r.contentType = v := by
  have htext : r.headers.contentType? =
      some (String.ofList (v.map fun b => Char.ofNat b.toNat)) := by
    simp only [Headers.contentType?, h.1, visibleText?, h.2, if_true]
  rw [contentType, htext, Option.getD_some]
  exact encode_of_visibleText? (by simp only [visibleText?, h.2, if_true])

/-- Any other one is left out. -/
theorem contentType_of_not_text {r : Request} (h : ∀ v, ¬ r.DeclaresText v) :
    r.contentType = "" := by
  have hnone : r.headers.contentType? = none := by
    rw [Headers.contentType?]
    split
    · next v hv =>
      rw [visibleText?, if_neg fun hall => h v ⟨hv, hall⟩]
    · rfl
  rw [contentType, hnone, Option.getD_none]

end Request

/-! ## Selection among formatters -/

namespace FormatterCollection

variable {c : FormatterContext} {l : List InputFormatter}

/-- The formatters that are asked in vain. -/
def passedOver (c : FormatterContext) (l : List InputFormatter) : List InputFormatter :=
  l.takeWhile fun f => !f.canRead c

/-- The event at the end of a selection. -/
def endOfSelection (c : FormatterContext) : Option InputFormatter → Event
  | some f => .selectedFormatter f.name c.request.contentType
  | none => .noFormatterFound c.request.contentType c.modelName

/-- A selection tells of each formatter that it passes over, and then of its end. -/
theorem selectFrom_snd (sink : Sink) (c : FormatterContext) (l : List InputFormatter) :
    (selectFrom sink c l).2 =
      ((passedOver c l).map (fun f => Event.rejectedFormatter f.name c.request.contentType) ++
        [endOfSelection c (l.find? (·.canRead c))]).map sink.emit := by
  induction l with
  | nil => rfl
  | cons f rest ih =>
    cases hf : f.canRead c with
    | true =>
      simp only [selectFrom, passedOver, List.takeWhile_cons, List.find?_cons, hf, if_true,
        Bool.not_true, Bool.false_eq_true, if_false]
      rfl
    | false =>
      simp only [selectFrom, hf, Bool.false_eq_true, if_false, ih, passedOver,
        List.takeWhile_cons, List.find?_cons, Bool.not_false, if_true]
      rfl

/-- Nobody asks the formatters behind one that can read. -/
theorem selectFrom_append {before : List InputFormatter} {f : InputFormatter}
    (hf : f.canRead c = true) (sink : Sink) (after : List InputFormatter) :
    selectFrom sink c (before ++ f :: after) = selectFrom sink c (before ++ [f]) := by
  induction before with
  | nil => simp only [List.nil_append, selectFrom, hf, if_true]
  | cons g rest ih => simp only [List.cons_append, selectFrom, ih]

end FormatterCollection

/-! ## Selection in an attempt -/

namespace BodyBinder

variable {b : BodyBinder} {c : BindingContext}

/-- The formatters that an attempt asks in vain. -/
def passedOver (b : BodyBinder) (c : BindingContext) : List InputFormatter :=
  FormatterCollection.passedOver (b.formatterContext c) b.formatters.list

/-- The events of a selection: a rejection for each formatter that is passed over, in the
order of the formatters, and then the selection, or that there is none and an advice. -/
def selectionEvents (b : BodyBinder) (c : BindingContext) : List Event :=
  (b.passedOver c).map (fun f => .rejectedFormatter f.name c.request.contentType) ++
    match b.selected? c with
    | some f => [.selectedFormatter f.name c.request.contentType]
    | none =>
      [.noFormatterFound c.request.contentType c.modelName,
        .removeFromBodyAdvice c.modelName c.metadata.typeName]

/-- The binder with other formatters. -/
def withFormatters (b : BodyBinder) (l : List InputFormatter) : BodyBinder :=
  { b with formatters := ⟨l⟩ }

theorem selectionJournal_eq (b : BodyBinder) (c : BindingContext) :
    b.selectionJournal c =
      ((b.passedOver c).map (fun f => Event.rejectedFormatter f.name c.request.contentType) ++
        [FormatterCollection.endOfSelection (b.formatterContext c) (b.selected? c)]).map
          b.sink.emit :=
  FormatterCollection.selectFrom_snd b.sink (b.formatterContext c) b.formatters.list

/-- An attempt without a formatter tells of its selection, and counts its end. -/
theorem bind_journal_of_none (h : b.selected? c = none) :
    (b.bind c).journal = (b.selectionEvents c).map b.sink.emit ++
      [.measurement (.binding .noFormatter Measurement.noFormatterLabel)] := by
  rw [journal_bind_of_none h, selectionJournal_eq, selectionEvents, h, List.map_append, List.map_append,
    List.append_assoc, List.append_assoc]
  rfl

/-- An attempt with a formatter tells of its selection, and then of its read. -/
theorem bind_journal_of_some {f : InputFormatter} (h : b.selected? c = some f) :
    (b.bind c).journal = (b.selectionEvents c).map b.sink.emit ++ .measurement (.read f.name) ::
      (b.conclude f c (f.read (b.formatterContext c)).1).journal := by
  rw [journal_bind_of_some h, selectionJournal_eq, selectionEvents, h]
  rfl

theorem emit_ne_unhandledRecord (sink : Sink) (e : Event) (formatter : String) (r : ReadError) :
    sink.emit e ≠ .record (unhandledRecord formatter r) := by
  -- an event is logged for debugging, a failed read as a warning
  cases sink with
  | recording => exact nofun
  | logging =>
    intro h
    cases congrArg LogRecord.level (Signal.record.inj h)

theorem emit_ne_measurement (sink : Sink) (e : Event) (m : Measurement) :
    sink.emit e ≠ .measurement m := by
  cases sink with
  | recording => exact nofun
  | logging => exact nofun

theorem emit_not_mem_conclude (b : BodyBinder) (f : InputFormatter) (c : BindingContext)
    (answer : Except ReadError ReadResult) (sink : Sink) (e : Event) :
    sink.emit e ∉ (b.conclude f c answer).journal := by
  have hmeasurement := emit_ne_measurement sink e
  have hrecord := emit_ne_unhandledRecord sink e
  match answer with
  | .ok (.success model?) => simp [conclude, hmeasurement]
  | .ok .noValue => simp [conclude, hmeasurement]
  | .error r =>
    simp only [conclude]
    split
    · simp [hmeasurement]
    · split
      · simp [hmeasurement]
      · simp [hmeasurement, hrecord]

/-- An attempt without a formatter records its error and does nothing else. -/
theorem bind_context_of_none (h : b.selected? c = none) :
    (b.bind c).context = c.recordException (.unsupportedContentType c.request.contentType) := by
  rw [bind_eq_of_none h]
  rfl

/-- Binders that select the same, and tell the same of it, do the same. -/
theorem bind_withFormatters {l : List InputFormatter}
    (h : FormatterCollection.selectFrom b.sink (b.formatterContext c) l =
      FormatterCollection.selectFrom b.sink (b.formatterContext c) b.formatters.list) :
    (b.withFormatters l).bind c = b.bind c := by
  have hselect : (b.withFormatters l).formatters.select b.sink (b.formatterContext c) =
      b.formatters.select b.sink (b.formatterContext c) := h
  simp only [bind]
  rw [show (b.withFormatters l).sink = b.sink from rfl,
    show (b.withFormatters l).formatterContext c = b.formatterContext c from rfl, hselect]
  rfl

/-- Formatters behind one that can read do not matter. -/
theorem bind_append {before after : List InputFormatter} {f : InputFormatter}
    (hl : b.formatters.list = before ++ f :: after)
    (hf : f.canRead (b.formatterContext c) = true) (others : List InputFormatter) :
    (b.withFormatters (before ++ f :: others)).bind c = b.bind c := by
  refine bind_withFormatters ?_
  rw [hl, FormatterCollection.selectFrom_append hf b.sink others,
    FormatterCollection.selectFrom_append hf b.sink after]

/-- What an attempt does is what it would do with the selected formatter alone. -/
theorem bind_alone {f : InputFormatter} (hf : b.selected? c = some f) :
    (b.bind c).outcome = ((b.withFormatters [f]).bind c).outcome ∧
      (b.bind c).context = ((b.withFormatters [f]).bind c).context := by
  have hread : f.canRead (b.formatterContext c) = true :=
    List.find?_some (p := fun g : InputFormatter => g.canRead (b.formatterContext c)) hf
  have hown : (b.withFormatters [f]).selected? c = some f := List.find?_cons_of_pos hread
  rw [bind_eq_of_some hf, bind_eq_of_some hown]
  exact ⟨rfl, rfl⟩

/-- The selection of an attempt is told first: a rejection for each formatter that cannot
read, up to the first that can, and then its selection, or that there is none and an advice.
No event follows, and the read stands behind them all. The events carry the content type as
it was received, or nothing if there is none that is text. Without a formatter the attempt
records its error and leaves the rest of the context, the body included, as it was; a
formatter that is selected finds the request as it was, and does what it would do alone.
Formatters behind one that can read change nothing. -/
theorem selection_told (b : BodyBinder) (c : BindingContext) :
    (∃ later : Journal,
      (b.bind c).journal = (b.selectionEvents c).map b.sink.emit ++
          (b.selected? c).toList.map (fun f => .measurement (.read f.name)) ++ later ∧
        ∀ e, b.sink.emit e ∉ later) ∧
      (∀ v, c.request.DeclaresText v → Utf8.encode c.request.contentType = v) ∧
      ((∀ v, ¬ c.request.DeclaresText v) → c.request.contentType = "") ∧
      (b.selected? c = none → (b.bind c).context =
        c.recordException (.unsupportedContentType c.request.contentType)) ∧
      (∀ f, b.selected? c = some f →
        (b.bind c).context.request =
            { c.request with body := (f.read (b.formatterContext c)).2 } ∧
          (b.bind c).outcome = ((b.withFormatters [f]).bind c).outcome ∧
          (b.bind c).context = ((b.withFormatters [f]).bind c).context) ∧
      ∀ before f after others, b.formatters.list = before ++ f :: after →
        f.canRead (b.formatterContext c) = true →
          (b.withFormatters (before ++ f :: others)).bind c = b.bind c := by
  refine ⟨?_, fun v => Request.encode_contentType, Request.contentType_of_not_text, ?_, ?_, ?_⟩
  · cases hf : b.selected? c with
    | none =>
      refine ⟨[.measurement (.binding .noFormatter Measurement.noFormatterLabel)], ?_, ?_⟩
      · rw [bind_journal_of_none hf, Option.toList_none, List.map_nil, List.append_nil]
      · exact fun e he => emit_ne_measurement b.sink e _ (List.mem_singleton.mp he)
    | some f =>
      refine ⟨_, ?_, emit_not_mem_conclude b f c (f.read (b.formatterContext c)).1 b.sink⟩
      rw [bind_journal_of_some hf, Option.toList_some, List.append_assoc]
      rfl
  · exact bind_context_of_none
  · intro f hf
    exact ⟨(bind_of_some hf).2, bind_alone hf⟩
  · intro before f after others hl hf
    exact bind_append hl hf others

/-- The second of three formatters is selected; the third might as well not be there. -/
theorem selection_told_second :
    let formatter (name : String) (accepts : Bool) : InputFormatter :=
      ⟨name, "plain", fun _ => accepts, fun c => (.ok .noValue, c.request.body), false⟩
    let b : BodyBinder :=
      ⟨⟨[formatter "A" false, formatter "B" true, formatter "C" true]⟩, {}, .recording⟩
    let v : Bytes := Utf8.encode "text/plain; charset=\"utf-8\""
    let c : BindingContext := .topLevel { headers := ⟨[("content-type", v)]⟩ } .empty
      ⟨.text, "String", some .body, {}, false⟩ "note"
    let declared := c.request.contentType
    Utf8.encode declared = v ∧
      (b.bind c).journal.events =
        [.rejectedFormatter "A" declared, .selectedFormatter "B" declared] ∧
      (b.withFormatters [formatter "A" false, formatter "B" true]).bind c = b.bind c ∧
      (b.bind c).context = ((b.withFormatters [formatter "B" true]).bind c).context := by
  intro formatter b v c declared
  obtain ⟨-, htype, -, -, halone, hbehind⟩ := selection_told b c
  refine ⟨htype v ⟨rfl, by decide +kernel⟩, rfl, ?_, (halone (formatter "B" true) rfl).2.2⟩
  exact hbehind [formatter "A" false] (formatter "B" true) [formatter "C" true] [] rfl rfl

end BodyBinder

end RequestBinding
