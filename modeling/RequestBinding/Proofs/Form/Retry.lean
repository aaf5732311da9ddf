import RequestBinding.Proofs.BodyUse

/-!
# Reading a form again after a failure

A read that fails leaves its feature without a form, so that the form may be read
again, through the same feature or one with other limits. What the next read finds
depends on how far the first one got. A form that is refused for the head of the
request (`RefusedUnread`) leaves the request as it was. Every other failure has
taken the stream of the body, and no feature gets at the form any more.

Results:
1. `RefusedUnread.of_headers`: these refusals are about the headers alone.
2. `performAll_of_refused`: any number of them leaves the request as it was.
3. `failed_read`: which later reads are as good as the first, and what the others answer.
-/

namespace RequestBinding

/-- Whether a form is refused unread is settled by the headers of the request. -/
theorem RefusedUnread.of_headers {o : FormOptions} {r s : Request} {e : FormError}
    (hsame : s.headers = r.headers) (h : RefusedUnread o r e) : RefusedUnread o s e := by
  obtain ⟨id?, method, uri, headers, body, features⟩ := s
  subst hsame
  cases h with
  | noMediaType hm => exact .noMediaType hm
  | otherType hm hurl hdata => exact .otherType hm hurl hdata
  | declaredTooLarge hm hurl hbuffer hn hlarge =>
    exact .declaredTooLarge hm hurl hbuffer hn hlarge
  | noBoundary hm hdata hnone => exact .noBoundary hm hdata hnone
  | longBoundary hm hdata hsome hlong => exact .longBoundary hm hdata hsome hlong

theorem BodyUse.performAll_headers (r : Request) (us : List BodyUse) :
    (performAll r us).headers = r.headers := by
  induction us generalizing r with
  | nil => rfl
  | cons u us ih =>
    have hstep : (u.perform r).2.headers = r.headers :=
      congrArg (·.2.headers) (perform_eq_effect u r r.body)
    exact (ih _).trans hstep

namespace FormFeature

open BodyUse (performAll)

variable {f : FormFeature} {r : Request} {e : FormError}

/-! ## One read -/

theorem read_of_refused (hf : f.form? = none) (he : RefusedUnread f.options r e) :
    f.read r = ⟨.error e, f, r.body, []⟩ := by
  have hparse : parseForm f.options r = (.error e, r.body) :=
    parseForm_of_refusedUnread he r.body
  simp only [read, hf, hparse]

theorem read_of_consumed (hneeds : f.NeedsBody r) (hr : r.body.consumed = true) :
    f.read r = ⟨.error (.io bodyConsumed), f, r.body, []⟩ := by
  have hread : f.readOn r r.body = ((.error (.io bodyConsumed), f, []), r.body) :=
    (read_takes hneeds).of_consumed hr
  exact congrArg (fun p => FormRead.mk p.1.1 p.1.2.1 p.2 p.1.2.2) hread

/-- A failed read leaves the feature as it was. -/
theorem read_error_feature (he : (f.read r).result = .error e) : (f.read r).feature = f := by
  unfold read at *
  split at he
  · cases he
  · split at he
    · cases he
    · rfl

/-- A failure that is no refusal of the head has got as far as the body. -/
theorem needsBody_of_error (hf : f.form? = none) (he : (f.read r).result = .error e)
    (hnot : ¬ RefusedUnread f.options r e) : f.NeedsBody r := by
  refine ⟨hf, fun e' he' => hnot ?_⟩
  rw [read_of_refused hf he'] at he
  cases he
  exact he'

/-! ## Reads in a row -/

/-- Features that refuse the form unread leave the request as it was. -/
theorem performAll_of_refused {fs : List FormFeature}
    (hfs : ∀ g ∈ fs, g.form? = none ∧ ∃ e, RefusedUnread g.options r e) :
    performAll r (fs.map .readFeature) = r := by
  induction fs with
  | nil => rfl
  | cons g fs ih =>
    obtain ⟨hg, e, he⟩ := hfs g List.mem_cons_self
    have hstep : ((BodyUse.readFeature g).perform r).2 = r := by
      simp only [BodyUse.perform, read_of_refused hg he]
    rw [List.map_cons, performAll, List.foldl_cons, hstep]
    exact ih fun k hk => hfs k (List.mem_cons_of_mem g hk)

/-- A feature whose read of an unread body failed has still no form. If the form was
refused for the head of the request, the body is still unread, and a read through any
feature, right then or after more such refusals, is what it would have been at first.
Otherwise the body is consumed: whatever else is done with it, a later read through a
feature without a form is refused by its own checks of the head, or else fails for the
body that is gone. -/
theorem failed_read (f : FormFeature) (r : Request) (e : FormError) (hf : f.form? = none)
    (hr : r.body.consumed = false) (he : (f.read r).result = .error e) :
    let left := { r with body := (f.read r).body }
    (f.read r).feature = f ∧
      (RefusedUnread f.options r e →
        left.body.consumed = false ∧
        ∀ fs : List FormFeature,
          (∀ g ∈ fs, g.form? = none ∧ ∃ e', RefusedUnread g.options r e') →
          ∀ f' : FormFeature,
            f'.read (performAll left (fs.map .readFeature)) = f'.read r) ∧
      (¬ RefusedUnread f.options r e →
        left.body.consumed = true ∧
        ∀ (uses : List BodyUse) (f' : FormFeature), f'.form? = none →
          let s := performAll left uses
          (∀ e', RefusedUnread f'.options r e' → f'.read s = ⟨.error e', f', s.body, []⟩) ∧
          ((∀ e', ¬ RefusedUnread f'.options r e') →
            f'.read s = ⟨.error (.io bodyConsumed), f', s.body, []⟩)) := by
  intro left
  refine ⟨read_error_feature he, ?_, ?_⟩
  · intro hrefused
    have hleft : left = r := by
      simp only [left, read_of_refused hf hrefused]
    rw [hleft]
    refine ⟨hr, fun fs hfs f' => ?_⟩
    rw [performAll_of_refused hfs]
  · intro hnot
    have hconsumed : left.body.consumed = true :=
      (read_takes (needsBody_of_error hf he hnot)).consumed r.body
    refine ⟨hconsumed, fun uses f' hf' => ?_⟩
    intro s
    -- the head is still that of the first request, and the body stays gone
    have hheaders : s.headers = r.headers := BodyUse.performAll_headers left uses
    have hbody : s.body.consumed = true := by
      rw [BodyUse.performAll_body_of_consumed hconsumed uses]
      exact hconsumed
    constructor
    · intro e' he'
      exact read_of_refused hf' (he'.of_headers hheaders)
    · intro hno
      exact read_of_consumed ⟨hf', fun e' he' => hno e' (he'.of_headers hheaders.symm)⟩ hbody

/-- A form that was declared too large for one feature is read by another one; a form
whose stream breaks off is lost for it. -/
theorem failed_read_again :
    let tight : FormFeature := .ofOptions { bufferBody := true, bufferBodyLengthLimit := 2 }
    let other : FormFeature := .ofOptions {}
    let type := ("content-type", Utf8.encode urlEncodedType)
    let declared : Request :=
      { headers := ⟨[type, ("content-length", Utf8.encode "3")]⟩
        body := .ofStream ⟨[.chunk (Utf8.encode "a=b")], true⟩ }
    let failure : BodyItem := .failure ⟨.connectionReset, "connection reset"⟩
    let broken : Request :=
      { headers := ⟨[type]⟩
        body := .ofStream ⟨[.chunk (Utf8.encode "a="), failure], true⟩ }
    (tight.read declared).result.isOk = false ∧ (other.read declared).result.isOk = true ∧
      other.read { declared with body := (tight.read declared).body } = other.read declared ∧
      (tight.read broken).result.isOk = false ∧
      (other.read { broken with body := (tight.read broken).body }).result =
        .error (.io bodyConsumed) := by
  intro tight other type declared failure broken
  have hdeclared : (tight.read declared).result.isOk = false ∧
      (tight.read declared).body.consumed = false ∧
      (other.read declared).result.isOk = true := by
    decide +kernel
  have hbroken : (tight.read broken).result.isOk = false ∧
      (tight.read broken).body.consumed = true ∧ (other.read broken).body.consumed = true := by
    decide +kernel
  refine ⟨hdeclared.1, hdeclared.2.2, ?_, hbroken.1, ?_⟩
  · cases he : (tight.read declared).result with
    | ok form => rw [he] at hdeclared; cases hdeclared.1
    | error e =>
      obtain ⟨-, hagain, hlost⟩ := failed_read tight declared e rfl rfl he
      refine (hagain ?_).2 [] (fun g hg => absurd hg List.not_mem_nil) other
      refine Classical.byContradiction fun hnot => ?_
      have hconsumed := (hlost hnot).1
      rw [hdeclared.2.1] at hconsumed
      cases hconsumed
  · cases he : (tight.read broken).result with
    | ok form => rw [he] at hbroken; cases hbroken.1
    | error e =>
      obtain ⟨-, hagain, hlost⟩ := failed_read tight broken e rfl rfl he
      have hneeds : other.NeedsBody broken := by
        rcases (BodyUse.perform_consumed_iff (u := .readFeature other)).mp hbroken.2.2 with h | h
        · cases h
        · exact h
      have hnot : ¬ RefusedUnread tight.options broken e := by
        intro hrefused
        have hunread := (hagain hrefused).1
        rw [hbroken.2.1] at hunread
        cases hunread
      exact congrArg FormRead.result (((hlost hnot).2 [] other rfl).2 hneeds.2)

end FormFeature

end RequestBinding
