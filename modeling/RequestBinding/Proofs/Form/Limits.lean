import RequestBinding.Proofs.Form.Parts
import RequestBinding.Proofs.Form.UrlEncoded

/-!
# Every form that is read is within its limits

Both readers check what they add to a form before they add it, so a form is within the limits
because that of which it was made is: the pairs of a url-encoded body, and the parts of a
delivery that was accepted. The reader of parts counts heads, not fields and files; that there
are no more of these than heads follows from the way in which a body is delivered.

Results:
1. `UrlEncoded.readStream_within`: a url-encoded form is within the limits, however
   its stream goes.
2. `Multipart.readStream_within`: a multipart form is within the limits.
3. `parseForm_within`: so is the form of every request.
-/

namespace RequestBinding

/-! ## Forms within limits -/

/-- A form that is within limits: the number of its values and files, the length of
its keys and of the names of its files, and the length of its values. -/
structure Form.Within (o : FormOptions) (f : Form) : Prop where
  count : f.count ≤ o.valueCountLimit.toNat
  key : ∀ key ∈ f.fields.keys, byteLength key ≤ o.keyLengthLimit.toNat
  fileName : ∀ file ∈ f.files, byteLength file.name ≤ o.keyLengthLimit.toNat
  value : ∀ value ∈ f.fields.values, byteLength value ≤ o.valueLengthLimit.toNat

/-- What a form was made of says whether it is within the limits. -/
theorem Form.Within.ofList {o : FormOptions} {fields : List (String × String)}
    {files : List FormFile} (count : fields.length + files.length ≤ o.valueCountLimit.toNat)
    (key : ∀ v ∈ fields, byteLength v.1 ≤ o.keyLengthLimit.toNat)
    (fileName : ∀ file ∈ files, byteLength file.name ≤ o.keyLengthLimit.toNat)
    (value : ∀ v ∈ fields, byteLength v.2 ≤ o.valueLengthLimit.toNat) :
    Form.Within o ⟨.ofList fields, files⟩ := by
  refine ⟨?_, Grouped.forall_keys_ofList key, fileName, Grouped.forall_values_ofList value⟩
  rw [Form.count, Grouped.count_ofList]
  exact count

/-! ## Url-encoded forms -/

namespace UrlEncoded

/-- The form of pairs that are within the limits is. -/
theorem Within.form {o : FormOptions} {l : List (String × String)} (h : Within o l) :
    Form.Within o (.ofPairs l) :=
  .ofList h.count h.key (List.forall_mem_nil _) h.value

/-- Of every state of a read there are bytes that lead to it. -/
theorem step_after {o : FormOptions} (p : Progress) (chunk : Bytes) (p' : Progress)
    (h : ∃ bs, After o bs p.reader) (hstep : p.step o chunk = .ok p') :
    ∃ bs, After o bs p'.reader := by
  obtain ⟨bs, hafter⟩ := h
  rw [Progress.step] at hstep
  split at hstep
  · cases hstep
  · split at hstep
    · next r hpush =>
      cases hstep
      exact ⟨bs ++ chunk, (push_spec chunk hafter).1 r hpush⟩
    · cases hstep

/-- A url-encoded form is within the limits, however its stream is cut and paced. -/
theorem readStream_within {o : FormOptions} {stream : BodyStream} {form : Form}
    (h : (readStream o stream).1 = .ok form) : form.Within o := by
  rw [readStream] at h
  split at h
  · next p pulled hfeed =>
    have hlast : ∃ bs, After o bs p.reader :=
      Body.feedItems_invariant step_after ⟨[], After.start o⟩ (congrArg Prod.fst hfeed)
    obtain ⟨bs, hafter⟩ := hlast
    obtain ⟨hwithin, rfl⟩ := hafter.finish_ok h
    exact hwithin.form
  · cases h

theorem reserveAndRead_within {memory : Nat} {o : FormOptions} {declared? : Option UInt64}
    {stream : BodyStream} {form : Form}
    (h : (reserveAndRead memory o declared? stream).1 = .ok form) : form.Within o := by
  rw [reserveAndRead] at h
  split at h
  · exact readStream_within h
  · cases h

end UrlEncoded

/-! ## Multipart forms -/

namespace Multipart

variable {o : FormOptions}

/-- No part is both a field and a file. -/
theorem Part.field?_eq_none_or (p : Part) : p.field? = none ∨ p.file? = none := by
  unfold field? file?
  cases p.head.fileName? with
  | some fileName => exact .inl rfl
  | none => exact .inr rfl

/-- There are no more fields and files than parts. -/
theorem length_fields_add_length_files_le (parts : List Part) :
    (parts.filterMap Part.field?).length + (parts.filterMap Part.file?).length ≤ parts.length := by
  induction parts with
  | nil => exact Nat.le_refl 0
  | cons p rest ih =>
    rw [List.length_cons]
    rcases p.field?_eq_none_or with hfield | hfile
    · rw [List.filterMap_cons_none hfield, List.filterMap_cons]
      split
      · exact Nat.le_succ_of_le ih
      · exact Nat.succ_le_succ ih
    · rw [List.filterMap_cons_none hfile, List.filterMap_cons]
      split
      · exact Nat.le_succ_of_le ih
      · rw [List.length_cons, Nat.add_right_comm]
        exact Nat.succ_le_succ ih

theorem Part.Within.field {p : Part} (h : p.Within o) {v : String × String}
    (hv : p.field? = some v) :
    byteLength v.1 ≤ o.keyLengthLimit.toNat ∧ byteLength v.2 ≤ o.valueLengthLimit.toNat := by
  unfold Part.field? at hv
  split at hv
  · cases hv
  · next hfield =>
    obtain ⟨value, htext⟩ := h.text hfield
    rw [htext] at hv
    cases hv
    refine ⟨h.head.key, ?_⟩
    rw [← Utf8.length_encode, Utf8.encode_of_decode htext]
    exact h.data hfield

theorem Part.Within.file {p : Part} (h : p.Within o) {file : FormFile}
    (hfile : p.file? = some file) : byteLength file.name ≤ o.keyLengthLimit.toNat := by
  obtain ⟨fileName, -, rfl⟩ := Option.map_eq_some_iff.1 hfile
  exact h.head.key

/-- The form of a delivery that is accepted is within the limits. -/
theorem Delivery.Accepted.form {d : Delivery} (h : d.Accepted o) : d.form.Within o := by
  refine .ofList (Nat.le_trans (length_fields_add_length_files_le d.parts) h.count) ?_ ?_ ?_
  · intro v hv
    obtain ⟨p, hp, hfield⟩ := List.mem_filterMap.1 hv
    exact ((h.parts p hp).field hfield).1
  · intro file hfile
    obtain ⟨p, hp, hfile⟩ := List.mem_filterMap.1 hfile
    exact (h.parts p hp).file hfile
  · intro v hv
    obtain ⟨p, hp, hfield⟩ := List.mem_filterMap.1 hv
    exact ((h.parts p hp).field hfield).2

/-- A multipart form is within the limits. -/
theorem readStream_within {boundary : String} {stream : BodyStream} {form : Form}
    (h : (readStream o boundary stream).1 = .ok form) : form.Within o := by
  obtain ⟨d, hd, -⟩ := exists_delivery o.multipartBodyLengthLimit (Utf8.encode boundary) stream
  rw [readStream, readEvents_fst, hd] at h
  obtain ⟨haccepted, rfl⟩ := outcome_eq_ok_iff.1 h
  exact haccepted.form

end Multipart

/-! ## The form of a request -/

/-- The form of a request is within the limits by which it was read. -/
theorem parseForm_within {o : FormOptions} {r : Request} {form : Form}
    (h : (parseForm o r).1 = .ok form) : form.Within o := by
  obtain ⟨reader, hreader, hread⟩ := exists_formReader_of_ok h
  cases hreader with
  | urlEncoded declared? => exact UrlEncoded.reserveAndRead_within hread
  | multipart boundary => exact Multipart.readStream_within hread

end RequestBinding
