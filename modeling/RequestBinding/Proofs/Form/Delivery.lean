import RequestBinding.Form.Multipart

/-!
# Multipart bodies as parts

The splitter tells a body part by part: a head, pieces of data, the end of the part; and
then that the body is closed, or that it failed, between two parts or inside one. So what it
tells of a stream is always a row of whole parts with an ending (`Delivery`), and nothing that
is read of the stream depends on more than that.

Results:
1. `poll_follows`: what can be done at a stage; data and the end of a part are told only
   inside a part.
2. `eventsFrom_told`: from any stage on, a body is told part by part.
3. `exists_delivery`: every stream is delivered as parts with an ending, and a stream that is
   too large for a limit names that limit.
-/

namespace RequestBinding

/-- A failure that is about the length of the stream names its limit. -/
def MultipartError.NamesLimit (limit : UInt64) (e : MultipartError) : Prop :=
  ∀ n, e = .streamTooLarge n → n = limit

namespace Multipart

/-! ## What is told at a stage -/

/-- A part is open. -/
def Stage.inPart : Stage → Bool
  | data _ => true
  | _ => false

/-- What can be done at a stage: a part begins with its head, pieces of data and the end of a
part are told only while it is open, and the body is closed only while none is. -/
inductive Follows (limit : UInt64) (stage : Stage) : Action → Prop
  | closed (h : stage.inPart = false) : Follows limit stage (.stop .closed)
  | failed {e : MultipartError} (h : e.NamesLimit limit) :
      Follows limit stage (.stop (.failed e))
  | wait {next : Stage} {rest : Bytes} (h : next.inPart = stage.inPart) :
      Follows limit stage (.wait next rest)
  | head (h : stage.inPart = false) (head : PartHead) (rest : Bytes) :
      Follows limit stage (.tell [.head head] (.data head.name?) rest)
  | piece {next : Stage} (h : stage.inPart = true) (hnext : next.inPart = true)
      (bytes rest : Bytes) : Follows limit stage (.tell [.data bytes] next rest)
  | last (h : stage.inPart = true) (bytes rest : Bytes) :
      Follows limit stage (.tell [.data bytes, .partEnd] .boundary rest)

section

variable {limit : UInt64} {stage : Stage} {ended : Bool}

theorem short_follows (hs : stage.inPart = false) {next : Stage} (h : next.inPart = false)
    (rest : Bytes) : Follows limit stage (.short ended next rest) := by
  rw [Action.short]
  split
  · exact .failed nofun
  · exact .wait (h.trans hs.symm)

theorem readHeaders_follows (hs : stage.inPart = false) (bs : Bytes) :
    Follows limit stage (readHeaders ended bs) := by
  rw [readHeaders]
  split
  · exact short_follows hs rfl _
  · split
    · exact .failed nofun
    · split
      · exact .head hs _ _
      · exact .failed nofun

theorem readPadding_follows (hs : stage.inPart = false) (bs : Bytes) :
    Follows limit stage (readPadding ended bs) := by
  simp only [readPadding]
  split
  · exact short_follows hs rfl _
  · split
    · exact readHeaders_follows hs _
    · exact .failed nofun

theorem readKind_follows (hs : stage.inPart = false) (bs : Bytes) :
    Follows limit stage (readKind ended bs) := by
  rw [readKind]
  split
  · exact short_follows hs rfl _
  · split
    · exact .closed hs
    · exact readPadding_follows hs _

theorem readBoundary_follows (hs : stage.inPart = false) (boundary bs : Bytes) :
    Follows limit stage (readBoundary boundary ended bs) := by
  simp only [readBoundary]
  split
  · exact short_follows hs rfl _
  · split
    · exact readKind_follows hs _
    · exact .failed nofun

theorem readData_follows (boundary : Bytes) (name? : Option String) (bs : Bytes) :
    Follows limit (.data name?) (readData boundary name? ended bs) := by
  simp only [readData]
  split
  · split
    · exact .failed nofun
    · exact .wait rfl
  · split
    · exact .last rfl _ _
    · split
      · exact .failed nofun
      · split
        · exact .wait rfl
        · exact .piece rfl rfl _ _

theorem act_follows (boundary : Bytes) (stage : Stage) (bs : Bytes) :
    Follows limit stage (act boundary ended stage bs) := by
  cases stage with
  | preamble => exact .wait rfl
  | boundary => exact readBoundary_follows rfl boundary bs
  | kind => exact readKind_follows rfl bs
  | padding => exact readPadding_follows rfl bs
  | headers => exact readHeaders_follows rfl bs
  | data name? => exact readData_follows boundary name? bs

end

theorem takeItems_namesLimit {limit : UInt64} {s : Intake} {items : List BodyItem}
    {e : MultipartError} (h : (s.takeItems limit items).2 = some e) :
    e.NamesLimit limit := by
  induction items generalizing s with
  | nil => cases h
  | cons item rest ih =>
    cases item with
    | failure error =>
      cases h
      exact nofun
    | chunk b =>
      simp only [Intake.takeItems] at h
      split at h
      · cases h
        intro n hn
        exact (MultipartError.streamTooLarge.inj hn).symm
      · exact ih h

theorem fill_namesLimit {limit : UInt64} {s : Intake} {e : MultipartError}
    (h : (s.fill limit).2 = some e) : e.NamesLimit limit := by
  unfold Intake.fill at h
  split at h
  · cases h
  · exact takeItems_namesLimit h

/-- Whatever arrives, what is told fits the stage. -/
theorem poll_follows (limit : UInt64) (boundary : Bytes) (stage : Stage) (s : Intake) :
    Follows limit stage (poll limit boundary stage s).2 := by
  unfold poll
  split
  · next hfill => exact .failed (fill_namesLimit (congrArg Prod.snd hfill))
  · split
    · unfold seekBoundary
      split
      · exact readBoundary_follows rfl boundary _
      · split
        · next hfill => exact .failed (fill_namesLimit (congrArg Prod.snd hfill))
        · exact short_follows rfl rfl _
    · exact act_follows boundary _ _

/-- Events that are told part by part; `isOpen` says that they begin inside a part. -/
inductive Told (limit : UInt64) : (isOpen : Bool) → List PartEvent → Prop
  | closed : Told limit false [.closed]
  | failed {isOpen : Bool} {e : MultipartError} (h : e.NamesLimit limit) :
      Told limit isOpen [.failed e]
  | head {head : PartHead} {events : List PartEvent} (h : Told limit true events) :
      Told limit false (.head head :: events)
  | data {bytes : Bytes} {events : List PartEvent} (h : Told limit true events) :
      Told limit true (.data bytes :: events)
  | partEnd {events : List PartEvent} (h : Told limit false events) :
      Told limit true (.partEnd :: events)

/-- From any stage on, a body is told part by part. -/
theorem eventsFrom_told (limit : UInt64) (boundary : Bytes) (fuel : Nat) (stage : Stage)
    (s : Intake) :
    Told limit stage.inPart ((eventsFrom limit boundary fuel stage s).map Prod.fst) := by
  induction fuel generalizing stage s with
  | zero => exact .failed nofun
  | succ fuel ih =>
    have hfollows := poll_follows limit boundary stage s
    rw [eventsFrom]
    split
    · next hpoll =>
      rw [hpoll] at hfollows
      cases hfollows with
      | closed hs =>
        rw [hs]
        exact .closed
      | failed he => exact .failed he
    · next hpoll =>
      rw [hpoll] at hfollows
      cases hfollows with
      | wait hnext =>
        rw [← hnext]
        exact ih _ _
    · next hpoll =>
      rw [hpoll] at hfollows
      rw [List.map_append, List.map_map]
      cases hfollows with
      | head hs head rest =>
        rw [hs]
        exact .head (ih (.data head.name?) _)
      | piece hs hnext bytes rest =>
        rw [hs]
        exact .data (hnext ▸ ih _ _)
      | last hs bytes rest =>
        rw [hs]
        exact .data (.partEnd (ih .boundary _))

/-! ## Deliveries -/

/-- A part: its head, and its data in the pieces in which they came. -/
structure Part where
  head : PartHead
  pieces : List Bytes

namespace Part

def data (p : Part) : Bytes :=
  p.pieces.flatten

/-- The events of a part up to its end. -/
def opening (p : Part) : List PartEvent :=
  .head p.head :: p.pieces.map .data

/-- The events of a part. -/
def events (p : Part) : List PartEvent :=
  p.opening ++ [.partEnd]

end Part

/-- What comes after the parts that are complete. -/
inductive Ending where
  | closed
  | failed (error : MultipartError)
  /-- A failure inside a part, of which some data came before. -/
  | cut (part : Part) (error : MultipartError)

namespace Ending

def events : Ending → List PartEvent
  | closed => [.closed]
  | failed e => [.failed e]
  | cut p e => p.opening ++ [.failed e]

/-- The failure with which a delivery ends. -/
def error? : Ending → Option MultipartError
  | closed => none
  | failed e => some e
  | cut _ e => some e

end Ending

/-- A body as it is delivered. -/
structure Delivery where
  parts : List Part
  ending : Ending

namespace Delivery

def events (d : Delivery) : List PartEvent :=
  d.parts.flatMap Part.events ++ d.ending.events

/-- A stream that was too large was too large for this limit. -/
def NamesLimit (limit : UInt64) (d : Delivery) : Prop :=
  ∀ e, d.ending.error? = some e → e.NamesLimit limit

end Delivery

/-- What events make a delivery of: alone, if no part is open, and otherwise behind every head
with which the part can have begun and all pieces that can have come of it. -/
def Completes (limit : UInt64) (isOpen : Bool) (events : List PartEvent) : Prop :=
  if isOpen then
    ∀ p : Part, ∃ d : Delivery, p.opening ++ events = d.events ∧ d.NamesLimit limit
  else ∃ d : Delivery, events = d.events ∧ d.NamesLimit limit

/-- Events that are told part by part make a delivery. -/
theorem Told.completes {limit : UInt64} {isOpen : Bool} {events : List PartEvent}
    (h : Told limit isOpen events) : Completes limit isOpen events := by
  induction h with
  | closed => exact ⟨⟨[], .closed⟩, rfl, nofun⟩
  | @failed isOpen e he =>
    have hlimit : ∀ e', some e = some e' → e'.NamesLimit limit :=
      fun e' he' => Option.some.inj he' ▸ he
    cases isOpen with
    | false => exact ⟨⟨[], .failed e⟩, rfl, hlimit⟩
    | true => exact fun p => ⟨⟨[], .cut p e⟩, rfl, hlimit⟩
  | @head head events _ ih => exact ih ⟨head, []⟩
  | @data bytes events _ ih =>
    intro p
    obtain ⟨d, hd, hlimit⟩ := ih ⟨p.head, p.pieces ++ [bytes]⟩
    refine ⟨d, ?_, hlimit⟩
    rw [← hd, Part.opening, Part.opening, List.map_append, List.cons_append, List.cons_append,
      List.append_assoc]
    rfl
  | @partEnd events _ ih =>
    intro p
    obtain ⟨d, hd, hlimit⟩ := ih
    refine ⟨⟨p :: d.parts, d.ending⟩, ?_, hlimit⟩
    rw [hd, Delivery.events, Delivery.events, List.flatMap_cons, Part.events, List.append_assoc,
      List.append_assoc]
    rfl

/-- Every stream is delivered in parts. -/
theorem exists_delivery (limit : UInt64) (boundary : Bytes) (stream : BodyStream) :
    ∃ d : Delivery, (events limit boundary stream).map Prod.fst = d.events ∧ d.NamesLimit limit :=
  (eventsFrom_told limit boundary (steps stream) .preamble (.start stream)).completes

end Multipart

end RequestBinding
