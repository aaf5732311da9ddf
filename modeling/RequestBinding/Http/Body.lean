import RequestBinding.Text.Quoted
import RequestBinding.Text.Utf8

/-!
# The body of a request

A body is a stream of items, each a chunk of bytes or a failure of the
connection. The stream can be taken once: whoever takes it first decides how
many of its items are pulled, and everyone after that finds the body consumed.

A paced stream delivers its items one at a time, each after a wait; any other
has all of them ready at once.

Results:
1. `feedItems_gather`: chunks without a failure are joined.
-/

namespace RequestBinding

/-- The kinds of failure of a connection. -/
inductive IoKind where
  | connectionAborted
  | connectionReset
  | unexpectedEof
  | invalidData
  | timedOut
  | other
deriving DecidableEq

/-- A failure to read. -/
structure IoError where
  kind : IoKind
  message : String
deriving DecidableEq

/-- The failure of a second reader. -/
def bodyConsumed : IoError :=
  ⟨.other, "request body has already been consumed"⟩

/-- An item of a stream. -/
inductive BodyItem where
  | chunk (bytes : Bytes)
  | failure (error : IoError)
deriving DecidableEq

/-- A stream: its items, and whether each of them is waited for. -/
structure BodyStream where
  items : List BodyItem
  paced : Bool
deriving DecidableEq

/-- The body of a request. `pulled` counts the items that were taken from the
stream so far. -/
structure Body where
  stream : BodyStream
  consumed : Bool
  pulled : Nat
deriving DecidableEq

namespace Body

/-- An unread body. -/
def ofStream (stream : BodyStream) : Body := ⟨stream, false, 0⟩

/-- A body without items. -/
def empty : Body := ofStream ⟨[], false⟩

/-- A body of one chunk. -/
def ofBytes (bytes : Bytes) : Body := ofStream ⟨[.chunk bytes], false⟩

/-- Gives the stream to a reader, which answers with a result and the number of
items that it pulled; `late` is the answer if the stream was taken before. -/
def deliver {α : Type} (body : Body) (reader : BodyStream → α × Nat) (late : α) : α × Body :=
  if body.consumed then (late, body)
  else ((reader body.stream).1,
    { body with consumed := true, pulled := (reader body.stream).2 })

/-- Takes the stream and pulls a number of its items; the answer says whether
there was one. -/
def takeStream (pulls : BodyStream → Nat) (body : Body) : Bool × Body :=
  body.deliver (fun stream => (true, pulls stream)) false

/-- Takes the stream and drops it unread. -/
def drop (body : Body) : Bool × Body :=
  body.takeStream fun _ => 0

/-- The body as it is shown to a developer. -/
def describe (body : Body) : String :=
  showRecord "RequestBody" [("consumed", showBool body.consumed)] false

end Body

/-! ## Reading item by item -/

/-- Feeds the chunks of a stream to `step` until it refuses one or the stream
ends or fails; `pulled` items were taken before. -/
def feedItems {σ ε : Type} (step : σ → Bytes → Except ε σ) (failed : IoError → ε) (s : σ)
    (pulled : Nat) : List BodyItem → Except ε σ × Nat
  | [] => (.ok s, pulled)
  | .failure e :: _ => (.error (failed e), pulled + 1)
  | .chunk b :: rest =>
    match step s b with
    | .ok s' => feedItems step failed s' (pulled + 1) rest
    | .error e => (.error e, pulled + 1)

/-- All bytes of a stream, or its first failure. -/
def gather (stream : BodyStream) : Except IoError Bytes × Nat :=
  feedItems (fun acc b => .ok (acc ++ b)) id [] 0 stream.items

/-- Reads the body to its end. -/
def Body.readToEnd (body : Body) : Except IoError Bytes × Body :=
  body.deliver gather (.error bodyConsumed)

theorem feedItems_gather (acc : Bytes) (pulled : Nat) (chunks : List Bytes) :
    feedItems (fun acc b => Except.ok (acc ++ b)) (id : IoError → IoError) acc pulled
      (chunks.map .chunk) = (.ok (acc ++ chunks.flatten), pulled + chunks.length) := by
  induction chunks generalizing acc pulled with
  | nil => simp [feedItems]
  | cons b rest ih =>
    simp only [List.map_cons, feedItems, ih, List.flatten_cons, List.append_assoc,
      List.length_cons]
    simp only [Prod.mk.injEq, true_and]
    omega

end RequestBinding
