import RequestBinding.Text.Quoted

/-!
# Form options and limits

How a form may be read: whether its body is buffered, and nine limits, each a
number of 64 bits. A policy declares such options for a scope; of several
policies the one of the highest scope governs.

Results:
1. `get_set`: setting a limit changes that limit and no other.
-/

namespace RequestBinding

/-! ## Options -/

/-- How a form may be read. -/
structure FormOptions where
  bufferBody : Bool := false
  memoryBufferThreshold : UInt64 := 65536
  bufferBodyLengthLimit : UInt64 := 134217728
  valueCountLimit : UInt64 := 1024
  keyLengthLimit : UInt64 := 2048
  valueLengthLimit : UInt64 := 4194304
  multipartBoundaryLengthLimit : UInt64 := 128
  multipartHeadersCountLimit : UInt64 := 16
  multipartHeadersLengthLimit : UInt64 := 16384
  multipartBodyLengthLimit : UInt64 := 134217728
deriving DecidableEq

/-- The options that are numbers. -/
inductive LimitField where
  | memoryBufferThreshold
  | bufferBodyLengthLimit
  | valueCountLimit
  | keyLengthLimit
  | valueLengthLimit
  | multipartBoundaryLengthLimit
  | multipartHeadersCountLimit
  | multipartHeadersLengthLimit
  | multipartBodyLengthLimit
deriving DecidableEq

namespace LimitField

/-- All numeric options, in the order in which they are listed. -/
def all : List LimitField :=
  [memoryBufferThreshold, bufferBodyLengthLimit, valueCountLimit, keyLengthLimit, valueLengthLimit,
   multipartBoundaryLengthLimit, multipartHeadersCountLimit, multipartHeadersLengthLimit,
   multipartBodyLengthLimit]

/-- The name of an option in a document. -/
def name : LimitField → String
  | memoryBufferThreshold => "memory_buffer_threshold"
  | bufferBodyLengthLimit => "buffer_body_length_limit"
  | valueCountLimit => "value_count_limit"
  | keyLengthLimit => "key_length_limit"
  | valueLengthLimit => "value_length_limit"
  | multipartBoundaryLengthLimit => "multipart_boundary_length_limit"
  | multipartHeadersCountLimit => "multipart_headers_count_limit"
  | multipartHeadersLengthLimit => "multipart_headers_length_limit"
  | multipartBodyLengthLimit => "multipart_body_length_limit"

theorem mem_all (f : LimitField) : f ∈ all := by
  cases f <;> decide

end LimitField

namespace FormOptions

/-- The value of a numeric option. -/
def get (o : FormOptions) : LimitField → UInt64
  | .memoryBufferThreshold => o.memoryBufferThreshold
  | .bufferBodyLengthLimit => o.bufferBodyLengthLimit
  | .valueCountLimit => o.valueCountLimit
  | .keyLengthLimit => o.keyLengthLimit
  | .valueLengthLimit => o.valueLengthLimit
  | .multipartBoundaryLengthLimit => o.multipartBoundaryLengthLimit
  | .multipartHeadersCountLimit => o.multipartHeadersCountLimit
  | .multipartHeadersLengthLimit => o.multipartHeadersLengthLimit
  | .multipartBodyLengthLimit => o.multipartBodyLengthLimit

/-- Replaces the value of a numeric option. -/
def set (o : FormOptions) (f : LimitField) (n : UInt64) : FormOptions :=
  match f with
  | .memoryBufferThreshold => { o with memoryBufferThreshold := n }
  | .bufferBodyLengthLimit => { o with bufferBodyLengthLimit := n }
  | .valueCountLimit => { o with valueCountLimit := n }
  | .keyLengthLimit => { o with keyLengthLimit := n }
  | .valueLengthLimit => { o with valueLengthLimit := n }
  | .multipartBoundaryLengthLimit => { o with multipartBoundaryLengthLimit := n }
  | .multipartHeadersCountLimit => { o with multipartHeadersCountLimit := n }
  | .multipartHeadersLengthLimit => { o with multipartHeadersLengthLimit := n }
  | .multipartBodyLengthLimit => { o with multipartBodyLengthLimit := n }

theorem get_set (o : FormOptions) (f g : LimitField) (n : UInt64) :
    (o.set f n).get g = if g = f then n else o.get g := by
  cases f <;> cases g <;> rfl

theorem bufferBody_set (o : FormOptions) (f : LimitField) (n : UInt64) :
    (o.set f n).bufferBody = o.bufferBody := by
  cases f <;> rfl

/-- The options as they are shown to a developer. -/
def describe (o : FormOptions) : String :=
  showRecord "FormOptions"
    (("buffer_body", showBool o.bufferBody) ::
      LimitField.all.map fun f => (f.name, toString (o.get f))) false

end FormOptions

/-! ## Limits with a scope -/

/-- The scopes of policies, from the lowest to the highest. -/
inductive Scope where
  | global
  | controller
  | action
deriving DecidableEq

namespace Scope

/-- The place of a scope in their order. -/
def rank : Scope → Nat
  | global => 0
  | controller => 1
  | action => 2

/-- The name of a scope. -/
def name : Scope → String
  | global => "global"
  | controller => "controller"
  | action => "action"

/-- All scopes. -/
def all : List Scope := [global, controller, action]

/-- The scope of a name. -/
def ofName? (name : String) : Option Scope :=
  all.find? (·.name == name)

end Scope

/-- Form options that are declared for a scope; the highest unless another is
given. -/
structure FormLimits where
  options : FormOptions := {}
  scope : Scope := .action
deriving DecidableEq

end RequestBinding
