import RequestBinding.Http.Body
import RequestBinding.Numeric.Integer
import RequestBinding.Encoding

/-!
# Exceptions

What can go wrong while a body is read, by its cause. A format error means that
the body is not what the formatter reads; it has a message and may keep the
cause behind it. All else is a failure of the connection or of the formatter
itself.
-/

namespace RequestBinding

/-- The message on a content type that nothing can read. -/
def unsupportedContentTypeMessage (contentType : String) : String :=
  "Unsupported content type '" ++ contentType ++ "'."

/-- What lies behind a format error. -/
inductive Cause where
  | utf8 (error : Utf8.DecodeError)
  | integer (error : IntegerError)
  | unsupportedContentType (contentType : String)
  | text (message : String)
deriving DecidableEq

/-- The text of a cause. -/
def Cause.message : Cause → String
  | utf8 e => e.message
  | integer e => e.message
  | unsupportedContentType c => unsupportedContentTypeMessage c
  | text m => m

/-- The body is not in the format that is read. -/
structure FormatError where
  message : String
  cause? : Option Cause := none
deriving DecidableEq

/-- The format error of text in the wrong encoding. -/
def FormatError.ofDecodeFailure (f : DecodeFailure) : FormatError :=
  match f with
  | .utf8 e => ⟨f.message, some (.utf8 e)⟩
  | .usAscii => ⟨f.message, none⟩

/-- The format error of a charset that is not read. -/
def FormatError.ofContentType (contentType : String) : FormatError :=
  ⟨unsupportedContentTypeMessage contentType, some (.unsupportedContentType contentType)⟩

/-- An exception as it is kept with an error of the model. -/
inductive Exception where
  | unsupportedContentType (contentType : String)
  | format (error : FormatError)
  | io (error : IoError)
  | other (message : String)
deriving DecidableEq

/-- The text of an exception. -/
def Exception.message : Exception → String
  | unsupportedContentType c => unsupportedContentTypeMessage c
  | format e => e.message
  | io e => e.message
  | other m => m

/-- Why a formatter could not read a body. -/
inductive ReadError where
  | format (error : FormatError)
  | io (error : IoError)
  | other (message : String)
deriving DecidableEq

namespace ReadError

def isFormatError : ReadError → Bool
  | format _ => true
  | _ => false

/-- The exception that is kept of a failed read. -/
def toException : ReadError → Exception
  | format e => .format e
  | io e => .io e
  | other m => .other m

/-- The text of the error. -/
def message (e : ReadError) : String :=
  e.toException.message

end ReadError

/-- Why binding failed altogether: an exception that was not recorded with the
model, or a mistake in how binding was put together. -/
inductive BindingError where
  | unhandled (error : Exception)
  | internal (message : String)
deriving DecidableEq

/-- The text of the error. -/
def BindingError.message : BindingError → String
  | unhandled e => e.message
  | internal m => "internal consistency violation: " ++ m

end RequestBinding
