import RequestBinding.Http.Body
import RequestBinding.Text.Quoted

/-!
# Form errors

Why a form could not be read: a limit that was exceeded, with the limit; a
content type that is no form; a body that is malformed; a failure of the
connection; or a form that was read before.

A read can also end without an answer, in a crash. That is kept among the reasons,
so that what it leaves behind is told in the same way.
-/

namespace RequestBinding

/-- Why a multipart body could not be read. -/
inductive MultipartError where
  | noBoundary
  /-- The stream ended before the closing boundary. -/
  | incompleteStream
  /-- The stream ended inside the data of a part. -/
  | incompleteField (name? : Option String)
  | unreadableHeaders
  /-- The name of a header field is too long to be kept. -/
  | unkeptHeader (name : String)
  | unreadableStream
  | streamTooLarge (limit : UInt64)
deriving DecidableEq

/-- The text of the error. -/
def MultipartError.message : MultipartError → String
  | noBoundary => "multipart boundary not found in Content-Type"
  | incompleteStream => "incomplete multipart stream"
  | incompleteField name? =>
    "field " ++ quoted (name?.getD "<unknown>") ++ " received with incomplete data"
  | unreadableHeaders => "failed to read headers"
  | unkeptHeader name => "failed to decode field's raw header name: " ++ quoted name
  | unreadableStream => "failed to read stream"
  | streamTooLarge limit => "stream size exceeded limit: " ++ toString limit ++ " bytes"

/-- What ends a read without an answer. -/
inductive Crash where
  /-- More memory is reserved than any block may have. The read panics. -/
  | capacityOverflow
  /-- The process cannot be given a block of `bytes`. It ends. -/
  | outOfMemory (bytes : Nat)
deriving DecidableEq

/-- The text that is left on the console. -/
def Crash.message : Crash → String
  | capacityOverflow => "capacity overflow"
  | outOfMemory bytes => "memory allocation of " ++ toString bytes ++ " bytes failed"

/-- Why a form could not be read. -/
inductive FormError where
  | unsupportedContentType (contentType : String)
  | tooManyValues (limit : UInt64)
  | keyTooLong (limit : UInt64)
  | valueTooLong (limit : UInt64)
  | bodyTooLarge (limit : UInt64)
  | boundaryTooLong (limit : UInt64)
  | tooManyHeaders (limit : UInt64)
  | headersTooLong (limit : UInt64)
  | malformed (reason : String)
  | multipart (error : MultipartError)
  | alreadyRead
  | io (error : IoError)
  /-- No error is returned. -/
  | crash (c : Crash)
deriving DecidableEq

/-- A stream that is too large is a body that is too large. -/
def FormError.ofMultipart : MultipartError → FormError
  | .streamTooLarge limit => .bodyTooLarge limit
  | e => .multipart e

/-- The text of the error. -/
def FormError.message : FormError → String
  | unsupportedContentType c => "Incorrect Content-Type: " ++ c
  | tooManyValues n => "Form value count limit " ++ toString n ++ " exceeded."
  | keyTooLong n => "Form key length limit " ++ toString n ++ " exceeded."
  | valueTooLong n => "Form value length limit " ++ toString n ++ " exceeded."
  | bodyTooLarge n =>
    "Request body too large. The max request body size is " ++ toString n ++ " bytes."
  | boundaryTooLong n => "Multipart boundary length limit " ++ toString n ++ " exceeded."
  | tooManyHeaders n => "Multipart header count limit " ++ toString n ++ " exceeded."
  | headersTooLong n => "Multipart header length limit " ++ toString n ++ " exceeded."
  | malformed r => "Malformed form body: " ++ r
  | multipart e => "Failed to read multipart body: " ++ e.message
  | alreadyRead => "The request form has already been read."
  | io e => e.message
  | crash c => c.message

end RequestBinding
