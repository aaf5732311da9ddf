import RequestBinding.Binder.Basic
import RequestBinding.Binder.Provider
import RequestBinding.Config.Decoding
import RequestBinding.Config.EnvironmentFile
import RequestBinding.Config.Error
import RequestBinding.Config.Loader
import RequestBinding.Config.Setting
import RequestBinding.Config.Validation
import RequestBinding.Config.Variables
import RequestBinding.Diagnostics
import RequestBinding.Document.Basic
import RequestBinding.Document.Json
import RequestBinding.Document.JsonNumber
import RequestBinding.Document.Reading
import RequestBinding.Document.Toml
import RequestBinding.Document.TomlToken
import RequestBinding.Document.TomlValue
import RequestBinding.Encoding
import RequestBinding.Exception
import RequestBinding.Form.Collection
import RequestBinding.Form.Error
import RequestBinding.Form.Multipart
import RequestBinding.Form.Options
import RequestBinding.Form.Parts
import RequestBinding.Form.Policy
import RequestBinding.Form.Reading
import RequestBinding.Form.UrlEncoded
import RequestBinding.Formatter.Basic
import RequestBinding.Formatter.Collection
import RequestBinding.Formatter.Plain
import RequestBinding.Formatter.Reader
import RequestBinding.Formatter.Text
import RequestBinding.Grouped
import RequestBinding.Http.Body
import RequestBinding.Http.Features
import RequestBinding.Http.Headers
import RequestBinding.Http.Request
import RequestBinding.Http.RequestId
import RequestBinding.Http.Token
import RequestBinding.Http.Uri
import RequestBinding.Journal
import RequestBinding.MediaType.Basic
import RequestBinding.MediaType.Collection
import RequestBinding.MediaType.Reading
import RequestBinding.Model
import RequestBinding.ModelBinding
import RequestBinding.ModelState
import RequestBinding.Numeric.Binary64
import RequestBinding.Numeric.Digits
import RequestBinding.Numeric.Integer
import RequestBinding.Proofs.Binder.Basic
import RequestBinding.Proofs.Form.Policy
import RequestBinding.Proofs.Form.Segments
import RequestBinding.Proofs.Form.UrlEncoded
import RequestBinding.Proofs.Grouped
import RequestBinding.Proofs.Http.Body
import RequestBinding.Proofs.ModelState
import RequestBinding.Proofs.Text.Pieces
import RequestBinding.Proofs.Text.Utf8
import RequestBinding.Telemetry.Filter
import RequestBinding.Telemetry.Settings
import RequestBinding.Telemetry.Start
import RequestBinding.Text.Alphanumeric
import RequestBinding.Text.Blank
import RequestBinding.Text.Case
import RequestBinding.Text.Printable
import RequestBinding.Text.Quoted
import RequestBinding.Text.Utf8
import RequestBinding.Proofs.Form.Reading
import RequestBinding.Proofs.Binder.Body
import RequestBinding.Proofs.BodyUse
import RequestBinding.Proofs.Form.Limits
import RequestBinding.Proofs.FormUse
import RequestBinding.Proofs.Config.Decoding
import RequestBinding.Proofs.Config.Layer
import RequestBinding.Proofs.Form.Authorization
import RequestBinding.Proofs.Form.Retry
import RequestBinding.Proofs.Binder.Accounting
import RequestBinding.Proofs.Document.Range
import RequestBinding.Proofs.Config.Acceptance
import RequestBinding.Proofs.Config.Override
import RequestBinding.Proofs.Form.Refusal
import RequestBinding.Proofs.Binder.Selection
import RequestBinding.Proofs.ModelBinding
import RequestBinding.Proofs.Config.Variables
import RequestBinding.Proofs.Http.Supply
import RequestBinding.Proofs.Form.Retention
import RequestBinding.Proofs.Formatter.Text
import RequestBinding.Proofs.Config.Rejection
import RequestBinding.Proofs.Encoding
import RequestBinding.Proofs.Form.Escapes
import RequestBinding.Proofs.MediaType.Reading
import RequestBinding.Proofs.Telemetry.Level
import RequestBinding.Proofs.MediaType.Matching
