import Formwork.Calendar.Date
import Formwork.Calendar.Pattern
import Formwork.Codec.Base64Url
import Formwork.Codec.FormPairs
import Formwork.Codec.Percent
import Formwork.CommandLine.Arguments
import Formwork.CommandLine.Command
import Formwork.Dict
import Formwork.Digest.Hmac
import Formwork.Digest.Sha256
import Formwork.DomainName.Ascii
import Formwork.DomainName.CharProperty
import Formwork.DomainName.Mapping
import Formwork.DomainName.Punycode
import Formwork.FileTree
import Formwork.Form.Basic
import Formwork.Form.Disposition
import Formwork.Form.MediaType
import Formwork.Form.Multipart
import Formwork.Form.Sniff
import Formwork.Form.Value
import Formwork.Http.App
import Formwork.Http.Client
import Formwork.Http.Context
import Formwork.Http.Dispatch
import Formwork.Http.Files
import Formwork.Http.Header
import Formwork.Http.Message
import Formwork.Http.Uri
import Formwork.Json.Basic
import Formwork.Json.Parser
import Formwork.Json.Printer
import Formwork.Main
import Formwork.Net.Address
import Formwork.Net.Email
import Formwork.Proofs.Calendar.Range
import Formwork.Proofs.Codec.Base64Url
import Formwork.Proofs.Http.Browsing
import Formwork.Proofs.Http.Chain
import Formwork.Proofs.Http.Compiled
import Formwork.Proofs.Http.Draft
import Formwork.Proofs.Http.Lawful
import Formwork.Proofs.Http.Params
import Formwork.Proofs.Http.Reach
import Formwork.Proofs.Http.Recovery
import Formwork.Proofs.Http.Reversal
import Formwork.Proofs.Http.Saving
import Formwork.Proofs.Json.RoundTrip
import Formwork.Proofs.Route.Lookup
import Formwork.Proofs.Route.Shape
import Formwork.Proofs.Route.Tree
import Formwork.Proofs.Rule.Failure
import Formwork.Proofs.Rule.Independence
import Formwork.Proofs.Rule.Kind
import Formwork.Proofs.Rule.Outcome
import Formwork.Proofs.Rule.Reading
import Formwork.Proofs.Rule.Skip
import Formwork.Proofs.Sequence
import Formwork.Proofs.Session.Cookie
import Formwork.Proofs.Session.Expiry
import Formwork.Proofs.Session.Signature
import Formwork.Proofs.Session.Table
import Formwork.Proofs.Text.Cut
import Formwork.Proofs.Text.Utf8
import Formwork.Route.Basic
import Formwork.Route.Pattern
import Formwork.Route.Table
import Formwork.Rule.Basic
import Formwork.Rule.Check
import Formwork.Rule.Document
import Formwork.Rule.Overrides
import Formwork.Rule.Schema
import Formwork.Rule.Token
import Formwork.Session.Basic
import Formwork.Session.Cookie
import Formwork.Session.Store
import Formwork.Settings.Basic
import Formwork.Settings.Reading
import Formwork.Shutdown
import Formwork.Text.CharClass
import Formwork.Text.CodeTable
import Formwork.Text.Cut
import Formwork.Text.Decimal
import Formwork.Text.Decomposition
import Formwork.Text.FloatText
import Formwork.Text.Hex
import Formwork.Text.Normal
import Formwork.Text.Utf8
import Formwork.Url.Basic
import Formwork.Url.Host
import Formwork.Url.Parser
import Formwork.Yaml.Basic
import Formwork.Yaml.Lexeme
import Formwork.Yaml.Node
import Formwork.Yaml.Reading
import Formwork.Yaml.Scalar
import Formwork.Yaml.Text
import Formwork.Proofs.Http.Decision
import Formwork.Proofs.Rule.Isolation
import Formwork.Proofs.Route.Names
import Formwork.Proofs.Http.Building
import Formwork.Proofs.Http.Alike
import Formwork.Proofs.Http.Order
import Formwork.Proofs.Route.Joining
import Formwork.Proofs.Codec.FormPairs
import Formwork.Proofs.Http.Submission
import Formwork.Proofs.Http.Uri
import Formwork.Proofs.Form.Pairs
import Formwork.Proofs.Http.Uses
import Formwork.Proofs.Form.Disposition
import Formwork.Proofs.Form.Multipart
import Formwork.Proofs.Rule.Grammar
import Formwork.Proofs.Route.Filling
import Formwork.Proofs.Http.Drafting
import Formwork.Proofs.Form.MediaType
import Formwork.Proofs.Http.Upload
import Formwork.Proofs.Calendar.Template
import Formwork.Proofs.Calendar.Written
import Formwork.Proofs.Route.FullNames
import Formwork.Proofs.Calendar.Counting
import Formwork.Proofs.Session.Attributes
import Formwork.Proofs.Net.Email
import Formwork.Proofs.Rule.Labels
import Formwork.Proofs.Session.Lookup
import Formwork.Proofs.Settings.Keys
import Formwork.Proofs.Form.Sniff
import Formwork.Proofs.Shutdown
