import Weblog.Text.Blank
import Weblog.Text.Case
import Weblog.Text.Quoted
import Weblog.Number.Numeral
import Weblog.Number.Shortest
import Weblog.Json.Reader
import Weblog.Json.Writer
import Weblog.Json.Display
import Weblog.Clock
import Weblog.Record.Presence
import Weblog.Search.Index
import Weblog.Service.Handle
import Weblog.Bytes.Encoding
import Weblog.Bytes.Base64Url
import Weblog.Bytes.Sha256
import Weblog.Auth.Token
import Weblog.Auth.Password
import Weblog.Settings
import Weblog.Database.Engine
import Weblog.Web.RequestLog
import Weblog.Schema.Forms
import Weblog.Session.Step
import Weblog.Proofs.Search.Found
import Weblog.Proofs.Service.Frame
import Weblog.Proofs.Auth.Signed
import Weblog.Proofs.Service.Enforcement
import Weblog.Proofs.Bytes.Base64Url
import Weblog.Proofs.Json.RoundTrip
import Weblog.Proofs.Service.Login
import Weblog.Proofs.Session.Asking
import Weblog.Proofs.Session.Flush
import Weblog.Proofs.Session.Presence
import Weblog.Proofs.Service.Refused
import Weblog.Proofs.Service.Taken
import Weblog.Proofs.Service.Orphans
import Weblog.Proofs.Service.Decided
import Weblog.Proofs.Web.Headers
import Weblog.Proofs.Service.Guesses
import Weblog.Proofs.Service.Concealed
import Weblog.Proofs.Service.Overlap
import Weblog.Proofs.Service.FragmentSearch
import Weblog.Proofs.Service.Inactive
import Weblog.Proofs.Service.Repeated
import Weblog.Proofs.Service.Revised
import Weblog.Proofs.Service.Reread
import Weblog.Proofs.Session.Removed
import Weblog.Proofs.Schema.Faults
import Weblog.Proofs.Schema.Refilled
import Weblog.Proofs.Search.Document
import Weblog.Proofs.Search.Conjunction
import Weblog.Proofs.Auth.Format
import Weblog.Proofs.Session.Documented
import Weblog.Proofs.Auth.Lifetimes
import Weblog.Proofs.Web.Described
import Weblog.Proofs.Service.LoadedTags
