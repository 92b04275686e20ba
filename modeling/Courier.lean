import Courier.Calendar
import Courier.Client
import Courier.CommandLine.Parse
import Courier.CommandLine.Send
import Courier.CommandLine.Switch
import Courier.Fault
import Courier.Gateway.App
import Courier.Gateway.Caller
import Courier.Gateway.Request
import Courier.Gateway.Response
import Courier.Gateway.Route
import Courier.Gateway.Status
import Courier.Installation
import Courier.Json.Reader
import Courier.Json.Value
import Courier.Json.Writer
import Courier.Log.Line
import Courier.Log.Setup
import Courier.Main
import Courier.Message.Basic
import Courier.Message.Body
import Courier.Message.Credentials
import Courier.Message.Outcome
import Courier.Message.Submission
import Courier.Number.Binary64
import Courier.Number.Reading
import Courier.Number.Shortest
import Courier.Proofs.Client.Alongside
import Courier.Proofs.Client.Authorization
import Courier.Proofs.Client.Call
import Courier.Proofs.Client.Chunks
import Courier.Proofs.Client.Diagnostic
import Courier.Proofs.Client.Exchange
import Courier.Proofs.Client.Faults
import Courier.Proofs.Client.Gate
import Courier.Proofs.Client.Interchange
import Courier.Proofs.Client.Kept
import Courier.Proofs.Client.Once
import Courier.Proofs.Client.PostFaults
import Courier.Proofs.Client.Readiness
import Courier.Proofs.Client.Report
import Courier.Proofs.Client.Send
import Courier.Proofs.Client.Shield
import Courier.Proofs.Client.Verdict
import Courier.Proofs.Client.Wire
import Courier.Proofs.CommandLine.Arguments
import Courier.Proofs.CommandLine.Order
import Courier.Proofs.CommandLine.Run
import Courier.Proofs.Delivery
import Courier.Proofs.FrontEnds
import Courier.Proofs.Gateway.Answer
import Courier.Proofs.Gateway.Detail
import Courier.Proofs.Gateway.Envelope
import Courier.Proofs.Gateway.Readings
import Courier.Proofs.Gateway.Submission
import Courier.Proofs.Gateway.Validation
import Courier.Proofs.Json.Numbers
import Courier.Proofs.Json.Reader
import Courier.Proofs.Json.RoundTrip
import Courier.Proofs.Json.Strings
import Courier.Proofs.Json.Writer
import Courier.Proofs.Log.Calls
import Courier.Proofs.Message.Body
import Courier.Proofs.Message.Diagnosis
import Courier.Proofs.Message.Payload
import Courier.Proofs.Message.PercentForm
import Courier.Proofs.Message.Units
import Courier.Proofs.Run
import Courier.Proofs.Schema.SecondCheck
import Courier.Proofs.Session.Basic
import Courier.Proofs.Session.Cookies
import Courier.Proofs.Session.Independence
import Courier.Proofs.Session.Secrecy
import Courier.Proofs.Session.Veil
import Courier.Proofs.Settings.EnvFile
import Courier.Proofs.Settings.Environment
import Courier.Proofs.Settings.Layout
import Courier.Proofs.Settings.Stops
import Courier.Proofs.Shared.Holdings
import Courier.Proofs.Shared.Lifecycle
import Courier.Proofs.Text.Base64
import Courier.Proofs.Text.Grammar
import Courier.Proofs.Text.Lines
import Courier.Proofs.Text.Percent
import Courier.Proofs.Text.Pieces
import Courier.Proofs.Text.Replacement
import Courier.Proofs.Text.Split
import Courier.Proofs.Text.Trim
import Courier.Proofs.Text.Utf16
import Courier.Proofs.Text.Utf8
import Courier.Proofs.Text.WellFormed
import Courier.Schema.Assignment
import Courier.Schema.Field
import Courier.Schema.Issue
import Courier.Settings.Client
import Courier.Settings.EnvFile
import Courier.Settings.Environment
import Courier.Settings.Gateway
import Courier.State
import Courier.Text.Ascii
import Courier.Text.Base64
import Courier.Text.Basic
import Courier.Text.Blank
import Courier.Text.Capital
import Courier.Text.Composed
import Courier.Text.Decomposition
import Courier.Text.Digit
import Courier.Text.Document
import Courier.Text.Mark
import Courier.Text.Percent
import Courier.Text.Printable
import Courier.Text.Quoted
import Courier.Text.Ranges
import Courier.Text.Small
import Courier.Text.Utf16
import Courier.Text.Utf8
import Courier.Transport
import Courier.Web.Call
import Courier.Web.Cookie
import Courier.Web.Date
import Courier.Web.DomainName
import Courier.Web.Host
import Courier.Web.Label
import Courier.Web.Label.Direction
import Courier.Web.Label.Joining
import Courier.Web.Label.Letter
import Courier.Web.Label.Script
import Courier.Web.Punycode
import Courier.Web.Reference
import Courier.Web.Reply
import Courier.Web.Url
import Courier.Web.Words
