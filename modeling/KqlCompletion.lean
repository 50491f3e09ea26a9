import KqlCompletion.Api.Message
import KqlCompletion.Flate.Code
import KqlCompletion.Flate.Container
import KqlCompletion.Flate.Inflate
import KqlCompletion.Flate.Reader
import KqlCompletion.Http.App
import KqlCompletion.Http.Client
import KqlCompletion.Http.Content
import KqlCompletion.Http.Cors
import KqlCompletion.Http.Host
import KqlCompletion.Http.Message
import KqlCompletion.Http.Route
import KqlCompletion.Json.Display
import KqlCompletion.Json.Reader
import KqlCompletion.Json.Value
import KqlCompletion.Json.Writer
import KqlCompletion.Number.Binary64
import KqlCompletion.Number.Literal
import KqlCompletion.Proofs.Http.Handlers
import KqlCompletion.Proofs.Http.Labels
import KqlCompletion.Proofs.Http.LogScope
import KqlCompletion.Proofs.Http.Observation
import KqlCompletion.Proofs.Http.Overlap
import KqlCompletion.Proofs.Http.Reachable
import KqlCompletion.Proofs.Http.Refusal
import KqlCompletion.Proofs.Http.Reload
import KqlCompletion.Proofs.Http.Sending
import KqlCompletion.Proofs.Http.Token
import KqlCompletion.Proofs.Http.WorkspaceScope
import KqlCompletion.Proofs.Http.Workspaces
import KqlCompletion.Proofs.Json.Limit
import KqlCompletion.Proofs.Json.Listing
import KqlCompletion.Proofs.Json.RoundTrip
import KqlCompletion.Proofs.Query.Analysis
import KqlCompletion.Proofs.Query.Continuation
import KqlCompletion.Proofs.Query.Keyword
import KqlCompletion.Proofs.Query.Position
import KqlCompletion.Proofs.Query.Source
import KqlCompletion.Proofs.Schema.Format
import KqlCompletion.Proofs.Schema.Malformed
import KqlCompletion.Proofs.Schema.Offences
import KqlCompletion.Proofs.SchemaService.Address
import KqlCompletion.Proofs.SchemaService.AddressText
import KqlCompletion.Proofs.SchemaService.Checks
import KqlCompletion.Proofs.Service.Busy
import KqlCompletion.Proofs.Service.Completions
import KqlCompletion.Proofs.Service.Leaving
import KqlCompletion.Proofs.Service.LoadCount
import KqlCompletion.Proofs.Service.Recency
import KqlCompletion.Proofs.Service.Store
import KqlCompletion.Proofs.Service.TableNames
import KqlCompletion.Proofs.Settings.Environment
import KqlCompletion.Proofs.Settings.Origins
import KqlCompletion.Proofs.Suggestion.Acceptance
import KqlCompletion.Proofs.Suggestion.Blocks
import KqlCompletion.Proofs.Suggestion.Caret
import KqlCompletion.Proofs.Suggestion.Contents
import KqlCompletion.Proofs.Suggestion.EarlierLines
import KqlCompletion.Proofs.Suggestion.Format
import KqlCompletion.Proofs.Suggestion.Origin
import KqlCompletion.Proofs.Suggestion.Spacing
import KqlCompletion.Proofs.Suggestion.Stems
import KqlCompletion.Proofs.Suggestion.Typing
import KqlCompletion.Proofs.Text.Encoding
import KqlCompletion.Proofs.Text.LetterCase
import KqlCompletion.Proofs.Text.Percent
import KqlCompletion.Proofs.Text.Pieces
import KqlCompletion.Proofs.Text.Words
import KqlCompletion.Proofs.Url.Path
import KqlCompletion.Proofs.Url.UserInfo
import KqlCompletion.Proofs.Validation.Issues
import KqlCompletion.Query.Context
import KqlCompletion.Query.Source
import KqlCompletion.Schema.Basic
import KqlCompletion.Schema.Format
import KqlCompletion.SchemaService.Coding
import KqlCompletion.SchemaService.Exchange
import KqlCompletion.SchemaService.Load
import KqlCompletion.SchemaService.Status
import KqlCompletion.Service.Basic
import KqlCompletion.Service.Engine
import KqlCompletion.Service.Log
import KqlCompletion.Service.Metrics
import KqlCompletion.Service.Session
import KqlCompletion.Service.Store
import KqlCompletion.Service.Tally
import KqlCompletion.Settings
import KqlCompletion.Settings.CommandLine
import KqlCompletion.Settings.Environment
import KqlCompletion.Settings.Fault
import KqlCompletion.Settings.Flags
import KqlCompletion.Settings.ListText
import KqlCompletion.Settings.Opener
import KqlCompletion.Settings.Options
import KqlCompletion.Suggestion.Basic
import KqlCompletion.Suggestion.Catalog
import KqlCompletion.Suggestion.Format
import KqlCompletion.Suggestion.Provider
import KqlCompletion.Template
import KqlCompletion.Text.Addition
import KqlCompletion.Text.Ascii
import KqlCompletion.Text.Base64
import KqlCompletion.Text.Blank
import KqlCompletion.Text.CodePoint
import KqlCompletion.Text.CodeRange
import KqlCompletion.Text.Composition
import KqlCompletion.Text.Composition.Table
import KqlCompletion.Text.DecimalDigit
import KqlCompletion.Text.Direction
import KqlCompletion.Text.Encoding
import KqlCompletion.Text.Hex
import KqlCompletion.Text.Identifier
import KqlCompletion.Text.Joining
import KqlCompletion.Text.LetterCase
import KqlCompletion.Text.LetterCase.Table
import KqlCompletion.Text.LetterCase.Upper
import KqlCompletion.Text.Mark
import KqlCompletion.Text.Percent
import KqlCompletion.Text.Printable
import KqlCompletion.Text.Quoted
import KqlCompletion.Text.Script
import KqlCompletion.Text.Utf8
import KqlCompletion.Url.Address
import KqlCompletion.Url.Basic
import KqlCompletion.Url.HostName
import KqlCompletion.Url.Label
import KqlCompletion.Url.Label.Table
import KqlCompletion.Url.Punycode
import KqlCompletion.Url.Reference
import KqlCompletion.Validation.Checked
import KqlCompletion.Validation.Issue
import KqlCompletion.Validation.Scalar
