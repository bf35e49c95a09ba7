import Preflight.Act
import Preflight.Amundsen
import Preflight.Amundsen.Connector
import Preflight.Bolt.Endpoint
import Preflight.Bolt.Fault
import Preflight.Bolt.Message
import Preflight.Bolt.Net
import Preflight.Bolt.Pool
import Preflight.Bolt.ServerError
import Preflight.Command
import Preflight.Connector
import Preflight.Delivery
import Preflight.EnvFile
import Preflight.EnvFile.Line
import Preflight.EnvFile.Value
import Preflight.Failure
import Preflight.Files
import Preflight.Graph
import Preflight.Http.Exchange
import Preflight.Http.Reply
import Preflight.Json.Basic
import Preflight.Json.Decode
import Preflight.Json.Document
import Preflight.Json.Numeral
import Preflight.Json.Parser
import Preflight.Json.Printer
import Preflight.Log
import Preflight.Log.Filter
import Preflight.Main
import Preflight.Number.Binary64
import Preflight.Number.Shortest
import Preflight.Proofs.Acceptance
import Preflight.Proofs.Address
import Preflight.Proofs.Alike
import Preflight.Proofs.Blame
import Preflight.Proofs.Calls
import Preflight.Proofs.Casing
import Preflight.Proofs.Closing
import Preflight.Proofs.CommandLine
import Preflight.Proofs.Concealment
import Preflight.Proofs.Conduct
import Preflight.Proofs.Conversation
import Preflight.Proofs.Course
import Preflight.Proofs.Delivery
import Preflight.Proofs.Display
import Preflight.Proofs.Earned
import Preflight.Proofs.Excerpt
import Preflight.Proofs.FirstFailure
import Preflight.Proofs.Granted
import Preflight.Proofs.Handover
import Preflight.Proofs.Identifier
import Preflight.Proofs.Indifference
import Preflight.Proofs.Json.Columns
import Preflight.Proofs.Json.Decoding
import Preflight.Proofs.Json.Fields
import Preflight.Proofs.Json.Fuel
import Preflight.Proofs.Json.Grammar
import Preflight.Proofs.Json.Lexemes
import Preflight.Proofs.Json.Places
import Preflight.Proofs.Json.Reading
import Preflight.Proofs.Json.Scalars
import Preflight.Proofs.Json.Sorting
import Preflight.Proofs.Json.Spelling
import Preflight.Proofs.Kinds
import Preflight.Proofs.Masking
import Preflight.Proofs.Members
import Preflight.Proofs.Operations
import Preflight.Proofs.Orderings
import Preflight.Proofs.Patch
import Preflight.Proofs.Patching
import Preflight.Proofs.Plain
import Preflight.Proofs.Race
import Preflight.Proofs.Recording
import Preflight.Proofs.Renewal
import Preflight.Proofs.Retrying
import Preflight.Proofs.RoundTrip
import Preflight.Proofs.Scripts
import Preflight.Proofs.Scrubbing
import Preflight.Proofs.Shelf
import Preflight.Proofs.Shown
import Preflight.Proofs.Sources
import Preflight.Proofs.Succession
import Preflight.Proofs.Talk
import Preflight.Proofs.Text
import Preflight.Proofs.Token
import Preflight.Proofs.Tree
import Preflight.Proofs.Unsent
import Preflight.Proofs.Using
import Preflight.Proofs.Variables
import Preflight.Proofs.Withheld
import Preflight.Rehearsal
import Preflight.Report
import Preflight.Report.Codec
import Preflight.Runner
import Preflight.Secret
import Preflight.Settings
import Preflight.Settings.Document
import Preflight.Settings.Uri
import Preflight.Settings.Variables
import Preflight.Step
import Preflight.Store.Catalog
import Preflight.Store.Directory
import Preflight.Store.Memory
import Preflight.Text.Alphanumeric
import Preflight.Text.Base64
import Preflight.Text.Blank
import Preflight.Text.Decimal
import Preflight.Text.Duration
import Preflight.Text.Ellipsis
import Preflight.Text.Line
import Preflight.Text.LowerCase
import Preflight.Text.Printable
import Preflight.Text.Quoted
import Preflight.Text.Search
import Preflight.Timestamp
import Preflight.Url
import Preflight.Url.Host
import Preflight.Url.Parser
import Preflight.Uuid
import Preflight.Workflow
