import ChannelGateway.Command.Arguments
import ChannelGateway.Command.Check
import ChannelGateway.Command.Files
import ChannelGateway.Command.RouteTable
import ChannelGateway.Command.Run
import ChannelGateway.Controller.Binding
import ChannelGateway.Controller.Registry
import ChannelGateway.Document.Address
import ChannelGateway.Document.Checked
import ChannelGateway.Document.Issue
import ChannelGateway.Document.Model
import ChannelGateway.Document.Reader
import ChannelGateway.Document.Reference
import ChannelGateway.Document.SchemaIds
import ChannelGateway.Document.Serialized
import ChannelGateway.Document.Source
import ChannelGateway.Gateway.Http
import ChannelGateway.Gateway.Server
import ChannelGateway.Host.App
import ChannelGateway.Host.Problem
import ChannelGateway.Host.Session
import ChannelGateway.HostName.International
import ChannelGateway.HostName.Plain
import ChannelGateway.HostName.Substitution
import ChannelGateway.Json.Number
import ChannelGateway.Json.Pointer
import ChannelGateway.Json.Printer
import ChannelGateway.Json.Reader
import ChannelGateway.Json.Token
import ChannelGateway.Json.Value
import ChannelGateway.Main
import ChannelGateway.Number.Decimal
import ChannelGateway.Number.Double
import ChannelGateway.Number.Scaled
import ChannelGateway.Number.Shortest
import ChannelGateway.Pipeline.Event
import ChannelGateway.Pipeline.Failure
import ChannelGateway.Pipeline.Request
import ChannelGateway.Pipeline.Response
import ChannelGateway.Pipeline.Stage
import ChannelGateway.Pipeline.Validation
import ChannelGateway.Proofs.Command.Unbound
import ChannelGateway.Proofs.Controller.Lookup
import ChannelGateway.Proofs.Document.Acceptance
import ChannelGateway.Proofs.Document.Annotation
import ChannelGateway.Proofs.Document.Circularity
import ChannelGateway.Proofs.Document.Distinct
import ChannelGateway.Proofs.Document.Enclosure
import ChannelGateway.Proofs.Document.Expansion
import ChannelGateway.Proofs.Document.Grammar
import ChannelGateway.Proofs.Document.Identifiers
import ChannelGateway.Proofs.Document.Inlining
import ChannelGateway.Proofs.Document.Locations
import ChannelGateway.Proofs.Document.Naming
import ChannelGateway.Proofs.Document.Numbering
import ChannelGateway.Proofs.Document.Recursion
import ChannelGateway.Proofs.Document.Refusal
import ChannelGateway.Proofs.Document.Selection
import ChannelGateway.Proofs.Document.Serialization
import ChannelGateway.Proofs.Document.Stamps
import ChannelGateway.Proofs.Document.Subschemas
import ChannelGateway.Proofs.Document.Termination
import ChannelGateway.Proofs.Document.Visits
import ChannelGateway.Proofs.Gateway.Headers
import ChannelGateway.Proofs.Host.Details
import ChannelGateway.Proofs.Host.Dispatch
import ChannelGateway.Proofs.Host.Lockstep
import ChannelGateway.Proofs.Host.Stubs
import ChannelGateway.Proofs.Json.Fields
import ChannelGateway.Proofs.Json.Occurrence
import ChannelGateway.Proofs.Json.Pointer
import ChannelGateway.Proofs.Lists.Related
import ChannelGateway.Proofs.Lists.Runs
import ChannelGateway.Proofs.Lists.Search
import ChannelGateway.Proofs.Number.Rounding
import ChannelGateway.Proofs.Number.Spelling
import ChannelGateway.Proofs.Pipeline.Gate
import ChannelGateway.Proofs.Pipeline.Run
import ChannelGateway.Proofs.Registration.Atomic
import ChannelGateway.Proofs.Registration.Factories
import ChannelGateway.Proofs.Registration.Mounting
import ChannelGateway.Proofs.Registration.Reachability
import ChannelGateway.Proofs.Registration.Restored
import ChannelGateway.Proofs.Registration.Schemas
import ChannelGateway.Proofs.Registration.Steps
import ChannelGateway.Proofs.Route.Address
import ChannelGateway.Proofs.Route.Canonical
import ChannelGateway.Proofs.Route.Captures
import ChannelGateway.Proofs.Route.Filling
import ChannelGateway.Proofs.Route.Matching
import ChannelGateway.Proofs.Route.Parameters
import ChannelGateway.Proofs.Route.Plain
import ChannelGateway.Proofs.Route.Remainder
import ChannelGateway.Proofs.Route.Splits
import ChannelGateway.Proofs.Schema.Checking
import ChannelGateway.Proofs.Schema.Coercion
import ChannelGateway.Proofs.Schema.Compiled
import ChannelGateway.Proofs.Schema.Governed
import ChannelGateway.Proofs.Schema.Integers
import ChannelGateway.Proofs.Schema.Keywords
import ChannelGateway.Proofs.Schema.Leaves
import ChannelGateway.Proofs.Schema.Parameters
import ChannelGateway.Proofs.Schema.Reading
import ChannelGateway.Proofs.Schema.ValidData
import ChannelGateway.Proofs.Text.Escapes
import ChannelGateway.Proofs.Text.Percent
import ChannelGateway.Proofs.Text.Segments
import ChannelGateway.Proofs.Text.Utf8
import ChannelGateway.Regex.Automaton
import ChannelGateway.Regex.Core
import ChannelGateway.Regex.Dialect
import ChannelGateway.Regex.Extended
import ChannelGateway.Regex.Extended.Escape
import ChannelGateway.Regex.Extended.Place
import ChannelGateway.Regex.Extended.Reader
import ChannelGateway.Regex.Machine
import ChannelGateway.Regex.Plain
import ChannelGateway.Regex.Plain.Class
import ChannelGateway.Regex.Plain.Escape
import ChannelGateway.Regex.Plain.Reader
import ChannelGateway.Regex.Program
import ChannelGateway.Regex.Search
import ChannelGateway.Regex.Weight
import ChannelGateway.Registration.Compiler
import ChannelGateway.Registration.Options
import ChannelGateway.Registration.Report
import ChannelGateway.Route.Pattern
import ChannelGateway.Route.Spec
import ChannelGateway.Schema.Check
import ChannelGateway.Schema.Coercion
import ChannelGateway.Schema.Compiled
import ChannelGateway.Schema.Content
import ChannelGateway.Schema.Draft
import ChannelGateway.Schema.Error
import ChannelGateway.Schema.Evaluation
import ChannelGateway.Schema.Format
import ChannelGateway.Schema.Format.Mail
import ChannelGateway.Schema.Format.Template
import ChannelGateway.Schema.Format.Time
import ChannelGateway.Schema.Keyword
import ChannelGateway.Schema.Metaschema.Early
import ChannelGateway.Schema.Metaschema.Pieces
import ChannelGateway.Schema.Metaschema.Vocabulary
import ChannelGateway.Schema.Mismatch
import ChannelGateway.Schema.Parts
import ChannelGateway.Schema.Reader
import ChannelGateway.Schema.Reader.Plain
import ChannelGateway.Schema.Registry
import ChannelGateway.Schema.Scope
import ChannelGateway.Schema.Taken
import ChannelGateway.Schema.Validator
import ChannelGateway.Telemetry.Config
import ChannelGateway.Text.Base64
import ChannelGateway.Text.Hex
import ChannelGateway.Text.Percent
import ChannelGateway.Text.Punycode
import ChannelGateway.Text.Quoted
import ChannelGateway.Text.Segments
import ChannelGateway.Text.Utf8
import ChannelGateway.Unicode.Age
import ChannelGateway.Unicode.Category
import ChannelGateway.Unicode.CharSet
import ChannelGateway.Unicode.Classes
import ChannelGateway.Unicode.CombiningClass
import ChannelGateway.Unicode.Composition
import ChannelGateway.Unicode.Direction
import ChannelGateway.Unicode.Folding
import ChannelGateway.Unicode.Joining
import ChannelGateway.Unicode.Names
import ChannelGateway.Unicode.Property
import ChannelGateway.Unicode.Script
import ChannelGateway.Uri.Address
import ChannelGateway.Uri.Reference
import ChannelGateway.Yaml.Block
import ChannelGateway.Yaml.Content
import ChannelGateway.Yaml.Cursor
import ChannelGateway.Yaml.Folding
import ChannelGateway.Yaml.Plain
import ChannelGateway.Yaml.Quoted
import ChannelGateway.Yaml.Record
import ChannelGateway.Yaml.Scalar
import ChannelGateway.Yaml.Scanner
import ChannelGateway.Yaml.Tag
import ChannelGateway.Yaml.ToJson
import ChannelGateway.Yaml.Token
