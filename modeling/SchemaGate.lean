import SchemaGate.Decode.Basic
import SchemaGate.Decode.Target
import SchemaGate.Document
import SchemaGate.Draft
import SchemaGate.Engine.Basic
import SchemaGate.Engine.Dispatch
import SchemaGate.Engine.Request
import SchemaGate.Format.Address
import SchemaGate.Format.Basic
import SchemaGate.Format.Email
import SchemaGate.Format.Template
import SchemaGate.Format.Time
import SchemaGate.Json.Basic
import SchemaGate.Json.Ordered
import SchemaGate.Json.Parser
import SchemaGate.Json.Printer
import SchemaGate.MetaSchema.Draft2019
import SchemaGate.MetaSchema.Draft2020
import SchemaGate.MetaSchema.Draft4
import SchemaGate.MetaSchema.Draft6
import SchemaGate.MetaSchema.Draft7
import SchemaGate.MetaSchema.Fragment
import SchemaGate.Module.Basic
import SchemaGate.Module.Fragment
import SchemaGate.Number.Basic
import SchemaGate.Number.Binary64
import SchemaGate.Number.Shortest
import SchemaGate.Options.Engine
import SchemaGate.Options.Generation
import SchemaGate.Pointer
import SchemaGate.Predicate
import SchemaGate.Proofs.Decode
import SchemaGate.Proofs.Engine.Acceptance
import SchemaGate.Proofs.Engine.AllErrors
import SchemaGate.Proofs.Engine.Dispatch
import SchemaGate.Proofs.Engine.Guard
import SchemaGate.Proofs.Engine.Part
import SchemaGate.Proofs.Engine.Presence
import SchemaGate.Proofs.Engine.Reference
import SchemaGate.Proofs.Engine.Refusal
import SchemaGate.Proofs.Engine.Registration
import SchemaGate.Proofs.Engine.RegistryKey
import SchemaGate.Proofs.Engine.Request
import SchemaGate.Proofs.Engine.RootConstraint
import SchemaGate.Proofs.Engine.SelfContained
import SchemaGate.Proofs.Engine.Soundness
import SchemaGate.Proofs.Json.Canonical
import SchemaGate.Proofs.Json.Lines
import SchemaGate.Proofs.Json.Number
import SchemaGate.Proofs.Json.RoundTrip
import SchemaGate.Proofs.Json.Values
import SchemaGate.Proofs.Module.Bindings
import SchemaGate.Proofs.Module.Checks
import SchemaGate.Proofs.Module.Declarations
import SchemaGate.Proofs.Module.Faults
import SchemaGate.Proofs.Module.Injective
import SchemaGate.Proofs.Module.Parts
import SchemaGate.Proofs.Module.Requests
import SchemaGate.Proofs.Number.Decimal
import SchemaGate.Proofs.Number.Rounding
import SchemaGate.Proofs.Number.Shortest
import SchemaGate.Proofs.Options.Flags
import SchemaGate.Proofs.Options.Overrides
import SchemaGate.Proofs.Options.Saved
import SchemaGate.Proofs.Pointer
import SchemaGate.Proofs.Predicate
import SchemaGate.Proofs.Report
import SchemaGate.Proofs.Schema.Definitions
import SchemaGate.Proofs.Schema.Ending
import SchemaGate.Proofs.Schema.Inside
import SchemaGate.Proofs.Schema.Locality
import SchemaGate.Proofs.Text.Percent
import SchemaGate.Proofs.Text.Run
import SchemaGate.Proofs.Text.Utf8
import SchemaGate.Regex.Automaton
import SchemaGate.Regex.Backtrack
import SchemaGate.Regex.Basic
import SchemaGate.Regex.Expr
import SchemaGate.Regex.Parser
import SchemaGate.Report
import SchemaGate.Schema.Agreement
import SchemaGate.Schema.Assertion
import SchemaGate.Schema.Basic
import SchemaGate.Schema.Cause
import SchemaGate.Schema.Keyword
import SchemaGate.Schema.Registry
import SchemaGate.Schema.Site
import SchemaGate.Schema.Vocabulary
import SchemaGate.Text.Alphabetic
import SchemaGate.Text.Base64
import SchemaGate.Text.Blank
import SchemaGate.Text.Category
import SchemaGate.Text.Debug
import SchemaGate.Text.Fold
import SchemaGate.Text.Hex
import SchemaGate.Text.Letter
import SchemaGate.Text.Numeric
import SchemaGate.Text.Percent
import SchemaGate.Text.Printable
import SchemaGate.Text.Ranges
import SchemaGate.Text.Utf8
import SchemaGate.Text.Word
import SchemaGate.Uri
