import PluginDescriptor.Calendar
import PluginDescriptor.Command.Grammar
import PluginDescriptor.Command.Invocation
import PluginDescriptor.Command.Pairs
import PluginDescriptor.Command.Run
import PluginDescriptor.Command.Stamp
import PluginDescriptor.Descriptor.Catalog
import PluginDescriptor.Descriptor.Draft
import PluginDescriptor.Descriptor.Drafting
import PluginDescriptor.Descriptor.Equality
import PluginDescriptor.Descriptor.Execution
import PluginDescriptor.Descriptor.Model
import PluginDescriptor.Descriptor.Problem
import PluginDescriptor.Descriptor.Request
import PluginDescriptor.Descriptor.Search
import PluginDescriptor.Descriptor.Shape
import PluginDescriptor.Descriptor.Work
import PluginDescriptor.Error.Code
import PluginDescriptor.Error.Failure
import PluginDescriptor.Error.Report
import PluginDescriptor.Fault
import PluginDescriptor.File.Path
import PluginDescriptor.File.Tree
import PluginDescriptor.Help.Field
import PluginDescriptor.Help.Page
import PluginDescriptor.Help.Template
import PluginDescriptor.Log.Call
import PluginDescriptor.Log.Context
import PluginDescriptor.Log.Layout
import PluginDescriptor.Log.Notice
import PluginDescriptor.Log.Record
import PluginDescriptor.Log.Table
import PluginDescriptor.Main
import PluginDescriptor.Named
import PluginDescriptor.Number.Binary64
import PluginDescriptor.Number.Shortest
import PluginDescriptor.Pattern.Basic
import PluginDescriptor.Pattern.Folding
import PluginDescriptor.Pattern.Match
import PluginDescriptor.Pattern.Parser
import PluginDescriptor.Proofs.Command.Exit
import PluginDescriptor.Proofs.Command.Failing
import PluginDescriptor.Proofs.Command.Forms
import PluginDescriptor.Proofs.Command.Options
import PluginDescriptor.Proofs.Descriptor.Acceptance
import PluginDescriptor.Proofs.Descriptor.Calls
import PluginDescriptor.Proofs.Descriptor.Checked
import PluginDescriptor.Proofs.Descriptor.Containment
import PluginDescriptor.Proofs.Descriptor.Declared
import PluginDescriptor.Proofs.Descriptor.Defaults
import PluginDescriptor.Proofs.Descriptor.Derivation
import PluginDescriptor.Proofs.Descriptor.Effect
import PluginDescriptor.Proofs.Descriptor.Failing
import PluginDescriptor.Proofs.Descriptor.Grammar
import PluginDescriptor.Proofs.Descriptor.Identifier
import PluginDescriptor.Proofs.Descriptor.Kinds
import PluginDescriptor.Proofs.Descriptor.Meaning
import PluginDescriptor.Proofs.Descriptor.Naming
import PluginDescriptor.Proofs.Descriptor.Openness
import PluginDescriptor.Proofs.Descriptor.Precedence
import PluginDescriptor.Proofs.Descriptor.Reached
import PluginDescriptor.Proofs.Descriptor.Reordering
import PluginDescriptor.Proofs.Descriptor.Request
import PluginDescriptor.Proofs.Descriptor.RoundTrip
import PluginDescriptor.Proofs.Descriptor.Search
import PluginDescriptor.Proofs.Descriptor.Soundness
import PluginDescriptor.Proofs.Descriptor.Spelling
import PluginDescriptor.Proofs.Descriptor.Tracking
import PluginDescriptor.Proofs.Descriptor.Verdict
import PluginDescriptor.Proofs.Descriptor.Written
import PluginDescriptor.Proofs.Error.Expressible
import PluginDescriptor.Proofs.Error.Report
import PluginDescriptor.Proofs.Fields
import PluginDescriptor.Proofs.File.Path
import PluginDescriptor.Proofs.Freezing
import PluginDescriptor.Proofs.Help.Filling
import PluginDescriptor.Proofs.Help.Finding
import PluginDescriptor.Proofs.Help.Rendering
import PluginDescriptor.Proofs.Help.Verbatim
import PluginDescriptor.Proofs.Log.Delivery
import PluginDescriptor.Proofs.Log.Notice
import PluginDescriptor.Proofs.Log.Tree
import PluginDescriptor.Proofs.Named
import PluginDescriptor.Proofs.Outcome
import PluginDescriptor.Proofs.Settings.Enumeration
import PluginDescriptor.Proofs.Settings.Explicit
import PluginDescriptor.Proofs.Settings.Files
import PluginDescriptor.Proofs.Settings.Landing
import PluginDescriptor.Proofs.Settings.Layering
import PluginDescriptor.Proofs.Settings.Places
import PluginDescriptor.Proofs.Settings.Reading
import PluginDescriptor.Proofs.Settings.Reloading
import PluginDescriptor.Proofs.Settings.Sources
import PluginDescriptor.Proofs.Settings.Verbatim
import PluginDescriptor.Proofs.Settings.Violations
import PluginDescriptor.Proofs.Text.Case
import PluginDescriptor.Proofs.Text.Numeral
import PluginDescriptor.Proofs.Text.Split
import PluginDescriptor.Proofs.Text.Utf8
import PluginDescriptor.Proofs.Validator.Calls
import PluginDescriptor.Proofs.Validator.Importing
import PluginDescriptor.Proofs.Validator.Membership
import PluginDescriptor.Proofs.Validator.Registration
import PluginDescriptor.Proofs.Validator.Standard
import PluginDescriptor.Proofs.Value.Ascii
import PluginDescriptor.Proofs.Value.Essence
import PluginDescriptor.Proofs.Value.Json
import PluginDescriptor.Proofs.Value.Literal
import PluginDescriptor.Proofs.Value.Mapping
import PluginDescriptor.Proofs.Value.Parts
import PluginDescriptor.Proofs.Value.Thawing
import PluginDescriptor.Proofs.Value.Word
import PluginDescriptor.Proofs.Version.Dotted
import PluginDescriptor.Proofs.Version.Opposite
import PluginDescriptor.Proofs.Version.Order
import PluginDescriptor.Proofs.Version.Rank
import PluginDescriptor.Proofs.Version.Splitting
import PluginDescriptor.Proofs.Version.Token
import PluginDescriptor.Proofs.Yaml.Document
import PluginDescriptor.Settings.Checked
import PluginDescriptor.Settings.Configuration
import PluginDescriptor.Settings.Environment
import PluginDescriptor.Settings.Loaded
import PluginDescriptor.Settings.Merge
import PluginDescriptor.Settings.Model
import PluginDescriptor.Settings.Plan
import PluginDescriptor.Settings.Problem
import PluginDescriptor.Settings.Source
import PluginDescriptor.Text.Base64
import PluginDescriptor.Text.Blank
import PluginDescriptor.Text.Case
import PluginDescriptor.Text.CaseTable
import PluginDescriptor.Text.CharacterName
import PluginDescriptor.Text.CodeRange
import PluginDescriptor.Text.Digit
import PluginDescriptor.Text.Encoding
import PluginDescriptor.Text.NameTable
import PluginDescriptor.Text.Numeral
import PluginDescriptor.Text.Printable
import PluginDescriptor.Text.Quoted
import PluginDescriptor.Text.Split
import PluginDescriptor.Text.Utf8
import PluginDescriptor.Text.Word
import PluginDescriptor.Validator.Address
import PluginDescriptor.Validator.Basic
import PluginDescriptor.Validator.Call
import PluginDescriptor.Validator.Module
import PluginDescriptor.Validator.Table
import PluginDescriptor.Value.Basic
import PluginDescriptor.Value.Collection
import PluginDescriptor.Value.Frozen
import PluginDescriptor.Value.Json
import PluginDescriptor.Value.Layout.Basic
import PluginDescriptor.Value.Layout.Number
import PluginDescriptor.Value.Text
import PluginDescriptor.Version.Basic
import PluginDescriptor.Version.Order
import PluginDescriptor.Yaml.Document
import PluginDescriptor.Yaml.Node
import PluginDescriptor.Yaml.Scalar
import PluginDescriptor.Yaml.Token
import PluginDescriptor.Yaml.Token.Lexer
