import FormLogic.CommandLine.Arguments
import FormLogic.CommandLine.Report
import FormLogic.CommandLine.Run
import FormLogic.Condition
import FormLogic.Diagnostics
import FormLogic.Error
import FormLogic.Main
import FormLogic.Number.Binary64
import FormLogic.Number.Literal
import FormLogic.Number.Shortest
import FormLogic.Path
import FormLogic.Pattern.Anchor
import FormLogic.Pattern.Anchored
import FormLogic.Pattern.Automaton.Plan
import FormLogic.Pattern.Automaton.Rows
import FormLogic.Pattern.Automaton.Tally
import FormLogic.Pattern.Automaton.Words
import FormLogic.Pattern.Expr
import FormLogic.Pattern.Meaning
import FormLogic.Pattern.Property
import FormLogic.Pattern.Search
import FormLogic.Pattern.Term
import FormLogic.Pattern.Term.Reader
import FormLogic.Registry.Basic
import FormLogic.Registry.Standard
import FormLogic.Resolve.Engine
import FormLogic.Resolve.Initial
import FormLogic.Resolve.Instance
import FormLogic.Resolve.Missing
import FormLogic.Resolve.Validators
import FormLogic.Resolve.Visibility
import FormLogic.Schema.Node
import FormLogic.Schema.Reader
import FormLogic.Schema.Writer
import FormLogic.Settings.Basic
import FormLogic.Settings.Sources
import FormLogic.Settings.TomlEntries
import FormLogic.Settings.YamlEntries
import FormLogic.Text.Age
import FormLogic.Text.Blank
import FormLogic.Text.ByteRange
import FormLogic.Text.CaseFolding
import FormLogic.Text.CharProperty
import FormLogic.Text.CharSet
import FormLogic.Text.GeneralCategory
import FormLogic.Text.Hexadecimal
import FormLogic.Text.Script
import FormLogic.Text.Segmentation
import FormLogic.Toml.Document
import FormLogic.Toml.Scalar
import FormLogic.Toml.Table
import FormLogic.Toml.Text
import FormLogic.Validation.Plugin
import FormLogic.Validation.Tracker
import FormLogic.Validation.Validator
import FormLogic.Value.Access
import FormLogic.Value.Basic
import FormLogic.Value.Reader
import FormLogic.Value.Writer
import FormLogic.Yaml.Character
import FormLogic.Yaml.Cursor
import FormLogic.Yaml.Node
import FormLogic.Yaml.Scalar
import FormLogic.Yaml.Token
import FormLogic.Yaml.Token.Lexer
import FormLogic.Yaml.Token.Tag
import FormLogic.Yaml.Token.Text
import FormLogic.Yaml.Writer
import FormLogic.Proofs.Addressing
import FormLogic.Proofs.FiniteValues
import FormLogic.Proofs.CleanScope
import FormLogic.Proofs.PassInversion
import FormLogic.Proofs.ClearingPolicy
import FormLogic.Proofs.KeptRows
import FormLogic.Proofs.ComposedChecks
import FormLogic.Proofs.Convergence
import FormLogic.Proofs.DecidableTrees
import FormLogic.Proofs.ReportAgreement
import FormLogic.Proofs.Warnings
import FormLogic.Proofs.ValueEquality
import FormLogic.Proofs.ClearedPaths
import FormLogic.Proofs.HiddenFlags
import FormLogic.Proofs.Fixpoint
import FormLogic.Proofs.ShownAgain
import FormLogic.Proofs.PathAlgebra
import FormLogic.Proofs.FlatValidation
import FormLogic.Proofs.FittingRows
import FormLogic.Proofs.TicketHistory
import FormLogic.Proofs.InstancePaths
import FormLogic.Proofs.AddressablePaths
import FormLogic.Proofs.FreshForm
import FormLogic.Proofs.UndeclaredDefaults
import FormLogic.Proofs.UnrefinedValidators
import FormLogic.Proofs.FreshValidation
import FormLogic.Proofs.NodesAlike
import FormLogic.Proofs.OpenedContainers
import FormLogic.Proofs.ShownFields
import FormLogic.Proofs.VisitSteps
import FormLogic.Proofs.TransparentContainers
import FormLogic.Proofs.WriteFaults
import FormLogic.Proofs.WriteLaws
import FormLogic.Proofs.IndependentWrites
import FormLogic.Proofs.PassPlan
import FormLogic.Proofs.PlannedPass
import FormLogic.Proofs.Rearrangement
import FormLogic.Proofs.RearrangedPass
import FormLogic.Proofs.ReadsAfterWrites
import FormLogic.Proofs.BesideRow
import FormLogic.Proofs.SiblingRows
import FormLogic.Proofs.ExitCodes
import FormLogic.Proofs.SoftRequired
import FormLogic.Proofs.RowsOfLists
import FormLogic.Proofs.SortedFields
import FormLogic.Proofs.SchemaRoundTrip
import FormLogic.Proofs.BlockedWrites
import FormLogic.Proofs.TemplateCapabilities
import FormLogic.Proofs.BlockedPass
import FormLogic.Proofs.ValidatorParts
import FormLogic.Proofs.MissingReport
import FormLogic.Proofs.InstanceSearch
import FormLogic.Proofs.PassLimit
import FormLogic.Proofs.RepeatedPass
import FormLogic.Proofs.KeptNotes
import FormLogic.Proofs.PluginNotes
import FormLogic.Proofs.UnknownTypes
import FormLogic.Proofs.MatchedTexts
import FormLogic.Proofs.PatternCursors
import FormLogic.Proofs.PatternEscapes
import FormLogic.Proofs.PatternClasses
import FormLogic.Proofs.PatternReading
import FormLogic.Proofs.AnchoredPatterns
