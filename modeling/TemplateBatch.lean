import TemplateBatch.Batch
import TemplateBatch.Bundle
import TemplateBatch.Bundle.Embedded
import TemplateBatch.Bytes
import TemplateBatch.CommandLine
import TemplateBatch.CommandLine.Argument
import TemplateBatch.CommandLine.Emphasis
import TemplateBatch.CommandLine.Failure
import TemplateBatch.CommandLine.Help
import TemplateBatch.CommandLine.Job
import TemplateBatch.CommandLine.Render
import TemplateBatch.Compilation
import TemplateBatch.Configuration
import TemplateBatch.Configuration.Document
import TemplateBatch.Crate.FixedText
import TemplateBatch.Crate.Root
import TemplateBatch.Crate.Validation
import TemplateBatch.Diagnostic
import TemplateBatch.Diagnostic.CompilerReport
import TemplateBatch.Digest.Blake3
import TemplateBatch.FileTree.Basic
import TemplateBatch.FileTree.Operations
import TemplateBatch.FileTree.Resolve
import TemplateBatch.Identifier
import TemplateBatch.Json.Basic
import TemplateBatch.Json.Decoder
import TemplateBatch.Json.Printer
import TemplateBatch.Json.Reader
import TemplateBatch.Launch
import TemplateBatch.Library
import TemplateBatch.Machine
import TemplateBatch.Main
import TemplateBatch.Message.Request
import TemplateBatch.Message.Response
import TemplateBatch.OutputNames
import TemplateBatch.Path
import TemplateBatch.Pipeline
import TemplateBatch.Proofs.BatchCompleteness
import TemplateBatch.Proofs.Correlation
import TemplateBatch.Proofs.FaultClassification
import TemplateBatch.Proofs.JsonRoundTrip
import TemplateBatch.Proofs.ManifestDiscovery
import TemplateBatch.Proofs.OutputNames
import TemplateBatch.Proofs.PathPieces
import TemplateBatch.Proofs.Rejection
import TemplateBatch.Proofs.Resolution
import TemplateBatch.Proofs.Serving
import TemplateBatch.Proofs.Transmission
import TemplateBatch.Proofs.Utf8
import TemplateBatch.Proofs.WireFormat
import TemplateBatch.Proofs.WorkResults
import TemplateBatch.Proofs.WorkerStages
import TemplateBatch.Reference
import TemplateBatch.RunConfiguration
import TemplateBatch.Runner
import TemplateBatch.Staging.Layout
import TemplateBatch.Staging.Phase
import TemplateBatch.Staging.Stager
import TemplateBatch.Stub.Buffer
import TemplateBatch.Stub.Manifest
import TemplateBatch.SystemError
import TemplateBatch.Template
import TemplateBatch.Text.Basic
import TemplateBatch.Text.CaseMapping
import TemplateBatch.Text.CharacterClass
import TemplateBatch.Text.CodeTag
import TemplateBatch.Text.ControlSequence
import TemplateBatch.Text.Hexadecimal
import TemplateBatch.Text.Lines
import TemplateBatch.Text.Literal
import TemplateBatch.Text.Markup
import TemplateBatch.Text.Printable
import TemplateBatch.Text.Quoted
import TemplateBatch.Text.Utf8
import TemplateBatch.Text.Words
import TemplateBatch.Toolchain
import TemplateBatch.Worker.Bootstrap
import TemplateBatch.Worker.Program
import TemplateBatch.Worker.Serve
import TemplateBatch.Worker.Wording
import TemplateBatch.Yaml.Cursor
import TemplateBatch.Yaml.Event
import TemplateBatch.Yaml.Node
import TemplateBatch.Yaml.Scalar
import TemplateBatch.Yaml.Token
import TemplateBatch.Proofs.Directories
import TemplateBatch.Proofs.OutputFiles
import TemplateBatch.Proofs.Delivery
import TemplateBatch.Proofs.NameMatching
import TemplateBatch.Proofs.Entries
import TemplateBatch.Proofs.StagingSteps
import TemplateBatch.Proofs.Crew
import TemplateBatch.Proofs.SharedStaging
import TemplateBatch.Proofs.StartedWorkers
import TemplateBatch.Proofs.AddedFiles
import TemplateBatch.Proofs.RestoredFiles
import TemplateBatch.Proofs.RunStages
import TemplateBatch.Proofs.RepeatedRuns
import TemplateBatch.Proofs.StagingEffects
import TemplateBatch.Proofs.RuntimeSearch
import TemplateBatch.Proofs.StagedConfiguration
import TemplateBatch.Proofs.BatchRuns
import TemplateBatch.Proofs.LoadOrder
import TemplateBatch.Proofs.ScratchCrate
import TemplateBatch.Proofs.BatchResidue
import TemplateBatch.Proofs.FirstFreeNames
import TemplateBatch.Proofs.NameClashes
import TemplateBatch.Proofs.BuildOutcomes
import TemplateBatch.Proofs.ParentPaths
import TemplateBatch.Proofs.LinkedCrates
import TemplateBatch.Proofs.Identifiers
import TemplateBatch.Proofs.TypePaths
import TemplateBatch.Proofs.NameChecks
import TemplateBatch.Proofs.RootText
import TemplateBatch.Proofs.CrateFiles
import TemplateBatch.Proofs.StartAttempts
import TemplateBatch.Proofs.DeclaredNames
import TemplateBatch.Proofs.JsonSteps
import TemplateBatch.Proofs.JsonSpace
import TemplateBatch.Proofs.ReportLines
import TemplateBatch.Proofs.ReportedPlaces
import TemplateBatch.Proofs.StepTexts
import TemplateBatch.Proofs.FirstLibrary
import TemplateBatch.Proofs.StagingPasses
import TemplateBatch.Proofs.StagingHistories
import TemplateBatch.Proofs.ListedFiles
import TemplateBatch.Proofs.CodeTags
import TemplateBatch.Proofs.ReferenceNames
import TemplateBatch.Proofs.ToldDiagnostics
import TemplateBatch.Proofs.TextPieces
import TemplateBatch.Proofs.MarkupText
import TemplateBatch.Proofs.LiteralText
import TemplateBatch.Proofs.Indentation
import TemplateBatch.Proofs.WordCases
import TemplateBatch.Proofs.WordRuns
import TemplateBatch.Proofs.ResourceListing
import TemplateBatch.Proofs.PathComponents
