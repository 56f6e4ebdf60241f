import Scenarist.Text.Case
import Scenarist.Outline.Extraction
import Scenarist.Feature.Alignment
import Scenarist.Markdown.Html
import Scenarist.Markdown.Marker
import Scenarist.Markdown.Reference
import Scenarist.Markdown.Layout
import Scenarist.Markdown.Event
import Scenarist.Page.Diagnostic
import Scenarist.Page.Omission
import Scenarist.Page.Reading
import Scenarist.Toml.Document
import Scenarist.Command.Settings
import Scenarist.Fixture.FrontMatter
import Scenarist.Fixture.Suite
import Scenarist.Command.Arguments
import Scenarist.Fixture.Report
import Scenarist.Command.Drawing
import Scenarist.Command.Dump
import Scenarist.Command.Run
import Scenarist.Main
import Scenarist.Proofs.Text.Split
import Scenarist.Proofs.Text.Trim
import Scenarist.Proofs.Feature.Alignment
import Scenarist.Proofs.Outline.Places
import Scenarist.Proofs.Outline.Pass
import Scenarist.Proofs.Feature.Repeats
import Scenarist.Proofs.Outline.BulletHeaders
import Scenarist.Proofs.Outline.Links
import Scenarist.Proofs.Page.LinkMarkup
import Scenarist.Proofs.Outline.OpenScenario
import Scenarist.Proofs.Outline.Steps
import Scenarist.Proofs.Feature.Entries
import Scenarist.Proofs.Outline.Filed
import Scenarist.Proofs.Outline.Header
import Scenarist.Proofs.Outline.Outcome
import Scenarist.Proofs.Outline.Regions
import Scenarist.Proofs.Feature.RowLines
import Scenarist.Proofs.Markdown.EventTree
import Scenarist.Proofs.Markdown.Sites
import Scenarist.Proofs.Page.Parts
import Scenarist.Proofs.Page.PartReading
import Scenarist.Proofs.Page.VisibleText
import Scenarist.Proofs.Outline.HeaderSources
import Scenarist.Proofs.Page.FlatText
import Scenarist.Proofs.Outline.WellFormed
import Scenarist.Proofs.Feature.Convertible
import Scenarist.Proofs.Files.Writing
import Scenarist.Proofs.Command.ArgumentWords
import Scenarist.Proofs.Command.Conversion
import Scenarist.Proofs.Markdown.Ranges
import Scenarist.Proofs.Page.Skipping
import Scenarist.Proofs.Feature.Columns
import Scenarist.Proofs.Feature.AlignedFeature
import Scenarist.Proofs.Page.WrittenPage
import Scenarist.Proofs.Outline.Additions
import Scenarist.Proofs.Command.OutputFile
import Scenarist.Proofs.Command.BareForm
import Scenarist.Proofs.Files.Listing
import Scenarist.Proofs.Fixture.Discovery
import Scenarist.Proofs.Feature.ColumnLayout
import Scenarist.Proofs.Feature.CanonicalForm
import Scenarist.Proofs.Page.MarkedText
import Scenarist.Proofs.Page.ItemLines
import Scenarist.Proofs.Page.QuotedLine
import Scenarist.Proofs.Feature.FeatureLines
import Scenarist.Proofs.Fixture.Splitting
import Scenarist.Proofs.Fixture.TrialOutcome
import Scenarist.Proofs.Feature.KeptPlaces
import Scenarist.Proofs.Fixture.Selection
import Scenarist.Proofs.Fixture.UnmatchedRequests
import Scenarist.Proofs.Toml.DistinctKeys
import Scenarist.Proofs.Command.SettingsOverlay
import Scenarist.Proofs.Outline.Segments
import Scenarist.Proofs.Text.CaseImages
import Scenarist.Proofs.Text.WordList
import Scenarist.Proofs.Outline.InferredHeader
import Scenarist.Proofs.Page.Unwrapping
import Scenarist.Proofs.Feature.RunsApart
import Scenarist.Proofs.Outline.TableCells
import Scenarist.Proofs.Page.Progress
