import Scaffold.Table
import Scaffold.Unicode.Letter
import Scaffold.Unicode.Casing
import Scaffold.Text.Layout
import Scaffold.Marker
import Scaffold.LineKind
import Scaffold.Snippet.Key
import Scaffold.Merge
import Scaffold.Dedupe
import Scaffold.Seeding
import Scaffold.Edit
import Scaffold.Placeholder
import Scaffold.Json.Value
import Scaffold.Json.Draft
import Scaffold.Json.Shape
import Scaffold.Template.FromJson
import Scaffold.Yaml.Scalar
import Scaffold.Yaml.Token
import Scaffold.Yaml.Node
import Scaffold.Yaml.Shape
import Scaffold.Template.Document
import Scaffold.Update
import Scaffold.Path
import Scaffold.Project
import Scaffold.Outline
import Scaffold.FileTree
import Scaffold.Loading
import Scaffold.Generator
import Scaffold.CommandLine
import Scaffold.Main
import Scaffold.Proofs.Blanks
import Scaffold.Proofs.Words
import Scaffold.Proofs.MarkerGrammar
import Scaffold.Proofs.LineEndings
import Scaffold.Proofs.CodeLines
import Scaffold.Proofs.Layout
import Scaffold.Proofs.MarkerLines
import Scaffold.Proofs.DedupeLaws
import Scaffold.Proofs.PresenceLaws
import Scaffold.Proofs.SnippetSources
import Scaffold.Proofs.PlainSnippets
import Scaffold.Proofs.MarkerKeys
import Scaffold.Proofs.MarkerForms
import Scaffold.Proofs.SeedingLaws
import Scaffold.Proofs.MergeRun
import Scaffold.Proofs.MergeLaws
import Scaffold.Proofs.Placement
import Scaffold.Proofs.Rerun
import Scaffold.Proofs.StrippedBodies
import Scaffold.Proofs.FreshFiles
import Scaffold.Proofs.Itinerary
import Scaffold.Proofs.DiskFrame
import Scaffold.Proofs.DryRun
import Scaffold.Proofs.Accumulation
import Scaffold.Proofs.WritingRun
import Scaffold.Proofs.RelativePaths
import Scaffold.Proofs.Visits
import Scaffold.Proofs.CleanFiles
import Scaffold.Proofs.SeededMerge
import Scaffold.Proofs.SeededMarkers
import Scaffold.Proofs.AnchorLaws
import Scaffold.Proofs.LineInsertion
import Scaffold.Proofs.Adjacency
import Scaffold.Proofs.InlineInsertion
import Scaffold.Proofs.AddedMarkers
import Scaffold.Proofs.Replacements
import Scaffold.Proofs.EditFrame
import Scaffold.Proofs.ChangeFlags
import Scaffold.Proofs.FirstImports
import Scaffold.Proofs.FirstEntries
import Scaffold.Proofs.Stacking
import Scaffold.Proofs.Relaying
import Scaffold.Proofs.VerbatimBodies
import Scaffold.Proofs.FileEnds
import Scaffold.Proofs.NewlineStyles
import Scaffold.Proofs.Reindenting
import Scaffold.Proofs.PrefixTree
import Scaffold.Proofs.Drawings
import Scaffold.Proofs.KeyRanks
import Scaffold.Proofs.BlockGrammar
import Scaffold.Proofs.InputFaults
import Scaffold.Proofs.JsonRoundTrip
import Scaffold.Proofs.Utf8Laws
import Scaffold.Proofs.TemplateRoundTrip
import Scaffold.Proofs.Substitution
import Scaffold.Proofs.GivenValues
