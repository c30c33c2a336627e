import DocLinks.Checker
import DocLinks.Config.Load
import DocLinks.Fix.Search
import DocLinks.Log.Message
import DocLinks.Log.Setup
import DocLinks.Redirect.Check
import DocLinks.Value.Order
import DocLinks.Proofs.Check.CheckThenFix
import DocLinks.Proofs.Check.Fixing
import DocLinks.Proofs.Check.Reports
import DocLinks.Proofs.Check.Suggestions
import DocLinks.Proofs.DocPath.Ways
import DocLinks.Proofs.FileTree.Rewriting
import DocLinks.Proofs.Fix.Batch
import DocLinks.Proofs.Fix.ByteExact
import DocLinks.Proofs.Fix.CleanLines
import DocLinks.Proofs.Fix.Document
import DocLinks.Proofs.Fix.Lines
import DocLinks.Proofs.Fix.Occurrences
import DocLinks.Proofs.Fix.Order
import DocLinks.Proofs.Fix.Pieces
import DocLinks.Proofs.Fix.PlainTargets
import DocLinks.Proofs.Fix.PresentLinks
import DocLinks.Proofs.Markdown.Attributes
import DocLinks.Proofs.Markdown.Inline
import DocLinks.Proofs.Markdown.Lines
import DocLinks.Proofs.Markdown.Positions
import DocLinks.Proofs.Markdown.Rendering
import DocLinks.Proofs.Project.Pages
import DocLinks.Proofs.Runs
import DocLinks.Proofs.Text.Cutting
import DocLinks.Proofs.Check.KeptLinks
import DocLinks.Proofs.Check.FixedLinks
import DocLinks.Proofs.Redirect.Block
import DocLinks.Proofs.Redirect.Recording
import DocLinks.Proofs.Redirect.Agreement
import DocLinks.Proofs.Redirect.Batches
import DocLinks.Proofs.Redirect.Coverage
import DocLinks.Proofs.Navigation.Items
import DocLinks.Proofs.Navigation.Forest
import DocLinks.Proofs.Value.Dicts
import DocLinks.Proofs.Value.Labels
import DocLinks.Proofs.Config.Normalized
import DocLinks.Proofs.Config.Rules
import DocLinks.Proofs.Config.Sections
import DocLinks.Proofs.Config.Answers
import DocLinks.Proofs.Check.Creating
import DocLinks.Proofs.Config.Soundness
import DocLinks.Proofs.Check.Answers
import DocLinks.Proofs.Check.Surviving
import DocLinks.Proofs.FileTree.Changes
import DocLinks.Proofs.Fix.Writes
import DocLinks.Proofs.Check.Writes
import DocLinks.Proofs.Check.Tables
import DocLinks.Proofs.Check.Memories
import DocLinks.Proofs.Check.Accounting
import DocLinks.Proofs.Check.History
import DocLinks.Proofs.Redirect.Appending
import DocLinks.Proofs.Redirect.Views
import DocLinks.Proofs.Fix.OneByOne
import DocLinks.Proofs.Check.SoundSuggestions
import DocLinks.Proofs.Project.Published
import DocLinks.Proofs.Project.Detours
import DocLinks.Proofs.Redirect.Checking
import DocLinks.Proofs.Redirect.Bookkeeping
import DocLinks.Proofs.Navigation.Verdicts
import DocLinks.Proofs.Project.Following
import DocLinks.Proofs.Check.GrowingTrees
import DocLinks.Proofs.Markdown.Escapes
import DocLinks.Proofs.Markdown.Fences
import DocLinks.Proofs.Markdown.Slugs
import DocLinks.Proofs.Similarity
import DocLinks.Proofs.Fix.ClosestFile
import DocLinks.Proofs.Scores
import DocLinks.Proofs.Fix.Namesakes
import DocLinks.Proofs.Fix.LetterCase
import DocLinks.Proofs.Check.Anchors
import DocLinks.Proofs.Fix.Previews
import DocLinks.Proofs.Project.Listing
import DocLinks.Proofs.Fix.NearestReadme
