import DocScribe.Json.Reader
import DocScribe.Json.Printer
import DocScribe.Json.Display
import DocScribe.Text.Units
import DocScribe.Text.WordChar
import DocScribe.Markdown.Reading
import DocScribe.Markdown.Render
import DocScribe.Docs.Compile
import DocScribe.Docs.Marker
import DocScribe.Docs.TableLayout
import DocScribe.Docs.MarkdownWrite
import DocScribe.Tools.Read
import DocScribe.Tools.Write
import DocScribe.Tools.Export
import DocScribe.Tools.Parameter
import DocScribe.Credential.Connection
import DocScribe.CommandLine
import DocScribe.Main
import DocScribe.Rehearsal.World
import DocScribe.Proofs.Docs.DocumentService
import DocScribe.Proofs.Docs.Meaning
import DocScribe.Proofs.Docs.Compilation
import DocScribe.Proofs.Docs.Styling
import DocScribe.Proofs.Docs.RangeOrder
import DocScribe.Proofs.Docs.ItemNumbers
import DocScribe.Proofs.Docs.KeptTables
import DocScribe.Proofs.Docs.JoinedTexts
import DocScribe.Proofs.Docs.PicturePass
import DocScribe.Proofs.Docs.DroppedAnchors
import DocScribe.Proofs.Docs.ShownBody
import DocScribe.Proofs.Docs.TabledText
import DocScribe.Proofs.Markdown.ImageSources
import DocScribe.Proofs.Docs.AnchoredTables
import DocScribe.Proofs.Docs.TextBudget
import DocScribe.Proofs.Service.FailStop
import DocScribe.Proofs.Service.PromptAction
import DocScribe.Proofs.Docs.PromptWrites
import DocScribe.Proofs.Docs.PromptPictures
import DocScribe.Proofs.Tools.StoppedWrites
import DocScribe.Proofs.Service.Transcript
import DocScribe.Proofs.Tools.GuardedTries
import DocScribe.Proofs.Docs.TemporaryUploads
import DocScribe.Proofs.Docs.ValidEdits
import DocScribe.Proofs.Docs.KeptDocuments
import DocScribe.Proofs.Docs.SafeWrites
import DocScribe.Proofs.Docs.SafePictures
import DocScribe.Proofs.Tools.ValidRequests
import DocScribe.Proofs.Markdown.PageLines
import DocScribe.Proofs.Markdown.BlockRuns
import DocScribe.Proofs.Markdown.BlockStarts
import DocScribe.Proofs.Markdown.FencedCode
import DocScribe.Proofs.Markdown.LegibleText
import DocScribe.Proofs.Markdown.GuardedText
import DocScribe.Proofs.Markdown.SteadySpans
import DocScribe.Proofs.Markdown.PageBlocks
import DocScribe.Proofs.Markdown.SteadyElements
import DocScribe.Proofs.Markdown.ItemLines
import DocScribe.Proofs.Markdown.OutlineLines
import DocScribe.Proofs.Text.NullFree
import DocScribe.Proofs.Markdown.ReadableUrls
import DocScribe.Proofs.Text.Words
import DocScribe.Proofs.Markdown.BlockWords
import DocScribe.Proofs.Markdown.EntityValues
import DocScribe.Proofs.Markdown.InlineNulls
import DocScribe.Proofs.Markdown.ElementNulls
import DocScribe.Proofs.Docs.AnchorPlaces
import DocScribe.Proofs.Docs.MarkerOccurrences
import DocScribe.Proofs.Docs.PopulatedTable
import DocScribe.Proofs.Docs.InsertionProgress
import DocScribe.Proofs.Tools.ReadBudget
import DocScribe.Proofs.Docs.ReplacedRanges
import DocScribe.Proofs.Service.UnfinishedChanges
import DocScribe.Proofs.Docs.SparingReads
import DocScribe.Proofs.Docs.CalmPictures
import DocScribe.Proofs.Docs.BoundedTables
import DocScribe.Proofs.Tools.BoundedWrites
import DocScribe.Proofs.Markdown.TreeReading
import DocScribe.Proofs.Markdown.FaithfulSpans
import DocScribe.Proofs.Markdown.ParagraphSegments
import DocScribe.Proofs.Markdown.MergedSpans
import DocScribe.Proofs.Markdown.ItemColumns
import DocScribe.Proofs.Markdown.CodeBlocks
import DocScribe.Proofs.Docs.TabOrder
import DocScribe.Proofs.Docs.TabLookup
import DocScribe.Proofs.Tools.ListedTabs
import DocScribe.Proofs.Files.FileService
import DocScribe.Proofs.Tools.ExactExport
import DocScribe.Proofs.Text.PlainAscii
import DocScribe.Proofs.Json.QuotedText
import DocScribe.Proofs.Json.RoundTrip
import DocScribe.Proofs.Credential.Calendar
import DocScribe.Proofs.Credential.Stamp
import DocScribe.Proofs.Credential.TimeReading
import DocScribe.Proofs.Credential.DateReading
import DocScribe.Proofs.Credential.StampReading
import DocScribe.Proofs.Credential.TokenFile
import DocScribe.Proofs.Credential.TokenExpiry
import DocScribe.Proofs.Credential.TokenRoundTrip
