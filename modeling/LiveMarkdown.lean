import LiveMarkdown.Text.Basic
import LiveMarkdown.Text.Blank
import LiveMarkdown.Text.Word
import LiveMarkdown.Text.Punctuation
import LiveMarkdown.Text.Case
import LiveMarkdown.Text.Normal
import LiveMarkdown.Text.Utf8
import LiveMarkdown.Digest.Sha1
import LiveMarkdown.Text.Decimal
import LiveMarkdown.Url.Link
import LiveMarkdown.Url.Bare
import LiveMarkdown.Html.Entity
import LiveMarkdown.Html.Escape
import LiveMarkdown.Markdown.Blocks
import LiveMarkdown.Markdown.Document
import LiveMarkdown.Markdown.Render
import LiveMarkdown.Math.Display
import LiveMarkdown.Math.Formula
import LiveMarkdown.Diagram.Labels
import LiveMarkdown.Config
import LiveMarkdown.Heading.Slug
import LiveMarkdown.Heading.Basic
import LiveMarkdown.Heading.Table
import LiveMarkdown.Heading.Index
import LiveMarkdown.Block.Basic
import LiveMarkdown.Block.Split
import LiveMarkdown.Contents.Outline
import LiveMarkdown.Html.Markup
import LiveMarkdown.Html.Tree
import LiveMarkdown.Heading.Page
import LiveMarkdown.Preview.Transform
import LiveMarkdown.Preview.Render
import LiveMarkdown.Preview.Diff
import LiveMarkdown.Preview.Session
import LiveMarkdown.Contents.Loose
import LiveMarkdown.CommandLine.Json
import LiveMarkdown.CommandLine.Run
import LiveMarkdown.Main
import LiveMarkdown.Proofs.Block.Missing
import LiveMarkdown.Proofs.Heading.Coherence
import LiveMarkdown.Proofs.Heading.Owner
import LiveMarkdown.Proofs.Heading.Restored
import LiveMarkdown.Proofs.Preview.Agreement
import LiveMarkdown.Proofs.Heading.Numbered
import LiveMarkdown.Proofs.Preview.Kept
import LiveMarkdown.Proofs.Math.Displayed
import LiveMarkdown.Proofs.Preview.SourceLines
import LiveMarkdown.Proofs.Preview.Applied
import LiveMarkdown.Proofs.Heading.FirstFree
import LiveMarkdown.Proofs.Math.Stretches
import LiveMarkdown.Proofs.Heading.TextAgreement
import LiveMarkdown.Proofs.Math.Twice
import LiveMarkdown.Proofs.Math.Shown
import LiveMarkdown.Proofs.Contents.Nesting
import LiveMarkdown.Proofs.Diagram.Marks
import LiveMarkdown.Proofs.Diagram.Lines
import LiveMarkdown.Proofs.Diagram.Edges
import LiveMarkdown.Proofs.Preview.Embedded
import LiveMarkdown.Proofs.Preview.Stages
