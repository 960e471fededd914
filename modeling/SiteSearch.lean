import SiteSearch.Answer.Panel
import SiteSearch.Answer.Session
import SiteSearch.Command.Arguments
import SiteSearch.Command.Run
import SiteSearch.EnvironmentFile
import SiteSearch.EventStream
import SiteSearch.Failure
import SiteSearch.Html.Adoption
import SiteSearch.Html.Body
import SiteSearch.Html.Builder
import SiteSearch.Html.Document
import SiteSearch.Html.Foreign
import SiteSearch.Html.Head
import SiteSearch.Html.Table
import SiteSearch.Html.Token
import SiteSearch.Html.Tree
import SiteSearch.Json.Reader
import SiteSearch.Json.Value
import SiteSearch.Main
import SiteSearch.Markdown.Block
import SiteSearch.Markdown.Document
import SiteSearch.Markdown.Emphasis
import SiteSearch.Markdown.Inline
import SiteSearch.Markdown.Line
import SiteSearch.Markdown.Reference
import SiteSearch.Markdown.Tag
import SiteSearch.Markdown.Write
import SiteSearch.Proofs.Answer.Delivery
import SiteSearch.Proofs.Answer.Fragments
import SiteSearch.Proofs.Answer.Panel
import SiteSearch.Proofs.Answer.RoundTrip
import SiteSearch.Proofs.Command.Run
import SiteSearch.Proofs.EventStream.Blocks
import SiteSearch.Proofs.EventStream.Lines
import SiteSearch.Proofs.EventStream.Messages
import SiteSearch.Proofs.Html.Fragment
import SiteSearch.Proofs.Html.LineEnds
import SiteSearch.Proofs.Html.ListItem
import SiteSearch.Proofs.Html.MainPart
import SiteSearch.Proofs.Html.MainText
import SiteSearch.Proofs.Html.Paths
import SiteSearch.Proofs.Html.Reading
import SiteSearch.Proofs.Json.Grammar
import SiteSearch.Proofs.Json.Quoted
import SiteSearch.Proofs.Json.Reading
import SiteSearch.Proofs.Markdown.Sorting
import SiteSearch.Proofs.Markdown.Tokens
import SiteSearch.Proofs.Markdown.Vocabulary
import SiteSearch.Proofs.Results.Directory
import SiteSearch.Proofs.Results.Excerpt
import SiteSearch.Proofs.Results.Item
import SiteSearch.Proofs.Results.Record
import SiteSearch.Proofs.Results.Sequence
import SiteSearch.Proofs.Results.Summary
import SiteSearch.Proofs.Search.Address
import SiteSearch.Proofs.Search.Loading
import SiteSearch.Proofs.Search.Operation
import SiteSearch.Proofs.Search.Page
import SiteSearch.Proofs.Search.Ranked
import SiteSearch.Proofs.Search.Report
import SiteSearch.Proofs.Search.Title
import SiteSearch.Proofs.Search.Visit
import SiteSearch.Proofs.Settings.Base
import SiteSearch.Proofs.Settings.Changes
import SiteSearch.Proofs.Settings.Document
import SiteSearch.Proofs.Settings.Layers
import SiteSearch.Proofs.Settings.Variables
import SiteSearch.Proofs.Settings.Words
import SiteSearch.Proofs.Site.Addresses
import SiteSearch.Proofs.Site.Anchors
import SiteSearch.Proofs.Site.Folders
import SiteSearch.Proofs.Site.Lookup
import SiteSearch.Proofs.Site.Markup
import SiteSearch.Proofs.Site.Passages
import SiteSearch.Proofs.Site.Retitling
import SiteSearch.Proofs.Site.Script
import SiteSearch.Proofs.Text.Collapse
import SiteSearch.Proofs.Text.Decoding
import SiteSearch.Proofs.Text.Encoding
import SiteSearch.Proofs.Text.Escape
import SiteSearch.Proofs.Text.Lower
import SiteSearch.Proofs.Text.Reference
import SiteSearch.Proofs.Text.Trim
import SiteSearch.Proofs.Text.Words
import SiteSearch.Proofs.Url.Base
import SiteSearch.Proofs.Url.Form
import SiteSearch.Proofs.Url.Relative
import SiteSearch.Proofs.Url.Steps
import SiteSearch.Proofs.Url.Tail
import SiteSearch.Proofs.Web
import SiteSearch.Proofs.Web.Endpoint
import SiteSearch.Proofs.Web.Interleaving
import SiteSearch.Results.Excerpt
import SiteSearch.Results.Item
import SiteSearch.Results.Panel
import SiteSearch.Results.Record
import SiteSearch.Results.Sequence
import SiteSearch.Search.Binding
import SiteSearch.Search.Keyword
import SiteSearch.Search.Page
import SiteSearch.Search.Ranked
import SiteSearch.Settings
import SiteSearch.Site.Index
import SiteSearch.Site.Layout
import SiteSearch.Site.Links
import SiteSearch.Terminal
import SiteSearch.Text.Blank
import SiteSearch.Text.CharacterReference
import SiteSearch.Text.CodePoints
import SiteSearch.Text.Escape
import SiteSearch.Text.Fold
import SiteSearch.Text.Lower
import SiteSearch.Text.Normalization
import SiteSearch.Text.Punctuation
import SiteSearch.Text.Punycode
import SiteSearch.Text.Utf8
import SiteSearch.Text.WordChar
import SiteSearch.Toml.Reader
import SiteSearch.Toml.Scalar
import SiteSearch.Toml.Value
import SiteSearch.Url.Address
import SiteSearch.Url.Basic
import SiteSearch.Url.Domain
import SiteSearch.Url.DomainTable
import SiteSearch.Url.Form
import SiteSearch.Url.Parse
import SiteSearch.Url.Percent
import SiteSearch.Web
