import PageLoom.AssetUrl
import PageLoom.Bundler.DevProcess
import PageLoom.Bundler.Npm
import PageLoom.Command.Line
import PageLoom.Command.Run
import PageLoom.Command.Stage
import PageLoom.Command.State
import PageLoom.Command.Switch
import PageLoom.Decimal.Binary
import PageLoom.Decimal.Notation
import PageLoom.Decimal.Quantity
import PageLoom.Decimal.Reading
import PageLoom.Decimal.Shortest
import PageLoom.DevServer.ContentType
import PageLoom.DevServer.ErrorPage
import PageLoom.DevServer.Exchange
import PageLoom.DevServer.Host
import PageLoom.DevServer.InFlight
import PageLoom.DevServer.Lifecycle
import PageLoom.DevServer.Request
import PageLoom.DevServer.RequestTarget
import PageLoom.DevServer.Response
import PageLoom.DevServer.Route
import PageLoom.Directive
import PageLoom.FileTree
import PageLoom.Highlight.Listing
import PageLoom.Highlight.Markup
import PageLoom.Highlight.Region
import PageLoom.Highlight.Script
import PageLoom.Highlight.Tint
import PageLoom.Injection
import PageLoom.Json.Access
import PageLoom.Json.Basic
import PageLoom.Json.Reader
import PageLoom.LiveReload.Broadcaster
import PageLoom.LiveReload.Lock
import PageLoom.LiveReload.Stream
import PageLoom.Log
import PageLoom.Log.Connection
import PageLoom.Main
import PageLoom.Manifest
import PageLoom.Marker
import PageLoom.Page.Compile
import PageLoom.Page.Engine
import PageLoom.Page.File
import PageLoom.PageError
import PageLoom.PageValue
import PageLoom.Placeholder
import PageLoom.ProjectConfig
import PageLoom.Script.BuiltIn
import PageLoom.Script.Conversion
import PageLoom.Script.Evaluation
import PageLoom.Script.Member
import PageLoom.Script.Reader
import PageLoom.Script.Scope
import PageLoom.Script.Serial
import PageLoom.Script.Session
import PageLoom.Script.Token
import PageLoom.Script.Tree
import PageLoom.Script.World
import PageLoom.Settings
import PageLoom.Settings.VariableFile
import PageLoom.Site.Build
import PageLoom.SitePath
import PageLoom.Template
import PageLoom.Text.Basic
import PageLoom.Text.Case
import PageLoom.Text.Digit
import PageLoom.Text.Printable
import PageLoom.Text.Units
import PageLoom.Text.Utf8
import PageLoom.Text.Word
import PageLoom.Validation
import PageLoom.Watch.Debouncer
import PageLoom.Watch.Event
import PageLoom.Watch.Watcher
import PageLoom.Yaml.Node
import PageLoom.Yaml.Token
import PageLoom.Yaml.Value
import PageLoom.Proofs.AssetUrl
import PageLoom.Proofs.Bundler.Custody
import PageLoom.Proofs.Command.Verbosity
import PageLoom.Proofs.Decimal.Agreement
import PageLoom.Proofs.Decimal.Layout
import PageLoom.Proofs.Decimal.Nearest
import PageLoom.Proofs.Decimal.Shortest
import PageLoom.Proofs.DevServer.Disclosure
import PageLoom.Proofs.DevServer.Draining
import PageLoom.Proofs.DevServer.Head
import PageLoom.Proofs.DevServer.PercentEncoding
import PageLoom.Proofs.DevServer.Routing
import PageLoom.Proofs.DevServer.Shutdown
import PageLoom.Proofs.Directive.Grammar
import PageLoom.Proofs.Directive.Marker
import PageLoom.Proofs.FileTree
import PageLoom.Proofs.FileTree.Listing
import PageLoom.Proofs.FileTree.Making
import PageLoom.Proofs.FileTree.Order
import PageLoom.Proofs.FileTree.Replay
import PageLoom.Proofs.Highlight.Delimiters
import PageLoom.Proofs.Highlight.Rules
import PageLoom.Proofs.Highlight.Tiles
import PageLoom.Proofs.Highlight.Tiling
import PageLoom.Proofs.Injection
import PageLoom.Proofs.Injection.Place
import PageLoom.Proofs.Json.Members
import PageLoom.Proofs.Keyed
import PageLoom.Proofs.LiveReload.Bystander
import PageLoom.Proofs.LiveReload.Conservation
import PageLoom.Proofs.LiveReload.Exclusion
import PageLoom.Proofs.LiveReload.Interleaving
import PageLoom.Proofs.LiveReload.Signal
import PageLoom.Proofs.LiveReload.Streaming
import PageLoom.Proofs.Manifest.Degrading
import PageLoom.Proofs.Manifest.Flattening
import PageLoom.Proofs.Marker.Balance
import PageLoom.Proofs.Marker.Grammar
import PageLoom.Proofs.Marker.Locality
import PageLoom.Proofs.Page.Content
import PageLoom.Proofs.Page.Escape
import PageLoom.Proofs.Page.Failure
import PageLoom.Proofs.Page.Handover
import PageLoom.Proofs.Page.ImportOrder
import PageLoom.Proofs.Page.Mode
import PageLoom.Proofs.Page.Substitution
import PageLoom.Proofs.PageError
import PageLoom.Proofs.ProjectConfig.Loading
import PageLoom.Proofs.Result
import PageLoom.Proofs.Site.Abort
import PageLoom.Proofs.Site.Course
import PageLoom.Proofs.Site.Frame
import PageLoom.Proofs.Site.Output
import PageLoom.Proofs.Site.Pages
import PageLoom.Proofs.Site.Repetition
import PageLoom.Proofs.Site.Report
import PageLoom.Proofs.Site.Source
import PageLoom.Proofs.Site.Verbosity
import PageLoom.Proofs.Site.Visit
import PageLoom.Proofs.SitePath
import PageLoom.Proofs.SitePath.Relative
import PageLoom.Proofs.Stateful
import PageLoom.Proofs.Template.Closed
import PageLoom.Proofs.Template.Decomposition
import PageLoom.Proofs.Template.Fault
import PageLoom.Proofs.Template.Markers
import PageLoom.Proofs.Template.Printing
import PageLoom.Proofs.Template.Unclosed
import PageLoom.Proofs.Text.Decoding
import PageLoom.Proofs.Text.Pieces
import PageLoom.Proofs.Text.Search
import PageLoom.Proofs.Text.Trim
import PageLoom.Proofs.Text.Utf8
import PageLoom.Proofs.Watch.Burst
import PageLoom.Proofs.Watch.Observing
import PageLoom.Proofs.Watch.Timer
