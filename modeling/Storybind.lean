import Storybind.Asset.Basic
import Storybind.Asset.Collect
import Storybind.Asset.Manifest
import Storybind.Command.Invocation
import Storybind.Command.Options
import Storybind.Command.Session
import Storybind.Compile.Compiler
import Storybind.Compile.Failure
import Storybind.Compile.Output
import Storybind.Compile.Request
import Storybind.Compile.Story
import Storybind.Component.Exports
import Storybind.Component.Mount
import Storybind.Component.Record
import Storybind.Deflate.Bits
import Storybind.Deflate.Block
import Storybind.Deflate.Code
import Storybind.Deflate.Container
import Storybind.Dependency.Bundle
import Storybind.Dependency.Cache
import Storybind.Dependency.Declaration
import Storybind.Dependency.Download
import Storybind.Dependency.Fetch
import Storybind.Dependency.Shorthand
import Storybind.Dependency.Tag
import Storybind.Digest
import Storybind.Form
import Storybind.Json.Reader
import Storybind.Json.Writer
import Storybind.Lookup
import Storybind.Main
import Storybind.Minify.Script
import Storybind.Minify.Style
import Storybind.Number.Binary
import Storybind.Number.Fixed
import Storybind.Number.Reading
import Storybind.Number.Shortest
import Storybind.Page.Document
import Storybind.Page.Guard
import Storybind.Page.Scripts
import Storybind.Page.Stylesheet
import Storybind.Page.Template
import Storybind.Page.Theme
import Storybind.Path
import Storybind.Player
import Storybind.Player.Stock.Assets
import Storybind.Player.Stock.Components
import Storybind.Player.Stock.Document
import Storybind.Player.Stock.Games
import Storybind.Player.Stock.Scenes
import Storybind.Player.Stock.Utilities
import Storybind.Project.Config
import Storybind.Project.Metadata
import Storybind.Project.Scaffold
import Storybind.Project.Starter
import Storybind.Project.Texts
import Storybind.Proofs.Agreement
import Storybind.Proofs.Asset.Collection
import Storybind.Proofs.Asset.Elements
import Storybind.Proofs.Asset.Files
import Storybind.Proofs.Compile.Assets
import Storybind.Proofs.Compile.Breakdown
import Storybind.Proofs.Compile.Files
import Storybind.Proofs.Compile.Footprint
import Storybind.Proofs.Compile.Saving
import Storybind.Proofs.Compile.Supplies
import Storybind.Proofs.Compile.TwoVolumes
import Storybind.Proofs.Component.Beside
import Storybind.Proofs.Component.ExportGrammar
import Storybind.Proofs.Component.Exports
import Storybind.Proofs.Component.Extraction
import Storybind.Proofs.Component.Filled
import Storybind.Proofs.Component.Inlining
import Storybind.Proofs.Component.Loading
import Storybind.Proofs.Dependency.AnyOrder
import Storybind.Proofs.Dependency.Assembly
import Storybind.Proofs.Dependency.Attempts
import Storybind.Proofs.Dependency.Broken
import Storybind.Proofs.Dependency.Cache
import Storybind.Proofs.Dependency.Confluence
import Storybind.Proofs.Dependency.Contributions
import Storybind.Proofs.Dependency.Fields
import Storybind.Proofs.Dependency.Integrity
import Storybind.Proofs.Dependency.Interleaving
import Storybind.Proofs.Dependency.Isolation
import Storybind.Proofs.Dependency.Merge
import Storybind.Proofs.Dependency.Order
import Storybind.Proofs.Dependency.Package
import Storybind.Proofs.Dependency.Reread
import Storybind.Proofs.Dependency.Resolution
import Storybind.Proofs.Dependency.Retries
import Storybind.Proofs.Dependency.Steady
import Storybind.Proofs.Dependency.Stock
import Storybind.Proofs.Dependency.Tag
import Storybind.Proofs.Dependency.Transparency
import Storybind.Proofs.Dependency.Turns
import Storybind.Proofs.Dependency.Valid
import Storybind.Proofs.Distinct
import Storybind.Proofs.Entries
import Storybind.Proofs.Except
import Storybind.Proofs.Json.Double
import Storybind.Proofs.Json.Guarded
import Storybind.Proofs.Json.Literal
import Storybind.Proofs.Json.Numeral
import Storybind.Proofs.Json.Reading
import Storybind.Proofs.Json.Spelling
import Storybind.Proofs.Json.Unwritable
import Storybind.Proofs.Json.Writing
import Storybind.Proofs.Lookup
import Storybind.Proofs.Names
import Storybind.Proofs.Number.Binary
import Storybind.Proofs.Number.Double
import Storybind.Proofs.Number.Shortest
import Storybind.Proofs.Page.Closing
import Storybind.Proofs.Page.Data
import Storybind.Proofs.Page.Ending
import Storybind.Proofs.Page.ScriptReader
import Storybind.Proofs.Page.Scripts
import Storybind.Proofs.Page.Seams
import Storybind.Proofs.Page.Template
import Storybind.Proofs.Page.Theme
import Storybind.Proofs.Path
import Storybind.Proofs.Project.Config
import Storybind.Proofs.Project.Scaffold
import Storybind.Proofs.Script.Accepted
import Storybind.Proofs.Script.Grammar
import Storybind.Proofs.Script.LastLoaded
import Storybind.Proofs.Script.Malformed
import Storybind.Proofs.Script.Mounting
import Storybind.Proofs.Script.Obstacles
import Storybind.Proofs.Script.Reach
import Storybind.Proofs.Script.References
import Storybind.Proofs.Script.SceneNames
import Storybind.Proofs.Script.Settings
import Storybind.Proofs.Script.Texts
import Storybind.Proofs.Script.Tokens
import Storybind.Proofs.Service.Confinement
import Storybind.Proofs.Service.Containment
import Storybind.Proofs.Text.Base64
import Storybind.Proofs.Text.Case
import Storybind.Proofs.Text.Lines
import Storybind.Proofs.Text.MarkupReader
import Storybind.Proofs.Text.Naming
import Storybind.Proofs.Text.Order
import Storybind.Proofs.Text.Pieces
import Storybind.Proofs.Text.Trim
import Storybind.Proofs.Text.Utf8
import Storybind.Proofs.Volume
import Storybind.Proofs.Web.Network
import Storybind.Script.Check
import Storybind.Script.Directive
import Storybind.Script.Helper
import Storybind.Script.Instruction
import Storybind.Script.Issue
import Storybind.Script.Reach
import Storybind.Script.Scene
import Storybind.Service.Answer
import Storybind.Service.Order
import Storybind.Service.Route
import Storybind.Settings
import Storybind.Text.Base64
import Storybind.Text.Case
import Storybind.Text.CaseTable
import Storybind.Text.Chars
import Storybind.Text.Element
import Storybind.Text.Letters
import Storybind.Text.Markup
import Storybind.Text.Pieces
import Storybind.Text.Punycode
import Storybind.Text.Slots
import Storybind.Text.Subject
import Storybind.Text.Utf8
import Storybind.Value
import Storybind.Value.Display
import Storybind.Value.Key
import Storybind.Volume
import Storybind.Web.Address
import Storybind.Web.Host
import Storybind.Web.HostLabel
import Storybind.Web.LabelTable
import Storybind.Web.Network
import Storybind.Web.Reference
import Storybind.Web.Request
import Storybind.Web.Status
import Storybind.Web.Url
import Storybind.Yaml.Atom
import Storybind.Yaml.Cursor
import Storybind.Yaml.Dump
import Storybind.Yaml.Lexeme
import Storybind.Yaml.Load
import Storybind.Yaml.Node
import Storybind.Yaml.Refusal
import Storybind.Yaml.Style
import Storybind.Yaml.Tag
import Storybind.Yaml.Token
import Storybind.Yaml.TokenStream
