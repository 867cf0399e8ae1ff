import EtcdKit.Arguments.Grammar
import EtcdKit.Arguments.Reader
import EtcdKit.Bounds
import EtcdKit.Calendar
import EtcdKit.Certificates
import EtcdKit.Certificates.Request
import EtcdKit.Certificates.Script
import EtcdKit.Cluster
import EtcdKit.CommandLine.Diagnostics
import EtcdKit.CommandLine.Play
import EtcdKit.CommandLine.Program
import EtcdKit.CommandLine.Render
import EtcdKit.Daemon.Flags
import EtcdKit.Daemon.Health
import EtcdKit.Directory
import EtcdKit.Document
import EtcdKit.Error
import EtcdKit.FileTree
import EtcdKit.Guide
import EtcdKit.Http.Message
import EtcdKit.Http.Server
import EtcdKit.Install.Daemon
import EtcdKit.Install.Tools
import EtcdKit.Json.Fields
import EtcdKit.Json.Printer
import EtcdKit.Json.Reader
import EtcdKit.Json.Value
import EtcdKit.Main
import EtcdKit.Node
import EtcdKit.Playground.Action
import EtcdKit.Playground.Client
import EtcdKit.Playground.Command
import EtcdKit.Playground.LogBook
import EtcdKit.Playground.Poll
import EtcdKit.Playground.Questions
import EtcdKit.Playground.Request
import EtcdKit.Playground.Session
import EtcdKit.Playground.Shell
import EtcdKit.Playground.Stage
import EtcdKit.Playground.Status
import EtcdKit.Playground.Terminal
import EtcdKit.Playground.Wire
import EtcdKit.Profile.Basic
import EtcdKit.Profile.Decoding
import EtcdKit.Profile.Encoding
import EtcdKit.Profile.Loading
import EtcdKit.Script.Basic
import EtcdKit.Script.Block
import EtcdKit.Service.Control
import EtcdKit.Service.Kind
import EtcdKit.Service.Operated
import EtcdKit.Service.Unit
import EtcdKit.Shape
import EtcdKit.Target
import EtcdKit.Text.Blank
import EtcdKit.Text.CodeTable
import EtcdKit.Text.CombiningClass
import EtcdKit.Text.Composition
import EtcdKit.Text.Decimal
import EtcdKit.Text.Digits
import EtcdKit.Text.Direction
import EtcdKit.Text.Field
import EtcdKit.Text.Joining
import EtcdKit.Text.Lines
import EtcdKit.Text.Mark
import EtcdKit.Toml.Moment
import EtcdKit.Toml.Number
import EtcdKit.Toml.Quoted
import EtcdKit.Toml.Reader
import EtcdKit.Toml.Table
import EtcdKit.Toml.Writer
import EtcdKit.Tools
import EtcdKit.Url.Basic
import EtcdKit.Url.Domain
import EtcdKit.Url.Host
import EtcdKit.Url.NameMapping
import EtcdKit.Url.Parser
import EtcdKit.Url.Percent
import EtcdKit.Url.Punycode
import EtcdKit.Yaml.Cursor
import EtcdKit.Yaml.Node
import EtcdKit.Yaml.Scalar
import EtcdKit.Yaml.Token
import EtcdKit.Proofs.Cluster.Validity
import EtcdKit.Proofs.Cluster.MemberList
import EtcdKit.Proofs.Script.Templates
import EtcdKit.Proofs.Target.Failure
import EtcdKit.Proofs.Guide.Targets
import EtcdKit.Proofs.Playground.Addressing
import EtcdKit.Proofs.Playground.Answers
import EtcdKit.Proofs.Playground.Run
import EtcdKit.Proofs.Playground.Growth
import EtcdKit.Proofs.Playground.Latest
import EtcdKit.Proofs.Playground.Polling
import EtcdKit.Proofs.Playground.Placeholders
import EtcdKit.Proofs.Playground.Posting
import EtcdKit.Proofs.Text.Splitting
import EtcdKit.Proofs.Text.Visible
import EtcdKit.Proofs.Daemon.WrittenFlags
import EtcdKit.Proofs.Certificates.RootFile
import EtcdKit.Proofs.Toml.Strings
import EtcdKit.Proofs.Toml.Values
import EtcdKit.Proofs.Toml.Lines
import EtcdKit.Proofs.Toml.Tables
import EtcdKit.Proofs.Toml.Sections
import EtcdKit.Proofs.Profile.Fields
import EtcdKit.Proofs.Profile.Records
import EtcdKit.Proofs.Profile.TomlRoundTrip
import EtcdKit.Proofs.Playground.Printing
import EtcdKit.Proofs.Playground.Prompting
import EtcdKit.Proofs.Playground.Reasons
import EtcdKit.Proofs.Playground.Rounds
import EtcdKit.Proofs.Json.ReadBack
import EtcdKit.Proofs.Playground.Wire
import EtcdKit.Proofs.Profile.Decoding
import EtcdKit.Proofs.Profile.Reordering
import EtcdKit.Proofs.Profile.Loading
import EtcdKit.Proofs.CommandLine.ExitCodes
import EtcdKit.Proofs.Cluster.MappedNodes
import EtcdKit.Proofs.Target.Comparison
import EtcdKit.Proofs.Target.Unencrypted
import EtcdKit.Proofs.Target.ExchangedNodes
import EtcdKit.Proofs.Target.SpareNodes
import EtcdKit.Proofs.Script.Reading
import EtcdKit.Proofs.Script.Fragments
import EtcdKit.Proofs.Script.Blocks
import EtcdKit.Proofs.Profile.Plain
import EtcdKit.Proofs.Service.UnitFiles
import EtcdKit.Proofs.Certificates.RequestFiles
import EtcdKit.Proofs.Script.QuietTexts
import EtcdKit.Proofs.Target.HereDocuments
import EtcdKit.Proofs.Target.StaleNotes
import EtcdKit.Proofs.Cluster.Endpoints
import EtcdKit.Proofs.Json.Tokens
import EtcdKit.Proofs.Json.Layout
import EtcdKit.Proofs.Certificates.RequestJson
import EtcdKit.Proofs.Arguments.Reading
import EtcdKit.Proofs.CommandLine.Targets
import EtcdKit.Proofs.CommandLine.Rendering
import EtcdKit.Proofs.CommandLine.PlayLines
import EtcdKit.Proofs.CommandLine.WrittenLog
import EtcdKit.Proofs.Profile.Validity
import EtcdKit.Proofs.Service.UnitCommands
import EtcdKit.Proofs.FileTree.Reading
import EtcdKit.Proofs.Profile.Files
import EtcdKit.Proofs.Daemon.FlagOrder
import EtcdKit.Proofs.Playground.Leaders
import EtcdKit.Proofs.Directory.Stripping
import EtcdKit.Proofs.Service.Mounts
import EtcdKit.Proofs.Certificates.MemberFiles
import EtcdKit.Proofs.Directory.Executables
import EtcdKit.Proofs.Certificates.ExtraHosts
import EtcdKit.Proofs.Service.OperatedLimits
import EtcdKit.Proofs.Url.Segments
import EtcdKit.Proofs.Playground.Places
