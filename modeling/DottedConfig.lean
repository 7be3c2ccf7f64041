import DottedConfig.Binary64
import DottedConfig.Binary64.Layout
import DottedConfig.Binary64.Nearest
import DottedConfig.Binary64.Numeral
import DottedConfig.Binary64.Shortest
import DottedConfig.Cache
import DottedConfig.Cli.Arguments
import DottedConfig.Cli.Format
import DottedConfig.Cli.Run
import DottedConfig.Disk
import DottedConfig.Disk.Memory
import DottedConfig.Failure
import DottedConfig.Loader
import DottedConfig.Log
import DottedConfig.Main
import DottedConfig.Path
import DottedConfig.Proofs.Cache
import DottedConfig.Proofs.Cli.OneOff
import DottedConfig.Proofs.Cli.Words
import DottedConfig.Proofs.Except
import DottedConfig.Proofs.Namespace
import DottedConfig.Proofs.Path
import DottedConfig.Proofs.SortedMap
import DottedConfig.Proofs.Template.Binding
import DottedConfig.Proofs.Template.Boundaries
import DottedConfig.Proofs.Template.Escape
import DottedConfig.Proofs.Template.Grammar
import DottedConfig.Proofs.Template.Identifiers
import DottedConfig.Proofs.Template.Names
import DottedConfig.Proofs.Template.Writing
import DottedConfig.Proofs.Text.Dotted
import DottedConfig.Proofs.Tree.AddressSpace
import DottedConfig.Proofs.Tree.Composition
import DottedConfig.Proofs.Tree.Confinement
import DottedConfig.Proofs.Tree.EntryPoints
import DottedConfig.Proofs.Tree.Failed
import DottedConfig.Proofs.Tree.History
import DottedConfig.Proofs.Tree.Isolation
import DottedConfig.Proofs.Tree.Literal
import DottedConfig.Proofs.Tree.LoadPrefix
import DottedConfig.Proofs.Tree.Loading
import DottedConfig.Proofs.Tree.Mentions
import DottedConfig.Proofs.Tree.Origin
import DottedConfig.Proofs.Tree.Owned
import DottedConfig.Proofs.Tree.Ownership
import DottedConfig.Proofs.Tree.PrefixPlaces
import DottedConfig.Proofs.Tree.Probe
import DottedConfig.Proofs.Tree.Question
import DottedConfig.Proofs.Tree.Raw
import DottedConfig.Proofs.Tree.Recording
import DottedConfig.Proofs.Tree.Row
import DottedConfig.Proofs.Tree.Shape
import DottedConfig.Proofs.Tree.Snapshot
import DottedConfig.Proofs.Tree.Transparency
import DottedConfig.Proofs.Tree.View
import DottedConfig.Proofs.Tree.WrittenKeys
import DottedConfig.Proofs.Value.Conversion
import DottedConfig.Proofs.Value.Descent
import DottedConfig.Proofs.Value.Failures
import DottedConfig.Proofs.Value.FileFault
import DottedConfig.Proofs.Value.FirstFault
import DottedConfig.Proofs.Value.Reloading
import DottedConfig.Proofs.Value.Trail
import DottedConfig.Proofs.Value.Written
import DottedConfig.SortedMap
import DottedConfig.Template
import DottedConfig.Template.Binding
import DottedConfig.Template.Name
import DottedConfig.Template.Scanner
import DottedConfig.Template.Token
import DottedConfig.Text.Blank
import DottedConfig.Text.Dotted
import DottedConfig.Text.Hidden
import DottedConfig.Text.Offset
import DottedConfig.Text.Position
import DottedConfig.Text.Quoted
import DottedConfig.Tree
import DottedConfig.Tree.Segments
import DottedConfig.Tree.Site
import DottedConfig.Value
import DottedConfig.Value.Json
import DottedConfig.Value.Key
import DottedConfig.Value.OfDocument
import DottedConfig.Value.Plain
import DottedConfig.Value.Yaml
import DottedConfig.Value.Yaml.Scalar
import DottedConfig.Yaml.Document
import DottedConfig.Yaml.Event
import DottedConfig.Yaml.Folding
import DottedConfig.Yaml.Node
import DottedConfig.Yaml.Problem
import DottedConfig.Yaml.Read
import DottedConfig.Yaml.Scalar
import DottedConfig.Yaml.Source
import DottedConfig.Yaml.Tag
import DottedConfig.Yaml.Token
import DottedConfig.Yaml.Token.Block
import DottedConfig.Yaml.Token.Lexer
import DottedConfig.Yaml.Token.Plain
import DottedConfig.Yaml.Token.Quoted
import DottedConfig.Yaml.Token.Word
