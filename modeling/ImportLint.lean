import ImportLint.Cli.Options
import ImportLint.Cli.Run
import ImportLint.Cli.Usage
import ImportLint.Config.Load
import ImportLint.Config.Schema
import ImportLint.Config.Yaml
import ImportLint.Files.Discovery
import ImportLint.Files.Path
import ImportLint.Files.Tree
import ImportLint.Go.Import
import ImportLint.Go.Lexeme
import ImportLint.Go.Token
import ImportLint.Lint.Diagnostic
import ImportLint.Lint.Pool
import ImportLint.Lint.Scan
import ImportLint.Log.Entry
import ImportLint.Log.Settings
import ImportLint.Main
import ImportLint.Manifest.Line
import ImportLint.Manifest.Load
import ImportLint.Manifest.Requirement
import ImportLint.Number.Binary64
import ImportLint.Number.Literal
import ImportLint.Number.Shortest
import ImportLint.Policy.Allow
import ImportLint.Policy.Replacement
import ImportLint.Proofs.Cli.Lines
import ImportLint.Proofs.Cli.Verdict
import ImportLint.Proofs.Config.Breakdown
import ImportLint.Proofs.Go.Comments
import ImportLint.Proofs.Go.Declarations
import ImportLint.Proofs.Go.Decomposition
import ImportLint.Proofs.Go.Grammar
import ImportLint.Proofs.Go.Header
import ImportLint.Proofs.Go.Lexeme
import ImportLint.Proofs.Go.LineBreaks
import ImportLint.Proofs.Go.LineEnds
import ImportLint.Proofs.Go.Places
import ImportLint.Proofs.Go.RawPlaces
import ImportLint.Proofs.Go.Rendering
import ImportLint.Proofs.Go.Rows
import ImportLint.Proofs.Go.Stream
import ImportLint.Proofs.Lint.Blocks
import ImportLint.Proofs.Lint.Coverage
import ImportLint.Proofs.Lint.Interleaving
import ImportLint.Proofs.Lint.Monotone
import ImportLint.Proofs.Lint.Pool
import ImportLint.Proofs.Manifest.Grammar
import ImportLint.Proofs.Manifest.LineBreaks
import ImportLint.Proofs.Policy.Allow
import ImportLint.Proofs.Text.ByteOffset
import ImportLint.Proofs.Text.JsonString
import ImportLint.Proofs.Text.Lower
import ImportLint.Proofs.Text.Utf8
import ImportLint.Text.Base64
import ImportLint.Text.Blank
import ImportLint.Text.Casing
import ImportLint.Text.CodePoint
import ImportLint.Text.Digit
import ImportLint.Text.Intake
import ImportLint.Text.JsonString
import ImportLint.Text.Letter
import ImportLint.Text.Lower
import ImportLint.Text.Position
import ImportLint.Text.Printable
import ImportLint.Text.Quoted
import ImportLint.Text.Ranges
import ImportLint.Text.Split
import ImportLint.Text.Stream
import ImportLint.Text.Upper
import ImportLint.Text.Utf8
import ImportLint.Value.Basic
import ImportLint.Value.Calendar
import ImportLint.Value.Layer
import ImportLint.Value.Placement
import ImportLint.Yaml.Block
import ImportLint.Yaml.Build
import ImportLint.Yaml.Document
import ImportLint.Yaml.Node
import ImportLint.Yaml.Plain
import ImportLint.Yaml.Quoted
import ImportLint.Yaml.Scalar
import ImportLint.Yaml.Stream
import ImportLint.Yaml.Tag
import ImportLint.Yaml.Token
import ImportLint.Proofs.Policy.Casing
import ImportLint.Proofs.Lint.Overlap
import ImportLint.Proofs.Manifest.Composition
import ImportLint.Proofs.Policy.Shadowing
import ImportLint.Proofs.Manifest.Rendering
import ImportLint.Proofs.Files.Path
import ImportLint.Proofs.Files.Lookup
import ImportLint.Proofs.Files.Search
import ImportLint.Proofs.Files.Expansion
import ImportLint.Proofs.Config.Acceptance
import ImportLint.Proofs.Config.Selection
import ImportLint.Proofs.Manifest.Splitting
import ImportLint.Proofs.Manifest.HiddenBlanks
import ImportLint.Proofs.Go.Composition
import ImportLint.Proofs.Text.LineTable
import ImportLint.Proofs.Go.ErrorPlaces
