import ContractFixtures.Address.Basic
import ContractFixtures.Address.Text
import ContractFixtures.Base58
import ContractFixtures.Context
import ContractFixtures.EnvFile
import ContractFixtures.FileTree.Basic
import ContractFixtures.FileTree.Edit
import ContractFixtures.FileTree.Walk
import ContractFixtures.Hex
import ContractFixtures.Json.Basic
import ContractFixtures.Json.Binary64
import ContractFixtures.Json.Fault
import ContractFixtures.Json.Number
import ContractFixtures.Json.Parser
import ContractFixtures.Json.Printer
import ContractFixtures.Json.Reader
import ContractFixtures.Json.Scalar
import ContractFixtures.NameMap
import ContractFixtures.Param.Basic
import ContractFixtures.Param.Integer
import ContractFixtures.Param.Notation
import ContractFixtures.Path
import ContractFixtures.Pattern.Automaton
import ContractFixtures.Pattern.CharSet
import ContractFixtures.Pattern.Compile
import ContractFixtures.Pattern.Footprint
import ContractFixtures.Pattern.Parser
import ContractFixtures.Pattern.Regex
import ContractFixtures.Radix
import ContractFixtures.Record.Basic
import ContractFixtures.Record.Decoding
import ContractFixtures.Record.Encoding
import ContractFixtures.Samples
import ContractFixtures.Settings
import ContractFixtures.Sha256
import ContractFixtures.SkipList.Basic
import ContractFixtures.SkipList.Rules
import ContractFixtures.Steps
import ContractFixtures.Suite.Basic
import ContractFixtures.Suite.Event
import ContractFixtures.Suite.File
import ContractFixtures.Text.Age
import ContractFixtures.Text.Blank
import ContractFixtures.Text.Boundary
import ContractFixtures.Text.ByteRanges
import ContractFixtures.Text.CaseOrbit
import ContractFixtures.Text.Category
import ContractFixtures.Text.Property
import ContractFixtures.Text.Quoted
import ContractFixtures.Text.Recent
import ContractFixtures.Text.Runs
import ContractFixtures.Text.Script
import ContractFixtures.Text.Split
import ContractFixtures.Text.Utf8
import ContractFixtures.Yaml.Cursor
import ContractFixtures.Yaml.Node
import ContractFixtures.Yaml.Scalar
import ContractFixtures.Yaml.Token
import ContractFixtures.Proofs.Base58.Bijection
import ContractFixtures.Proofs.Address.CheckedText
import ContractFixtures.Proofs.Json.Layout
import ContractFixtures.Proofs.Json.Written
import ContractFixtures.Proofs.Record.RoundTrip
import ContractFixtures.Proofs.Path.Parts
import ContractFixtures.Proofs.FileTree.Found
import ContractFixtures.Proofs.FileTree.Walking
import ContractFixtures.Proofs.Suite.Loading
import ContractFixtures.Proofs.FileTree.Reading
import ContractFixtures.Proofs.Text.Pieces
import ContractFixtures.Proofs.Hex.RoundTrip
import ContractFixtures.Proofs.Param.Integer
import ContractFixtures.Proofs.Param.RoundTrip
import ContractFixtures.Proofs.Json.Scalars
import ContractFixtures.Proofs.Record.Fields
import ContractFixtures.Proofs.Json.Nesting
import ContractFixtures.Proofs.Json.Lists
import ContractFixtures.Proofs.Record.Documents
import ContractFixtures.Proofs.Hex.Reading
import ContractFixtures.Proofs.Param.Grammar
import ContractFixtures.Proofs.FileTree.Outline
import ContractFixtures.Proofs.Suite.Outcomes
import ContractFixtures.Proofs.Suite.Dependence
import ContractFixtures.Proofs.FileTree.Writing
import ContractFixtures.Proofs.FileTree.Changing
import ContractFixtures.Proofs.Suite.Saving
import ContractFixtures.Proofs.Radix.Order
import ContractFixtures.Proofs.Address.Order
import ContractFixtures.Proofs.Json.Sameness
import ContractFixtures.Proofs.Record.Dependence
import ContractFixtures.Proofs.NameMap.Values
import ContractFixtures.Proofs.Path.Stem
import ContractFixtures.Proofs.SkipList.Compiled
import ContractFixtures.Proofs.SkipList.Union
import ContractFixtures.Proofs.SkipList.Directory
import ContractFixtures.Proofs.Suite.Narrowing
import ContractFixtures.Proofs.Base58.Numerals
import ContractFixtures.Proofs.Address.Shape
import ContractFixtures.Proofs.Record.Defects
import ContractFixtures.Proofs.Json.Quoting
import ContractFixtures.Proofs.Json.Indentation
import ContractFixtures.Proofs.Record.Texts
import ContractFixtures.Proofs.Hex.Refusals
import ContractFixtures.Proofs.Address.PlainText
import ContractFixtures.Proofs.Param.Concatenation
import ContractFixtures.Proofs.Param.Spacing
import ContractFixtures.Proofs.Param.NormalForm
import ContractFixtures.Proofs.Param.Expected
import ContractFixtures.Proofs.Context.Resolution
import ContractFixtures.Proofs.Param.References
import ContractFixtures.Proofs.Param.Names
import ContractFixtures.Proofs.FileTree.Below
import ContractFixtures.Proofs.Suite.Walk
import ContractFixtures.Proofs.Suite.Log
import ContractFixtures.Proofs.Path.Spelling
import ContractFixtures.Proofs.SkipList.Decision
import ContractFixtures.Proofs.SkipList.Lockstep
import ContractFixtures.Proofs.Text.ByteOrder
import ContractFixtures.Proofs.EnvFile.Precedence
import ContractFixtures.Proofs.Radix.Words
import ContractFixtures.Proofs.Radix.Soundness
import ContractFixtures.Proofs.Base58.Loops
