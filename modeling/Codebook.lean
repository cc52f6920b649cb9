import Codebook.Text
import Codebook.Utf8
import Codebook.Comment
import Codebook.Unicode.CaseTable
import Codebook.Unicode.CasedTable
import Codebook.Unicode.EscapedTable
import Codebook.Text.Split
import Codebook.Unicode.WhiteSpace
import Codebook.Phrase
import Codebook.Text.Quoted
import Codebook.Catalog
import Codebook.Decimal.Binary
import Codebook.Decimal.Layout
import Codebook.Json.Fault
import Codebook.Json.StringLiteral
import Codebook.Json.Document
import Codebook.Decimal.Nearest
import Codebook.Template.Constant
import Codebook.Template.Lexer
import Codebook.Template.Parser
import Codebook.Decimal.Remainder
import Codebook.Template.Comparing
import Codebook.Template.Call
import Codebook.Template.Filter
import Codebook.Template.Render
import Codebook.FileSystem.Fault
import Codebook.FileSystem.Path
import Codebook.FileSystem.Access
import Codebook.Log
import Codebook.Network.Response
import Codebook.Error
import Codebook.Generation
import Codebook.World
import Codebook.CommandLine.Options
import Codebook.CommandLine.Request
import Codebook.CommandLine.Run
import Codebook.Main
import Codebook.Proofs.Utf8.Ascii
import Codebook.Proofs.Comment.Shape
import Codebook.Proofs.Comment.Cut
import Codebook.Proofs.Comment.Transparency
import Codebook.Proofs.Code.Numeral
import Codebook.Proofs.Json.Grammar
import Codebook.Proofs.Json.StringGrammar
import Codebook.Proofs.Catalog.Contents
import Codebook.Proofs.Json.DocumentGrammar
import Codebook.Proofs.Json.Writing
import Codebook.Proofs.Generation.Visibility
import Codebook.Proofs.Generation.Stages
import Codebook.Proofs.Template.Constants
import Codebook.Proofs.FileSystem.PlainPath
import Codebook.Proofs.Generation.Delivery
import Codebook.Proofs.Generation.Meaning
import Codebook.Proofs.CommandLine.Spelling
import Codebook.Proofs.CommandLine.Refinement
import Codebook.Proofs.Network.Address
import Codebook.Proofs.Generation.Wording
import Codebook.Proofs.Generation.Mode
import Codebook.Proofs.Json.Plain
import Codebook.Proofs.Template.Regeneration
import Codebook.Proofs.CommandLine.Status
import Codebook.Proofs.World.Telling
import Codebook.Proofs.Generation.Progress
import Codebook.Proofs.CommandLine.Quiet
import Codebook.Proofs.CommandLine.Logging
import Codebook.Proofs.Comment.InText
import Codebook.Proofs.Comment.Closed
import Codebook.Proofs.Comment.Seam
import Codebook.Proofs.Json.Commented
import Codebook.Proofs.Catalog.Filling
import Codebook.Proofs.Source.Outcome
import Codebook.Proofs.Source.Codes
import Codebook.Proofs.Phrase.Splitting
import Codebook.Proofs.Phrase.WordStart
import Codebook.Proofs.Phrase.Identifier
import Codebook.Proofs.Phrase.Modes
import Codebook.Proofs.Generation.UnknownName
import Codebook.Proofs.Json.Blame
import Codebook.Proofs.Json.FirstFault
import Codebook.Proofs.Comment.Uncommented
import Codebook.Proofs.Generation.LiteralText
import Codebook.Proofs.Code.Refusal
import Codebook.Proofs.Json.OpenKey
