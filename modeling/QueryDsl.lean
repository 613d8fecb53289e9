import QueryDsl.Binary64.Basic
import QueryDsl.Binary64.Layout
import QueryDsl.Binary64.Shortest
import QueryDsl.Clause.Basic
import QueryDsl.Clause.Decode
import QueryDsl.Clause.Fragment
import QueryDsl.CommandLine.Arguments
import QueryDsl.CommandLine.Log
import QueryDsl.CommandLine.Program
import QueryDsl.CommandLine.Run
import QueryDsl.CommandLine.Source
import QueryDsl.Document.Compile
import QueryDsl.Document.Query
import QueryDsl.Document.SearchBody
import QueryDsl.Error
import QueryDsl.Json.Basic
import QueryDsl.Json.Numeral
import QueryDsl.Json.Printer
import QueryDsl.Json.Reader
import QueryDsl.Json.StringLiteral
import QueryDsl.Json.SyntaxError
import QueryDsl.Main
import QueryDsl.Regex.Basic
import QueryDsl.Regex.Bracket
import QueryDsl.Regex.CharSet
import QueryDsl.Regex.Compile
import QueryDsl.Regex.Cursor
import QueryDsl.Regex.Draft
import QueryDsl.Regex.Escape
import QueryDsl.Regex.Fault
import QueryDsl.Regex.Group
import QueryDsl.Regex.Meaning
import QueryDsl.Regex.Node
import QueryDsl.Regex.Pattern
import QueryDsl.Regex.Place
import QueryDsl.Regex.Repetition
import QueryDsl.Regex.Simplest
import QueryDsl.Regex.Size
import QueryDsl.Regex.Utf8
import QueryDsl.Regex.Words
import QueryDsl.Request.Basic
import QueryDsl.Request.Decode
import QueryDsl.Request.History
import QueryDsl.Text.Alphabetic
import QueryDsl.Text.Blank
import QueryDsl.Text.Printable
import QueryDsl.Text.Quoted
import QueryDsl.Text.Split
import QueryDsl.Proofs.Document.Meaning
import QueryDsl.Proofs.Checks
import QueryDsl.Proofs.Clause.Schema
import QueryDsl.Proofs.Clause.Stages
import QueryDsl.Proofs.Clause.Acceptance
import QueryDsl.Proofs.Clause.Precedence
import QueryDsl.Proofs.Request.Parts
import QueryDsl.Proofs.Request.ArrayForm
import QueryDsl.Proofs.Request.ObjectForm
import QueryDsl.Proofs.Request.NullMembers
import QueryDsl.Proofs.Document.FilterList
import QueryDsl.Proofs.Json.Frames
import QueryDsl.Proofs.Json.IntegerLiteral
import QueryDsl.Proofs.Request.IntegerIds
import QueryDsl.Proofs.Json.Locality
import QueryDsl.Proofs.Json.Framing
import QueryDsl.Proofs.Json.Lookup
import QueryDsl.Proofs.Json.Equality
import QueryDsl.Proofs.Json.Printable
import QueryDsl.Proofs.Json.Readable
import QueryDsl.Proofs.Json.PrintedText
import QueryDsl.Proofs.Json.Margins
import QueryDsl.Proofs.Document.Kernel
import QueryDsl.Proofs.Document.Rendering
import QueryDsl.Proofs.Document.Printable
import QueryDsl.Proofs.Request.Insertion
import QueryDsl.Proofs.Agreement
import QueryDsl.Proofs.Clause.Reordering
import QueryDsl.Proofs.Clause.Respelling
import QueryDsl.Proofs.Request.Reordering
import QueryDsl.Proofs.CommandLine.Answers
import QueryDsl.Proofs.CommandLine.Texts
import QueryDsl.Proofs.Clause.Canonical
import QueryDsl.Proofs.Request.Canonical
import QueryDsl.Proofs.Request.History
import QueryDsl.Proofs.Document.Distance
import QueryDsl.Proofs.CommandLine.Acceptance
import QueryDsl.Proofs.CommandLine.Logging
import QueryDsl.Proofs.Json.NumberLiteral
import QueryDsl.Proofs.Request.PartFrame
import QueryDsl.Proofs.Request.Pagination
import QueryDsl.Proofs.CommandLine.Stages
import QueryDsl.Proofs.CommandLine.StandardInput
import QueryDsl.Proofs.Document.Negation
import QueryDsl.Proofs.Clause.Passes
import QueryDsl.Proofs.Messages
import QueryDsl.Proofs.CommandLine.Grammar
