import QueryBook.Session
import QueryBook.Log.System
import QueryBook.Proofs.Binding.Cut
import QueryBook.Proofs.Binding.BindNames
import QueryBook.Proofs.Binding.Bound
import QueryBook.Proofs.Binding.Insertion
import QueryBook.Proofs.Binding.Parts
import QueryBook.Proofs.Binding.Placeholder
import QueryBook.Proofs.Binding.Quoting
import QueryBook.Proofs.Binding.Reordering
import QueryBook.Proofs.Number.Text
import QueryBook.Proofs.Binding.Numeral
import QueryBook.Proofs.Binding.Occurrence
import QueryBook.Proofs.Binding.Strict
import QueryBook.Proofs.Binding.Failure
import QueryBook.Proofs.Binding.Guard
import QueryBook.Proofs.Binding.Clause
import QueryBook.Proofs.Query.Commute
import QueryBook.Proofs.Query.Normalization
import QueryBook.Proofs.Query.Runs
import QueryBook.Proofs.Query.Definitions
import QueryBook.Proofs.Query.LineEnds
import QueryBook.Proofs.Query.Sections
import QueryBook.Proofs.Store.History
import QueryBook.Proofs.Store.Loading
import QueryBook.Proofs.Store.Sound
import QueryBook.Proofs.Number.Reading
import QueryBook.Proofs.Number.Rounding
import QueryBook.Proofs.Sql.Column
import QueryBook.Proofs.Sql.Edited
import QueryBook.Proofs.Sql.Quoted
import QueryBook.Proofs.Sql.Literal
import QueryBook.Proofs.Sql.Conditions
import QueryBook.Proofs.Sql.Conjunction
import QueryBook.Proofs.Sql.Covered
import QueryBook.Proofs.Sql.Covered.Operators
import QueryBook.Proofs.Sql.Covered.Outline
import QueryBook.Proofs.Sql.Covered.Queries
import QueryBook.Proofs.Sql.Covered.Reads
import QueryBook.Proofs.Sql.Covered.Selects
import QueryBook.Proofs.Sql.Covered.Shape
import QueryBook.Proofs.Sql.Covered.Shaped
import QueryBook.Proofs.Sql.Covered.Tables
import QueryBook.Proofs.Sql.Covered.Whole
import QueryBook.Proofs.Sql.Edits
import QueryBook.Proofs.Sql.Layout.Laid
import QueryBook.Proofs.Sql.Layout.Lexemes
import QueryBook.Proofs.Sql.Layout.Line
import QueryBook.Proofs.Sql.Layout.Written
import QueryBook.Proofs.Sql.Numerals
import QueryBook.Proofs.Sql.Reader.Argument
import QueryBook.Proofs.Sql.Reader.Barrier
import QueryBook.Proofs.Sql.Reader.Call
import QueryBook.Proofs.Sql.Reader.Cursor
import QueryBook.Proofs.Sql.Reader.Expression
import QueryBook.Proofs.Sql.Reader.Follow
import QueryBook.Proofs.Sql.Reader.Name
import QueryBook.Proofs.Sql.Reader.Operand
import QueryBook.Proofs.Sql.Reader.Query
import QueryBook.Proofs.Sql.Reader.Source
import QueryBook.Proofs.Sql.Reader.Type
import QueryBook.Proofs.Sql.RoundTrip
import QueryBook.Proofs.Source.Resource
import QueryBook.Proofs.Source.Tree
import QueryBook.Proofs.Log.Formatting
import QueryBook.Proofs.Log.Hierarchy
import QueryBook.Proofs.Log.Setup
import QueryBook.Proofs.Log.Delivery
import QueryBook.Proofs.Log.Console
