import TextShell.CharName.Aliases
import TextShell.CharName.Alphabets
import TextShell.CharName.Asian
import TextShell.CharName.Hangul
import TextShell.CharName.Historic
import TextShell.CharName.Lookup
import TextShell.CharName.Musical
import TextShell.CharName.Pictographs
import TextShell.CharName.Signs
import TextShell.CharName.Syllabaries
import TextShell.CharName.Symbols
import TextShell.Command
import TextShell.CommandLine.Arguments
import TextShell.CommandLine.Report
import TextShell.CommandLine.Similarity
import TextShell.Completion
import TextShell.Count
import TextShell.Execution
import TextShell.Failure
import TextShell.Grep.Filter
import TextShell.Grep.Options
import TextShell.Interactive
import TextShell.Line.Reference
import TextShell.Line.Scan
import TextShell.Main
import TextShell.Name
import TextShell.Pattern.Alternatives
import TextShell.Pattern.Basic
import TextShell.Pattern.CharMatch
import TextShell.Pattern.ClassSet
import TextShell.Pattern.Error
import TextShell.Pattern.Escape
import TextShell.Pattern.FlagGroup
import TextShell.Pattern.GroupOpening
import TextShell.Pattern.Groups
import TextShell.Pattern.Lead
import TextShell.Pattern.Match
import TextShell.Pattern.Quantifier
import TextShell.Pattern.Reader
import TextShell.Pattern.Reading
import TextShell.Pattern.Repetition
import TextShell.Pattern.Token
import TextShell.Pattern.Trail
import TextShell.Proofs.Line.Grammar
import TextShell.Proofs.Line.Scanning
import TextShell.Run
import TextShell.Script
import TextShell.Session
import TextShell.Settings
import TextShell.Statement
import TextShell.Text.Basic
import TextShell.Text.Blank
import TextShell.Text.Case
import TextShell.Text.CaseTable
import TextShell.Text.CodeTable
import TextShell.Text.ControlSequence
import TextShell.Text.Digit
import TextShell.Text.Identifier
import TextShell.Text.Integer
import TextShell.Text.Letter
import TextShell.Text.Lines
import TextShell.Text.Printable
import TextShell.Text.Quoted
import TextShell.Text.Utf8
import TextShell.Text.WordChar
import TextShell.Variables
import TextShell.World
import TextShell.Proofs.Line.Factorization
import TextShell.Proofs.Line.Joining
import TextShell.Proofs.Line.Reading
import TextShell.Proofs.Classification
import TextShell.Proofs.Line.Encoding
import TextShell.Proofs.Line.SafeValues
import TextShell.Proofs.Text.Utf8.Blocks
import TextShell.Proofs.Text.ScriptLines
import TextShell.Proofs.Effects
import TextShell.Proofs.Files
import TextShell.Proofs.Files.Total
import TextShell.Proofs.Pipeline
import TextShell.Proofs.Pipeline.Algebra
import TextShell.Proofs.Session.Line
import TextShell.Proofs.Session.Meaning
import TextShell.Proofs.Session.Independence
import TextShell.Proofs.Session.Output
import TextShell.Proofs.Session.History
import TextShell.Proofs.Dialogue
import TextShell.Proofs.Script
import TextShell.Proofs.CommandFailures
import TextShell.Proofs.EntryPoints
import TextShell.Proofs.Grep.Chained
import TextShell.Proofs.Session.Recall
import TextShell.Proofs.Session.Trimming
import TextShell.Proofs.Grep.Arguments
import TextShell.Proofs.Completion
import TextShell.Proofs.Grep.Narrowing
import TextShell.Proofs.Grep.Words
import TextShell.Proofs.Text.Quoted
import TextShell.Proofs.WrittenForms
import TextShell.Proofs.Text.Utf8.Lossy
import TextShell.Proofs.Programs
import TextShell.Proofs.Pipeline.Copying
import TextShell.Proofs.Files.Unread
import TextShell.Proofs.Script.LineEnds
import TextShell.Proofs.Session.BareLines
