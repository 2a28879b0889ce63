import PhpLint.Main
import PhpLint.Files.Memory
import PhpLint.Schema
import PhpLint.Proofs.Glob
import PhpLint.Proofs.Usable
import PhpLint.Proofs.Location
import PhpLint.Proofs.Memory
import PhpLint.Proofs.Check
import PhpLint.Proofs.Search
import PhpLint.Proofs.Run
import PhpLint.Proofs.Reports
import PhpLint.Proofs.Json
import PhpLint.Proofs.Sarif
import PhpLint.Proofs.Findings
import PhpLint.Proofs.Quoted
import PhpLint.Proofs.YamlReader
import PhpLint.Proofs.YamlReport
import PhpLint.Proofs.TextReport
import PhpLint.Proofs.ReportContents
import PhpLint.Proofs.Cancellation
import PhpLint.Proofs.Settings
import PhpLint.Proofs.Breakdown
import PhpLint.Proofs.WellFormed
import PhpLint.Proofs.GivenPaths
import PhpLint.Proofs.Agreement
import PhpLint.Proofs.Changes
import PhpLint.Proofs.Template
import PhpLint.Proofs.Blank
import PhpLint.Proofs.Signatures
import PhpLint.Proofs.Returns
import PhpLint.Proofs.Padding
import PhpLint.Proofs.Creation
import PhpLint.Proofs.Locality
import PhpLint.Proofs.Repair
import PhpLint.Proofs.GlobGrammar
import PhpLint.Proofs.IgnoreSet
import PhpLint.Proofs.GlobSlashes
import PhpLint.Proofs.Rereading
import PhpLint.Proofs.RegexMatching
import PhpLint.Proofs.RegexLiteral
import PhpLint.Proofs.PlainPatterns
import PhpLint.Proofs.SearchFailure
import PhpLint.Proofs.Unescaped
import PhpLint.Proofs.Colours
import PhpLint.Proofs.Separators
import PhpLint.Proofs.FunctionHeaders
import PhpLint.Proofs.HeaderPattern
