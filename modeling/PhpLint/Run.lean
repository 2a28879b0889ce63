import PhpLint.Check.Content
import PhpLint.Report.Sarif
import PhpLint.Report.Text
import PhpLint.Report.Yaml
import PhpLint.Search

namespace PhpLint

/-!
# Runs

In a run the files are found, checked one after another, and reported.

Paths that are given take the place of the search, and the configuration is then
not looked at. A text report is written file by file, the other reports at the
end. A run may be cancelled before any file is checked, and writing may fail; a
text report does not notice the latter.
-/

inductive ReportFormat where
  | text
  | sarif
  | yaml
deriving DecidableEq

namespace ReportFormat

/-- The format with a name. No name means text. -/
def ofName? (name : Bytes) : Option ReportFormat :=
  if name = [] || name = utf8 "text" then some .text
  else if name = utf8 "sarif" then some .sarif
  else if name = utf8 "yaml" then some .yaml
  else none

end ReportFormat

structure RunOptions where
  paths : List Bytes := []
  format : Bytes := []
  noColour : Bool := false
  forceColour : Bool := false
  version : Bytes := []

/-- Colours can be forced and are never used otherwise. Switching them off wins. -/
def RunOptions.coloured (options : RunOptions) : Bool :=
  options.forceColour && !options.noColour

/-- What happens around a run. -/
structure RunContext where
  /-- The number of files before the run is cancelled. -/
  cancelAfter? : Option Nat := none
  writable : Bool := true

/-- How a run may end, apart from success. -/
inductive RunError where
  | issuesFound
  | unknownFormat (format : Bytes)
  | search (root path : Bytes) (error : PatternError)
  | cancelled
  | sarifUnwritten
  | yamlUnwritten
deriving DecidableEq

namespace RunError

def message : RunError → Bytes
  | .issuesFound => utf8 "syntax issues found"
  | .unknownFormat _ => utf8 "format must be text, sarif, or yaml"
  | .search _ _ error =>
    utf8 "search target files: walk a directory: check if a file is ignored: " ++ error.message
  | .cancelled => utf8 "check files: context canceled"
  | .sarifUnwritten => utf8 "encode SARIF: stdout is closed"
  | .yamlUnwritten => utf8 "write a report: stdout is closed"

/-- What is known about an error besides its message. -/
def fields : RunError → List (Bytes × Bytes)
  | .unknownFormat format => [(utf8 "format", format)]
  | .search root path _ => [(utf8 "path", path), (utf8 "root", root)]
  | _ => []

end RunError

structure RunOutcome where
  output : Bytes := []
  error? : Option RunError := none
  entries : List LogEntry := []
deriving DecidableEq

/-- The result of checking the file at a path. -/
def checkFile (files : Files) (path : Bytes) : FileResult :=
  match files.read path with
  | .ok content => Check.content path content
  | .error error => Check.unreadable path error.message

namespace Run

def foundEntry (count : Nat) : LogEntry where
  level := .debug
  message := utf8 "search target files"
  fields := [(utf8 "num_of_files", .number count)]

def checkEntry (file : Bytes) : LogEntry where
  level := .debug
  message := utf8 "check a file"
  fields := [(utf8 "file", .text file)]

def issuesEntry (file : Bytes) (count : Nat) : LogEntry where
  level := .debug
  message := utf8 "issues are found"
  fields := [(utf8 "file", .text file), (utf8 "num_of_findings", .number count)]

/-- What checking a file logs. -/
def resultEntries (result : FileResult) : List LogEntry :=
  checkEntry result.file ::
    (if result.clean then [] else [issuesEntry result.file result.findings.length])

/-- Whether the run has been cancelled when it asks, which it does once before each file. The
number of questions before this one is given. -/
def isCancelled (context : RunContext) (asked : Nat) : Bool :=
  context.cancelAfter?.any fun limit => limit ≤ asked

/-- What is written as soon as a file has been checked. -/
def writtenAtOnce (format : ReportFormat) (options : RunOptions) (context : RunContext)
    (result : FileResult) : Bytes :=
  if format = .text && context.writable && !result.clean then
    Report.textBlock options.coloured result
  else
    []

/-- What the checks of some files have led to. -/
structure Progress where
  results : List FileResult := []
  failed : Bool := false
  output : Bytes := []
  entries : List LogEntry := []
  /-- Whether the run has been cancelled before it came to an end. -/
  cancelled : Bool := false

/-- Checks the files at the given paths one after another. The number of files before them is
given. -/
def checkEach (files : Files) (format : ReportFormat) (options : RunOptions)
    (context : RunContext) : Nat → List Bytes → Progress
  | _, [] => {}
  | asked, path :: rest =>
    if isCancelled context asked then
      { cancelled := true }
    else
      let result := checkFile files path
      let later := checkEach files format options context (asked + 1) rest
      { results := result :: later.results
        failed := !result.clean || later.failed
        output := writtenAtOnce format options context result ++ later.output
        entries := resultEntries result ++ later.entries
        cancelled := later.cancelled }

/-- What is written after the last file, and whether that worked. -/
def finish (format : ReportFormat) (options : RunOptions) (context : RunContext)
    (progress : Progress) : Bytes × Option RunError :=
  match format with
  | .text =>
    (if context.writable then Report.textSummary options.coloured progress.failed else [], none)
  | .sarif =>
    if context.writable then
      (Report.sarif options.version progress.results, none)
    else
      ([], some .sarifUnwritten)
  | .yaml =>
    if context.writable then
      (Report.yaml progress.results, none)
    else
      ([], some .yamlUnwritten)

/-- Checks and reports the files at the given paths. -/
def checkPaths (files : Files) (format : ReportFormat) (options : RunOptions)
    (context : RunContext) (paths : List Bytes) : RunOutcome :=
  let progress := checkEach files format options context 0 paths
  let entries := foundEntry paths.length :: progress.entries
  if progress.cancelled then
    { output := progress.output, error? := some .cancelled, entries := entries }
  else
    let (last, unwritten?) := finish format options context progress
    let verdict? := if progress.failed then some RunError.issuesFound else none
    { output := progress.output ++ last, error? := unwritten?.or verdict?, entries := entries }

end Run

/-- Runs the checks. There is no outcome if the search comes upon a missing element of the
list of ignored files. -/
def run (files : Files) (config : Config) (options : RunOptions) (context : RunContext) :
    Option RunOutcome :=
  match ReportFormat.ofName? options.format with
  | none => some { error? := some (.unknownFormat options.format) }
  | some format =>
    if options.paths.isEmpty then
      let found := config.search files
      match found.failure? with
      | some ⟨_, .elementMissing⟩ => none
      | some ⟨path, .pattern error⟩ =>
        some { error? := some (.search config.root path error), entries := found.entries }
      | none =>
        let outcome := Run.checkPaths files format options context found.files
        some { outcome with entries := found.entries ++ outcome.entries }
    else
      some (Run.checkPaths files format options context options.paths)

end PhpLint
