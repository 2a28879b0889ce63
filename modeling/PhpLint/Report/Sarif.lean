import PhpLint.Finding
import PhpLint.Json

namespace PhpLint
namespace Report

/-!
# The report as SARIF

A log has one run of the tool with its rules, and one result a finding.
-/

inductive SarifLevel where
  | warning
  | error
deriving DecidableEq

structure SarifResult where
  rule : Rule
  level : SarifLevel
  message : Bytes
  uri : Bytes
  startLine? : Option Nat
deriving DecidableEq

structure SarifLog where
  toolVersion : Bytes
  rules : List Rule
  results : List SarifResult
deriving DecidableEq

def sarifResult (finding : Finding) : SarifResult where
  rule := finding.rule
  level := if finding.rule = .readError then .error else .warning
  message := finding.message
  uri := finding.file
  startLine? := if 0 < finding.line then some finding.line else none

/-- The log of a tool version and results. -/
def sarifLog (version : Bytes) (results : List FileResult) : SarifLog where
  toolVersion := version
  rules := Rule.all
  results := results.flatMap fun result => result.findings.map sarifResult

/-! ## The log as JSON -/

def SarifLevel.name : SarifLevel → Bytes
  | .warning => utf8 "warning"
  | .error => utf8 "error"

/-- An object whose only member is a text. -/
def messageJson (text : Bytes) : Json :=
  .object [(utf8 "text", .text text)]

def ruleJson (rule : Rule) : Json :=
  .object [(utf8 "id", .text rule.id), (utf8 "shortDescription", messageJson rule.description)]

def regionMembers : Option Nat → List (Bytes × Json)
  | none => []
  | some line => [(utf8 "region", .object [(utf8 "startLine", .number line)])]

def SarifResult.toJson (result : SarifResult) : Json :=
  let place : Json := .object
    ((utf8 "artifactLocation", .object [(utf8 "uri", .text result.uri)]) ::
      regionMembers result.startLine?)
  .object [
    (utf8 "ruleId", .text result.rule.id),
    (utf8 "level", .text result.level.name),
    (utf8 "message", messageJson result.message),
    (utf8 "locations", .array [.object [(utf8 "physicalLocation", place)]])]

def versionMembers (version : Bytes) : List (Bytes × Json) :=
  if version.isEmpty then [] else [(utf8 "version", .text version)]

def SarifLog.toJson (log : SarifLog) : Json :=
  let driver : Json := .object
    ([(utf8 "name", .text (utf8 "phpsanity"))] ++ versionMembers log.toolVersion ++
      [(utf8 "rules", .array (log.rules.map ruleJson))])
  let run : Json := .object [
    (utf8 "tool", .object [(utf8 "driver", driver)]),
    (utf8 "results", .array (log.results.map SarifResult.toJson))]
  .object [
    (utf8 "$schema", .text (utf8 "https://json.schemastore.org/sarif-2.1.0.json")),
    (utf8 "version", .text (utf8 "2.1.0")),
    (utf8 "runs", .array [run])]

def sarif (version : Bytes) (results : List FileResult) : Bytes :=
  (sarifLog version results).toJson.document

end Report
end PhpLint
