import PhpLint.Proofs.Json
import PhpLint.Report.Sarif

namespace PhpLint

/-!
# The SARIF report decodes back

The report is decoded in two steps that know nothing of how it was written: its bytes
are read as JSON, and the log is taken out of the JSON document by the names of the
members.  What comes out is the log of the findings, with texts as a reader of UTF-8
sees them.
-/

namespace Json

def member? (name : String) : Json → Option Json
  | .object members => (members.find? fun member => member.1 = utf8 name).map Prod.snd
  | _ => none

def text? : Json → Option Bytes
  | .text value => some value
  | _ => none

def number? : Json → Option Nat
  | .number value => some value
  | _ => none

def elements? : Json → Option (List Json)
  | .array elements => some elements
  | _ => none

def textAt? (name : String) (json : Json) : Option Bytes :=
  (json.member? name).bind text?

/-- Every element of the array at a name, taken by the same decoder. -/
def eachAt? {α : Type} (name : String) (decode? : Json → Option α) (json : Json) :
    Option (List α) :=
  ((json.member? name).bind elements?).bind (List.mapM decode?)

/-- A member that may be missing, but not be of another form. -/
def ifPresent? {α : Type} (name : String) (decode? : Json → Option α) (json : Json) :
    Option (Option α) :=
  match json.member? name with
  | none => some none
  | some value => (decode? value).map some

end Json

/-! ## The log -/

namespace Sarif

structure Place where
  uri : Bytes
  startLine? : Option Nat
deriving DecidableEq

structure Result where
  ruleId : Bytes
  level : Bytes
  message : Bytes
  places : List Place
deriving DecidableEq

structure RuleEntry where
  id : Bytes
  description : Bytes
deriving DecidableEq

structure Run where
  toolName : Bytes
  toolVersion? : Option Bytes
  rules : List RuleEntry
  results : List Result
deriving DecidableEq

structure Log where
  schema : Bytes
  version : Bytes
  runs : List Run
deriving DecidableEq

def Place.ofJson? (json : Json) : Option Place := do
  let place ← json.member? "physicalLocation"
  let uri ← (← place.member? "artifactLocation").textAt? "uri"
  let startLine? ← place.ifPresent? "region" fun region =>
    (region.member? "startLine").bind Json.number?
  return { uri, startLine? }

def Result.ofJson? (json : Json) : Option Result := do
  let ruleId ← json.textAt? "ruleId"
  let level ← json.textAt? "level"
  let message ← (← json.member? "message").textAt? "text"
  let places ← json.eachAt? "locations" Place.ofJson?
  return { ruleId, level, message, places }

def RuleEntry.ofJson? (json : Json) : Option RuleEntry := do
  let id ← json.textAt? "id"
  let description ← (← json.member? "shortDescription").textAt? "text"
  return { id, description }

def Run.ofJson? (json : Json) : Option Run := do
  let driver ← (← json.member? "tool").member? "driver"
  let toolName ← driver.textAt? "name"
  let toolVersion? ← driver.ifPresent? "version" Json.text?
  let rules ← driver.eachAt? "rules" RuleEntry.ofJson?
  let results ← json.eachAt? "results" Result.ofJson?
  return { toolName, toolVersion?, rules, results }

def Log.ofJson? (json : Json) : Option Log := do
  let schema ← json.textAt? "$schema"
  let version ← json.textAt? "version"
  let runs ← json.eachAt? "runs" Run.ofJson?
  return { schema, version, runs }

/-! ## What the log should say -/

/-- A finding as a result: read errors are errors and all else is a warning, and a finding
about a whole file has no line to point at. -/
def Result.ofFinding (finding : Finding) : Result where
  ruleId := finding.rule.id
  level := if finding.rule = .readError then utf8 "error" else utf8 "warning"
  message := Utf8.readable finding.message
  places := [{
    uri := Utf8.readable finding.file
    startLine? := if finding.line = 0 then none else some finding.line }]

/-- The log of one run of the tool: every rule is declared, and an unknown version is left
out. -/
def Log.ofFindings (version : Bytes) (findings : List Finding) : Log where
  schema := utf8 "https://json.schemastore.org/sarif-2.1.0.json"
  version := utf8 "2.1.0"
  runs := [{
    toolName := utf8 "phpsanity"
    toolVersion? := if version = [] then none else some (Utf8.readable version)
    rules := Rule.all.map fun rule => { id := rule.id, description := rule.description }
    results := findings.map Result.ofFinding }]

/-! ## Decoding the report -/

theorem readable_ruleId (rule : Rule) : Utf8.readable rule.id = rule.id := by
  cases rule <;> exact Utf8.readable_utf8 _

theorem readable_levelName (level : Report.SarifLevel) :
    Utf8.readable level.name = level.name := by
  cases level <;> exact Utf8.readable_utf8 _

theorem result_ofJson?_toJson (result : Report.SarifResult) :
    Result.ofJson? result.toJson.readable = some {
      ruleId := result.rule.id
      level := result.level.name
      message := Utf8.readable result.message
      places := [{ uri := Utf8.readable result.uri, startLine? := result.startLine? }] } := by
  rcases result with ⟨rule, level, message, uri, startLine?⟩
  cases startLine? with
  | none =>
    simp only [Report.SarifResult.toJson, Report.regionMembers, Report.messageJson, Json.readable,
      List.map_cons, List.map_nil, Utf8.readable_utf8, readable_ruleId, readable_levelName]
    rfl
  | some line =>
    simp only [Report.SarifResult.toJson, Report.regionMembers, Report.messageJson, Json.readable,
      List.map_cons, List.map_nil, Utf8.readable_utf8, readable_ruleId, readable_levelName]
    rfl

theorem result_ofJson?_sarifResult (finding : Finding) :
    Result.ofJson? (Report.sarifResult finding).toJson.readable =
      some (Result.ofFinding finding) := by
  have levelName : (Report.sarifResult finding).level.name =
      if finding.rule = .readError then utf8 "error" else utf8 "warning" := by
    simp only [Report.sarifResult]
    split
    · rfl
    · rfl
  have startLine : (Report.sarifResult finding).startLine? =
      if finding.line = 0 then none else some finding.line := by
    simp only [Report.sarifResult]
    split
    · rw [if_neg (by omega)]
    · rw [if_pos (by omega)]
  rw [result_ofJson?_toJson, levelName, startLine]
  rfl

theorem rules_ofJson? :
    (Rule.all.map fun rule => (Report.ruleJson rule).readable).mapM RuleEntry.ofJson? =
      some (Rule.all.map fun rule => { id := rule.id, description := rule.description }) := by
  simp only [Rule.all, List.map_cons, List.map_nil, Report.ruleJson, Report.messageJson,
    Rule.id, Rule.description, Json.readable, Utf8.readable_utf8]
  rfl

theorem mapM_map_of_forall {α β γ : Type} {decode? : β → Option γ} {write : α → β} {seen : α → γ}
    (each : ∀ x, decode? (write x) = some (seen x)) (items : List α) :
    (items.map write).mapM decode? = some (items.map seen) := by
  induction items with
  | nil => rfl
  | cons x items inductionHypothesis =>
    rw [List.map_cons, List.mapM_cons, each, inductionHypothesis]
    rfl

/-- The members of the driver object, with the version if there is one. -/
def driverMembers (version? : Option Bytes) (rules : List Json) : List (Bytes × Json) :=
  [(utf8 "name", .text (utf8 "phpsanity"))] ++
    (version?.toList.map fun version => (utf8 "version", .text version)) ++
    [(utf8 "rules", .array rules)]

theorem run_ofJson? (version? : Option Bytes) (rules results : List Json) :
    Run.ofJson? (.object [
        (utf8 "tool", .object [(utf8 "driver", .object (driverMembers version? rules))]),
        (utf8 "results", .array results)]) =
      (rules.mapM RuleEntry.ofJson?).bind fun rules =>
        (results.mapM Result.ofJson?).bind fun results =>
          some { toolName := utf8 "phpsanity", toolVersion? := version?, rules, results } := by
  cases version? with
  | none => rfl
  | some version => rfl

theorem log_ofJson? (schema version : Bytes) (runs : List Json) :
    Log.ofJson? (.object [(utf8 "$schema", .text schema), (utf8 "version", .text version),
        (utf8 "runs", .array runs)]) =
      (runs.mapM Run.ofJson?).bind fun runs => some { schema, version, runs } :=
  rfl

theorem readable_driver (version : Bytes) (rules : List Json) :
    ([(utf8 "name", Json.text (utf8 "phpsanity"))] ++ Report.versionMembers version ++
        [(utf8 "rules", Json.array rules)]).map
        (fun member => (Utf8.readable member.1, member.2.readable)) =
      driverMembers (if version = [] then none else some (Utf8.readable version))
        (rules.map Json.readable) := by
  cases version with
  | nil =>
    simp only [Report.versionMembers, List.isEmpty_nil, if_true, List.append_nil,
      List.cons_append, List.nil_append, List.map_cons, List.map_nil, Json.readable,
      Utf8.readable_utf8]
    rfl
  | cons b others =>
    simp only [Report.versionMembers, List.isEmpty_cons, Bool.false_eq_true, if_false,
      List.cons_append, List.nil_append, List.map_cons, List.map_nil, Json.readable,
      Utf8.readable_utf8, reduceCtorEq]
    rfl

theorem log_ofJson?_toJson (version : Bytes) (results : List FileResult) :
    Log.ofJson? (Report.sarifLog version results).toJson.readable =
      some (Log.ofFindings version (results.flatMap FileResult.findings)) := by
  have built : Report.sarifLog version results = {
      toolVersion := version
      rules := Rule.all
      results := (results.flatMap FileResult.findings).map Report.sarifResult } := by
    rw [List.map_flatMap]
    rfl
  have runDecoded := run_ofJson? (if version = [] then none else some (Utf8.readable version))
    (Rule.all.map fun rule => (Report.ruleJson rule).readable)
    ((results.flatMap FileResult.findings).map fun finding =>
      (Report.sarifResult finding).toJson.readable)
  rw [rules_ofJson?, mapM_map_of_forall result_ofJson?_sarifResult, Option.bind_some,
    Option.bind_some] at runDecoded
  rw [built, Report.SarifLog.toJson]
  simp only [Json.readable, List.map_cons, List.map_nil, Utf8.readable_utf8, readable_driver,
    List.map_map, Function.comp_def]
  rw [log_ofJson?, List.mapM_cons, runDecoded]
  rfl

end Sarif

namespace Report

/-- The SARIF report of any results under any version is one JSON document and a line feed.
Decoding the document gives the log of the findings in their order, in which every text is as a
reader of UTF-8 sees it: each byte at which no character is encoded has become a replacement
character, so that exactly the encoded texts are unchanged. -/
theorem sarif_decodes_to_findings (version : Bytes) (results : List FileResult) :
    (∃ body, sarif version results = body ++ utf8 "\n" ∧
      (Json.read? body).bind Sarif.Log.ofJson? =
        some (Sarif.Log.ofFindings version (results.flatMap FileResult.findings))) ∧
    (∀ content, Utf8.Replaced content (Utf8.readable content)) ∧
    ∀ content,
      Utf8.readable content = content ↔ ∃ characters, content = Utf8.encode characters := by
  refine ⟨⟨_, rfl, ?_⟩, Utf8.replaced_readable, Utf8.readable_eq_iff⟩
  rw [Json.read?_render, Option.bind_some]
  exact Sarif.log_ofJson?_toJson version results

end Report
end PhpLint
