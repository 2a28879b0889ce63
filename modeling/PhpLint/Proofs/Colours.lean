import PhpLint.CommandLine.Program
import PhpLint.Proofs.Unescaped
import PhpLint.Proofs.Verdict

namespace PhpLint

/-!
# Colours only decorate

A coloured text is the plain text with codes put into it. Every code begins with an escape
byte, and there are no other escape bytes if the plain text has none, so the codes can be
found and deleted without looking at anything else. What a run writes is put together from
such texts. So a run with colours and the same run without them differ in nothing but the
codes, wherever they are cancelled, and reports that are no texts do not differ at all.

Colours are switched off by a flag or by the environment. Neither can be overruled by what
the environment says about colours otherwise.
-/

/-! ## Deleting -/

namespace Bytes

/-- The text after the given number of bytes without the needles in it. -/
def deleteAfter (needles : List Bytes) : Nat → Bytes → Bytes
  | _, [] => []
  | skip + 1, _ :: rest => deleteAfter needles skip rest
  | 0, b :: rest =>
    match needles.find? fun needle => needle.isPrefixOf (b :: rest) with
    | some needle => deleteAfter needles (needle.length - 1) rest
    | none => b :: deleteAfter needles 0 rest

/-- The text without the needles that are found in it from left to right. -/
def delete (needles : List Bytes) (text : Bytes) : Bytes :=
  deleteAfter needles 0 text

end Bytes

namespace Report

/-- The codes that switch colours on and off. -/
def colourCodes : List Bytes :=
  [utf8 "\x1b[31m", utf8 "\x1b[32m", utf8 "\x1b[33m", utf8 "\x1b[0m"]

/-- The text without colours. -/
def uncoloured (text : Bytes) : Bytes :=
  Bytes.delete colourCodes text

/-- A text with codes in it and the same text without them. Apart from the codes there are no
escape bytes. -/
inductive Decorated : Bytes → Bytes → Prop where
  | nil : Decorated [] []
  | byte {b : UInt8} {text plain : Bytes} (notEscape : b ≠ escape) :
      Decorated text plain → Decorated (b :: text) (b :: plain)
  | code {code text plain : Bytes} (isCode : code ∈ colourCodes) :
      Decorated text plain → Decorated (code ++ text) plain

theorem colourCodes_eq : colourCodes =
    [[escape, 91, 51, 49, 109], [escape, 91, 51, 50, 109], [escape, 91, 51, 51, 109],
      [escape, 91, 48, 109]] := by
  decide

theorem decorated_of_not_mem {text : Bytes} (absent : escape ∉ text) : Decorated text text := by
  induction text with
  | nil => exact .nil
  | cons b rest inductionHypothesis =>
    rw [List.mem_cons, not_or] at absent
    exact .byte (Ne.symm absent.1) (inductionHypothesis absent.2)

namespace Decorated

variable {text plain : Bytes}

theorem append {later laterPlain : Bytes} (front : Decorated text plain)
    (back : Decorated later laterPlain) : Decorated (text ++ later) (plain ++ laterPlain) := by
  induction front with
  | nil => exact back
  | byte notEscape _ inductionHypothesis => exact .byte notEscape inductionHypothesis
  | code isCode _ inductionHypothesis =>
    rw [List.append_assoc]
    exact .code isCode inductionHypothesis

theorem flatMap {α : Type} {items : List α} {written bare : α → Bytes}
    (each : ∀ item ∈ items, Decorated (written item) (bare item)) :
    Decorated (items.flatMap written) (items.flatMap bare) := by
  induction items with
  | nil => exact .nil
  | cons item items inductionHypothesis =>
    apply (each item List.mem_cons_self).append
    exact inductionHypothesis fun other member => each other (List.mem_cons_of_mem item member)

theorem escape_not_mem (decorated : Decorated text plain) : escape ∉ plain := by
  induction decorated with
  | nil => exact List.not_mem_nil
  | byte notEscape _ inductionHypothesis =>
    rw [List.mem_cons, not_or]
    exact ⟨Ne.symm notEscape, inductionHypothesis⟩
  | code _ _ inductionHypothesis => exact inductionHypothesis

/-- Exactly the codes are deleted: none begins with another byte than an escape byte, and none is
the beginning of another one. -/
theorem uncoloured_eq (decorated : Decorated text plain) : uncoloured text = plain := by
  induction decorated with
  | nil => rfl
  | @byte b text plain notEscape _ inductionHypothesis =>
    have noCode : (colourCodes.find? fun code => code.isPrefixOf (b :: text)) = none := by
      apply List.find?_eq_none.mpr
      intro code isCode begins
      have different : (escape == b) = false := beq_eq_false_iff_ne.mpr (Ne.symm notEscape)
      simp only [colourCodes_eq, List.mem_cons, List.not_mem_nil, or_false] at isCode
      rcases isCode with rfl | rfl | rfl | rfl <;>
        simp [List.isPrefixOf, different] at begins
    rw [uncoloured, Bytes.delete, Bytes.deleteAfter, noCode]
    exact congrArg (b :: ·) inductionHypothesis
  | @code code text plain isCode _ inductionHypothesis =>
    have deleted : uncoloured (code ++ text) = uncoloured text := by
      rw [uncoloured, uncoloured, colourCodes_eq]
      simp only [colourCodes_eq, List.mem_cons, List.not_mem_nil, or_false] at isCode
      rcases isCode with rfl | rfl | rfl | rfl <;> rfl
    rw [deleted, inductionHypothesis]

end Decorated

/-! ## Texts in colours -/

theorem decorated_paint {text : Bytes} (absent : escape ∉ text) (coloured : Bool)
    (colour : Colour) : Decorated (paint coloured colour text) text := by
  have plain : Decorated text text := decorated_of_not_mem absent
  cases coloured with
  | false => exact plain
  | true =>
    have isCode : colour.code ∈ colourCodes := by
      cases colour <;> simp [colourCodes, Colour.code]
    have isEnd : colourEnd ∈ colourCodes := by
      simp [colourCodes, colourEnd]
    have ended : Decorated (colourEnd ++ []) [] := .code isEnd .nil
    have whole := Decorated.code isCode (plain.append ended)
    rwa [List.append_nil, List.append_nil, ← List.append_assoc] at whole

theorem decorated_textBlock {result : FileResult} (unescaped : Unescaped result)
    (coloured : Bool) : Decorated (textBlock coloured result) (textBlock false result) := by
  have words (text : Bytes) (absent : escape ∉ text) : Decorated text text :=
    decorated_of_not_mem absent
  have findings : Decorated (result.findings.flatMap findingLine)
      (result.findings.flatMap findingLine) := by
    apply Decorated.flatMap
    intro finding found
    apply words
    simp only [findingLine, List.mem_append, not_or]
    exact ⟨⟨by decide, escape_not_mem_text (unescaped.message finding found)⟩, by decide⟩
  have heading := (words (utf8 "\n") (by decide)).append
    (decorated_paint unescaped.file coloured .yellow)
  exact (heading.append (words (utf8 ":\n") (by decide))).append findings

theorem decorated_textSummary (coloured failed : Bool) :
    Decorated (textSummary coloured failed) (textSummary false failed) := by
  have feed : Decorated (utf8 "\n") (utf8 "\n") := decorated_of_not_mem (by decide)
  cases failed with
  | false => exact (decorated_paint (by decide) coloured .green).append feed
  | true => exact (feed.append (decorated_paint (by decide) coloured .red)).append feed

end Report

/-! ## Runs -/

/-- The options with other settings for colours. -/
def RunOptions.withColours (options : RunOptions) (noColour forceColour : Bool) : RunOptions :=
  { options with noColour := noColour, forceColour := forceColour }

/-- The outcome with its output deprived of colours. -/
def RunOutcome.uncoloured (outcome : RunOutcome) : RunOutcome :=
  { outcome with output := Report.uncoloured outcome.output }

namespace Run

open Report

variable {files : Files} {config : Config} {options : RunOptions} {context : RunContext}
  {format : ReportFormat}

/-- Neither the paths that a run checks nor the contents of the files there hold the byte. -/
def IsFreeOf (b : UInt8) (files : Files) (config : Config) (options : RunOptions) : Prop :=
  ∀ paths, targets? files config options = some paths → ∀ path ∈ paths,
    b ∉ path ∧ ∀ content, files.read path = .ok content → b ∉ content

theorem IsFreeOf.unescaped (free : IsFreeOf escape files config options)
    (brings : files.BringsNo escape) {paths : List Bytes}
    (resolved : targets? files config options = some paths) :
    ∀ path ∈ paths, Unescaped (checkFile files path) := by
  intro path listed
  rcases free paths resolved path listed with ⟨inPath, inContent⟩
  exact unescaped_checkFile brings inPath inContent

/-! ### Settings that make no difference -/

section Settings

variable {noColour forceColour : Bool}
  (same : format = .text → (options.withColours noColour forceColour).coloured = options.coloured)

include same

theorem writtenAtOnce_withColours :
    writtenAtOnce format (options.withColours noColour forceColour) context =
      writtenAtOnce format options context := by
  funext result
  unfold writtenAtOnce
  by_cases text : format = .text
  · rw [same text]
  · simp only [text, decide_false, Bool.false_and, Bool.false_eq_true, if_false]

theorem checkEach_withColours (asked : Nat) (paths : List Bytes) :
    checkEach files format (options.withColours noColour forceColour) context asked paths =
      checkEach files format options context asked paths := by
  induction paths generalizing asked with
  | nil => rfl
  | cons path rest inductionHypothesis =>
    rw [checkEach, checkEach, inductionHypothesis (asked + 1), writtenAtOnce_withColours same]

theorem finish_withColours (progress : Progress) :
    finish format (options.withColours noColour forceColour) context progress =
      finish format options context progress := by
  cases format with
  | text => simp only [finish, same]
  | sarif => rfl
  | yaml => rfl

theorem checkPaths_withColours (paths : List Bytes) :
    checkPaths files format (options.withColours noColour forceColour) context paths =
      checkPaths files format options context paths := by
  rw [checkPaths, checkPaths, checkEach_withColours same, finish_withColours same]

end Settings

/-- The settings for colours only matter as far as they decide whether a text is coloured. -/
theorem run_withColours {noColour forceColour : Bool}
    (same : ReportFormat.ofName? options.format = some .text →
      (options.withColours noColour forceColour).coloured = options.coloured) :
    run files config (options.withColours noColour forceColour) context =
      run files config options context := by
  have sameFormat : (options.withColours noColour forceColour).format = options.format := rfl
  have samePaths : (options.withColours noColour forceColour).paths = options.paths := rfl
  unfold run
  rw [sameFormat, samePaths]
  cases named : ReportFormat.ofName? options.format with
  | none => rfl
  | some format =>
    have sameText : format = .text →
        (options.withColours noColour forceColour).coloured = options.coloured := by
      rintro rfl
      exact same named
    simp only [checkPaths_withColours sameText]

/-- A run with a text report and the same run without colours end alike, and what the one writes
is a decoration of what the other one writes. -/
theorem run_text_decorated (context : RunContext) {noColour forceColour : Bool}
    {paths : List Bytes} (named : ReportFormat.ofName? options.format = some .text)
    (resolved : targets? files config options = some paths)
    (unescaped : ∀ path ∈ paths, Unescaped (checkFile files path))
    (plain : (options.withColours noColour forceColour).coloured = false) :
    ∃ (outcome : RunOutcome) (bare : Bytes),
      run files config options context = some outcome ∧
      run files config (options.withColours noColour forceColour) context =
        some { outcome with output := bare } ∧
      Decorated outcome.output bare := by
  have blocks {checked : List Bytes} (isPart : checked ⊆ paths) :
      Decorated ((checked.map (checkFile files)).flatMap (writtenAtOnce .text options context))
        ((checked.map (checkFile files)).flatMap
          (writtenAtOnce .text (options.withColours noColour forceColour) context)) := by
    apply Decorated.flatMap
    intro result isResult
    rcases List.mem_map.mp isResult with ⟨path, listed, rfl⟩
    unfold writtenAtOnce
    rw [plain]
    split
    · exact decorated_textBlock (unescaped path (isPart listed)) options.coloured
    · exact .nil
  have namedPlain :
      ReportFormat.ofName? (options.withColours noColour forceColour).format = some .text := named
  have resolvedPlain :
      targets? files config (options.withColours noColour forceColour) = some paths := resolved
  by_cases allowed : Allows context paths.length
  · refine ⟨_, _, run_of_allows named resolved allowed,
      run_of_allows namedPlain resolvedPlain allowed, ?_⟩
    apply (blocks (List.Subset.refl paths)).append
    simp only [finish]
    rw [plain]
    split
    · exact decorated_textSummary options.coloured _
    · exact .nil
  · rcases exists_limit_of_not_allows allowed with ⟨limit, stops, early⟩
    exact ⟨_, _, run_of_cancelled named resolved stops early,
      run_of_cancelled namedPlain resolvedPlain stops early, blocks (List.take_subset limit paths)⟩

/-- Without the codes, a run with colours is the run without them. -/
theorem map_uncoloured_run {noColour forceColour : Bool}
    (named : ReportFormat.ofName? options.format = some .text) (brings : files.BringsNo escape)
    (free : IsFreeOf escape files config options)
    (plain : (options.withColours noColour forceColour).coloured = false) :
    (run files config options context).map RunOutcome.uncoloured =
      run files config (options.withColours noColour forceColour) context := by
  cases resolved : targets? files config options with
  | none =>
    have resolvedPlain :
        targets? files config (options.withColours noColour forceColour) = none := resolved
    have samePlain : refusal? files config (options.withColours noColour forceColour) =
        refusal? files config options := rfl
    rw [run_of_unresolved resolved, run_of_unresolved resolvedPlain, samePlain]
    cases refused : refusal? files config options with
    | none => rfl
    | some outcome =>
      have nothing : uncoloured outcome.output = outcome.output := by
        rw [(of_refusal?_eq_some refused).1]
        rfl
      rw [Option.map_some, RunOutcome.uncoloured, nothing]
  | some paths =>
    rcases run_text_decorated context named resolved (free.unescaped brings resolved) plain with
      ⟨outcome, bare, ran, ranPlain, decorated⟩
    rw [ran, ranPlain, Option.map_some, RunOutcome.uncoloured, decorated.uncoloured_eq]

/-! ### Runs without colours -/

theorem escape_not_mem_writtenAtOnce (plain : options.coloured = false) {result : FileResult}
    (unescaped : Unescaped result) : escape ∉ writtenAtOnce format options context result := by
  unfold writtenAtOnce
  split
  · rw [plain]
    exact (decorated_textBlock unescaped false).escape_not_mem
  · exact List.not_mem_nil

theorem escape_not_mem_finish (plain : options.coloured = false) {progress : Progress}
    (unescaped : ∀ result ∈ progress.results, Unescaped result) :
    escape ∉ (finish format options context progress).1 := by
  cases writable : context.writable with
  | false =>
    rw [finish_of_unwritable writable]
    exact List.not_mem_nil
  | true =>
    cases format with
    | text =>
      simp only [finish, writable, if_true, plain]
      exact (decorated_textSummary false progress.failed).escape_not_mem
    | sarif =>
      simp only [finish, writable, if_true]
      exact escape_not_mem_sarif options.version progress.results
    | yaml =>
      simp only [finish, writable, if_true]
      exact escape_not_mem_yaml unescaped

theorem checkEach_unescaped (plain : options.coloured = false) {paths : List Bytes}
    (unescaped : ∀ path ∈ paths, Unescaped (checkFile files path)) (asked : Nat) :
    escape ∉ (checkEach files format options context asked paths).output ∧
      ∀ result ∈ (checkEach files format options context asked paths).results,
        Unescaped result := by
  induction paths generalizing asked with
  | nil => exact ⟨List.not_mem_nil, fun _ impossible => absurd impossible List.not_mem_nil⟩
  | cons path rest inductionHypothesis =>
    have here := unescaped path List.mem_cons_self
    have later := inductionHypothesis
      (fun other listed => unescaped other (List.mem_cons_of_mem path listed)) (asked + 1)
    rw [checkEach]
    split
    · exact ⟨List.not_mem_nil, fun _ impossible => absurd impossible List.not_mem_nil⟩
    · refine ⟨?_, List.forall_mem_cons.mpr ⟨here, later.2⟩⟩
      rw [List.mem_append, not_or]
      exact ⟨escape_not_mem_writtenAtOnce plain here, later.1⟩

theorem escape_not_mem_checkPaths (plain : options.coloured = false) {paths : List Bytes}
    (unescaped : ∀ path ∈ paths, Unescaped (checkFile files path)) :
    escape ∉ (checkPaths files format options context paths).output := by
  rcases checkEach_unescaped plain unescaped 0 with ⟨onTheWay, results⟩
  unfold checkPaths
  dsimp only
  split
  · exact onTheWay
  · rw [List.mem_append, not_or]
    exact ⟨onTheWay, escape_not_mem_finish plain results⟩

/-- A run without colours writes no escape bytes of its own, in whatever format. -/
theorem escape_not_mem_output {outcome : RunOutcome} (brings : files.BringsNo escape)
    (free : IsFreeOf escape files config options) (plain : options.coloured = false)
    (ran : run files config options context = some outcome) : escape ∉ outcome.output := by
  cases named : ReportFormat.ofName? options.format with
  | none =>
    simp only [run, named] at ran
    cases ran
    exact List.not_mem_nil
  | some format =>
    cases resolved : targets? files config options with
    | none =>
      rw [run_of_unresolved resolved] at ran
      rw [(of_refusal?_eq_some ran).1]
      exact List.not_mem_nil
    | some paths =>
      rw [run_eq_checkPaths named resolved] at ran
      cases ran
      exact escape_not_mem_checkPaths plain (free.unescaped brings resolved)

end Run

/-! ## The switch -/

/-- Colours are off if a flag or the environment switches them off, whatever else the environment
says. -/
theorem CommandLine.runOptions_coloured {invocation : CommandLine.Invocation}
    {values : CommandLine.FlagValues}
    (off : values.noColour = true ∨ invocation.environment.value (utf8 "NO_COLOR") ≠ [])
    (paths : List Bytes) :
    (CommandLine.runOptions invocation values paths).coloured = false := by
  have switched : (ColourSettings.ofEnvironment invocation.environment values.noColour).noColour =
      true := by
    rw [ColourSettings.ofEnvironment, Bool.or_eq_true, Bool.not_eq_true',
      List.isEmpty_eq_false_iff]
    exact off
  rw [RunOptions.coloured, CommandLine.runOptions, switched, Bool.not_true, Bool.and_false]

open Report Run

/-- Colours are decoration. If no path and no content holds an escape byte, deleting the codes from
the output of a run with colours gives the run without colours, with the same output, error and
log, for all files, configurations, paths and cancellations. The other formats do not know colours
at all. If colours are switched off by a flag or by the environment, the run is the one with
settings that never colour, and it writes no escape byte. Of the files it is only needed that
their errors bring no escape byte into a message, as is the case in memory and on a disk. -/
theorem colours_only_decorate :
    (∀ memory : Memory, memory.view.BringsNo escape) ∧
    (∀ disk : Disk, disk.view.BringsNo escape) ∧
    (∀ (files : Files) (config : Config) (options : RunOptions) (context : RunContext)
      (noColour forceColour : Bool),
      ReportFormat.ofName? options.format = some .text → files.BringsNo escape →
      IsFreeOf escape files config options → noColour = true ∨ forceColour = false →
      (run files config (options.withColours false true) context).map RunOutcome.uncoloured =
        run files config (options.withColours noColour forceColour) context) ∧
    (∀ (files : Files) (config : Config) (options : RunOptions) (context : RunContext)
      (noColour forceColour : Bool), ∀ format ∈ [ReportFormat.sarif, ReportFormat.yaml],
      ReportFormat.ofName? options.format = some format →
      run files config (options.withColours noColour forceColour) context =
        run files config options context) ∧
    ∀ (invocation : CommandLine.Invocation) (values : CommandLine.FlagValues)
      (paths : List Bytes),
      values.noColour = true ∨ invocation.environment.value (utf8 "NO_COLOR") ≠ [] →
      ∀ (files : Files) (config : Config) (context : RunContext),
        let options := CommandLine.runOptions invocation values paths
        run files config options context =
            run files config (options.withColours true false) context ∧
          (files.BringsNo escape → IsFreeOf escape files config options → ∀ outcome,
            run files config options context = some outcome → escape ∉ outcome.output) := by
  refine ⟨Memory.bringsNo (by decide), Disk.bringsNo (by decide), ?_, ?_, ?_⟩
  · intro files config options context noColour forceColour named brings free off
    have plain : (options.withColours noColour forceColour).coloured = false := by
      rcases off with rfl | rfl
      · exact Bool.and_false forceColour
      · rfl
    exact map_uncoloured_run named brings free plain
  · intro files config options context noColour forceColour format other named
    apply run_withColours
    intro text
    rw [named] at text
    cases text
    simp at other
  · intro invocation values paths off files config context options
    have plain : options.coloured = false := CommandLine.runOptions_coloured off paths
    refine ⟨?_, fun brings free outcome ran => escape_not_mem_output brings free plain ran⟩
    symm
    apply run_withColours
    intro _
    exact plain.symm

/-- Neither the files of `mixedFiles` nor the paths of a run over them hold an escape byte. -/
theorem mixedFiles_isFreeOf_escape {options : RunOptions}
    (given : options.paths = mixedOptions.paths) :
    IsFreeOf escape mixedFiles.view {} options := by
  have first : mixedFiles.view.read (utf8 "a.php") = .ok [] := rfl
  have second : mixedFiles.view.read (utf8 "b.php") = .ok (utf8 "\x7b\nreturn 1\n") := rfl
  intro paths resolved path listed
  have isGiven : paths = mixedOptions.paths := by
    rw [targets?, given] at resolved
    exact (Option.some.inj resolved).symm
  rw [isGiven, mixedOptions] at listed
  simp only [List.mem_cons, List.not_mem_nil, or_false] at listed
  rcases listed with rfl | rfl | rfl
  · refine ⟨by decide, fun content isRead => ?_⟩
    cases first.symm.trans isRead
    exact List.not_mem_nil
  · refine ⟨by decide, fun content isRead => ?_⟩
    cases second.symm.trans isRead
    decide
  · refine ⟨by decide, fun content isRead => ?_⟩
    cases isRead

/-- A call in an environment that understands colours and switches them off. -/
def switchedOff : CommandLine.Invocation where
  environment := [(utf8 "GITHUB_ACTIONS", utf8 "true"), (utf8 "NO_COLOR", utf8 "1")]

/-- What a run with colours has written that is cancelled before the last file. -/
def colouredOutcome : RunOutcome :=
  checkPaths mixedFiles.view .text (mixedOptions.withColours false true)
    { cancelAfter? := some 2 } mixedOptions.paths

/-- The colours of the cancelled run can be deleted. If the environment switches colours off, a run
over all files writes none. -/
theorem colours_only_decorate_mixed_runs :
    (run mixedFiles.view {} (mixedOptions.withColours false true) { cancelAfter? := some 2 } =
        some colouredOutcome ∧
      escape ∈ colouredOutcome.output ∧
      run mixedFiles.view {} mixedOptions { cancelAfter? := some 2 } =
        some { colouredOutcome with output := uncoloured colouredOutcome.output }) ∧
    ∃ outcome,
      run mixedFiles.view {} (CommandLine.runOptions switchedOff {} mixedOptions.paths) {} =
        some outcome ∧ outcome.output ≠ [] ∧ escape ∉ outcome.output := by
  rcases colours_only_decorate with ⟨memory, _, decorates, _, switches⟩
  constructor
  · have same := decorates mixedFiles.view {} mixedOptions { cancelAfter? := some 2 } false false
      rfl (memory mixedFiles) (mixedFiles_isFreeOf_escape rfl) (Or.inr rfl)
    exact ⟨rfl, by decide +kernel, same.symm⟩
  · have off := switches switchedOff {} mixedOptions.paths (Or.inr (by decide))
      mixedFiles.view {} {}
    refine ⟨_, rfl, by decide +kernel, ?_⟩
    exact off.2 (memory mixedFiles) (mixedFiles_isFreeOf_escape rfl) _ rfl

end PhpLint
