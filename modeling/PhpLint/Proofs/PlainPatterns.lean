import PhpLint.Proofs.GlobSlashes
import PhpLint.Proofs.RegexLiteral

namespace PhpLint

/-!
# Patterns of plain text

A text of ASCII characters none of which means anything in a pattern can be written in
every format. As a fixed path and as a glob it matches itself and nothing else. As a regular
expression it matches every path in which it occurs, also if it stands between bytes that
are no characters: the regular expression is searched for among the characters of the path,
and an ASCII character is never a part of the encoding of another one.
-/

namespace Utf8

/-- Only the replacement character can have been read from a stray byte. -/
theorem eq_map_scalar {found : List Piece} (notReplaced : replacement ∉ found.map Piece.char) :
    found = (found.map Piece.char).map .scalar := by
  induction found with
  | nil => rfl
  | cons piece rest inductionHypothesis =>
    rw [List.map_cons, List.mem_cons, not_or] at notReplaced
    cases piece with
    | stray b => exact absurd rfl notReplaced.1
    | scalar c =>
      rw [List.map_cons, List.map_cons, ← inductionHypothesis notReplaced.2]
      rfl

/-- Pieces that read as other characters spell them. -/
theorem unpieces_eq_encode {found : List Piece}
    (notReplaced : replacement ∉ found.map Piece.char) :
    unpieces found = encode (found.map Piece.char) := by
  rw [← unpieces_map_scalar, ← eq_map_scalar notReplaced]

theorem chars_encode_append (characters : List Char) (text : Bytes) :
    chars (encode characters ++ text) = characters ++ chars text := by
  have scalars : (characters.map Piece.scalar).map Piece.char = characters := by
    rw [List.map_map]
    exact List.map_id _
  rw [chars, pieces_encode_append, List.map_append, scalars]
  rfl

/-- A text begins with some characters exactly if it begins with their encodings. The replacement
character is left out, because it may stand for a stray byte. -/
theorem prefix_chars_iff {characters : List Char} (notReplaced : replacement ∉ characters)
    {text : Bytes} : characters <+: chars text ↔ encode characters <+: text := by
  constructor
  · rintro ⟨after, whole⟩
    rcases List.map_eq_append_iff.mp whole.symm with ⟨found, back, pieced, rfl, -⟩
    refine ⟨unpieces back, ?_⟩
    rw [← unpieces_eq_encode notReplaced, ← unpieces_append, ← pieced, unpieces_pieces]
  · rintro ⟨after, rfl⟩
    rw [chars_encode_append]
    exact List.prefix_append characters _

/-- Characters stand in a text one after another exactly if their encodings do. -/
theorem infix_chars_iff {characters : List Char} (notReplaced : replacement ∉ characters)
    {text : Bytes} : characters <:+: chars text ↔ encode characters <:+: text := by
  constructor
  · rintro ⟨before, after, whole⟩
    rcases List.map_eq_append_iff.mp whole.symm with ⟨front, back, pieced, frontChars, -⟩
    rcases List.map_eq_append_iff.mp frontChars with ⟨start, found, rfl, -, rfl⟩
    refine ⟨unpieces start, unpieces back, ?_⟩
    rw [← unpieces_eq_encode notReplaced, ← unpieces_append, ← unpieces_append, ← pieced,
      unpieces_pieces]
  · rintro ⟨before, after, rfl⟩
    cases characters with
    | nil => exact List.nil_infix
    | cons c rest =>
      have begins : Begins (encode (c :: rest) ++ after) := by
        intro b isFirst
        have beginsAlone := begins_encode (c :: rest) b
        rcases utf8EncodeChar_eq_cons c with ⟨first, others, encoded, _, _⟩
        rw [encode, List.flatMap_cons, encoded] at isFirst beginsAlone
        exact beginsAlone isFirst
      refine ⟨chars before, chars after, ?_⟩
      rw [List.append_assoc, ← chars_encode_append, List.append_assoc]
      simp only [chars, pieces_append begins, List.map_append]

end Utf8

namespace Glob

/-- No byte of the text means anything in a glob. -/
def Unreserved (text : Bytes) : Prop :=
  ∀ b ∈ text, b ∉ ['*', '?', '[', '\\'].map Bytes.ascii

variable {pattern : Bytes}

theorem Unreserved.tail {b : UInt8} (unreserved : Unreserved (b :: pattern)) :
    Unreserved pattern :=
  fun c member => unreserved c (List.mem_cons_of_mem b member)

/-- A pattern without special bytes stands for itself only. -/
theorem Covers.eq_of_unreserved {name : Bytes} (covers : Covers pattern name)
    (unreserved : Unreserved pattern) : name = pattern := by
  have special {d : Char} (listed : d ∈ ['*', '?', '[', '\\']) (rest : Bytes) :
      ¬ Unreserved (Bytes.ascii d :: rest) :=
    fun impossible => impossible _ List.mem_cons_self (List.mem_map_of_mem listed)
  induction covers with
  | nil => rfl
  | star => exact absurd unreserved (special (by decide) _)
  | character => exact absurd unreserved (special (by decide) _)
  | stray => exact absurd unreserved (special (by decide) _)
  | escaped => exact absurd unreserved (special (by decide) _)
  | byte b _ _ inductionHypothesis => rw [inductionHypothesis unreserved.tail]

theorem isGlob_of_unreserved (unreserved : Unreserved pattern) : IsGlob pattern := by
  induction pattern with
  | nil => exact .nil
  | cons b rest inductionHypothesis =>
    exact .cons (.byte b (unreserved b List.mem_cons_self)) (inductionHypothesis unreserved.tail)

/-- Nothing is cut at a star. -/
theorem runs_of_unreserved (unreserved : Unreserved pattern) :
    runs false pattern = (pattern, []) := by
  induction pattern with
  | nil => rfl
  | cons b rest inductionHypothesis =>
    have isTerm : IsTerm [b] := .byte b (unreserved b List.mem_cons_self)
    have notStar : [b] ≠ [Bytes.ascii '*'] := by
      intro star
      exact unreserved b List.mem_cons_self ((List.cons.inj star).1 ▸ List.mem_cons_self)
    rw [← List.singleton_append, runs_append_of_isTerm isTerm notStar,
      inductionHypothesis unreserved.tail]

theorem matchRun_self (unreserved : Unreserved pattern) :
    matchRun pattern pattern = some (some []) := by
  induction pattern with
  | nil => rfl
  | cons b rest inductionHypothesis =>
    apply (matchRun_eq_some_iff (item?_of_unreserved (unreserved b List.mem_cons_self) rest)).mpr
    exact ⟨rest, consume?_byte.mpr rfl, inductionHypothesis unreserved.tail⟩

theorem isMatch?_of_unreserved (unreserved : Unreserved pattern) (name : Bytes) :
    isMatch? pattern name = some (decide (name = pattern)) := by
  have matches_iff : isMatch? pattern name = some true ↔ name = pattern := by
    constructor
    · intro matched
      have noClass : Bytes.ascii '[' ∉ pattern := fun member =>
        unreserved _ member (List.mem_map_of_mem (by decide))
      exact (covers_of_isMatch? noClass matched).eq_of_unreserved unreserved
    · rintro rfl
      apply isMatch?_eq_some_true_iff.mpr
      rw [runs_of_unreserved unreserved]
      exact ⟨[], matchRun_self unreserved, rfl⟩
  rcases (isGlob_of_unreserved unreserved).exists_isMatch? name with ⟨matched, found⟩
  rw [found, Option.some.injEq] at matches_iff ⊢
  rw [Bool.eq_iff_iff, decide_eq_true_eq]
  exact matches_iff

end Glob

namespace Pattern

/-- The characters that mean something in a pattern of some format. -/
def metacharacters : List Char :=
  ['\\', '.', '+', '*', '?', '(', ')', '|', '[', ']', '\x7b', '\x7d', '^', '$']

/-- A text of ASCII characters that stand for themselves in every format. -/
def IsPlain (text : Bytes) : Prop :=
  ∀ b ∈ text, b.toNat < 0x80 ∧ b ∉ metacharacters.map Bytes.ascii

instance (text : Bytes) : Decidable (IsPlain text) :=
  List.decidableBAll (fun b : UInt8 => b.toNat < 0x80 ∧ b ∉ metacharacters.map Bytes.ascii) text

variable {text : Bytes}

theorem IsPlain.unreserved (plain : IsPlain text) : Glob.Unreserved text := by
  have included : ['*', '?', '[', '\\'] ⊆ metacharacters := by
    decide
  intro b member reserved
  exact (plain b member).2 (List.map_subset Bytes.ascii included reserved)

/-- A plain text spells characters that are no operators of regular expressions. -/
theorem IsPlain.exists_eq_encode (plain : IsPlain text) :
    ∃ characters, text = Utf8.encode characters ∧
      ∀ c ∈ characters, c.toNat < 0x80 ∧ c ∉ Regex.operators := by
  have included : Regex.operators ⊆ metacharacters := by
    decide
  have valid := Utf8.valid_of_low fun b member => (plain b member).1
  have encoded : Utf8.encode (Utf8.chars text) = text := Utf8.readable_eq_of_valid valid
  refine ⟨Utf8.chars text, encoded.symm, ?_⟩
  intro c listed
  -- the first byte of the character stands in the text, and so it is the only one
  rcases Utf8.utf8EncodeChar_eq_cons c with ⟨first, others, spelled, _, _⟩
  have isFirst : first ∈ String.utf8EncodeChar c := spelled ▸ List.mem_cons_self
  have member : first ∈ text := encoded ▸ List.mem_flatMap.mpr ⟨c, listed, isFirst⟩
  have low := (plain first member).1
  have code := (Utf8.forall_mem_utf8EncodeChar c first isFirst).resolve_left (Nat.not_le.mpr low)
  refine ⟨code ▸ low, ?_⟩
  intro isOperator
  have same : Bytes.ascii c = first := by
    rw [Bytes.ascii, ← code, UInt8.ofNat_toNat]
  exact (plain first member).2 (same ▸ List.mem_map_of_mem (included isOperator))

/-- As a regular expression, a plain text is found where it occurs. -/
theorem IsPlain.exists_parse (plain : IsPlain text) (given : text ≠ []) :
    ∃ expr, Regex.parse text = .ok expr ∧
      ∀ path, expr.foundIn (Utf8.chars path) = Bytes.occurs text path := by
  rcases plain.exists_eq_encode with ⟨characters, rfl, standForThemselves⟩
  cases characters with
  | nil => exact absurd rfl given
  | cons c rest =>
    have notReplaced : Utf8.replacement ∉ c :: rest := by
      intro member
      have impossible : ¬ Utf8.replacement.toNat < 0x80 := by
        decide
      exact impossible (standForThemselves _ member).1
    refine ⟨Regex.literal c rest,
      Regex.parse_encode fun d member => (standForThemselves d member).2, ?_⟩
    intro path
    rw [Bool.eq_iff_iff, Bytes.occurs_iff, Regex.foundIn_literal_iff,
      Utf8.infix_chars_iff notReplaced]

theorem ofName?_name (format : PatternFormat) :
    PatternFormat.ofName? format.name = some format := by
  cases format <;> decide

/-- What a plain text matches in a format. -/
def matchesPlain (text path : Bytes) : PatternFormat → Bool
  | .fixedString => path = text
  | .glob => path = text
  | .regexp => Bytes.occurs text path

/-- Whatever has been compiled before, a plain text can be prepared in every format. -/
theorem IsPlain.exists_prepare (plain : IsPlain text) (given : text ≠ [])
    (compiled? : Option Regex.Expr) (format : PatternFormat) :
    ∃ prepared : Pattern, Pattern.prepare ⟨text, format.name, compiled?⟩ = .ok prepared ∧
      ∀ path, prepared.isMatch path = .ok (matchesPlain text path format) := by
  have notEmpty : text.isEmpty = false := List.isEmpty_eq_false_iff.mpr given
  have named : format.name.isEmpty = false := by
    cases format <;> decide
  simp only [prepare, notEmpty, named, Bool.false_eq_true, if_false, ofName?_name]
  cases format with
  | fixedString =>
    refine ⟨_, rfl, ?_⟩
    intro path
    simp only [isMatch, ofName?_name, matchesPlain, Bool.beq_eq_decide_eq]
  | glob =>
    have matched := Glob.isMatch?_of_unreserved plain.unreserved
    refine ⟨⟨text, PatternFormat.name .glob, none⟩, ?_, ?_⟩
    · simp only [matched]
    · intro path
      simp only [isMatch, ofName?_name, matched, matchesPlain]
  | regexp =>
    rcases plain.exists_parse given with ⟨expr, parsed, found⟩
    refine ⟨⟨text, PatternFormat.name .regexp, some expr⟩, ?_, ?_⟩
    · simp only [parsed]
    · intro path
      simp only [isMatch, ofName?_name, found, matchesPlain]

end Pattern

namespace Config

/-- If a pattern is replaced by one that matches more, no path is ignored less. -/
theorem anyMatch_of_wider {path : Bytes} {narrow wide : Pattern} {narrowly widely : Bool}
    (isNarrow : narrow.isMatch path = .ok narrowly) (isWide : wide.isMatch path = .ok widely)
    (wider : narrowly = true → widely = true) {before after : List (Option Pattern)}
    (ignored : anyMatch path (before ++ some narrow :: after) = .ok true) :
    anyMatch path (before ++ some wide :: after) = .ok true := by
  induction before with
  | nil =>
    simp only [List.nil_append, anyMatch, isNarrow, isWide] at ignored ⊢
    cases widely with
    | true => rfl
    | false =>
      cases narrowly with
      | true => cases wider rfl
      | false => exact ignored
  | cons element rest inductionHypothesis =>
    cases element with
    | none => cases ignored
    | some pattern =>
      simp only [List.cons_append, anyMatch] at ignored ⊢
      cases answer : pattern.isMatch path with
      | error error =>
        rw [answer] at ignored
        cases ignored
      | ok matched =>
        rw [answer] at ignored
        cases matched with
        | true => rfl
        | false => exact inductionHypothesis ignored

end Config

/-- A plain text can be prepared in all three formats. As a fixed path and as a glob it matches the
path that is equal to it, and as a regular expression every path in which it occurs. So a path that
is ignored with the fixed path or with the glob in the list is ignored with the regular expression
in its place. -/
theorem plain_patterns_agree (text : Bytes) (given : text ≠ []) (plain : Pattern.IsPlain text)
    (compiled? : Option Regex.Expr) :
    ∃ fixed glob regexp : Pattern,
      Pattern.prepare ⟨text, utf8 "fixed_string", compiled?⟩ = .ok fixed ∧
      Pattern.prepare ⟨text, utf8 "glob", compiled?⟩ = .ok glob ∧
      Pattern.prepare ⟨text, utf8 "regexp", compiled?⟩ = .ok regexp ∧
      (∀ path, fixed.isMatch path = .ok (decide (path = text)) ∧
        glob.isMatch path = .ok (decide (path = text)) ∧
        ∃ occurs, regexp.isMatch path = .ok occurs ∧ (occurs = true ↔ text <:+: path)) ∧
      ∀ narrow ∈ [fixed, glob], ∀ (config : Config) (before after : List (Option Pattern))
        (path : Bytes),
        Config.isIgnored { config with ignoreFiles := before ++ some narrow :: after } path =
          .ok true →
        Config.isIgnored { config with ignoreFiles := before ++ some regexp :: after } path =
          .ok true := by
  rcases plain.exists_prepare given compiled? .fixedString with ⟨fixed, fixedReady, matchFixed⟩
  rcases plain.exists_prepare given compiled? .glob with ⟨glob, globReady, matchGlob⟩
  rcases plain.exists_prepare given compiled? .regexp with ⟨regexp, regexpReady, matchRegexp⟩
  refine ⟨fixed, glob, regexp, fixedReady, globReady, regexpReady, fun path =>
    ⟨matchFixed path, matchGlob path, _, matchRegexp path, Bytes.occurs_iff⟩, ?_⟩
  intro narrow listed config before after path ignored
  have matchNarrow : narrow.isMatch path = .ok (decide (path = text)) := by
    simp only [List.mem_cons, List.not_mem_nil, or_false] at listed
    rcases listed with rfl | rfl
    · exact matchFixed path
    · exact matchGlob path
  refine Config.anyMatch_of_wider matchNarrow (matchRegexp path) ?_ ignored
  intro same
  rw [of_decide_eq_true same]
  exact Bytes.occurs_iff.mpr List.infix_rfl

/-- A plain text between two bytes at which no encoding begins. -/
def strayPath : Bytes :=
  0xFF :: utf8 "lib/a b" ++ [0xC3]

theorem plain_patterns_agree_at_strayPath :
    ∃ fixed glob regexp : Pattern,
      Pattern.prepare ⟨utf8 "lib/a b", utf8 "fixed_string", none⟩ = .ok fixed ∧
      Pattern.prepare ⟨utf8 "lib/a b", utf8 "glob", none⟩ = .ok glob ∧
      Pattern.prepare ⟨utf8 "lib/a b", utf8 "regexp", none⟩ = .ok regexp ∧
      fixed.isMatch strayPath = .ok false ∧ glob.isMatch strayPath = .ok false ∧
      regexp.isMatch strayPath = .ok true ∧ glob.isMatch (utf8 "lib/a b") = .ok true := by
  rcases plain_patterns_agree (utf8 "lib/a b") (by decide) (by decide) none with
    ⟨fixed, glob, regexp, fixedReady, globReady, regexpReady, answers, -⟩
  refine ⟨fixed, glob, regexp, fixedReady, globReady, regexpReady, ?_, ?_, ?_, ?_⟩
  · rw [(answers strayPath).1]
    rfl
  · rw [(answers strayPath).2.1]
    rfl
  · rcases (answers strayPath).2.2 with ⟨occurs, matched, occurs_iff⟩
    rw [matched, occurs_iff.mpr ⟨[0xFF], [0xC3], rfl⟩]
  · rw [(answers (utf8 "lib/a b")).2.1]
    rfl

end PhpLint
