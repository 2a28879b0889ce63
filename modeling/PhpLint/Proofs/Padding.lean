import Mathlib.Data.List.Forall2
import PhpLint.Proofs.Blank
import PhpLint.Proofs.Bytes
import PhpLint.Proofs.Check

namespace PhpLint

/-!
# White space around the lines of a file

White space before and after the lines of a file changes none of its findings. Braces and
parentheses are counted, and white space has none. Return statements are looked at without
the white space around them. The beginning of a function definition may be indented by any
white space, and what stands behind a line cannot become part of a word in it. All this
holds whatever the bytes of the lines are, because white space is found again where it has
been put.
-/

namespace Bytes

/-! ## White space and words -/

/-- A byte that stands for a visible character. -/
def isGraphic (b : UInt8) : Bool :=
  0x20 < b.toNat && b.toNat < 0x80

theorem IsBlank.not_mem {text : Bytes} (blank : IsBlank text) {b : UInt8}
    (graphic : isGraphic b = true) : b ∉ text := by
  rcases blank with ⟨characters, white, rfl⟩
  intro member
  rcases List.mem_flatMap.mp member with ⟨c, listed, inside⟩
  have isWhite := white c listed
  simp only [isGraphic, Bool.and_eq_true, decide_eq_true_eq] at graphic
  have code := (Utf8.forall_mem_utf8EncodeChar c b inside).resolve_left (by omega)
  simp only [isWhiteSpace, Bool.or_eq_true, Bool.and_eq_true, decide_eq_true_eq, beq_iff_eq]
    at isWhite
  omega

theorem Padded.count_eq {text padded : Bytes} (isPadded : Padded text padded) {b : UInt8}
    (graphic : isGraphic b = true) : padded.count b = text.count b := by
  rcases isPadded with ⟨before, after, blankBefore, blankAfter, rfl⟩
  rw [List.count_append, List.count_append,
    List.count_eq_zero_of_not_mem (blankBefore.not_mem graphic),
    List.count_eq_zero_of_not_mem (blankAfter.not_mem graphic), Nat.zero_add, Nat.add_zero]

/-- A text with white space after it. -/
def PaddedAtEnd (text padded : Bytes) : Prop :=
  ∃ after, IsBlank after ∧ padded = text ++ after

theorem PaddedAtEnd.padded {text padded : Bytes} (isPadded : PaddedAtEnd text padded) :
    Padded text padded := by
  rcases isPadded with ⟨after, blank, rfl⟩
  exact ⟨[], after, isBlank_nil, blank, rfl⟩

theorem PaddedAtEnd.cons {text padded : Bytes} (isPadded : PaddedAtEnd text padded) (b : UInt8) :
    PaddedAtEnd (b :: text) (b :: padded) := by
  rcases isPadded with ⟨after, blank, rfl⟩
  exact ⟨after, blank, rfl⟩

/-- White space at the end does not complete a word. -/
theorem prefix_append_iff_of_isBlank {word after : Bytes} (graphic : word.all isGraphic = true)
    (blank : IsBlank after) (text : Bytes) : word <+: text ++ after ↔ word <+: text := by
  constructor
  · intro beginning
    rcases prefix_append_cases beginning with inside | ⟨b, more, rfl, reached⟩
    · exact inside
    · have inWord : b ∈ text ++ b :: more := List.mem_append_right _ List.mem_cons_self
      have isGraphic := List.all_eq_true.mp graphic b inWord
      exact absurd (reached.subset List.mem_cons_self) (blank.not_mem isGraphic)
  · intro beginning
    exact beginning.trans (List.prefix_append text after)

theorem after?_append_of_isBlank {word after : Bytes} (graphic : word.all isGraphic = true)
    (blank : IsBlank after) (text : Bytes) :
    after? word (text ++ after) = (after? word text).map (· ++ after) := by
  by_cases begins : word <+: text
  · rcases begins with ⟨rest, rfl⟩
    rw [List.append_assoc, after?_append, after?_append, Option.map_some]
  · rw [after?_eq_none begins, after?_eq_none, Option.map_none]
    exact fun reaches => begins ((prefix_append_iff_of_isBlank graphic blank text).mp reaches)

theorem findSome?_after?_append {words : List Bytes} {after : Bytes}
    (graphic : ∀ word ∈ words, word.all isGraphic = true) (blank : IsBlank after) (text : Bytes) :
    (words.findSome? fun word => after? word (text ++ after)) =
      (words.findSome? fun word => after? word text).map (· ++ after) := by
  induction words with
  | nil => rfl
  | cons word others inductionHypothesis =>
    have later := inductionHypothesis fun other member =>
      graphic other (List.mem_cons_of_mem _ member)
    rw [List.findSome?_cons, List.findSome?_cons, later,
      after?_append_of_isBlank (graphic word List.mem_cons_self) blank]
    cases after? word text with
    | none => rfl
    | some rest => rfl

end Bytes

theorem isIndent_of_isWhiteSpace {c : Char} (white : isWhiteSpace c = true) :
    isIndent c = true := by
  simp only [isWhiteSpace, Bool.or_eq_true, Bool.and_eq_true, decide_eq_true_eq, beq_iff_eq]
    at white
  simp only [isIndent, isSeparator, Bool.or_eq_true, Bool.and_eq_true, decide_eq_true_eq,
    beq_iff_eq]
  omega

namespace Check

open Bytes (IsBlank Padded PaddedAtEnd isGraphic)

/-! ## One line -/

section Line

variable {line padded : Bytes}

theorem parenthesisBalance_of_padded (isPadded : Padded line padded) :
    parenthesisBalance padded = parenthesisBalance line := by
  rw [parenthesisBalance, parenthesisBalance, isPadded.count_eq (by decide),
    isPadded.count_eq (by decide)]

theorem openBrace_mem_iff_of_padded (isPadded : Padded line padded) :
    openBrace ∈ padded ↔ openBrace ∈ line := by
  rw [← List.count_pos_iff, ← List.count_pos_iff, isPadded.count_eq (by decide)]

theorem dropIndent_encode_append {characters : List Char}
    (indents : ∀ c ∈ characters, isIndent c = true) (text : Bytes) :
    dropIndent (Utf8.encode characters ++ text) = dropIndent text := by
  rw [dropIndent, Utf8.pieces_encode_append, List.dropWhile_append_of_pos, ← dropIndent]
  exact List.forall_mem_map.mpr indents

theorem dropIndent_append_of_isBlank {before : Bytes} (blank : IsBlank before) (text : Bytes) :
    dropIndent (before ++ text) = dropIndent text := by
  rcases blank with ⟨characters, white, rfl⟩
  exact dropIndent_encode_append (fun c member => isIndent_of_isWhiteSpace (white c member)) text

theorem dropIndent_paddedAtEnd (isPadded : PaddedAtEnd line padded) :
    PaddedAtEnd (dropIndent line) (dropIndent padded) := by
  rcases isPadded with ⟨_, ⟨characters, white, rfl⟩, rfl⟩
  have indents : ∀ piece ∈ characters.map Utf8.Piece.scalar, piece.isIndent = true :=
    List.forall_mem_map.mpr fun c member => isIndent_of_isWhiteSpace (white c member)
  rw [dropIndent, dropIndent, Utf8.pieces_append_encode, List.dropWhile_append]
  split
  · next empty =>
    -- there is nothing but indentation in the line
    rw [List.isEmpty_iff.mp empty, List.dropWhile_eq_nil_iff.mpr indents]
    exact ⟨[], Bytes.isBlank_nil, rfl⟩
  · rw [Utf8.unpieces_append, Utf8.unpieces_map_scalar]
    exact ⟨_, ⟨characters, white, rfl⟩, rfl⟩

theorem dropVisibility_paddedAtEnd (isPadded : PaddedAtEnd line padded) :
    PaddedAtEnd (dropVisibility line) (dropVisibility padded) := by
  rcases isPadded with ⟨after, blank, rfl⟩
  refine ⟨after, blank, ?_⟩
  rw [dropVisibility, dropVisibility, Bytes.findSome?_after?_append (by decide) blank]
  cases visibilities.findSome? fun word => Bytes.after? word line with
  | none => rfl
  | some rest => rfl

theorem isFunctionHeader_of_padded (isPadded : Padded line padded) :
    isFunctionHeader padded = isFunctionHeader line := by
  rcases isPadded with ⟨before, after, blankBefore, blankAfter, rfl⟩
  have atEnd : PaddedAtEnd line (line ++ after) := ⟨after, blankAfter, rfl⟩
  have withoutVisibility := dropVisibility_paddedAtEnd (dropIndent_paddedAtEnd atEnd)
  rcases dropIndent_paddedAtEnd withoutVisibility with ⟨rest, blankRest, same⟩
  rw [isFunctionHeader, isFunctionHeader, List.append_assoc,
    dropIndent_append_of_isBlank blankBefore, same]
  apply Bool.eq_iff_iff.mpr
  rw [List.isPrefixOf_iff_prefix, List.isPrefixOf_iff_prefix]
  exact Bytes.prefix_append_iff_of_isBlank (by decide) blankRest _

end Line

/-! ## All lines -/

/-- A scan gives the same findings for lines that it cannot tell apart. -/
theorem scan_eq_of_forall₂ {flags : Bytes → List Bytes → Bool} {report : Nat → Bytes → Finding}
    {Related : Bytes → Bytes → Prop} {lines others : List Bytes}
    (related : List.Forall₂ Related lines others)
    (sameFlags : ∀ line rest other otherRest, Related line other →
      List.Forall₂ Related rest otherRest → flags other otherRest = flags line rest)
    (sameReport : ∀ number line other, Related line other →
      report number other = report number line)
    (number : Nat) : scan flags report number others = scan flags report number lines := by
  induction related generalizing number with
  | nil => rfl
  | cons here later inductionHypothesis =>
    rw [scan, scan, sameFlags _ _ _ _ here later, sameReport _ _ _ here,
      inductionHypothesis (number + 1)]

/-- Lines that the check of parentheses cannot tell apart. -/
structure Alike (line other : Bytes) : Prop where
  header : isFunctionHeader other = isFunctionHeader line
  balance : parenthesisBalance other = parenthesisBalance line
  brace : openBrace ∈ other ↔ openBrace ∈ line

theorem alike_refl (line : Bytes) : Alike line line :=
  ⟨rfl, rfl, Iff.rfl⟩

theorem alike_of_padded {line padded : Bytes} (isPadded : Padded line padded) :
    Alike line padded where
  header := isFunctionHeader_of_padded isPadded
  balance := parenthesisBalance_of_padded isPadded
  brace := openBrace_mem_iff_of_padded isPadded

theorem signatureDepth_eq_of_alike {lines others : List Bytes}
    (alike : List.Forall₂ Alike lines others) : signatureDepth others = signatureDepth lines := by
  induction alike with
  | nil => rfl
  | cons here later inductionHypothesis =>
    simp only [signatureDepth, here.balance, here.brace, inductionHypothesis]

theorem parentheses_eq_of_alike {lines others : List Bytes}
    (alike : List.Forall₂ Alike lines others) : parentheses others = parentheses lines := by
  rw [parentheses, parentheses, parenthesesFrom_eq_scan, parenthesesFrom_eq_scan]
  apply scan_eq_of_forall₂ alike
  · intro line rest other otherRest here later
    rw [opensUnmatched, opensUnmatched, here.header,
      signatureDepth_eq_of_alike (.cons here later)]
  · intro number line other _
    rfl

theorem semicolons_eq_of_padded {lines padded : List Bytes}
    (isPadded : List.Forall₂ Padded lines padded) : semicolons padded = semicolons lines := by
  rw [semicolons, semicolons, semicolonsFrom_eq_scan, semicolonsFrom_eq_scan]
  apply scan_eq_of_forall₂ isPadded
  · intro line rest other otherRest here _
    rw [here.trim_eq]
  · intro number line other here
    rw [here.trim_eq]

theorem count_join_eq_of_forall₂ {lines others : List Bytes} {b : UInt8}
    (same : List.Forall₂ (fun line other => other.count b = line.count b) lines others) :
    (Bytes.join [lineFeed] others).count b = (Bytes.join [lineFeed] lines).count b := by
  induction same with
  | nil => rfl
  | cons here later inductionHypothesis =>
    cases later with
    | nil => exact here
    | cons next rest =>
      rw [Bytes.join, Bytes.join, List.count_append, List.count_append, List.count_append,
        List.count_append, here, inductionHypothesis]

/-- Braces are counted line by line. -/
theorem braces_eq_of_forall₂ {text other : Bytes}
    (same : List.Forall₂ (fun line otherLine => otherLine.count openBrace = line.count openBrace ∧
      otherLine.count closeBrace = line.count closeBrace) (lines text) (lines other)) :
    braces other = braces text := by
  have sameOpening := count_join_eq_of_forall₂ (same.imp fun _ _ counts => counts.1)
  have sameClosing := count_join_eq_of_forall₂ (same.imp fun _ _ counts => counts.2)
  rw [lines, lines, Bytes.join_split, Bytes.join_split] at sameOpening sameClosing
  rw [braces, braces, sameOpening, sameClosing]

/-- White space around the lines of a text makes no difference to the result of checking it. -/
theorem content_eq_of_padded {text padded : Bytes}
    (isPadded : List.Forall₂ Padded (lines text) (lines padded)) (file : Bytes) :
    content file padded = content file text := by
  have sameBraces : braces padded = braces text :=
    braces_eq_of_forall₂ (isPadded.imp fun _ _ here =>
      ⟨here.count_eq (by decide), here.count_eq (by decide)⟩)
  have sameParentheses := parentheses_eq_of_alike (isPadded.imp fun _ _ => alike_of_padded)
  rw [content, content, sameBraces, sameParentheses, semicolons_eq_of_padded isPadded]

/-! ## Padding a text -/

/-- A white space character that does not end a line. -/
structure Filler where
  char : Char
  white : isWhiteSpace char = true
  ne_lineFeed : char ≠ '\n'

/-- What is put before and after a line. -/
structure Padding where
  before : List Filler
  after : List Filler

def spell (fillers : List Filler) : Bytes :=
  Utf8.encode (fillers.map Filler.char)

/-- The line with white space around it. -/
def Padding.around (padding : Padding) (line : Bytes) : Bytes :=
  spell padding.before ++ line ++ spell padding.after

/-- The text with white space around its lines, which may be different for each line. -/
def pad (paddings : Nat → Padding) (text : Bytes) : Bytes :=
  Bytes.join [lineFeed] ((lines text).mapIdx fun index line => (paddings index).around line)

/-- The text with a carriage return before every line feed. -/
def withCarriageReturns (text : Bytes) : Bytes :=
  text.flatMap fun b => if b = lineFeed then [Bytes.ascii '\r', lineFeed] else [b]

theorem isBlank_spell (fillers : List Filler) : IsBlank (spell fillers) :=
  ⟨fillers.map Filler.char, List.forall_mem_map.mpr fun filler _ => filler.white, rfl⟩

theorem lineFeed_not_mem_spell (fillers : List Filler) : lineFeed ∉ spell fillers := by
  intro member
  rcases List.mem_flatMap.mp member with ⟨c, listed, inside⟩
  rcases List.mem_map.mp listed with ⟨filler, _, rfl⟩
  have low : lineFeed.toNat = 10 := rfl
  have code := (Utf8.forall_mem_utf8EncodeChar _ _ inside).resolve_left (by omega)
  exact filler.ne_lineFeed (Char.toNat_inj.mp code.symm)

theorem lineFeed_not_mem_around (padding : Padding) {line : Bytes} (oneLine : lineFeed ∉ line) :
    lineFeed ∉ padding.around line := by
  simp only [Padding.around, List.mem_append, not_or]
  exact ⟨⟨lineFeed_not_mem_spell _, oneLine⟩, lineFeed_not_mem_spell _⟩

theorem padded_around (padding : Padding) (line : Bytes) : Padded line (padding.around line) :=
  ⟨_, _, isBlank_spell padding.before, isBlank_spell padding.after, rfl⟩

theorem forall₂_mapIdx (paddings : Nat → Padding) (lines : List Bytes) :
    List.Forall₂ Padded lines (lines.mapIdx fun index line => (paddings index).around line) := by
  induction lines generalizing paddings with
  | nil => exact .nil
  | cons line rest inductionHypothesis =>
    rw [List.mapIdx_cons]
    exact .cons (padded_around (paddings 0) line)
      (inductionHypothesis fun index => paddings (index + 1))

theorem lines_pad (paddings : Nat → Padding) (text : Bytes) :
    lines (pad paddings text) =
      (lines text).mapIdx fun index line => (paddings index).around line := by
  apply Bytes.split_join
  · intro empty
    exact Bytes.split_ne_nil lineFeed text (List.mapIdx_eq_nil_iff.mp empty)
  · intro padded member
    rcases List.mem_mapIdx.mp member with ⟨index, inside, rfl⟩
    apply lineFeed_not_mem_around
    exact Bytes.not_mem_of_mem_split (List.getElem_mem inside)

theorem forall₂_withCarriageReturns (text : Bytes) :
    List.Forall₂ PaddedAtEnd (lines text) (lines (withCarriageReturns text)) := by
  induction text with
  | nil => exact .cons ⟨[], Bytes.isBlank_nil, rfl⟩ .nil
  | cons b rest inductionHypothesis =>
    rw [withCarriageReturns, List.flatMap_cons, ← withCarriageReturns]
    by_cases feed : b = lineFeed
    · have cut : lines (lineFeed :: rest) = [] :: lines rest :=
        Bytes.split_append_cons List.not_mem_nil rest
      have oneLine : lineFeed ∉ [Bytes.ascii '\r'] := by
        decide
      have cutReturn : lines (Bytes.ascii '\r' :: lineFeed :: withCarriageReturns rest) =
          [Bytes.ascii '\r'] :: lines (withCarriageReturns rest) :=
        Bytes.split_append_cons oneLine _
      have blank : IsBlank [Bytes.ascii '\r'] := isBlank_spell [⟨'\r', rfl, by decide⟩]
      rw [if_pos feed, feed, cut, List.cons_append, List.singleton_append, cutReturn]
      exact .cons ⟨_, blank, rfl⟩ inductionHypothesis
    · rw [if_neg feed, List.singleton_append]
      cases pieces : lines rest with
      | nil => exact absurd pieces (Bytes.split_ne_nil lineFeed rest)
      | cons first others =>
        rw [pieces] at inductionHypothesis
        cases padded : lines (withCarriageReturns rest) with
        | nil => exact absurd padded (Bytes.split_ne_nil lineFeed _)
        | cons firstPadded othersPadded =>
          rw [padded] at inductionHypothesis
          cases inductionHypothesis with
          | cons here later =>
            rw [lines, Bytes.split_cons_of_ne feed pieces, lines,
              Bytes.split_cons_of_ne feed padded]
            exact .cons (here.cons b) later

/-- Any white space around the lines of a file, other than line feeds, leaves the result of checking
the file as it is. So do carriage returns before all line feeds. -/
theorem padding_changes_no_finding (file text : Bytes) :
    (∀ paddings : Nat → Padding,
      lines (pad paddings text) =
        ((lines text).mapIdx fun index line => (paddings index).around line) ∧
      content file (pad paddings text) = content file text) ∧
    content file (withCarriageReturns text) = content file text := by
  constructor
  · intro paddings
    refine ⟨lines_pad paddings text, content_eq_of_padded ?_ file⟩
    rw [lines_pad]
    exact forall₂_mapIdx paddings (lines text)
  · apply content_eq_of_padded
    exact (forall₂_withCarriageReturns text).imp fun _ _ => PaddedAtEnd.padded

/-- A return statement, and a function header that ends in the middle of an encoding. -/
def unpaddedText : Bytes :=
  utf8 "return 1\nfunction f(" ++ [0xE3, 0x80]

/-- An ideographic space before every line, and after it one more and a line separator. -/
def widePadding : Padding where
  before := [⟨'\u3000', by decide, by decide⟩]
  after := [⟨'\u3000', by decide, by decide⟩, ⟨'\u2028', by decide, by decide⟩]

theorem padding_unpaddedText :
    pad (fun _ => widePadding) unpaddedText ≠ unpaddedText ∧
    (content [] (pad (fun _ => widePadding) unpaddedText)).findings =
      [parenthesisFinding 2, semicolonFinding 1 (utf8 "return 1")] := by
  refine ⟨by decide, ?_⟩
  rw [((padding_changes_no_finding [] unpaddedText).1 _).2]
  decide

end Check
end PhpLint
