import PhpLint.Config.Read
import PhpLint.Proofs.Utf8

namespace PhpLint

/-!
# Texts of comments

In a text of comments every line begins with a number sign and ends with a line feed. The
reader of tokens skips all of it and finds the end of the text, so there is no document and
a configuration file with such a text has no settings.
-/

namespace Yaml

/-- Whether what is left of a text consists of comments, at the start of a line or inside of a
comment. -/
def areComments : (atStart : Bool) → List Char → Bool
  | atStart, [] => atStart
  | true, c :: rest => c == '#' && areComments false rest
  | false, c :: rest =>
    if c == '\n' then areComments true rest
    else isAllowed c && !isBreak c && areComments false rest

theorem areComments_append {atStart : Bool} {first second : List Char}
    (firstComments : areComments atStart first = true)
    (secondComments : areComments true second = true) :
    areComments atStart (first ++ second) = true := by
  fun_induction areComments atStart first with
  | case1 atStart =>
    rw [firstComments]
    exact secondComments
  | case2 c rest inductionHypothesis =>
    rw [Bool.and_eq_true] at firstComments
    rw [List.cons_append, areComments, firstComments.1, inductionHypothesis firstComments.2]
    rfl
  | case3 c rest lineEnds inductionHypothesis =>
    rw [List.cons_append, areComments, if_pos lineEnds, inductionHypothesis firstComments]
  | case4 c rest goesOn inductionHypothesis =>
    rw [Bool.and_eq_true] at firstComments
    rw [List.cons_append, areComments, if_neg goesOn, firstComments.1,
      inductionHypothesis firstComments.2]
    rfl

theorem all_isAllowed_of_areComments {atStart : Bool} {text : List Char}
    (comments : areComments atStart text = true) : text.all isAllowed = true := by
  fun_induction areComments atStart text with
  | case1 atStart => rfl
  | case2 c rest inductionHypothesis =>
    rw [Bool.and_eq_true, beq_iff_eq] at comments
    rw [List.all_cons, inductionHypothesis comments.2, comments.1]
    rfl
  | case3 c rest lineEnds inductionHypothesis =>
    rw [List.all_cons, inductionHypothesis comments, beq_iff_eq.mp lineEnds]
    rfl
  | case4 c rest goesOn inductionHypothesis =>
    rw [Bool.and_eq_true, Bool.and_eq_true] at comments
    rw [List.all_cons, inductionHypothesis comments.2, comments.1.1]
    rfl

/-- A text of comments is empty or begins with a comment. -/
theorem areComments_true_cases {text : List Char} (comments : areComments true text = true) :
    text = [] ∨ ∃ rest, text = '#' :: rest ∧ areComments false rest = true := by
  cases text with
  | nil => exact Or.inl rfl
  | cons c rest =>
    rw [areComments, Bool.and_eq_true, beq_iff_eq] at comments
    exact Or.inr ⟨rest, by rw [comments.1], comments.2⟩

/-- After a comment there is a line feed, and then come further comments. -/
theorem dropWhile_of_areComments {text : List Char} (comments : areComments false text = true) :
    ∃ rest, text.dropWhile (fun c => !isBreak c) = '\n' :: rest ∧
      areComments true rest = true ∧ rest.length < text.length := by
  induction text with
  | nil => cases comments
  | cons c others inductionHypothesis =>
    rw [areComments] at comments
    split at comments
    next lineEnds =>
      refine ⟨others, ?_, comments, Nat.lt_succ_self _⟩
      rw [beq_iff_eq.mp lineEnds]
      rfl
    next =>
      rw [Bool.and_eq_true, Bool.and_eq_true] at comments
      rcases inductionHypothesis comments.2 with ⟨rest, dropped, restComments, shorter⟩
      refine ⟨rest, ?_, restComments, Nat.lt_succ_of_lt shorter⟩
      rw [List.dropWhile_cons, if_pos comments.1.2, dropped]

/-! ## Skipping -/

theorem Cursor.skipWhile_rest (cursor : Cursor) (test : Char → Bool) :
    (cursor.skipWhile test).rest = cursor.rest.dropWhile test := by
  have parts : cursor.rest.takeWhile test ++ cursor.rest.dropWhile test = cursor.rest :=
    List.takeWhile_append_dropWhile
  calc (cursor.skipWhile test).rest
      = (cursor.rest.takeWhile test ++ cursor.rest.dropWhile test).drop
          (cursor.rest.takeWhile test).length := by rw [parts]; rfl
    _ = cursor.rest.dropWhile test := List.drop_left

theorem Cursor.skipBreak_rest {cursor : Cursor} {rest : List Char}
    (atFeed : cursor.rest = '\n' :: rest) : cursor.skipBreak.rest = rest := by
  rw [skipBreak, atFeed]
  rfl

namespace TokenReader

theorem nextComment?_of_end {fuel : Nat} {cursor : Cursor} (atEnd : cursor.rest = []) :
    nextComment? fuel cursor = none := by
  cases fuel with
  | zero => rfl
  | succ fuel => simp [nextComment?, Cursor.atBreak, Cursor.head?, atEnd]

theorem atBreak_of_feed {cursor : Cursor} {rest : List Char} (atFeed : cursor.rest = '\n' :: rest) :
    cursor.atBreak = true := by
  rw [Cursor.atBreak, Cursor.head?, atFeed]
  rfl

theorem nextComment?_of_last {fuel : Nat} {cursor : Cursor} (atFeed : cursor.rest = ['\n']) :
    nextComment? fuel cursor = none := by
  cases fuel with
  | zero => rfl
  | succ fuel =>
    have next : (cursor.skipBreak.skipWhile isBlank).rest = [] := by
      rw [Cursor.skipWhile_rest, Cursor.skipBreak_rest atFeed]
      rfl
    have notAt : (cursor.skipBreak.skipWhile isBlank).isAt '#' = false := by
      rw [Cursor.isAt, Cursor.head?, next]
      rfl
    simp only [nextComment?, atBreak_of_feed atFeed, notAt, if_true, Bool.false_eq_true, if_false]
    exact nextComment?_of_end next

theorem nextComment?_of_comment {fuel : Nat} {cursor : Cursor} {text : List Char}
    (atFeed : cursor.rest = '\n' :: '#' :: text) :
    ∃ next, nextComment? (fuel + 1) cursor = some next ∧ next.rest = '#' :: text := by
  have next : (cursor.skipBreak.skipWhile isBlank).rest = '#' :: text := by
    rw [Cursor.skipWhile_rest, Cursor.skipBreak_rest atFeed]
    rfl
  have isAt : (cursor.skipBreak.skipWhile isBlank).isAt '#' = true := by
    rw [Cursor.isAt, Cursor.head?, next]
    rfl
  refine ⟨_, ?_, next⟩
  simp only [nextComment?, atBreak_of_feed atFeed, isAt, if_true]

/-- Skipping comments leaves the last line feed. Each step skips one comment, and the fuel is more
than there are characters. -/
theorem skipComments_rest {fuel : Nat} {cursor : Cursor} {text : List Char}
    (atComment : cursor.rest = '#' :: text) (comments : areComments false text = true)
    (enough : text.length < fuel) : (skipComments fuel cursor).rest = ['\n'] := by
  induction fuel generalizing cursor text with
  | zero => exact absurd enough (Nat.not_lt_zero _)
  | succ fuel inductionHypothesis =>
    rcases dropWhile_of_areComments comments with ⟨rest, dropped, restComments, shorter⟩
    have lineEnd : cursor.skipComment.rest = '\n' :: rest := by
      have isAt : cursor.isAt '#' = true := by simp [Cursor.isAt, Cursor.head?, atComment]
      rw [Cursor.skipComment, if_pos isAt, Cursor.skipWhile_rest, atComment,
        List.dropWhile_cons_of_pos rfl, dropped]
    rw [skipComments]
    rcases areComments_true_cases restComments with rfl | ⟨further, rfl, furtherComments⟩
    · rw [nextComment?_of_last lineEnd]
      exact lineEnd
    · rw [List.length_cons] at shorter
      obtain ⟨less, rfl⟩ : ∃ less, fuel = less + 1 := ⟨fuel - 1, by omega⟩
      rcases nextComment?_of_comment lineEnd with ⟨next, found, atNext⟩
      rw [found]
      exact inductionHypothesis atNext furtherComments (by omega)

theorem skipToToken_of_end {fuel : Nat} {keyAllowed : Bool} {cursor : Cursor}
    (atEnd : cursor.rest = []) : (skipToToken false fuel keyAllowed cursor).2.rest = [] := by
  cases fuel with
  | zero => exact atEnd
  | succ fuel =>
    simp [skipToToken, Cursor.isAt, Cursor.head?, Cursor.atBreak, Cursor.skipWhile_rest, atEnd]

/-- Comments are skipped to the end of the text. -/
theorem skipToToken_of_areComments {fuel : Nat} {keyAllowed : Bool} {cursor : Cursor}
    (comments : areComments true cursor.rest = true) (enough : cursor.rest.length < fuel) :
    (skipToToken false fuel keyAllowed cursor).2.rest = [] := by
  rcases areComments_true_cases comments with atEnd | ⟨text, atComment, textComments⟩
  · exact skipToToken_of_end atEnd
  · rw [atComment, List.length_cons] at enough
    obtain ⟨less, rfl⟩ : ∃ less, fuel = less + 1 := ⟨fuel - 1, by omega⟩
    have notMark : cursor.isAt byteOrderMark = false := by
      rw [Cursor.isAt, Cursor.head?, atComment]
      rfl
    have unindented : (cursor.skipWhile fun c =>
        c == ' ' || (c == '\t' && (false || !keyAllowed))).rest = '#' :: text := by
      rw [Cursor.skipWhile_rest, atComment]
      rfl
    have isAt : (cursor.skipWhile fun c =>
        c == ' ' || (c == '\t' && (false || !keyAllowed))).isAt '#' = true := by
      rw [Cursor.isAt, Cursor.head?, unindented]
      rfl
    have skipped := skipComments_rest unindented textComments (Nat.lt_of_succ_lt_succ enough)
    simp only [skipToToken, notMark, Bool.and_false, Bool.false_eq_true, if_false, isAt, if_true,
      atBreak_of_feed skipped]
    exact skipToToken_of_end (Cursor.skipBreak_rest skipped)

/-- At the end of a text without any tokens the end is the only token. -/
theorem step_of_end {fuel : Nat} {cursor : Cursor}
    (atEnd : (skipToToken false fuel true cursor).2.rest = []) :
    (step fuel { cursor := cursor }).map TokenReader.tokens =
      some [⟨.streamEnd, (skipToToken false fuel true cursor).2.line⟩] := by
  have noHead : (skipToToken false fuel true cursor).2.head? = none := by
    rw [Cursor.head?, atEnd]
    rfl
  have outside : TokenReader.inFlow { cursor := cursor } = false := rfl
  simp only [step, outside, noHead]
  rfl

end TokenReader

/-- The only token of a text of comments is its end. -/
theorem tokens_of_areComments {text : List Char} (comments : areComments true text = true) :
    ∃ line, tokens { chars := text } = [⟨.streamEnd, line⟩] := by
  have enough : text.length < text.length + 2 := Nat.lt_add_of_pos_right Nat.two_pos
  have atEnd : (TokenReader.skipToToken false (text.length + 2) true ⟨text, 0, 0, 0⟩).2.rest = [] :=
    TokenReader.skipToToken_of_areComments comments enough
  rcases Option.map_eq_some_iff.mp (TokenReader.step_of_end atEnd) with ⟨next, stepped, tokens_eq⟩
  have all : tokens { chars := text } = next.tokens := by
    rw [tokens, TokenReader.run, stepped]
    simp [tokens_eq]
  exact ⟨_, all.trans tokens_eq⟩

/-! ## The bytes of comments -/

theorem breakOff?_eq_none {place : BlockPlace} {letters : List Letter}
    (allowed : ∀ letter ∈ letters, letter.char?.isSome) : breakOff? place letters = none := by
  induction letters generalizing place with
  | nil => rfl
  | cons letter rest inductionHypothesis =>
    rcases letter with ⟨_ | c, width⟩
    · exact absurd (allowed _ List.mem_cons_self) Bool.false_ne_true
    · rw [breakOff?]
      exact inductionHypothesis fun other member => allowed other (List.mem_cons_of_mem _ member)

/-- An encoded text is read to its end if all of its characters are allowed and it does not begin
like a byte order mark. -/
theorem Source.ofBytes_encode {text : List Char}
    (noMark : Encoding.ofMark? (Utf8.encode text) = none)
    (allowed : text.all isAllowed = true) : Source.ofBytes (Utf8.encode text) = ⟨text, true⟩ := by
  have letters : Encoding.utf8.letters (Utf8.encode text) =
      text.map fun c => ⟨some c, (String.utf8EncodeChar c).length⟩ := by
    rw [Encoding.letters, Utf8.pieces_encode, List.map_map]
    apply List.map_congr_left
    intro c member
    simp [utf8Letter, Letter.ofChar, List.all_eq_true.mp allowed c member]
  have whole (place : BlockPlace) :
      breakOff? place (Encoding.utf8.letters (Utf8.encode text)) = none := by
    apply breakOff?_eq_none
    rw [letters]
    intro letter member
    rcases List.mem_map.mp member with ⟨c, _, rfl⟩
    rfl
  have chars : (Encoding.utf8.letters (Utf8.encode text)).filterMap Letter.char? = text := by
    rw [letters, List.filterMap_map]
    exact List.filterMap_some
  simp only [Source.ofBytes, noMark, Option.map_none, Option.getD_none, List.length_nil,
    List.drop_zero, whole, chars]

/-- There is no document in a text of comments. -/
theorem readDocument_of_areComments {text : List Char} (comments : areComments true text = true) :
    readDocument (Utf8.encode text) = some none := by
  have noMark : Encoding.ofMark? (Utf8.encode text) = none := by
    rcases areComments_true_cases comments with rfl | ⟨rest, rfl, -⟩
    · rfl
    · rfl
  rcases tokens_of_areComments comments with ⟨line, only⟩
  have source := Source.ofBytes_encode noMark (all_isAllowed_of_areComments comments)
  rw [readDocument, source]
  simp only [only]
  rfl

end Yaml

/-- A configuration file of comments has no settings. -/
theorem Config.decode_of_areComments {text : String}
    (comments : Yaml.areComments true text.toList = true) : decode (utf8 text) = ({}, none) := by
  have bytes : utf8 text = Utf8.encode text.toList := rfl
  unfold decode
  rw [bytes, Yaml.readDocument_of_areComments comments]

end PhpLint
