import PhpLint.Proofs.JsonReader
import PhpLint.Proofs.Utf8

namespace PhpLint
namespace Json

/-!
# Rendered documents read back

A rendered document is well-formed JSON and reads back as the document itself, except
that a stray byte of a text is read as the replacement character.  Texts are read back
one written character at a time.  Arrays and objects are both lists of items on lines
of their own, so one argument over a reader of items serves them both.
-/

/-! ## Texts -/

theorem readText_eq_readText_drop (skip : Nat) (bytes : Bytes) :
    readText skip bytes = readText 0 (bytes.drop skip) := by
  induction bytes generalizing skip with
  | nil => rw [List.drop_nil, readText, readText]
  | cons b rest inductionHypothesis =>
    cases skip with
    | zero => rfl
    | succ skip => rw [readText, inductionHypothesis, List.drop_succ_cons]

/-- What is read when some bytes of a text stand in front of the text that remains. -/
def prepend (front : Bytes) : Option (Bytes × Bytes) → Option (Bytes × Bytes) :=
  Option.map fun (content, rest) => (front ++ content, rest)

theorem readText_escape {c : Char} {escape : Bytes} {width : Nat} {rest : Bytes}
    (reads : escape? (escape ++ rest) = some (c, width)) (whole : width = escape.length) :
    readText 0 (Quoted.backslash :: escape ++ rest) =
      prepend (String.utf8EncodeChar c) (readText 0 rest) := by
  rw [List.cons_append, readText, if_neg (by decide), if_pos rfl, reads]
  dsimp only
  rw [readText_eq_readText_drop, whole, List.drop_left]
  rfl

theorem readText_letter {escape : Bytes} {c : Char} (letter : UInt8)
    (spelled : escape = [Quoted.backslash, letter]) (notUnit : letter ≠ Bytes.ascii 'u')
    (stands : escaped? letter = some c) (rest : Bytes) :
    readText 0 (escape ++ rest) = prepend (String.utf8EncodeChar c) (readText 0 rest) := by
  have reads : escape? ([letter] ++ rest) = some (c, 1) := by
    rw [List.singleton_append, escape?, if_neg notUnit, stands]
    rfl
  rw [spelled]
  exact readText_escape reads rfl

theorem readText_unicodeEscape (c : Char) (small : c.toNat < 0xD800) (rest : Bytes) :
    readText 0 (unicodeEscape c.toNat ++ rest) =
      prepend (String.utf8EncodeChar c) (readText 0 rest) := by
  have spelled : utf8 "\\u" = [Quoted.backslash, Bytes.ascii 'u'] := by decide
  have reads : escape? (Bytes.ascii 'u' :: Quoted.hexDigits 4 c.toNat ++ rest) = some (c, 5) := by
    rw [List.cons_append, escape?, if_pos rfl,
      Quoted.number?_hexDigits (by decide) (by omega)]
    simp only [Option.map_some, unitChar, small, decide_true, Bool.true_or, if_true,
      Char.ofNat_toNat]
  have whole : 5 = (Bytes.ascii 'u' :: Quoted.hexDigits 4 c.toNat).length := by
    rw [List.length_cons, Quoted.length_hexDigits]
  rw [unicodeEscape, spelled]
  exact readText_escape reads whole

/-- Bytes of a text that stand for themselves. -/
def IsLiteral (b : UInt8) : Prop :=
  b ≠ Quoted.quote ∧ b ≠ Quoted.backslash ∧ ¬ b < 0x20

theorem readText_literal (front rest : Bytes) (literal : ∀ b ∈ front, IsLiteral b) :
    readText 0 (front ++ rest) = prepend front (readText 0 rest) := by
  induction front with
  | nil =>
    rw [List.nil_append]
    exact Option.map_id'.symm
  | cons b front inductionHypothesis =>
    rcases literal b List.mem_cons_self with ⟨notQuote, notBackslash, notControl⟩
    rw [List.cons_append, readText, if_neg notQuote, if_neg notBackslash, if_neg notControl,
      inductionHypothesis fun b member => literal b (List.mem_cons_of_mem _ member), prepend,
      Option.map_map, prepend]
    rfl

theorem isLiteral_of_mem_utf8EncodeChar {c : Char} (notControl : 0x20 ≤ c.toNat)
    (notQuote : c ≠ '"') (notBackslash : c ≠ '\\') :
    ∀ b ∈ String.utf8EncodeChar c, IsLiteral b := by
  intro b member
  have code := Utf8.forall_mem_utf8EncodeChar c b member
  refine ⟨?_, ?_, ?_⟩
  · rintro rfl
    have low : Quoted.quote.toNat < 0x80 := by decide
    exact notQuote (Char.toNat_inj.mp (code.resolve_left (by omega)).symm)
  · rintro rfl
    have low : Quoted.backslash.toNat < 0x80 := by decide
    exact notBackslash (Char.toNat_inj.mp (code.resolve_left (by omega)).symm)
  · rw [UInt8.lt_iff_toNat_lt]
    have number : (0x20 : UInt8).toNat = 0x20 := rfl
    omega

/-- A character is read back from the form in which it is written. -/
theorem readText_encodeChar (c : Char) (rest : Bytes) :
    readText 0 (encodeChar c ++ rest) = prepend (String.utf8EncodeChar c) (readText 0 rest) := by
  unfold encodeChar
  simp only [Bool.or_eq_true, decide_eq_true_eq]
  split_ifs with marked backspace formFeed lineFeed carriageReturn tab special
  · rcases marked with rfl | rfl
    · exact readText_letter (Bytes.ascii '"') rfl (by decide) rfl rest
    · exact readText_letter (Bytes.ascii '\\') rfl (by decide) rfl rest
  · rcases (Char.toNat_inj (d := Char.ofNat 0x08)).mp backspace with rfl
    exact readText_letter (Bytes.ascii 'b') (by decide) (by decide) rfl rest
  · rcases (Char.toNat_inj (d := Char.ofNat 0x0C)).mp formFeed with rfl
    exact readText_letter (Bytes.ascii 'f') (by decide) (by decide) rfl rest
  · rcases (Char.toNat_inj (d := Char.ofNat 0x0A)).mp lineFeed with rfl
    exact readText_letter (Bytes.ascii 'n') (by decide) (by decide) rfl rest
  · rcases (Char.toNat_inj (d := Char.ofNat 0x0D)).mp carriageReturn with rfl
    exact readText_letter (Bytes.ascii 'r') (by decide) (by decide) rfl rest
  · rcases (Char.toNat_inj (d := Char.ofNat 0x09)).mp tab with rfl
    exact readText_letter (Bytes.ascii 't') (by decide) (by decide) rfl rest
  · have small : c.toNat < 0xD800 := by
      rcases special with (((((low | rfl) | rfl) | rfl) | code) | code)
      · omega
      · decide
      · decide
      · decide
      · omega
      · omega
    exact readText_unicodeEscape c small rest
  · exact readText_literal _ rest (isLiteral_of_mem_utf8EncodeChar (by omega)
      (fun quote => marked (.inl quote)) (fun backslash => marked (.inr backslash)))

/-- A written text is read back up to its stray bytes. -/
theorem readText_encodeText (content rest : Bytes) :
    readText 0 ((Utf8.chars content).flatMap encodeChar ++ [Quoted.quote] ++ rest) =
      some (Utf8.readable content, rest) := by
  rw [Utf8.readable]
  induction Utf8.chars content with
  | nil => rfl
  | cons c others inductionHypothesis =>
    rw [List.flatMap_cons, List.append_assoc, List.append_assoc, readText_encodeChar,
      ← List.append_assoc, inductionHypothesis]
    rfl

/-! ## Numbers -/

/-- What follows does not go on with a number. -/
def Delimited (rest : Bytes) : Prop :=
  ∀ b ∈ rest.head?, Numeral.isDecimalDigit b = false

theorem delimited_newLine (level : Nat) (rest : Bytes) : Delimited (newLine level ++ rest) := by
  intro b first
  cases first
  decide

theorem ne_of_isDecimalDigit {b other : UInt8} (isDigit : Numeral.isDecimalDigit b = true)
    (notDigit : Numeral.isDecimalDigit other = false) : b ≠ other := by
  rintro rfl
  rw [isDigit] at notDigit
  cases notDigit

theorem readNumber_decimal (n : Nat) {rest : Bytes} (delimited : Delimited rest) :
    readNumber (decimal n ++ rest) = some (.number n, rest) := by
  have digits := decimal_all_digits n
  have ends : rest.takeWhile Numeral.isDecimalDigit = [] ∧
      rest.dropWhile Numeral.isDecimalDigit = rest := by
    cases rest with
    | nil => exact ⟨rfl, rfl⟩
    | cons b rest =>
      have notDigit : ¬ Numeral.isDecimalDigit b = true := by
        rw [delimited b rfl]
        decide
      exact ⟨List.takeWhile_cons_of_neg notDigit, List.dropWhile_cons_of_neg notDigit⟩
  rcases decimal_eq_cons n with ⟨first, others, written, noZero⟩
  have accepted : ¬ (decimal n = [] ∨
      (decimal n).head? = some (Bytes.ascii '0') ∧ decimal n ≠ [Bytes.ascii '0']) := by
    rw [written, List.head?_cons, Option.some.injEq]
    rintro (empty | ⟨zero, more⟩)
    · cases empty
    · exact more (by rw [zero, noZero zero])
  simp only [readNumber]
  rw [List.takeWhile_append_of_pos digits, List.dropWhile_append_of_pos digits, ends.1, ends.2,
    List.append_nil, value_decimal]
  simp only [Bool.or_eq_true, Bool.and_eq_true, List.isEmpty_iff, decide_eq_true_eq]
  rw [if_neg accepted]

/-! ## Items between brackets -/

theorem skipBlanks_cons {b : UInt8} (notBlank : isBlank b = false) (rest : Bytes) :
    skipBlanks (b :: rest) = b :: rest :=
  List.dropWhile_cons_of_neg (by rw [notBlank]; decide)

theorem skipBlanks_newLine (level : Nat) (rest : Bytes) :
    skipBlanks (newLine level ++ rest) = skipBlanks rest := by
  have blanks : ∀ b ∈ newLine level, isBlank b = true := by
    intro b member
    rcases List.mem_append.mp member with lineFeed | space
    · rw [List.mem_singleton.mp (show b ∈ [0x0A] from lineFeed)]
      decide
    · rw [List.eq_of_mem_replicate space]
      decide
  exact List.dropWhile_append_of_pos blanks

section Items

variable {α β : Type} {item : Bytes → Option (α × Bytes)} {close : UInt8}
variable {spell : β → Bytes} {result : β → α}

/-- What the reader of a list needs to know of an item: it begins with a byte that is neither
blank nor the end of the list, and it is read back whatever follows it. -/
structure Found (item : Bytes → Option (α × Bytes)) (close : UInt8) (spell : β → Bytes)
    (result : β → α) (x : β) : Prop where
  begins : ∃ b others, spell x = b :: others ∧ isBlank b = false ∧ b ≠ close
  reads : ∀ rest, Delimited rest → item (spell x ++ rest) = some (result x, rest)

/-- The items after the first one, each on its own line. -/
def spellOthers (level : Nat) (spell : β → Bytes) (others : List β) : Bytes :=
  others.flatMap fun x => utf8 "," ++ newLine level ++ spell x

theorem skipBlanks_spell {x : β} (found : Found item close spell result x) (rest : Bytes) :
    skipBlanks (spell x ++ rest) = spell x ++ rest := by
  rcases found.begins with ⟨b, others, spelled, notBlank, _⟩
  rw [spelled, List.cons_append, skipBlanks_cons notBlank]

theorem spellOthers_cons (level : Nat) (spell : β → Bytes) (x : β) (others : List β) :
    spellOthers level spell (x :: others) =
      Bytes.ascii ',' :: (newLine level ++ (spell x ++ spellOthers level spell others)) := by
  have comma : utf8 "," = [Bytes.ascii ','] := by decide
  rw [spellOthers, List.flatMap_cons, comma, List.append_assoc, List.append_assoc]
  rfl

theorem length_le_length_spellOthers (level : Nat) (spell : β → Bytes) (others : List β) :
    others.length ≤ (spellOthers level spell others).length := by
  induction others with
  | nil => exact Nat.le_refl 0
  | cons x others inductionHypothesis =>
    rw [spellOthers_cons]
    simp only [List.length_cons, List.length_append]
    omega

theorem length_spell_le (level : Nat) (spell : β → Bytes) (first : β) (others : List β) {x : β}
    (member : x ∈ first :: others) :
    (spell x).length ≤ (spell first ++ spellOthers level spell others).length := by
  rw [List.length_append]
  rcases List.mem_cons.mp member with rfl | later
  · exact Nat.le_add_right _ _
  · induction others with
    | nil => cases later
    | cons next others inductionHypothesis =>
      rw [spellOthers_cons]
      simp only [List.length_cons, List.length_append]
      rcases List.mem_cons.mp later with rfl | later
      · omega
      · have below := inductionHypothesis (List.mem_cons_of_mem _ later) later
        omega

theorem readItems_spelled (level outer : Nat) (notBlank : isBlank close = false)
    (notComma : Bytes.ascii ',' ≠ close) (first : β) (others : List β)
    (found : ∀ x ∈ first :: others, Found item close spell result x) (rest : Bytes)
    (count : Nat) (enough : others.length < count) :
    readItems item close count
        (spell first ++ (spellOthers level spell others ++ (newLine outer ++ close :: rest))) =
      some ((first :: others).map result, rest) := by
  induction others generalizing first count with
  | nil =>
    rcases Nat.exists_eq_add_one_of_ne_zero (Nat.ne_zero_of_lt enough) with ⟨count, rfl⟩
    have firstRead := (found first List.mem_cons_self).reads
      (newLine outer ++ close :: rest) (delimited_newLine outer _)
    rw [spellOthers, List.flatMap_nil, List.nil_append, readItems, firstRead]
    dsimp only
    rw [skipBlanks_newLine, skipBlanks_cons notBlank]
    simp only [if_pos, List.map_cons, List.map_nil]
  | cons next others inductionHypothesis =>
    rcases Nat.exists_eq_add_one_of_ne_zero (Nat.ne_zero_of_lt enough) with ⟨count, rfl⟩
    have foundOthers : ∀ x ∈ next :: others, Found item close spell result x :=
      fun x member => found x (List.mem_cons_of_mem _ member)
    have delimited (rest : Bytes) : Delimited (Bytes.ascii ',' :: rest) := by
      intro b comma
      cases comma
      decide
    have firstRead := (found first List.mem_cons_self).reads _ (delimited
      (newLine level ++ (spell next ++ (spellOthers level spell others ++
        (newLine outer ++ close :: rest)))))
    have othersRead := inductionHypothesis next foundOthers count (Nat.lt_of_succ_lt_succ enough)
    rw [spellOthers_cons, List.cons_append, List.append_assoc, List.append_assoc, readItems,
      firstRead]
    dsimp only
    rw [skipBlanks_cons (by decide)]
    dsimp only
    rw [if_neg notComma, if_pos rfl, skipBlanks_newLine,
      skipBlanks_spell (foundOthers next List.mem_cons_self), othersRead]
    rfl

/-- A list on several lines is read back from what follows its opening bracket. -/
theorem readEnclosed_spelled (level outer : Nat) (notBlank : isBlank close = false)
    (notComma : Bytes.ascii ',' ≠ close) (first : β) (others : List β)
    (found : ∀ x ∈ first :: others, Found item close spell result x) (rest : Bytes) :
    readEnclosed item close (newLine level ++
        (spell first ++ (spellOthers level spell others ++ (newLine outer ++ close :: rest)))) =
      some ((first :: others).map result, rest) := by
  have foundFirst := found first List.mem_cons_self
  rcases foundFirst.begins with ⟨b, tail, spelled, _, notClose⟩
  have itemsRead := readItems_spelled level outer notBlank notComma first others found rest
    (spell first ++ (spellOthers level spell others ++ (newLine outer ++ close :: rest))).length
    (by
      have fewer := length_le_length_spellOthers level spell others
      simp only [spelled, List.length_append, List.length_cons]
      omega)
  rw [readEnclosed, skipBlanks_newLine, skipBlanks_spell foundFirst]
  rw [spelled, List.cons_append] at itemsRead ⊢
  dsimp only
  rw [if_neg notClose, itemsRead]

end Items

/-! ## Documents -/

theorem sizeOf_value_lt {members : List (Bytes × Json)} {member : Bytes × Json}
    (isMember : member ∈ members) : sizeOf member.2 < sizeOf members := by
  have below := List.sizeOf_lt_of_mem isMember
  have part : sizeOf member = 1 + sizeOf member.1 + sizeOf member.2 := rfl
  omega

/-- To prove a property of every document, prove it for arrays and objects from their parts. -/
theorem induction_on_parts {motive : Json → Prop}
    (boolean : ∀ value, motive (.boolean value)) (number : ∀ value, motive (.number value))
    (text : ∀ value, motive (.text value))
    (array : ∀ elements, (∀ element ∈ elements, motive element) → motive (.array elements))
    (object : ∀ members, (∀ member ∈ members, motive member.2) → motive (.object members)) :
    ∀ json, motive json
  | .boolean value => boolean value
  | .number value => number value
  | .text value => text value
  | .array elements => array elements fun element isElement =>
    have : sizeOf element < sizeOf elements := List.sizeOf_lt_of_mem isElement
    induction_on_parts boolean number text array object element
  | .object members => object members fun member isMember =>
    have : sizeOf member.2 < sizeOf members := sizeOf_value_lt isMember
    induction_on_parts boolean number text array object member.2

/-- The document with the stray bytes of its texts replaced. -/
def readable : Json → Json
  | .boolean value => .boolean value
  | .number value => .number value
  | .text value => .text (Utf8.readable value)
  | .array elements => .array (elements.map fun element => element.readable)
  | .object members =>
    .object (members.map fun member => (Utf8.readable member.1, member.2.readable))
termination_by json => sizeOf json
decreasing_by
  · have below := List.sizeOf_lt_of_mem ‹element ∈ elements›
    rw [array.sizeOf_spec]
    omega
  · have below := sizeOf_value_lt ‹member ∈ members›
    rw [object.sizeOf_spec]
    omega

theorem renderElements_eq (level : Nat) (elements : List Json) :
    renderElements level elements = spellOthers level (render level) elements := by
  induction elements with
  | nil => rfl
  | cons element elements inductionHypothesis =>
    rw [renderElements, inductionHypothesis, spellOthers, spellOthers, List.flatMap_cons]

theorem renderMembers_eq (level : Nat) (members : List (Bytes × Json)) :
    renderMembers level members = spellOthers level (renderMember level) members := by
  induction members with
  | nil => rfl
  | cons member members inductionHypothesis =>
    rw [renderMembers, inductionHypothesis, spellOthers, spellOthers, List.flatMap_cons]

/-- The first byte tells a value from a blank and from the end of an array or object. -/
theorem render_begins (level : Nat) (json : Json) :
    ∃ b others, render level json = b :: others ∧ isBlank b = false ∧
      b ≠ Bytes.ascii ']' ∧ b ≠ Bytes.ascii '\x7d' := by
  cases json with
  | boolean value =>
    cases value with
    | false => exact ⟨_, utf8 "alse", rfl, by decide, by decide, by decide⟩
    | true => exact ⟨_, utf8 "rue", rfl, by decide, by decide, by decide⟩
  | number value =>
    rcases decimal_eq_cons value with ⟨first, others, written, _⟩
    have isDigit := decimal_all_digits value first (by rw [written]; exact List.mem_cons_self)
    have differs := fun other : UInt8 => @ne_of_isDecimalDigit first other isDigit
    have notBlank : isBlank first = false := by
      simp only [isBlank, Bool.or_eq_false_iff, decide_eq_false_iff_not]
      exact ⟨⟨⟨differs _ (by decide), differs _ (by decide)⟩, differs _ (by decide)⟩,
        differs _ (by decide)⟩
    exact ⟨first, others, written, notBlank, differs _ (by decide), differs _ (by decide)⟩
  | text value => exact ⟨Quoted.quote, _, rfl, by decide, by decide, by decide⟩
  | array elements =>
    cases elements with
    | nil => exact ⟨Bytes.ascii '[', utf8 "]", rfl, by decide, by decide, by decide⟩
    | cons first others =>
      exact ⟨Bytes.ascii '[', _, rfl, by decide, by decide, by decide⟩
  | object members =>
    cases members with
    | nil => exact ⟨Bytes.ascii '\x7b', utf8 "\x7d", rfl, by decide, by decide, by decide⟩
    | cons first others =>
      exact ⟨Bytes.ascii '\x7b', _, rfl, by decide, by decide, by decide⟩

section Values

variable {fuel level : Nat}

/-- What is shown of a document by induction: it is read back with some fuel, whatever does
not go on with a number follows it. -/
def IsRead (fuel level : Nat) (json : Json) : Prop :=
  ∀ rest, Delimited rest → readValue fuel (render level json ++ rest) = some (json.readable, rest)

theorem IsRead.found {json : Json} (isRead : IsRead fuel level json) :
    Found (readValue fuel) (Bytes.ascii ']') (render level) readable json := by
  rcases render_begins level json with ⟨b, others, spelled, notBlank, notClose, _⟩
  exact ⟨⟨b, others, spelled, notBlank, notClose⟩, isRead⟩

theorem readMember_renderMember {name : Bytes} {json : Json} (isRead : IsRead fuel level json)
    {rest : Bytes} (delimited : Delimited rest) :
    readMember (readValue fuel) (renderMember level (name, json) ++ rest) =
      some ((Utf8.readable name, json.readable), rest) := by
  have colon : utf8 ": " = [Bytes.ascii ':', Bytes.ascii ' '] := by decide
  have valueRead : (readValue fuel (skipBlanks (Bytes.ascii ' ' :: (render level json ++ rest)))) =
      some (json.readable, rest) := by
    have skipped : skipBlanks (Bytes.ascii ' ' :: (render level json ++ rest)) =
        skipBlanks (render level json ++ rest) := rfl
    rw [skipped, skipBlanks_spell isRead.found]
    exact isRead rest delimited
  have nameRead := readText_encodeText name
    ([Bytes.ascii ':', Bytes.ascii ' '] ++ (render level json ++ rest))
  simp only [renderMember, encodeText, colon, List.append_assoc, List.cons_append,
    List.nil_append] at nameRead ⊢
  rw [readMember, if_pos rfl, nameRead, Option.bind_some]
  dsimp only
  rw [skipBlanks_cons (by decide)]
  have afterColon : Bytes.after? (utf8 ":")
      (Bytes.ascii ':' :: Bytes.ascii ' ' :: (render level json ++ rest)) =
        some (Bytes.ascii ' ' :: (render level json ++ rest)) := rfl
  rw [afterColon, Option.bind_some, valueRead]
  rfl

theorem IsRead.foundMember {name : Bytes} {json : Json} (isRead : IsRead fuel level json) :
    Found (readMember (readValue fuel)) (Bytes.ascii '\x7d') (renderMember level)
      (fun member => (Utf8.readable member.1, member.2.readable)) (name, json) where
  begins := ⟨Quoted.quote, _, rfl, by decide, by decide⟩
  reads _ delimited := readMember_renderMember isRead delimited

theorem isRead_array {first : Json} {others : List Json}
    (parts : ∀ element ∈ first :: others, IsRead fuel (level + 1) element) :
    IsRead (fuel + 1) level (.array (first :: others)) := by
  intro rest _
  have enclosed := readEnclosed_spelled (level + 1) level (by decide) (by decide) first others
    (fun element isElement => (parts element isElement).found) rest
  have opened : utf8 "[" = [Bytes.ascii '['] := by decide
  have closed : utf8 "]" = [Bytes.ascii ']'] := by decide
  rw [render, renderElements_eq, opened, closed]
  simp only [List.append_assoc, List.cons_append, List.nil_append]
  rw [readValue, if_neg (by decide), if_pos rfl, enclosed, readable]
  rfl

theorem isRead_object {first : Bytes × Json} {others : List (Bytes × Json)}
    (parts : ∀ member ∈ first :: others, IsRead fuel (level + 1) member.2) :
    IsRead (fuel + 1) level (.object (first :: others)) := by
  intro rest _
  have enclosed := readEnclosed_spelled (level + 1) level (by decide) (by decide) first others
    (fun member isMember => (parts member isMember).foundMember) rest
  have opened : utf8 "\x7b" = [Bytes.ascii '\x7b'] := by decide
  have closed : utf8 "\x7d" = [Bytes.ascii '\x7d'] := by decide
  rw [render, renderMembers_eq, opened, closed]
  simp only [List.append_assoc, List.cons_append, List.nil_append]
  rw [readValue, if_neg (by decide), if_neg (by decide), if_pos rfl, enclosed, readable]
  rfl

theorem isRead_number (value : Nat) : IsRead (fuel + 1) level (.number value) := by
  intro rest delimited
  have numberRead := readNumber_decimal value delimited
  rcases decimal_eq_cons value with ⟨first, others, written, _⟩
  have isDigit := decimal_all_digits value first (by rw [written]; exact List.mem_cons_self)
  have differs := fun other : UInt8 => @ne_of_isDecimalDigit first other isDigit
  rw [written, List.cons_append] at numberRead
  rw [render, written, List.cons_append, readValue, if_neg (differs _ (by decide)),
    if_neg (differs _ (by decide)), if_neg (differs _ (by decide)), if_pos isDigit, numberRead,
    readable]

theorem isRead_text (value : Bytes) : IsRead (fuel + 1) level (.text value) := by
  intro rest _
  have textRead := readText_encodeText value rest
  simp only [List.append_assoc, List.cons_append, List.nil_append] at textRead
  simp only [render, encodeText, List.append_assoc, List.cons_append, List.nil_append]
  rw [readValue, if_pos rfl, textRead, readable]
  rfl

theorem exists_fuel {json : Json} (enough : (render level json).length ≤ fuel) :
    ∃ less, fuel = less + 1 := by
  rcases render_begins level json with ⟨b, others, spelled, _⟩
  rw [spelled, List.length_cons] at enough
  exact Nat.exists_eq_add_one_of_ne_zero (Nat.ne_zero_of_lt enough)

/-- The fuel needed is at most the length of the document, because every value inside an array
or object is shorter than the whole. -/
theorem isRead_of_length_le (json : Json) :
    ∀ {level fuel : Nat}, (render level json).length ≤ fuel → IsRead fuel level json := by
  induction json using induction_on_parts with
  | boolean value =>
    intro level fuel enough rest _
    rcases exists_fuel enough with ⟨fuel, rfl⟩
    cases value with
    | false => rw [readable]; rfl
    | true => rw [readable]; rfl
  | number value =>
    intro level fuel enough
    rcases exists_fuel enough with ⟨fuel, rfl⟩
    exact isRead_number value
  | text value =>
    intro level fuel enough
    rcases exists_fuel enough with ⟨fuel, rfl⟩
    exact isRead_text value
  | array elements inductionHypothesis =>
    intro level fuel enough
    rcases exists_fuel enough with ⟨fuel, rfl⟩
    cases elements with
    | nil =>
      intro rest _
      rw [readable]
      rfl
    | cons first others =>
      refine isRead_array fun element isElement => inductionHypothesis element isElement ?_
      have below := length_spell_le (level + 1) (render (level + 1)) first others isElement
      have bracket : (utf8 "[").length = 1 := by decide
      rw [render, renderElements_eq] at enough
      simp only [List.length_append, bracket] at enough below
      omega
  | object members inductionHypothesis =>
    intro level fuel enough
    rcases exists_fuel enough with ⟨fuel, rfl⟩
    cases members with
    | nil =>
      intro rest _
      rw [readable]
      rfl
    | cons first others =>
      refine isRead_object fun member isMember => inductionHypothesis member isMember ?_
      have below := length_spell_le (level + 1) (renderMember (level + 1)) first others isMember
      have brace : (utf8 "\x7b").length = 1 := by decide
      rw [render, renderMembers_eq] at enough
      rw [renderMember] at below
      simp only [List.length_append, brace] at enough below
      omega

end Values

/-! ## Well-formedness -/

theorem valid_newLine (level : Nat) : Utf8.valid (newLine level) = true := by
  apply Utf8.valid_of_low
  intro b member
  rcases List.mem_append.mp member with lineFeed | space
  · rw [List.mem_singleton.mp (show b ∈ [0x0A] from lineFeed)]
    decide
  · rw [List.eq_of_mem_replicate space]
    decide

theorem valid_encodeChar (c : Char) : Utf8.valid (encodeChar c) = true := by
  unfold encodeChar
  simp only [Bool.or_eq_true, decide_eq_true_eq]
  split_ifs with marked backspace formFeed lineFeed carriageReturn tab special
  · rcases marked with rfl | rfl
    · decide
    · decide
  · exact Utf8.valid_utf8 _
  · exact Utf8.valid_utf8 _
  · exact Utf8.valid_utf8 _
  · exact Utf8.valid_utf8 _
  · exact Utf8.valid_utf8 _
  · refine Utf8.valid_append (Utf8.valid_utf8 _) (Utf8.valid_of_low fun b member => ?_)
    have bounds := Numeral.toNat_of_isDigitOf (Quoted.hexDigits_all_digits 4 _ b member)
    omega
  · have alone := Utf8.valid_encode [c]
    rwa [Utf8.encode, List.flatMap_singleton] at alone

theorem valid_encodeText (content : Bytes) : Utf8.valid (encodeText content) = true := by
  have quoteValid : Utf8.valid [Quoted.quote] = true := by decide
  exact Utf8.valid_append (Utf8.valid_append quoteValid
    (Utf8.valid_flatMap fun c _ => valid_encodeChar c)) quoteValid

theorem valid_decimal (n : Nat) : Utf8.valid (decimal n) = true :=
  Utf8.valid_of_low fun b member =>
    Nat.lt_trans (Numeral.toNat_of_isDigitOf (decimal_all_digits n b member)).2.1 (by decide)

/-- The texts that stand in every rendered document of a kind, whatever its content is. -/
def marks : List Bytes :=
  [utf8 "true", utf8 "false", utf8 "[]", utf8 "[", utf8 "]", utf8 "\x7b\x7d", utf8 "\x7b",
    utf8 "\x7d", utf8 ",", utf8 ": "]

/-- A property of texts that the parts of a rendered document have, and that texts keep when they
are put together. -/
structure IsKept (P : Bytes → Prop) : Prop where
  nil : P []
  append : ∀ {first second : Bytes}, P first → P second → P (first ++ second)
  mark : ∀ mark ∈ marks, P mark
  newLine : ∀ level, P (newLine level)
  number : ∀ n, P (decimal n)
  text : ∀ content, P (encodeText content)

namespace IsKept

variable {P : Bytes → Prop}

theorem flatMap (kept : IsKept P) {β : Type} {items : List β} {spell : β → Bytes}
    (each : ∀ x ∈ items, P (spell x)) : P (items.flatMap spell) := by
  induction items with
  | nil => exact kept.nil
  | cons x items inductionHypothesis =>
    rw [List.flatMap_cons]
    apply kept.append (each x List.mem_cons_self)
    exact inductionHypothesis fun y member => each y (List.mem_cons_of_mem x member)

theorem spelled (kept : IsKept P) {β : Type} {level outer : Nat} {spell : β → Bytes} {first : β}
    {others : List β} {opening closing : Bytes} (items : ∀ x ∈ first :: others, P (spell x))
    (opens : P opening) (closes : P closing) :
    P (opening ++ Json.newLine level ++ spell first ++ spellOthers level spell others ++
      Json.newLine outer ++ closing) := by
  have comma : P (utf8 ",") := kept.mark _ (by simp [marks])
  have later : P (spellOthers level spell others) := by
    apply kept.flatMap
    intro x isOther
    apply kept.append (kept.append comma (kept.newLine level))
    exact items x (List.mem_cons_of_mem first isOther)
  have front := kept.append (kept.append opens (kept.newLine level))
    (items first List.mem_cons_self)
  exact kept.append (kept.append (kept.append front later) (kept.newLine outer)) closes

theorem render (kept : IsKept P) (json : Json) : ∀ level, P (json.render level) := by
  induction json using induction_on_parts with
  | boolean value =>
    intro level
    cases value with
    | false => exact kept.mark (utf8 "false") (by simp [marks])
    | true => exact kept.mark (utf8 "true") (by simp [marks])
  | number value => exact fun _ => kept.number value
  | text value => exact fun _ => kept.text value
  | array elements inductionHypothesis =>
    intro level
    cases elements with
    | nil => exact kept.mark (utf8 "[]") (by simp [marks])
    | cons first others =>
      have items (element : Json) (isElement : element ∈ first :: others) :=
        inductionHypothesis element isElement (level + 1)
      rw [Json.render, renderElements_eq]
      exact kept.spelled items (kept.mark _ (by simp [marks])) (kept.mark _ (by simp [marks]))
  | object members inductionHypothesis =>
    intro level
    cases members with
    | nil => exact kept.mark (utf8 "\x7b\x7d") (by simp [marks])
    | cons first others =>
      have items : ∀ member ∈ first :: others, P (renderMember (level + 1) member) := by
        rintro ⟨name, value⟩ isMember
        apply kept.append (kept.append (kept.text name) (kept.mark _ (by simp [marks])))
        exact inductionHypothesis (name, value) isMember (level + 1)
      rw [Json.render, renderMembers_eq]
      exact kept.spelled items (kept.mark _ (by simp [marks])) (kept.mark _ (by simp [marks]))

end IsKept

theorem valid_render (json : Json) (level : Nat) : Utf8.valid (render level json) = true := by
  have kept : IsKept fun text => Utf8.valid text = true :=
    { nil := rfl
      append := Utf8.valid_append
      mark := by
        simp only [marks, List.forall_mem_cons, List.not_mem_nil, false_implies, implies_true,
          and_true, Utf8.valid_utf8]
      newLine := valid_newLine
      number := valid_decimal
      text := valid_encodeText }
  exact kept.render json level

/-- A rendered document is well formed, and reading it loses nothing but stray bytes. -/
theorem read?_render (json : Json) : read? (render 0 json) = some json.readable := by
  have isRead := isRead_of_length_le json (Nat.le_refl (render 0 json).length) []
    (fun _ first => nomatch first)
  rw [List.append_nil] at isRead
  rw [read?, if_pos (valid_render json 0), isRead]

example : (read? (utf8 "[1,]")).isNone ∧ (read? (utf8 "[01]")).isNone ∧
    (read? (utf8 "[1, 0]")).isSome := by decide

end Json
end PhpLint
