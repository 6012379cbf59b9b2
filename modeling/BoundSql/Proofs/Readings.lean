import BoundSql.Lexicon.Reading
import BoundSql.Text.Utf8

/-!
# What column texts are

Whether a text is a function call, an expression or a qualified name is said here by the positions
of its unquoted characters (`Text.IsPlainAt`), for any quotes and separator, also such as cannot be
told from one another or from a parenthesis.

The answers may be found without reading the whole text. A text without the characters that are
asked for needs no scan. One pass finds a closing parenthesis behind an opening one, if it keeps in
mind whether there was one (`Text.closesBehind`). The last character is the one at the last offset
in bytes (`Text.lastOffset?`). And whether a text begins with a word can be seen from as many bytes
as the word has, which may end within a character: then they are not the word, since its letters
have one byte each (`Text.quickStartsWithWord_eq`). None of these shortcuts changes an answer
(`Lexicon.readings_by_position`).
-/

set_option autoImplicit false

namespace BoundSql

namespace Text

/-! ## Positions of unquoted characters -/

/-- Whether an unquoted `c` stands at position `i` of a text that is read while `s` is open. -/
def IsPlainFrom (q : Quotes) (s : Span) (text : Text) (i : Nat) (c : Char) : Prop :=
  text[i]? = some c ∧ (text.spansFrom q s)[i]? = some .plain

/-- Whether an unquoted `c` stands at position `i` of a text. -/
def IsPlainAt (q : Quotes) (text : Text) (i : Nat) (c : Char) : Prop :=
  text[i]? = some c ∧ (text.spans q)[i]? = some .plain

variable {q : Quotes} {s : Span} {text rest : Text} {c d : Char} {i j : Nat}

/-- At the first position the character itself decides, with the span that is open there. -/
theorem isPlainFrom_zero :
    IsPlainFrom q s (c :: rest) 0 d ↔ c = d ∧ s.label q c = .plain := by
  simp [IsPlainFrom, spansFrom]

/-- A later position is read behind the first character, in the span that it leaves. -/
theorem isPlainFrom_succ :
    IsPlainFrom q s (c :: rest) (i + 1) d ↔ IsPlainFrom q (s.next q c) rest i d := by
  simp [IsPlainFrom, spansFrom]

/-- A plain position lies within the text. -/
theorem IsPlainAt.lt_length (h : IsPlainAt q text i c) : i < text.length :=
  (List.getElem?_eq_some_iff.1 h.1).1

/-- What stands there is a character of the text. -/
theorem IsPlainAt.mem (h : IsPlainAt q text i c) : c ∈ text :=
  List.mem_of_getElem? h.1

/-- An unquoted character is found at the number of bytes before its position. -/
theorem mem_plainFrom_iff {offset n : Nat} :
    (n, d) ∈ plainFrom q s offset text ↔
      ∃ i, IsPlainFrom q s text i d ∧ n = offset + byteSize (text.take i) := by
  induction text generalizing s offset with
  | nil => simp [plainFrom, IsPlainFrom]
  | cons c rest ih =>
    -- The position is the first one, with no bytes before it, or one in the rest.
    have first : (IsPlainFrom q s (c :: rest) 0 d ∧ n = offset + byteSize ((c :: rest).take 0)) ↔
        s.label q c = .plain ∧ (n, d) = (offset, c) := by
      rw [isPlainFrom_zero, Prod.mk.injEq]
      constructor
      · rintro ⟨⟨rfl, plain_⟩, rfl⟩
        exact ⟨plain_, rfl, rfl⟩
      · rintro ⟨plain_, rfl, rfl⟩
        exact ⟨⟨rfl, plain_⟩, rfl⟩
    have later : (∃ i, IsPlainFrom q s (c :: rest) (i + 1) d ∧
          n = offset + byteSize ((c :: rest).take (i + 1))) ↔
        (n, d) ∈ plainFrom q (s.next q c) (offset + c.utf8Size) rest := by
      simp only [ih, isPlainFrom_succ, List.take_succ_cons, byteSize, Nat.add_assoc]
    rw [← Nat.or_exists_add_one, first, later, plainFrom]
    split
    · rename_i plain_
      rw [List.mem_cons, and_iff_right plain_]
    · rename_i quoted
      simp [quoted]

/-- The plain characters with their offsets are those at plain positions, counted in bytes. -/
theorem mem_plainAt_iff {n : Nat} :
    (n, d) ∈ text.plainAt q ↔ ∃ i, text.IsPlainAt q i d ∧ n = byteSize (text.take i) := by
  rw [plainAt, mem_plainFrom_iff]
  simp only [Nat.zero_add]
  rfl

/-- Without their offsets they are the characters at plain positions. -/
theorem mem_map_plainFrom_iff {offset : Nat} :
    d ∈ (plainFrom q s offset text).map Prod.snd ↔ ∃ i, IsPlainFrom q s text i d := by
  constructor
  · intro mem
    obtain ⟨⟨n, _⟩, found, rfl⟩ := List.mem_map.1 mem
    obtain ⟨i, at_, -⟩ := mem_plainFrom_iff.1 found
    exact ⟨i, at_⟩
  · rintro ⟨i, at_⟩
    exact List.mem_map.2 ⟨_, mem_plainFrom_iff.2 ⟨i, at_, rfl⟩, rfl⟩

/-- So the plain characters of a text are those at its plain positions. -/
theorem mem_plainChars_iff : d ∈ text.plainChars q ↔ ∃ i, text.IsPlainAt q i d :=
  mem_map_plainFrom_iff

/-! ## Offsets in bytes -/

/-- The offset in bytes tells a position from a later one. -/
theorem byteSize_take_lt (before : i < j) (within : j ≤ text.length) :
    byteSize (text.take i) < byteSize (text.take j) := by
  have shorter : i < text.length := Nat.lt_of_lt_of_le before within
  obtain ⟨between, whole⟩ := List.take_prefix_take_left (l := text) before
  rw [← whole, byteSize_append, List.take_succ_eq_append_getElem shorter, byteSize_append]
  have one : byteSize [text[i]] = text[i].utf8Size := rfl
  have positive : 0 < text[i].utf8Size := Char.utf8Size_pos _
  omega

/-- The offset in bytes of the last character. -/
def lastOffset? (text : Text) : Option Nat :=
  if text.isEmpty then none else some (byteSize text.dropLast)

/-- A position is not the last one if and only if its offset is not the last one. -/
theorem ne_lastOffset?_iff (h : i < text.length) :
    some (byteSize (text.take i)) ≠ text.lastOffset? ↔ i + 1 < text.length := by
  have notEmpty : ¬ text.isEmpty = true := by
    rw [List.isEmpty_iff]
    exact List.ne_nil_of_length_pos (Nat.zero_lt_of_lt h)
  rw [lastOffset?, if_neg notEmpty, List.dropLast_eq_take, ne_eq, Option.some.injEq]
  constructor
  · intro apart
    rcases Nat.lt_or_ge (i + 1) text.length with before | last
    · exact before
    · obtain rfl : i = text.length - 1 := by omega
      exact absurd rfl apart
  · intro before
    exact Nat.ne_of_lt (byteSize_take_lt (by omega) (by omega))

/-- A character with the lower case of one of a single byte has a single byte itself. -/
theorem utf8Size_of_toLower (h : c.toLower = d.toLower) (one : d.utf8Size = 1) :
    c.utf8Size = 1 := by
  rw [Char.utf8Size_eq_one_iff] at one ⊢
  by_cases capital : c.val ≥ 'A'.val ∧ c.val ≤ 'Z'.val
  · exact UInt32.le_trans capital.2 (by decide)
  · have self : c.toLower = c := dif_neg capital
    rw [← self, h]
    by_cases capital' : d.val ≥ 'A'.val ∧ d.val ≤ 'Z'.val
    · have lowered : d.toLower.val = d.val + 32 := congrArg Char.val (dif_pos capital')
      have low : d.val.toNat ≤ 90 := capital'.2
      rw [lowered, UInt32.le_iff_toNat_le, UInt32.toNat_add]
      change (d.val.toNat + 32) % 2 ^ 32 ≤ 127
      omega
    · have self' : d.toLower = d := dif_neg capital'
      rwa [self']

/-- A text that spells an ASCII word in any case has one byte for each character. -/
theorem byteSize_of_map_toLower {a word : Text} (h : a.map Char.toLower = word.map Char.toLower)
    (ascii : word.all (·.utf8Size == 1) = true) : byteSize a = word.length := by
  induction a generalizing word with
  | nil =>
    obtain rfl : word = [] := List.map_eq_nil_iff.1 h.symm
    rfl
  | cons c rest ih =>
    cases word with
    | nil => cases h
    | cons d later =>
      obtain ⟨first, others⟩ := List.cons.inj h
      rw [List.all_cons, Bool.and_eq_true, beq_iff_eq] at ascii
      obtain ⟨one, ones⟩ := ascii
      rw [byteSize, utf8Size_of_toLower first one, ih others ones, List.length_cons, Nat.add_comm]

/-- Whether the text begins with `word`, read from as many bytes as the word has letters. -/
def quickStartsWithWord (text word : Text) : Bool :=
  (text.firstBytes? word.length).any fun front => front.map Char.toLower == word.map Char.toLower

/-- Fewer bytes than a word has letters, or a cut within a character, are never the word. -/
theorem quickStartsWithWord_eq {word : Text} (ascii : word.all (·.utf8Size == 1) = true) :
    text.quickStartsWithWord word = text.startsWithWord word := by
  rw [Bool.eq_iff_iff, quickStartsWithWord, startsWithWord, Option.any_eq_true, beq_iff_eq]
  constructor
  · rintro ⟨front, found, same⟩
    rw [beq_iff_eq] at same
    obtain ⟨begins, -⟩ := firstBytes?_eq_some_iff.1 found
    have letters : front.length = word.length := by
      simpa only [List.length_map] using congrArg List.length same
    rwa [← letters, ← List.prefix_iff_eq_take.1 begins]
  · intro same
    refine ⟨text.take word.length, firstBytes?_eq_some_iff.2 ⟨List.take_prefix _ _, ?_⟩, ?_⟩
    · rw [length_utf8, byteSize_of_map_toLower same ascii]
    · rw [beq_iff_eq, same]

/-! ## A pair of parentheses -/

/-- Whether a closing parenthesis stands behind an opening one, or behind nothing where one is open
already. One pass with a flag. -/
def closesBehind (isOpen : Bool) : List (Nat × Char) → Bool
  | [] => false
  | (_, c) :: rest =>
    if c = '(' then closesBehind true rest
    else if c = ')' ∧ isOpen = true then true
    else closesBehind isOpen rest

end Text

namespace Lexicon

open Text

variable {lex : Lexicon} {q : Quotes} {s : Span} {text : Text}

/-- The first opening parenthesis decides, and a closing one has to follow it. -/
theorem hasParentheses_cons (c : Char) (rest : Text) :
    hasParentheses (c :: rest) = if c = '(' then rest.contains ')' else hasParentheses rest := by
  by_cases opens : c = '('
  · subst opens
    simp [hasParentheses]
  · simp [hasParentheses, opens]

/-- A pair of parentheses has a closing one. -/
theorem mem_of_hasParentheses (h : hasParentheses text = true) : ')' ∈ text :=
  (List.dropWhile_suffix _).mem (List.contains_iff_mem.1 h)

/-- Once a parenthesis is open, any closing one will do. -/
theorem closesBehind_true (l : List (Nat × Char)) :
    closesBehind true l = (l.map Prod.snd).contains ')' := by
  induction l with
  | nil => rfl
  | cons head rest ih =>
    obtain ⟨n, c⟩ := head
    rw [closesBehind, List.map_cons, List.contains_cons, ih]
    by_cases closes : c = ')'
    · subst closes
      simp
    · simp [closes, Ne.symm closes]

theorem closesBehind_false (l : List (Nat × Char)) :
    closesBehind false l = hasParentheses (l.map Prod.snd) := by
  induction l with
  | nil => rfl
  | cons head rest ih =>
    obtain ⟨n, c⟩ := head
    rw [closesBehind, List.map_cons, hasParentheses_cons, closesBehind_true, ih]
    simp

theorem hasParentheses_plainFrom_iff (offset : Nat) :
    hasParentheses ((plainFrom q s offset text).map Prod.snd) = true ↔
      ∃ i j, i < j ∧ IsPlainFrom q s text i '(' ∧ IsPlainFrom q s text j ')' := by
  induction text generalizing s offset with
  | nil => simp [plainFrom, hasParentheses, IsPlainFrom]
  | cons c rest ih =>
    -- Either the first character opens, or both parentheses stand behind it.
    have first : (∃ i j, i < j ∧ IsPlainFrom q s (c :: rest) i '(' ∧
          IsPlainFrom q s (c :: rest) j ')') ↔
        ((c = '(' ∧ s.label q c = .plain) ∧ ∃ j, IsPlainFrom q (s.next q c) rest j ')') ∨
          ∃ i j, i < j ∧ IsPlainFrom q (s.next q c) rest i '(' ∧
            IsPlainFrom q (s.next q c) rest j ')' := by
      constructor
      · rintro ⟨i, j, before, opens, closes⟩
        obtain ⟨j, rfl⟩ : ∃ k, j = k + 1 := ⟨j - 1, by omega⟩
        rw [isPlainFrom_succ] at closes
        cases i with
        | zero => exact .inl ⟨isPlainFrom_zero.1 opens, j, closes⟩
        | succ i =>
          exact .inr ⟨i, j, Nat.lt_of_succ_lt_succ before, isPlainFrom_succ.1 opens, closes⟩
      · rintro (⟨opens, j, closes⟩ | ⟨i, j, before, opens, closes⟩)
        · exact ⟨0, j + 1, Nat.zero_lt_succ j, isPlainFrom_zero.2 opens, isPlainFrom_succ.2 closes⟩
        · exact ⟨i + 1, j + 1, Nat.succ_lt_succ before, isPlainFrom_succ.2 opens,
            isPlainFrom_succ.2 closes⟩
    rw [first, ← ih (offset + c.utf8Size), plainFrom]
    split
    · rename_i plain_
      rw [List.map_cons, hasParentheses_cons]
      by_cases opens : c = '('
      · rw [if_pos opens, List.contains_iff_mem, ← mem_map_plainFrom_iff]
        constructor
        · exact fun closes => .inl ⟨⟨opens, plain_⟩, closes⟩
        · rintro (⟨-, closes⟩ | both)
          · exact closes
          · exact mem_of_hasParentheses both
      · rw [if_neg opens]
        simp only [opens, false_and, false_or]
    · rename_i quoted
      simp only [quoted, and_false, false_and, false_or]

/-- A plain pair of parentheses is two plain positions, the opening one first. -/
theorem hasParentheses_plainChars_iff : hasParentheses (text.plainChars q) = true ↔
    ∃ i j, i < j ∧ text.IsPlainAt q i '(' ∧ text.IsPlainAt q j ')' :=
  hasParentheses_plainFrom_iff 0

/-! ## What the readings mean -/

/-- A function call is a word that takes no parentheses, or a text with a plain pair of them. -/
theorem isFunction_iff : lex.isFunction text = true ↔
    text.trim.upper ∈ niladicFunctions ∨
      ∃ i j, i < j ∧ text.IsPlainAt lex.quotes i '(' ∧ text.IsPlainAt lex.quotes j ')' := by
  rw [isFunction, Bool.or_eq_true, List.contains_iff_mem, hasParentheses_plainChars_iff]

/-- An expression begins with `case`, or has a comparison mark at a plain position. -/
theorem isExpression_iff : lex.isExpression text = true ↔
    text.trimStart.startsWithWord "case" = true ∨
      ∃ i, ∃ mark ∈ comparisonMarks, text.IsPlainAt lex.quotes i mark := by
  rw [isExpression, Bool.or_eq_true, List.any_eq_true]
  simp only [mem_plainChars_iff, List.contains_iff_mem]
  refine or_congr_right ⟨?_, ?_⟩
  · rintro ⟨mark, ⟨i, at_⟩, compares⟩
    exact ⟨i, mark, compares, at_⟩
  · rintro ⟨i, mark, compares, at_⟩
    exact ⟨mark, ⟨i, at_⟩, compares⟩

/-- A qualified name has a plain separator that is not its last character. -/
theorem isQualified_iff : lex.isQualified text = true ↔
    ∃ i, i + 1 < text.length ∧ text.IsPlainAt lex.quotes i lex.separator := by
  rw [isQualified, List.contains_iff_mem, List.mem_iff_getElem?]
  refine exists_congr fun i => ?_
  rw [List.getElem?_dropLast, List.length_zip, spans, length_spansFrom, Nat.min_self]
  split
  · rename_i before
    rw [List.getElem?_zip_eq_some]
    exact ⟨fun at_ => ⟨by omega, at_⟩, fun h => h.2⟩
  · rename_i last
    exact iff_of_false nofun fun h => absurd h.1 (by omega)

/-! ## Shortcuts -/

/-- A niladic function, or a text with both parentheses at all and one unquoted behind another. -/
def quickIsFunction (lex : Lexicon) (text : Text) : Bool :=
  if niladicFunctions.contains text.trim.upper then true
  else if !text.contains '(' || !text.contains ')' then false
  else closesBehind false (text.plainAt lex.quotes)

/-- Begins with `case` in its first four bytes, or has an unquoted comparison mark. -/
def quickIsExpression (lex : Lexicon) (text : Text) : Bool :=
  if text.trimStart.quickStartsWithWord "case" then true
  else (text.plainAt lex.quotes).any fun (_, c) => comparisonMarks.contains c

/-- Has a separator at all and an unquoted one that is not at the last offset. -/
def quickIsQualified (lex : Lexicon) (text : Text) : Bool :=
  if !text.contains lex.separator then false
  else
    let last := text.lastOffset?
    (text.plainAt lex.quotes).any fun (n, c) => c == lex.separator && some n != last

/-- The quick reading stops at the first pair of parentheses, which is all that counts. -/
theorem quickIsFunction_eq (lex : Lexicon) (text : Text) :
    lex.quickIsFunction text = lex.isFunction text := by
  rw [quickIsFunction, isFunction]
  split
  · rename_i niladic
    rw [niladic, Bool.true_or]
  · rename_i other
    rw [Bool.not_eq_true] at other
    rw [other, Bool.false_or, closesBehind_false]
    split
    · rename_i missing
      symm
      rw [Bool.eq_false_iff, ne_eq, hasParentheses_plainChars_iff]
      rintro ⟨i, j, -, opens, closes⟩
      simp [opens.mem, closes.mem] at missing
    · rfl

/-- The quick reading stops at the first comparison mark. -/
theorem quickIsExpression_eq (lex : Lexicon) (text : Text) :
    lex.quickIsExpression text = lex.isExpression text := by
  rw [quickIsExpression, isExpression, quickStartsWithWord_eq (by decide), plainChars, List.any_map]
  split
  · rename_i begins
    rw [begins, Bool.true_or]
  · rename_i other
    rw [Bool.not_eq_true] at other
    rw [other, Bool.false_or]
    rfl

/-- The quick reading compares the offset of a separator with the last one of the text. -/
theorem quickIsQualified_eq (lex : Lexicon) (text : Text) :
    lex.quickIsQualified text = lex.isQualified text := by
  rw [Bool.eq_iff_iff, isQualified_iff, quickIsQualified]
  split
  · rename_i missing
    refine iff_of_false nofun ?_
    rintro ⟨i, -, at_⟩
    simp [at_.mem] at missing
  · rw [List.any_eq_true]
    simp only [Prod.exists, mem_plainAt_iff, Bool.and_eq_true, beq_iff_eq, bne_iff_ne]
    constructor
    · rintro ⟨n, c, ⟨i, at_, rfl⟩, rfl, before⟩
      exact ⟨i, (ne_lastOffset?_iff at_.lt_length).1 before, at_⟩
    · rintro ⟨i, before, at_⟩
      exact ⟨_, _, ⟨i, at_, rfl⟩, rfl, (ne_lastOffset?_iff at_.lt_length).2 before⟩

/-- The readings of a text are what its unquoted characters and their positions say, and the
shortcuts never change one. -/
theorem readings_by_position (lex : Lexicon) (text : Text) :
    (lex.quickIsFunction text = lex.isFunction text ∧
      (lex.isFunction text = true ↔
        text.trim.upper ∈ niladicFunctions ∨
          ∃ i j, i < j ∧ text.IsPlainAt lex.quotes i '(' ∧ text.IsPlainAt lex.quotes j ')')) ∧
    (lex.quickIsQualified text = lex.isQualified text ∧
      (lex.isQualified text = true ↔
        ∃ i, i + 1 < text.length ∧ text.IsPlainAt lex.quotes i lex.separator)) ∧
    (lex.quickIsExpression text = lex.isExpression text ∧
      (lex.isExpression text = true ↔
        (text.trimStart.take 4).map Char.toLower = "case".toList ∨
          ∃ i, ∃ mark ∈ comparisonMarks, text.IsPlainAt lex.quotes i mark)) := by
  refine ⟨⟨lex.quickIsFunction_eq text, isFunction_iff⟩,
    ⟨lex.quickIsQualified_eq text, isQualified_iff⟩, lex.quickIsExpression_eq text, ?_⟩
  rw [isExpression_iff, startsWithWord, beq_iff_eq]
  rfl

end Lexicon

end BoundSql
