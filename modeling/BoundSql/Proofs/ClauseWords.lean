import BoundSql.Proofs.Parentheses

/-!
# Clause words outside parentheses

Where the queries of a union stand side by side, ORDER BY and LIMIT belong to whichever query they
are read with, and only parentheses keep them with their own. Here the words UNION, ORDER and LIMIT
are read off a text as far as they stand outside all parentheses (`Text.clauseWords`). Balanced
texts with a character between them that belongs to no word have the words of the one and then of
the other (`Text.clauseWords_append_cons`), and what is enclosed has none
(`Text.clauseWords_enclosed`).

A text is wordless if it has neither parentheses nor any of the three words. Cutting at commas,
trimming, quoting and qualifying keep texts wordless.
-/

set_option autoImplicit false

namespace BoundSql

/-- A word that begins a clause which belongs to a union as a whole, or that unites. -/
inductive ClauseWord where
  | union
  | order
  | limit
  deriving DecidableEq, Repr

namespace ClauseWord

/-- The word in capital letters. -/
def spelling : ClauseWord → Text
  | .union => "UNION"
  | .order => "ORDER"
  | .limit => "LIMIT"

/-- The clause word that is spelled by a word, in any letter case or in capital letters only. -/
def ofWord? (anyCase : Bool) (word : Text) : Option ClauseWord :=
  let spelled := if anyCase then word.map Char.toUpper else word
  [union, order, limit].find? fun w => w.spelling == spelled

/-- Digits have no letter case. -/
theorem toUpper_of_isDigit {c : Char} (digit : c.isDigit = true) : c.toUpper = c := by
  simp only [Char.isDigit, Bool.and_eq_true, decide_eq_true_eq, UInt32.le_iff_toNat_le,
    ge_iff_le] at digit
  unfold Char.toUpper
  split
  · rename_i lower
    simp only [UInt32.le_iff_toNat_le] at lower
    have nine : '9'.val.toNat = 57 := rfl
    have first : 'a'.val.toNat = 97 := rfl
    omega
  · rfl

/-- A number spells no clause word. -/
theorem ofWord?_of_digits (anyCase : Bool) {word : Text} (digits : ∀ c ∈ word, c.isDigit = true) :
    ofWord? anyCase word = none := by
  have raised : word.map Char.toUpper = word := by
    rw [List.map_congr_left fun c hc => toUpper_of_isDigit (digits c hc), List.map_id']
  have spelled : (if anyCase then word.map Char.toUpper else word) = word := by
    rw [raised, ite_self]
  rw [ofWord?, spelled]
  apply List.find?_eq_none.2
  intro w _ same
  have letters : w.spelling.all Char.isDigit = false := by
    cases w <;> decide
  rw [eq_of_beq same, List.all_eq_true.2 digits] at letters
  cases letters

/-- What spells no clause word in any letter case spells none in capital letters. -/
theorem ofWord?_of_anyCase {word : Text} (h : ofWord? true word = none) (anyCase : Bool) :
    ofWord? anyCase word = none := by
  cases anyCase with
  | true => exact h
  | false =>
    apply List.find?_eq_none.2
    intro w hw same
    have capital : w.spelling.map Char.toUpper = w.spelling := by
      cases w <;> decide
    have spelled : w.spelling = word := eq_of_beq same
    rw [← spelled] at h
    apply List.find?_eq_none.1 h w hw
    show (w.spelling == w.spelling.map Char.toUpper) = true
    rw [capital]
    exact beq_self_eq_true w.spelling

end ClauseWord

namespace Text

/-- Whether a character belongs to a word. -/
def isInWord (c : Char) : Bool :=
  !isBlank c && (c.isAlphanum || c == '_' || 127 < c.toNat)

/-- The clause words among the words of a text, parentheses aside. -/
def wordsIn (anyCase : Bool) (t : Text) : List ClauseWord :=
  (t.splitOnP fun c => !isInWord c).filterMap (ClauseWord.ofWord? anyCase)

/-- The parentheses of a text and what stands outside them, where `depth` are open at first. -/
def outsideFrom : Nat → Text → Text
  | _, [] => []
  | depth, c :: rest =>
    if c = '(' then c :: outsideFrom (depth + 1) rest
    else if c = ')' then c :: outsideFrom (depth - 1) rest
    else if depth = 0 then c :: outsideFrom depth rest
    else outsideFrom depth rest

/-- The clause words of a text that stand outside all parentheses, in order. -/
def clauseWords (anyCase : Bool) (t : Text) : List ClauseWord :=
  wordsIn anyCase (outsideFrom 0 t)

variable {anyCase : Bool} {a b t : Text} {c : Char}

/-! ### Words side by side -/

@[simp] theorem wordsIn_nil : wordsIn anyCase [] = [] := by
  cases anyCase <;> decide

/-- A character that belongs to no word keeps apart what stands on either side of it. -/
theorem wordsIn_append_cons (apart : isInWord c = false) (a b : Text) :
    wordsIn anyCase (a ++ c :: b) = wordsIn anyCase a ++ wordsIn anyCase b := by
  have separates : (!isInWord c) = true := by simp [apart]
  rw [wordsIn, List.splitOnP_append_cons a b separates, List.filterMap_append]
  rfl

/-- A character that is in no word may be left out at the start. -/
theorem wordsIn_cons (apart : isInWord c = false) (b : Text) :
    wordsIn anyCase (c :: b) = wordsIn anyCase b := by
  have sides : wordsIn anyCase ([] ++ c :: b) = wordsIn anyCase [] ++ wordsIn anyCase b :=
    wordsIn_append_cons apart [] b
  rw [wordsIn_nil] at sides
  exact sides

/-- What belongs to no word may be left out at the beginning. -/
theorem wordsIn_append_left (apart : ∀ c ∈ a, isInWord c = false) (b : Text) :
    wordsIn anyCase (a ++ b) = wordsIn anyCase b := by
  induction a with
  | nil => rfl
  | cons c rest ih =>
    rw [List.cons_append, wordsIn_cons (apart c List.mem_cons_self)]
    exact ih fun d hd => apart d (List.mem_cons_of_mem c hd)

/-- A text without characters of words has no clause words. -/
theorem wordsIn_of_none (apart : ∀ c ∈ t, isInWord c = false) : wordsIn anyCase t = [] := by
  have alone : wordsIn anyCase (t ++ []) = wordsIn anyCase [] := wordsIn_append_left apart []
  rw [List.append_nil, wordsIn_nil] at alone
  exact alone

/-- What belongs to no word may be left out at the end. -/
theorem wordsIn_append_right (apart : ∀ c ∈ b, isInWord c = false) (a : Text) :
    wordsIn anyCase (a ++ b) = wordsIn anyCase a := by
  cases b with
  | nil => rw [List.append_nil]
  | cons c rest =>
    have rest_ : wordsIn anyCase rest = [] :=
      wordsIn_of_none fun d hd => apart d (List.mem_cons_of_mem c hd)
    rw [wordsIn_append_cons (apart c List.mem_cons_self), rest_, List.append_nil]

/-- Texts behind one another, with what belongs to no word between each two, have the words of
each. -/
theorem wordsIn_joined {separator : Text} (written : separator ≠ [])
    (apart : ∀ c ∈ separator, isInWord c = false) (parts : List Text) :
    wordsIn anyCase (joined separator parts) = parts.flatMap (wordsIn anyCase) := by
  obtain ⟨first, later, rfl⟩ := List.exists_cons_of_ne_nil written
  induction parts with
  | nil => exact wordsIn_nil
  | cons part rest ih =>
    cases rest with
    | nil => simp [joined]
    | cons next rest =>
      have later_ : ∀ c ∈ later, isInWord c = false := fun c hc =>
        apart c (List.mem_cons_of_mem first hc)
      rw [joined, List.intercalate_cons_cons, List.append_assoc, List.cons_append,
        wordsIn_append_cons (apart first List.mem_cons_self), wordsIn_append_left later_, ← joined,
        ih]
      rfl

/-- Blanks at either end are in no word. -/
theorem wordsIn_trim (t : Text) : wordsIn anyCase t.trim = wordsIn anyCase t := by
  obtain ⟨front, back, front_, back_, whole⟩ := exists_of_trim t
  have blanks : ∀ c, isBlank c = true → isInWord c = false := by
    intro c blank
    rw [isInWord, blank]
    rfl
  have same := congrArg (wordsIn anyCase) whole
  rw [wordsIn_append_left fun c hc => blanks c (front_ c hc),
    wordsIn_append_right fun c hc => blanks c (back_ c hc)] at same
  exact same.symm

/-- A digit is in a word. -/
theorem isInWord_of_isDigit (digit : c.isDigit = true) : isInWord c = true := by
  have bounds := digit
  simp only [Char.isDigit, Bool.and_eq_true, decide_eq_true_eq, UInt32.le_iff_toNat_le,
    ge_iff_le] at bounds
  have zero : '0'.val.toNat = 48 := rfl
  have nine : '9'.val.toNat = 57 := rfl
  have number : c.toNat = c.val.toNat := rfl
  have notBlank : isBlank c = false := by
    simp only [isBlank, Bool.or_eq_false_iff, Bool.and_eq_false_iff, decide_eq_false_iff_not,
      beq_eq_false_iff_ne]
    omega
  simp [isInWord, notBlank, Char.isAlphanum, digit]

/-- But a number alone is no clause word. -/
theorem wordsIn_ofNat (n : Nat) : wordsIn anyCase (ofNat n) = [] := by
  have digits : ∀ c ∈ ofNat n, c.isDigit = true := fun c hc => isDigit_of_mem_ofNat hc
  -- Digits belong to words, so a number is a single word.
  have whole : (ofNat n).splitOnP (fun c => !isInWord c) = [ofNat n] := by
    apply List.splitOnP_eq_singleton
    intro c hc
    rw [isInWord_of_isDigit (digits c hc)]
    rfl
  rw [wordsIn, whole, List.filterMap_cons_none (ClauseWord.ofWord?_of_digits anyCase digits)]
  rfl

/-! ### Outside parentheses -/

/-- Whether nothing is closed in a text beyond what is opened in it and `depth` before it. -/
def StaysWithin (depth : Nat) (t : Text) : Prop :=
  ∀ p, p <+: t → p.count ')' ≤ depth + p.count '('

theorem IsBalanced.staysWithin (h : t.IsBalanced) (depth : Nat) : t.StaysWithin depth := by
  intro p hp
  have opened := h.opened p hp
  omega

/-- An opening parenthesis leads one level deeper. -/
theorem StaysWithin.opened {depth : Nat} (h : StaysWithin depth ('(' :: t)) :
    t.StaysWithin (depth + 1) := by
  intro p hp
  have whole := h ('(' :: p) (List.cons_prefix_cons.2 ⟨rfl, hp⟩)
  simp at whole
  omega

/-- A closing one leads back out, and there has to be a level to leave. -/
theorem StaysWithin.closed {depth : Nat} (h : StaysWithin depth (')' :: t)) :
    ∃ outer, depth = outer + 1 ∧ t.StaysWithin outer := by
  have first := h [')'] (List.cons_prefix_cons.2 ⟨rfl, List.nil_prefix⟩)
  simp at first
  refine ⟨depth - 1, by omega, fun p hp => ?_⟩
  have whole := h (')' :: p) (List.cons_prefix_cons.2 ⟨rfl, hp⟩)
  simp at whole
  omega

/-- Any other character keeps the level. -/
theorem StaysWithin.other {depth : Nat} (h : StaysWithin depth (c :: t)) (opening : c ≠ '(')
    (closing : c ≠ ')') : t.StaysWithin depth := by
  intro p hp
  have whole := h (c :: p) (List.cons_prefix_cons.2 ⟨rfl, hp⟩)
  rw [List.count_cons_of_ne closing, List.count_cons_of_ne opening] at whole
  exact whole

/-- What stands outside the parentheses of two texts in a row is what does in each of them, the
second read with as many parentheses open as the first leaves. -/
theorem outsideFrom_append {depth : Nat} (within_ : a.StaysWithin depth) (b : Text) :
    outsideFrom depth (a ++ b) =
      outsideFrom depth a ++ outsideFrom (depth + a.count '(' - a.count ')') b := by
  -- As nothing is closed beyond what is open, the depth is a true difference all along.
  induction a generalizing depth with
  | nil => rfl
  | cons c rest ih =>
    by_cases opening : c = '('
    · subst opening
      have after : depth + 1 + rest.count '(' - rest.count ')' =
          depth + List.count '(' ('(' :: rest) - List.count ')' ('(' :: rest) := by
        simp
        omega
      simp only [List.cons_append, outsideFrom, if_true]
      rw [ih within_.opened, after]
    by_cases closing : c = ')'
    · subst closing
      obtain ⟨outer, rfl, rest_⟩ := within_.closed
      have after : outer + rest.count '(' - rest.count ')' =
          outer + 1 + List.count '(' (')' :: rest) - List.count ')' (')' :: rest) := by
        simp
        omega
      simp only [List.cons_append, outsideFrom, if_neg opening, if_true, Nat.add_sub_cancel]
      rw [ih rest_, after]
    · simp only [List.cons_append, outsideFrom, if_neg opening, if_neg closing,
        List.count_cons_of_ne opening, List.count_cons_of_ne closing]
      rw [ih (within_.other opening closing)]
      split
      · rfl
      · rfl

/-- Outside its parentheses a text without any has all that it has. -/
theorem outsideFrom_of_none (none_ : ∀ c ∈ t, isParenthesis c = false) : outsideFrom 0 t = t := by
  induction t with
  | nil => rfl
  | cons c rest ih =>
    have other := none_ c List.mem_cons_self
    simp only [isParenthesis, Bool.or_eq_false_iff, beq_eq_false_iff_ne] at other
    simp only [outsideFrom, if_neg other.1, if_neg other.2, if_true]
    rw [ih fun d hd => none_ d (List.mem_cons_of_mem c hd)]

/-- Within parentheses nothing but parentheses is left. -/
theorem isParenthesis_of_mem_outsideFrom {depth : Nat} (within_ : t.StaysWithin depth) :
    ∀ c ∈ outsideFrom (depth + 1) t, isParenthesis c = true := by
  -- The outermost parenthesis is never closed, so the depth does not come down to zero.
  induction t generalizing depth with
  | nil => exact fun c hc => by cases hc
  | cons first rest ih =>
    by_cases opening : first = '('
    · subst opening
      simp only [outsideFrom, if_true, List.forall_mem_cons]
      exact ⟨rfl, ih within_.opened⟩
    by_cases closing : first = ')'
    · subst closing
      obtain ⟨outer, rfl, rest_⟩ := within_.closed
      simp only [outsideFrom, if_neg opening, if_true, List.forall_mem_cons, Nat.add_sub_cancel]
      exact ⟨rfl, ih rest_⟩
    · simp only [outsideFrom, if_neg opening, if_neg closing, if_neg (Nat.succ_ne_zero depth)]
      exact ih (within_.other opening closing)

/-- A parenthesis is in no word, so it ends the word before it. -/
theorem isInWord_of_isParenthesis (h : isParenthesis c = true) : isInWord c = false := by
  have which : c = '(' ∨ c = ')' := by simpa [isParenthesis] using h
  rcases which with rfl | rfl
  · decide
  · decide

/-- Behind a balanced text and a character that belongs to no word, a text is read by itself. -/
theorem clauseWords_append_cons (balanced : a.IsBalanced) (apart : isInWord c = false)
    (other : isParenthesis c = false) (b : Text) :
    clauseWords anyCase (a ++ c :: b) = clauseWords anyCase a ++ clauseWords anyCase b := by
  simp only [isParenthesis, Bool.or_eq_false_iff, beq_eq_false_iff_ne] at other
  have level : 0 + a.count '(' - a.count ')' = 0 := by
    have all := balanced.closed
    omega
  have behind : outsideFrom 0 (c :: b) = c :: outsideFrom 0 b := by
    simp only [outsideFrom, if_neg other.1, if_neg other.2, if_true]
  rw [clauseWords, outsideFrom_append (balanced.staysWithin 0), level, behind,
    wordsIn_append_cons apart]
  rfl

/-- Behind a balanced text, a text that begins with no word is read by itself. -/
theorem clauseWords_append (balanced : a.IsBalanced)
    (begins : ∀ c ∈ b.head?, isInWord c = false ∧ isParenthesis c = false) :
    clauseWords anyCase (a ++ b) = clauseWords anyCase a ++ clauseWords anyCase b := by
  have empty : clauseWords anyCase [] = [] := wordsIn_nil
  cases b with
  | nil => rw [empty, List.append_nil, List.append_nil]
  | cons c rest =>
    obtain ⟨apart, other⟩ := begins c rfl
    have alone : clauseWords anyCase ([] ++ c :: rest) = _ :=
      clauseWords_append_cons isBalanced_nil apart other rest
    rw [empty, List.nil_append, List.nil_append] at alone
    rw [clauseWords_append_cons balanced apart other, alone]

/-- What is enclosed in parentheses has no clause words outside of them. -/
theorem clauseWords_enclosed (balanced : t.IsBalanced) :
    clauseWords anyCase ('(' :: (t ++ [')'])) = [] := by
  have opened : outsideFrom 0 ('(' :: (t ++ [')'])) = '(' :: outsideFrom 1 (t ++ [')']) := rfl
  have last : ∀ depth, outsideFrom depth [')'] = [')'] := fun _ => rfl
  have inner := isParenthesis_of_mem_outsideFrom (balanced.staysWithin 0)
  rw [clauseWords, opened, outsideFrom_append (balanced.staysWithin 1), last]
  apply wordsIn_of_none
  intro c hc
  apply isInWord_of_isParenthesis
  rcases List.mem_cons.1 hc with rfl | hc
  · rfl
  rcases List.mem_append.1 hc with hc | hc
  · exact inner c hc
  · rw [List.mem_singleton.1 hc]
    rfl

/-- Without parentheses every word of a text is outside of them. -/
theorem clauseWords_of_none (none_ : ∀ c ∈ t, isParenthesis c = false) :
    clauseWords anyCase t = wordsIn anyCase t := by
  rw [clauseWords, outsideFrom_of_none none_]

/-! ### Wordless texts -/

/-- A text without parentheses and without the words UNION, ORDER and LIMIT. -/
structure IsWordless (anyCase : Bool) (t : Text) : Prop where
  parentheses : ∀ c ∈ t, isParenthesis c = false
  words : wordsIn anyCase t = []

instance : Decidable (t.IsWordless anyCase) :=
  decidable_of_iff (t.all (fun c => !isParenthesis c) = true ∧ wordsIn anyCase t = [])
    ⟨fun h => ⟨by simpa using h.1, h.2⟩, fun h => ⟨by simpa using h.parentheses, h.words⟩⟩

/-- What is wordless in any letter case is wordless in capital letters. -/
theorem IsWordless.of_anyCase (h : t.IsWordless true) : t.IsWordless anyCase := by
  refine ⟨h.parentheses, List.filterMap_eq_nil_iff.2 fun word member => ?_⟩
  exact ClauseWord.ofWord?_of_anyCase (List.filterMap_eq_nil_iff.1 h.words word member) anyCase

/-- A wordless text has no parentheses to unbalance. -/
theorem IsWordless.keepsBalance (h : t.IsWordless anyCase) (use : TextUse) :
    t.KeepsBalance use := by
  cases use with
  | sql => exact isBalanced_of_none h.parentheses
  | name => exact h.parentheses
  | reference => exact h.parentheses

/-- Wordless texts on either side of a character that belongs to no word are wordless, and the
other way round. -/
theorem isWordless_append_cons (apart : isInWord c = false) (other : isParenthesis c = false) :
    IsWordless anyCase (a ++ c :: b) ↔ a.IsWordless anyCase ∧ b.IsWordless anyCase := by
  constructor
  · rintro ⟨none_, words⟩
    rw [wordsIn_append_cons apart, List.append_eq_nil_iff] at words
    exact ⟨⟨fun d hd => none_ d (List.mem_append_left _ hd), words.1⟩,
      ⟨fun d hd => none_ d (List.mem_append_right _ (List.mem_cons_of_mem c hd)), words.2⟩⟩
  · rintro ⟨⟨left, leftWords⟩, right, rightWords⟩
    refine ⟨fun d hd => ?_, ?_⟩
    · rcases List.mem_append.1 hd with hd | hd
      · exact left d hd
      rcases List.mem_cons.1 hd with rfl | hd
      · exact other
      · exact right d hd
    · rw [wordsIn_append_cons apart, leftWords, rightWords]
      rfl

/-- Wordless texts with a blank between them are wordless. -/
theorem IsWordless.spaced (ha : a.IsWordless anyCase) (hb : b.IsWordless anyCase) :
    IsWordless anyCase (a ++ " " ++ b) := by
  rw [List.append_assoc]
  exact (isWordless_append_cons (by decide) (by decide)).2 ⟨ha, hb⟩

/-- Trimming brings no word in. -/
theorem isWordless_trim (h : t.IsWordless anyCase) : t.trim.IsWordless anyCase := by
  refine ⟨fun c hc => h.parentheses c (mem_of_mem_trim hc), ?_⟩
  rw [wordsIn_trim]
  exact h.words

/-- The pieces between commas have no words that the whole has not. -/
theorem isWordless_of_mem_cutFrom {q : Quotes} {s : Span} {piece : Text}
    (h : t.IsWordless anyCase) (member : piece ∈ cutFrom q ',' s t) :
    piece.IsWordless anyCase := by
  refine ⟨fun c hc => h.parentheses c (mem_of_mem_cutFrom member hc), ?_⟩
  have comma : ∀ c ∈ [','], isInWord c = false := List.forall_mem_singleton.2 rfl
  have all := h.words
  rw [← joined_cutFrom q ',' s t, wordsIn_joined (List.cons_ne_nil _ _) comma] at all
  exact List.flatMap_eq_nil_iff.1 all piece member

/-- Whether a text keeps apart what stands before it and behind it, without a clause word of its
own. -/
def isSpacer (anyCase : Bool) (glue : Text) : Bool :=
  (glue.head?.any fun c => !isInWord c) && (glue.getLast?.any fun c => !isInWord c) &&
    decide (glue.IsWordless anyCase)

theorem isSpacer_of_anyCase {glue : Text} (h : glue.isSpacer true = true) :
    glue.isSpacer anyCase = true := by
  simp only [isSpacer, Bool.and_eq_true, decide_eq_true_eq] at h ⊢
  exact ⟨h.1, h.2.of_anyCase⟩

theorem isSpacer_blank : isSpacer anyCase " " = true := isSpacer_of_anyCase (by decide)

theorem isSpacer_comma : isSpacer anyCase ", " = true := isSpacer_of_anyCase (by decide)

theorem isSpacer_and : isSpacer anyCase " AND " = true := isSpacer_of_anyCase (by decide)

theorem isSpacer_as : isSpacer anyCase " AS " = true := isSpacer_of_anyCase (by decide)

/-- A spacer behind a balanced text has the words of both sides counted one after the other. -/
theorem clauseWords_spaced {glue : Text} (balanced : a.IsBalanced)
    (spacer : glue.isSpacer anyCase = true) (b : Text) :
    clauseWords anyCase (a ++ (glue ++ b)) = clauseWords anyCase a ++ clauseWords anyCase b := by
  simp only [isSpacer, Bool.and_eq_true, decide_eq_true_eq] at spacer
  obtain ⟨⟨begins, ends⟩, wordless⟩ := spacer
  cases glue with
  | nil => cases begins
  | cons c rest =>
    have first : isInWord c = false := by simpa using begins
    have rest_ : IsWordless anyCase rest :=
      ((isWordless_append_cons (a := []) first
        (wordless.parentheses c List.mem_cons_self)).1 wordless).2
    rw [List.cons_append, clauseWords_append_cons balanced first
      (wordless.parentheses c List.mem_cons_self)]
    -- Either the first character is the last one as well, or another one comes last.
    rcases List.eq_nil_or_concat rest with rfl | ⟨inner, d, rfl⟩
    · rfl
    · rw [List.concat_eq_append] at rest_ ends ⊢
      rw [← List.cons_append, List.getLast?_concat] at ends
      have last : isInWord d = false := by simpa using ends
      have other := rest_.parentheses d (List.mem_append_right inner List.mem_cons_self)
      have inner_ := ((isWordless_append_cons last other).1 rest_).1
      have read : clauseWords anyCase (inner ++ d :: b) =
          clauseWords anyCase inner ++ clauseWords anyCase b :=
        clauseWords_append_cons (isBalanced_of_none inner_.parentheses) last other b
      rw [clauseWords_of_none inner_.parentheses, inner_.words, List.nil_append] at read
      rw [List.append_assoc, List.cons_append, List.nil_append, read]

end Text

/-! ## Wordless names and lists -/

/-- What a lexicon writes of its own accord is no parenthesis and belongs to no word. -/
structure Lexicon.WritesNoWords (lex : Lexicon) : Prop extends lex.WritesNoParentheses where
  fieldApart : Text.isInWord lex.quotes.field = false
  valueApart : Text.isInWord lex.quotes.value = false
  separatorApart : Text.isInWord lex.separator = false

/-- No preset writes a clause word of its own. -/
theorem Preset.writesNoWords (preset : Preset) : preset.dialect.toLexicon.WritesNoWords := by
  cases preset <;> exact ⟨⟨rfl, rfl, rfl⟩, by decide, by decide, by decide⟩

namespace Lexicon

variable {lex : Lexicon} {anyCase : Bool} {a t : Text}

/-- The items of a wordless list are wordless. -/
theorem isWordless_of_mem_items (h : t.IsWordless anyCase) {item : Text}
    (member : item ∈ lex.items t) : item.IsWordless anyCase := by
  obtain ⟨piece, piece_, rfl⟩ := List.mem_map.1 member
  exact Text.isWordless_trim (Text.isWordless_of_mem_cutFrom h piece_)

/-- Both parts of a table text are wordless if the whole is. -/
theorem isWordless_splitTable (lex : Lexicon) (h : t.IsWordless anyCase) :
    (lex.splitTable t).1.IsWordless anyCase ∧
      ∀ a, (lex.splitTable t).2 = some a → a.IsWordless anyCase := by
  have whole : t.IsWordless anyCase ∧ ∀ a : Text, none = some a → a.IsWordless anyCase :=
    ⟨h, fun _ absent => by cases absent⟩
  rw [splitTable]
  split
  · exact whole
  split
  · exact whole
  rename_i blank rest cut
  split
  · exact whole
  · -- The table and the alias stand on either side of a space.
    have space : blank = ' ' := by
      have stopped := List.head?_dropWhile_not (p := (· != ' ')) t
      rw [cut] at stopped
      simpa using stopped
    have joined := List.takeWhile_append_dropWhile (p := (· != ' ')) (l := t)
    rw [cut, space] at joined
    rw [← joined] at h
    have parts := (Text.isWordless_append_cons (by decide) (by decide)).1 h
    refine ⟨parts.1, fun a given => ?_⟩
    cases given
    exact parts.2

variable (apart : lex.WritesNoWords)
include apart

/-- A quote that is written twice adds no word, and breaks none that its first copy has not. -/
theorem wordsIn_append_doubled (a t : Text) :
    Text.wordsIn anyCase (a ++ doubled lex.quotes.field t) = Text.wordsIn anyCase (a ++ t) := by
  induction t generalizing a with
  | nil => rfl
  | cons c rest ih =>
    rw [doubled]
    split
    · rename_i quote
      have quote_ : Text.isInWord c = false := by
        rw [quote]
        exact apart.fieldApart
      have later := ih []
      simp only [List.nil_append] at later
      rw [Text.wordsIn_append_cons quote_, Text.wordsIn_cons quote_, later,
        Text.wordsIn_append_cons quote_]
    · -- The character may go on with the last word of what is in front of it.
      have later := ih (a ++ [c])
      simpa using later

/-- Quotes around a name bring no word in. -/
theorem isWordless_quoteName (h : t.IsWordless anyCase) :
    (lex.quoteName t).IsWordless anyCase := by
  refine ⟨fun c hc => ?_, ?_⟩
  · rcases mem_quoteName hc with rfl | hc
    · exact apart.field
    · exact h.parentheses c hc
  · have quote : ∀ c ∈ [lex.quotes.field], Text.isInWord c = false := by
      intro c hc
      rw [List.mem_singleton.1 hc]
      exact apart.fieldApart
    have inner : Text.wordsIn anyCase (doubled lex.quotes.field t) = Text.wordsIn anyCase t :=
      wordsIn_append_doubled apart [] t
    rw [quoteName, Text.wordsIn_cons apart.fieldApart, Text.wordsIn_append_right quote, inner]
    exact h.words

theorem isWordless_ensureQuoted (h : t.IsWordless anyCase) :
    (lex.ensureQuoted t).IsWordless anyCase := by
  rw [ensureQuoted]
  split
  · exact h
  · exact isWordless_quoteName apart h

theorem isWordless_behind_separator (ha : a.IsWordless anyCase) (ht : t.IsWordless anyCase) :
    Text.IsWordless anyCase (a ++ lex.separator :: t) :=
  (Text.isWordless_append_cons apart.separatorApart apart.separator).2 ⟨ha, ht⟩

/-- Nor does a separator between two names. -/
theorem isWordless_qualify (ha : a.IsWordless anyCase) (ht : t.IsWordless anyCase) :
    (lex.qualify a t).IsWordless anyCase := by
  rw [qualify]
  split
  · exact isWordless_behind_separator apart (isWordless_ensureQuoted apart ha)
      (isWordless_ensureQuoted apart ht)
  · exact isWordless_behind_separator apart ha ht

end Lexicon

/-- The rule that given texts have neither parentheses nor clause words. -/
def TextRule.wordless (anyCase : Bool) (lex : Lexicon) : TextRule lex where
  Holds _ t := t.IsWordless anyCase
  table _ h := (lex.isWordless_splitTable h).1
  aliasName _ a h ha := (lex.isWordless_splitTable h).2 a ha

namespace TextRule

variable {lex : Lexicon} {anyCase : Bool}

/-- Wordless texts keep finished SQL balanced. -/
theorem Covers.balancing {ingredients : List Ingredient}
    (h : (TextRule.wordless anyCase lex).Covers ingredients) :
    (TextRule.balancing lex).Covers ingredients := fun use t given =>
  (h use t given).keepsBalance use

/-- Names without words have no parentheses either, so the scope is balanced. -/
theorem CoversScope.balancing {scope : Scope}
    (h : (TextRule.wordless anyCase lex).CoversScope scope) :
    (TextRule.balancing lex).CoversScope scope where
  lexicon := h.lexicon
  tables e he := (h.tables e he).keepsBalance .name
  source a ha := (h.source a ha).keepsBalance .name
  destination a ha := (h.destination a ha).keepsBalance .name

end TextRule

namespace Scope

variable {lex : Lexicon} {anyCase : Bool} {scope : Scope} (apart : lex.WritesNoWords)
  (covers : (TextRule.wordless anyCase lex).CoversScope scope)
include apart covers

/-- A column is wordless where its name and the aliases are. -/
theorem isWordless_column (position : Position) {name : Text} {qualifier : Option Text}
    (name_ : name.IsWordless anyCase) (qualifier_ : ∀ q ∈ qualifier, q.IsWordless anyCase) :
    (scope.column position name qualifier).IsWordless anyCase := by
  unfold column
  rw [covers.lexicon]
  cases qualifier with
  | some q =>
    have aliasName := covers.resolve (qualifier_ q rfl)
    exact Lexicon.isWordless_qualify apart aliasName name_
  | none =>
    dsimp only
    split
    · exact name_
    · cases default_ : scope.defaultAlias position with
      | none => exact name_
      | some a => exact Lexicon.isWordless_qualify apart (covers.defaultAlias default_) name_

/-- So is each item of a list. -/
theorem isWordless_of_mem_listItems {columns : List Text}
    (h : ∀ t ∈ columns, t.IsWordless anyCase) {item : Text}
    (member : item ∈ scope.listItems columns) : item.IsWordless anyCase := by
  obtain ⟨given, given_, rfl⟩ := List.mem_map.1 member
  obtain ⟨column, column_, item_⟩ := List.mem_flatMap.1 (List.mem_filter.1 given_).1
  have wordless := Lexicon.isWordless_of_mem_items (h column column_) item_
  rw [listItem]
  split
  · rename_i a origin
    split
    · rw [covers.lexicon]
      exact Lexicon.isWordless_behind_separator apart (covers.originAlias a origin) wordless
    · exact wordless
  · exact wordless

end Scope

end BoundSql
