import BoundSql.Proofs.Naming
import BoundSql.Proofs.Rendering

/-!
# Reading the marks back

A reader of finished SQL finds the marks of bound values by their first character, the
sign of the placeholder style. It knows nothing of how the SQL was made, so it can be
misled by a sign in a given text, and by a digit that follows the number of a mark.

Where neither the given texts nor the quotes and the separator of the lexicon have the
sign, the reader finds the marks of the bound values in order and nothing else
(`Draft.marks_of_renderedWithin`). On the way rendered fragments are shown to be legible:
without the sign among their characters, and with no digit behind a slot.
-/

set_option autoImplicit false

namespace BoundSql

open Fragment (plain)

/-! ## The reader -/

namespace Placeholder

/-- The character with which the marks of a style begin. -/
def sign : Placeholder → Char
  | .question => '?'
  | .format => '%'
  | .numbered => '$'

/-- The mark that begins with `c` and goes on into `rest`, if there is one. A number is
read as far as its digits go. -/
def markAt (c : Char) (rest : Text) : Placeholder → Option Text
  | .question => if c = '?' then some "?" else none
  | .format => if c = '%' ∧ rest.head? = some 's' then some "%s" else none
  | .numbered =>
    if c = '$' ∧ rest.takeWhile Char.isDigit ≠ [] then some ('$' :: rest.takeWhile Char.isDigit)
    else none

/-- The marks of a style in a text, read from left to right. -/
def marks (style : Placeholder) : Text → List Text
  | [] => []
  | c :: rest => (style.markAt c rest).toList ++ style.marks rest

/-- A mark begins with the sign of its style. -/
theorem markAt_of_ne {style : Placeholder} {c : Char} (h : c ≠ style.sign) (rest : Text) :
    style.markAt c rest = none := by
  cases style <;> exact if_neg (by simp_all [sign])

/-- Other characters are read over. -/
theorem marks_cons_of_ne {style : Placeholder} {c : Char} (h : c ≠ style.sign) (rest : Text) :
    style.marks (c :: rest) = style.marks rest := by
  rw [marks, markAt_of_ne h]
  rfl

/-- So is a text without the sign. -/
theorem marks_append_of_notMem {style : Placeholder} {text : Text} (h : style.sign ∉ text)
    (rest : Text) : style.marks (text ++ rest) = style.marks rest := by
  induction text with
  | nil => rfl
  | cons c text ih =>
    rw [List.mem_cons, not_or] at h
    rw [List.cons_append, marks_cons_of_ne (Ne.symm h.1), ih h.2]

/-- Whether a text leaves the number before it as it is: it begins with no digit. -/
def endsNumber (text : Text) : Prop := ∀ c ∈ text.head?, c.isDigit = false

/-- The digits of a number end where the next character is no digit. -/
theorem takeWhile_digits_append {digits text : Text} (hd : ∀ c ∈ digits, c.isDigit = true)
    (ht : endsNumber text) : (digits ++ text).takeWhile Char.isDigit = digits := by
  rw [List.takeWhile_append_of_pos hd]
  cases text with
  | nil => simp
  | cons c text => simp [ht c rfl]

/-- A mark is read as one, and reading goes on behind it. -/
theorem marks_token_append (style : Placeholder) (index : Nat) {rest : Text}
    (h : endsNumber rest) :
    style.marks (style.token index ++ rest) = style.token index :: style.marks rest := by
  cases style with
  | question => rfl
  | format => rfl
  | numbered =>
    have digits : ∀ c ∈ Text.ofNat index, c.isDigit = true := fun c hc =>
      Text.isDigit_of_mem_ofNat hc
    have number := takeWhile_digits_append digits h
    have nonempty : Text.ofNat index ≠ [] := Nat.toDigits_ne_nil
    have noSign : numbered.sign ∉ Text.ofNat index := by
      intro hc
      exact absurd (digits _ hc) (by decide)
    -- The digits of the number are read over once more, and none of them is a sign.
    show (numbered.markAt '$' (Text.ofNat index ++ rest)).toList ++
      numbered.marks (Text.ofNat index ++ rest) = _
    rw [markAt, number, if_pos ⟨rfl, nonempty⟩, marks_append_of_notMem noSign]
    rfl

end Placeholder

/-! ## Legible fragments -/

namespace Fragment

/-- Whether a fragment leaves the number before it as it is: it begins with no digit. -/
def endsNumber : Fragment → Prop
  | .char c :: _ => c.isDigit = false
  | _ => True

/-- Nothing in a fragment can be taken for a mark, or for a part of one. -/
def Legible (sign : Char) : Fragment → Prop
  | [] => True
  | .char c :: rest => c ≠ sign ∧ Legible sign rest
  | .slot _ :: rest => endsNumber rest ∧ Legible sign rest

variable {sign : Char}

/-- A text without the sign is legible. -/
theorem legible_plain {text : Text} (h : ∀ c ∈ text, c ≠ sign) : Legible sign (plain text) := by
  induction text with
  | nil => trivial
  | cons c rest ih =>
    exact ⟨h c List.mem_cons_self, ih fun d hd => h d (List.mem_cons_of_mem _ hd)⟩

/-- What ends a number before one fragment ends it before both. -/
theorem endsNumber_append {f g : Fragment} (hf : endsNumber f) (hg : endsNumber g) :
    endsNumber (f ++ g) := by
  cases f with
  | nil => exact hg
  | cons cell rest =>
    cases cell with
    | char c => exact hf
    | slot v => trivial

/-- Legible fragments side by side are legible if the second one ends any number before it. -/
theorem Legible.append {f g : Fragment} (hf : Legible sign f) (hg : Legible sign g)
    (begins : endsNumber g) : Legible sign (f ++ g) := by
  induction f with
  | nil => exact hg
  | cons cell rest ih =>
    cases cell with
    | char c => exact ⟨hf.1, ih hf.2⟩
    | slot v => exact ⟨endsNumber_append hf.1 begins, ih hf.2⟩

/-- A text before a legible fragment needs no such care, since it ends in no mark. -/
theorem Legible.behind_plain {text : Text} {f : Fragment} (ht : Legible sign (plain text))
    (hf : Legible sign f) : Legible sign (plain text ++ f) := by
  induction text with
  | nil => exact hf
  | cons c rest ih => exact ⟨ht.1, ih ht.2⟩

theorem endsNumber_sql {f : Fragment} (h : endsNumber f) (style : Placeholder) (prior : Nat) :
    Placeholder.endsNumber (f.sql style prior) := by
  cases f with
  | nil =>
    intro c hc
    cases hc
  | cons cell rest =>
    intro c hc
    cases cell with
    | char first =>
      cases hc
      exact h
    | slot v =>
      -- A mark begins with the sign of its style, which is no digit.
      cases style <;> cases hc <;> rfl

/-- The marks in the SQL of a legible fragment are those of its slots. -/
theorem Legible.marks_sql {style : Placeholder} {f : Fragment} (h : Legible style.sign f)
    (prior : Nat) :
    style.marks (f.sql style prior) =
      (List.range' (prior + 1) f.values.length).map style.token := by
  induction f generalizing prior with
  | nil => rfl
  | cons cell rest ih =>
    cases cell with
    | char c =>
      rw [sql, Placeholder.marks_cons_of_ne h.1, ih h.2]
      rfl
    | slot v =>
      rw [sql, Placeholder.marks_token_append _ _ (endsNumber_sql h.1 style _), ih h.2]
      rfl

end Fragment

/-! ## What is rendered is legible -/

/-- The lexicon writes no `sign` of its own accord. -/
structure Lexicon.Avoids (lex : Lexicon) (sign : Char) : Prop where
  field : lex.quotes.field ≠ sign
  value : lex.quotes.value ≠ sign
  separator : lex.separator ≠ sign

/-- No text that goes into the SQL of the draft has the `sign`. -/
def Draft.Avoids (d : Draft) (sign : Char) : Prop :=
  ∀ use t, Ingredient.text use t ∈ d.ingredients → sign ∉ t

/-- The rule that given texts do not have the `sign`. -/
def TextRule.without (lex : Lexicon) (sign : Char) : TextRule lex where
  Holds _ t := sign ∉ t
  table t h hc := h ((lex.mem_splitTable t).1 sign hc)
  aliasName t a h ha hc := h ((lex.mem_splitTable t).2 a ha sign hc)

section Legibility

variable {lex : Lexicon} {style : Placeholder}

/-- No keyword, sign or number has the sign of a style. -/
theorem isWordChar_sign (style : Placeholder) : isWordChar style.sign = false := by
  cases style <;> decide

/-- So keywords are legible. -/
theorem legible_of_word {text : Text} (h : text.all isWordChar = true) :
    Fragment.Legible style.sign (plain text) := by
  refine Fragment.legible_plain fun c hc same => ?_
  have word := List.all_eq_true.1 h c hc
  rw [same, isWordChar_sign style] at word
  cases word

/-- Glue begins with a blank or a comma, and both end a number. -/
theorem endsNumber_of_isGlue {glue : Text} (h : isGlue glue = true) (f : Fragment) :
    (plain glue ++ f).endsNumber := by
  cases glue with
  | nil => simp [isGlue] at h
  | cons c rest =>
    have first : c = ' ' ∨ c = ',' := by simpa [isGlue] using (Bool.and_eq_true_iff.1 h).2
    rcases first with rfl | rfl <;> rfl

/-- What is assembled of texts without the sign is legible. -/
theorem Assembled.legible (avoids : lex.Avoids style.sign) {ps : List Ingredient} {f : Fragment}
    (h : Assembled (.without lex style.sign) ps f) : f.Legible style.sign := by
  induction h with
  | word chars => exact legible_of_word chars
  | emptyString =>
    refine Fragment.legible_plain fun c hc => ?_
    have quote : c = lex.quotes.value := by simpa using hc
    exact quote ▸ avoids.value
  | given holds => exact Fragment.legible_plain fun c hc same => holds (same ▸ hc)
  | quoted holds =>
    refine Fragment.legible_plain fun c hc same => ?_
    rcases Lexicon.mem_quoteName hc with h | h
    · exact avoids.field (h.symm.trans same)
    · exact holds (same ▸ h)
  | qualified alias_ column =>
    refine Fragment.legible_plain fun c hc same => ?_
    rcases Lexicon.mem_qualify hc with h | h | h | h
    · exact avoids.field (h.symm.trans same)
    · exact avoids.separator (h.symm.trans same)
    · exact alias_ (same ▸ h)
    · exact column (same ▸ h)
  | listed covers holds =>
    refine Fragment.legible_plain fun c hc same => ?_
    rcases Text.mem_joined hc with h | ⟨item, hi, h⟩
    · rw [same] at h
      cases style <;> exact absurd h (by decide)
    rcases Scope.mem_listItems hi h with h | ⟨column, hcolumn, h⟩ | ⟨a, ha, h⟩
    · exact avoids.separator (covers.lexicon ▸ h.symm.trans same)
    · exact holds column hcolumn (same ▸ h)
    · exact covers.originAlias a ha (same ▸ h)
  | slot v => exact ⟨trivial, trivial⟩
  | nested _ _ ih => exact ih
  | enclosed _ ih =>
    have opening : Fragment.Legible style.sign (plain "(") := by
      cases style <;> exact ⟨by decide, trivial⟩
    have closing : Fragment.Legible style.sign (plain ")") := by
      cases style <;> exact ⟨by decide, trivial⟩
    show Fragment.Legible style.sign (plain "(" ++ _ ++ plain ")")
    -- The closing parenthesis ends a mark at the end of what is enclosed.
    rw [List.append_assoc]
    exact ⟨opening.1, ih.append closing rfl⟩
  | spaced word _ _ ihl ihr =>
    have glue : Fragment.Legible style.sign (plain _) :=
      legible_of_word (Bool.and_eq_true_iff.1 word).1
    -- What follows a slot at the end of the left fragment is the word, which ends the mark.
    rw [List.append_assoc]
    exact ihl.append (glue.behind_plain ihr) (endsNumber_of_isGlue word _)

end Legibility

/-! ## Marks and values -/

/-- Whatever a draft is rendered to behind some bound values, the marks in the SQL are
those of the values that are appended, in order: where neither the given texts nor the
lexicon have the sign of the marks, there are no others. -/
theorem Draft.marks_of_renderedWithin (d : Draft) (dialect : Dialect) (prior : List Value)
    {r : Rendered} (lexicon : dialect.toLexicon.Avoids dialect.placeholder.sign)
    (texts : d.Avoids dialect.placeholder.sign) (ok : d.renderedWithin dialect prior = .ok r) :
    ∃ appended, r.params = prior ++ appended ∧
      dialect.placeholder.marks r.sql =
        (List.range' (prior.length + 1) appended.length).map dialect.placeholder.token := by
  cases hf : d.render dialect.toLexicon with
  | error fault =>
    rw [Draft.renderedWithin_of_error hf] at ok
    cases ok
  | ok f =>
    rw [Draft.renderedWithin_of_ok hf] at ok
    cases ok
    have covers : (TextRule.without dialect.toLexicon dialect.placeholder.sign).Covers
        d.ingredients := texts
    have assembled := d.yields_assembled covers f hf
    exact ⟨f.values, rfl, (assembled.legible lexicon).marks_sql prior.length⟩

/-- Behind one bound value the marks of a draft with two are the second and the third. -/
theorem Draft.marks_of_adultBuyers :
    ∃ r, (Draft.adultBuyers (.int 18) (.int 100)).renderedWithin
        { Dialect.generic with placeholder := .numbered } [.bool true] = .ok r ∧
      r.sql = "SELECT id FROM users WHERE age >= $2 AND id IN " ++
        "(SELECT user_id FROM orders WHERE total > $3)".toList ∧
      ∃ appended, r.params = [.bool true] ++ appended ∧
        Placeholder.numbered.marks r.sql =
          (List.range' 2 appended.length).map Placeholder.numbered.token := by
  let d := Draft.adultBuyers (.int 18) (.int 100)
  let dialect : Dialect := { Dialect.generic with placeholder := .numbered }
  have lexicon : dialect.toLexicon.Avoids '$' := ⟨by decide, by decide, by decide⟩
  have texts : d.Avoids '$' := by
    have ingredients : d.ingredients =
      [.text .sql "id", .text .name "users", .text .sql "age", .value (.int 18), .text .sql "id",
        .draft (.largeOrders (.int 100)), .text .sql "user_id", .text .name "orders",
        .text .sql "total", .value (.int 100)] := rfl
    intro use t ht
    rw [ingredients] at ht
    simp only [List.mem_cons, List.not_mem_nil, Ingredient.text.injEq, reduceCtorEq, or_false,
      false_or] at ht
    rcases ht with ⟨-, rfl⟩ | ⟨-, rfl⟩ | ⟨-, rfl⟩ | ⟨-, rfl⟩ | ⟨-, rfl⟩ | ⟨-, rfl⟩ | ⟨-, rfl⟩ <;>
      decide
  have sql : (d.renderedWithin dialect [.bool true]).toOption.map Rendered.sql =
      some ("SELECT id FROM users WHERE age >= $2 AND id IN " ++
        "(SELECT user_id FROM orders WHERE total > $3)".toList) := by decide +kernel
  cases ok : d.renderedWithin dialect [.bool true] with
  | error fault =>
    rw [ok] at sql
    cases sql
  | ok r =>
    rw [ok] at sql
    exact ⟨r, rfl, Option.some.inj sql,
      Draft.marks_of_renderedWithin d dialect [.bool true] lexicon texts ok⟩

end BoundSql
