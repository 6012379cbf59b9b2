import BoundSql.Proofs.GivenTexts
import BoundSql.Proofs.Terms

/-!
# Assembly of SQL

How a rendered fragment is put together. `Assembled` is a grammar of fragments: its
leaves are keywords, given texts in the shapes in which the lexicon writes them, and
slots, and its nodes put fragments side by side with keywords, commas or blanks
between them, or enclose them in parentheses. Two fragments never touch: what follows
a slot begins with a blank, a comma or a closing parenthesis.

What holds of every leaf and is kept by the nodes holds of every assembled fragment, by
induction on the grammar and without another look at the syntax of statements.
-/

set_option autoImplicit false

namespace BoundSql

open Fragment (plain)

/-- The characters of keywords, comparison signs and numbers. -/
def isWordChar (c : Char) : Bool := c.isAlphanum || " ,=<>!*_".toList.contains c

/-- The characters with which a word that stands between two fragments may begin. -/
def isGlue (t : Text) : Bool := t.all isWordChar && (t.head? == some ' ' || t.head? == some ',')

/-- The ingredients that have a place of their own in the SQL. -/
def placed (ingredients : List Ingredient) : List Ingredient :=
  ingredients.filter Ingredient.isPlaced

/-- The ingredients with a place are found piece by piece. -/
@[simp] theorem placed_append (ps qs : List Ingredient) :
    placed (ps ++ qs) = placed ps ++ placed qs := List.filter_append ps qs

/-- A text has no place of its own: it is written where it belongs, and it holds no literal. -/
@[simp] theorem placed_text (use : TextUse) (t : Text) (ps : List Ingredient) :
    placed (.text use t :: ps) = placed ps := rfl

/-- A draft has its place where it is rendered. -/
@[simp] theorem placed_draft (d : Draft) (ps : List Ingredient) :
    placed (.draft d :: ps) = .draft d :: placed ps := rfl

@[simp] theorem placed_map_text (use : TextUse) (texts : List Text) :
    placed (texts.map (.text use)) = [] := by
  induction texts with
  | nil => rfl
  | cons t rest ih => exact ih

@[simp] theorem literals_append (ps qs : List Ingredient) :
    literals (ps ++ qs) = literals ps ++ literals qs := List.filterMap_append

/-- Literals are never among the ingredients without a place. -/
@[simp] theorem literals_placed (ps : List Ingredient) : literals (placed ps) = literals ps := by
  induction ps with
  | nil => rfl
  | cons i rest ih =>
    cases i with
    | text use t => exact ih
    | value v => exact congrArg (v :: ·) ih
    | draft d => exact ih

/-! ## The grammar -/

/-- How SQL is put together, with the literals and the drafts in it in order. -/
inductive Assembled {lex : Lexicon} (rule : TextRule lex) : List Ingredient → Fragment → Prop where
  /-- A keyword, a sign or a number, or several with blanks between. -/
  | word {t : Text} (chars : t.all isWordChar = true) : Assembled rule [] (plain t)
  /-- The empty string. -/
  | emptyString : Assembled rule [] (plain [lex.quotes.value, lex.quotes.value])
  /-- A text as it is given. -/
  | given {use : TextUse} {t : Text} (holds : rule.Holds use t) : Assembled rule [] (plain t)
  /-- A name in quotes. -/
  | quoted {t : Text} (holds : rule.Holds .name t) : Assembled rule [] (plain (lex.quoteName t))
  /-- A column behind an alias. -/
  | qualified {a t : Text} (alias_ : rule.Holds .name a) (column : rule.Holds .sql t) :
      Assembled rule [] (plain (lex.qualify a t))
  /-- The items of a list of columns, taken apart and qualified as a whole. -/
  | listed {scope : Scope} {columns : List Text} (covers : rule.CoversScope scope)
      (holds : ∀ t ∈ columns, rule.Holds .sql t) :
      Assembled rule [] (plain (Text.joined ", " (scope.listItems columns)))
  /-- A bound literal. -/
  | slot (v : Value) : Assembled rule [.value v] [.slot v]
  /-- A draft in place, as it is rendered by itself. -/
  | nested {d : Draft} {ps : List Ingredient} {f : Fragment} (renders : d.render lex = .ok f)
      (inner : Assembled rule ps f) : Assembled rule (.draft d :: ps) f
  | enclosed {ps : List Ingredient} {f : Fragment} (inner : Assembled rule ps f) :
      Assembled rule ps f.parenthesized
  /-- Two fragments with a word between that begins with a blank or a comma. -/
  | spaced {ps qs : List Ingredient} {f g : Fragment} {glue : Text} (word : isGlue glue = true)
      (left : Assembled rule ps f) (right : Assembled rule qs g) :
      Assembled rule (ps ++ qs) (f ++ plain glue ++ g)

/-- Fragments that are assembled one by one. -/
inductive AssembledAll {lex : Lexicon} (rule : TextRule lex) :
    List Ingredient → List Fragment → Prop where
  | nil : AssembledAll rule [] []
  | cons {ps qs : List Ingredient} {f : Fragment} {fs : List Fragment}
      (head : Assembled rule ps f) (tail : AssembledAll rule qs fs) :
      AssembledAll rule (ps ++ qs) (f :: fs)

namespace Fragment

theorem plain_append (a b : Text) : plain (a ++ b) = plain a ++ plain b := List.map_append

/-- Texts may be joined before they become fragments or after. -/
theorem plain_joined (separator : Text) (texts : List Text) :
    plain (Text.joined separator texts) = joined separator (texts.map plain) := by
  -- The separator stands only where there is a further text.
  induction texts with
  | nil => rfl
  | cons t rest ih =>
    cases rest with
    | nil => simp [Text.joined, joined]
    | cons u rest =>
      simp only [Text.joined, joined, List.map_cons, List.intercalate_cons_cons,
        plain_append] at ih ⊢
      rw [ih]

/-- Each part but the first stands behind a separator. -/
theorem joined_cons (separator : Text) (first : Fragment) (later : List Fragment) :
    joined separator (first :: later) = first ++ later.flatMap (plain separator ++ ·) := by
  induction later generalizing first with
  | nil => simp [joined]
  | cons second rest ih =>
    have rest_ := ih second
    simp only [joined] at rest_ ⊢
    rw [List.intercalate_cons_cons, rest_, List.flatMap_cons, List.append_assoc, List.append_assoc]

/-- What is joined behind a row that is not empty stands behind a separator. -/
theorem joined_append (separator : Text) {front : List Fragment} (written : front ≠ [])
    (parts : List Fragment) : joined separator (front ++ parts) =
      joined separator front ++ parts.flatMap (plain separator ++ ·) := by
  obtain ⟨first, later, rfl⟩ := List.exists_cons_of_ne_nil written
  rw [List.cons_append, joined_cons, joined_cons, List.flatMap_append, List.append_assoc]

/-- A last part stands behind all others and a separator. -/
theorem joined_concat (separator : Text) {front : List Fragment} (written : front ≠ [])
    (last : Fragment) :
    joined separator (front ++ [last]) = joined separator front ++ plain separator ++ last := by
  rw [joined_append separator written, List.flatMap_singleton, List.append_assoc]

end Fragment

variable {lex : Lexicon} {rule : TextRule lex}

/-- The values of what is assembled are the literals that it is assembled from. -/
theorem Assembled.values_eq {ps : List Ingredient} {f : Fragment} (h : Assembled rule ps f) :
    f.values = literals ps := by
  -- Only slots hold values; every other leaf is text, and the nodes add nothing but text.
  induction h with
  | word _ => exact Fragment.values_plain _
  | emptyString => rfl
  | given _ => exact Fragment.values_plain _
  | quoted _ => exact Fragment.values_plain _
  | qualified _ _ => exact Fragment.values_plain _
  | listed _ _ => exact Fragment.values_plain _
  | slot v => rfl
  | nested _ _ ih => exact ih
  | enclosed _ ih =>
    rw [Fragment.parenthesized, Fragment.values_append, Fragment.values_append,
      Fragment.values_plain, Fragment.values_plain, List.append_nil]
    exact ih
  | spaced _ _ _ ihl ihr =>
    rw [Fragment.values_append, Fragment.values_append, Fragment.values_plain, List.append_nil,
      literals_append, ihl, ihr]

namespace AssembledAll

/-- One assembled fragment is a row of one. -/
theorem single {ps : List Ingredient} {f : Fragment} (h : Assembled rule ps f) :
    AssembledAll rule ps [f] := by
  simpa using AssembledAll.cons h .nil

/-- Two rows side by side are a row. -/
theorem append {ps qs : List Ingredient} {fs gs : List Fragment} (hf : AssembledAll rule ps fs)
    (hg : AssembledAll rule qs gs) : AssembledAll rule (ps ++ qs) (fs ++ gs) := by
  induction hf with
  | nil => exact hg
  | cons head _ ih =>
    rw [List.append_assoc]
    exact .cons head ih

/-- Assembled fragments in order, with a word between each two, are assembled. -/
theorem joined {separator : Text} (word : isGlue separator = true) {ps : List Ingredient}
    {fs : List Fragment} (h : AssembledAll rule ps fs) :
    Assembled rule ps (Fragment.joined separator fs) := by
  induction h with
  | nil => exact .word (t := []) rfl
  | @cons ps qs f fs head tail ih =>
    -- The separator stands before the rest only if there is one.
    cases tail with
    | nil => simpa [Fragment.joined] using head
    | cons second rest =>
      have both := Assembled.spaced word head ih
      simpa only [Fragment.joined, List.intercalate_cons_cons] using both

/-- A clause is nothing at all, or its keyword and what it governs. -/
theorem clauseOf {keyword separator : Text} (hk : keyword.all isWordChar = true)
    (hs : isGlue separator = true) {ps : List Ingredient} {fs : List Fragment}
    (h : AssembledAll rule ps fs) : AssembledAll rule ps (clauseOf keyword separator fs) := by
  cases h with
  | nil => exact .nil
  | cons head tail =>
    have governed := (AssembledAll.cons head tail).joined hs
    have clause := AssembledAll.cons (.word hk) (.single governed)
    exact clause

end AssembledAll

end BoundSql
