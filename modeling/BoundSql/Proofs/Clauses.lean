import BoundSql.Proofs.Assembly

/-!
# Assembled clauses

The parts of a statement that hold no operands of their own, and the ways in which the
others are put around what they hold: each is assembled when what it holds is.
-/

set_option autoImplicit false

namespace BoundSql

open Fragment (plain)

variable {lex : Lexicon} {rule : TextRule lex}

/-! ## Leaves -/

/-- A value is a slot, or a text that begins like a query in parentheses. -/
theorem Value.assembled {v : Value} (h : rule.Covers v.ingredients) :
    Assembled rule (placed v.ingredients) v.fragment := by
  -- Only a text may be written out; a value of any other kind is a slot.
  cases v with
  | text t =>
    by_cases hq : t.isQuery = true
    · simp only [Value.ingredients, Value.fragment, hq, if_true, TextRule.covers_text] at h ⊢
      exact .enclosed (.given h.1)
    · simp only [Value.ingredients, Value.fragment, hq]
      exact .slot _
  | null | bool _ | int _ | float _ | uuid _ | timestamp _ | json _ => exact .slot _

/-- An assigned value is a slot, and an assigned column stands as it is given. -/
theorem Assignment.assembled {a : Assignment} (h : rule.Covers a.ingredients) :
    Assembled rule (placed a.ingredients) a.fragment := by
  cases a with
  | value v => exact .slot v
  | column name =>
    simp only [Assignment.ingredients, TextRule.covers_text] at h
    exact .given h.1

theorem Text.isDigit_of_mem_ofNat {n : Nat} {c : Char} (h : c ∈ Text.ofNat n) :
    c.isDigit = true :=
  Nat.isDigit_of_mem_toDigits (by decide) (by decide) h

/-- A number is a word, so the number of a LIMIT can stand next to keywords. -/
theorem Text.ofNat_isWord (n : Nat) : (Text.ofNat n).all isWordChar = true := by
  rw [List.all_eq_true]
  intro c hc
  simp [isWordChar, Char.isAlphanum, Text.isDigit_of_mem_ofNat hc]

/-- So can the symbol of every operator. -/
theorem Operator.symbol_isWord (op : Operator) : op.symbol.all isWordChar = true := by
  cases op <;> decide

/-- The term for an empty list has no slot; the operands that it leaves out leave no literal
behind. -/
theorem Operator.onEmptyList_assembled (op : Operator) : Assembled rule [] op.onEmptyList := by
  unfold Operator.onEmptyList
  split
  · exact .word (by decide)
  · exact .word (by decide)

section Scopes

variable {scope : Scope} (hs : rule.CoversScope scope)
include hs

/-- A column is written as it is given, or behind an alias, whose text is one of the tables or of
the statement. -/
theorem Scope.column_assembled (position : Position) {name : Text} {qualifier : Option Text}
    (hn : rule.Holds .sql name) (hq : ∀ q ∈ qualifier, rule.Holds .name q) :
    Assembled rule [] (plain (scope.column position name qualifier)) := by
  unfold Scope.column
  rw [hs.lexicon]
  cases qualifier with
  | some q => exact .qualified (hs.resolve (hq q rfl)) hn
  | none =>
    dsimp only
    split
    · exact .given hn
    · -- The name is bare, and its position decides whether it has an alias.
      cases ha : scope.defaultAlias position with
      | none => exact .given hn
      | some a => exact .qualified (hs.defaultAlias ha) hn

/-- The selected columns hold no literal. -/
theorem Scope.selectList_assembled {columns : List Text}
    (h : ∀ t ∈ columns, rule.Holds .sql t) : Assembled rule [] (scope.selectList columns) := by
  rw [Scope.selectList]
  split
  · exact .word (by decide)
  · exact .listed hs h

/-- Nor does a clause of listed columns. -/
theorem Scope.listClause_assembled {keyword : Text} (hk : keyword.all isWordChar = true)
    {columns : List Text} (h : ∀ t ∈ columns, rule.Holds .sql t) :
    AssembledAll rule [] (scope.listClause keyword columns) := by
  unfold Scope.listClause clauseOf
  split
  · exact .nil
  · -- The items are joined as texts first, since the grammar knows a list only as a whole.
    rw [← Fragment.plain_joined]
    have clause := AssembledAll.cons (.word hk) (.single (.listed hs h))
    exact clause

end Scopes

/-- The number of a LIMIT is a word and not a slot. -/
theorem limitClause_assembled (limit : Option Nat) : AssembledAll rule [] (limitClause limit) := by
  cases limit with
  | none => exact .nil
  | some n =>
    refine .single (.word ?_)
    rw [List.all_append, Text.ofNat_isWord, Bool.and_true]
    decide

/-- Texts under one rule can be put side by side. -/
theorem assembled_texts {use : TextUse} {texts : List Text} (h : ∀ t ∈ texts, rule.Holds use t) :
    AssembledAll rule [] (texts.map plain) := by
  induction texts with
  | nil => exact .nil
  | cons t rest ih =>
    have later := ih fun u hu => h u (List.mem_cons_of_mem _ hu)
    have all := AssembledAll.cons (.given (h t List.mem_cons_self)) later
    exact all

/-! ## Terms -/

section Fragments

variable {ps qs : List Ingredient} {f g : Fragment}

/-- The literals of the source come before those of the destination. -/
theorem Operator.infixed_assembled (op : Operator) (hf : Assembled rule ps f)
    (hg : Assembled rule qs g) : Assembled rule (ps ++ qs) (op.infixed f g) := by
  refine .spaced ?_ hf hg
  cases op <;> decide

/-- What follows the only operand of a term has no literal; it may be the empty string. -/
theorem Operator.suffixed_assembled (op : Operator) (hf : Assembled rule ps f) :
    Assembled rule ps (op.suffixed lex f) := by
  rw [← List.append_nil ps]
  unfold Operator.suffixed
  -- Only the two tests for the empty string have anything behind their symbol.
  split
  · exact Operator.infixed_assembled _ hf .emptyString
  · exact Operator.infixed_assembled _ hf .emptyString
  · rw [Fragment.plain_append, ← List.append_assoc]
    exact .spaced (by decide) hf (.word op.symbol_isWord)

/-- The literals of a destination keep their order whatever stands between them. -/
theorem Form.right_assembled (form : Form) {fs : List Fragment} (h : AssembledAll rule ps fs) :
    Assembled rule ps (form.right fs) := by
  unfold Form.right
  split
  · exact .enclosed (h.joined (by decide))
  · exact h.joined (by decide)
  · exact h.joined (by decide)

/-- A conjunction is a word of its own before its term. -/
theorem Comparison.parts_assembled (c : Comparison) (h : Assembled rule ps f) :
    AssembledAll rule ps (c.parts f) := by
  rw [Comparison.parts]
  split
  · rename_i conjunction _
    have keyword : conjunction.keyword.all isWordChar = true := by cases conjunction <;> decide
    have parts := AssembledAll.cons (.word keyword) (.single h)
    exact parts
  · exact .single h

/-- Parentheses around a filter change neither its literals nor their order. -/
theorem Condition.enclosed_assembled (w : Condition) (several : Bool) (h : Assembled rule ps f) :
    Assembled rule ps (w.enclosed several f) := by
  rw [Condition.enclosed]
  split
  · exact .enclosed h
  · exact h

/-! ## What is read from, joined and changed -/

/-- A text, a word and a fragment in a row. -/
theorem Assembled.behind {use : TextUse} {t glue : Text} (ht : rule.Holds use t)
    (hg : isGlue glue = true) (h : Assembled rule ps f) :
    Assembled rule ps (plain (t ++ glue) ++ f) := by
  rw [Fragment.plain_append]
  have row := Assembled.spaced hg (.given ht) h
  exact row

/-- The head of a join is made of a keyword and of names, so it binds nothing. -/
theorem JoinKind.head_assembled (kind : JoinKind) {table aliasName : Text}
    (ht : rule.Holds .name table) (ha : rule.Holds .name aliasName) :
    Assembled rule [] (plain (kind.head table aliasName)) := by
  have keyword : kind.keyword.all isWordChar = true := by cases kind <;> decide
  have blank : isGlue " " = true := by decide
  have declared : Assembled rule [] (plain (kind.keyword ++ " " ++ table)) := by
    rw [Fragment.plain_append, Fragment.plain_append]
    exact .spaced blank (.word keyword) (.given ht)
  rw [JoinKind.head]
  split
  · exact declared
  · rw [Fragment.plain_append, Fragment.plain_append]
    exact .spaced blank declared (.given ha)

/-- A join around its qualifier. -/
theorem join_assembled (kind : JoinKind) {table aliasName : Text}
    (ht : rule.Holds .name table) (ha : rule.Holds .name aliasName) (h : Assembled rule ps f) :
    Assembled rule ps (plain (kind.head table aliasName ++ " ON ") ++ f.parenthesized) := by
  rw [Fragment.plain_append]
  have glue : isGlue " ON " = true := by decide
  have row := Assembled.spaced glue (kind.head_assembled ht ha) (.enclosed h)
  exact row

/-- A table to read from stands as it is given, before its alias if the alias differs. -/
theorem tableSource_assembled {table : Text} {aliasName : Option Text}
    (ht : rule.Holds .name table) (ha : ∀ a ∈ aliasName, rule.Holds .name a) :
    Assembled rule [] (plain (tableSource table aliasName)) := by
  unfold tableSource
  split
  · exact .given ht
  · rename_i a
    split
    · exact .given ht
    · rw [Fragment.plain_append, Fragment.plain_append]
      exact .spaced (by decide) (.given ht) (.given (ha a rfl))

/-- A draft to read from keeps its literals under whatever name it is given. -/
theorem derivedSource_assembled {aliasName : Option Text}
    (ha : ∀ a ∈ aliasName, rule.Holds .name a) (h : Assembled rule ps f) :
    Assembled rule ps (derivedSource f aliasName) := by
  rw [← List.append_nil ps]
  rw [derivedSource]
  rw [Fragment.plain_append, ← List.append_assoc]
  refine .spaced (by decide) (.enclosed h) ?_
  -- The name for a draft without one is a word, and a given name is under the rule.
  cases aliasName with
  | none => exact .word (by decide)
  | some a => exact .given (ha a rfl)

/-- The target of a mutation is its name, in quotes where it needs them. -/
theorem Mutation.writtenTarget_assembled (m : Mutation) (h : rule.Holds .name m.target) :
    Assembled rule [] (plain (m.writtenTarget lex)) := by
  rw [Mutation.writtenTarget]
  split
  · exact .quoted h
  · exact .given h

/-! ## Assignments and table expressions -/

/-- The assigned values in order, each in a slot of its own. -/
theorem assigned_assembled {assignments : List (Text × Assignment)}
    (h : rule.Covers (assignmentIngredients assignments)) :
    AssembledAll rule (placed (assignmentIngredients assignments))
      (assignments.map fun a => a.2.fragment) := by
  induction assignments with
  | nil => exact .nil
  | cons a rest ih =>
    simp only [assignmentIngredients, List.flatMap_cons, List.cons_append, TextRule.covers_text,
      TextRule.covers_append, placed_text, placed_append] at h ⊢
    exact .cons (a.2.assembled h.2.1) (ih h.2.2)

/-- The same values behind their columns, as an UPDATE has them. -/
theorem settings_assembled {assignments : List (Text × Assignment)}
    (h : rule.Covers (assignmentIngredients assignments)) :
    AssembledAll rule (placed (assignmentIngredients assignments))
      (assignments.map fun a => plain (a.1 ++ " = ") ++ a.2.fragment) := by
  induction assignments with
  | nil => exact .nil
  | cons a rest ih =>
    simp only [assignmentIngredients, List.flatMap_cons, List.cons_append, TextRule.covers_text,
      TextRule.covers_append, placed_text, placed_append] at h ⊢
    exact .cons (.behind h.1 (by decide) (a.2.assembled h.2.1)) (ih h.2.2)

/-- The columns that are assigned to are under the rule for names. -/
theorem TextRule.holds_of_assigned {assignments : List (Text × Assignment)}
    (h : rule.Covers (assignmentIngredients assignments)) :
    ∀ column ∈ assignments.map Prod.fst, rule.Holds .name column := by
  intro column hc
  obtain ⟨a, ha, rfl⟩ := List.mem_map.1 hc
  exact h .name a.1 (List.mem_flatMap.2 ⟨a, ha, List.mem_cons_self⟩)

/-- An INSERT has the slots of its values behind its columns, in the same order. -/
theorem Mutation.insertion_assembled (m : Mutation) (ht : rule.Holds .name m.target)
    (h : rule.Covers (assignmentIngredients m.assignments)) :
    Assembled rule (placed (assignmentIngredients m.assignments)) (m.insertion lex) := by
  have blank : isGlue " " = true := by decide
  have comma : isGlue ", " = true := by decide
  have columns := (assembled_texts (TextRule.holds_of_assigned h)).joined comma
  rw [← Fragment.plain_joined] at columns
  -- The statement is put together from its left end: verb, target, columns and values.
  have verb : Assembled rule [] (plain "INSERT INTO") := .word (by decide)
  have target := Assembled.spaced blank verb (m.writtenTarget_assembled ht)
  have head := Assembled.spaced blank target (.enclosed columns)
  have keyword : isGlue " VALUES " = true := by decide
  have values := (assigned_assembled h).joined comma
  have whole := Assembled.spaced keyword head (.enclosed values)
  simpa [Mutation.insertion, plain] using whole

/-- The table expressions of a WITH around their bodies. -/
theorem tableExpressions_assembled {names : List Text} (hn : ∀ t ∈ names, rule.Holds .name t)
    {bodies : List Fragment} (hl : names.length = bodies.length) (h : AssembledAll rule ps bodies) :
    Assembled rule ps (tableExpressions names bodies) := by
  refine AssembledAll.joined (by decide) ?_
  -- Names and bodies run out together, so no name is left without its body.
  induction h generalizing names with
  | nil =>
    rw [List.zipWith_nil_right]
    exact .nil
  | cons head tail ih =>
    cases names with
    | nil => cases hl
    | cons name names =>
      have later := ih (fun t ht => hn t (List.mem_cons_of_mem _ ht)) (by simpa using hl)
      exact .cons (.behind (hn name List.mem_cons_self) (by decide) (.enclosed head)) later

end Fragments

end BoundSql
