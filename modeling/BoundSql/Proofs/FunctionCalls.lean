import BoundSql.Proofs.Parentheses

/-!
# Function calls in lists of columns

A function call in a list of columns is not qualified, but it is taken apart at its unquoted commas
first, and what is looked at are the pieces. A call without an unquoted comma is listed as it is. A
call with one is not, although the comma stands within its parentheses and the call is one item of
the list (`Scope.listItems_call`): it is listed as two items or more, and each of them is qualified
or not by itself.
-/

set_option autoImplicit false

namespace BoundSql

open Fragment (plain)

/-- Every unquoted comma of a text stands within a pair of unquoted parentheses, and so the text is
one item of a list. -/
def Lexicon.IsOneItem (lex : Lexicon) (text : Text) : Prop :=
  ∀ before after, text.plainChars lex.quotes = before ++ ',' :: after →
    ∃ left opened closed right, before = left ++ '(' :: opened ∧ after = closed ++ ')' :: right ∧
      Text.IsBalanced (opened ++ ',' :: closed)

/-- Where a text is taken apart at each of two characters that differ, one of the two stands
before the other. -/
theorem Text.append_cons_cases {c d : Char} (differ : c ≠ d) {a b before after : Text}
    (same : a ++ c :: b = before ++ d :: after) :
    (∃ between, before = a ++ c :: between ∧ b = between ++ d :: after) ∨
      ∃ between, a = before ++ d :: between ∧ after = between ++ c :: b := by
  rcases List.append_eq_append_iff.1 same with ⟨front, rfl, rest⟩ | ⟨front, rfl, rest⟩
  · rcases List.cons_eq_append_iff.1 rest with ⟨-, clash⟩ | ⟨between, rfl, rfl⟩
    · exact absurd (List.cons.inj clash).1.symm differ
    · exact .inl ⟨between, rfl, rfl⟩
  · rcases List.cons_eq_append_iff.1 rest with ⟨-, clash⟩ | ⟨between, rfl, rfl⟩
    · exact absurd (List.cons.inj clash).1 differ
    · exact .inr ⟨between, rfl, rfl⟩

/-- A call whose arguments are balanced is one item, if no comma stands before or behind it. -/
theorem Lexicon.isOneItem_of_enclosed {lex : Lexicon} {text left inner right : Text}
    (call : text.plainChars lex.quotes = left ++ '(' :: (inner ++ ')' :: right))
    (noLeft : ',' ∉ left) (noRight : ',' ∉ right) (balanced : inner.IsBalanced) :
    lex.IsOneItem text := by
  intro before after comma
  rw [call] at comma
  rcases Text.append_cons_cases (by decide) comma with
    ⟨opened, before_, arguments⟩ | ⟨between, outside, -⟩
  · rcases Text.append_cons_cases (by decide) arguments with
      ⟨between, -, outside⟩ | ⟨closed, inside, after_⟩
    · rw [outside] at noRight
      exact absurd (List.mem_append_right between List.mem_cons_self) noRight
    · rw [inside] at balanced
      exact ⟨left, opened, closed, right, before_, after_, balanced⟩
  · rw [outside] at noLeft
    exact absurd (List.mem_append_right before List.mem_cons_self) noLeft

namespace Text

variable {q : Quotes} {s : Span} {t : Text}

/-- A text that has a parenthesis has a piece that is not blank. -/
theorem exists_piece_of_parenthesis (q : Quotes) (s : Span) {c : Char} (mem : c ∈ t)
    (parenthesis : isParenthesis c = true) : ∃ piece ∈ cutFrom q ',' s t, piece.trim ≠ [] := by
  have kept : c ∈ t.parentheses := List.mem_filter.2 ⟨mem, parenthesis⟩
  rw [← flatMap_parentheses_cutFrom q s t] at kept
  obtain ⟨piece, member, inPiece⟩ := List.mem_flatMap.1 kept
  refine ⟨piece, member, fun blank => ?_⟩
  rw [← parentheses_trim, blank] at inPiece
  cases inPiece

end Text

namespace Scope

variable {scope : Scope} {call : Text}

/-- The items that are listed are those that are left of the pieces. -/
theorem length_listItems (scope : Scope) (t : Text) :
    (scope.listItems [t]).length =
      ((Text.cutAt scope.lexicon.quotes ',' t).map Text.trim).countP fun item => !item.isEmpty := by
  rw [listItems, List.length_map, List.flatMap_singleton, Lexicon.items,
    List.countP_eq_length_filter]

/-- A function call without an unquoted comma is listed as it is. -/
theorem listItems_of_notMem (trimmed : call.trim = call) (written : call ≠ [])
    (function : scope.lexicon.isFunction call = true)
    (noComma : ',' ∉ call.plainChars scope.lexicon.quotes) : scope.listItems [call] = [call] := by
  have items : scope.lexicon.items call = [call] := by
    rw [Lexicon.items, Text.cutAt_of_notMem noComma, List.map_singleton, trimmed]
  have kept : (!call.isEmpty) = true := by simpa using written
  have notPlain : scope.isPlainName call = false := by simp [isPlainName, function]
  have asIs : scope.listItem call = call := by
    rw [listItem]
    split
    · rw [notPlain]
      rfl
    · rfl
  rw [listItems, List.flatMap_singleton, items, List.filter_singleton, kept]
  exact congrArg (· :: []) asIs

/-- A text with an unquoted comma within parentheses is listed as two items or more. -/
theorem one_lt_length_listItems (one : scope.lexicon.IsOneItem call)
    (comma : ',' ∈ call.plainChars scope.lexicon.quotes) :
    1 < (scope.listItems [call]).length := by
  obtain ⟨before, after, unquoted⟩ := List.append_of_mem comma
  obtain ⟨left, opened, closed, right, before_, after_, -⟩ := one before after unquoted
  rw [Text.plainChars_eq] at unquoted
  obtain ⟨a, b, rfl, plain_, onLeft, onRight⟩ := Text.exists_of_unquotedFrom unquoted
  have opening : '(' ∈ a := by
    apply Text.mem_of_mem_unquotedFrom
    rw [onLeft, before_]
    exact List.mem_append_right left List.mem_cons_self
  have closing : ')' ∈ b := by
    apply Text.mem_of_mem_unquotedFrom
    rw [onRight, after_]
    exact List.mem_append_right closed List.mem_cons_self
  -- Each side of the comma has a parenthesis, and with it a piece that is not blank.
  have counted : ∀ (s : Span) {t : Text} {c : Char}, c ∈ t → isParenthesis c = true →
      0 < ((Text.cutFrom scope.lexicon.quotes ',' s t).map Text.trim).countP
        fun item => !item.isEmpty := by
    intro s t c mem parenthesis
    obtain ⟨piece, member, notBlank⟩ :=
      Text.exists_piece_of_parenthesis scope.lexicon.quotes s mem parenthesis
    exact List.countP_pos_iff.2 ⟨piece.trim, List.mem_map_of_mem member, by simpa using notBlank⟩
  have first := counted .plain opening (by decide)
  have later := counted .plain closing (by decide)
  rw [length_listItems, Text.cutAt, Text.cutFrom_append_cons plain_, List.map_append,
    List.countP_append]
  omega

/-- A function call that is one item of a list is listed as it is, and written so in each clause,
just when it has no unquoted comma. With one it is listed as several items. -/
theorem listItems_call (scope : Scope) (trimmed : call.trim = call) (written : call ≠ [])
    (function : scope.lexicon.isFunction call = true) (one : scope.lexicon.IsOneItem call) :
    (scope.listItems [call] = [call] ↔ ',' ∉ call.plainChars scope.lexicon.quotes) ∧
      (',' ∉ call.plainChars scope.lexicon.quotes → scope.selectList [call] = plain call ∧
        ∀ keyword, scope.listClause keyword [call] = [plain keyword, plain call]) ∧
      (',' ∈ call.plainChars scope.lexicon.quotes → 1 < (scope.listItems [call]).length) := by
  have asIs := listItems_of_notMem trimmed written function
  refine ⟨⟨fun same comma => ?_, asIs⟩, fun noComma => ?_, one_lt_length_listItems one⟩
  · have several := one_lt_length_listItems one comma
    rw [same] at several
    exact Nat.lt_irrefl 1 several
  · have joined : ∀ separator, Fragment.joined separator [plain call] = plain call := fun _ => by
      simp [Fragment.joined]
    have list : Text.joined ", " [call] = call := by simp [Text.joined]
    refine ⟨?_, fun keyword => ?_⟩
    · simp only [selectList, asIs noComma, list]
    · rw [listClause, asIs noComma, List.map_singleton, clauseOf, joined]
      rfl

/-- The scope of a statement that reads from one table only. -/
def ofTable (lex : Lexicon) (table : Text) : Scope :=
  .ofStatement lex ⟨[⟨table, table, .origin⟩]⟩

/-- A quoted comma does not take a call apart. -/
theorem listItems_of_quotedComma :
    (ofTable Dialect.generic.toLexicon "t").listItems ["LOWER('a, b')"] = ["LOWER('a, b')"] := by
  have call : Text.plainChars Dialect.generic.quotes "LOWER('a, b')" =
      "LOWER".toList ++ '(' :: ([] ++ ')' :: []) := by decide
  have one := Lexicon.isOneItem_of_enclosed call (by decide) (by decide) (by decide)
  have listed := listItems_call (ofTable Dialect.generic.toLexicon "t") (by decide)
    (List.cons_ne_nil _ _) (by decide) one
  exact listed.1.2 (by decide)

/-- The two arguments of a call are two items, and each of them is qualified. -/
theorem listItems_of_coalesce : ∃ scope : Scope, ∃ call : Text,
    scope.tables.originAlias? = some "t" ∧ call.trim = call ∧ call ≠ [] ∧
      scope.lexicon.isFunction call = true ∧ scope.lexicon.IsOneItem call ∧
      scope.listItems [call] = ["t.COALESCE(a", "t.b)"] ∧ scope.listItems [call] ≠ [call] := by
  have call : Text.plainChars Dialect.generic.quotes "COALESCE(a, b)" =
      "COALESCE".toList ++ '(' :: ("a, b".toList ++ ')' :: []) := by decide
  have one := Lexicon.isOneItem_of_enclosed call (by decide) (by decide) (by decide)
  refine ⟨ofTable Dialect.generic.toLexicon "t", "COALESCE(a, b)", rfl, by decide,
    List.cons_ne_nil _ _, by decide, one, by decide, by decide⟩

end Scope

end BoundSql
