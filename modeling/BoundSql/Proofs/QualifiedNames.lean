import BoundSql.Proofs.Cutting
import BoundSql.Proofs.QuotedNames

/-!
# Qualified names

A column is written behind its qualifier with a separator between them. Either both are quoted or
neither is, and a name is left without quotes only where none of its characters is reserved. As
quotes and separator are reserved, neither part has an unquoted reserved character, and the
separator between the parts is the only one (`Lexicon.unquoted_reserved`). The text is cut there,
and each part is read back by itself (`Lexicon.namesOf_qualify`). So the parts are those that were
given, and no other pair is written alike (`Lexicon.qualify_isUnambiguous`).
-/

set_option autoImplicit false

namespace BoundSql.Lexicon

variable {lex : Lexicon}

/-- Quotes and separator can be told apart and are reserved, so that no name without quotes has
one of them. -/
structure SeparatesNames (lex : Lexicon) : Prop where
  apart : ¬ lex.quotes.has lex.separator
  quotes : ∀ c, lex.quotes.has c → c ∈ lex.reserved
  separator : lex.separator ∈ lex.reserved

/-- A name as it is written within a qualified one. -/
inductive Spells (lex : Lexicon) : Text → Text → Prop where
  | bare {name : Text} (plain : ∀ c ∈ name, c ∉ lex.reserved) : Spells lex name name
  | quoted (name : Text) : Spells lex (lex.quoteName name) name

/-- The two names of which a text with one unquoted separator is written. -/
def namesOf? (lex : Lexicon) (text : Text) : Option (Text × Text) :=
  match text.cutAt lex.quotes lex.separator with
  | [left, right] => some (lex.nameOf left, lex.nameOf right)
  | _ => none

/-- The unquoted reserved characters of a text with their byte offsets. -/
def reservedAt (lex : Lexicon) (text : Text) : List (Nat × Char) :=
  (text.plainAt lex.quotes).filter fun p => lex.reserved.contains p.2

end BoundSql.Lexicon

namespace BoundSql

theorem Preset.separatesNames (preset : Preset) : preset.dialect.toLexicon.SeparatesNames := by
  cases preset with
  | generic | postgres | mysql | sqlite =>
    refine ⟨by unfold Quotes.has; decide, ?_, by decide⟩
    rintro c (rfl | rfl) <;> decide

namespace Lexicon

variable {lex : Lexicon} {left right name column qualifier : Text}

/-! ## Written parts -/

/-- A name that neither has quotes nor needs them has no reserved character. -/
theorem spells_of_not_needsQuotes (noQuotes : lex.isQuotedName name = false)
    (fits : lex.needsQuotes name = false) : lex.Spells name name := by
  apply Spells.bare
  intro c hc reserved
  rw [needsQuotes, noQuotes] at fits
  have none_ : name.any lex.reserved.contains = false := fits
  rw [List.any_eq_false] at none_
  exact none_ c hc (by simpa using reserved)

/-- Both parts of a qualified name are quoted, or neither is. -/
theorem exists_spells (noQuotes : lex.isQuotedName qualifier = false)
    (noQuotes' : lex.isQuotedName column = false) :
    ∃ left right, lex.qualify qualifier column = left ++ lex.separator :: right ∧
      lex.Spells left qualifier ∧ lex.Spells right column := by
  cases needs : lex.needsQuotes qualifier || lex.needsQuotes column with
  | true =>
    refine ⟨lex.quoteName qualifier, lex.quoteName column, ?_, .quoted _, .quoted _⟩
    rw [qualify, needs, ensureQuoted, noQuotes, ensureQuoted, noQuotes']
    rfl
  | false =>
    obtain ⟨fits, fits'⟩ := Bool.or_eq_false_iff.1 needs
    refine ⟨qualifier, column, ?_, spells_of_not_needsQuotes noQuotes fits,
      spells_of_not_needsQuotes noQuotes' fits'⟩
    rw [qualify, needs]
    rfl

variable (separates : lex.SeparatesNames)
include separates

theorem not_has_of_bare (plain : ∀ c ∈ name, c ∉ lex.reserved) :
    ∀ c ∈ name, ¬ lex.quotes.has c := by
  intro c hc quote
  exact plain c hc (separates.quotes c quote)

theorem Spells.isClosed (h : lex.Spells left name) : left.isClosed lex.quotes = true := by
  cases h with
  | bare plain => exact Text.isClosed_of_not_has (not_has_of_bare separates plain)
  | quoted => exact lex.isClosed_quoteName name

omit separates in
/-- What is unquoted in a written name is not reserved. -/
theorem Spells.not_reserved (h : lex.Spells left name) :
    ∀ c ∈ left.plainChars lex.quotes, c ∉ lex.reserved := by
  intro c hc
  cases h with
  | bare plain =>
    rw [Text.plainChars_eq] at hc
    exact plain c (Text.mem_of_mem_unquotedFrom hc)
  | quoted =>
    -- Within quotes nothing is unquoted, reserved or not.
    rw [plainChars_quoteName] at hc
    cases hc

/-- A quoted name begins with a quote, and one without quotes has none. -/
theorem Spells.nameOf (h : lex.Spells left name) : lex.nameOf left = name := by
  cases h with
  | bare plain =>
    apply nameOf_of_notMem
    intro quote
    exact plain _ quote (separates.quotes _ (.inl rfl))
  | quoted => exact lex.nameOf_quoteName name

/-! ## Both parts -/

/-- The separator between two written names is the only reserved character that is unquoted. -/
theorem unquoted_reserved (h : lex.Spells left qualifier) (h' : lex.Spells right column) :
    lex.reservedAt (left ++ lex.separator :: right) = [(left.utf8.length, lex.separator)] := by
  have absent : ∀ {part given : Text}, lex.Spells part given →
      ∀ c ∈ part.plainChars lex.quotes, lex.reserved.contains c = false := by
    intro part given spells c hc
    have free := spells.not_reserved c hc
    simpa using free
  have kept : lex.reserved.contains lex.separator = true := by
    simpa using separates.separator
  have found := Text.filter_plainFrom_append_cons (absent h) (h.isClosed separates) separates.apart
    kept right 0
  rw [reservedAt, Text.plainAt, found, Text.filter_plainFrom_eq_nil (absent h'), Nat.zero_add]

/-- Two written names are told apart at the separator between them. -/
theorem namesOf_spelled (h : lex.Spells left qualifier) (h' : lex.Spells right column) :
    lex.namesOf? (left ++ lex.separator :: right) = some (qualifier, column) := by
  have one : ∀ {part given : Text}, lex.Spells part given →
      part.cutAt lex.quotes lex.separator = [part] := by
    intro part given spells
    apply Text.cutAt_of_notMem
    intro unquoted
    exact spells.not_reserved _ unquoted separates.separator
  have pieces : Text.cutAt lex.quotes lex.separator (left ++ lex.separator :: right) =
      [left, right] := by
    rw [Text.cutAt_append_cons (h.isClosed separates) separates.apart, one h, one h']
    rfl
  rw [namesOf?, pieces]
  simp only [h.nameOf separates, h'.nameOf separates]

/-- Qualifier and column can be read off a qualified name. -/
theorem namesOf_qualify (noQuotes : lex.isQuotedName qualifier = false)
    (noQuotes' : lex.isQuotedName column = false) :
    lex.namesOf? (lex.qualify qualifier column) = some (qualifier, column) := by
  obtain ⟨left, right, written, h, h'⟩ := exists_spells noQuotes noQuotes'
  rw [written]
  exact namesOf_spelled separates h h'

/-- A qualified name is written in two parts, and the separator between them is the only reserved
character of it that is unquoted. Qualifier and column can be read off it, and so no other pair of
names without quotes of their own is written alike. -/
theorem qualify_isUnambiguous (noQuotes : lex.isQuotedName qualifier = false)
    (noQuotes' : lex.isQuotedName column = false) :
    (∃ left right, lex.qualify qualifier column = left ++ lex.separator :: right ∧
      lex.Spells left qualifier ∧ lex.Spells right column ∧
        lex.reservedAt (lex.qualify qualifier column) =
          [(left.utf8.length, lex.separator)]) ∧
      lex.namesOf? (lex.qualify qualifier column) = some (qualifier, column) ∧
      ∀ qualifier' column' : Text, lex.isQuotedName qualifier' = false →
        lex.isQuotedName column' = false →
          lex.qualify qualifier' column' = lex.qualify qualifier column →
            qualifier' = qualifier ∧ column' = column := by
  have pair := namesOf_qualify separates noQuotes noQuotes'
  refine ⟨?_, pair, fun qualifier' column' bare bare' same => ?_⟩
  · -- Both parts are written with their reserved characters in quotes or have none, which leaves
    -- the separator.
    obtain ⟨left, right, written, h, h'⟩ := exists_spells noQuotes noQuotes'
    refine ⟨left, right, written, h, h', ?_⟩
    rw [written]
    exact unquoted_reserved separates h h'
  · -- Whatever pair is written alike, what is read off the text is one pair only.
    have pair' := namesOf_qualify separates bare bare'
    rw [same, pair] at pair'
    obtain ⟨rfl, rfl⟩ := Prod.mk.inj (Option.some.inj pair')
    exact ⟨rfl, rfl⟩

omit separates in
/-- A qualifier with a quote and a separator in it is quoted, and the column with it. -/
theorem qualify_isUnambiguous_backquoted :
    Dialect.generic.qualify "a.`b" "id" = "`a.``b`.`id`" ∧
      Dialect.generic.reservedAt "`a.``b`.`id`" = [(7, '.')] ∧
      Dialect.generic.namesOf? "`a.``b`.`id`" = some (("a.`b" : Text), ("id" : Text)) := by
  have written : Dialect.generic.qualify "a.`b" "id" = "`a.``b`.`id`" := by decide
  have unambiguous := qualify_isUnambiguous (Preset.separatesNames .generic)
    (show Dialect.generic.isQuotedName "a.`b" = false by decide)
    (show Dialect.generic.isQuotedName "id" = false by decide)
  refine ⟨written, by decide, ?_⟩
  rw [← written]
  exact unambiguous.2.1

end Lexicon

end BoundSql
