import BoundSql.Proofs.Outlines

/-!
# The clauses of a union

The queries that are appended to a selection are written in a row and without parentheses, and the
ORDER BY and the LIMIT of the selection come last. So whatever stands in an appended query outside
its parentheses stands outside all parentheses of the whole (`Draft.outline`). A selection keeps
its ORDER BY and its LIMIT apart from everything else just when none of the drafts that are united
with it, or with one of them, has an ORDER BY or a LIMIT of its own
(`Draft.clauseWords_of_renderedWithin`).
-/

set_option autoImplicit false

namespace BoundSql

open Fragment (plain outlined_of_wordless outlined_keyword)

/-! ## Outlines -/

/-- The clause words of a selection itself: of its ORDER BY if that lists anything, and of its
LIMIT. -/
def endingWords (scope : Scope) (order : List Text) (limit : Option Nat) : List ClauseWord :=
  (if (scope.listItems order).isEmpty then [] else [.order]) ++
    if limit.isSome then [.limit] else []

mutual

/-- The clause words of a query outside its parentheses; a text is taken to have none. -/
def Query.outline (lex : Lexicon) : Query → List ClauseWord
  | .text _ => []
  | .drafted d => d.outline lex
termination_by structural q => q

/-- The clause words of appended queries, each behind its keyword. -/
def unionOutline (lex : Lexicon) : List UnionArm → List ClauseWord
  | [] => []
  | ⟨query, _⟩ :: rest => .union :: (query.outline lex ++ unionOutline lex rest)

/-- The clause words of a selection outside its parentheses. -/
def Selection.outline (scope : Scope) : Selection → List ClauseWord
  | ⟨_, _, _, _, _, _, order, limit, unions⟩ =>
    unionOutline scope.lexicon unions ++ endingWords scope order limit

/-- The clause words of a WITH outside its parentheses: those of its inner SELECT. -/
def WithClause.outline (scope : Scope) : WithClause → List ClauseWord
  | ⟨_, _, _, _, selection⟩ => selection.outline scope

/-- The clause words of a statement outside its parentheses. -/
def Statement.outline (scope : Scope) : Statement → List ClauseWord
  | .select s => s.outline scope
  | .with_ w => w.outline scope
  | _ => []

/-- The clause words of a draft outside its parentheses. -/
def Draft.outline (lex : Lexicon) : Draft → List ClauseWord
  | ⟨_, tables, statement, _, _, _⟩ => statement.outline (.ofStatement lex tables)

end

/-- Outside its parentheses a selection has the words of its appended queries and those of its
ending. -/
theorem Selection.outline_eq (scope : Scope) (s : Selection) :
    s.outline scope =
      unionOutline scope.lexicon s.unions ++ endingWords scope s.order s.limit := by
  cases s
  rfl

theorem WithClause.outline_eq (scope : Scope) (w : WithClause) :
    w.outline scope = w.selection.outline scope := by
  cases w
  rfl

/-- The text of the ORDER BY and the LIMIT of a selection, each behind a blank. -/
def Selection.ending (scope : Scope) (s : Selection) : Text :=
  (match scope.listItems s.order with
    | [] => []
    | items => " ORDER BY " ++ Text.joined ", " items) ++
  match s.limit with
    | none => []
    | some n => " LIMIT " ++ Text.ofNat n

/-! ## Endings -/

/-- A fragment that ends with a text: what comes before the text is outlined by itself, and the
whole by the words of both. -/
structure Fragment.EndsWith (anyCase : Bool) (ws vs : List ClauseWord) (ending : Text)
    (f : Fragment) : Prop where
  front : ∃ front : Fragment, f = front ++ plain ending ∧ front.Outlined anyCase ws
  whole : f.Outlined anyCase (ws ++ vs)

/-- The two clauses at the end of a selection bind no value, and so they are one text. -/
theorem Selection.ending_eq (scope : Scope) (s : Selection) :
    (scope.listClause "ORDER BY" s.order ++ limitClause s.limit).flatMap (plain " " ++ ·) =
      plain (s.ending scope) := by
  have order : (scope.listClause "ORDER BY" s.order).flatMap (plain " " ++ ·) =
      plain (match scope.listItems s.order with
        | [] => []
        | items => " ORDER BY " ++ Text.joined ", " items) := by
    rw [Scope.listClause, clauseOf, List.isEmpty_map]
    cases scope.listItems s.order with
    | nil => rfl
    | cons item rest =>
      rw [← Fragment.plain_joined]
      simp [plain]
  have limit : (limitClause s.limit).flatMap (plain " " ++ ·) =
      plain (match s.limit with
        | none => []
        | some n => " LIMIT " ++ Text.ofNat n) := by
    cases s.limit with
    | none => rfl
    | some n => exact List.append_nil _
  rw [List.flatMap_append, order, limit, ending, Fragment.plain_append]

/-- An ending begins with a blank. -/
theorem Selection.begins_of_ending (scope : Scope) (s : Selection) :
    ∀ c ∈ (s.ending scope).head?, Text.isInWord c = false ∧ isParenthesis c = false := by
  intro c first
  have blank : c = ' ' := by
    rw [ending] at first
    cases items : scope.listItems s.order with
    | nil =>
      cases limit : s.limit with
      | none =>
        rw [items, limit] at first
        cases first
      | some n =>
        rw [items, limit] at first
        exact (Option.some.inj first).symm
    | cons item rest =>
      rw [items] at first
      exact (Option.some.inj first).symm
  rw [blank]
  decide

/-! ## What is rendered has its outline -/

section Rendering

variable {anyCase : Bool} {lex : Lexicon} (apart : lex.WritesNoWords)
include apart

/-- A selection ends with its ORDER BY and its LIMIT, behind the appended queries. -/
theorem Selection.yields_endsWith_of_unions {scope : Scope} {s : Selection}
    (covers : (TextRule.wordless anyCase lex).CoversScope scope)
    (h : (TextRule.wordless anyCase lex).Covers s.ingredients)
    (unions : Yields (renderUnions lex s.unions)
      (OutlinedAll anyCase (unionOutline lex s.unions))) :
    Yields (s.render scope) (Fragment.EndsWith anyCase (unionOutline lex s.unions)
      (endingWords scope s.order s.limit) (s.ending scope)) := by
  rcases s with ⟨columns, source, joins, filters, group, having, order, limit, arms⟩
  simp only [Selection.ingredients, TextRule.covers_append, TextRule.covers_map_text] at h
  obtain ⟨⟨⟨⟨⟨⟨⟨columns_, source_⟩, joins_⟩, filters_⟩, group_⟩, having_⟩, -⟩, order_⟩ := h
  apply yields_bind
  intro readFrom hreadFrom
  apply yields_bind
  intro joined hjoined
  apply yields_bind
  intro kept hkept
  apply yields_bind
  intro having' hhaving'
  apply yields_bind
  intro appended happended
  apply yields_ok
  rw [covers.lexicon] at hreadFrom happended
  have verb : (plain "SELECT").Outlined anyCase [] := outlined_keyword (by decide)
  have head := OutlinedAll.cons verb (.single (Scope.selectList_outlined apart covers columns_))
  have from_ := outlined_from apart source_ readFrom hreadFrom
  have join_ := outlined_joins apart covers joins_ joined hjoined
  have where_ := outlined_where apart covers _ filters_ kept hkept
  have grouped := Scope.listClause_outlined apart covers
    (Text.not_isParenthesis_of_word (t := "GROUP BY") (by decide)) group_
  have silent : Text.wordsIn anyCase "GROUP BY" = [] := by cases anyCase <;> decide
  rw [silent, ite_self] at grouped
  have chosen := outlined_having apart covers having_ having' hhaving'
  have ordered := Scope.listClause_outlined apart covers
    (Text.not_isParenthesis_of_word (t := "ORDER BY") (by decide)) order_
  have word : Text.wordsIn anyCase "ORDER BY" = [.order] := by cases anyCase <;> decide
  rw [word] at ordered
  have front := (((((head.append from_).append join_).append where_).append grouped).append
    chosen).append (unions appended happended)
  have back := ordered.append (limitClause_outlined limit)
  have ending := Selection.ending_eq scope
    ⟨columns, source, joins, filters, group, having, order, limit, arms⟩
  -- What is outlined by itself are all parts up to the appended queries.
  rw [List.append_assoc (_ ++ appended)]
  have whole := (front.append back).joined Text.isSpacer_blank
  refine ⟨⟨_, ?_, front.joined Text.isSpacer_blank⟩, whole⟩
  rw [Fragment.joined_append, ending]
  simp

/-- A WITH ends as its inner SELECT does. -/
theorem WithClause.yields_endsWith_of_selection {scope : Scope} {w : WithClause}
    (covers : (TextRule.wordless anyCase lex).CoversScope scope)
    (h : (TextRule.wordless anyCase lex).Covers w.ingredients) {ws vs : List ClauseWord}
    {ending : Text}
    (selection : Yields (w.selection.render scope) (Fragment.EndsWith anyCase ws vs ending)) :
    Yields (w.render scope) (Fragment.EndsWith anyCase ws vs ending) := by
  rcases w with ⟨names, bodies, recursive, hasSelect, inner⟩
  simp only [WithClause.ingredients, TextRule.covers_append, TextRule.covers_map_text] at h
  obtain ⟨⟨names_, bodies_⟩, -⟩ := h
  rw [WithClause.render]
  split
  · exact yields_error _
  split
  · exact yields_error _
  apply yields_bind
  intro written hwritten
  apply yields_bind
  intro sql hsql
  apply yields_ok
  rw [covers.lexicon] at hwritten
  obtain ⟨⟨front, rfl, front_⟩, whole⟩ := selection sql hsql
  have verb : (plain "WITH").Outlined anyCase [] := outlined_keyword (by decide)
  have keyword : OutlinedAll anyCase [] (if recursive then [plain "RECURSIVE"] else []) := by
    split
    · exact .single (outlined_keyword (by decide))
    · exact .nil
  have expressions := outlined_tableExpressions apart names_ bodies_ written hwritten
  have head := OutlinedAll.cons verb (keyword.append (.single expressions))
  have opening := head.joined Text.isSpacer_blank
  have before := opening.spaced Text.isSpacer_blank front_
  have all := opening.spaced Text.isSpacer_blank whole
  -- The inner SELECT comes last, and the front of it ends the front of the whole.
  rw [List.append_cons, Fragment.joined_concat " " (List.append_ne_nil_of_right_ne_nil _
    (List.cons_ne_nil _ _))]
  refine ⟨⟨_, ?_, before⟩, all⟩
  rw [List.append_assoc _ front]
  rfl

/-- The filters of a mutation bring in no clause words. -/
theorem Mutation.outlined_renderWhere {scope : Scope} {m : Mutation}
    (covers : (TextRule.wordless anyCase lex).CoversScope scope)
    (h : (TextRule.wordless anyCase lex).Covers m.whereIngredients) :
    Yields (m.renderWhere scope) (OutlinedAll anyCase []) := by
  rcases m with ⟨target, assignments, filters⟩
  apply yields_bind
  intro kept hkept
  exact yields_ok (outlined_where apart covers _ h kept hkept)

end Rendering

mutual

theorem Query.yields_outlined {anyCase : Bool} {lex : Lexicon} (apart : lex.WritesNoWords) :
    ∀ q : Query, (TextRule.wordless anyCase lex).Covers q.ingredients →
      Yields (q.render lex) (Fragment.Outlined anyCase (q.outline lex))
  | .text _, h => yields_ok (outlined_of_wordless (h _ _ List.mem_cons_self))
  | .drafted d, h => by
    simp only [Query.ingredients, TextRule.covers_draft] at h
    exact d.yields_outlined apart h
termination_by structural q => q

/-- Each appended query stands behind its keyword as it is, so its own words are in sight. -/
theorem outlined_unions {anyCase : Bool} {lex : Lexicon} (apart : lex.WritesNoWords) :
    ∀ arms : List UnionArm, (TextRule.wordless anyCase lex).Covers (unionIngredients arms) →
      Yields (renderUnions lex arms) (OutlinedAll anyCase (unionOutline lex arms))
  | [], _ => yields_ok .nil
  | ⟨query, keepsAll⟩ :: rest, h => by
    simp only [unionIngredients, TextRule.covers_append] at h
    have word : (unionKeyword keepsAll).wordsIn anyCase = [.union] := by
      cases anyCase <;> cases keepsAll <;> decide
    have none_ : ∀ c ∈ unionKeyword keepsAll, isParenthesis c = false :=
      Text.not_isParenthesis_of_word (by cases keepsAll <;> decide)
    have keyword : (plain (unionKeyword keepsAll)).Outlined anyCase _ :=
      Fragment.outlined_plain none_
    rw [word] at keyword
    apply yields_bind
    intro first hfirst
    apply yields_bind
    intro later hlater
    apply yields_ok
    have arms := OutlinedAll.cons (query.yields_outlined apart h.1 first hfirst)
      (outlined_unions apart rest h.2 later hlater)
    have behind := OutlinedAll.cons keyword arms
    exact behind

theorem Selection.yields_endsWith {anyCase : Bool} {lex : Lexicon} (apart : lex.WritesNoWords)
    {scope : Scope} (covers : (TextRule.wordless anyCase lex).CoversScope scope) :
    ∀ s : Selection, (TextRule.wordless anyCase lex).Covers s.ingredients →
      Yields (s.render scope) (Fragment.EndsWith anyCase (unionOutline lex s.unions)
        (endingWords scope s.order s.limit) (s.ending scope))
  | ⟨columns, source, joins, filters, group, having, order, limit, arms⟩, h => by
    have h_ := h
    simp only [Selection.ingredients, TextRule.covers_append] at h_
    have unions := outlined_unions apart arms h_.1.2
    exact Selection.yields_endsWith_of_unions apart covers h unions

theorem WithClause.yields_endsWith {anyCase : Bool} {lex : Lexicon} (apart : lex.WritesNoWords)
    {scope : Scope} (covers : (TextRule.wordless anyCase lex).CoversScope scope) :
    ∀ w : WithClause, (TextRule.wordless anyCase lex).Covers w.ingredients →
      Yields (w.render scope) (Fragment.EndsWith anyCase (unionOutline lex w.selection.unions)
        (endingWords scope w.selection.order w.selection.limit) (w.selection.ending scope))
  | ⟨names, bodies, recursive, hasSelect, selection⟩, h => by
    have h_ := h
    simp only [WithClause.ingredients, TextRule.covers_append] at h_
    have inner := selection.yields_endsWith apart covers h_.2
    exact WithClause.yields_endsWith_of_selection apart covers h inner

/-- The words of a statement in sight are those that its outline lists. A mutation has none. -/
theorem Statement.yields_outlined {anyCase : Bool} {lex : Lexicon} (apart : lex.WritesNoWords)
    {scope : Scope} (covers : (TextRule.wordless anyCase lex).CoversScope scope) :
    ∀ s : Statement, (TextRule.wordless anyCase lex).Covers s.ingredients →
      Yields (s.render scope) (Fragment.Outlined anyCase (s.outline scope))
  | .empty, _ => yields_error _
  | .select s, h => by
    intro f hf
    rw [Statement.outline, Selection.outline_eq, covers.lexicon]
    exact (s.yields_endsWith apart covers h f hf).whole
  | .with_ w, h => by
    intro f hf
    rw [Statement.outline, WithClause.outline_eq, Selection.outline_eq, covers.lexicon]
    exact (w.yields_endsWith apart covers h f hf).whole
  | .insert m, h => by
    simp only [Statement.ingredients, TextRule.covers_text] at h
    rw [Statement.render]
    split
    · exact yields_error _
    · rw [covers.lexicon]
      exact yields_ok (m.insertion_outlined apart h.1 h.2)
  | .update ⟨target, assignments, filters⟩, h => by
    simp only [Statement.ingredients, List.cons_append, TextRule.covers_text,
      TextRule.covers_append] at h
    obtain ⟨target_, assignments_, filters_⟩ := h
    rw [Statement.render]
    split
    · exact yields_error _
    apply yields_bind
    intro conditions hconditions
    apply yields_ok
    rw [covers.lexicon]
    -- Each part of a mutation is free of the words, and so are the parts with blanks between them.
    have verb : (plain "UPDATE").Outlined anyCase [] :=
      outlined_keyword (by decide)
    have keyword : (plain "SET").Outlined anyCase [] :=
      outlined_keyword (by decide)
    have settings := (outlined_settings assignments_).joined Text.isSpacer_comma
    have where_ := Mutation.outlined_renderWhere apart covers filters_ conditions hconditions
    have parts := OutlinedAll.cons verb (.cons
      (Mutation.writtenTarget_outlined apart ⟨target, assignments, filters⟩ target_)
      (.cons keyword (.cons settings where_)))
    exact parts.joined Text.isSpacer_blank
  | .delete ⟨target, assignments, filters⟩, h => by
    simp only [Statement.ingredients, TextRule.covers_text] at h
    apply yields_bind
    intro conditions hconditions
    apply yields_ok
    rw [covers.lexicon]
    have verb : (plain "DELETE FROM").Outlined anyCase [] :=
      outlined_keyword (by decide)
    have where_ := Mutation.outlined_renderWhere apart covers h.2 conditions hconditions
    have parts := OutlinedAll.cons verb (.cons
      (Mutation.writtenTarget_outlined apart ⟨target, assignments, filters⟩ h.1) where_)
    exact parts.joined Text.isSpacer_blank

/-- The words of a draft in sight are those that its outline lists. -/
theorem Draft.yields_outlined {anyCase : Bool} {lex : Lexicon} (apart : lex.WritesNoWords) :
    ∀ d : Draft, (TextRule.wordless anyCase lex).Covers d.ingredients →
      Yields (d.render lex) (Fragment.Outlined anyCase (d.outline lex))
  | ⟨_, tables, statement, _, some fault, _⟩, _ => yields_error fault
  | ⟨_, tables, statement, _, none, _⟩, h => by
    simp only [Draft.ingredients, TextRule.covers_append] at h
    exact statement.yields_outlined apart (TextRule.coversScope_ofStatement h.1) h.2

end

/-! ## United drafts -/

/-- A draft is united with a selection if it is appended to it, or united with what is. -/
inductive Draft.IsUnitedWith (d : Draft) : Selection → Prop where
  | arm {s : Selection} {keepsAll : Bool} (member : ⟨.drafted d, keepsAll⟩ ∈ s.unions) :
      IsUnitedWith d s
  | within {s t : Selection} {other : Draft} {keepsAll : Bool}
      (member : ⟨.drafted other, keepsAll⟩ ∈ s.unions) (selects : other.selection? = some t)
      (inner : IsUnitedWith d t) : IsUnitedWith d s

namespace Draft

/-- The clause words of a draft itself, if it is a selection. -/
def endingWords (lex : Lexicon) (d : Draft) : List ClauseWord :=
  match d.selection? with
  | some s => BoundSql.endingWords (.ofStatement lex d.tables) s.order s.limit
  | none => []

variable {lex : Lexicon} {d : Draft} {s : Selection} {w : ClauseWord}

/-- The ORDER BY of a draft comes before its LIMIT, and each of them stands once at most. -/
theorem endingWords_sublist (lex : Lexicon) (d : Draft) :
    (d.endingWords lex).Sublist [.order, .limit] := by
  unfold endingWords
  split
  · show List.Sublist (_ ++ _) ([ClauseWord.order] ++ [ClauseWord.limit])
    refine List.Sublist.append ?_ ?_
    · split
      · exact List.nil_sublist _
      · exact List.Sublist.refl _
    · split
      · exact List.Sublist.refl _
      · exact List.nil_sublist _
  · exact List.nil_sublist _

/-- The words at the end of a draft are those of its selection. -/
theorem endingWords_of_selection? (selects : d.selection? = some s) (lex : Lexicon) :
    d.endingWords lex = BoundSql.endingWords (.ofStatement lex d.tables) s.order s.limit := by
  rw [endingWords, selects]

theorem outline_of_selection? (selects : d.selection? = some s) (lex : Lexicon) :
    d.outline lex = unionOutline lex s.unions ++ d.endingWords lex := by
  rw [endingWords_of_selection? selects]
  rcases d with ⟨dialect, tables, statement, aliasName, fault, limit⟩
  cases statement with
  | select t =>
    cases selects
    exact Selection.outline_eq _ _
  | with_ w =>
    cases selects
    exact (WithClause.outline_eq _ _).trans (Selection.outline_eq _ _)
  | empty | insert m | update m | delete m => cases selects

theorem outline_of_none (other : d.selection? = none) (lex : Lexicon) : d.outline lex = [] := by
  rcases d with ⟨dialect, tables, statement, aliasName, fault, limit⟩
  cases statement with
  | select t => cases other
  | with_ w => cases other
  | empty | insert m | update m | delete m => rfl

end Draft

/-- What an appended draft shows is shown by the list of the appended queries. -/
theorem subset_unionOutline {lex : Lexicon} {arms : List UnionArm} {d : Draft} {keepsAll : Bool}
    (member : ⟨.drafted d, keepsAll⟩ ∈ arms) : d.outline lex ⊆ unionOutline lex arms := by
  induction arms with
  | nil => cases member
  | cons arm rest ih =>
    intro w hw
    rcases arm with ⟨query, all⟩
    rw [unionOutline]
    rcases List.mem_cons.1 member with same | member
    · cases same
      exact List.mem_cons_of_mem _ (List.mem_append_left _ hw)
    · exact List.mem_cons_of_mem _ (List.mem_append_right _ (ih member hw))

/-- A word among those of appended queries unites two of them, or belongs to one of them. -/
theorem exists_arm_of_mem_unionOutline {lex : Lexicon} {arms : List UnionArm} {w : ClauseWord}
    (other : w ≠ .union) (h : w ∈ unionOutline lex arms) :
    ∃ d keepsAll, ⟨.drafted d, keepsAll⟩ ∈ arms ∧ w ∈ d.outline lex := by
  induction arms with
  | nil => cases h
  | cons arm rest ih =>
    rcases arm with ⟨query, all⟩
    rw [unionOutline] at h
    rcases List.mem_cons.1 h with same | h
    · exact absurd same other
    rcases List.mem_append.1 h with h | h
    · cases query with
      | text t => cases h
      | drafted d => exact ⟨d, all, List.mem_cons_self, h⟩
    · obtain ⟨d, keepsAll, member, word⟩ := ih h
      exact ⟨d, keepsAll, List.mem_cons_of_mem _ member, word⟩

/-- The selection of an appended draft is smaller than the selection it is appended to. -/
theorem Selection.sizeOf_of_arm {s t : Selection} {d : Draft} {keepsAll : Bool}
    (member : ⟨.drafted d, keepsAll⟩ ∈ s.unions) (selects : d.selection? = some t) :
    sizeOf t < sizeOf s := by
  have arm := List.sizeOf_lt_of_mem member
  rcases s with ⟨columns, source, joins, filters, group, having, order, limit, arms⟩
  rcases d with ⟨dialect, tables, statement, aliasName, fault, limit'⟩
  cases statement with
  | select u =>
    cases selects
    simp at arm ⊢
    omega
  | with_ w =>
    rcases w with ⟨names, bodies, recursive, hasSelect, inner⟩
    cases selects
    simp at arm ⊢
    omega
  | empty | insert m | update m | delete m => cases selects

/-- Where no draft that is united with a selection has a clause word of its own, appended queries
bring in nothing but UNION. -/
theorem Selection.eq_union_of_unranked (lex : Lexicon) (s : Selection)
    (unranked : ∀ d : Draft, d.IsUnitedWith s → d.endingWords lex = []) :
    ∀ w ∈ unionOutline lex s.unions, w = .union := by
  intro w hw
  by_contra other
  obtain ⟨d, keepsAll, member, word⟩ := exists_arm_of_mem_unionOutline other hw
  cases selects : d.selection? with
  | none =>
    rw [Draft.outline_of_none selects] at word
    cases word
  | some t =>
    rw [Draft.outline_of_selection? selects, unranked d (.arm member), List.append_nil] at word
    -- The word comes from a draft that is united with the appended one.
    have inner := eq_union_of_unranked lex t fun a united =>
      unranked a (.within member selects united)
    exact other (inner w word)
termination_by sizeOf s
decreasing_by exact Selection.sizeOf_of_arm member selects

/-- Appended queries bring in nothing but UNION just when no draft that is united with the
selection has a clause word of its own. -/
theorem Selection.unionOutline_iff (lex : Lexicon) (s : Selection) :
    (∀ w ∈ unionOutline lex s.unions, w = .union) ↔
      ∀ d : Draft, d.IsUnitedWith s → d.endingWords lex = [] := by
  constructor
  · intro only d united
    -- The induction follows the nesting of unions within unions, from the selection inwards.
    induction united with
    | @arm s keepsAll member =>
      apply List.eq_nil_iff_forall_not_mem.2
      intro w hw
      have outline : w ∈ d.outline lex := by
        cases selects : d.selection? with
        | none =>
          rw [Draft.endingWords, selects] at hw
          cases hw
        | some t =>
          rw [Draft.outline_of_selection? selects]
          exact List.mem_append_right _ hw
      have own := (d.endingWords_sublist lex).subset hw
      rw [only w (subset_unionOutline member outline)] at own
      simp at own
    | @within s t other keepsAll member selects inner ih =>
      apply ih
      intro w hw
      apply only w
      apply subset_unionOutline member
      rw [Draft.outline_of_selection? selects]
      exact List.mem_append_left _ hw
  · exact s.eq_union_of_unranked lex

/-! ## Finished SQL -/

namespace Draft

/-- A draft that is a selection, or a WITH around one, ends with the ORDER BY and the LIMIT of the
selection. -/
theorem yields_endsWith {anyCase : Bool} {lex : Lexicon} (apart : lex.WritesNoWords) {d : Draft}
    {s : Selection} (selects : d.selection? = some s)
    (h : (TextRule.wordless anyCase lex).Covers d.ingredients) :
    Yields (d.render lex) (Fragment.EndsWith anyCase (unionOutline lex s.unions)
      (d.endingWords lex) (s.ending (.ofStatement lex d.tables))) := by
  rw [endingWords_of_selection? selects]
  rcases d with ⟨dialect, tables, statement, aliasName, fault, limit⟩
  simp only [Draft.ingredients, TextRule.covers_append] at h
  have covers := TextRule.coversScope_ofStatement h.1
  cases fault with
  | some fault => exact yields_error fault
  | none =>
    rcases selection?_cases selects with is | ⟨w, is, rfl⟩
    · cases is
      exact s.yields_endsWith apart covers h.2
    · cases is
      exact w.yields_endsWith apart covers h.2

/-- Every text that goes into the SQL of the draft is without parentheses and clause words. -/
def IsWordless (anyCase : Bool) (d : Draft) : Prop :=
  ∀ use t, Ingredient.text use t ∈ d.ingredients → t.IsWordless anyCase

/-- A draft that is built of wordless texts is wordless, in whatever dialect it is built. -/
theorem isWordless_run {anyCase : Bool} (own : Dialect) {steps : List Step}
    (given : ∀ step ∈ steps, ∀ use t, Ingredient.text use t ∈ step.ingredients →
      t.IsWordless anyCase) :
    ((ofDialect own).run steps).1.IsWordless anyCase := by
  have splits : (TextRule.wordless anyCase own.toLexicon).Splits own.toLexicon := fun t holds =>
    own.isWordless_splitTable holds
  exact (covers_run (coveredBy_ofDialect own) splits given).ingredients

/-- The SQL of a selection, or of a WITH around one, ends with the ORDER BY and the LIMIT of the
selection. In what comes before them outside all parentheses, there is nothing but UNION just when
no draft that is united with the selection has an ORDER BY or a LIMIT of its own. -/
theorem clauseWords_of_renderedWithin (anyCase : Bool) (d : Draft) {s : Selection}
    (selects : d.selection? = some s) (dialect : Dialect) (prior : List Value) {r : Rendered}
    (apart : dialect.toLexicon.WritesNoWords) (texts : d.IsWordless anyCase)
    (ok : d.renderedWithin dialect prior = .ok r) :
    ∃ head ending, r.sql = head ++ ending ∧
      ending = s.ending (.ofStatement dialect.toLexicon d.tables) ∧
      r.sql.clauseWords anyCase = head.clauseWords anyCase ++ ending.clauseWords anyCase ∧
      ending.clauseWords anyCase = d.endingWords dialect.toLexicon ∧
      (d.endingWords dialect.toLexicon).Sublist [.order, .limit] ∧
      ((∀ w ∈ head.clauseWords anyCase, w = .union) ↔
        ∀ a : Draft, a.IsUnitedWith s → a.endingWords dialect.toLexicon = []) := by
  cases hf : d.render dialect.toLexicon with
  | error fault =>
    rw [renderedWithin_of_error hf] at ok
    cases ok
  | ok f =>
    rw [renderedWithin_of_ok hf] at ok
    cases ok
    have covers : (TextRule.wordless anyCase dialect.toLexicon).Covers d.ingredients := texts
    obtain ⟨⟨front, rfl, front_⟩, whole⟩ := d.yields_endsWith apart selects covers f hf
    have words := front_.words dialect.placeholder prior.length
    have all := whole.words dialect.placeholder prior.length
    -- What comes before the ending is balanced, and the ending begins at a word of its own, so that
    -- the words of the whole are those of the two.
    have sides : Text.clauseWords anyCase (front.sql dialect.placeholder prior.length ++
        s.ending (.ofStatement dialect.toLexicon d.tables)) = _ :=
      Text.clauseWords_append (front_.balanced dialect.placeholder prior.length)
        (s.begins_of_ending (.ofStatement dialect.toLexicon d.tables))
    rw [Fragment.sql_append, Fragment.sql_plain] at all
    refine ⟨front.sql dialect.placeholder prior.length, _, ?_, rfl, ?_, ?_,
      d.endingWords_sublist dialect.toLexicon, ?_⟩
    · show Fragment.sql _ _ _ = _
      rw [Fragment.sql_append, Fragment.sql_plain]
    · show Text.clauseWords anyCase (Fragment.sql _ _ _) = _
      rw [Fragment.sql_append, Fragment.sql_plain]
      exact sides
    · rw [sides, words] at all
      exact List.append_cancel_left all
    · rw [words]
      exact s.unionOutline_iff dialect.toLexicon

/-! ### Two tables -/

/-- Whether every text that is given with some steps is without parentheses and clause words. -/
def AreWordless (steps : List Step) : Prop :=
  ∀ step ∈ steps, ∀ use t, Ingredient.text use t ∈ step.ingredients → t.IsWordless true

/-- The steps to select identifiers from a table, and further ones. -/
def idsFrom (table : Text) (more : List Step) : List Step :=
  .select ["id"] :: .source (.table (.raw table)) :: more

/-- The steps to put the least identifiers first and to stop at some number of them. -/
def firstIds (n : Nat) : List Step := [.order ["id"], .limit n]

/-- Identifiers from one table, united with those from another. -/
def unitedIds (own arm : List Step) : Draft :=
  let appended := ((ofDialect .generic).run (idsFrom "b" arm)).1
  ((ofDialect .generic).run (idsFrom "a" (.union ⟨.drafted appended, false⟩ :: own))).1

theorem areWordless_firstIds (n : Nat) : AreWordless (firstIds n) := by
  intro step member use t given
  rcases List.mem_pair.1 member with rfl | rfl
  · obtain ⟨rfl, rfl⟩ := by simpa [Step.ingredients] using given
    decide
  · cases given

/-- A selection of ids with more wordless steps is wordless. -/
theorem isWordless_idsFrom {table : Text} {more : List Step} (table_ : table.IsWordless true)
    (more_ : AreWordless more) :
    ((ofDialect .generic).run (idsFrom table more)).1.IsWordless true := by
  apply isWordless_run
  intro step member use t given
  simp only [idsFrom, List.mem_cons] at member
  rcases member with rfl | rfl | member
  · obtain ⟨rfl, rfl⟩ := by simpa [Step.ingredients] using given
    decide
  · obtain ⟨rfl, rfl⟩ := by simpa [Step.ingredients, TableRef.ingredients] using given
    exact table_
  · exact more_ step member use t given

theorem isWordless_unitedIds {own arm : List Step} (own_ : AreWordless own)
    (arm_ : AreWordless arm) : (unitedIds own arm).IsWordless true := by
  apply isWordless_idsFrom (by decide)
  intro step member use t given
  rcases List.mem_cons.1 member with rfl | member
  · have table : Text.IsWordless true "b" := by decide
    have inner := isWordless_idsFrom table arm_
    rcases List.mem_cons.1 given with other | given
    · cases other
    · exact inner use t given
  · exact own_ step member use t given

/-- With an ORDER BY and a LIMIT of its own and none in what is appended, a selection is followed
by them alone. -/
theorem clauseWords_of_unitedIds :
    ∃ r head ending, (unitedIds (firstIds 3) []).renderedWithin .generic [] = .ok r ∧
      r.sql = head ++ ending ∧ ending = " ORDER BY a.id LIMIT 3".toList ∧
      ending.clauseWords true = [.order, .limit] ∧ ∀ w ∈ head.clauseWords true, w = .union := by
  have texts : (unitedIds (firstIds 3) []).IsWordless true :=
    isWordless_unitedIds (areWordless_firstIds 3) (fun _ absent => by cases absent)
  have apart : Dialect.generic.toLexicon.WritesNoWords := Preset.generic.writesNoWords
  obtain ⟨r, ok⟩ : ∃ r, (unitedIds (firstIds 3) []).renderedWithin .generic [] = .ok r :=
    ⟨_, rfl⟩
  obtain ⟨head, ending, sql, last, -, words, -, only⟩ := clauseWords_of_renderedWithin true
    (unitedIds (firstIds 3) []) rfl .generic [] apart texts ok
  refine ⟨r, head, ending, ok, sql, last, words, only.2 fun a united => ?_⟩
  -- What is appended has nothing appended to it, and neither an ORDER BY nor a LIMIT.
  cases united with
  | arm member =>
    cases List.mem_singleton.1 member
    rfl
  | within member selects inner =>
    cases List.mem_singleton.1 member
    cases selects
    cases inner with
    | arm member => cases member
    | within member _ _ => cases member

/-- The ORDER BY and the LIMIT of what is appended stand where those of the whole would stand, and
the whole has none. -/
theorem appended_ending_is_last :
    ∃ (d : Draft) (r : Rendered), d.IsWordless true ∧ d.renderedWithin .generic [] = .ok r ∧
      r.sql = "SELECT a.id FROM a UNION SELECT b.id FROM b ORDER BY b.id LIMIT 1".toList ∧
      d.endingWords Dialect.generic.toLexicon = [] ∧
      r.sql.clauseWords true = [.union, .order, .limit] := by
  have texts : (unitedIds [] (firstIds 1)).IsWordless true :=
    isWordless_unitedIds (fun _ absent => by cases absent) (areWordless_firstIds 1)
  refine ⟨unitedIds [] (firstIds 1), _, texts, rfl, ?_, ?_, ?_⟩
  · decide +kernel
  · decide +kernel
  · decide +kernel

end Draft

end BoundSql
