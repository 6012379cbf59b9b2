import BoundSql.Proofs.ClauseWords

/-!
# Clauses without clause words of their own

A fragment is outlined by clause words if it is balanced and has these words outside its
parentheses. Fragments with a spacer between them are outlined by the words of the one and then of
the other, and a fragment in parentheses by none (`Fragment.Outlined`). Where all given texts are
wordless, so are the select list, what is read from, joins, filters, GROUP BY, HAVING and
everything in a mutation: whatever queries are written in them stand in parentheses. Only ORDER BY
and LIMIT have their word.
-/

set_option autoImplicit false

namespace BoundSql

open Fragment (plain)

variable {anyCase : Bool} {ws vs : List ClauseWord} {f g : Fragment} {fs gs : List Fragment}

/-! ## Outlined fragments -/

/-- A balanced fragment with the given clause words outside its parentheses, whatever marks stand
in it. -/
structure Fragment.Outlined (anyCase : Bool) (ws : List ClauseWord) (f : Fragment) : Prop where
  balanced : f.IsBalanced
  words : ∀ style prior, (f.sql style prior).clauseWords anyCase = ws

/-- Fragments that are outlined one by one. -/
inductive OutlinedAll (anyCase : Bool) : List ClauseWord → List Fragment → Prop where
  | nil : OutlinedAll anyCase [] []
  | cons {ws vs : List ClauseWord} {f : Fragment} {fs : List Fragment}
      (head : f.Outlined anyCase ws) (tail : OutlinedAll anyCase vs fs) :
      OutlinedAll anyCase (ws ++ vs) (f :: fs)

namespace Fragment

/-- A text without parentheses is outlined by all its clause words. -/
theorem outlined_plain {t : Text} (none_ : ∀ c ∈ t, isParenthesis c = false) :
    Outlined anyCase (t.wordsIn anyCase) (plain t) := by
  refine ⟨isBalanced_plain (Text.isBalanced_of_none none_), fun style prior => ?_⟩
  rw [sql_plain, Text.clauseWords_of_none none_]

/-- A wordless text is outlined by none. -/
theorem outlined_of_wordless {t : Text} (h : t.IsWordless anyCase) :
    Outlined anyCase [] (plain t) := by
  have outlined : Outlined anyCase (t.wordsIn anyCase) (plain t) := outlined_plain h.parentheses
  rw [h.words] at outlined
  exact outlined

/-- A keyword that is no clause word is outlined by none, in whatever letter case words are read. -/
theorem outlined_keyword {t : Text} (h : t.IsWordless true) : Outlined anyCase [] (plain t) :=
  outlined_of_wordless h.of_anyCase

/-- The mark of a bound value is no word. -/
theorem wordsIn_token (style : Placeholder) (index : Nat) :
    (style.token index).wordsIn anyCase = [] := by
  cases style with
  | question =>
    exact Text.wordsIn_of_none (List.forall_mem_singleton.2 rfl)
  | format =>
    show Text.wordsIn anyCase ['%', 's'] = []
    cases anyCase <;> decide
  -- The dollar sign ends the word before it, and digits alone are no clause word.
  | numbered =>
    show Text.wordsIn anyCase ('$' :: Text.ofNat index) = []
    rw [Text.wordsIn_cons (by decide), Text.wordsIn_ofNat]

/-- The mark of a value has neither parentheses nor words. -/
theorem outlined_slot (v : Value) : Outlined anyCase [] [.slot v] := by
  have token : ∀ style prior, Fragment.sql style prior [.slot v] = style.token (prior + 1) :=
    fun _ _ => List.append_nil _
  refine ⟨fun style prior => ?_, fun style prior => ?_⟩
  · rw [token]
    exact Text.isBalanced_of_none (style.not_isParenthesis_of_mem_token _)
  · rw [token, Text.clauseWords_of_none (style.not_isParenthesis_of_mem_token _), wordsIn_token]

/-- Whatever clause words there are in a balanced fragment, in parentheses they are out of sight. -/
theorem IsBalanced.outlined (h : f.IsBalanced) : Outlined anyCase [] f.parenthesized := by
  refine ⟨h.parenthesized, fun style prior => ?_⟩
  rw [sql_parenthesized]
  exact Text.clauseWords_enclosed (h style prior)

/-- A spacer keeps the last word of the one fragment apart from the first word of the other. -/
theorem Outlined.spaced {glue : Text} (spacer : glue.isSpacer anyCase = true)
    (hf : f.Outlined anyCase ws) (hg : g.Outlined anyCase vs) :
    Outlined anyCase (ws ++ vs) (f ++ plain glue ++ g) := by
  have wordless : glue.IsWordless anyCase := of_decide_eq_true (Bool.and_eq_true_iff.1 spacer).2
  have between := isBalanced_plain (Text.isBalanced_of_none wordless.parentheses)
  refine ⟨(hf.balanced.append between).append hg.balanced, fun style prior => ?_⟩
  rw [sql_append, sql_append, sql_plain, List.append_assoc,
    Text.clauseWords_spaced (hf.balanced style prior) spacer, hf.words, hg.words]

end Fragment

open Fragment (outlined_of_wordless outlined_keyword outlined_slot)

namespace OutlinedAll

theorem single (h : f.Outlined anyCase ws) : OutlinedAll anyCase ws [f] := by
  simpa using OutlinedAll.cons h .nil

theorem append (hf : OutlinedAll anyCase ws fs) (hg : OutlinedAll anyCase vs gs) :
    OutlinedAll anyCase (ws ++ vs) (fs ++ gs) := by
  induction hf with
  | nil => exact hg
  | cons head _ ih =>
    rw [List.append_assoc]
    exact .cons head ih

/-- Outlined fragments in order, with a spacer between each two, are outlined. -/
theorem joined {separator : Text} (spacer : separator.isSpacer anyCase = true)
    (h : OutlinedAll anyCase ws fs) : (Fragment.joined separator fs).Outlined anyCase ws := by
  induction h with
  | nil =>
    have empty : Text.IsWordless true [] := by decide
    exact Fragment.outlined_keyword empty
  | @cons ws vs f fs head tail ih =>
    cases tail with
    | nil => simpa [Fragment.joined] using head
    | cons second rest =>
      have both := Fragment.Outlined.spaced spacer head ih
      simpa only [Fragment.joined, List.intercalate_cons_cons] using both

/-- Wordless texts in a row are outlined by none. -/
theorem texts {texts : List Text} (h : ∀ t ∈ texts, t.IsWordless anyCase) :
    OutlinedAll anyCase [] (texts.map plain) := by
  induction texts with
  | nil => exact .nil
  | cons t rest ih =>
    have later := ih fun u hu => h u (List.mem_cons_of_mem t hu)
    exact .cons (outlined_of_wordless (h t List.mem_cons_self)) later

/-- A clause of what is wordless has the words of its keyword, if it is there at all. -/
theorem clauseOf {keyword separator : Text} (none_ : ∀ c ∈ keyword, isParenthesis c = false)
    (spacer : separator.isSpacer anyCase = true) (h : OutlinedAll anyCase [] fs) :
    OutlinedAll anyCase (if fs.isEmpty then [] else keyword.wordsIn anyCase)
      (clauseOf keyword separator fs) := by
  unfold BoundSql.clauseOf
  split
  · exact .nil
  · have clause := OutlinedAll.cons (Fragment.outlined_plain none_) (.single (h.joined spacer))
    rw [List.append_nil] at clause
    exact clause

/-- A clause of what is wordless is wordless if its keyword is. -/
theorem silentClause {keyword separator : Text} (wordless : keyword.IsWordless anyCase)
    (spacer : separator.isSpacer anyCase = true) (h : OutlinedAll anyCase [] fs) :
    OutlinedAll anyCase [] (BoundSql.clauseOf keyword separator fs) := by
  have clause := h.clauseOf wordless.parentheses spacer
  rw [wordless.words, ite_self] at clause
  exact clause

end OutlinedAll

/-! ## Leaves and terms -/

section Leaves

variable {lex : Lexicon}

/-- A value is a mark or a query in parentheses, so its words are out of sight. -/
theorem Value.outlined {v : Value} (h : (TextRule.wordless anyCase lex).Covers v.ingredients) :
    v.fragment.Outlined anyCase [] := by
  cases v with
  | text t =>
    -- A text that begins like a query may have clause words, but it stands in parentheses.
    by_cases query : t.isQuery = true
    · simp only [Value.ingredients, Value.fragment, query, if_true, TextRule.covers_text] at h ⊢
      exact (outlined_of_wordless h.1).balanced.outlined
    · simp only [Value.fragment, query]
      exact outlined_slot _
  | null | bool _ | int _ | float _ | uuid _ | timestamp _ | json _ => exact outlined_slot _

/-- An assigned column is a given text, and those are wordless. -/
theorem Assignment.outlined {a : Assignment}
    (h : (TextRule.wordless anyCase lex).Covers a.ingredients) :
    a.fragment.Outlined anyCase [] := by
  cases a with
  | value v => exact outlined_slot v
  | column name =>
    simp only [Assignment.ingredients, TextRule.covers_text] at h
    exact outlined_of_wordless h.1

theorem Operator.onEmptyList_outlined (op : Operator) : op.onEmptyList.Outlined anyCase [] := by
  unfold Operator.onEmptyList
  split
  · exact outlined_keyword (by decide)
  · exact outlined_keyword (by decide)

/-- The symbol of an operator, with its blanks, is a spacer. -/
theorem Operator.infixed_outlined (op : Operator) (hf : f.Outlined anyCase [])
    (hg : g.Outlined anyCase []) : (op.infixed f g).Outlined anyCase [] := by
  have spacer : Text.isSpacer true (" " ++ op.symbol ++ " ") = true := by
    cases op <;> decide
  exact hf.spaced (Text.isSpacer_of_anyCase spacer) hg

/-- The empty string behind a symbol has the quotes of the lexicon and no letters. -/
theorem Operator.suffixed_outlined (apart : lex.WritesNoWords) (op : Operator)
    (hf : f.Outlined anyCase []) : (op.suffixed lex f).Outlined anyCase [] := by
  have value : ∀ c ∈ [lex.quotes.value, lex.quotes.value], c = lex.quotes.value := by simp
  have empty : (plain [lex.quotes.value, lex.quotes.value]).Outlined anyCase [] := by
    refine outlined_of_wordless ⟨fun c hc => ?_, Text.wordsIn_of_none fun c hc => ?_⟩
    · rw [value c hc]
      exact apart.value
    · rw [value c hc]
      exact apart.valueApart
  -- Only the tests for the empty string have quotes behind their symbol.
  unfold Operator.suffixed
  split
  · exact Operator.infixed_outlined _ hf empty
  · exact Operator.infixed_outlined _ hf empty
  · have symbol : op.symbol.IsWordless true := by cases op <;> decide
    rw [Fragment.plain_append, ← List.append_assoc]
    exact hf.spaced Text.isSpacer_blank (outlined_keyword symbol)

/-- The parts of a destination have spacers between them, in parentheses or not. -/
theorem Form.right_outlined (form : Form) (h : OutlinedAll anyCase [] fs) :
    (form.right fs).Outlined anyCase [] := by
  unfold Form.right
  split
  · exact (h.joined Text.isSpacer_comma).balanced.outlined
  · exact h.joined Text.isSpacer_and
  · exact h.joined Text.isSpacer_comma

/-- `AND` and `OR` are no clause words. -/
theorem Comparison.parts_outlined (c : Comparison) (h : f.Outlined anyCase []) :
    OutlinedAll anyCase [] (c.parts f) := by
  rw [Comparison.parts]
  split
  · rename_i conjunction _
    have keyword : conjunction.keyword.IsWordless true := by
      cases conjunction <;> decide
    exact .cons (outlined_keyword keyword) (.single h)
  · exact .single h

/-- Nor are the keywords of a join. -/
theorem JoinKind.isWordless_head (kind : JoinKind) {table aliasName : Text}
    (table_ : table.IsWordless anyCase) (aliasName_ : aliasName.IsWordless anyCase) :
    (kind.head table aliasName).IsWordless anyCase := by
  have upper : kind.keyword.IsWordless true := by
    cases kind <;> decide
  have keyword : kind.keyword.IsWordless anyCase := upper.of_anyCase
  rw [JoinKind.head]
  split
  · exact keyword.spaced table_
  · exact (keyword.spaced table_).spaced aliasName_

end Leaves

/-! ## Operands and conditions -/

section Rendering

variable {lex : Lexicon} (apart : lex.WritesNoWords) {scope : Scope}
  (covers : (TextRule.wordless anyCase lex).CoversScope scope)
include apart covers

/-- A list and a query are enclosed in parentheses, and nothing else has parentheses. -/
theorem Operand.yields_outlined (position : Position) {o : Operand}
    (h : (TextRule.wordless anyCase lex).Covers o.ingredients) :
    Yields (o.render scope position) (Fragment.Outlined anyCase []) := by
  cases o with
  | column name qualifier =>
    simp only [Operand.ingredients, TextRule.covers_text, TextRule.covers_map_text] at h
    have qualifier_ : ∀ q ∈ qualifier, q.IsWordless anyCase := fun q hq =>
      h.2 q (Option.mem_toList.2 hq)
    have column := Scope.isWordless_column apart covers position h.1 qualifier_
    exact yields_ok (outlined_of_wordless column)
  | value v => exact yields_ok (Value.outlined h)
  -- Of what is inside parentheses only the balance is needed, and the assembly has it.
  | list items =>
    have h := TextRule.Covers.balancing h
    apply yields_bind
    intro parts hparts
    apply yields_ok
    have comma : isGlue ", " = true := by decide
    have inner := (yields_items covers.balancing position items h parts hparts).joined comma
    exact (inner.isBalanced apart.toWritesNoParentheses).outlined
  | query q =>
    have h := TextRule.Covers.balancing h
    apply yields_bind
    intro sql hsql
    rw [covers.lexicon] at hsql
    apply yields_ok
    have inner := q.yields_assembled h sql hsql
    exact (inner.isBalanced apart.toWritesNoParentheses).outlined

/-- The items of a list have no words outside their own parentheses. -/
theorem outlined_items (position : Position) {items : List Operand}
    (h : (TextRule.wordless anyCase lex).Covers (itemIngredients items)) :
    Yields (renderItems scope position items) (OutlinedAll anyCase []) := by
  induction items with
  | nil => exact yields_ok .nil
  | cons o rest ih =>
    simp only [itemIngredients, TextRule.covers_append] at h
    apply yields_bind
    intro first hfirst
    apply yields_bind
    intro later hlater
    apply yields_ok
    have head := Operand.yields_outlined apart covers position h.1 first hfirst
    exact .cons head (ih h.2 later hlater)

/-- A source has no words outside parentheses. -/
theorem outlined_source (op : Operator) {source : Option Operand}
    (h : (TextRule.wordless anyCase lex).Covers (sideIngredients source)) :
    Yields (renderSource scope op source) (Fragment.Outlined anyCase []) := by
  cases source with
  | none => exact yields_error _
  | some o => exact Operand.yields_outlined apart covers .source h

/-- Nor have the parts of a destination. -/
theorem outlined_destination {destination : Option Operand}
    (h : (TextRule.wordless anyCase lex).Covers (sideIngredients destination)) :
    Yields (renderDestination scope destination) (OutlinedAll anyCase []) := by
  -- Any operand but a list is the only part.
  have only : ∀ o : Operand, (TextRule.wordless anyCase lex).Covers o.ingredients →
      Yields (do
        let only ← o.render scope .destination
        return [only]) (OutlinedAll anyCase []) := by
    intro o ho
    apply yields_bind
    intro sql hsql
    exact yields_ok (.single (Operand.yields_outlined apart covers .destination ho sql hsql))
  cases destination with
  | none => exact yields_ok .nil
  | some o =>
    cases o with
    | list items => exact outlined_items apart covers .destination h
    | column name qualifier => exact only _ h
    | value v => exact only _ h
    | query q => exact only _ h

/-- A comparison in each of its forms. -/
theorem Comparison.yields_outlined {c : Comparison}
    (h : (TextRule.wordless anyCase lex).Covers c.ingredients) :
    Yields (c.render scope) (Fragment.Outlined anyCase []) := by
  rcases c with ⟨conjunction, source, op, destination⟩
  simp only [Comparison.ingredients] at h
  cases hf : op.form destination with
  | error fault =>
    rw [Comparison.render_of_error hf]
    exact yields_error fault
  | ok form =>
    -- In each form the operands that are written are those whose texts count, and the words between
    -- them are none that a clause begins with.
    cases Operator.formOf hf with
    | constant omits =>
      rw [Comparison.render_of_constant hf]
      exact yields_ok op.onEmptyList_outlined
    | suffixed unary =>
      have omits := op.omitsOperands_of_arity (by simp [unary]) destination
      have notExists : op ≠ .exists_ := by
        rintro rfl
        cases unary
      simp only [omits, notExists, unary, if_false, if_true, List.append_nil,
        Bool.false_eq_true] at h
      rw [Comparison.render_of_suffixed hf, covers.lexicon]
      apply yields_bind
      intro left hleft
      apply yields_ok
      exact op.suffixed_outlined apart (outlined_source apart covers op h left hleft)
    | exists_ same =>
      subst same
      have omits := Operator.exists_.omitsOperands_of_arity (by decide) destination
      have notUnary : Operator.exists_.arity ≠ .unary := by decide
      simp only [omits, notUnary, if_false, if_true, List.nil_append, Bool.false_eq_true] at h
      rw [Comparison.render_of_exists hf]
      apply yields_bind
      intro parts hparts
      apply yields_ok
      have query := Form.exists_.right_outlined (outlined_destination apart covers h parts hparts)
      have keyword : (plain "EXISTS").Outlined anyCase [] := outlined_keyword (by decide)
      exact keyword.spaced Text.isSpacer_blank query
    | infix_ omits notUnary notExists two =>
      simp only [omits, notUnary, notExists, if_false, Bool.false_eq_true,
        TextRule.covers_append] at h
      rw [Comparison.render_of_infix hf two]
      apply yields_bind
      intro left hleft
      apply yields_bind
      intro parts hparts
      apply yields_ok
      have onLeft := outlined_source apart covers op h.1 left hleft
      have onRight :=
        form.right_outlined (outlined_destination apart covers h.2 parts hparts)
      exact op.infixed_outlined onLeft onRight

/-- The terms of a condition in order. -/
theorem outlined_terms {comparisons : List Comparison}
    (h : (TextRule.wordless anyCase lex).Covers (termIngredients comparisons)) :
    Yields (renderTerms scope comparisons) (OutlinedAll anyCase []) := by
  induction comparisons with
  | nil => exact yields_ok .nil
  | cons c rest ih =>
    simp only [termIngredients, TextRule.covers_append] at h
    apply yields_bind
    intro term hterm
    apply yields_bind
    intro later hlater
    apply yields_ok
    have parts := c.parts_outlined (Comparison.yields_outlined apart covers h.1 term hterm)
    exact parts.append (ih h.2 later hlater)

/-- A condition has no words outside parentheses, whatever queries are in it. -/
theorem Condition.yields_outlined {w : Condition}
    (h : (TextRule.wordless anyCase lex).Covers w.ingredients) :
    Yields (w.render scope) (Fragment.Outlined anyCase []) := by
  rcases w with ⟨comparisons, pending, fault⟩
  simp only [Condition.render]
  split
  · exact yields_error _
  · apply yields_bind
    intro terms hterms
    apply yields_ok
    exact (outlined_terms apart covers h terms hterms).joined Text.isSpacer_blank

/-! ## Clauses -/

/-- The selected columns are cut at their commas, and the items are wordless if the columns are. -/
theorem Scope.selectList_outlined {columns : List Text}
    (h : ∀ t ∈ columns, t.IsWordless anyCase) : (scope.selectList columns).Outlined anyCase [] := by
  rw [Scope.selectList]
  split
  · exact outlined_keyword (by decide)
  · rw [Fragment.plain_joined]
    refine OutlinedAll.joined Text.isSpacer_comma (.texts fun item member => ?_)
    exact Scope.isWordless_of_mem_listItems apart covers h member

/-- A clause that lists wordless columns has the words of its keyword, unless nothing is listed. -/
theorem Scope.listClause_outlined {keyword : Text}
    (none_ : ∀ c ∈ keyword, isParenthesis c = false) {columns : List Text}
    (h : ∀ t ∈ columns, t.IsWordless anyCase) :
    OutlinedAll anyCase
      (if (scope.listItems columns).isEmpty then [] else keyword.wordsIn anyCase)
      (scope.listClause keyword columns) := by
  have wordless : ∀ item ∈ scope.listItems columns, item.IsWordless anyCase := fun item member =>
    Scope.isWordless_of_mem_listItems apart covers h member
  have items := OutlinedAll.texts wordless
  have clause := items.clauseOf none_ Text.isSpacer_comma
  rw [List.isEmpty_map] at clause
  exact clause

/-- A join has its condition in parentheses. -/
theorem Join.yields_outlined {j : Join}
    (h : (TextRule.wordless anyCase lex).Covers j.ingredients) :
    Yields (j.render scope) (Fragment.Outlined anyCase []) := by
  rcases j with ⟨ref, kind, qualifier⟩
  cases qualifier with
  | none => exact yields_error _
  | some w =>
    simp only [Join.ingredients, conditionIngredients, TextRule.covers_append] at h
    obtain ⟨table, aliasName⟩ := covers.declared h.1
    have condition := TextRule.Covers.balancing h.2
    simp only [Join.render]
    apply yields_bind
    intro sql hsql
    split
    · exact yields_error _
    · apply yields_ok
      have on : Text.isSpacer anyCase " ON " = true :=
        Text.isSpacer_of_anyCase (by decide)
      have head := outlined_of_wordless (kind.isWordless_head table aliasName)
      have inner := w.yields_assembled (covers.balancing.forJoin (aliasName.keepsBalance .name))
        condition sql hsql
      have enclosed : sql.parenthesized.Outlined anyCase [] :=
        (inner.isBalanced apart.toWritesNoParentheses).outlined
      rw [Fragment.plain_append]
      exact head.spaced on enclosed

theorem outlined_joins {joins : List Join}
    (h : (TextRule.wordless anyCase lex).Covers (joinIngredients joins)) :
    Yields (renderJoins scope joins) (OutlinedAll anyCase []) := by
  induction joins with
  | nil => exact yields_ok .nil
  | cons j rest ih =>
    simp only [joinIngredients, TextRule.covers_append] at h
    apply yields_bind
    intro first hfirst
    apply yields_bind
    intro later hlater
    apply yields_ok
    exact .cons (Join.yields_outlined apart covers h.1 first hfirst) (ih h.2 later hlater)

/-- The filters that are kept, enclosed or not. -/
theorem outlined_filters (several : Bool) {filters : List Condition}
    (h : (TextRule.wordless anyCase lex).Covers (filterIngredients filters)) :
    Yields (renderFilters scope several filters) (OutlinedAll anyCase []) := by
  induction filters with
  | nil => exact yields_ok .nil
  | cons w rest ih =>
    simp only [filterIngredients, TextRule.covers_append] at h
    apply yields_bind
    intro sql hsql
    apply yields_bind
    intro later hlater
    apply yields_ok
    have first := Condition.yields_outlined apart covers h.1 sql hsql
    have rest := ih h.2 later hlater
    -- Enclosed, a filter shows no words at all, and balance is all that it needs.
    have enclosed : (w.enclosed several sql).Outlined anyCase [] := by
      rw [Condition.enclosed]
      split
      · exact first.balanced.outlined
      · exact first
    split
    · exact rest
    · exact .cons enclosed rest

/-- `WHERE` is no clause word, and so a clause of filters is outlined by none. -/
theorem outlined_where {filters : List Condition} (several : Bool)
    (h : (TextRule.wordless anyCase lex).Covers (filterIngredients filters)) :
    Yields (renderFilters scope several filters) fun kept =>
      OutlinedAll anyCase [] (clauseOf "WHERE" " AND " kept) := by
  have keyword : Text.IsWordless true "WHERE" := by decide
  intro kept hkept
  have filters_ := outlined_filters apart covers several h kept hkept
  exact filters_.silentClause keyword.of_anyCase Text.isSpacer_and

/-- Nor is `HAVING`. -/
theorem outlined_having {having : Option Condition}
    (h : (TextRule.wordless anyCase lex).Covers (conditionIngredients having)) :
    Yields (renderHaving scope having) fun sql =>
      OutlinedAll anyCase [] (clauseOf "HAVING" " " ([sql].filter fun sql => !sql.isEmpty)) := by
  have keyword : Text.IsWordless true "HAVING" := by decide
  cases having with
  | none => exact yields_ok .nil
  | some w =>
    intro sql hsql
    have condition := Condition.yields_outlined apart covers h sql hsql
    have kept : OutlinedAll anyCase [] ([sql].filter fun sql => !sql.isEmpty) := by
      cases dropped : sql.isEmpty with
      | true =>
        rw [List.filter_cons, dropped]
        exact .nil
      | false =>
        rw [List.filter_cons, dropped]
        exact .single condition
    exact kept.silentClause keyword.of_anyCase Text.isSpacer_blank

end Rendering

/-! ## What is read from and changed -/

/-- A LIMIT has its own word and no other. -/
theorem limitClause_outlined (limit : Option Nat) :
    OutlinedAll anyCase (if limit.isSome then [.limit] else []) (limitClause limit) := by
  cases limit with
  | none => exact .nil
  | some n =>
    have number : ∀ c ∈ Text.ofNat n, isParenthesis c = false :=
      Text.not_isParenthesis_of_word (Text.ofNat_isWord n)
    have none_ : ∀ c ∈ ("LIMIT".toList ++ ' ' :: Text.ofNat n), isParenthesis c = false := by
      intro c hc
      rcases List.mem_append.1 hc with hc | hc
      · exact Text.not_isParenthesis_of_word (t := "LIMIT") (by decide) c hc
      rcases List.mem_cons.1 hc with rfl | hc
      · rfl
      · exact number c hc
    have keyword : Text.wordsIn anyCase "LIMIT" = [.limit] := by cases anyCase <;> decide
    have clause : OutlinedAll anyCase _ [plain ("LIMIT".toList ++ ' ' :: Text.ofNat n)] :=
      .single (Fragment.outlined_plain none_)
    rw [Text.wordsIn_append_cons (by decide), keyword, Text.wordsIn_ofNat] at clause
    exact clause

section Statements

variable {lex : Lexicon} (apart : lex.WritesNoWords)

/-- A table to read from is wordless if its texts are. -/
theorem tableSource_outlined {table : Text} {aliasName : Option Text}
    (table_ : table.IsWordless anyCase) (aliasName_ : ∀ a ∈ aliasName, a.IsWordless anyCase) :
    (plain (tableSource table aliasName)).Outlined anyCase [] := by
  apply outlined_of_wordless
  unfold tableSource
  split
  · exact table_
  · rename_i a
    split
    · exact table_
    · exact table_.spaced (aliasName_ a rfl)

/-- A query that is read from stands in parentheses. -/
theorem derivedSource_outlined {aliasName : Option Text}
    (aliasName_ : ∀ a ∈ aliasName, a.IsWordless anyCase) (h : f.IsBalanced) :
    (derivedSource f aliasName).Outlined anyCase [] := by
  have name : (aliasName.getD "not_specified").IsWordless anyCase := by
    cases aliasName with
    | none =>
      have unnamed : Text.IsWordless true "not_specified" := by decide
      exact unnamed.of_anyCase
    | some a => exact aliasName_ a rfl
  rw [derivedSource, Fragment.plain_append, ← List.append_assoc]
  exact h.outlined.spaced Text.isSpacer_as (outlined_of_wordless name)

include apart

/-- A draft that is read from stands in parentheses, so only its alias is in sight. -/
theorem outlined_from {source : Option Source}
    (h : (TextRule.wordless anyCase lex).Covers (sourceIngredients source)) :
    Yields (renderFrom lex source) (OutlinedAll anyCase []) := by
  have keyword : (plain "FROM").Outlined anyCase [] :=
    outlined_keyword (by decide)
  cases source with
  | none => exact yields_ok .nil
  | some source =>
    cases source with
    | table name aliasName =>
      simp only [sourceIngredients, TextRule.covers_text, TextRule.covers_map_text] at h
      have table := tableSource_outlined h.1 fun a ha => h.2 a (Option.mem_toList.2 ha)
      exact yields_ok (.cons keyword (.single table))
    | derived d =>
      simp only [sourceIngredients, List.cons_append, TextRule.covers_draft,
        TextRule.covers_append, TextRule.covers_map_text] at h
      apply yields_bind
      intro sql hsql
      apply yields_ok
      have inner := d.yields_assembled (TextRule.Covers.balancing h.1) sql hsql
      have table := derivedSource_outlined (fun a ha => h.2 a (Option.mem_toList.2 ha))
        (inner.isBalanced apart.toWritesNoParentheses)
      exact .cons keyword (.single table)

/-- The bodies of table expressions stand in parentheses. -/
theorem outlined_tableExpressions {names : List Text} {bodies : List Query}
    (names_ : ∀ t ∈ names, t.IsWordless anyCase)
    (h : (TextRule.wordless anyCase lex).Covers (bodyIngredients bodies)) :
    Yields (renderBodies lex bodies) fun written =>
      (tableExpressions names written).Outlined anyCase [] := by
  have all : Yields (renderBodies lex bodies) fun written => OutlinedAll anyCase []
      (List.zipWith (fun name body => plain (name ++ " AS ") ++ body.parenthesized)
        names written) := by
    induction bodies generalizing names with
    | nil =>
      apply yields_ok
      rw [List.zipWith_nil_right]
      exact .nil
    | cons q rest ih =>
      simp only [bodyIngredients, TextRule.covers_append] at h
      apply yields_bind
      intro first hfirst
      apply yields_bind
      intro later hlater
      apply yields_ok
      -- Without a name for it a body is not written. Only drafts with as many of both are rendered.
      cases names with
      | nil => exact .nil
      | cons name names =>
        have inner := q.yields_assembled (TextRule.Covers.balancing h.1) first hfirst
        have enclosed : first.parenthesized.Outlined anyCase [] :=
          (inner.isBalanced apart.toWritesNoParentheses).outlined
        have name_ := outlined_of_wordless (names_ name List.mem_cons_self)
        have head := name_.spaced Text.isSpacer_as enclosed
        rw [← Fragment.plain_append] at head
        have rest := ih (fun t ht => names_ t (List.mem_cons_of_mem name ht)) h.2 later hlater
        exact .cons head rest
  intro written hwritten
  exact (all written hwritten).joined Text.isSpacer_comma

/-- The target of a mutation is wordless with its quotes too. -/
theorem Mutation.writtenTarget_outlined (m : Mutation) (h : m.target.IsWordless anyCase) :
    (plain (m.writtenTarget lex)).Outlined anyCase [] := by
  apply outlined_of_wordless
  rw [Mutation.writtenTarget]
  split
  · exact Lexicon.isWordless_quoteName apart h
  · exact h

omit apart in
/-- The settings of an UPDATE have no words outside parentheses. -/
theorem outlined_settings {assignments : List (Text × Assignment)}
    (h : (TextRule.wordless anyCase lex).Covers (assignmentIngredients assignments)) :
    OutlinedAll anyCase []
      (assignments.map fun a => plain (a.1 ++ " = ") ++ a.2.fragment) := by
  have sign : Text.isSpacer anyCase " = " = true :=
    Text.isSpacer_of_anyCase (by decide)
  induction assignments with
  | nil => exact .nil
  | cons a rest ih =>
    simp only [assignmentIngredients, List.flatMap_cons, List.cons_append, TextRule.covers_text,
      TextRule.covers_append] at h ih
    have head := (outlined_of_wordless h.1).spaced sign (Assignment.outlined h.2.1)
    rw [← Fragment.plain_append] at head
    exact .cons head (ih h.2.2)

/-- The columns and the values of an INSERT stand in parentheses. -/
theorem Mutation.insertion_outlined (m : Mutation) (target : m.target.IsWordless anyCase)
    (h : (TextRule.wordless anyCase lex).Covers (assignmentIngredients m.assignments)) :
    (m.insertion lex).Outlined anyCase [] := by
  have keyword : Text.isSpacer anyCase " VALUES " = true :=
    Text.isSpacer_of_anyCase (by decide)
  have verb : (plain "INSERT INTO").Outlined anyCase [] := outlined_keyword (by decide)
  have listed := (OutlinedAll.texts (TextRule.holds_of_assigned h)).joined Text.isSpacer_comma
  rw [← Fragment.plain_joined] at listed
  have columns : (Fragment.parenthesized _).Outlined anyCase [] := listed.balanced.outlined
  have glue : isGlue ", " = true := by decide
  have assigned := (assigned_assembled (TextRule.Covers.balancing h)).joined glue
  have values : (Fragment.parenthesized _).Outlined anyCase [] :=
    (assigned.isBalanced apart.toWritesNoParentheses).outlined
  have target_ := verb.spaced Text.isSpacer_blank (m.writtenTarget_outlined apart target)
  have whole := (target_.spaced Text.isSpacer_blank columns).spaced keyword values
  simpa [Mutation.insertion, plain] using whole

end Statements

end BoundSql
