import BoundSql.Proofs.Cutting
import BoundSql.Proofs.OwnDialect

/-!
# Lists of columns in one text or in several

A text with several columns is cut at its unquoted commas, and its items are the pieces, trimmed.
Behind a closed text a comma divides the items, so that a list of columns may be given in one text
or in two (`Lexicon.items_of_pieces`).

That holds of whole statements. Cutting the lists of a draft into their pieces changes nothing in
what is rendered, since of a list only the items are written (`Draft.render_cut`). And it does not
matter whether the lists are cut before the steps are made or after (`Draft.run_cut`), since no step
looks at what is listed. So steps that are the same once their lists are cut lead to drafts that may
stand for each other (`Draft.interchangeable_of_cut`).
-/

set_option autoImplicit false

namespace BoundSql

/-! ## Statements with their lists in pieces -/

/-- Columns with every text cut at its unquoted commas. -/
def Quotes.cut (q : Quotes) (columns : List Text) : List Text := columns.flatMap (Text.cutAt q ',')

/-- A selection with its three column lists in pieces. -/
def Selection.cut (q : Quotes) (s : Selection) : Selection :=
  { s with columns := q.cut s.columns, group := q.cut s.group, order := q.cut s.order }

/-- A statement with the lists of its selection in pieces, if it has one. -/
def Statement.cut (q : Quotes) : Statement → Statement
  | .select s => .select (s.cut q)
  | .with_ w => .with_ { w with selection := w.selection.cut q }
  | t => t

/-- A step with the lists that it gives in pieces. -/
def Step.cut (q : Quotes) : Step → Step
  | .select columns => .select (q.cut columns)
  | .group columns => .group (q.cut columns)
  | .order columns => .order (q.cut columns)
  | step => step

/-- The draft with the lists of its own statement in pieces. -/
def Draft.cut (d : Draft) (q : Quotes) : Draft := { d with statement := d.statement.cut q }

section Filling

variable {q : Quotes}

/-- A list may be cut before it fills its clause or after. -/
theorem Selection.filled_cut (lex : Lexicon) (s : Selection) (step : Step) :
    (s.cut q).filled lex (step.cut q) = (s.filled lex step).cut q := by
  cases step with
  | _ => rfl

/-- Mutations take no lists of columns. -/
theorem Mutation.filled_cut (m : Mutation) (step : Step) :
    m.filled (step.cut q) = m.filled step := by
  cases step with
  | _ => rfl

/-- What is filled into a statement in pieces is what is filled in, in pieces. -/
theorem Statement.filled_cut (lex : Lexicon) (t : Statement) (step : Step) :
    (t.cut q).filled lex (step.cut q) = (t.filled lex step).cut q := by
  cases t with
  | empty => rfl
  | select s => exact congrArg Statement.select (s.filled_cut lex step)
  | insert m => exact congrArg Statement.insert (m.filled_cut step)
  | update m => exact congrArg Statement.update (m.filled_cut step)
  | delete m => exact congrArg Statement.delete (m.filled_cut step)
  | with_ w =>
    have selection := w.selection.filled_cut (q := q) lex step
    cases step with
    | body query next => rfl
    | _ => exact congrArg (fun s => Statement.with_ { w with selection := s }) selection

end Filling

namespace Draft

variable {q : Quotes}

/-! ### Steps -/

/-- The verb decides whether a step begins a statement, and not its columns. -/
theorem restartsAt_cut (d : Draft) (step : Step) :
    (d.cut q).restartsAt (step.cut q) = d.restartsAt step := by
  rcases d with ⟨dialect, tables, t, aliasName, fault, limit⟩
  have verb : (step.cut q).isVerb = step.isVerb := by cases step <;> rfl
  have select : (step.cut q).isSelect = step.isSelect := by cases step <;> rfl
  rw [restartsAt, restartsAt, verb, select]
  cases t <;> rfl

theorem kind?_cut (d : Draft) : (d.cut q).kind? = d.kind? := by
  rcases d with ⟨dialect, tables, t, aliasName, fault, limit⟩
  cases t <;> rfl

/-- Nor do lists of columns matter to what is registered. -/
theorem entryFor?_cut (d : Draft) (step : Step) :
    (d.cut q).entryFor? (step.cut q) = d.entryFor? step := by
  cases step <;> rfl

/-- Whether a setter is refused does not depend on what is listed. -/
theorem objection?_cut (d : Draft) (step : Step) :
    (d.cut q).objection? (step.cut q) = d.objection? step := by
  have clause : (step.cut q).clause? = step.clause? := by cases step <;> rfl
  have reads : (step.cut q).readsNoSelect = step.readsNoSelect := by cases step <;> rfl
  have tables : (d.cut q).tables = d.tables := rfl
  have place : (d.cut q).hasPlaceFor = d.hasPlaceFor := by
    funext clause
    rw [hasPlaceFor, hasPlaceFor, kind?_cut]
  have misplaced : (d.cut q).misplaced = d.misplaced := by
    funext clause
    rw [Draft.misplaced, Draft.misplaced, kind?_cut]
  rw [objection?, objection?, clause, reads, tables, place, misplaced, entryFor?_cut]

/-- The draft that a step fills may be cut before the step or after it. -/
theorem filled_cut (d : Draft) (step : Step) :
    (d.cut q).filled (step.cut q) = (d.filled step).cut q := by
  have name : (step.cut q).nameAfter d.aliasName = step.nameAfter d.aliasName := by
    cases step <;> rfl
  have limit : (step.cut q).logLimitAfter d.logLimit = step.logLimitAfter d.logLimit := by
    cases step <;> rfl
  have statement := d.statement.filled_cut (q := q) d.dialect.toLexicon step
  simp only [filled, entryFor?_cut]
  simp only [cut, statement, name, limit]

/-- A step given with its list in pieces does the same to a draft with its lists in pieces. -/
theorem step_cut (d : Draft) (step : Step) :
    ((d.cut q).step (step.cut q)).1 = (d.step step).1.cut q := by
  rcases d.step_cases step with restarts | ⟨columns, w, rfl, statement, waits⟩ | setter
  · have restarts' : (d.cut q).restartsAt (step.cut q) = true := by
      rw [restartsAt_cut, restarts]
    -- Of the draft before it, a verb keeps nothing that could be in pieces.
    have begun : (step.cut q).begun = step.begun.cut q := by cases step <;> rfl
    rw [step_of_restarts restarts, step_of_restarts restarts', begun]
    rfl
  · have statement' : (d.cut q).statement =
        .with_ { w with selection := w.selection.cut q } := by
      rw [cut, statement]
      rfl
    rw [select_of_awaits statement waits, Step.cut, select_of_awaits statement' waits]
    rfl
  · have setter' : (step.cut q).isVerb = false := by
      rw [← setter]
      cases step <;> rfl
    rw [step_of_setter _ setter, step_of_setter _ setter', settled, settled, objection?_cut]
    cases d.objection? step with
    | some fault =>
      rw [refuse_eq, refuse_eq]
      rfl
    | none => exact d.filled_cut step

/-- So it may before a whole run or after it. -/
theorem run_cut (d : Draft) (steps : List Step) :
    ((d.cut q).run (steps.map (Step.cut q))).1 = (d.run steps).1.cut q := by
  induction steps generalizing d with
  | nil => rfl
  | cons step rest ih =>
    show (((d.cut q).step (step.cut q)).1.run (rest.map (Step.cut q))).1 = _
    rw [step_cut, ih (d.step step).1]
    rfl

end Draft

/-! ### Rendering -/

/-- The pieces of a list have the items of the list, in the same order. -/
theorem Lexicon.flatMap_items_cut (lex : Lexicon) (columns : List Text) :
    (lex.quotes.cut columns).flatMap lex.items = columns.flatMap lex.items := by
  have pieces : ∀ t : Text, (t.cutAt lex.quotes ',').flatMap lex.items = lex.items t := by
    intro t
    -- Cut again, the pieces stay whole, and trimming is all that is done to them.
    have whole := congrArg (List.map Text.trim) (Text.flatMap_cutAt_cutAt lex.quotes ',' t)
    rw [List.map_flatMap] at whole
    exact whole
  rw [Quotes.cut, List.flatMap_assoc]
  exact List.flatMap_congr fun t _ => pieces t

/-- Of a list the items are written, in however many texts it was given. -/
theorem Scope.listItems_cut (scope : Scope) (columns : List Text) :
    scope.listItems (scope.lexicon.quotes.cut columns) = scope.listItems columns := by
  rw [listItems, listItems, scope.lexicon.flatMap_items_cut]

/-- A selection is rendered alike with its lists in pieces. -/
theorem Selection.render_cut (scope : Scope) (s : Selection) :
    (s.cut scope.lexicon.quotes).render scope = s.render scope := by
  -- Only the three lists differ, and each is taken apart to the same items.
  rcases s with ⟨columns, source, joins, filters, group, having, order, limit, unions⟩
  have list : ∀ columns, scope.selectList (scope.lexicon.quotes.cut columns) =
      scope.selectList columns := by
    intro columns
    rw [Scope.selectList, Scope.selectList, scope.listItems_cut]
  have clause : ∀ keyword columns, scope.listClause keyword (scope.lexicon.quotes.cut columns) =
      scope.listClause keyword columns := by
    intro keyword columns
    rw [Scope.listClause, Scope.listClause, scope.listItems_cut]
  simp only [Selection.cut, Selection.render, list, clause]

/-- So is a draft. -/
theorem Draft.render_cut (lex : Lexicon) (d : Draft) :
    (d.cut lex.quotes).render lex = d.render lex := by
  rcases d with ⟨dialect, tables, t, aliasName, fault, limit⟩
  cases fault with
  | some fault => rfl
  | none =>
    have selection (s : Selection) :=
      Selection.render_cut (Scope.ofStatement lex tables) s
    cases t with
    | empty | insert | update | delete => rfl
    | select s => exact selection s
    | with_ w =>
      -- Of a WITH only the inner SELECT has lists.
      rcases w with ⟨names, bodies, recursive, hasSelect, s⟩
      show WithClause.render _ _ = WithClause.render _ _
      have inner : (s.cut lex.quotes).render (Scope.ofStatement lex tables) =
          s.render (Scope.ofStatement lex tables) := selection s
      simp only [WithClause.render, inner]

/-- Steps that are the same with their lists in pieces make drafts that may stand for each
other. -/
theorem Draft.interchangeable_of_cut {lex : Lexicon} {steps steps' : List Step}
    (same : steps.map (Step.cut lex.quotes) = steps'.map (Step.cut lex.quotes)) (d : Draft) :
    Interchangeable lex (d.run steps).1 (d.run steps').1 := by
  have cut : (d.run steps).1.cut lex.quotes = (d.run steps').1.cut lex.quotes := by
    rw [← run_cut, ← run_cut, same]
  have name : ((d.run steps).1.cut lex.quotes).aliasName =
      ((d.run steps').1.cut lex.quotes).aliasName := congrArg Draft.aliasName cut
  refine ⟨?_, ?_, name⟩
  · rw [← render_cut, cut, render_cut]
  · rw [← kind?_cut (q := lex.quotes), cut, kind?_cut]

/-! ## Lists in one text or in several -/

namespace Lexicon

variable {lex : Lexicon} {list : Text}

/-- A comma behind a closed text is a comma between two items. -/
theorem items_append_cons (closed : list.isClosed lex.quotes = true) (apart : ¬ lex.quotes.has ',')
    (later : Text) : lex.items (list ++ ',' :: later) = lex.items list ++ lex.items later := by
  rw [items, items, items, Text.cutAt_append_cons closed apart, List.map_append]

/-- A list may be given in one text or in two, if the comma between them is not quoted. -/
theorem cut_append_cons (closed : list.isClosed lex.quotes = true) (apart : ¬ lex.quotes.has ',')
    (later : Text) (front back : List Text) :
    lex.quotes.cut (front ++ (list ++ ',' :: later) :: back) =
      lex.quotes.cut (front ++ list :: later :: back) := by
  have both := Text.cutAt_append_cons closed apart later
  simp only [Quotes.cut, List.flatMap_append, List.flatMap_cons, both, List.append_assoc]

/-- The items of a text are its pieces, trimmed, and the pieces are the text with its unquoted
commas taken out. Behind a closed text a comma divides the items, and so a list that is selected,
grouped by or ordered by may be given in one text or in two, wherever the step stands among
others. -/
theorem items_of_pieces (lex : Lexicon) (list : Text) :
    (∃ pieces : List Text, lex.items list = pieces.map Text.trim ∧
      Text.CutInto lex.quotes ',' list pieces) ∧
      (list.isClosed lex.quotes = true → ¬ lex.quotes.has ',' → ∀ later : Text,
        lex.items (list ++ ',' :: later) = lex.items list ++ lex.items later ∧
        ∀ clause ∈ [Step.select, Step.group, Step.order], ∀ (front back : List Text)
          (d : Draft) (before after : List Step),
          Draft.Interchangeable lex
            (d.run (before ++ clause (front ++ (list ++ ',' :: later) :: back) :: after)).1
            (d.run (before ++ clause (front ++ list :: later :: back) :: after)).1) := by
  constructor
  · exact ⟨list.cutAt lex.quotes ',', rfl, Text.cutInto_cutAt lex.quotes ',' list⟩
  · intro closed apart later
    refine ⟨items_append_cons closed apart later, ?_⟩
    intro clause member front back d before after
    apply Draft.interchangeable_of_cut
    have cut := cut_append_cons closed apart later front back
    have clauses : (clause (front ++ (list ++ ',' :: later) :: back)).cut lex.quotes =
        (clause (front ++ list :: later :: back)).cut lex.quotes := by
      simp only [List.mem_cons, List.not_mem_nil, or_false] at member
      rcases member with rfl | rfl | rfl
      · exact congrArg Step.select cut
      · exact congrArg Step.group cut
      · exact congrArg Step.order cut
    rw [List.map_append, List.map_append, List.map_cons, List.map_cons, clauses]

/-- A comma in quotes does not divide, and the one behind it does. -/
theorem items_of_pieces_quotedComma :
    Dialect.generic.items "'a,b' AS s,id" = ["'a,b' AS s", "id"] ∧
      Draft.Interchangeable Dialect.generic.toLexicon
        ((Draft.ofDialect .generic).run [.select ["'a,b' AS s,id"], .limit 1]).1
        ((Draft.ofDialect .generic).run [.select ["'a,b' AS s", "id"], .limit 1]).1 := by
  have closed : Text.isClosed Dialect.generic.quotes "'a,b' AS s" = true := by decide
  have apart : ¬ Dialect.generic.quotes.has ',' := by
    unfold Quotes.has
    decide
  obtain ⟨items, lists⟩ :=
    (items_of_pieces Dialect.generic.toLexicon "'a,b' AS s").2 closed apart "id"
  exact ⟨items, lists .select (by simp) [] [] (Draft.ofDialect .generic) [] [.limit 1]⟩

end Lexicon

end BoundSql
