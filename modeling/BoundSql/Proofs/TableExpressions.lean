import BoundSql.Proofs.Restarts
import BoundSql.Proofs.Terms
import Mathlib.Data.List.Forall2

/-!
# Table expressions

WITH opens its first table expression, and every body that is attached may open another one by its
name. A body belongs to the earliest name that has none yet (`Slots.take`), and in the SQL it stands
behind that name. A draft keeps the names and the bodies apart and pairs them up at the end
(`Draft.run_of_with`), so a body for which no name is open is noticed by the numbers only. If no
name is opened by such a body, the numbers tell (`Slots.Fits`), and whatever is rendered has every
body behind its own name (`Draft.render_of_slots`). If one is, the body is given to a name that
comes after it (`Draft.earlyBody_takes_laterName`).
-/

set_option autoImplicit false

namespace BoundSql

open Fragment (plain)
open List (Forall₂)

/-! ## Slots -/

/-- The table expressions of a WITH as far as they are known. -/
structure Slots where
  /-- Names with the bodies that were attached to them. -/
  filled : List (Text × Query)
  /-- Names that wait for their bodies, the earliest first. -/
  open_ : List Text
  /-- Bodies that were attached while no name waited for one. -/
  surplus : List Query

namespace Slots

/-- The slots of a WITH that has only been begun. -/
def ofName (first : Text) : Slots := ⟨[], [first], []⟩

/-- The slots after a body was attached: it belongs to the earliest name without one. -/
def take (slots : Slots) (q : Query) : Slots :=
  match slots.open_ with
  | [] => { slots with surplus := slots.surplus ++ [q] }
  | name :: later => { slots with filled := slots.filled ++ [(name, q)], open_ := later }

/-- The slots after a step. -/
def after (slots : Slots) : Step → Slots
  | .body q next => { slots.take q with open_ := (slots.take q).open_ ++ next.toList }
  | _ => slots

/-- The slots after some steps. -/
def afterAll (slots : Slots) (steps : List Step) : Slots := steps.foldl after slots

/-- Whether a step opens a name by a body for which no name is open. -/
def skipsAt (slots : Slots) : Step → Bool
  | .body _ (some _) => slots.open_.isEmpty
  | _ => false

/-- Whether some step opens a name by a body for which no name is open. -/
def skipsIn (slots : Slots) : List Step → Bool
  | [] => false
  | step :: rest => slots.skipsAt step || (slots.after step).skipsIn rest

end Slots

/-- The name that a step opens. -/
def Step.opened : Step → List Text
  | .body _ next => next.toList
  | _ => []

/-- The body that a step attaches. -/
def Step.attached : Step → List Query
  | .body q _ => [q]
  | _ => []

namespace Slots

variable {slots : Slots} {names : List Text} {bodies : List Query} {step : Step}

/-- Names and bodies in the order in which they were given are those of the slots. -/
structure Fits (slots : Slots) (names : List Text) (bodies : List Query) : Prop where
  names : names = slots.filled.map Prod.fst ++ slots.open_
  bodies : bodies = slots.filled.map Prod.snd ++ slots.surplus
  /-- While there are bodies without a name, no name waits. -/
  apart : slots.surplus = [] ∨ slots.open_ = []

theorem fits_ofName (first : Text) : (ofName first).Fits [first] [] := ⟨rfl, rfl, .inl rfl⟩

theorem Fits.after (h : slots.Fits names bodies) (inTurn : slots.skipsAt step = false) :
    (slots.after step).Fits (names ++ step.opened) (bodies ++ step.attached) := by
  cases step with
  | body q next =>
    rcases slots with ⟨filled, open_, surplus⟩
    obtain ⟨rfl, rfl, apart⟩ := h
    cases open_ with
    | nil =>
      -- One more body without a name. As the step is in turn, it opens no name either.
      cases next with
      | none => exact ⟨by simp [Slots.after, take, Step.opened],
          by simp [Slots.after, take, Step.attached], .inr rfl⟩
      | some next => cases inTurn
    | cons name later =>
      obtain rfl : surplus = [] := by simpa using apart
      exact ⟨by simp [Slots.after, take, Step.opened], by simp [Slots.after, take, Step.attached],
        .inl rfl⟩
  | _ =>
    simp only [Step.opened, Step.attached, List.append_nil]
    exact h

/-- If no name is opened by a body for which none is open, the slots can be told from the names
and the bodies alone. -/
theorem Fits.afterAll (h : slots.Fits names bodies) {steps : List Step}
    (inTurn : slots.skipsIn steps = false) :
    (slots.afterAll steps).Fits (names ++ steps.flatMap Step.opened)
      (bodies ++ steps.flatMap Step.attached) := by
  induction steps generalizing slots names bodies with
  | nil => simpa [Slots.afterAll] using h
  | cons step rest ih =>
    obtain ⟨first, later⟩ := Bool.or_eq_false_iff.1 inTurn
    simpa [Slots.afterAll] using ih (h.after first) later

/-! ### What becomes of one body -/

/-- What is filled stays filled, and a surplus is never used up. -/
theorem exists_afterAll (slots : Slots) (steps : List Step) :
    ∃ filled surplus, (slots.afterAll steps).filled = slots.filled ++ filled ∧
      (slots.afterAll steps).surplus = slots.surplus ++ surplus := by
  induction steps generalizing slots with
  | nil => exact ⟨[], [], by simp [afterAll], by simp [afterAll]⟩
  | cons step rest ih =>
    obtain ⟨filled, surplus, filled_, surplus_⟩ := ih (slots.after step)
    have now : ∃ filled surplus, (slots.after step).filled = slots.filled ++ filled ∧
        (slots.after step).surplus = slots.surplus ++ surplus := by
      cases step with
      | body q next =>
        -- A body fills the first open slot, or is one too many.
        rcases slots with ⟨known, _ | ⟨name, later⟩, left⟩
        · exact ⟨[], [q], by simp [after, take], rfl⟩
        · exact ⟨[(name, q)], [], rfl, by simp [after, take]⟩
      | _ => exact ⟨[], [], by simp [after], by simp [after]⟩
    obtain ⟨filled', surplus', filled'_, surplus'_⟩ := now
    refine ⟨filled' ++ filled, surplus' ++ surplus, ?_, ?_⟩
    · show ((slots.after step).afterAll rest).filled = _
      rw [filled_, filled'_, List.append_assoc]
    · show ((slots.after step).afterAll rest).surplus = _
      rw [surplus_, surplus'_, List.append_assoc]

theorem afterAll_append (slots : Slots) (before : List Step) (q : Query) (next : Option Text)
    (later : List Step) :
    slots.afterAll (before ++ .body q next :: later) =
      ((slots.afterAll before).after (.body q next)).afterAll later := by
  rw [afterAll, List.foldl_append, List.foldl_cons]
  rfl

/-- A body for which no name is open is left over. -/
theorem surplus_ne_nil (slots : Slots) {before : List Step}
    (none_ : (slots.afterAll before).open_ = []) (q : Query) (next : Option Text)
    (later : List Step) :
    (slots.afterAll (before ++ .body q next :: later)).surplus ≠ [] := by
  rw [afterAll_append]
  obtain ⟨-, surplus, -, left⟩ :=
    exists_afterAll ((slots.afterAll before).after (.body q next)) later
  rw [left]
  simp [after, take, none_]

/-- A body belongs to the earliest name that is open when it is attached. -/
theorem exists_filled (slots : Slots) {before : List Step} {name : Text} {others : List Text}
    (waits : (slots.afterAll before).open_ = name :: others) (q : Query) (next : Option Text)
    (later : List Step) :
    ∃ more, (slots.afterAll (before ++ .body q next :: later)).filled =
      (slots.afterAll before).filled ++ (name, q) :: more := by
  rw [afterAll_append]
  obtain ⟨filled, -, filled_, -⟩ :=
    exists_afterAll ((slots.afterAll before).after (.body q next)) later
  refine ⟨filled, ?_⟩
  rw [filled_]
  simp [after, take, waits]

end Slots

/-! ## The names and bodies of a draft -/

theorem WithClause.filled_parts (w : WithClause) (lex : Lexicon) (step : Step) :
    (w.filled lex step).names = w.names ++ step.opened ∧
      (w.filled lex step).bodies = w.bodies ++ step.attached ∧
      (w.filled lex step).recursive = w.recursive := by
  cases step with
  | body q next => exact ⟨rfl, rfl, rfl⟩
  | _ => exact ⟨(List.append_nil _).symm, (List.append_nil _).symm, rfl⟩

namespace Draft

variable {d : Draft} {w : WithClause} {step : Step}

theorem objection?_body (statement : d.statement = .with_ w) (q : Query) (next : Option Text) :
    d.objection? (.body q next) = none := by
  have place : d.hasPlaceFor .body = true := by simp [hasPlaceFor, kind?, statement,
    Statement.kind?, Clause.kinds]
  simp [objection?, Step.clause?, place, Step.readsNoSelect, entryFor?]

/-- As long as no other statement is begun, only the attached bodies and the names given with them
come in behind the others. -/
theorem step_of_with (statement : d.statement = .with_ w) (stays : d.restartsAt step = false) :
    ∃ w', (d.step step).1.statement = .with_ w' ∧ w'.names = w.names ++ step.opened ∧
      w'.bodies = w.bodies ++ step.attached ∧ w'.recursive = w.recursive := by
  have outcome := d.outcome_step step
  generalize (d.step step).1 = after at outcome ⊢
  cases outcome with
  | begins restarts =>
    rw [stays] at restarts
    cases restarts
  | awaited is own waits =>
    rw [statement] at own
    cases own
    cases is
    exact ⟨_, rfl, (List.append_nil _).symm, (List.append_nil _).symm, rfl⟩
  | refused objection =>
    -- What is refused is no body, and it leaves the statement as it was.
    have idle : step.opened = [] ∧ step.attached = [] := by
      cases step with
      | body q next =>
        rw [objection?_body statement] at objection
        cases objection
      | _ => exact ⟨rfl, rfl⟩
    rw [idle.1, idle.2, List.append_nil, List.append_nil]
    exact ⟨w, statement, rfl, rfl, rfl⟩
  | filled _ _ =>
    refine ⟨w.filled d.dialect.toLexicon step, ?_, w.filled_parts _ step⟩
    show d.statement.filled d.dialect.toLexicon step = _
    rw [statement]
    rfl

theorem run_of_with (statement : d.statement = .with_ w) {steps : List Step}
    (stays : d.restartsIn steps = false) :
    ∃ w', (d.run steps).1.statement = .with_ w' ∧
      w'.names = w.names ++ steps.flatMap Step.opened ∧
      w'.bodies = w.bodies ++ steps.flatMap Step.attached ∧ w'.recursive = w.recursive := by
  induction steps generalizing d w with
  | nil => exact ⟨w, statement, (List.append_nil _).symm, (List.append_nil _).symm, rfl⟩
  | cons step rest ih =>
    obtain ⟨first, later⟩ := Bool.or_eq_false_iff.1 stays
    obtain ⟨w₁, statement₁, names₁, bodies₁, recursive₁⟩ := step_of_with statement first
    obtain ⟨w₂, statement₂, names₂, bodies₂, recursive₂⟩ := ih statement₁ later
    refine ⟨w₂, statement₂, ?_, ?_, recursive₂.trans recursive₁⟩
    · rw [names₂, names₁, List.flatMap_cons, List.append_assoc]
    · rw [bodies₂, bodies₁, List.flatMap_cons, List.append_assoc]

end Draft

/-! ## Rendering -/

/-- A table expression as it is written: the name, and behind AS the body in parentheses. -/
def IsWrittenAs (lex : Lexicon) (expression : Text × Query) (item : Fragment) : Prop :=
  ∃ sql, expression.2.render lex = .ok sql ∧
    item = plain (expression.1 ++ " AS ") ++ sql.parenthesized

theorem isWrittenAs_of_renderBodies {lex : Lexicon} {filled : List (Text × Query)}
    {written : List Fragment} (h : renderBodies lex (filled.map Prod.snd) = .ok written) :
    Forall₂ (IsWrittenAs lex) filled
      (List.zipWith (fun name body => plain (name ++ " AS ") ++ body.parenthesized)
        (filled.map Prod.fst) written) := by
  induction filled generalizing written with
  | nil => exact .nil
  | cons expression rest ih =>
    obtain ⟨sql, first, h⟩ := bind_eq_ok_iff.1 h
    obtain ⟨later, rest_, h⟩ := bind_eq_ok_iff.1 h
    cases h
    exact .cons ⟨sql, first, rfl⟩ (ih rest_)

/-- A WITH whose slots are filled is written with each body behind its own name, and the inner
SELECT behind them all. -/
theorem WithClause.items_of_render {scope : Scope} {w : WithClause} {slots : Slots} {f : Fragment}
    (fits : slots.Fits w.names w.bodies) (h : w.render scope = .ok f) :
    slots.surplus = [] ∧ slots.open_ = [] ∧
      ∃ items inner, Forall₂ (IsWrittenAs scope.lexicon) slots.filled items ∧
        w.selection.render scope = .ok inner ∧
        f = Fragment.joined " " (plain "WITH" ::
          (if w.recursive then [plain "RECURSIVE"] else []) ++
            [Fragment.joined ", " items, inner]) := by
  rcases w with ⟨names, bodies, recursive, hasSelect, selection⟩
  rcases slots with ⟨filled, open_, surplus⟩
  obtain ⟨rfl, rfl, apart⟩ := fits
  simp only [WithClause.render] at h
  split at h
  · cases h
  · rename_i paired
    split at h
    · cases h
    · -- The numbers agree, so nothing is left over on either side.
      have none_ : surplus = [] ∧ open_ = [] := by
        have lengths := not_not.1 paired
        simp only [List.length_append, List.length_map, Nat.add_left_cancel_iff] at lengths
        rcases apart with rfl | rfl
        · exact ⟨rfl, List.eq_nil_of_length_eq_zero lengths⟩
        · exact ⟨List.eq_nil_of_length_eq_zero lengths.symm, rfl⟩
      obtain ⟨rfl, rfl⟩ := none_
      obtain ⟨written, bodies, h⟩ := bind_eq_ok_iff.1 h
      obtain ⟨inner, select, h⟩ := bind_eq_ok_iff.1 h
      cases h
      simp only [List.append_nil] at bodies ⊢
      exact ⟨trivial, trivial, _, inner, isWrittenAs_of_renderBodies bodies, select, rfl⟩

theorem WithClause.render_of_surplus {w : WithClause} {slots : Slots}
    (fits : slots.Fits w.names w.bodies) (left : slots.surplus ≠ []) (scope : Scope) :
    w.render scope = .error (.statementState (.unpairedBodies slots.filled.length
      (slots.filled.length + slots.surplus.length))) := by
  rcases w with ⟨names, bodies, recursive, hasSelect, selection⟩
  obtain ⟨rfl, rfl, apart⟩ := fits
  have none_ : slots.open_ = [] := apart.resolve_left left
  have more : 0 < slots.surplus.length := List.length_pos_iff.2 left
  have unpaired : slots.filled.length ≠ slots.filled.length + slots.surplus.length := by omega
  simp only [WithClause.render, none_, List.append_nil, List.length_map, List.length_append,
    ne_eq, unpaired, not_false_eq_true, if_true]

namespace Draft

/-- If no name is opened by a body for which none is open, the WITH that has come of some steps has
the names and the bodies of its slots. -/
theorem exists_fitting {dialect : Dialect} {front rest : List Step} {first : Text}
    {recursive : Bool}
    (stays :
      ((ofDialect dialect).run (front ++ [.with_ first recursive])).1.restartsIn rest = false)
    (inTurn : (Slots.ofName first).skipsIn rest = false) :
    ∃ w, ((ofDialect dialect).run (front ++ .with_ first recursive :: rest)).1.statement =
        .with_ w ∧ w.recursive = recursive ∧
      ((Slots.ofName first).afterAll rest).Fits w.names w.bodies := by
  have begun : ((ofDialect dialect).run (front ++ [.with_ first recursive])).1.statement =
      .with_ (.ofName first recursive) := by
    rw [run_concat]
    rfl
  obtain ⟨w, statement, names, bodies, recursive_⟩ := run_of_with begun stays
  rw [← run_append, List.append_assoc] at statement
  refine ⟨w, statement, recursive_, ?_⟩
  rw [names, bodies]
  exact (Slots.fits_ofName first).afterAll inTurn

/-- After WITH, bodies, clauses and the inner SELECT may come in any order, but no name may be
opened by a body for which none is open. Then a body for which no name was open makes rendering
fail, with the first mistake if a step before has made one, and else because the bodies do not
pair up. And if the statement is rendered, a name was open for every body, and the body stands
behind the earliest of the names that were. -/
theorem render_of_slots (dialect : Dialect) (front rest : List Step) (first : Text)
    (recursive : Bool)
    (stays :
      ((ofDialect dialect).run (front ++ [.with_ first recursive])).1.restartsIn rest = false)
    (inTurn : (Slots.ofName first).skipsIn rest = false) :
    let d := ((ofDialect dialect).run (front ++ .with_ first recursive :: rest)).1
    let slots := (Slots.ofName first).afterAll
    (∀ before q next later, rest = before ++ .body q next :: later → (slots before).open_ = [] →
      (slots rest).surplus ≠ [] ∧
      ∀ lex, d.render lex = .error (d.fault.getD (.statementState
        (.unpairedBodies (slots rest).filled.length
          ((slots rest).filled.length + (slots rest).surplus.length))))) ∧
    ∀ lex f, d.render lex = .ok f →
      (∃ items inner, Forall₂ (IsWrittenAs lex) (slots rest).filled items ∧
        f = Fragment.joined " " (plain "WITH" :: (if recursive then [plain "RECURSIVE"] else []) ++
          [Fragment.joined ", " items, inner])) ∧
      ∀ before q next later, rest = before ++ .body q next :: later →
        ∃ name others more, (slots before).open_ = name :: others ∧
          (slots rest).filled = (slots before).filled ++ (name, q) :: more := by
  intro d slots
  obtain ⟨w, begun, rfl, fits⟩ := exists_fitting stays inTurn
  have statement : d.statement = .with_ w := begun
  constructor
  · intro before q next later split none_
    have left : (slots rest).surplus ≠ [] := by
      rw [split]
      exact Slots.surplus_ne_nil _ none_ q next later
    refine ⟨left, fun lex => ?_⟩
    cases recorded : d.fault with
    | some fault => exact render_of_fault recorded lex
    | none =>
      rw [render_of_sound recorded, statement]
      exact WithClause.render_of_surplus fits left _
  · intro lex f ok
    obtain ⟨-, ok⟩ := statement_of_render ok
    rw [statement] at ok
    obtain ⟨paired, -, items, inner, written, -, rfl⟩ := WithClause.items_of_render fits ok
    refine ⟨⟨items, inner, written, rfl⟩, ?_⟩
    intro before q next later split
    cases waits : (slots before).open_ with
    | nil =>
      -- A body without a name would have been left over.
      have left := Slots.surplus_ne_nil (Slots.ofName first) waits q next later
      rw [← split] at left
      exact absurd paired left
    | cons name others =>
      obtain ⟨more, filled⟩ := Slots.exists_filled (Slots.ofName first) waits q next later
      rw [← split] at filled
      exact ⟨name, others, more, rfl, filled⟩

/-- The second body belongs to the name that came with the first, and a third one would have no
name. -/
theorem render_of_twoBodies :
    let steps : List Step := [.body (.text "SELECT 1") (some "b"), .limit 3,
      .body (.text "SELECT 2") none, .select [], .source (.table (.raw "b"))]
    let d := ((ofDialect .generic).run ([.insert "t"] ++ .with_ "a" true :: steps)).1
    let d' := ((ofDialect .generic).run
      ([.insert "t"] ++ .with_ "a" true :: (steps ++ [.body (.text "SELECT 3") none]))).1
    (∃ f items inner, d.render Dialect.generic.toLexicon = .ok f ∧
      Forall₂ (IsWrittenAs Dialect.generic.toLexicon)
        [("a".toList, .text "SELECT 1"), ("b".toList, .text "SELECT 2")] items ∧
      f = Fragment.joined " "
        [plain "WITH", plain "RECURSIVE", Fragment.joined ", " items, inner]) ∧
    d'.render Dialect.generic.toLexicon = .error (.statementState (.unpairedBodies 2 3)) := by
  intro steps d d'
  constructor
  · have rendered : (d.render Dialect.generic.toLexicon).toOption.isSome = true := by
      decide +kernel
    cases ok : d.render Dialect.generic.toLexicon with
    | error fault =>
      rw [ok] at rendered
      cases rendered
    | ok f =>
      obtain ⟨-, written⟩ := render_of_slots .generic [.insert "t"] steps "a" true rfl rfl
      obtain ⟨⟨items, inner, bodies, f_⟩, -⟩ := written _ f ok
      exact ⟨f, items, inner, rfl, bodies, f_⟩
  · obtain ⟨left, -⟩ := render_of_slots .generic [.insert "t"]
      (steps ++ [.body (.text "SELECT 3") none]) "a" true rfl rfl
    obtain ⟨-, fails⟩ := left steps (.text "SELECT 3") none [] rfl rfl
    exact fails _

/-- A body that is attached while no name is open is written behind the name that it opens. -/
theorem earlyBody_takes_laterName :
    let rest : List Step := [.body (.text "SELECT 1") none, .body (.text "SELECT 2") (some "b"),
      .select [], .source (.table (.raw "b"))]
    let d := ((ofDialect .generic).run (.with_ "a" false :: rest)).1
    ((Slots.ofName "a").afterAll (rest.take 1)).open_ = [] ∧
      ((Slots.ofName "a").afterAll rest).surplus.length = 1 ∧
      d.kind? = some .with_ ∧ d.fault = none ∧
      d.rendered.toOption.map Rendered.sql =
        some "WITH a AS (SELECT 1), b AS (SELECT 2) SELECT * FROM b".toList := by
  refine ⟨rfl, rfl, rfl, rfl, by decide +kernel⟩

end Draft

end BoundSql
