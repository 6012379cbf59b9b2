import BoundSql.Proofs.Chains

/-!
# Comparisons without a source

A comparison stands without a source where a condition was begun without an operand. No call other
than `EXISTS` opens a term without one, so in whatever way a chain goes on, only its first
comparison can be without the source that it needs (`Condition.Sourced`, kept by every call).

Such a comparison is reported, whatever its operator and its destination, with a single exception:
among an empty list nothing is looked for, and the term for it is written without asking for the
source (`Comparison.render_of_unsourced`). So a chain with a comparison that lacks its source is
rendered only if that comparison is with an empty list, and the missing operand is what is reported
unless the chain has a mistake on record or ends in a conjunction
(`Condition.unsourced_is_reported`).
-/

set_option autoImplicit false

namespace BoundSql

/-! ## One comparison -/

/-- What is reported of a comparison without a source: two bounds are looked for first. -/
def Operator.unsourced (op : Operator) (destination : Option Operand) : OperandFault :=
  match op, destination with
  | .between, some (.list [_, _]) => .noSource .between
  | .between, _ => .wrongBounds
  | op, _ => .noSource op

namespace Operator

variable {op : Operator} {destination : Option Operand}

theorem unsourced_of_ne (notBetween : op ≠ .between) : op.unsourced destination = .noSource op := by
  unfold unsourced
  split
  · exact absurd rfl notBetween
  · exact absurd rfl notBetween
  · rfl

/-- Where a comparison has a form, its destination is as it should be. -/
theorem unsourced_of_form {form : Form} (h : op.form destination = .ok form) :
    op.unsourced destination = .noSource op := by
  by_cases between : op = .between
  · subst between
    -- Of all the destinations, only a list of two bounds has a form behind `BETWEEN`.
    match destination with
    | some (.list [_, _]) => rfl
    | none | some (.list []) | some (.list [_]) | some (.list (_ :: _ :: _ :: _))
    | some (.column _ _) | some (.value _) | some (.query _) => cases h
  · exact unsourced_of_ne between

/-- Where a comparison has a destination and still no form, it is without two bounds. -/
theorem wrongBounds_of_form {fault : Fault} (h : op.form destination = .error fault)
    (notExists : op ≠ .exists_) (complete : op.arity = .unary ∨ destination.isSome) :
    op.arity = .range ∧ fault = .missingOperand (op.unsourced destination) := by
  unfold form at h
  split at h
  · cases h
  · rename_i notUnary
    obtain ⟨d, rfl⟩ := Option.isSome_iff_exists.1 (complete.resolve_left notUnary)
    simp only [formWith, if_neg notExists] at h
    cases ha : op.arity with
    | unary => exact absurd ha notUnary
    | binary | list =>
      rw [ha] at h
      cases h
    | range =>
      obtain rfl : op = .between := by
        cases op <;> first | rfl | cases ha
      refine ⟨rfl, ?_⟩
      cases d with
      | list items =>
        rcases items with _ | ⟨_, _ | ⟨_, _ | ⟨_, _⟩⟩⟩
        · cases h
          rfl
        · cases h
          rfl
        · -- Two items are the bounds that were asked for.
          cases h
        · cases h
          rfl
      | column | value | query =>
        cases h
        rfl

end Operator

namespace Comparison

/-- Without its source, a comparison that has a destination is written if that is the empty list
of `IN` or `NOT IN`, and reported in every other case. -/
theorem render_of_unsourced (scope : Scope) {c : Comparison} (unsourced : c.source = none)
    (notExists : c.operator ≠ .exists_)
    (complete : c.operator.arity = .unary ∨ c.destination.isSome) :
    c.render scope =
      if c.operator.omitsOperands c.destination then .ok c.operator.onEmptyList
      else .error (.missingOperand (c.operator.unsourced c.destination)) := by
  rcases c with ⟨conjunction, source, op, destination⟩
  obtain rfl : source = none := unsourced
  simp only at notExists complete ⊢
  -- A comparison without a form lacks its bounds. One with a form lacks no more than its source,
  -- and does not miss that in the constant term for the empty list.
  cases hf : op.form destination with
  | error fault =>
    obtain ⟨range, rfl⟩ := Operator.wrongBounds_of_form hf notExists complete
    have omits : op.omitsOperands destination = false :=
      Operator.omitsOperands_of_arity (by simp [range]) destination
    rw [render_of_error hf, if_neg (by simp [omits])]
  | ok form =>
    have cause := Operator.unsourced_of_form hf
    cases Operator.formOf hf with
    | constant omits => rw [render_of_constant hf, if_pos omits]
    | suffixed unary =>
      have omits : op.omitsOperands destination = false :=
        Operator.omitsOperands_of_arity (by simp [unary]) destination
      rw [render_of_suffixed hf, if_neg (by simp [omits]), cause]
      rfl
    | exists_ same => exact absurd same notExists
    | infix_ omits _ _ two =>
      rw [Comparison.render_of_infix hf two, if_neg (by simp [omits]), cause]
      rfl

end Comparison

/-! ## Chains -/

namespace Condition

/-- What a call comes down to: a term opened with an operand, a term closed with the destination
that the operator needs, a query behind a conjunction, or no operator at all. -/
theorem Call.moves_cases (call : Call) :
    (∃ c o, call.moves = [.conjoin c (some o)]) ∨
    (∃ op destination, call.moves = [.close op destination] ∧
      (op.arity = .unary ∨ destination.isSome)) ∨
    (∃ c q, call.moves = [.conjoin c none, .close .exists_ (some (.query q))]) ∨
    ∃ name, call.moves = [.unknown name] := by
  cases call with
  | and name | or name | andOperand o | orOperand o => exact .inl ⟨_, _, rfl⟩
  | equals o | notEquals o | greater o | greaterEqual o | less o | lessEqual o | isIn o | notIn o
  | between low high | like o | ilike o | holds q =>
    exact .inr (.inl ⟨_, _, rfl, .inr rfl⟩)
  | isNull | isNotNull | isEmpty | isNotEmpty => exact .inr (.inl ⟨_, _, rfl, .inl rfl⟩)
  | andHolds q | orHolds q => exact .inr (.inr (.inl ⟨_, _, rfl⟩))
  | compare name o =>
    cases named : Operator.ofName? name with
    | none => exact .inr (.inr (.inr ⟨name, by simp only [Call.moves, named]⟩))
    | some op =>
      refine .inr (.inl ⟨op, if op.arity = .unary then none else some o,
        by simp only [Call.moves, named], ?_⟩)
      -- The destination is dropped where the operator takes none.
      by_cases unary : op.arity = .unary
      · exact .inl unary
      · exact .inr (by rw [if_neg unary]; rfl)

/-- Where a chain may lack a source, and that it lacks no destination. -/
structure Sourced (opening : Opening) (w : Condition) : Prop where
  /-- Only a condition begun without an operand has a comparison that lacks its source. -/
  begun : ∀ c ∈ w.comparisons, c.source = none → c.operator = .exists_ ∨ opening = .empty
  /-- No comparison behind the first lacks its source. -/
  later : ∀ c ∈ w.comparisons.tail, c.source = none → c.operator = .exists_
  /-- A term is open without a source only at the very beginning. -/
  waiting : ∀ p, w.pending = some p → p.source = none → w.comparisons = [] ∧ opening = .empty
  /-- Every comparison has the destination that its operator needs. -/
  complete : ∀ c ∈ w.comparisons, c.operator.arity = .unary ∨ c.destination.isSome

variable {opening : Opening} {w w' : Condition}

theorem sourced_opening (opening : Opening) : Sourced opening opening.condition where
  begun := by
    cases opening <;> exact fun c none_ => absurd none_ List.not_mem_nil
  later := by
    cases opening <;> exact fun c none_ => absurd none_ List.not_mem_nil
  waiting := by
    intro p waits unsourced
    cases opening with
    | empty => exact ⟨rfl, rfl⟩
    | column | qualified | value | operand =>
      cases waits
      cases unsourced
  complete := by
    cases opening <;> exact fun c none_ => absurd none_ List.not_mem_nil

/-- Where no comparison is added, a term may only be opened with a source. -/
theorem Sourced.keep (h : Sourced opening w) (same : w'.comparisons = w.comparisons)
    (sourced : ∀ p, w'.pending = some p → p.source.isSome) : Sourced opening w' where
  begun := by
    rw [same]
    exact h.begun
  later := by
    rw [same]
    exact h.later
  waiting := by
    intro p waits unsourced
    have has := sourced p waits
    rw [unsourced] at has
    cases has
  complete := by
    rw [same]
    exact h.complete

/-- A comparison that is added has a source, or is an `EXISTS`, or is the first of all. -/
theorem Sourced.concat (h : Sourced opening w) {new : Comparison}
    (same : w'.comparisons = w.comparisons ++ [new]) (closed : w'.pending = none)
    (source : new.source = none →
      new.operator = .exists_ ∨ w.comparisons = [] ∧ opening = .empty)
    (complete : new.operator.arity = .unary ∨ new.destination.isSome) : Sourced opening w' where
  begun := by
    intro c member unsourced
    rw [same, List.mem_append, List.mem_singleton] at member
    rcases member with old | rfl
    · exact h.begun c old unsourced
    · exact (source unsourced).imp_right And.right
  later := by
    intro c member unsourced
    rw [same] at member
    -- The first comparison of all may be without a source, so it matters whether there is one
    -- already.
    by_cases first : w.comparisons = []
    · rw [first] at member
      cases member
    · rw [List.tail_append_of_ne_nil first, List.mem_append, List.mem_singleton] at member
      rcases member with old | rfl
      · exact h.later c old unsourced
      · exact (source unsourced).resolve_right fun only => first only.1
  waiting := by
    intro p waits
    rw [closed] at waits
    cases waits
  complete := by
    intro c member
    rw [same, List.mem_append, List.mem_singleton] at member
    rcases member with old | rfl
    · exact h.complete c old
    · exact complete

/-- Whatever is called, no comparison comes to lack its source. -/
theorem Sourced.apply (h : Sourced opening w) (call : Call) : Sourced opening (call.apply w) := by
  rw [Call.apply_eq_foldl_moves]
  obtain ⟨c, o, moves⟩ | ⟨op, destination, moves, complete⟩ | ⟨c, q, moves⟩ | ⟨name, moves⟩ :=
    call.moves_cases
  · rw [moves]
    refine h.keep (comparisons_conjoin w c (some o)) fun p opened => ?_
    cases opened
    rfl
  · rw [moves]
    have closed : (w.close op destination).pending = none :=
      Move.pending_apply w (.close op destination)
    show Sourced opening (w.close op destination)
    cases waits : w.pending with
    | none =>
      refine h.keep ?_ fun p opened => ?_
      · simp only [Condition.close, waits, refuse]
      · rw [closed] at opened
        cases opened
    | some p =>
      exact h.concat (comparisons_close waits op destination) closed
        (fun unsourced => .inr (h.waiting p waits unsourced)) complete
  · -- The one term that is opened without a source is closed by `EXISTS` in the same call.
    rw [moves]
    show Sourced opening ((w.conjoin c none).close .exists_ (some (.query q)))
    have new := comparisons_close (w := w.conjoin c none) rfl .exists_ (some (.query q))
    rw [comparisons_conjoin] at new
    exact h.concat new (Move.pending_apply _ (.close .exists_ _)) (fun _ => .inl rfl) (.inr rfl)
  · rw [moves]
    exact h.keep rfl fun p opened => by cases opened

theorem sourced_built (opening : Opening) (calls : List Call) :
    Sourced opening (built opening calls) := by
  -- The last call is made on a chain that is as it should be already.
  induction calls using List.reverseRecOn with
  | nil => exact sourced_opening opening
  | append_singleton calls call ih =>
    rw [built, List.foldl_append]
    exact ih.apply call

/-- Rendering a condition without objection ends at the first comparison that is not rendered. -/
theorem render_of_first {scope : Scope} (clean : w.objection? = none) {c : Comparison}
    {rest : List Comparison} (first : w.comparisons = c :: rest) {fault : Fault}
    (h : c.render scope = .error fault) : w.render scope = .error fault := by
  rcases w with ⟨comparisons, pending, recorded⟩
  obtain rfl : comparisons = c :: rest := first
  rw [Condition.render, clean, renderTerms, h]
  rfl

/-- Where a condition has been put together by calls and a comparison of it other than `EXISTS`
has no source, the condition was begun without an operand and no comparison stands before that one.
Unless the comparison is by `IN` or `NOT IN` with an empty list, the condition is not rendered, in
whatever scope and behind whatever values, and if it has no mistake on record and does not end in a
conjunction, the fault is the missing operand. With an empty list, the comparison is written without
its source. -/
theorem unsourced_is_reported (opening : Opening) (calls : List Call) {c : Comparison}
    (member : c ∈ (built opening calls).comparisons) (unsourced : c.source = none)
    (notExists : c.operator ≠ .exists_) :
    let w := built opening calls
    opening = .empty ∧
    (∀ before after, w.comparisons = before ++ c :: after → before = []) ∧
    (c.operator.omitsOperands c.destination = false → ∀ scope style prior,
      let rendered := (w.render scope).map (Fragment.rendered style prior)
      (∃ fault, rendered = .error fault) ∧
      (w.fault = none → (∀ k source, w.pending ≠ some ⟨some k, source⟩) →
        rendered = .error (.missingOperand (c.operator.unsourced c.destination)))) ∧
    (c.operator.omitsOperands c.destination = true → ∀ scope,
      c.render scope = .ok c.operator.onEmptyList) := by
  intro w
  have sourced : Sourced opening w := sourced_built opening calls
  have written := fun scope =>
    Comparison.render_of_unsourced scope unsourced notExists (sourced.complete c member)
  have alone : ∀ before after, w.comparisons = before ++ c :: after → before = [] := by
    intro before after split
    by_contra some_
    -- Behind other comparisons it would be in the tail.
    refine notExists (sourced.later c ?_ unsourced)
    rw [split, List.tail_append_of_ne_nil some_]
    simp
  refine ⟨(sourced.begun c member unsourced).resolve_left notExists, alone, ?_, ?_⟩
  · intro omits scope style prior rendered
    have reported (clean : w.objection? = none) :
        rendered = .error (.missingOperand (c.operator.unsourced c.destination)) := by
      obtain ⟨before, after, split⟩ := List.append_of_mem member
      obtain rfl := alone before after split
      have missing := written scope
      rw [if_neg (by simp [omits])] at missing
      simp only [rendered, render_of_first clean split missing]
      rfl
    refine ⟨?_, fun noFault noEnd => reported ((objection?_eq_none_iff w).2 ⟨noFault, noEnd⟩)⟩
    cases objection : w.objection? with
    | none => exact ⟨_, reported objection⟩
    | some fault =>
      refine ⟨fault, ?_⟩
      simp only [rendered, render_of_objection? objection]
      rfl
  · intro omits scope
    have missing := written scope
    rwa [if_pos omits] at missing

/-- Between two bounds, but what: the rest of the chain does not matter. -/
theorem unsourced_is_reported_of_bounds :
    let c : Comparison := ⟨none, none, .between, some (.list [.value (.int 1), .value (.int 2)])⟩
    let w := built .empty
      [.between (.value (.int 1)) (.value (.int 2)), .or "age", .greater (.value (.int 18))]
    c ∈ w.comparisons ∧ c.source = none ∧ c.operator ≠ .exists_ ∧
      w.rendered .generic .empty = .error (.missingOperand (.noSource .between)) := by
  intro c w
  have member : c ∈ w.comparisons := List.mem_cons_self
  have notExists : c.operator ≠ .exists_ := by decide
  obtain ⟨-, -, reported, -⟩ := unsourced_is_reported .empty _ member rfl notExists
  exact ⟨member, rfl, notExists, (reported rfl _ _ _).2 rfl fun _ _ waits => by cases waits⟩

/-- Among an empty list, a comparison without a source is written as if it had one. -/
theorem emptyList_needs_no_source :
    let w := built .empty [.isIn (.list [])]
    w.comparisons = [⟨none, none, .isIn, some (.list [])⟩] ∧ w.fault = none ∧ w.pending = none ∧
      w.rendered .generic .empty = .ok ⟨"1=0".toList, []⟩ := by
  exact ⟨rfl, rfl, rfl, rfl⟩

end Condition

end BoundSql
