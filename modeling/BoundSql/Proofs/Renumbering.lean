import BoundSql.Proofs.Rendering

/-!
# Renumbering the marks

The style of the marks and the number of values that are bound before a statement
change its marks and nothing else. The SQL of a fragment is woven of the texts between
its slots, its pieces, and of the marks of the style; the pieces and the values know
neither the style nor the numbers (`Draft.fails_or_isWoven`).

A draft in place within another one is a run of pieces of its own. It is written as it
would be by itself, with the numbers of its marks moved on by the values before it.
-/

set_option autoImplicit false

namespace BoundSql

/-! ## Pieces -/

/-- The pieces in order with the marks of a style between them, numbered from `first`. -/
def Placeholder.weave (style : Placeholder) (first : Nat) : List Text → Text
  | [] => []
  | [last] => last
  | piece :: next :: rest =>
    piece ++ style.token first ++ style.weave (first + 1) (next :: rest)

namespace Fragment

/-- The texts before, between and behind the slots of a fragment. -/
def pieces : Fragment → List Text
  | [] => [[]]
  | .char c :: rest => (pieces rest).modifyHead (c :: ·)
  | .slot _ :: rest => [] :: pieces rest

theorem length_pieces (f : Fragment) : f.pieces.length = f.values.length + 1 := by
  induction f with
  | nil => rfl
  | cons cell rest ih =>
    cases cell with
    | char c =>
      rw [pieces, List.length_modifyHead]
      exact ih
    | slot v => exact congrArg Nat.succ ih

theorem pieces_ne_nil (f : Fragment) : f.pieces ≠ [] :=
  List.ne_nil_of_length_eq_add_one f.length_pieces

theorem weave_modifyHead (style : Placeholder) (first : Nat) (c : Char) {texts : List Text}
    (h : texts ≠ []) :
    style.weave first (texts.modifyHead (c :: ·)) = c :: style.weave first texts := by
  cases texts with
  | nil => exact absurd rfl h
  | cons piece rest => cases rest <;> rfl

/-- The SQL of a fragment is woven of its pieces. -/
theorem sql_eq_weave (style : Placeholder) (prior : Nat) (f : Fragment) :
    f.sql style prior = style.weave (prior + 1) f.pieces := by
  induction f generalizing prior with
  | nil => rfl
  | cons cell rest ih =>
    cases cell with
    | char c =>
      rw [sql, pieces, weave_modifyHead _ _ _ (pieces_ne_nil rest), ih]
    | slot v =>
      rw [sql, pieces, ih]
      cases hp : pieces rest with
      | nil => exact absurd hp (pieces_ne_nil rest)
      | cons piece later => rfl

end Fragment

/-! ## Drafts in place -/

section InPlace

variable {lex : Lexicon} {rule : TextRule lex}

/-- A draft among the ingredients stands in the fragment as it is rendered by itself,
behind the literals that come before it. -/
theorem Assembled.exists_inPlace {ps : List Ingredient} {f : Fragment} (h : Assembled rule ps f)
    {before after : List Ingredient} {e : Draft} (hps : ps = before ++ .draft e :: after) :
    ∃ left inner right, f = left ++ inner ++ right ∧ e.render lex = .ok inner ∧
      left.values = literals before := by
  induction h generalizing before after with
  | word _ | emptyString | given _ | quoted _ | qualified _ _ | listed _ _ =>
    exact absurd hps (by simp)
  | slot v =>
    cases before with
    | nil => cases hps
    | cons i before => exact absurd (List.cons.inj hps).2 (by simp)
  | @nested d ps f renders _ ih =>
    -- Either this is the draft that is looked for, or it is within this one.
    cases before with
    | nil =>
      cases hps
      exact ⟨[], f, [], by simp, renders, rfl⟩
    | cons i before =>
      obtain ⟨rfl, hrest⟩ := List.cons.inj hps
      obtain ⟨left, inner, right, hf, hr, hv⟩ := ih hrest
      exact ⟨left, inner, right, hf, hr, hv⟩
  | @enclosed ps f _ ih =>
    obtain ⟨left, inner, right, rfl, hr, hv⟩ := ih hps
    refine ⟨Fragment.plain "(" ++ left, inner, right ++ Fragment.plain ")", ?_, hr, ?_⟩
    · simp [Fragment.parenthesized]
    · rw [Fragment.values_append, Fragment.values_plain, hv]
      rfl
  | @spaced ps qs f g glue _ hf _ ihl ihr =>
    have onRight : ∀ mid, before = ps ++ mid → qs = mid ++ .draft e :: after →
        ∃ left inner right, f ++ Fragment.plain glue ++ g = left ++ inner ++ right ∧
          e.render lex = .ok inner ∧ left.values = literals before := by
      rintro mid rfl hq
      obtain ⟨left, inner, right, rfl, hr, hv⟩ := ihr hq
      refine ⟨f ++ Fragment.plain glue ++ left, inner, right, by simp, hr, ?_⟩
      simp [Fragment.values_append, hf.values_eq, hv]
    -- The draft is among the ingredients of the left fragment or of the right one.
    rcases List.append_eq_append_iff.1 hps with ⟨mid, hb, hq⟩ | ⟨mid, hp, hq⟩
    · exact onRight mid hb hq
    · cases mid with
      | nil => exact onRight [] (by simpa using hp.symm) hq.symm
      | cons i mid =>
        obtain ⟨rfl, rfl⟩ := List.cons.inj hq
        obtain ⟨left, inner, right, rfl, hr, hv⟩ := ihl hp
        exact ⟨left, inner, right ++ Fragment.plain glue ++ g, by simp, hr, hv⟩

end InPlace

/-! ## Any style, any number of values before -/

/-- The dialect with another style of marks. -/
def Dialect.inStyle (dialect : Dialect) (style : Placeholder) : Dialect :=
  { dialect with placeholder := style }

/-- The draft is rendered to the pieces with marks between them and to the values behind
the ones already bound, in any style and behind any values. -/
structure Draft.IsWoven (d : Draft) (dialect : Dialect) (pieces : List Text)
    (values : List Value) : Prop where
  /-- Each two pieces have the mark of one value between them. -/
  length : pieces.length = values.length + 1
  rendered : ∀ (style : Placeholder) (prior : List Value),
    d.renderedWithin (dialect.inStyle style) prior =
      .ok ⟨style.weave (prior.length + 1) pieces, prior ++ values⟩

theorem Draft.isWoven_of_render {d : Draft} {dialect : Dialect} {f : Fragment}
    (h : d.render dialect.toLexicon = .ok f) : d.IsWoven dialect f.pieces f.values where
  length := f.length_pieces
  rendered style prior := by
    have same : d.render (dialect.inStyle style).toLexicon = .ok f := h
    rw [Draft.renderedWithin_of_ok same, Fragment.rendered, Fragment.sql_eq_weave]
    rfl

/-- The draft stands in place within a longer run of pieces and values, behind the values
`before`: it is woven of pieces and values of its own, and its SQL there is the SQL that it
has by itself, with the numbers of its marks moved on by the values before it. -/
def Draft.StandsWithin (e : Draft) (dialect : Dialect) (before : List Value)
    (pieces : List Text) (values : List Value) : Prop :=
  ∃ inner own left right later, e.IsWoven dialect inner own ∧
    values = before ++ own ++ later ∧
    left.length = before.length + 1 ∧ right.length = later.length + 1 ∧
    ∀ (style : Placeholder) (prior : Nat),
      style.weave (prior + 1) pieces =
        style.weave (prior + 1) left ++ style.weave (prior + before.length + 1) inner ++
          style.weave (prior + before.length + own.length + 1) right

/-- A draft fails with one fault in every style and behind any values, or it is woven of
one list of pieces and one list of values, and so is every draft in place within it. -/
theorem Draft.fails_or_isWoven (d : Draft) (dialect : Dialect) :
    (∃ fault, ∀ (style : Placeholder) (prior : List Value),
      d.renderedWithin (dialect.inStyle style) prior = .error fault) ∨
    ∃ pieces values, d.IsWoven dialect pieces values ∧
      ∀ before e after, d.ingredients = before ++ .draft e :: after →
        e.StandsWithin dialect (literals before) pieces values := by
  cases hf : d.render dialect.toLexicon with
  | error fault =>
    refine .inl ⟨fault, fun style prior => ?_⟩
    have same : d.render (dialect.inStyle style).toLexicon = .error fault := hf
    exact Draft.renderedWithin_of_error same prior
  | ok f =>
    refine .inr ⟨f.pieces, f.values, Draft.isWoven_of_render hf, fun before e after hi => ?_⟩
    have assembled : Assembled (.any dialect.toLexicon) (placed d.ingredients) f :=
      d.yields_assembled (fun _ _ _ => trivial) f hf
    have split : placed d.ingredients = placed before ++ .draft e :: placed after := by
      rw [hi, placed_append, placed_draft]
    -- The draft in place is a part of the whole fragment, with the literals given before it bound
    -- on its left.
    obtain ⟨left, inner, right, rfl, hr, hv⟩ := assembled.exists_inPlace split
    rw [literals_placed] at hv
    refine ⟨inner.pieces, inner.values, left.pieces, right.pieces, right.values,
      Draft.isWoven_of_render hr, ?_, ?_, right.length_pieces, fun style prior => ?_⟩
    · rw [Fragment.values_append, Fragment.values_append, hv]
    · rw [left.length_pieces, hv]
    · rw [← Fragment.sql_eq_weave, ← Fragment.sql_eq_weave, ← Fragment.sql_eq_weave,
        ← Fragment.sql_eq_weave, Fragment.sql_append, Fragment.sql_append,
        Fragment.values_append, hv, List.length_append, Nat.add_assoc prior]

end BoundSql
