import BoundSql.Proofs.Chains

/-!
# Connectives

What the filters of a statement mean together. The comparisons are atoms, each true or
false; parentheses group, and `AND` binds tighter than `OR`. A text is read by taking it
apart into the SQL of given atoms, in their order, with connectives and parentheses between
them (`ReadsAs`).

Two things make a reading unique. No comparison is written in the letters of the
connectives alone, so the places of the atoms in a text are fixed, and with them the tokens
(`eq_of_sql_written_eq`). And tokens that can be read in more than one way, as `a AND b AND c`
can, have the same value in all of them (`Means.value_unique`).

A filter with an `OR` is a disjunction, and filters that share a clause are joined by `AND`.
The parentheses around such a filter keep it a factor of the whole. A filter that stands
alone needs none.
-/

set_option autoImplicit false

namespace BoundSql

open Fragment (plain)

/-! ## Tokens and what they mean -/

/-- The SQL of a comparison, and whether the comparison holds. -/
structure Atom where
  sql : Fragment
  holds : Bool

/-- An atom, a connective or a parenthesis. -/
inductive Token where
  | atom (a : Atom)
  | and
  | or
  | opening
  | closing

/-- The atom, if the token is one. -/
def Token.atom? : Token → Option Atom
  | .atom a => some a
  | _ => none

/-- The token as it is written; connectives have blanks around them. -/
def Token.written : Token → Fragment
  | .atom a => a.sql
  | .and => plain " AND "
  | .or => plain " OR "
  | .opening => plain "("
  | .closing => plain ")"

@[simp] theorem Token.written_atom (a : Atom) : (Token.atom a).written = a.sql := rfl
@[simp] theorem Token.written_and : Token.and.written = plain " AND " := rfl
@[simp] theorem Token.written_or : Token.or.written = plain " OR " := rfl
@[simp] theorem Token.written_opening : Token.opening.written = plain "(" := rfl
@[simp] theorem Token.written_closing : Token.closing.written = plain ")" := rfl

/-- Tokens as they are written one behind the other. -/
def written (tokens : List Token) : Fragment := tokens.flatMap Token.written

@[simp] theorem written_nil : written [] = [] := rfl

@[simp] theorem written_cons (t : Token) (rest : List Token) :
    written (t :: rest) = t.written ++ written rest := rfl

@[simp] theorem written_append (front rest : List Token) :
    written (front ++ rest) = written front ++ written rest := List.flatMap_append

/-- How tightly an expression holds together. -/
inductive Precedence where
  | primary
  | conjunction
  | disjunction

/-- The value of tokens as an expression of some precedence. -/
inductive Means : Precedence → List Token → Bool → Prop where
  | atom (a : Atom) : Means .primary [.atom a] a.holds
  | group {tokens : List Token} {v : Bool} (inner : Means .disjunction tokens v) :
      Means .primary (.opening :: (tokens ++ [.closing])) v
  | factor {tokens : List Token} {v : Bool} (h : Means .primary tokens v) :
      Means .conjunction tokens v
  | and {left right : List Token} {v u : Bool} (hl : Means .conjunction left v)
      (hr : Means .conjunction right u) : Means .conjunction (left ++ .and :: right) (v && u)
  | term {tokens : List Token} {v : Bool} (h : Means .conjunction tokens v) :
      Means .disjunction tokens v
  | or {left right : List Token} {v u : Bool} (hl : Means .disjunction left v)
      (hr : Means .disjunction right u) : Means .disjunction (left ++ .or :: right) (v || u)

/-- A text has a value by its atoms: it is written by tokens with these atoms in their order,
and as a whole expression they mean the value. -/
def ReadsAs (style : Placeholder) (prior : Nat) (atoms : List Atom) (text : Text) (v : Bool) :
    Prop :=
  ∃ tokens, tokens.filterMap Token.atom? = atoms ∧ (written tokens).sql style prior = text ∧
    Means .disjunction tokens v

/-! ## Tokens have one value -/

/-- What has been read of a group: whether some conjunction behind is true, and whether all
factors so far of the one at hand are. -/
structure Group where
  any : Bool
  all : Bool

/-- The value of a group that ends. -/
def Group.value (g : Group) : Bool := g.any || g.all

/-- The value of tokens read from left to right, in an open group and the groups around it. -/
def evaluate : List Token → Group → List Group → Bool
  | [], g, _ => g.value
  | .atom a :: rest, g, outer => evaluate rest ⟨g.any, g.all && a.holds⟩ outer
  | .and :: rest, g, outer => evaluate rest g outer
  | .or :: rest, g, outer => evaluate rest ⟨g.value, true⟩ outer
  | .opening :: rest, g, outer => evaluate rest ⟨false, true⟩ (g :: outer)
  | .closing :: rest, g, around :: outer =>
    evaluate rest ⟨around.any, around.all && g.value⟩ outer
  -- A closing parenthesis that nothing has opened stands in no expression.
  | .closing :: _, g, [] => g.value

/-- What reading an expression does to the open group. A factor or a conjunction of factors
counts in the conjunction at hand. A disjunction begins with a new conjunction, and may end
within another. -/
def Precedence.Counts (tokens : List Token) (v : Bool) : Precedence → Prop
  | .disjunction => ∀ any, ∃ g : Group, g.value = (any || v) ∧
      ∀ rest outer, evaluate (tokens ++ rest) ⟨any, true⟩ outer = evaluate rest g outer
  | _ => ∀ g rest outer,
      evaluate (tokens ++ rest) g outer = evaluate rest ⟨g.any, g.all && v⟩ outer

theorem Means.counts {p : Precedence} {tokens : List Token} {v : Bool}
    (h : Means p tokens v) : p.Counts tokens v := by
  induction h with
  | atom a =>
    intro g rest outer
    rfl
  | @group tokens v _ ih =>
    -- The group begins with nothing read, and its value is one more factor of the group around.
    intro g rest outer
    obtain ⟨inner, value, reads⟩ := ih false
    have step : evaluate (tokens ++ .closing :: rest) ⟨false, true⟩ (g :: outer) =
        evaluate rest ⟨g.any, g.all && inner.value⟩ outer := reads _ _
    rw [value, Bool.false_or] at step
    simpa [evaluate] using step
  | factor _ ih => exact ih
  | @and left right v u _ _ ihl ihr =>
    intro g rest outer
    rw [List.append_assoc, ihl, List.cons_append, evaluate, ihr, Bool.and_assoc]
  | @term tokens v _ ih =>
    intro any
    refine ⟨⟨any, v⟩, rfl, fun rest outer => ?_⟩
    rw [ih, Bool.true_and]
  | @or left right v u _ _ ihl ihr =>
    -- What the left side leaves open ends at the `OR`, and its value is kept for the right.
    intro any
    obtain ⟨g, value, reads⟩ := ihl any
    obtain ⟨g', value', reads'⟩ := ihr (any || v)
    refine ⟨g', by rw [value', Bool.or_assoc], fun rest outer => ?_⟩
    rw [List.append_assoc, reads, List.cons_append, evaluate, value, reads']

/-- An expression has one value, however it is read. -/
theorem Means.value_unique {tokens : List Token} {v u : Bool}
    (hv : Means .disjunction tokens v) (hu : Means .disjunction tokens u) : v = u := by
  have value {w : Bool} (h : Means .disjunction tokens w) :
      evaluate tokens ⟨false, true⟩ [] = w := by
    obtain ⟨g, value, reads⟩ := h.counts false
    have all := reads [] []
    rw [List.append_nil] at all
    rw [all, ← Bool.false_or w, ← value]
    rfl
  rw [← value hv, ← value hu]

/-! ## Texts have one list of tokens -/

/-- The characters of connectives and parentheses. -/
def jointChars : List Char := [' ', '(', ')', 'A', 'N', 'D', 'O', 'R']

/-- A fragment has a character that no connective and no parenthesis has. -/
def Fragment.IsMarked (f : Fragment) : Prop := ∃ c, Cell.char c ∈ f ∧ c ∉ jointChars

/-- The characters of a connective or a parenthesis in order. -/
def Token.joint : Token → Text
  | .atom _ => []
  | .and => [' ', 'A', 'N', 'D', ' ']
  | .or => [' ', 'O', 'R', ' ']
  | .opening => ['(']
  | .closing => [')']

theorem Fragment.mem_sql {c : Char} {f : Fragment} (h : Cell.char c ∈ f) (style : Placeholder)
    (prior : Nat) : c ∈ f.sql style prior := by
  induction f generalizing prior with
  | nil => cases h
  | cons cell rest ih =>
    cases cell with
    | char d =>
      rcases List.mem_cons.1 h with same | later
      · cases same
        exact List.mem_cons_self
      · exact List.mem_cons_of_mem _ (ih later prior)
    | slot v =>
      rcases List.mem_cons.1 h with same | later
      · cases same
      · exact List.mem_append_right _ (ih later (prior + 1))

/-- What connects the terms of a condition is written with blanks, parentheses and the letters of
the two words. -/
theorem Token.joint_subset (t : Token) : ∀ c ∈ t.joint, c ∈ jointChars := by
  cases t <;> simp [joint, jointChars]

theorem written_of_no_atoms {tokens : List Token} (h : ∀ t ∈ tokens, t.atom? = none) :
    written tokens = plain (tokens.flatMap Token.joint) := by
  induction tokens with
  | nil => rfl
  | cons t rest ih =>
    have first : t.written = plain t.joint := by
      cases t with
      | atom a => cases h _ List.mem_cons_self
      | and | or | opening | closing => simp [Token.joint]
    have later := ih fun t ht => h t (List.mem_cons_of_mem _ ht)
    rw [written_cons, first, later, List.flatMap_cons, plain, plain, plain, List.map_append]

/-- No connective or parenthesis begins another, so that they can be told apart behind one
another. -/
theorem eq_of_joint_eq {tokens others : List Token} (h : ∀ t ∈ tokens, t.atom? = none)
    (h' : ∀ t ∈ others, t.atom? = none)
    (same : tokens.flatMap Token.joint = others.flatMap Token.joint) : tokens = others := by
  induction tokens generalizing others with
  | nil =>
    cases others with
    | nil => rfl
    | cons u more =>
      cases u with
      | atom a => cases h' _ List.mem_cons_self
      | _ => simp [Token.joint] at same
  | cons t rest ih =>
    cases others with
    | nil =>
      cases t with
      | atom a => cases h _ List.mem_cons_self
      | _ => simp [Token.joint] at same
    | cons u more =>
      have later := ih (fun t ht => h t (List.mem_cons_of_mem _ ht))
        (fun u hu => h' u (List.mem_cons_of_mem _ hu))
      -- Two different joints differ in their first characters, or in the second ones.
      cases t <;> cases u
      case atom.atom a b | atom.and a | atom.or a | atom.opening a | atom.closing a =>
        cases h _ List.mem_cons_self
      case and.atom a | or.atom a | opening.atom a | closing.atom a =>
        cases h' _ List.mem_cons_self
      all_goals simp [Token.joint] at same
      all_goals rw [later same]

/-- Before a text with a character that is in no joint, the joints end where that text
begins. -/
theorem joint_append_inj {left right text rest rest' : Text}
    (hl : ∀ c ∈ left, c ∈ jointChars) (hr : ∀ c ∈ right, c ∈ jointChars)
    (marked : ∃ c ∈ text, c ∉ jointChars)
    (same : left ++ (text ++ rest) = right ++ (text ++ rest')) :
    left = right ∧ rest = rest' := by
  -- The characters before the first one that is in no joint are the joints and the beginning
  -- of the text, whatever stands behind it.
  have read (front later : Text) (joints : ∀ c ∈ front, c ∈ jointChars) :
      (front ++ (text ++ later)).takeWhile (· ∈ jointChars) =
        front ++ text.takeWhile (· ∈ jointChars) := by
    rw [List.takeWhile_append_of_pos (by simpa using joints), List.takeWhile_append,
      if_neg]
    intro whole
    obtain ⟨c, hc, other⟩ := marked
    rw [← (List.takeWhile_prefix _).eq_of_length whole] at hc
    exact other (by simpa using List.all_eq_true.1 List.all_takeWhile c hc)
  have fronts := congrArg (List.takeWhile (· ∈ jointChars)) same
  rw [read left rest hl, read right rest' hr] at fronts
  have joints := List.append_cancel_right fronts
  rw [joints] at same
  exact ⟨joints, List.append_cancel_left (List.append_cancel_left same)⟩

/-- Tokens are joints, their first atom and what is behind it. -/
theorem split_first_atom {tokens : List Token} {a : Atom} {atoms : List Atom}
    (h : tokens.filterMap Token.atom? = a :: atoms) (style : Placeholder) (prior : Nat) :
    ∃ front rest, tokens = front ++ .atom a :: rest ∧ (∀ t ∈ front, t.atom? = none) ∧
      rest.filterMap Token.atom? = atoms ∧
      (written tokens).sql style prior = front.flatMap Token.joint ++
        (a.sql.sql style prior ++ (written rest).sql style (prior + a.sql.values.length)) := by
  obtain ⟨front, t, rest, rfl, none_, is, later⟩ := List.filterMap_eq_cons_iff.1 h
  cases t with
  | atom b =>
    cases is
    refine ⟨front, rest, rfl, none_, later, ?_⟩
    rw [written_append, written_cons, Token.written_atom, written_of_no_atoms none_,
      Fragment.sql_append, Fragment.sql_append, Fragment.sql_plain, Fragment.values_plain]
    rfl
  | _ => cases is

/-- Tokens with the same marked atoms are the same if they are written as the same text. -/
theorem eq_of_sql_written_eq {style : Placeholder} {atoms : List Atom}
    (marked : ∀ a ∈ atoms, a.sql.IsMarked) {tokens others : List Token} {prior : Nat}
    (h : tokens.filterMap Token.atom? = atoms) (h' : others.filterMap Token.atom? = atoms)
    (same : (written tokens).sql style prior = (written others).sql style prior) :
    tokens = others := by
  induction atoms generalizing tokens others prior with
  | nil =>
    have none_ := List.filterMap_eq_nil_iff.1 h
    have none_' := List.filterMap_eq_nil_iff.1 h'
    rw [written_of_no_atoms none_, written_of_no_atoms none_', Fragment.sql_plain,
      Fragment.sql_plain] at same
    exact eq_of_joint_eq none_ none_' same
  | cons a atoms ih =>
    obtain ⟨front, rest, rfl, none_, later, text⟩ := split_first_atom h style prior
    obtain ⟨front', rest', rfl, none_', later', text'⟩ := split_first_atom h' style prior
    rw [text, text'] at same
    have joints {front : List Token} : ∀ c ∈ front.flatMap Token.joint, c ∈ jointChars := by
      intro c hc
      obtain ⟨t, -, ht⟩ := List.mem_flatMap.1 hc
      exact t.joint_subset c ht
    -- The atom is marked, so both texts have it in the same place.
    obtain ⟨c, hc, other⟩ := marked a List.mem_cons_self
    obtain ⟨fronts, rests⟩ := joint_append_inj joints joints
      ⟨c, Fragment.mem_sql hc style prior, other⟩ same
    rw [eq_of_joint_eq none_ none_' fronts,
      ih (fun b hb => marked b (List.mem_cons_of_mem _ hb)) later later' rests]

/-- What tokens with marked atoms are written as is read as what they mean, and as nothing
else. -/
theorem readsAs_written_iff {tokens : List Token} {v : Bool} (h : Means .disjunction tokens v)
    (marked : ∀ a ∈ tokens.filterMap Token.atom?, a.sql.IsMarked) (style : Placeholder)
    (prior : Nat) (u : Bool) :
    ReadsAs style prior (tokens.filterMap Token.atom?) ((written tokens).sql style prior) u ↔
      u = v := by
  constructor
  · rintro ⟨others, atoms, text, means⟩
    rw [eq_of_sql_written_eq marked atoms rfl text] at means
    exact means.value_unique h
  · rintro rfl
    exact ⟨tokens, rfl, rfl, h⟩

/-! ## Comparisons are marked -/

theorem Fragment.IsMarked.append_right {f : Fragment} (h : f.IsMarked) (g : Fragment) :
    Fragment.IsMarked (f ++ g) :=
  h.imp fun _ hc => ⟨List.mem_append_left _ hc.1, hc.2⟩

theorem Fragment.IsMarked.append_left {f : Fragment} (h : f.IsMarked) (g : Fragment) :
    Fragment.IsMarked (g ++ f) :=
  h.imp fun _ hc => ⟨List.mem_append_right _ hc.1, hc.2⟩

theorem Fragment.isMarked_plain {text : Text} (h : ∃ c ∈ text, c ∉ jointChars) :
    (plain text).IsMarked := by
  obtain ⟨c, hc, other⟩ := h
  exact ⟨c, List.mem_map_of_mem hc, other⟩

/-- No symbol of an operator could be taken for a connective. -/
theorem Operator.symbol_isMarked (op : Operator) : ∃ c ∈ op.symbol, c ∉ jointChars := by
  have some_ : (op.symbol.any fun c => c ∉ jointChars) = true := by cases op <;> decide
  simpa using some_

theorem Operator.infixed_isMarked (op : Operator) (left right : Fragment) :
    (op.infixed left right).IsMarked := by
  obtain ⟨c, hc, other⟩ := op.symbol_isMarked
  have symbol : (plain (" " ++ op.symbol ++ " ")).IsMarked :=
    Fragment.isMarked_plain ⟨c, by simp [hc], other⟩
  exact (symbol.append_left left).append_right right

theorem Operator.suffixed_isMarked (op : Operator) (lex : Lexicon) (left : Fragment) :
    (op.suffixed lex left).IsMarked := by
  obtain ⟨c, hc, other⟩ := op.symbol_isMarked
  unfold Operator.suffixed
  split
  · exact Operator.infixed_isMarked _ _ _
  · exact Operator.infixed_isMarked _ _ _
  · exact (Fragment.isMarked_plain ⟨c, by simp [hc], other⟩).append_left left

theorem Operator.onEmptyList_isMarked (op : Operator) : op.onEmptyList.IsMarked := by
  have one : '1' ∉ jointChars := by decide
  unfold Operator.onEmptyList
  split
  · exact Fragment.isMarked_plain ⟨'1', by decide, one⟩
  · exact Fragment.isMarked_plain ⟨'1', by decide, one⟩

/-- Every comparison has a character of its own: one of its symbol, or the `1` of the term
for an empty list. -/
theorem Comparison.yields_isMarked (scope : Scope) (c : Comparison) :
    Yields (c.render scope) Fragment.IsMarked := by
  rcases c with ⟨conjunction, source, op, destination⟩
  cases hf : op.form destination with
  | error fault =>
    rw [Comparison.render_of_error hf]
    exact yields_error fault
  | ok form =>
    cases Operator.formOf hf with
    | constant _ =>
      rw [Comparison.render_of_constant hf]
      exact yields_ok op.onEmptyList_isMarked
    | suffixed _ =>
      rw [Comparison.render_of_suffixed hf]
      apply yields_bind
      intro left _
      exact yields_ok (op.suffixed_isMarked _ left)
    | exists_ _ =>
      rw [Comparison.render_of_exists hf]
      apply yields_bind
      intro parts _
      refine yields_ok (Fragment.IsMarked.append_right ?_ _)
      exact Fragment.isMarked_plain ⟨'E', by decide, by decide⟩
    | infix_ _ _ _ two =>
      rw [Comparison.render_of_infix hf two]
      apply yields_bind
      intro left _
      apply yields_bind
      intro parts _
      exact yields_ok (op.infixed_isMarked left (form.right parts))

/-- Every rendered comparison has a character that no connective has. -/
theorem RendersTo.isMarked {scope : Scope} {cs : List Comparison} {ts : List Fragment}
    (h : RendersTo scope cs ts) : ∀ t ∈ ts, t.IsMarked := by
  induction h with
  | nil => simp
  | @cons c t _ _ first _ ih =>
    intro u hu
    rcases List.mem_cons.1 hu with rfl | later
    · exact c.yields_isMarked scope u first
    · exact ih u later

/-! ## The tokens of a filter -/

/-- The connective before a comparison, if it has one. -/
def Comparison.connective (c : Comparison) : List Token :=
  match c.conjunction with
  | none => []
  | some .and => [.and]
  | some .or => [.or]

/-- The tokens of linked comparisons. -/
def tokensOf (cs : List Comparison) (atoms : List Atom) : List Token :=
  (List.zipWith (fun c a => c.connective ++ [.atom a]) cs atoms).flatten

theorem tokensOf_cons (c : Comparison) (a : Atom) (cs : List Comparison) (atoms : List Atom) :
    tokensOf (c :: cs) (a :: atoms) = c.connective ++ .atom a :: tokensOf cs atoms := by
  simp [tokensOf]

/-- The tokens of a condition are written as the condition is. -/
theorem written_tokensOf (cs : List Comparison) (atoms : List Atom) :
    written (tokensOf cs atoms) = linked cs (atoms.map Atom.sql) := by
  induction cs generalizing atoms with
  | nil => rfl
  | cons c cs ih =>
    cases atoms with
    | nil => rfl
    | cons a atoms =>
      have link : written c.connective = c.link := by
        rcases c with ⟨- | - | -, source, op, destination⟩ <;> rfl
      rw [tokensOf_cons, written_append, written_cons, Token.written_atom, link, ih,
        List.map_cons, linked_cons, List.append_assoc]

/-- The terms of a condition stand in its tokens in order. -/
theorem atoms_tokensOf {cs : List Comparison} {atoms : List Atom}
    (same : cs.length = atoms.length) : (tokensOf cs atoms).filterMap Token.atom? = atoms := by
  induction cs generalizing atoms with
  | nil =>
    cases atoms with
    | nil => rfl
    | cons a atoms => cases same
  | cons c cs ih =>
    cases atoms with
    | nil => cases same
    | cons a atoms =>
      have none_ : c.connective.filterMap Token.atom? = [] := by
        rcases c with ⟨- | - | -, source, op, destination⟩ <;> rfl
      have first : (Token.atom a).atom? = some a := rfl
      rw [tokensOf_cons, List.filterMap_append, none_, List.nil_append,
        List.filterMap_cons_some first, ih (Nat.succ.inj same)]

/-- Comparisons behind a conjunction make a disjunction of it, and a longer conjunction if
none of them has an `OR`. -/
theorem means_behind {cs : List Comparison} (links : ∀ c ∈ cs, c.conjunction.isSome)
    (atoms : List Atom) {front : List Token} {v : Bool} (h : Means .conjunction front v) :
    ∃ u, Means .disjunction (front ++ tokensOf cs atoms) u ∧
      ((∀ c ∈ cs, c.conjunction ≠ some .or) →
        Means .conjunction (front ++ tokensOf cs atoms) u) := by
  induction cs generalizing atoms front v with
  | nil =>
    rw [tokensOf, List.zipWith_nil_left, List.flatten_nil, List.append_nil]
    exact ⟨v, h.term, fun _ => h⟩
  | cons c cs ih =>
    have later := ih fun d hd => links d (List.mem_cons_of_mem _ hd)
    cases atoms with
    | nil =>
      rw [tokensOf, List.zipWith_nil_right, List.flatten_nil, List.append_nil]
      exact ⟨v, h.term, fun _ => h⟩
    | cons a atoms =>
      have atom : Means .conjunction [.atom a] a.holds := (Means.atom a).factor
      rw [tokensOf_cons, Comparison.connective]
      cases hc : c.conjunction with
      | none => simpa [hc] using links c List.mem_cons_self
      | some conjunction =>
        cases conjunction with
        | and =>
          -- The conjunction at hand grows by the atom.
          obtain ⟨u, whole, plain_⟩ := later atoms (h.and atom)
          have tokens : front ++ ([.and] ++ .atom a :: tokensOf cs atoms) =
              front ++ .and :: [.atom a] ++ tokensOf cs atoms := by simp
          rw [tokens]
          exact ⟨u, whole, fun none_ => plain_ fun d hd => none_ d (List.mem_cons_of_mem _ hd)⟩
        | or =>
          -- The conjunction at hand ends, and the atom begins the next one.
          obtain ⟨u, whole, -⟩ := later atoms atom
          have both := h.term.or whole
          exact ⟨v || u, both, fun none_ => absurd hc (none_ c List.mem_cons_self)⟩

/-- Linked comparisons make a disjunction, and a conjunction if none of them has an `OR`. -/
theorem means_tokensOf {cs : List Comparison} (links : LinksTerms cs) (nonempty : cs ≠ [])
    {atoms : List Atom} (same : cs.length = atoms.length) :
    ∃ v, Means .disjunction (tokensOf cs atoms) v ∧
      ((∀ c ∈ cs, c.conjunction ≠ some .or) → Means .conjunction (tokensOf cs atoms) v) := by
  cases cs with
  | nil => exact absurd rfl nonempty
  | cons c cs =>
    cases atoms with
    | nil => cases same
    | cons a atoms =>
      have first : c.connective = [] := by rw [Comparison.connective, links.1]
      rw [tokensOf_cons, first]
      obtain ⟨v, whole, plain_⟩ := means_behind links.2 atoms (Means.atom a).factor
      exact ⟨v, whole, fun none_ => plain_ fun d hd => none_ d (List.mem_cons_of_mem _ hd)⟩

/-! ## Filters -/

/-- A condition that has been put together by calls. -/
def Condition.IsBuilt (w : Condition) : Prop := ∃ opening calls, w = Condition.built opening calls

/-- What a filter counts as by itself: true if it has no comparisons, and otherwise the only
value that its SQL is read as. -/
inductive Condition.CountsAs (scope : Scope) (w : Condition) (atoms : List Atom) : Bool → Prop
    where
  | nothing (empty : w.comparisons = []) : CountsAs scope w atoms true
  | read {sql : Fragment} {v : Bool} (nonempty : w.comparisons ≠ [])
      (renders : w.render scope = .ok sql)
      (only : ∀ style prior u, ReadsAs style prior atoms (sql.sql style prior) u ↔ u = v) :
      CountsAs scope w atoms v

/-- A filter that can be rendered is written by tokens, which are a conjunction unless it has
an `OR`. -/
theorem Condition.IsBuilt.reads {scope : Scope} {w : Condition} (built : w.IsBuilt)
    {sql : Fragment} (renders : w.render scope = .ok sql) {atoms : List Atom}
    (terms : RendersTo scope w.comparisons (atoms.map Atom.sql)) (nonempty : w.comparisons ≠ []) :
    ∃ tokens v, tokens.filterMap Token.atom? = atoms ∧ written tokens = sql ∧
      Means .disjunction tokens v ∧ (w.hasOr = false → Means .conjunction tokens v) ∧
      w.CountsAs scope atoms v := by
  have clean : w.objection? = none := by
    cases h : w.objection? with
    | none => rfl
    | some fault =>
      rw [render_of_objection? h] at renders
      cases renders
  have links : LinksTerms w.comparisons := by
    obtain ⟨opening, calls, rfl⟩ := built
    exact linksTerms_built clean
  have same : w.comparisons.length = atoms.length := by
    rw [terms.length_eq, List.length_map]
  have text : written (tokensOf w.comparisons atoms) = sql := by
    have linked_ := (render_eq_ok_iff clean links).2 ⟨_, terms, rfl⟩
    rw [written_tokensOf]
    exact Except.ok.inj (linked_.symm.trans renders)
  obtain ⟨v, whole, plain_⟩ := means_tokensOf links nonempty same
  have marked : ∀ a ∈ atoms, a.sql.IsMarked := fun a ha =>
    terms.isMarked _ (List.mem_map_of_mem ha)
  refine ⟨tokensOf w.comparisons atoms, v, atoms_tokensOf same, text, whole, ?_, ?_⟩
  · intro noOr
    refine plain_ fun c hc isOr => ?_
    have some_ : w.hasOr = true := List.any_eq_true.2 ⟨c, hc, by simp [isOr]⟩
    rw [noOr] at some_
    cases some_
  · refine .read nonempty renders ?_
    rw [← text]
    intro style prior u
    have only := readsAs_written_iff whole (by rwa [atoms_tokensOf same]) style prior u
    rwa [atoms_tokensOf same] at only

/-- Where a filter may share its clause, it is written as a conjunction. -/
theorem Condition.enclosed_means {w : Condition} {tokens : List Token} {v : Bool}
    (whole : Means .disjunction tokens v)
    (plain_ : w.hasOr = false → Means .conjunction tokens v) :
    ∃ factor, factor.filterMap Token.atom? = tokens.filterMap Token.atom? ∧
      written factor = w.enclosed true (written tokens) ∧ Means .conjunction factor v := by
  cases hasOr : w.hasOr with
  | false =>
    refine ⟨tokens, rfl, ?_, plain_ hasOr⟩
    rw [Condition.enclosed, hasOr]
    rfl
  | true =>
    refine ⟨.opening :: (tokens ++ [.closing]), ?_, ?_, (Means.group whole).factor⟩
    · show (tokens ++ [Token.closing]).filterMap Token.atom? = _
      rw [List.filterMap_append]
      exact List.append_nil _
    · simp [Condition.enclosed, hasOr, Fragment.parenthesized]

section Filters

variable {scope : Scope} {several : Bool} {filters : List Condition} {judged : List (List Atom)}
  {kept : List Fragment}

/-- The atoms of each filter are its comparisons, held true or false. -/
def Judges (scope : Scope) (filters : List Condition) (judged : List (List Atom)) : Prop :=
  List.Forall₂ (fun w atoms => RendersTo scope w.comparisons (atoms.map Atom.sql)) filters judged

/-- What each filter counts as by itself. -/
def Count (scope : Scope) (filters : List Condition) (judged : List (List Atom))
    (values : List Bool) : Prop :=
  List.Forall₂ (fun f v => f.1.CountsAs scope f.2 v) (filters.zip judged) values

/-- The first filter is kept unless it has no comparison. -/
theorem renderFilters_cons_eq_ok {w : Condition}
    (h : renderFilters scope several (w :: filters) = .ok kept) :
    ∃ sql later, w.render scope = .ok sql ∧ renderFilters scope several filters = .ok later ∧
      kept = if w.comparisons = [] then later else w.enclosed several sql :: later := by
  rw [renderFilters] at h
  obtain ⟨sql, hw, h⟩ := bind_eq_ok_iff.1 h
  obtain ⟨later, hr, h⟩ := bind_eq_ok_iff.1 h
  cases h
  have empty := w.yields_isEmpty scope sql hw
  refine ⟨sql, later, hw, hr, ?_⟩
  rw [empty]
  exact if_congr List.isEmpty_iff rfl rfl

/-- Filters that can be rendered one by one can be rendered together. -/
theorem renderFilters_of_renders (several : Bool)
    (renders : ∀ w ∈ filters, ∃ sql, w.render scope = .ok sql) :
    ∃ kept, renderFilters scope several filters = .ok kept := by
  induction filters with
  | nil => exact ⟨[], rfl⟩
  | cons w rest ih =>
    obtain ⟨sql, hw⟩ := renders w List.mem_cons_self
    obtain ⟨later, hr⟩ := ih fun u hu => renders u (List.mem_cons_of_mem _ hu)
    rw [renderFilters, hw, hr]
    exact ⟨_, rfl⟩

/-- No filter is kept exactly when none has a comparison. -/
theorem kept_eq_nil_iff (h : renderFilters scope several filters = .ok kept) :
    kept = [] ↔ ∀ w ∈ filters, w.comparisons = [] := by
  induction filters generalizing kept with
  | nil =>
    cases h
    simp
  | cons w rest ih =>
    obtain ⟨sql, later, -, hr, rfl⟩ := renderFilters_cons_eq_ok h
    by_cases empty : w.comparisons = []
    · simp [empty, ih hr]
    · simp [empty]

theorem atoms_eq_nil {cs : List Comparison} {atoms : List Atom}
    (terms : RendersTo scope cs (atoms.map Atom.sql)) (empty : cs = []) : atoms = [] := by
  subst empty
  cases atoms with
  | nil => rfl
  | cons a atoms => cases terms

/-- What is kept of some filters means a value: nothing is left and the value is true, or what is
left is an expression of some precedence. -/
inductive KeptMeans (p : Precedence) (atoms : List Atom) : List Fragment → Bool → Prop where
  | nothing (none_ : atoms = []) : KeptMeans p atoms [] true
  | expression {tokens : List Token} {kept : List Fragment} {v : Bool} (nonempty : kept ≠ [])
      (same : tokens.filterMap Token.atom? = atoms)
      (text : written tokens = Fragment.joined " AND " kept) (means : Means p tokens v) :
      KeptMeans p atoms kept v

theorem KeptMeans.term {atoms : List Atom} {v : Bool} (h : KeptMeans .conjunction atoms kept v) :
    KeptMeans .disjunction atoms kept v := by
  cases h with
  | nothing none_ => exact .nothing none_
  | expression nonempty same text means => exact .expression nonempty same text means.term

/-- One more factor in front. -/
theorem KeptMeans.cons {factor : List Token} {sql : Fragment} {atoms : List Atom} {v u : Bool}
    (text : written factor = sql) (means : Means .conjunction factor v)
    (h : KeptMeans .conjunction atoms kept u) :
    KeptMeans .conjunction (factor.filterMap Token.atom? ++ atoms) (sql :: kept) (v && u) := by
  cases h with
  | nothing none_ =>
    rw [none_, List.append_nil, Bool.and_true]
    refine .expression (List.cons_ne_nil _ _) rfl ?_ means
    simpa [Fragment.joined] using text
  | @expression tokens _ _ nonempty same rest meansRest =>
    refine .expression (List.cons_ne_nil _ _) ?_ ?_ (means.and meansRest)
    · rw [List.filterMap_append, ← same]
      rfl
    · obtain ⟨next, more, rfl⟩ := List.exists_cons_of_ne_nil nonempty
      rw [Fragment.joined_cons_cons, ← rest, ← text, written_append, written_cons,
        Token.written_and, List.append_assoc]

/-- Filters that may share their clause make one conjunction. -/
theorem filters_mean (built : ∀ w ∈ filters, w.IsBuilt) (judges : Judges scope filters judged)
    (h : renderFilters scope true filters = .ok kept) :
    ∃ values, Count scope filters judged values ∧
      KeptMeans .conjunction judged.flatten kept values.and := by
  induction judges generalizing kept with
  | nil =>
    cases h
    exact ⟨[], .nil, .nothing rfl⟩
  | @cons w atoms rest judged terms _ ih =>
    obtain ⟨sql, later, hw, hr, rfl⟩ := renderFilters_cons_eq_ok h
    obtain ⟨values, counts, means⟩ := ih (fun u hu => built u (List.mem_cons_of_mem _ hu)) hr
    by_cases empty : w.comparisons = []
    · -- A filter without comparisons leaves no trace but its value.
      have none_ := atoms_eq_nil terms empty
      refine ⟨true :: values, .cons (.nothing empty) counts, ?_⟩
      simpa [empty, none_] using means
    · obtain ⟨own, v, ownAtoms, ownText, whole, plain_, count⟩ :=
        (built w List.mem_cons_self).reads hw terms empty
      obtain ⟨factor, factorAtoms, factorText, factorMeans⟩ :=
        Condition.enclosed_means whole plain_
      rw [ownText] at factorText
      refine ⟨v :: values, .cons count counts, ?_⟩
      rw [if_neg empty, List.flatten_cons, List.and_cons, ← ownAtoms, ← factorAtoms]
      exact .cons factorText factorMeans means

/-- A filter alone is a disjunction. -/
theorem filter_means {w : Condition} (built : w.IsBuilt) {atoms : List Atom}
    (terms : RendersTo scope w.comparisons (atoms.map Atom.sql))
    (h : renderFilters scope false [w] = .ok kept) :
    ∃ v, w.CountsAs scope atoms v ∧ KeptMeans .disjunction atoms kept v := by
  obtain ⟨sql, later, hw, hr, rfl⟩ := renderFilters_cons_eq_ok h
  cases hr
  by_cases empty : w.comparisons = []
  · rw [if_pos empty]
    exact ⟨true, .nothing empty, .nothing (atoms_eq_nil terms empty)⟩
  · obtain ⟨tokens, v, same, text, whole, -, count⟩ := built.reads hw terms empty
    rw [if_neg empty]
    refine ⟨v, count, .expression (List.cons_ne_nil _ _) same ?_ whole⟩
    simpa [Fragment.joined, Condition.enclosed] using text

/-- Filters mean the conjunction of their values, whether they share their clause or not. -/
theorem clause_means (built : ∀ w ∈ filters, w.IsBuilt) (judges : Judges scope filters judged)
    (h : renderFilters scope (1 < filters.length) filters = .ok kept) :
    ∃ values, Count scope filters judged values ∧
      KeptMeans .disjunction judged.flatten kept values.and := by
  cases judges with
  | nil =>
    cases h
    exact ⟨[], .nil, .nothing rfl⟩
  | @cons w atoms rest judged terms more =>
    -- One filter stands as it is; as soon as there are two, each has to be a factor.
    cases more with
    | nil =>
      obtain ⟨v, count, means⟩ := filter_means (built w List.mem_cons_self) terms h
      exact ⟨[v], .cons count .nil, by simpa using means⟩
    | cons terms' more =>
      rw [decide_eq_true (by simp)] at h
      obtain ⟨values, counts, means⟩ := filters_mean built (.cons terms (.cons terms' more)) h
      exact ⟨values, counts, means.term⟩

end Filters

theorem clauseOf_of_ne_nil (keyword separator : Text) {parts : List Fragment} (h : parts ≠ []) :
    clauseOf keyword separator parts = [plain keyword, Fragment.joined separator parts] := by
  simp [clauseOf, h]

theorem clauseOf_eq_nil_iff (keyword separator : Text) (parts : List Fragment) :
    clauseOf keyword separator parts = [] ↔ parts = [] := by
  by_cases h : parts = []
  · simp [clauseOf, h]
  · simp [clauseOf_of_ne_nil keyword separator h, h]

theorem Judges.isMarked {scope : Scope} {filters : List Condition} {judged : List (List Atom)}
    (h : Judges scope filters judged) : ∀ a ∈ judged.flatten, a.sql.IsMarked := by
  induction h with
  | nil => simp
  | cons terms _ ih =>
    intro a ha
    rcases List.mem_append.1 ha with first | later
    · exact terms.isMarked _ (List.mem_map_of_mem first)
    · exact ih a later

/-- Filters that can be rendered one by one can be rendered together. There is no clause
exactly when none of them has a comparison. However their comparisons are held true or false,
each filter counts as some value by itself, and the clause is read as the conjunction of these
values and as nothing else. Without a clause the conjunction is true. -/
theorem renderFilters_readsAs (scope : Scope) (filters : List Condition)
    (built : ∀ w ∈ filters, w.IsBuilt)
    (renders : ∀ w ∈ filters, ∃ sql, w.render scope = .ok sql) :
    ∃ kept, renderFilters scope (1 < filters.length) filters = .ok kept ∧
      (clauseOf "WHERE" " AND " kept = [] ↔ ∀ w ∈ filters, w.comparisons = []) ∧
      ∀ judged, Judges scope filters judged → ∃ values, Count scope filters judged values ∧
        (clauseOf "WHERE" " AND " kept = [] ∧ values.and = true ∨
          ∃ sql, clauseOf "WHERE" " AND " kept = [plain "WHERE", sql] ∧
            ∀ style prior v, ReadsAs style prior judged.flatten (sql.sql style prior) v ↔
              v = values.and) := by
  obtain ⟨kept, h⟩ := renderFilters_of_renders (1 < filters.length) renders
  have clause := clauseOf_eq_nil_iff "WHERE" " AND " kept
  refine ⟨kept, h, clause.trans (kept_eq_nil_iff h), fun judged judges => ?_⟩
  obtain ⟨values, counts, means⟩ := clause_means built judges h
  refine ⟨values, counts, ?_⟩
  generalize values.and = value at means ⊢
  -- Either no filter has left a trace, or the text of the clause has one reading, which is the
  -- value of the conjunction.
  cases means with
  | nothing none_ => exact .inl ⟨rfl, rfl⟩
  | @expression tokens _ _ nonempty same text means =>
    refine .inr ⟨Fragment.joined " AND " kept, clauseOf_of_ne_nil _ _ nonempty, ?_⟩
    intro style prior v
    have only := readsAs_written_iff means (by rw [same]; exact judges.isMarked) style prior v
    rwa [same, text] at only

/-- Three filters: an `OR`, one without comparisons, and a single comparison. -/
def eitherAndAbsent : List Condition :=
  [(((Condition.ofColumn "a").equals (.value (.int 1))).or "b").equals (.value (.int 2)),
    Condition.empty, (Condition.ofColumn "c").isNull]

/-- The atoms of the three filters: the first alone is true. -/
def onlyFirst : List (List Atom) :=
  [[⟨plain "a = " ++ [Cell.slot (.int 1)], true⟩, ⟨plain "b = " ++ [Cell.slot (.int 2)], false⟩],
    [], [⟨plain "c IS NULL", false⟩]]

/-- The filter with the `OR` is enclosed: with the first comparison true and the others false,
the clause is false and not true. -/
theorem eitherAndAbsent_readsAs :
    ∃ kept sql,
      renderFilters (.ofStatement Dialect.generic.toLexicon .empty) true eitherAndAbsent =
        .ok kept ∧
      clauseOf "WHERE" " AND " kept = [plain "WHERE", sql] ∧
      sql.sql .question 0 = "(a = ? OR b = ?) AND c IS NULL" ∧
      ReadsAs .question 0 onlyFirst.flatten (sql.sql .question 0) false ∧
      ¬ReadsAs .question 0 onlyFirst.flatten (sql.sql .question 0) true := by
  have built : ∀ w ∈ eitherAndAbsent, w.IsBuilt := by
    intro w hw
    simp only [eitherAndAbsent, List.mem_cons, List.not_mem_nil, or_false] at hw
    rcases hw with rfl | rfl | rfl
    · exact ⟨.column "a", [.equals (.value (.int 1)), .or "b", .equals (.value (.int 2))], rfl⟩
    · exact ⟨.empty, [], rfl⟩
    · exact ⟨.column "c", [.isNull], rfl⟩
  let scope := Scope.ofStatement Dialect.generic.toLexicon .empty
  have renders : ∀ w ∈ eitherAndAbsent, ∃ sql, w.render scope = .ok sql := by
    intro w hw
    simp only [eitherAndAbsent, List.mem_cons, List.not_mem_nil, or_false] at hw
    rcases hw with rfl | rfl | rfl <;> exact ⟨_, rfl⟩
  have judges : Judges scope eitherAndAbsent onlyFirst :=
    .cons (.cons rfl (.cons rfl .nil)) (.cons .nil (.cons (.cons rfl .nil) .nil))
  obtain ⟨kept, h, -, clause⟩ := renderFilters_readsAs scope eitherAndAbsent built renders
  have kept_ : kept = [plain "(a = " ++ [.slot (.int 1)] ++ plain " OR b = " ++ [.slot (.int 2)] ++
      plain ")", plain "c IS NULL"] := Except.ok.inj (h.symm.trans rfl)
  obtain ⟨values, counts, none_ | ⟨sql, parts, only⟩⟩ := clause onlyFirst judges
  · rw [kept_] at none_
    cases none_.1
  have text : sql.sql .question 0 = "(a = ? OR b = ?) AND c IS NULL" := by
    rw [kept_, clauseOf_of_ne_nil _ _ (List.cons_ne_nil _ _)] at parts
    rw [← (List.cons.inj (List.cons.inj parts).2).1]
    decide +kernel
  -- The last filter counts as false, and with it the whole.
  cases counts with | cons _ counts =>
  cases counts with | cons _ counts =>
  cases counts with | @cons _ w _ _ absent counts =>
  cases counts
  have false_ : w = false := by
    cases absent with
    | nothing empty => cases empty
    | read _ renders only =>
      cases renders
      refine ((only .question 0 false).1 ⟨[.atom ⟨plain "c IS NULL", false⟩], rfl, rfl, ?_⟩).symm
      exact (Means.atom _).factor.term
  have reads := only .question 0
  rw [false_] at reads
  simp only [List.and_cons, Bool.false_and, Bool.and_false] at reads
  refine ⟨kept, sql, h, parts, text, (reads false).2 rfl, fun isTrue => ?_⟩
  cases (reads true).1 isTrue

end BoundSql
