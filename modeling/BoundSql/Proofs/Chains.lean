import BoundSql.Proofs.Terms
import Mathlib.Data.List.Forall2
import Mathlib.Data.List.Infix

/-!
# Chains of calls

Which sequences of calls make a condition without a mistake, and what becomes of all the
others. Each call comes down to one or two moves: a move opens a term by a conjunction,
closes the open term by an operator, or names an operator that does not exist. A condition
begins with an open term.

A chain is in order when its moves are none at all, or comparisons with one conjunction
between each two, and when no `EXISTS` closes a term with a source
(`Condition.IsInOrder`). The rule speaks of the moves alone. Whether a move is a mistake
can be seen from the move right before it, so the mistakes of any chain can be listed in
order (`Condition.violations`), and the first of them is what rendering reports.
-/

set_option autoImplicit false

namespace BoundSql

open Fragment (plain)

namespace Condition

/-! ## Calls and moves -/

/-- How a condition begins. -/
inductive Opening where
  | column (name : Text)
  | qualified (name qualifier : Text)
  | value (v : Value)
  | operand (o : Operand)
  | empty

/-- The condition that has just begun. -/
def Opening.condition : Opening → Condition
  | .column name => ofColumn name
  | .qualified name qualifier => ofQualified name qualifier
  | .value v => ofValue v
  | .operand o => ofOperand o
  | .empty => Condition.empty

/-- The operand with which a condition begins. -/
def Opening.source : Opening → Option Operand
  | .column name => some (.column name none)
  | .qualified name qualifier => some (.column name (some qualifier))
  | .value v => some (.value v)
  | .operand o => some o
  | .empty => none

/-- A call that continues a condition. -/
inductive Call where
  | and (name : Text)
  | or (name : Text)
  | andOperand (o : Operand)
  | orOperand (o : Operand)
  | equals (o : Operand)
  | notEquals (o : Operand)
  | greater (o : Operand)
  | greaterEqual (o : Operand)
  | less (o : Operand)
  | lessEqual (o : Operand)
  | isIn (o : Operand)
  | notIn (o : Operand)
  | isNull
  | isNotNull
  | isEmpty
  | isNotEmpty
  | between (low high : Operand)
  | like (o : Operand)
  | ilike (o : Operand)
  | holds (q : Query)
  | andHolds (q : Query)
  | orHolds (q : Query)
  | compare (name : Text) (o : Operand)

/-- The condition after a call. -/
def Call.apply (w : Condition) : Call → Condition
  | .and name => w.and name
  | .or name => w.or name
  | .andOperand o => w.andOperand o
  | .orOperand o => w.orOperand o
  | .equals o => w.equals o
  | .notEquals o => w.notEquals o
  | .greater o => w.greater o
  | .greaterEqual o => w.greaterEqual o
  | .less o => w.less o
  | .lessEqual o => w.lessEqual o
  | .isIn o => w.isIn o
  | .notIn o => w.notIn o
  | .isNull => w.isNull
  | .isNotNull => w.isNotNull
  | .isEmpty => w.isEmpty
  | .isNotEmpty => w.isNotEmpty
  | .between low high => w.between low high
  | .like o => w.like o
  | .ilike o => w.ilike o
  | .holds q => w.holds q
  | .andHolds q => w.andHolds q
  | .orHolds q => w.orHolds q
  | .compare name o => w.compare name o

/-- The condition that begins with an opening and goes on with some calls. -/
def built (opening : Opening) (calls : List Call) : Condition :=
  calls.foldl Call.apply opening.condition

/-- What a call comes down to. -/
inductive Move where
  /-- Opens a term. -/
  | conjoin (c : Conjunction) (source : Option Operand)
  /-- Closes the open term. -/
  | close (op : Operator) (destination : Option Operand)
  /-- Names no operator. -/
  | unknown (name : Text)

/-- The condition after a move. -/
def Move.apply (w : Condition) : Move → Condition
  | .conjoin c source => w.conjoin c source
  | .close op destination => w.close op destination
  | .unknown name => { w.refuse (.unsupportedOperator name) with pending := none }

/-- The moves of a call. -/
def Call.moves : Call → List Move
  | .and name => [.conjoin .and (some (.column name none))]
  | .or name => [.conjoin .or (some (.column name none))]
  | .andOperand o => [.conjoin .and (some o)]
  | .orOperand o => [.conjoin .or (some o)]
  | .equals o => [.close .equals (some o)]
  | .notEquals o => [.close .notEquals (some o)]
  | .greater o => [.close .greater (some o)]
  | .greaterEqual o => [.close .greaterEqual (some o)]
  | .less o => [.close .less (some o)]
  | .lessEqual o => [.close .lessEqual (some o)]
  | .isIn o => [.close .isIn (some o)]
  | .notIn o => [.close .notIn (some o)]
  | .isNull => [.close .isNull none]
  | .isNotNull => [.close .isNotNull none]
  | .isEmpty => [.close .isEmpty none]
  | .isNotEmpty => [.close .isNotEmpty none]
  | .between low high => [.close .between (some (.list [low, high]))]
  | .like o => [.close .like (some o)]
  | .ilike o => [.close .ilike (some o)]
  | .holds q => [.close .exists_ (some (.query q))]
  | .andHolds q => [.conjoin .and none, .close .exists_ (some (.query q))]
  | .orHolds q => [.conjoin .or none, .close .exists_ (some (.query q))]
  | .compare name o =>
    match Operator.ofName? name with
    | some op => [.close op (if op.arity = .unary then none else some o)]
    | none => [.unknown name]

/-- A call does what its moves do one after the other. -/
theorem Call.apply_eq_foldl_moves (w : Condition) (c : Call) :
    c.apply w = c.moves.foldl Move.apply w := by
  cases c with
  | compare name o =>
    simp only [Call.apply, Condition.compare, Call.moves]
    cases Operator.ofName? name <;> rfl
  | _ => rfl

theorem Opening.condition_eq_start (opening : Opening) :
    opening.condition = start opening.source := by
  cases opening <;> rfl

/-- A chain of calls is a chain of moves. -/
theorem built_eq_foldl_moves (opening : Opening) (calls : List Call) :
    built opening calls = (calls.flatMap Call.moves).foldl Move.apply (start opening.source) := by
  rw [built, opening.condition_eq_start, List.foldl_flatMap]
  congr 1
  funext w c
  exact Call.apply_eq_foldl_moves w c

/-! ## The order of moves -/

/-- Comparisons, with one conjunction between each two. -/
inductive Alternates : List Move → Prop where
  | one (op : Operator) (destination : Option Operand) : Alternates [.close op destination]
  | more (op : Operator) (destination : Option Operand) (c : Conjunction)
      (source : Option Operand) {rest : List Move} (later : Alternates rest) :
      Alternates (.close op destination :: .conjoin c source :: rest)

/-- Some `EXISTS` closes a term that has a source: the one that is open at first, or the one
that is opened right before it. -/
def DropsSource (source : Option Operand) (moves : List Move) : Prop :=
  (source.isSome ∧ ∃ destination, moves.head? = some (.close .exists_ destination)) ∨
    ∃ c o destination, [.conjoin c (some o), .close .exists_ destination] <:+: moves

/-- The rule of chains, for moves that find a term open with some source or none. -/
structure IsInOrder (source : Option Operand) (moves : List Move) : Prop where
  alternate : moves = [] ∨ Alternates moves
  known : ∀ name, .unknown name ∉ moves
  keeps : ¬DropsSource source moves

/-- The term that a move leaves open. -/
def Move.opened? : Move → Option PendingOperand
  | .conjoin c source => some ⟨some c, source⟩
  | _ => none

/-- The operator and the destination by which a move closes a term. -/
def Move.closing? : Move → Option (Operator × Option Operand)
  | .close op destination => some (op, destination)
  | _ => none

/-- The mistake that a move makes where the one before it leaves a term open or does not. -/
def Move.mistake? (before : Option PendingOperand) : Move → Option Fault
  | .conjoin c _ =>
    if before.isSome then some (.missingOperand (.unfinishedOperand c)) else none
  | .close op _ =>
    match before with
    | none => some (.missingOperand (.noPendingOperand op))
    | some p =>
      if op = .exists_ ∧ p.source.isSome then some (.missingOperand .existsWithSource) else none
  | .unknown name => some (.unsupportedOperator name)

/-- The mistakes of some moves in order. -/
def mistakes (before : Option PendingOperand) : List Move → List Fault
  | [] => []
  | m :: rest => (m.mistake? before).toList ++ mistakes m.opened? rest

/-- The mistake of ending in a conjunction. -/
def dangling? (moves : List Move) : Option Fault :=
  match moves.getLast? with
  | some (.conjoin c _) => some (.missingOperand (.danglingConjunction c))
  | _ => none

/-- All that is wrong with a chain: its mistakes in order, and a conjunction at its end
behind them. -/
def violations (source : Option Operand) (moves : List Move) : List Fault :=
  mistakes (some ⟨none, source⟩) moves ++ (dangling? moves).toList

/-! ## Chains in order make no mistake -/

section Order

variable {source s : Option Operand} {op : Operator} {destination : Option Operand}
  {c : Conjunction} {rest : List Move}

theorem dropsSource_one_iff :
    DropsSource source [.close op destination] ↔ op = .exists_ ∧ source.isSome := by
  constructor
  · rintro (⟨some_, d, head⟩ | ⟨k, o, d, infix_⟩)
    · cases head
      exact ⟨rfl, some_⟩
    · have short := infix_.length_le
      simp at short
  · rintro ⟨rfl, some_⟩
    exact .inl ⟨some_, destination, rfl⟩

/-- Of two comparisons and more, either the first is an `EXISTS` that leaves its source, or one of
the later ones is. -/
theorem dropsSource_joined_iff :
    DropsSource source (.close op destination :: .conjoin c s :: rest) ↔
      (op = .exists_ ∧ source.isSome) ∨ DropsSource s rest := by
  constructor
  · rintro (⟨some_, d, head⟩ | ⟨k, o, d, infix_⟩)
    · cases head
      exact .inl ⟨rfl, some_⟩
    · -- The pair stands behind the comparison: at the conjunction, or later.
      rcases List.infix_cons_iff.1 infix_ with first | infix_
      · obtain ⟨_, eq⟩ := first
        cases eq
      rcases List.infix_cons_iff.1 infix_ with first | infix_
      · obtain ⟨after, eq⟩ := first
        cases eq
        exact .inr (.inl ⟨rfl, d, rfl⟩)
      · exact .inr (.inr ⟨k, o, d, infix_⟩)
  · rintro (⟨rfl, some_⟩ | ⟨some_, d, head⟩ | ⟨k, o, d, infix_⟩)
    · exact .inl ⟨some_, destination, rfl⟩
    · obtain ⟨o, rfl⟩ := Option.isSome_iff_exists.1 some_
      obtain ⟨after, rfl⟩ := List.head?_eq_some_iff.1 head
      exact .inr ⟨c, o, d, [.close op destination], after, rfl⟩
    · exact .inr ⟨k, o, d, (infix_.trans (List.suffix_cons _ _).isInfix).trans
        (List.suffix_cons _ _).isInfix⟩

theorem isInOrder_nil : IsInOrder source [] := by
  refine ⟨.inl rfl, by simp, ?_⟩
  rintro (⟨-, d, head⟩ | ⟨k, o, d, infix_⟩)
  · cases head
  · have short := infix_.length_le
    simp at short

theorem isInOrder_one_iff :
    IsInOrder source [.close op destination] ↔ ¬(op = .exists_ ∧ source.isSome) := by
  constructor
  · exact fun h => mt dropsSource_one_iff.2 h.keeps
  · exact fun keeps => ⟨.inr (.one op destination), by simp, mt dropsSource_one_iff.1 keeps⟩

/-- A chain of moves is in order when its first comparison is and what comes behind the conjunction
is. -/
theorem isInOrder_joined_iff (nonempty : rest ≠ []) :
    IsInOrder source (.close op destination :: .conjoin c s :: rest) ↔
      ¬(op = .exists_ ∧ source.isSome) ∧ IsInOrder s rest := by
  constructor
  · intro h
    have keeps := mt dropsSource_joined_iff.2 h.keeps
    rw [not_or] at keeps
    refine ⟨keeps.1, ?_, fun name unknown => h.known name ?_, keeps.2⟩
    · rcases h.alternate with none_ | alternate
      · cases none_
      · cases alternate with
        | more _ _ _ _ later => exact .inr later
    · exact List.mem_cons_of_mem _ (List.mem_cons_of_mem _ unknown)
  · rintro ⟨keeps, h⟩
    refine ⟨?_, fun name => ?_, fun drops => ?_⟩
    · exact .inr (.more op destination c s (h.alternate.resolve_left nonempty))
    · simpa using h.known name
    · exact (dropsSource_joined_iff.1 drops).elim keeps h.keeps

theorem dangling?_cons_cons (m n : Move) (rest : List Move) :
    dangling? (m :: n :: rest) = dangling? (n :: rest) := by
  rw [dangling?, dangling?, List.getLast?_cons_cons]

/-- The moves that make no mistake behind an open term are the chains in order. -/
theorem mistakes_eq_nil_iff : ∀ (p : PendingOperand) (moves : List Move),
    mistakes (some p) moves = [] ∧ dangling? moves = none ↔ IsInOrder p.source moves
  -- A comparison and the conjunction behind it are taken off together, so that a term is open
  -- again before what is left.
  | p, [] => by simp [mistakes, dangling?, isInOrder_nil]
  | p, .conjoin c s :: rest => by
    have never : ¬IsInOrder p.source (.conjoin c s :: rest) := by
      intro h
      rcases h.alternate with none_ | alternate
      · cases none_
      · cases alternate
    simp [mistakes, Move.mistake?, never]
  | p, .unknown name :: rest => by
    have never : ¬IsInOrder p.source (.unknown name :: rest) := fun h =>
      h.known name List.mem_cons_self
    simp [mistakes, Move.mistake?, never]
  | p, [.close op d] => by
    rw [isInOrder_one_iff]
    simp [mistakes, Move.mistake?, dangling?]
  | p, .close op d :: .close op' d' :: rest => by
    have never : ¬IsInOrder p.source (.close op d :: .close op' d' :: rest) := by
      intro h
      rcases h.alternate with none_ | alternate
      · cases none_
      · cases alternate
    simp [mistakes, Move.mistake?, Move.opened?, never]
  | p, .close op d :: .unknown name :: rest => by
    have never : ¬IsInOrder p.source (.close op d :: .unknown name :: rest) := fun h =>
      h.known name (List.mem_cons_of_mem _ List.mem_cons_self)
    simp [mistakes, Move.mistake?, Move.opened?, never]
  | p, [.close op d, .conjoin c s] => by
    have never : ¬IsInOrder p.source [.close op d, .conjoin c s] := by
      intro h
      rcases h.alternate with none_ | alternate
      · cases none_
      · cases alternate with
        | more _ _ _ _ later => cases later
    simp [dangling?, never]
  | p, .close op d :: .conjoin c s :: m :: rest => by
    have later := mistakes_eq_nil_iff ⟨some c, s⟩ (m :: rest)
    rw [isInOrder_joined_iff (List.cons_ne_nil m rest), ← later, dangling?_cons_cons,
      dangling?_cons_cons, ← and_assoc]
    refine and_congr_left fun _ => ?_
    rw [mistakes, mistakes]
    simp [Move.mistake?, Move.opened?]

/-- A chain has no violations exactly when it is in order. -/
theorem violations_eq_nil_iff (source : Option Operand) (moves : List Move) :
    violations source moves = [] ↔ IsInOrder source moves := by
  rw [← mistakes_eq_nil_iff ⟨none, source⟩ moves, violations, List.append_eq_nil_iff]
  refine and_congr_right fun _ => ?_
  cases dangling? moves <;> simp

end Order

/-! ## What a chain of moves does -/

/-- A move leaves the term open that it opens, and else none. -/
theorem Move.pending_apply (w : Condition) (m : Move) : (m.apply w).pending = m.opened? := by
  cases m with
  | conjoin c source => rfl
  | unknown name => rfl
  | close op destination =>
    simp only [Move.apply, Condition.close]
    split
    · assumption
    · rfl

/-- The first mistake stays, and a move brings in its own only where there is none. -/
theorem Move.fault_apply (w : Condition) (m : Move) :
    (m.apply w).fault = (w.fault <|> m.mistake? w.pending) := by
  cases m with
  | conjoin c source =>
    simp only [Move.apply, Condition.conjoin, Move.mistake?]
    split <;> simp [refuse]
  | unknown name => rfl
  | close op destination =>
    simp only [Move.apply, Condition.close, Move.mistake?]
    cases w.pending with
    | none => rfl
    | some p =>
      simp only
      split <;> simp [refuse]

/-- The first mistake of a chain is the one that is recorded. -/
theorem fault_foldl (w : Condition) (moves : List Move) :
    (moves.foldl Move.apply w).fault = (w.fault <|> (mistakes w.pending moves).head?) := by
  induction moves generalizing w with
  | nil => simp [mistakes]
  | cons m rest ih =>
    -- The first mistake is already on record, or made by this move, or by a later one.
    rw [List.foldl_cons, ih, Move.fault_apply, Move.pending_apply, mistakes]
    cases w.fault <;> cases m.mistake? w.pending <;> simp

/-- A chain leaves open what its last move opens. -/
theorem pending_foldl (w : Condition) (moves : List Move) :
    (moves.foldl Move.apply w).pending =
      match moves.getLast? with
      | some m => m.opened?
      | none => w.pending := by
  rcases List.eq_nil_or_concat moves with rfl | ⟨front, m, rfl⟩
  · rfl
  · simp [Move.pending_apply]

/-- What speaks against a condition is the mistake on record, or else a conjunction with nothing
behind it. -/
theorem objection?_eq (w : Condition) :
    w.objection? = (w.fault <|> (w.pending.bind PendingOperand.conjunction).map fun c =>
      .missingOperand (.danglingConjunction c)) := by
  rcases w with ⟨comparisons, pending, fault⟩
  cases fault with
  | some fault => rfl
  | none => rcases pending with - | ⟨- | c, source⟩ <;> rfl

/-- Whether a condition has a mistake on record or ends in a conjunction. -/
theorem objection?_eq_none_iff (w : Condition) :
    w.objection? = none ↔ w.fault = none ∧ ∀ c source, w.pending ≠ some ⟨some c, source⟩ := by
  rcases w with ⟨comparisons, pending, fault⟩
  rcases fault with - | fault
  · rcases pending with - | ⟨- | c, source⟩ <;> simp [objection?]
  · simp [objection?]

/-- What a chain is not rendered for is its first violation. -/
theorem objection?_foldl (source : Option Operand) (moves : List Move) :
    (moves.foldl Move.apply (start source)).objection? = (violations source moves).head? := by
  have fault : (moves.foldl Move.apply (start source)).fault =
      (mistakes (some ⟨none, source⟩) moves).head? := by
    rw [fault_foldl]
    rfl
  rw [objection?_eq, fault, pending_foldl, violations, dangling?, List.head?_append]
  generalize (mistakes (some ⟨none, source⟩) moves).head? = first
  cases moves.getLast? with
  | none => cases first <;> rfl
  | some m => cases m <;> cases first <;> rfl

/-- The terms that are opened and closed in turn. -/
def terms (opened : List PendingOperand) (closed : List (Operator × Option Operand)) :
    List Comparison :=
  List.zipWith (fun p closing => ⟨p.conjunction, p.source, closing.1, closing.2⟩) opened closed

theorem comparisons_conjoin (w : Condition) (c : Conjunction) (source : Option Operand) :
    (w.conjoin c source).comparisons = w.comparisons := by
  unfold conjoin
  split <;> rfl

theorem comparisons_close {w : Condition} {p : PendingOperand} (open_ : w.pending = some p)
    (op : Operator) (destination : Option Operand) :
    (w.close op destination).comparisons =
      w.comparisons ++ [⟨p.conjunction, p.source, op, destination⟩] := by
  unfold close
  rw [open_]

/-- Moves that alternate append one comparison for each closing, with the conjunction and
the source of the term opened before it. -/
theorem comparisons_foldl {w : Condition} {p : PendingOperand} {moves : List Move}
    (open_ : w.pending = some p) (h : Alternates moves) :
    (moves.foldl Move.apply w).comparisons = w.comparisons ++
      terms (p :: moves.filterMap Move.opened?) (moves.filterMap Move.closing?) := by
  induction h generalizing w p with
  | one op destination => exact comparisons_close open_ op destination
  | more op destination c source later ih =>
    have step := ih (w := (w.close op destination).conjoin c source) rfl
    rw [comparisons_conjoin, comparisons_close open_, List.append_assoc] at step
    exact step

/-- Moves that alternate close one term more than they open. -/
theorem length_opened {moves : List Move} (h : Alternates moves) :
    (moves.filterMap Move.closing?).length = (moves.filterMap Move.opened?).length + 1 := by
  induction h with
  | one op destination => rfl
  | more op destination c source later ih => exact congrArg (· + 1) ih

/-- A chain in order has one comparison for each closing. -/
theorem comparisons_of_isInOrder {source : Option Operand} {moves : List Move}
    (h : IsInOrder source moves) :
    (moves.foldl Move.apply (start source)).comparisons =
        terms (⟨none, source⟩ :: moves.filterMap Move.opened?) (moves.filterMap Move.closing?) ∧
      (moves.foldl Move.apply (start source)).comparisons.length =
        (moves.filterMap Move.closing?).length := by
  rcases h.alternate with rfl | alternate
  · exact ⟨rfl, rfl⟩
  · have comparisons := comparisons_foldl (w := start source) rfl alternate
    refine ⟨comparisons, ?_⟩
    rw [comparisons, List.length_append, terms, List.length_zipWith, List.length_cons,
      length_opened alternate]
    simp [start]

end Condition

/-! ## Terms and the words between them -/

/-- The conjunction of a comparison with a blank on either side, if it has one. -/
def Comparison.link (c : Comparison) : Fragment :=
  match c.conjunction with
  | some conjunction => plain (" " ++ conjunction.keyword ++ " ")
  | none => []

/-- The first comparison has no conjunction, and each later one has one. -/
def LinksTerms : List Comparison → Prop
  | [] => True
  | first :: rest => first.conjunction = none ∧ ∀ c ∈ rest, c.conjunction.isSome

/-- Some comparisons are rendered one by one. -/
def RendersTo (scope : Scope) (cs : List Comparison) (ts : List Fragment) : Prop :=
  List.Forall₂ (fun c t => c.render scope = .ok t) cs ts

/-- The terms in order, each behind its conjunction. -/
def linked (cs : List Comparison) (ts : List Fragment) : Fragment :=
  (List.zipWith (fun c t => c.link ++ t) cs ts).flatten

theorem Fragment.joined_cons_cons (separator : Text) (f g : Fragment) (rest : List Fragment) :
    Fragment.joined separator (f :: g :: rest) =
      f ++ plain separator ++ Fragment.joined separator (g :: rest) := by
  simp only [Fragment.joined, List.intercalate_cons_cons, List.append_assoc]

theorem linked_cons (c : Comparison) (t : Fragment) (cs : List Comparison)
    (ts : List Fragment) : linked (c :: cs) (t :: ts) = c.link ++ t ++ linked cs ts := rfl

theorem joined_parts_of_isSome {cs : List Comparison} (links : ∀ c ∈ cs, c.conjunction.isSome)
    (first : Fragment) (ts : List Fragment) :
    Fragment.joined " " (first :: (List.zipWith Comparison.parts cs ts).flatten) =
      first ++ linked cs ts := by
  induction cs generalizing first ts with
  | nil => simp [linked, Fragment.joined]
  | cons c rest ih =>
    cases ts with
    | nil => simp [linked, Fragment.joined]
    | cons t ts =>
      obtain ⟨conjunction, hc⟩ := Option.isSome_iff_exists.1 (links c List.mem_cons_self)
      have later := ih (fun d hd => links d (List.mem_cons_of_mem _ hd)) t ts
      have parts : c.parts t = [plain conjunction.keyword, t] := by simp [Comparison.parts, hc]
      have link : c.link = plain " " ++ plain conjunction.keyword ++ plain " " := by
        simp [Comparison.link, hc, plain]
      rw [List.zipWith_cons_cons, List.flatten_cons, parts, List.cons_append, List.cons_append,
        List.nil_append, Fragment.joined_cons_cons, Fragment.joined_cons_cons, later, linked_cons,
        link]
      simp only [List.append_assoc]

/-- Terms with their conjunctions as parts of their own are joined to the terms behind their
links. -/
theorem joined_parts {cs : List Comparison} (links : LinksTerms cs) {ts : List Fragment}
    (same : cs.length = ts.length) :
    Fragment.joined " " (List.zipWith Comparison.parts cs ts).flatten = linked cs ts := by
  cases cs with
  | nil => rfl
  | cons c rest =>
    cases ts with
    | nil => cases same
    | cons t ts =>
      have parts : c.parts t = [t] := by simp [Comparison.parts, links.1]
      have link : c.link = [] := by simp [Comparison.link, links.1]
      rw [List.zipWith_cons_cons, List.flatten_cons, parts, linked_cons, link]
      exact joined_parts_of_isSome links.2 t ts

/-- Comparisons are rendered together when each of them is rendered by itself. -/
theorem renderTerms_eq_ok_iff {scope : Scope} {cs : List Comparison} {parts : List Fragment} :
    renderTerms scope cs = .ok parts ↔
      ∃ ts, RendersTo scope cs ts ∧ parts = (List.zipWith Comparison.parts cs ts).flatten := by
  induction cs generalizing parts with
  | nil =>
    constructor
    · intro h
      cases h
      exact ⟨[], .nil, rfl⟩
    · rintro ⟨ts, renders, rfl⟩
      rfl
  | cons c rest ih =>
    rw [renderTerms, bind_eq_ok_iff]
    constructor
    · rintro ⟨t, hc, h⟩
      obtain ⟨later, hr, h⟩ := bind_eq_ok_iff.1 h
      cases h
      obtain ⟨ts, renders, rfl⟩ := ih.1 hr
      exact ⟨t :: ts, .cons hc renders, rfl⟩
    · rintro ⟨ts, renders, rfl⟩
      cases renders with
      | cons hc renders =>
        exact ⟨_, hc, bind_eq_ok_iff.2 ⟨_, ih.2 ⟨_, renders, rfl⟩, rfl⟩⟩

/-- A condition that something speaks against is nowhere rendered. -/
theorem Condition.render_of_objection? {scope : Scope} {w : Condition} {fault : Fault}
    (h : w.objection? = some fault) : w.render scope = .error fault := by
  rcases w with ⟨comparisons, pending, recorded⟩
  rw [Condition.render, h]

/-- A condition without objection whose comparisons are linked is rendered to its terms in
order, with the conjunctions between them. -/
theorem Condition.render_eq_ok_iff {scope : Scope} {w : Condition} (clean : w.objection? = none)
    (links : LinksTerms w.comparisons) {sql : Fragment} :
    w.render scope = .ok sql ↔
      ∃ ts, RendersTo scope w.comparisons ts ∧ sql = linked w.comparisons ts := by
  rcases w with ⟨comparisons, pending, recorded⟩
  rw [Condition.render, clean]
  refine bind_eq_ok_iff.trans ?_
  constructor
  · rintro ⟨parts, ht, h⟩
    cases h
    obtain ⟨ts, renders, rfl⟩ := renderTerms_eq_ok_iff.1 ht
    exact ⟨ts, renders, joined_parts links renders.length_eq⟩
  · rintro ⟨ts, renders, rfl⟩
    refine ⟨_, renderTerms_eq_ok_iff.2 ⟨ts, renders, rfl⟩, ?_⟩
    exact congrArg Except.ok (joined_parts links renders.length_eq)

/-- Every term but the first is opened by a conjunction. -/
theorem linksTerms_terms {opened : List PendingOperand} (source : Option Operand)
    (later : ∀ p ∈ opened, p.conjunction.isSome)
    (closed : List (Operator × Option Operand)) :
    LinksTerms (Condition.terms (⟨none, source⟩ :: opened) closed) := by
  cases closed with
  | nil => trivial
  | cons closing closed =>
    refine ⟨rfl, fun c hc => ?_⟩
    obtain ⟨i, hi, rfl⟩ := List.getElem_of_mem hc
    simpa using later _ (List.getElem_mem _)

namespace Condition

theorem isSome_of_mem_opened {moves : List Move} {p : PendingOperand}
    (h : p ∈ moves.filterMap Move.opened?) : p.conjunction.isSome := by
  obtain ⟨m, -, opens⟩ := List.mem_filterMap.1 h
  cases m with
  | conjoin c source =>
    cases opens
    rfl
  | close op destination => cases opens
  | unknown name => cases opens

/-- The comparisons of a condition without objection that has been put together by calls
are linked. -/
theorem linksTerms_built {opening : Opening} {calls : List Call}
    (clean : (built opening calls).objection? = none) :
    LinksTerms (built opening calls).comparisons := by
  rw [built_eq_foldl_moves] at clean ⊢
  rw [objection?_foldl, List.head?_eq_none_iff, violations_eq_nil_iff] at clean
  rw [(comparisons_of_isInOrder clean).1]
  exact linksTerms_terms _ (fun p hp => isSome_of_mem_opened hp) _

/-- A condition begun in any way and continued by any calls has no mistake on record and no
conjunction at its end exactly when its moves are in order. If they are, it has one comparison
for each closing, in their order, with the conjunction and the source of the term opened right
before, and what it is rendered to is the terms of its comparisons in that order with their
conjunctions between them. If they are not, it is nowhere rendered, and the fault is the first
of its violations. -/
theorem built_chain (opening : Opening) (calls : List Call) :
    let w := built opening calls
    let moves := calls.flatMap Call.moves
    ((w.fault = none ∧ ∀ c source, w.pending ≠ some ⟨some c, source⟩) ↔
      IsInOrder opening.source moves) ∧
    (IsInOrder opening.source moves →
      w.comparisons = terms (⟨none, opening.source⟩ :: moves.filterMap Move.opened?)
        (moves.filterMap Move.closing?) ∧
      w.comparisons.length = (moves.filterMap Move.closing?).length ∧
      ∀ scope sql, w.render scope = .ok sql ↔
        ∃ ts, RendersTo scope w.comparisons ts ∧ sql = linked w.comparisons ts) ∧
    (¬IsInOrder opening.source moves →
      ∃ fault, (violations opening.source moves).head? = some fault ∧
        ∀ scope, w.render scope = .error fault) := by
  intro w moves
  have objection : w.objection? = (violations opening.source moves).head? := by
    show (built opening calls).objection? = _
    rw [built_eq_foldl_moves]
    exact objection?_foldl opening.source moves
  have clean : w.objection? = none ↔ IsInOrder opening.source moves := by
    rw [objection, List.head?_eq_none_iff]
    exact violations_eq_nil_iff opening.source moves
  refine ⟨?_, ?_, ?_⟩
  · rw [← objection?_eq_none_iff]
    exact clean
  · -- The calls are the moves that they come down to, and the grammar is about these.
    intro inOrder
    have comparisons := comparisons_of_isInOrder inOrder
    rw [← built_eq_foldl_moves] at comparisons
    refine ⟨comparisons.1, comparisons.2, fun scope sql => ?_⟩
    exact render_eq_ok_iff (clean.2 inOrder) (linksTerms_built (clean.2 inOrder))
  · intro notInOrder
    obtain ⟨fault, first⟩ := Option.ne_none_iff_exists'.1 (mt clean.1 notInOrder)
    exact ⟨fault, objection ▸ first, fun scope => render_of_objection? first⟩

end Condition

end BoundSql
