import BoundSql.Condition.Chain
import Mathlib.Data.List.Nodup

/-!
# Operators by name

A comparison can be made by the method of its operator or by the name of the operator. A name
spells an operator if the two are the same without their underscores and with the name in lower
case (`Operator.IsSpelledBy`), and no name spells two operators, since the names of the operators
differ without their underscores as well (`Operator.bareName_injective`).

Names are looked up in lower case character by character. That differs from the lower case of a
text only where a capital sigma ends a word, and no operator has a sigma in its name of either
shape (`Text.lower_eq_iff`). So the operator that is found is the one that is spelled, and none is
found for any other name (`Operator.ofName?_eq_some_iff`). A comparison by name is then the one that
the method makes (`Condition.compare_of_name`).
-/

set_option autoImplicit false

namespace BoundSql

/-! ## Lower case of texts and of characters -/

namespace Text

variable {text lowered : Text}

/-- Without a capital sigma every letter is lowered by itself. -/
theorem lowerAfter_of_notMem (none_ : 'Σ' ∉ text) (before : Text) :
    lowerAfter before text = text.flatMap lowerChar := by
  induction text generalizing before with
  | nil => rfl
  | cons c rest ih =>
    have other : c ≠ 'Σ' := fun first => none_ (first ▸ List.mem_cons_self)
    have later : 'Σ' ∉ rest := fun tail => none_ (List.mem_cons_of_mem c tail)
    rw [lowerAfter, if_neg other, ih later, List.flatMap_cons]

theorem lowerChar_sigma : lowerChar 'Σ' = ['σ'] := by decide

/-- A capital sigma leaves a small one behind, of one shape or the other. -/
theorem sigma_mem_lowerAfter (capital : 'Σ' ∈ text) (before : Text) :
    'σ' ∈ lowerAfter before text ∨ 'ς' ∈ lowerAfter before text := by
  induction text generalizing before with
  | nil => cases capital
  | cons c rest ih =>
    rw [lowerAfter]
    by_cases first : c = 'Σ'
    · rw [if_pos first]
      split <;> simp
    · have later : 'Σ' ∈ rest := (List.mem_cons.1 capital).resolve_left (Ne.symm first)
      exact (ih later (c :: before)).imp (List.mem_append_right _) (List.mem_append_right _)

/-- A capital sigma that is lowered by itself leaves a small one. -/
theorem sigma_mem_flatMap (capital : 'Σ' ∈ text) : 'σ' ∈ text.flatMap lowerChar := by
  refine List.mem_flatMap.2 ⟨'Σ', capital, ?_⟩
  rw [lowerChar_sigma]
  exact List.mem_singleton_self 'σ'

/-- Where no sigma is asked for, a text may be put into lower case character by character. -/
theorem lower_eq_iff (small : 'σ' ∉ lowered) (final : 'ς' ∉ lowered) :
    lower text = lowered ↔ text.flatMap lowerChar = lowered := by
  by_cases capital : 'Σ' ∈ text
  · -- A capital sigma shows in both lower cases, so that neither is the one asked for.
    constructor
    · rintro rfl
      exact ((sigma_mem_lowerAfter capital []).elim small final).elim
    · rintro rfl
      exact absurd (sigma_mem_flatMap capital) small
  · rw [lower, lowerAfter_of_notMem capital]

end Text

/-! ## The operator that a name spells -/

namespace Operator

variable {op op' : Operator} {name : Text}

/-- A name without its underscores. -/
def bare (name : Text) : Text := name.filter (· != '_')

/-- Whether a name spells an operator: in lower case it is the name of the operator, underscores
in either of them aside. -/
def IsSpelledBy (op : Operator) (name : Text) : Prop := Text.lower (bare name) = bare op.name

instance (op : Operator) (name : Text) : Decidable (op.IsSpelledBy name) :=
  inferInstanceAs (Decidable (Text.lower (bare name) = bare op.name))

/-- The letters of the names, underscores aside. -/
def letters : Text := "abeghiklmnopqstuwxy"

/-- Small letters of the names stay as they are. -/
theorem lowerChar_of_letter {c : Char} (letter : c ∈ letters) : Text.lowerChar c = [c] := by
  have small : (letters.all fun c => Text.lowerChar c == [c]) = true := by decide
  exact eq_of_beq (List.all_eq_true.1 small c letter)

/-- The names of operators have no other letters. -/
theorem mem_letters_of_mem_bareName {c : Char} (member : c ∈ bare op.name) : c ∈ letters := by
  have letters_ : (bare op.name).all letters.contains = true := by cases op <;> decide
  exact List.contains_iff_mem.1 (List.all_eq_true.1 letters_ c member)

/-- The names of the operators are in lower case already. -/
theorem folded_name (op : Operator) : folded op.name = bare op.name := by
  calc (bare op.name).flatMap Text.lowerChar
      = (bare op.name).flatMap fun c => [c] := List.flatMap_congr fun c member =>
        lowerChar_of_letter (mem_letters_of_mem_bareName member)
    _ = bare op.name := List.flatMap_singleton' (bare op.name)

/-- Two operators never have one name, not even without underscores. -/
theorem bareName_injective (same : bare op.name = bare op'.name) : op = op' := by
  have distinct : (all.map fun op => bare op.name).Nodup := by decide
  exact List.inj_on_of_nodup_map distinct op.mem_all op'.mem_all same

/-- A name spells an operator exactly when both fold to the same letters. -/
theorem isSpelledBy_iff_folded : op.IsSpelledBy name ↔ folded op.name = folded name := by
  have small : 'σ' ∉ bare op.name := fun member =>
    absurd (mem_letters_of_mem_bareName member) (by decide)
  have final : 'ς' ∉ bare op.name := fun member =>
    absurd (mem_letters_of_mem_bareName member) (by decide)
  rw [IsSpelledBy, Text.lower_eq_iff small final, folded_name, eq_comm]
  rfl

/-- No name spells two operators. -/
theorem IsSpelledBy.eq (spelled : op.IsSpelledBy name) (spelled' : op'.IsSpelledBy name) :
    op = op' := by
  apply bareName_injective
  exact Eq.trans (Eq.symm spelled) spelled'

/-- The operator that is found is spelled by the name. -/
theorem isSpelledBy_of_ofName? (found : ofName? name = some op) : op.IsSpelledBy name := by
  unfold ofName? at found
  have row := List.find?_some found
  exact isSpelledBy_iff_folded.2 (eq_of_beq row)

/-- A name finds the operator that it spells, and no other. -/
theorem ofName?_eq_some_iff : ofName? name = some op ↔ op.IsSpelledBy name := by
  constructor
  · exact isSpelledBy_of_ofName?
  · intro spelled
    cases found : ofName? name with
    | none =>
      have differs := List.find?_eq_none.1 found op op.mem_all
      rw [isSpelledBy_iff_folded.1 spelled, beq_self_eq_true] at differs
      exact absurd rfl differs
    | some first =>
      -- The first row that fits is the only one.
      rw [(isSpelledBy_of_ofName? found).eq spelled]

/-- A name that spells no operator finds none. -/
theorem ofName?_eq_none (unknown : ∀ op : Operator, ¬op.IsSpelledBy name) :
    ofName? name = none := by
  cases found : ofName? name with
  | none => rfl
  | some op => exact absurd (ofName?_eq_some_iff.1 found) (unknown op)

end Operator

/-! ## Comparisons by name -/

namespace Condition

/-- The condition after the method of an operator, given what the method takes of a destination:
nothing for an operator without one, the two bounds of a list for `BETWEEN`, and the query for
`EXISTS`. No method of these two takes any other destination. -/
def method? (w : Condition) (destination : Operand) : Operator → Option Condition
  | .equals => some (w.equals destination)
  | .notEquals => some (w.notEquals destination)
  | .greater => some (w.greater destination)
  | .greaterEqual => some (w.greaterEqual destination)
  | .less => some (w.less destination)
  | .lessEqual => some (w.lessEqual destination)
  | .isIn => some (w.isIn destination)
  | .notIn => some (w.notIn destination)
  | .isNull => some w.isNull
  | .isNotNull => some w.isNotNull
  | .isEmpty => some w.isEmpty
  | .isNotEmpty => some w.isNotEmpty
  | .between =>
    match destination with
    | .list [low, high] => some (w.between low high)
    | _ => none
  | .like => some (w.like destination)
  | .ilike => some (w.ilike destination)
  | .exists_ =>
    match destination with
    | .query q => some (w.holds q)
    | _ => none

variable {w after : Condition} {name : Text} {destination : Operand} {op : Operator}

/-- A comparison by name is the comparison by the operator that is spelled. -/
theorem compare_of_spelled (spelled : op.IsSpelledBy name) :
    w.compare name destination =
      w.close op (if op.arity = .unary then none else some destination) := by
  rw [compare, Operator.ofName?_eq_some_iff.2 spelled]

/-- A method closes the open term as a comparison by name does. -/
theorem close_of_method? (method : w.method? destination op = some after) :
    w.close op (if op.arity = .unary then none else some destination) = after := by
  cases op with
  | between | exists_ =>
    simp only [method?] at method
    split at method
    · cases method
      rfl
    · cases method
  | _ => exact Option.some.inj method

/-- Only operators with a destination have a method that may not take it. -/
theorem arity_of_method?_eq_none (none_ : w.method? destination op = none) :
    op.arity ≠ .unary := by
  cases op with
  | between | exists_ => decide
  | _ => cases none_

/-- A comparison by a name that spells an operator is the comparison by the method of that
operator, with every mistake that the method records, in whatever state the condition is. Where the
method takes no such destination, the term is closed with it as it is. A name that spells no
operator is a mistake, unless there is one already. It adds no comparison and drops the open
term. -/
theorem compare_of_name (w : Condition) (name : Text) (destination : Operand) :
    (∀ op : Operator, op.IsSpelledBy name →
      (∀ after, w.method? destination op = some after → w.compare name destination = after) ∧
      (w.method? destination op = none →
        w.compare name destination = w.close op (some destination))) ∧
    ((∀ op : Operator, ¬op.IsSpelledBy name) →
      w.compare name destination =
        { comparisons := w.comparisons
          pending := none
          fault := w.fault <|> some (.unsupportedOperator name) }) := by
  constructor
  · intro op spelled
    -- The name and the method close the same term, apart from a destination that the method does
    -- not take.
    have closed : w.compare name destination =
        w.close op (if op.arity = .unary then none else some destination) :=
      compare_of_spelled spelled
    constructor
    · intro after method
      exact closed.trans (close_of_method? method)
    · intro none_
      rw [closed, if_neg (arity_of_method?_eq_none none_)]
  · intro unknown
    rw [compare, Operator.ofName?_eq_none unknown]
    rfl

/-- `EXISTS` by its name makes the mistake that its method makes behind a column, and the sign of
the kelvin is a letter of `LIKE`. No operator is spelled `matches`. -/
theorem compare_of_name_kelvin :
    let w := Condition.ofColumn "id"
    let q := Operand.query (.text "SELECT 1")
    w.compare "Exists" q = w.holds (.text "SELECT 1") ∧
      (w.compare "Exists" q).fault = some (.missingOperand .existsWithSource) ∧
      w.compare "LI\u212AE" q = w.like q ∧
      w.compare "matches" q = ⟨[], none, some (.unsupportedOperator "matches")⟩ := by
  intro w q
  have exists_ := ((compare_of_name w "Exists" q).1 .exists_ (by decide)).1 _ rfl
  have like_ := ((compare_of_name w "LI\u212AE" q).1 .like (by decide)).1 _ rfl
  have unknown : ∀ op : Operator, ¬op.IsSpelledBy "matches" := by
    intro op
    cases op <;> decide
  have refused := (compare_of_name w "matches" q).2 unknown
  exact ⟨exists_, congrArg Condition.fault exists_, like_, refused⟩

end Condition

end BoundSql
