import BoundSql.Draft.Event

/-!
# Shortened texts

SQL is logged up to a number of bytes, which may end within a character. The cut goes back from
there to a boundary, and what it leaves is the longest beginning of the text that fits
(`Text.IsLongestWithin`). Every character has at most four bytes, so that three turns are enough
(`Text.backsOff_of_lt`), and where the text is cut there is always something that can be split off:
the text up to a boundary (`Text.upTo`) is asked for at boundaries only. Three dots tell that
something is missing (`loggedSql_at_last_boundary`).
-/

set_option autoImplicit false

namespace BoundSql

namespace Text

variable {text : Text} {limit m n : Nat}

/-! ## The last boundary -/

/-- The cut goes back from the limit and never forward. -/
theorem backOff_le (text : Text) (n : Nat) : text.backOff n ≤ n := by
  fun_induction backOff text n with
  | case1 => exact Nat.le_refl 0
  | case2 n boundary => exact Nat.le_refl (n + 1)
  | case3 n within ih => exact Nat.le_succ_of_le ih

/-- No boundary is passed over on the way back. -/
theorem le_backOff (boundary : text.isBoundary m = true) (before : m ≤ n) : m ≤ text.backOff n := by
  fun_induction backOff text n with
  | case1 => exact before
  | case2 n here => exact before
  | case3 n within ih =>
    have apart : m ≠ n + 1 := by
      rintro rfl
      exact within boundary
    exact ih (by omega)

/-- A character that is cut has at most three bytes before the cut. -/
theorem exists_boundary_near (exceeds : n < text.byteSize) :
    ∃ m ≤ n, text.isBoundary m = true ∧ n ≤ m + 3 := by
  induction text generalizing n with
  | nil => exact absurd exceeds (Nat.not_lt_zero n)
  | cons c rest ih =>
    rw [byteSize] at exceeds
    -- The bytes end within the first character, before which there is a boundary, or behind it.
    rcases Nat.lt_or_ge n c.utf8Size with within | behind
    · have small : c.utf8Size ≤ 4 := c.utf8Size_le_four
      exact ⟨0, Nat.zero_le n, isBoundary_zero _, by omega⟩
    · obtain ⟨k, rfl⟩ := Nat.exists_eq_add_of_le behind
      obtain ⟨m, before, boundary, near⟩ := ih (n := k) (by omega)
      exact ⟨c.utf8Size + m, by omega, isBoundary_behind.trans boundary, by omega⟩

/-- A character has four bytes at most, so three steps back lead to a boundary. -/
theorem le_backOff_add_three (exceeds : n < text.byteSize) : n ≤ text.backOff n + 3 := by
  obtain ⟨m, before, boundary, near⟩ := exists_boundary_near exceeds
  have reached : m ≤ text.backOff n := le_backOff boundary before
  omega

/-! ## Turns -/

/-- How a back-off runs from a number of bytes to the one where it stops. It stops at a boundary,
and each turn before takes back one byte. -/
inductive BacksOff (text : Text) : (turns start stop : Nat) → Prop where
  | stops {n : Nat} (done : n = 0 ∨ text.isBoundary n = true) : BacksOff text 0 n n
  | turn {k n stop : Nat} (within : text.isBoundary (n + 1) = false)
      (later : BacksOff text k n stop) : BacksOff text (k + 1) (n + 1) stop

/-- The loop takes as many turns as there are bytes between the limit and the cut. -/
theorem backsOff_backOff (text : Text) (n : Nat) :
    text.BacksOff (n - text.backOff n) n (text.backOff n) := by
  fun_induction backOff text n with
  | case1 => exact .stops (.inl rfl)
  | case2 n boundary =>
    rw [Nat.sub_self]
    exact .stops (.inr boundary)
  | case3 n within ih =>
    rw [Nat.succ_sub (text.backOff_le n)]
    exact .turn (Bool.eq_false_iff.2 within) ih

/-- From within a text a back-off takes three turns at most. -/
theorem backsOff_of_lt (exceeds : n < text.byteSize) :
    ∃ turns ≤ 3, text.BacksOff turns n (text.backOff n) := by
  have near : n ≤ text.backOff n + 3 := le_backOff_add_three exceeds
  exact ⟨n - text.backOff n, by omega, text.backsOff_backOff n⟩

/-! ## Cuts -/

/-- What stands before a boundary is a beginning of the text, with as many bytes as the boundary
says. -/
theorem upTo_prefix_and_size (boundary : text.isBoundary n = true) :
    text.upTo n boundary <+: text ∧ (text.upTo n boundary).byteSize = n := by
  have found : text.firstBytes? n = some (text.upTo n boundary) := (Option.some_get _).symm
  rwa [firstBytes?_eq_some_iff, length_utf8] at found

/-- Of two beginnings of a text, the one with no more bytes begins the other. -/
theorem prefix_of_byteSize_le {a b : Text} (ofText : a <+: text) (ofText' : b <+: text)
    (smaller : a.byteSize ≤ b.byteSize) : a <+: b := by
  rcases List.prefix_or_prefix_of_prefix ofText ofText' with begins | ⟨later, rfl⟩
  · exact begins
  · -- Here `b` begins `a`, which has no byte more and is then `b` itself.
    rw [byteSize_append] at smaller
    obtain rfl : later = [] := byteSize_eq_zero_iff.1 (by omega)
    simp

/-- What a text is cut to ends between two characters and is the longest of its beginnings within a
limit. -/
structure IsLongestWithin (limit : Nat) (text cut : Text) : Prop where
  begins : cut <+: text
  boundary : text.isBoundary cut.byteSize = true
  within : cut.byteSize ≤ limit
  longest : ∀ front : Text, front <+: text → front.byteSize ≤ limit → front <+: cut

/-- A text that fits is its own longest beginning. -/
theorem isLongestWithin_self (fits : text.byteSize ≤ limit) : IsLongestWithin limit text text where
  begins := List.prefix_rfl
  boundary := isBoundary_iff.2 ⟨text, List.prefix_rfl, rfl⟩
  within := fits
  longest := fun _ begins _ => begins

/-- What stands before the cut is the longest beginning that fits. -/
theorem isLongestWithin_upTo_backOff (limit : Nat) (text : Text) :
    IsLongestWithin limit text
      (text.upTo (text.backOff limit) (text.isBoundary_backOff limit)) := by
  obtain ⟨begins, size⟩ := upTo_prefix_and_size (text.isBoundary_backOff limit)
  constructor
  · exact begins
  · rw [size]
    exact text.isBoundary_backOff limit
  · rw [size]
    exact text.backOff_le limit
  · intro front ofText fits
    have boundary : text.isBoundary front.byteSize = true :=
      isBoundary_iff.2 ⟨front, ofText, rfl⟩
    refine prefix_of_byteSize_le ofText begins ?_
    rw [size]
    exact le_backOff boundary fits

/-- Whether a text is cut or not, what is kept is the longest beginning that fits. -/
theorem isLongestWithin_takeBytes (limit : Nat) (text : Text) :
    IsLongestWithin limit text (text.takeBytes limit) := by
  rw [takeBytes]
  split
  · rename_i fits
    exact isLongestWithin_self fits
  · exact isLongestWithin_upTo_backOff limit text

/-- A text is kept whole exactly when it fits. -/
theorem takeBytes_eq_self_iff : text.takeBytes limit = text ↔ text.byteSize ≤ limit := by
  constructor
  · intro same
    have within := (isLongestWithin_takeBytes limit text).within
    rwa [same] at within
  · exact fun fits => if_pos fits

/-- What is kept of a longer text has as many bytes as the boundary says. -/
theorem byteSize_takeBytes (exceeds : limit < text.byteSize) :
    (text.takeBytes limit).byteSize = text.backOff limit := by
  rw [takeBytes, if_neg (Nat.not_le.2 exceeds)]
  exact (upTo_prefix_and_size _).2

/-- Dots are put behind a text exactly when it is cut. -/
theorem shortened_eq_dotted_iff :
    text.shortened limit = text.takeBytes limit ++ "..." ↔ limit < text.byteSize := by
  rw [shortened]
  split
  · rename_i fits
    refine iff_of_false ?_ (Nat.not_lt.2 fits)
    rw [takeBytes_eq_self_iff.2 fits]
    exact fun same => List.cons_ne_nil _ _ (List.self_eq_append_right.1 same)
  · rename_i large
    exact iff_of_true rfl (Nat.not_le.1 large)

/-- And exactly when it fits it is logged without them. -/
theorem shortened_eq_takeBytes_iff :
    text.shortened limit = text.takeBytes limit ↔ text.byteSize ≤ limit := by
  rw [shortened]
  split
  · rename_i fits
    exact iff_of_true (takeBytes_eq_self_iff.2 fits).symm fits
  · rename_i large
    refine iff_of_false ?_ large
    exact fun same => List.cons_ne_nil _ _ (List.self_eq_append_right.1 same.symm)

/-- For any text and any limit, also one that ends within a character: what the text is cut to is
the longest of its beginnings that end between two characters and have no more bytes, and it is the
text itself if and only if the text has no more. The way back to it takes three turns at most. In
the log three dots follow if and only if the text has more bytes than the limit, and never without
a limit. -/
theorem loggedSql_at_last_boundary (limit : Nat) (text : Text) :
    IsLongestWithin limit text (text.takeBytes limit) ∧
    (text.takeBytes limit = text ↔ text.byteSize ≤ limit) ∧
    (limit < text.byteSize →
      ∃ turns ≤ 3, text.BacksOff turns limit (text.takeBytes limit).byteSize) ∧
    (loggedSql (some limit) text = text.takeBytes limit ++ "..." ↔ limit < text.byteSize) ∧
    (loggedSql (some limit) text = text.takeBytes limit ↔ text.byteSize ≤ limit) ∧
    loggedSql none text = text := by
  refine ⟨isLongestWithin_takeBytes limit text, takeBytes_eq_self_iff, ?_,
    shortened_eq_dotted_iff, shortened_eq_takeBytes_iff, rfl⟩
  intro exceeds
  rw [byteSize_takeBytes exceeds]
  exact backsOff_of_lt exceeds

/-- A limit behind the third of the four bytes of a character. -/
theorem loggedSql_at_last_boundary_of_wideLetter :
    let sql : Text := "a€𐍈b"
    7 < sql.byteSize ∧ sql.takeBytes 7 = ("a€" : Text) ∧
    (∃ turns ≤ 3, sql.BacksOff turns 7 4) ∧
    loggedSql (some 7) sql = ("a€..." : Text) := by
  intro sql
  have exceeds : 7 < sql.byteSize := by decide
  have cut : sql.takeBytes 7 = ("a€" : Text) := by decide
  obtain ⟨-, -, turns, dots, -, -⟩ := loggedSql_at_last_boundary 7 sql
  refine ⟨exceeds, cut, ?_, ?_⟩
  · have way := turns exceeds
    rwa [cut] at way
  · rw [dots.2 exceeds, cut]
    decide

end Text

end BoundSql
