import BoundSql.Text.Basic

/-!
# UTF-8

The bytes of a text and the numbers of bytes that end between two characters. A text is cut to a
limit by going back from the limit to the next such number, so that a cut never divides a character.
-/

set_option autoImplicit false

namespace BoundSql.Text

variable {text rest front : Text} {c : Char} {n : Nat}

/-- The UTF-8 bytes of a text. -/
def utf8 (text : Text) : List UInt8 := text.flatMap String.utf8EncodeChar

theorem utf8_cons : utf8 (c :: rest) = String.utf8EncodeChar c ++ rest.utf8 := List.flatMap_cons

/-- The number of UTF-8 bytes of a text. -/
def byteSize : Text → Nat
  | [] => 0
  | c :: rest => c.utf8Size + byteSize rest

@[simp] theorem length_utf8 (text : Text) : text.utf8.length = text.byteSize := by
  induction text with
  | nil => rfl
  | cons c rest ih =>
    rw [utf8_cons, List.length_append, String.length_utf8EncodeChar, ih, byteSize]

theorem byteSize_append (a b : Text) : byteSize (a ++ b) = byteSize a + byteSize b := by
  induction a with
  | nil => exact (Nat.zero_add _).symm
  | cons c rest ih => rw [List.cons_append, byteSize, ih, byteSize, Nat.add_assoc]

theorem byteSize_eq_zero_iff : byteSize text = 0 ↔ text = [] := by
  cases text with
  | nil => simp [byteSize]
  | cons c rest =>
    have positive : 0 < c.utf8Size := Char.utf8Size_pos c
    simp only [byteSize, Nat.add_eq_zero_iff, Nat.ne_of_gt positive, false_and, List.cons_ne_nil]

/-- The first `n` bytes of a text, unless it has fewer or they end within a character. -/
def firstBytes? : Nat → Text → Option Text
  | 0, _ => some []
  | _ + 1, [] => none
  | n + 1, c :: rest =>
    if c.utf8Size ≤ n + 1 then (firstBytes? (n + 1 - c.utf8Size) rest).map (c :: ·) else none

theorem firstBytes?_eq_some_iff :
    firstBytes? n text = some front ↔ front <+: text ∧ front.utf8.length = n := by
  rw [length_utf8]
  fun_induction firstBytes? n text generalizing front with
  | case1 text =>
    rw [byteSize_eq_zero_iff, Option.some.injEq, eq_comm (a := ([] : Text))]
    constructor
    · rintro rfl
      exact ⟨List.nil_prefix, rfl⟩
    · exact fun h => h.2
  | case2 n =>
    rw [List.prefix_nil]
    constructor
    · intro none_
      cases none_
    · rintro ⟨rfl, size⟩
      cases size
  | case3 n c rest fits ih =>
    simp only [Option.map_eq_some_iff, ih, List.prefix_cons_iff]
    constructor
    · rintro ⟨later, ⟨begins, size⟩, rfl⟩
      exact ⟨.inr ⟨later, rfl, begins⟩, by rw [byteSize, size]; omega⟩
    · rintro ⟨rfl | ⟨later, rfl, begins⟩, size⟩
      · cases size
      · rw [byteSize] at size
        exact ⟨later, ⟨begins, by omega⟩, rfl⟩
  | case4 n c rest large =>
    rw [List.prefix_cons_iff]
    constructor
    · intro none_
      cases none_
    · rintro ⟨rfl | ⟨later, rfl, -⟩, size⟩
      · cases size
      · rw [byteSize] at size
        omega

/-- The bytes of a text begin with those of its first character. -/
theorem getElem?_utf8_cons (inside : n < (String.utf8EncodeChar c).length) :
    (utf8 (c :: rest))[n]? = some (String.utf8EncodeChar c)[n] := by
  rw [utf8_cons, List.getElem?_append_left inside, List.getElem?_eq_getElem inside]

/-! ## Boundaries -/

/-- Whether the first `n` bytes of a text end between two characters: before the first byte of a
character, or at an end of the text. -/
def isBoundary (text : Text) (n : Nat) : Bool :=
  n == 0 ||
    match text.utf8[n]? with
    | some b => decide b.IsUTF8FirstByte
    | none => n == text.byteSize

@[simp] theorem isBoundary_zero (text : Text) : text.isBoundary 0 = true := rfl

/-- Of the bytes of a character only the first one begins it. -/
theorem isBoundary_within (positive : 0 < n) (within : n < c.utf8Size) :
    isBoundary (c :: rest) n = false := by
  have inside : n < (String.utf8EncodeChar c).length := by rwa [String.length_utf8EncodeChar]
  rw [isBoundary, getElem?_utf8_cons inside]
  simp [Nat.ne_of_gt positive]

/-- The first byte of a text begins a character. -/
theorem isUTF8FirstByte_of_utf8_zero {b : UInt8} (first : text.utf8[0]? = some b) :
    b.IsUTF8FirstByte := by
  cases text with
  | nil => cases first
  | cons c rest =>
    have inside : 0 < (String.utf8EncodeChar c).length := by
      rw [String.length_utf8EncodeChar]
      exact c.utf8Size_pos
    rw [getElem?_utf8_cons inside, Option.some.injEq] at first
    rw [← first]
    exact UInt8.isUTF8FirstByte_getElem_zero_utf8EncodeChar

/-- The boundaries behind a character are those of the rest. -/
theorem isBoundary_behind : isBoundary (c :: rest) (c.utf8Size + n) = isBoundary rest n := by
  have byte : (utf8 (c :: rest))[c.utf8Size + n]? = rest.utf8[n]? := by
    rw [utf8_cons, List.getElem?_append_right (by simp)]
    simp
  have positive : 0 < c.utf8Size := c.utf8Size_pos
  have apart : (c.utf8Size + n == 0) = false := beq_false_of_ne (by omega)
  have atEnd : (c.utf8Size + n == byteSize (c :: rest)) = (n == rest.byteSize) := by
    rw [byteSize, Bool.eq_iff_iff, beq_iff_eq, beq_iff_eq, Nat.add_left_cancel_iff]
  rw [isBoundary, byte, apart, atEnd, Bool.false_or, isBoundary]
  cases n with
  | succ n => rfl
  | zero =>
    -- Behind the character stands the first byte of the next one, or nothing.
    cases first : rest.utf8[0]? with
    | some b => exact decide_eq_true (isUTF8FirstByte_of_utf8_zero first)
    | none =>
      have size : rest.byteSize = 0 := by
        rwa [List.getElem?_eq_none_iff, length_utf8, Nat.le_zero] at first
      exact beq_iff_eq.2 size.symm

/-- A number of bytes is a boundary if and only if some beginning of the text has as many. -/
theorem isBoundary_iff :
    text.isBoundary n = true ↔ ∃ front : Text, front <+: text ∧ front.byteSize = n := by
  induction text generalizing n with
  | nil =>
    have only : isBoundary [] n = true ↔ n = 0 := by simp [isBoundary, utf8, byteSize]
    simp [only, byteSize, eq_comm]
  | cons c rest ih =>
    constructor
    · intro boundary
      rcases Nat.eq_zero_or_pos n with rfl | positive
      · exact ⟨[], List.nil_prefix, rfl⟩
      rcases Nat.lt_or_ge n c.utf8Size with within | behind
      · rw [isBoundary_within positive within] at boundary
        cases boundary
      · obtain ⟨m, rfl⟩ := Nat.exists_eq_add_of_le behind
        rw [isBoundary_behind] at boundary
        obtain ⟨front, begins, rfl⟩ := ih.1 boundary
        exact ⟨c :: front, List.cons_prefix_cons.2 ⟨rfl, begins⟩, rfl⟩
    · rintro ⟨front, begins, rfl⟩
      rcases List.prefix_cons_iff.1 begins with rfl | ⟨later, rfl, ofRest⟩
      · rfl
      · rw [byteSize, isBoundary_behind]
        exact ih.2 ⟨later, ofRest, rfl⟩

/-- As many bytes as end between two characters can be split off. -/
theorem isSome_firstBytes? : (text.firstBytes? n).isSome = text.isBoundary n := by
  rw [Bool.eq_iff_iff, isBoundary_iff, Option.isSome_iff_exists]
  exact exists_congr fun front => by rw [firstBytes?_eq_some_iff, length_utf8]

/-- The text up to a boundary. -/
def upTo (text : Text) (n : Nat) (boundary : text.isBoundary n = true) : Text :=
  (text.firstBytes? n).get (isSome_firstBytes?.trans boundary)

/-! ## Cuts -/

/-- A number of bytes, taken back one by one until it is a boundary. -/
def backOff (text : Text) : Nat → Nat
  | 0 => 0
  | n + 1 => if text.isBoundary (n + 1) then n + 1 else text.backOff n

theorem isBoundary_backOff (text : Text) (n : Nat) : text.isBoundary (text.backOff n) = true := by
  fun_induction backOff text n with
  | case1 => exact isBoundary_zero text
  | case2 n boundary => exact boundary
  | case3 n within ih => exact ih

/-- The text itself when it has at most `limit` bytes, else what is before the last boundary within
the limit. -/
def takeBytes (limit : Nat) (text : Text) : Text :=
  if text.byteSize ≤ limit then text
  else text.upTo (text.backOff limit) (text.isBoundary_backOff limit)

/-- The text itself when it has at most `limit` bytes, else as much of it as fits and three dots. -/
def shortened (limit : Nat) (text : Text) : Text :=
  if text.byteSize ≤ limit then text else takeBytes limit text ++ "..."

end BoundSql.Text
