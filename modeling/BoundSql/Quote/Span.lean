import BoundSql.Text.Basic

/-!
# Quoted spans

Every character of an SQL text lies inside a name quoted with the field quote,
inside a string quoted with the value quote, or in neither. A quote opens a span
only where no span is open, and the same quote closes it. The quotes belong to
the span that they open or close, and where one character serves as both quotes
it opens a quoted name.
-/

set_option autoImplicit false

namespace BoundSql

/-- The two quote characters of a dialect. -/
structure Quotes where
  /-- Encloses names. -/
  field : Char
  /-- Encloses strings. -/
  value : Char
  deriving DecidableEq, Repr

/-- The kind of span that a character lies in. -/
inductive Span where
  | plain
  | field
  | value
  deriving DecidableEq, Repr

namespace Span

/-- Whether the span is of either quoted kind. -/
def isQuoted (s : Span) : Bool := s != .plain

/-- The span of a character read while `s` is open. -/
def label (q : Quotes) (s : Span) (c : Char) : Span :=
  match s with
  | .plain => if c = q.field then .field else if c = q.value then .value else .plain
  | s => s

/-- The span that is open after a character read while `s` was open. -/
def next (q : Quotes) (s : Span) (c : Char) : Span :=
  match s with
  | .plain => label q .plain c
  | .field => if c = q.field then .plain else .field
  | .value => if c = q.value then .plain else .value

end Span

namespace Text

/-- The spans of the characters of a text read while `s` is open. -/
def spansFrom (q : Quotes) (s : Span) : Text → List Span
  | [] => []
  | c :: rest => s.label q c :: spansFrom q (s.next q c) rest

/-- The span that is open after a text read while `s` was open. -/
def openAfter (q : Quotes) (s : Span) : Text → Span
  | [] => s
  | c :: rest => openAfter q (s.next q c) rest

/-- The spans of the characters of a text. -/
def spans (q : Quotes) (text : Text) : List Span := spansFrom q .plain text

/-- Whether no span is left open at the end of a text. -/
def isClosed (q : Quotes) (text : Text) : Bool := openAfter q .plain text == .plain

/-- The unquoted characters of a text read while `s` is open, each with its byte
offset; the text itself begins at `offset`. -/
def plainFrom (q : Quotes) (s : Span) (offset : Nat) : Text → List (Nat × Char)
  | [] => []
  | c :: rest =>
    let later := plainFrom q (s.next q c) (offset + c.utf8Size) rest
    if s.label q c = .plain then (offset, c) :: later else later

/-- The unquoted characters of a text with their UTF-8 byte offsets. -/
def plainAt (q : Quotes) (text : Text) : List (Nat × Char) := plainFrom q .plain 0 text

/-- The unquoted characters of a text. -/
def plainChars (q : Quotes) (text : Text) : Text := (plainAt q text).map Prod.snd

/-- The pieces between the unquoted characters equal to `mark`, of a text read
while `s` is open. -/
def cutFrom (q : Quotes) (mark : Char) (s : Span) : Text → List Text
  | [] => [[]]
  | c :: rest =>
    let pieces := cutFrom q mark (s.next q c) rest
    if s.label q c = .plain ∧ c = mark then [] :: pieces
    else
      match pieces with
      | [] => [[c]]
      | piece :: later => (c :: piece) :: later

/-- The pieces between the unquoted characters equal to `mark`. -/
def cutAt (q : Quotes) (mark : Char) (text : Text) : List Text := cutFrom q mark .plain text

@[simp] theorem length_spansFrom (q : Quotes) (s : Span) (text : Text) :
    (spansFrom q s text).length = text.length := by
  induction text generalizing s with
  | nil => rfl
  | cons c rest ih => simp [spansFrom, ih]

theorem spansFrom_append (q : Quotes) (s : Span) (a b : Text) :
    spansFrom q s (a ++ b) = spansFrom q s a ++ spansFrom q (openAfter q s a) b := by
  induction a generalizing s with
  | nil => rfl
  | cons c rest ih => simp [spansFrom, openAfter, ih]

theorem openAfter_append (q : Quotes) (s : Span) (a b : Text) :
    openAfter q s (a ++ b) = openAfter q (openAfter q s a) b := by
  induction a generalizing s with
  | nil => rfl
  | cons c rest ih => simp [openAfter, ih]

end Text

end BoundSql
