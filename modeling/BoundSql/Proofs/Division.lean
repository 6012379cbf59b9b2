import BoundSql.Proofs.ClosedQuotes
import BoundSql.Text.Utf8

/-!
# Texts divided into quoted spans

A text is a sequence of pieces: characters that are no quotes, names between two field quotes with
no field quote in them, and strings between two value quotes with no value quote in them. Behind
the pieces there may be one span that is opened and not closed. This is said without reading the
text character by character (`Division`), and no two divisions have the same text
(`Division.text_injective`), since the character with which a piece begins decides of which kind
it is, and the first quote of that kind behind it is where it ends.

Reading a text finds its one division: each character is labelled by the piece in which it stands,
and the unquoted characters are those that are pieces by themselves, at the number of bytes that
stand before them (`Division.existsUnique_text`).
-/

set_option autoImplicit false

namespace BoundSql

/-! ## Divisions -/

/-- What stands behind an opening quote and does not close it again. A character that is both
quotes opens a name. -/
inductive Quoted (q : Quotes) where
  | name (body : Text) (inside : q.field ∉ body)
  | string (body : Text) (inside : q.value ∉ body) (apart : q.value ≠ q.field)

namespace Quoted

variable {q : Quotes}

def body : Quoted q → Text
  | name body _ => body
  | string body _ _ => body

/-- The character that opens the span, and closes it. -/
def quote : Quoted q → Char
  | name _ _ => q.field
  | string _ _ _ => q.value

/-- The kind of the span. -/
def span : Quoted q → Span
  | name _ _ => .field
  | string _ _ _ => .value

/-- A span behind its opening quote. -/
def opened (s : Quoted q) : Text := s.quote :: s.body

/-- A span between its quotes. -/
def closed (s : Quoted q) : Text := s.opened ++ [s.quote]

end Quoted

/-- An unquoted character, or a quoted span with both its quotes. -/
inductive Piece (q : Quotes) where
  | plain (c : Char) (unquoted : ¬ q.has c)
  | quoted (s : Quoted q)

namespace Piece

variable {q : Quotes}

def text : Piece q → Text
  | plain c _ => [c]
  | quoted s => s.closed

/-- The kinds of span in which the characters of a piece stand. -/
def labels : Piece q → List Span
  | plain _ _ => [.plain]
  | quoted s => List.replicate s.closed.length s.span

/-- What of a piece is unquoted. -/
def unquoted : Piece q → Text
  | plain c _ => [c]
  | quoted _ => []

end Piece

/-- A text as its pieces, and behind them a span that is left open if there is one. -/
structure Division (q : Quotes) where
  pieces : List (Piece q)
  unclosed : Option (Quoted q)

namespace Division

variable {q : Quotes}

def text (d : Division q) : Text :=
  d.pieces.flatMap Piece.text ++ d.unclosed.elim [] Quoted.opened

/-- The kinds of span in which the characters of the text stand. -/
def labels (d : Division q) : List Span :=
  d.pieces.flatMap Piece.labels ++
    d.unclosed.elim [] fun s => List.replicate s.opened.length s.span

/-- The unquoted characters among pieces before which `offset` bytes stand, each with the number
of bytes before it. -/
def unquotedFrom (offset : Nat) : List (Piece q) → List (Nat × Char)
  | [] => []
  | piece :: rest =>
    piece.unquoted.map (Prod.mk offset) ++ unquotedFrom (offset + piece.text.utf8.length) rest

/-- The unquoted characters, each with the number of bytes before it. -/
def unquotedAt (d : Division q) : List (Nat × Char) := unquotedFrom 0 d.pieces

end Division

/-! ## One division only -/

/-- Texts that are the same up to where `c` stands for the first time are the same behind it. -/
theorem Text.append_cons_inj {c : Char} {a a' b b' : Text} (left : c ∉ a) (left' : c ∉ a')
    (same : a ++ c :: b = a' ++ c :: b') : a = a' ∧ b = b' := by
  rcases List.append_eq_append_iff.1 same with ⟨between, rfl, rest⟩ | ⟨between, rfl, rest⟩
  · cases between with
    | nil => exact ⟨(List.append_nil a).symm, (List.cons.inj rest).2⟩
    | cons first between =>
      obtain ⟨rfl, -⟩ := List.cons.inj rest
      exact absurd (List.mem_append_right a List.mem_cons_self) left'
  · cases between with
    | nil => exact ⟨List.append_nil a', (List.cons.inj rest).2.symm⟩
    | cons first between =>
      obtain ⟨rfl, -⟩ := List.cons.inj rest
      exact absurd (List.mem_append_right a' List.mem_cons_self) left

namespace Quoted

variable {q : Quotes} {s s' : Quoted q}

theorem has_quote (s : Quoted q) : q.has s.quote := by
  cases s with
  | name => exact .inl rfl
  | string => exact .inr rfl

theorem quote_notMem_body (s : Quoted q) : s.quote ∉ s.body := by
  cases s with
  | name _ inside => exact inside
  | string _ inside _ => exact inside

/-- The quote tells of which kind a span is. -/
theorem eq_of_body (quotes : s.quote = s'.quote) (bodies : s.body = s'.body) : s = s' := by
  cases s with
  | name body inside =>
    cases s' with
    | name body' inside' =>
      obtain rfl : body = body' := bodies
      rfl
    | string _ _ apart => exact absurd quotes.symm apart
  | string body inside apart =>
    cases s' with
    | name => exact absurd quotes apart
    | string body' inside' apart' =>
      obtain rfl : body = body' := bodies
      rfl

/-- An opened span tells its quote and what it holds. -/
theorem opened_inj (same : s.opened = s'.opened) : s = s' := by
  obtain ⟨quotes, bodies⟩ := List.cons.inj same
  exact eq_of_body quotes bodies

/-- Behind its opening quote, a span that is left open has no quote of the kind. -/
theorem opened_ne_closed_append (rest : Text) : s.opened ≠ s'.closed ++ rest := by
  intro same
  obtain ⟨quotes, bodies⟩ := List.cons.inj same
  apply s.quote_notMem_body
  rw [bodies, quotes]
  simp

/-- A closed span ends at the first quote of its kind. -/
theorem closed_append_inj {rest rest' : Text} (same : s.closed ++ rest = s'.closed ++ rest') :
    s = s' ∧ rest = rest' := by
  simp only [closed, opened, List.cons_append, List.append_assoc, List.nil_append] at same
  obtain ⟨quotes, bodies⟩ := List.cons.inj same
  rw [← quotes] at bodies
  have inside' : s.quote ∉ s'.body := quotes ▸ s'.quote_notMem_body
  obtain ⟨bodies, rests⟩ := Text.append_cons_inj s.quote_notMem_body inside' bodies
  exact ⟨eq_of_body quotes bodies, rests⟩

end Quoted

namespace Piece

variable {q : Quotes}

/-- No piece is the beginning of another one. -/
theorem text_append_inj {p p' : Piece q} {rest rest' : Text}
    (same : p.text ++ rest = p'.text ++ rest') : p = p' ∧ rest = rest' := by
  cases p with
  | plain c unquoted =>
    cases p' with
    | plain c' unquoted' =>
      obtain ⟨rfl, rests⟩ := List.cons.inj same
      exact ⟨rfl, rests⟩
    | quoted s' =>
      obtain ⟨rfl, -⟩ := List.cons.inj same
      exact absurd s'.has_quote unquoted
  | quoted s =>
    cases p' with
    | plain c' unquoted' =>
      obtain ⟨rfl, -⟩ := List.cons.inj same
      exact absurd s.has_quote unquoted'
    | quoted s' =>
      obtain ⟨rfl, rests⟩ := Quoted.closed_append_inj same
      exact ⟨rfl, rests⟩

/-- A piece is never empty. -/
theorem text_append_ne_nil (p : Piece q) (rest : Text) : p.text ++ rest ≠ [] := by
  cases p with
  | plain c _ => exact List.cons_ne_nil _ _
  | quoted s => exact List.cons_ne_nil _ _

/-- What is left open begins with no piece. -/
theorem text_append_ne_opened (p : Piece q) (rest : Text) (s : Quoted q) :
    p.text ++ rest ≠ s.opened := by
  intro same
  cases p with
  | plain c unquoted =>
    obtain ⟨rfl, -⟩ := List.cons.inj same
    exact unquoted s.has_quote
  | quoted s' => exact Quoted.opened_ne_closed_append rest same.symm

theorem text_append_ne_unclosed (p : Piece q) (rest : Text) (u : Option (Quoted q)) :
    p.text ++ rest ≠ u.elim [] Quoted.opened := by
  cases u with
  | none => exact p.text_append_ne_nil rest
  | some s => exact p.text_append_ne_opened rest s

end Piece

namespace Division

variable {q : Quotes}

/-- The text of a division begins with its first piece. -/
theorem text_cons (p : Piece q) (rest : List (Piece q)) (u : Option (Quoted q)) :
    text ⟨p :: rest, u⟩ = p.text ++ text ⟨rest, u⟩ := List.append_assoc _ _ _

/-- No two divisions have the same text. -/
theorem text_injective : Function.Injective (text (q := q)) := by
  rintro ⟨pieces, u⟩ ⟨pieces', u'⟩ same
  induction pieces generalizing pieces' with
  | nil =>
    cases pieces' with
    | nil =>
      have unclosed : u.elim [] Quoted.opened = u'.elim [] Quoted.opened := same
      cases u with
      | none =>
        cases u' with
        | none => rfl
        | some s' => exact absurd unclosed.symm (List.cons_ne_nil _ _)
      | some s =>
        cases u' with
        | none => exact absurd unclosed (List.cons_ne_nil _ _)
        | some s' => rw [Quoted.opened_inj unclosed]
    | cons p' rest' =>
      -- Without pieces there is no more than what is left open, and that begins with no piece.
      rw [text_cons] at same
      exact absurd same.symm (p'.text_append_ne_unclosed _ u)
  | cons p rest ih =>
    cases pieces' with
    | nil =>
      rw [text_cons] at same
      exact absurd same (p.text_append_ne_unclosed _ u')
    | cons p' rest' =>
      -- The first pieces are one, and so the same text is left behind them.
      rw [text_cons, text_cons] at same
      obtain ⟨rfl, rests⟩ := Piece.text_append_inj same
      obtain ⟨rfl, rfl⟩ := Division.mk.inj (ih rest' rests)
      rfl

/-! ## A division of every text -/

/-- A text without a quote can be put between two of them. -/
theorem exists_quoted {c : Char} {body : Text} (quote : q.has c) (inside : c ∉ body) :
    ∃ s : Quoted q, s.quote = c ∧ s.body = body := by
  by_cases name : c = q.field
  · subst name
    exact ⟨.name body inside, rfl, rfl⟩
  · obtain rfl : c = q.value := quote.resolve_left name
    exact ⟨.string body inside name, rfl, rfl⟩

/-- Every text can be divided: a quote is looked for behind it, and what follows the span is
divided by itself. -/
theorem exists_text (text : Text) : ∃ d : Division q, d.text = text := by
  induction size : text.length using Nat.strong_induction_on generalizing text with
  | _ n ih =>
    cases text with
    | nil => exact ⟨⟨[], none⟩, rfl⟩
    | cons c rest =>
      rw [List.length_cons] at size
      by_cases quote : q.has c
      · -- The first quote of the same kind closes the span, if there is one.
        by_cases closing : c ∈ rest
        · obtain ⟨body, later, rfl, inside⟩ := List.eq_append_cons_of_mem closing
          rw [List.length_append, List.length_cons] at size
          obtain ⟨d, text⟩ := ih later.length (by omega) later rfl
          obtain ⟨s, rfl, rfl⟩ := exists_quoted quote inside
          refine ⟨⟨.quoted s :: d.pieces, d.unclosed⟩, ?_⟩
          rw [text_cons, text]
          simp [Piece.text, Quoted.closed, Quoted.opened]
        · obtain ⟨s, rfl, rfl⟩ := exists_quoted quote closing
          exact ⟨⟨[], some s⟩, rfl⟩
      · obtain ⟨d, text⟩ := ih rest.length (by omega) rest rfl
        refine ⟨⟨.plain c quote :: d.pieces, d.unclosed⟩, ?_⟩
        rw [text_cons, text]
        rfl

end Division

/-! ## Reading a divided text -/

namespace Text

variable {q : Quotes} {s : Span}

/-- Characters that leave a quoted span open are labelled by it. -/
theorem spansFrom_of_stays {t : Text} (quoted : s ≠ .plain) (stays : ∀ c ∈ t, s.next q c = s) :
    spansFrom q s t = List.replicate t.length s ∧ openAfter q s t = s := by
  -- Within a quoted span the label does not depend on the character.
  have label : ∀ c, s.label q c = s := by
    intro c
    cases s with
    | plain => exact absurd rfl quoted
    | field => rfl
    | value => rfl
  induction t with
  | nil => exact ⟨rfl, rfl⟩
  | cons c rest ih =>
    obtain ⟨spans, after⟩ := ih fun d hd => stays d (List.mem_cons_of_mem c hd)
    have first := stays c List.mem_cons_self
    constructor
    · rw [spansFrom, label, first, spans]
      rfl
    · rw [openAfter, first, after]

/-- What is plain in the second text is read in the span that the first one leaves, with the offset
of its bytes. -/
theorem plainFrom_append (q : Quotes) (s : Span) (offset : Nat) (a b : Text) :
    plainFrom q s offset (a ++ b) =
      plainFrom q s offset a ++ plainFrom q (openAfter q s a) (offset + a.byteSize) b := by
  induction a generalizing s offset with
  | nil => rfl
  | cons c rest ih =>
    have offsets : offset + c.utf8Size + byteSize rest = offset + byteSize (c :: rest) := by
      rw [byteSize, Nat.add_assoc]
    have later := ih (s.next q c) (offset + c.utf8Size)
    rw [offsets] at later
    rw [List.cons_append, plainFrom, plainFrom, later, openAfter]
    split
    · rfl
    · rfl

/-- A text of quoted characters has no unquoted ones. -/
theorem plainFrom_eq_nil {t : Text} (quoted : ∀ label ∈ spansFrom q s t, label ≠ .plain)
    (offset : Nat) : plainFrom q s offset t = [] := by
  induction t generalizing s offset with
  | nil => rfl
  | cons c rest ih =>
    have first : s.label q c ≠ .plain := quoted _ List.mem_cons_self
    rw [plainFrom, if_neg first]
    exact ih (fun label hl => quoted label (List.mem_cons_of_mem _ hl)) _

end Text

namespace Quoted

variable {q : Quotes}

/-- A quoted span is not plain. -/
theorem span_ne_plain (s : Quoted q) : s.span ≠ .plain := by
  cases s with
  | name => exact Span.noConfusion
  | string => exact Span.noConfusion

/-- The opening quote stands in the span that it opens. -/
theorem label_quote (s : Quoted q) : Span.label q .plain s.quote = s.span := by
  cases s with
  | name => exact if_pos rfl
  | string _ _ apart => exact (if_neg apart).trans (if_pos rfl)

/-- The same quote closes the span. -/
theorem next_quote (s : Quoted q) : s.span.next q s.quote = .plain := by
  cases s with
  | name => exact if_pos rfl
  | string => exact if_pos rfl

/-- Nothing between the quotes closes it. -/
theorem stays (s : Quoted q) : ∀ c ∈ s.body, s.span.next q c = s.span := by
  intro c hc
  have other : c ≠ s.quote := fun same => s.quote_notMem_body (same ▸ hc)
  cases s with
  | name => exact if_neg other
  | string => exact if_neg other

theorem spans_opened (s : Quoted q) :
    Text.spansFrom q .plain s.opened = List.replicate s.opened.length s.span ∧
      Text.openAfter q .plain s.opened = s.span := by
  obtain ⟨inside, after⟩ := Text.spansFrom_of_stays s.span_ne_plain s.stays
  have opening : Span.next q .plain s.quote = s.span := s.label_quote
  constructor
  · rw [opened, Text.spansFrom, s.label_quote, opening, inside]
    rfl
  · rw [opened, Text.openAfter, opening, after]

theorem spans_closed (s : Quoted q) :
    Text.spansFrom q .plain s.closed = List.replicate s.closed.length s.span ∧
      Text.openAfter q .plain s.closed = .plain := by
  obtain ⟨inside, after⟩ := s.spans_opened
  have label : s.span.label q s.quote = s.span := by
    cases s with
    | name => rfl
    | string => rfl
  constructor
  · rw [closed, Text.spansFrom_append, inside, after, List.length_append, List.replicate_add,
      Text.spansFrom, label]
    rfl
  · rw [closed, Text.openAfter_append, after]
    exact s.next_quote

end Quoted

namespace Piece

variable {q : Quotes}

/-- A piece labels all its characters and leaves no span open. -/
theorem spans_text (p : Piece q) :
    Text.spansFrom q .plain p.text = p.labels ∧ Text.openAfter q .plain p.text = .plain := by
  cases p with
  | plain c unquoted =>
    have label := Span.label_of_not_has (s := .plain) unquoted
    have next := Span.next_of_not_has (s := .plain) unquoted
    constructor
    · rw [text, Text.spansFrom, label]
      rfl
    · rw [text, Text.openAfter, next]
      rfl
  | quoted s => exact s.spans_closed

theorem plainFrom_text (p : Piece q) (offset : Nat) :
    Text.plainFrom q .plain offset p.text = p.unquoted.map (Prod.mk offset) := by
  cases p with
  | plain c unquoted =>
    have label := Span.label_of_not_has (s := .plain) unquoted
    rw [text, Text.plainFrom, if_pos label]
    rfl
  | quoted s =>
    apply Text.plainFrom_eq_nil
    rw [text, s.spans_closed.1]
    intro label hl
    rw [List.eq_of_mem_replicate hl]
    exact s.span_ne_plain

end Piece

namespace Division

variable {q : Quotes}

/-- Behind each piece nothing is open, so that the pieces are read one by one. -/
theorem spans_text (d : Division q) :
    d.text.spans q = d.labels ∧
      Text.openAfter q .plain d.text = d.unclosed.elim .plain Quoted.span := by
  rcases d with ⟨pieces, u⟩
  induction pieces with
  | nil =>
    cases u with
    | none => exact ⟨rfl, rfl⟩
    | some s => exact s.spans_opened
  | cons p rest ih =>
    obtain ⟨spans, after⟩ := ih
    obtain ⟨first, behind⟩ := p.spans_text
    constructor
    · rw [Text.spans, text_cons, Text.spansFrom_append, first, behind, ← Text.spans, spans]
      exact (List.append_assoc _ _ _).symm
    · rw [text_cons, Text.openAfter_append, behind, after]

theorem plainFrom_text (d : Division q) (offset : Nat) :
    Text.plainFrom q .plain offset d.text = unquotedFrom offset d.pieces := by
  rcases d with ⟨pieces, u⟩
  induction pieces generalizing offset with
  | nil =>
    apply Text.plainFrom_eq_nil
    cases u with
    | none => exact fun _ hl => absurd hl List.not_mem_nil
    | some s =>
      intro label hl
      have opened : label ∈ Text.spansFrom q .plain s.opened := hl
      rw [s.spans_opened.1] at opened
      rw [List.eq_of_mem_replicate opened]
      exact s.span_ne_plain
  | cons p rest ih =>
    rw [text_cons, Text.plainFrom_append, p.plainFrom_text, p.spans_text.2, ih, unquotedFrom,
      Text.length_utf8]

/-- The text of a division is closed exactly when nothing is left unclosed. -/
theorem isClosed_text_iff (d : Division q) :
    d.text.isClosed q = true ↔ d.unclosed = none := by
  rw [Text.isClosed_iff, d.spans_text.2]
  cases d.unclosed with
  | none => exact ⟨fun _ => rfl, fun _ => rfl⟩
  | some s => exact ⟨fun plain => absurd plain s.span_ne_plain, fun none => by cases none⟩

/-- There is one way and no other to divide a text into unquoted characters and quoted spans.
Reading the text labels each character by the piece in which it stands, and finds as unquoted the
characters that are pieces by themselves, at the number of bytes before them. Where the division
leaves no span open, whatever is put behind the text is read as by itself. -/
theorem existsUnique_text (q : Quotes) :
    (∀ text : Text, ∃! d : Division q, d.text = text) ∧
      ∀ d : Division q, d.text.spans q = d.labels ∧ d.text.plainAt q = d.unquotedAt ∧
        (d.text.isClosed q = true ↔ d.unclosed = none) ∧
          (d.unclosed = none → ∀ later : Text,
            (d.text ++ later).spans q = d.text.spans q ++ later.spans q) := by
  constructor
  · intro text
    obtain ⟨d, divides⟩ := exists_text (q := q) text
    refine ⟨d, divides, fun other divides' => ?_⟩
    exact text_injective (divides'.trans divides.symm)
  · intro d
    obtain ⟨spans, after⟩ := d.spans_text
    refine ⟨spans, d.plainFrom_text 0, d.isClosed_text_iff, fun closed later => ?_⟩
    rw [closed] at after
    rw [Text.spans, Text.spansFrom_append, after]
    rfl

/-- A quote of one kind within a span of the other is an ordinary character. -/
theorem existsUnique_text_crossed :
    ∃ d : Division ⟨'"', '\''⟩, d.text = "é'\".'." ∧ d.unquotedAt = [(0, 'é'), (6, '.')] ∧
      Text.spans ⟨'"', '\''⟩ "é'\".'.\"x" =
        Text.spans ⟨'"', '\''⟩ "é'\".'." ++ Text.spans ⟨'"', '\''⟩ "\"x" := by
  obtain ⟨divided, reads⟩ := existsUnique_text ⟨'"', '\''⟩
  obtain ⟨d, text, -⟩ := divided "é'\".'."
  obtain ⟨-, unquoted, closed, behind⟩ := reads d
  have isClosed : d.text.isClosed ⟨'"', '\''⟩ = true := by
    rw [text]
    decide
  have later := behind (closed.1 isClosed) "\"x"
  rw [text] at unquoted later
  exact ⟨d, text, unquoted.symm.trans (by decide), later⟩

end Division

end BoundSql
