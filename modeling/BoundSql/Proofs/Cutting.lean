import BoundSql.Proofs.Division

/-!
# Cutting texts at unquoted marks

A text is cut only where a mark stands outside any quoted span. The pieces are the text with the
marks taken out (`Text.joined_cutFrom`). At an unquoted mark the two sides are cut as they would be
by themselves (`Text.cutFrom_append_cons`), and a text without an unquoted mark stays in one piece
(`Text.cutFrom_of_notMem`). So a text in one piece and a text that is cut once are all the cases
there are (`Text.cutAt_induction`), and it follows that the unquoted marks are those between the
pieces, at the places where the pieces end, and no others (`Text.cutInto_cutAt`).
-/

set_option autoImplicit false

namespace BoundSql.Text

variable {q : Quotes} {mark : Char} {s : Span} {text : Text}

/-! ## Unquoted characters -/

/-- The unquoted characters of a text read while `s` is open, without their offsets. -/
def unquotedFrom (q : Quotes) (s : Span) : Text → Text
  | [] => []
  | c :: rest =>
    let later := unquotedFrom q (s.next q c) rest
    if s.label q c = .plain then c :: later else later

theorem map_snd_plainFrom (q : Quotes) (s : Span) (offset : Nat) (text : Text) :
    (plainFrom q s offset text).map Prod.snd = unquotedFrom q s text := by
  induction text generalizing s offset with
  | nil => rfl
  | cons c rest ih =>
    by_cases plain_ : s.label q c = .plain
    · simp only [plainFrom, unquotedFrom, if_pos plain_, List.map_cons, ih]
    · simp only [plainFrom, unquotedFrom, if_neg plain_, ih]

theorem plainChars_eq (q : Quotes) (text : Text) :
    text.plainChars q = unquotedFrom q .plain text :=
  map_snd_plainFrom q .plain 0 text

theorem mem_of_mem_unquotedFrom {c : Char} (h : c ∈ unquotedFrom q s text) : c ∈ text := by
  induction text generalizing s with
  | nil => cases h
  | cons first rest ih =>
    simp only [unquotedFrom] at h
    split at h
    · rcases List.mem_cons.1 h with rfl | h
      · exact List.mem_cons_self
      · exact List.mem_cons_of_mem first (ih h)
    · exact List.mem_cons_of_mem first (ih h)

/-- An unquoted character stands somewhere in the text, and what is unquoted on either side of it
is read from that side of the text alone. -/
theorem exists_of_unquotedFrom {before after : Text} {c : Char}
    (h : unquotedFrom q s text = before ++ c :: after) :
    ∃ a b, text = a ++ c :: b ∧ (openAfter q s a).label q c = .plain ∧
      unquotedFrom q s a = before ∧ unquotedFrom q .plain b = after := by
  induction text generalizing s before with
  | nil => simp [unquotedFrom] at h
  | cons first rest ih =>
    by_cases plain_ : s.label q first = .plain
    · simp only [unquotedFrom, if_pos plain_] at h
      cases before with
      | nil =>
        -- The first character is the one that is looked for, and no span is open behind it.
        obtain ⟨rfl, later⟩ := List.cons.inj h
        obtain ⟨-, after_⟩ := Span.of_label_eq_plain plain_
        rw [after_] at later
        exact ⟨[], rest, rfl, plain_, rfl, later⟩
      | cons d before =>
        obtain ⟨rfl, later⟩ := List.cons.inj h
        obtain ⟨a, b, rfl, unquoted, left, right⟩ := ih later
        refine ⟨first :: a, b, rfl, unquoted, ?_, right⟩
        simp only [unquotedFrom, if_pos plain_, left]
    · simp only [unquotedFrom, if_neg plain_] at h
      obtain ⟨a, b, rfl, unquoted, left, right⟩ := ih h
      refine ⟨first :: a, b, rfl, unquoted, ?_, right⟩
      simp only [unquotedFrom, if_neg plain_, left]

/-! ## Pieces -/

theorem cutFrom_ne_nil (q : Quotes) (mark : Char) (s : Span) (text : Text) :
    cutFrom q mark s text ≠ [] := by
  cases text with
  | nil => exact List.cons_ne_nil _ _
  | cons c rest =>
    rw [cutFrom]
    split
    · exact List.cons_ne_nil _ _
    · split
      · exact List.cons_ne_nil _ _
      · exact List.cons_ne_nil _ _

/-- A character that does not cut stands at the head of the first piece. -/
theorem cutFrom_cons_of_not {c : Char} (h : ¬ (s.label q c = .plain ∧ c = mark)) (rest : Text) :
    cutFrom q mark s (c :: rest) =
      (cutFrom q mark (s.next q c) rest).modifyHead (c :: ·) := by
  have pieces := cutFrom_ne_nil q mark (s.next q c) rest
  simp only [cutFrom, if_neg h]
  cases cut : cutFrom q mark (s.next q c) rest with
  | nil => exact absurd cut pieces
  | cons piece later => rfl

theorem cutFrom_cons_self (h : s.label q mark = .plain) (rest : Text) :
    cutFrom q mark s (mark :: rest) = [] :: cutFrom q mark .plain rest := by
  rw [cutFrom, if_pos ⟨h, rfl⟩, (Span.of_label_eq_plain h).2]

/-- The pieces with the mark between each two are the text. -/
theorem joined_cutFrom (q : Quotes) (mark : Char) (s : Span) (text : Text) :
    joined [mark] (cutFrom q mark s text) = text := by
  induction text generalizing s with
  | nil => rfl
  | cons c rest ih =>
    -- At an unquoted mark a piece ends and the next one begins. Any other character goes to the
    -- front of the piece that follows.
    by_cases cut : s.label q c = .plain ∧ c = mark
    · obtain ⟨unquoted, rfl⟩ := cut
      obtain ⟨piece, later, pieces⟩ := List.exists_cons_of_ne_nil (cutFrom_ne_nil q c .plain rest)
      have inner := ih (s := .plain)
      rw [cutFrom_cons_self unquoted, pieces, joined, List.intercalate_cons_cons, List.nil_append,
        ← joined, ← pieces, inner]
      rfl
    · have inner := ih (s := s.next q c)
      rw [cutFrom_cons_of_not cut]
      cases pieces : cutFrom q mark (s.next q c) rest with
      | nil => exact absurd pieces (cutFrom_ne_nil q mark _ rest)
      | cons piece later =>
        rw [pieces] at inner
        cases later with
        | nil => simpa [joined] using inner
        | cons next later => simpa [joined, List.intercalate_cons_cons] using inner

/-- At an unquoted mark both sides are cut by themselves. -/
theorem cutFrom_append_cons {a : Text} (h : (openAfter q s a).label q mark = .plain) (b : Text) :
    cutFrom q mark s (a ++ mark :: b) = cutFrom q mark s a ++ cutFrom q mark .plain b := by
  induction a generalizing s with
  | nil => exact cutFrom_cons_self h b
  | cons c rest ih =>
    have inner := ih (s := s.next q c) h
    rw [List.cons_append]
    by_cases cut : s.label q c = .plain ∧ c = mark
    · obtain ⟨unquoted, rfl⟩ := cut
      rw [(Span.of_label_eq_plain unquoted).2] at inner
      rw [cutFrom_cons_self unquoted, cutFrom_cons_self unquoted, inner, List.cons_append]
    · rw [cutFrom_cons_of_not cut, cutFrom_cons_of_not cut, inner]
      cases pieces : cutFrom q mark (s.next q c) rest with
      | nil => exact absurd pieces (cutFrom_ne_nil q mark _ rest)
      | cons piece later => rfl

/-- A text without an unquoted mark is one piece. -/
theorem cutFrom_of_notMem (h : mark ∉ unquotedFrom q s text) :
    cutFrom q mark s text = [text] := by
  induction text generalizing s with
  | nil => rfl
  | cons c rest ih =>
    have noCut : ¬ (s.label q c = .plain ∧ c = mark) := by
      rintro ⟨unquoted, rfl⟩
      simp [unquotedFrom, unquoted] at h
    have later : mark ∉ unquotedFrom q (s.next q c) rest := by
      intro found
      apply h
      simp only [unquotedFrom]
      split
      · exact List.mem_cons_of_mem c found
      · exact found
    rw [cutFrom_cons_of_not noCut, ih later]
    rfl

/-! ## A text and its pieces -/

theorem unquotedFrom_append (q : Quotes) (s : Span) (a b : Text) :
    unquotedFrom q s (a ++ b) = unquotedFrom q s a ++ unquotedFrom q (openAfter q s a) b := by
  induction a generalizing s with
  | nil => rfl
  | cons c rest ih =>
    rw [List.cons_append, unquotedFrom, unquotedFrom, ih (s.next q c), openAfter]
    split
    · rfl
    · rfl

/-- Behind a closed text, a character that is no quote is unquoted, and what follows it is read by
itself. -/
theorem plainChars_append_cons {a : Text} (closed : a.isClosed q = true) (apart : ¬ q.has mark)
    (b : Text) : (a ++ mark :: b).plainChars q = a.plainChars q ++ mark :: b.plainChars q := by
  have label := Span.label_of_not_has (s := .plain) apart
  have next := Span.next_of_not_has (s := .plain) apart
  rw [plainChars_eq, plainChars_eq, plainChars_eq, unquotedFrom_append, isClosed_iff.1 closed,
    unquotedFrom, if_pos label, next]

/-- A closed text is cut by itself if a mark follows it. -/
theorem cutAt_append_cons {a : Text} (closed : a.isClosed q = true) (apart : ¬ q.has mark)
    (b : Text) : (a ++ mark :: b).cutAt q mark = a.cutAt q mark ++ b.cutAt q mark := by
  have label : (openAfter q .plain a).label q mark = .plain := by
    rw [isClosed_iff.1 closed]
    exact Span.label_of_not_has apart
  exact cutFrom_append_cons label b

theorem cutAt_of_notMem {t : Text} (h : mark ∉ t.plainChars q) : t.cutAt q mark = [t] := by
  rw [plainChars_eq] at h
  exact cutFrom_of_notMem h

theorem cutAt_ne_nil (q : Quotes) (mark : Char) (t : Text) : t.cutAt q mark ≠ [] :=
  cutFrom_ne_nil q mark .plain t

/-- An unquoted character is no quote, and what stands before it is closed. -/
theorem eq_append_of_mem_plainChars {t : Text} (h : mark ∈ t.plainChars q) :
    ∃ first rest, t = first ++ mark :: rest ∧ ¬ q.has mark ∧ first.isClosed q = true ∧
      mark ∉ first.plainChars q := by
  -- Of all the places where it stands unquoted, the first one is taken.
  obtain ⟨before, after, unquoted, none_⟩ := List.eq_append_cons_of_mem h
  rw [plainChars_eq] at unquoted
  obtain ⟨first, rest, rfl, label, left, -⟩ := exists_of_unquotedFrom unquoted
  have outside : openAfter q .plain first = .plain := (Span.of_label_eq_plain label).1
  have apart : ¬ q.has mark := by
    rw [outside] at label
    intro quote
    by_cases name : mark = q.field
    · rw [Span.label, if_pos name] at label
      cases label
    · rw [Span.label, if_neg name, if_pos (quote.resolve_left name)] at label
      cases label
  refine ⟨first, rest, rfl, apart, isClosed_iff.2 outside, ?_⟩
  rw [plainChars_eq, left]
  exact none_

/-- What holds of a text in one piece, and of a text that is cut once if it holds of what follows
the mark, holds of every text with its pieces. -/
theorem cutAt_induction {P : Text → List Text → Prop}
    (whole : ∀ t : Text, mark ∉ t.plainChars q → P t [t])
    (cut : ∀ first rest : Text, ¬ q.has mark → first.isClosed q = true →
      mark ∉ first.plainChars q → P rest (rest.cutAt q mark) →
        P (first ++ mark :: rest) (first :: rest.cutAt q mark))
    (t : Text) : P t (t.cutAt q mark) := by
  -- The induction is on the length, as what follows the first mark may be far behind.
  induction size : t.length using Nat.strong_induction_on generalizing t with
  | _ n ih =>
    by_cases found : mark ∈ t.plainChars q
    · obtain ⟨first, rest, rfl, apart, closed, none_⟩ := eq_append_of_mem_plainChars found
      rw [List.length_append, List.length_cons] at size
      have later := ih rest.length (by omega) rest rfl
      rw [cutAt_append_cons closed apart, cutAt_of_notMem none_]
      exact cut first rest apart closed none_ later
    · rw [cutAt_of_notMem found]
      exact whole t found

/-- There is one piece more than there are unquoted marks. -/
theorem length_cutAt (q : Quotes) (mark : Char) (t : Text) :
    (t.cutAt q mark).length = (t.plainChars q).count mark + 1 := by
  apply cutAt_induction (P := fun t pieces => pieces.length = (t.plainChars q).count mark + 1)
  · intro t none_
    rw [List.count_eq_zero_of_not_mem none_]
    rfl
  · intro first rest apart closed none_ later
    rw [plainChars_append_cons closed apart, List.count_append, List.count_cons_self,
      List.count_eq_zero_of_not_mem none_, List.length_cons, later]
    omega

/-- No piece has an unquoted mark of its own. -/
theorem notMem_of_mem_cutAt (t : Text) :
    ∀ piece ∈ t.cutAt q mark, mark ∉ Text.plainChars q piece := by
  apply cutAt_induction (P := fun _ pieces => ∀ piece ∈ pieces, mark ∉ Text.plainChars q piece)
  · intro t none_ piece hp
    rw [List.mem_singleton.1 hp]
    exact none_
  · intro first rest apart closed none_ later piece hp
    rcases List.mem_cons.1 hp with rfl | hp
    · exact none_
    · exact later piece hp

/-- Every piece but the last leaves no quote open. -/
theorem isClosed_of_mem_dropLast (t : Text) :
    ∀ piece ∈ (t.cutAt q mark).dropLast, Text.isClosed q piece = true := by
  apply cutAt_induction
    (P := fun _ pieces => ∀ piece ∈ pieces.dropLast, Text.isClosed q piece = true)
  · intro t none_ piece hp
    cases hp
  · intro first rest apart closed none_ later piece hp
    rw [List.dropLast_cons_of_ne_nil (cutAt_ne_nil q mark rest)] at hp
    rcases List.mem_cons.1 hp with rfl | hp
    · exact closed
    · exact later piece hp

/-- A piece stays whole when it is cut again. -/
theorem flatMap_cutAt_cutAt (q : Quotes) (mark : Char) (t : Text) :
    (t.cutAt q mark).flatMap (Text.cutAt q mark) = t.cutAt q mark := by
  have again : ∀ piece ∈ t.cutAt q mark, Text.cutAt q mark piece = [piece] := by
    intro piece hp
    exact cutAt_of_notMem (notMem_of_mem_cutAt t piece hp)
  rw [List.flatMap_congr again, List.flatMap_singleton']

/-! ### Places of marks -/

section Places

variable {p : Char → Bool} {a : Text}

theorem filter_plainFrom_eq_nil (none_ : ∀ c ∈ a.plainChars q, p c = false) (offset : Nat) :
    (plainFrom q .plain offset a).filter (fun e => p e.2) = [] := by
  apply List.filter_eq_nil_iff.2
  intro e he
  have unquoted : e.2 ∈ a.plainChars q := by
    rw [plainChars_eq, ← map_snd_plainFrom q .plain offset]
    exact List.mem_map_of_mem he
  simp [none_ e.2 unquoted]

/-- Of a closed text with nothing in it that is looked for and a character behind it that is, the
character is found first, where the text ends. -/
theorem filter_plainFrom_append_cons (none_ : ∀ c ∈ a.plainChars q, p c = false)
    (closed : a.isClosed q = true) (apart : ¬ q.has mark) (kept : p mark = true) (b : Text)
    (offset : Nat) :
    (plainFrom q .plain offset (a ++ mark :: b)).filter (fun e => p e.2) =
      (offset + a.utf8.length, mark) ::
        (plainFrom q .plain (offset + a.utf8.length + mark.utf8Size) b).filter
          fun e => p e.2 := by
  have label := Span.label_of_not_has (s := .plain) apart
  have next := Span.next_of_not_has (s := .plain) apart
  rw [plainFrom_append, List.filter_append, filter_plainFrom_eq_nil none_, isClosed_iff.1 closed,
    plainFrom, if_pos label, next, length_utf8, List.nil_append]
  exact List.filter_cons_of_pos kept

end Places

/-- The byte offsets of the marks that stand behind each of some pieces, the first of which begins
at `offset`. -/
def marksBehind (mark : Char) (offset : Nat) : List Text → List Nat
  | [] => []
  | piece :: later =>
    let place := offset + piece.utf8.length
    place :: marksBehind mark (place + mark.utf8Size) later

/-- The unquoted marks are those between the pieces. -/
theorem filter_plainAt (q : Quotes) (mark : Char) (t : Text) :
    (t.plainAt q).filter (fun e => e.2 == mark) =
      (marksBehind mark 0 (t.cutAt q mark).dropLast).map fun place => (place, mark) := by
  have absent : ∀ {a : Text}, mark ∉ a.plainChars q →
      ∀ c ∈ a.plainChars q, (c == mark) = false := by
    intro a none_ c hc
    apply beq_false_of_ne
    rintro rfl
    exact none_ hc
  -- Behind the first mark the places are counted from a later one.
  suffices shifted : ∀ offset, (plainFrom q .plain offset t).filter (fun e => e.2 == mark) =
      (marksBehind mark offset (t.cutAt q mark).dropLast).map fun place => (place, mark) from
    shifted 0
  apply cutAt_induction (P := fun t pieces => ∀ offset,
    (plainFrom q .plain offset t).filter (fun e => e.2 == mark) =
      (marksBehind mark offset pieces.dropLast).map fun place => (place, mark))
  · intro t none_ offset
    exact filter_plainFrom_eq_nil (absent none_) offset
  · intro first rest apart closed none_ later offset
    have found := filter_plainFrom_append_cons (p := fun c => c == mark) (absent none_) closed
      apart (beq_self_eq_true mark) rest offset
    rw [found, later, List.dropLast_cons_of_ne_nil (cutAt_ne_nil q mark rest)]
    rfl

/-- The pieces are the text with its unquoted marks taken out. -/
structure CutInto (q : Quotes) (mark : Char) (t : Text) (pieces : List Text) : Prop where
  joined : Text.joined [mark] pieces = t
  length : pieces.length = (t.plainChars q).count mark + 1
  /-- The unquoted marks are those between the pieces, at their byte offsets. -/
  marks : (t.plainAt q).filter (fun e => e.2 == mark) =
    (marksBehind mark 0 pieces.dropLast).map fun place => (place, mark)
  unmarked : ∀ piece ∈ pieces, mark ∉ Text.plainChars q piece
  /-- Only the last piece may leave a quote open. -/
  closed : ∀ piece ∈ pieces.dropLast, Text.isClosed q piece = true

theorem cutInto_cutAt (q : Quotes) (mark : Char) (t : Text) :
    CutInto q mark t (t.cutAt q mark) where
  joined := joined_cutFrom q mark .plain t
  length := length_cutAt q mark t
  marks := filter_plainAt q mark t
  unmarked := notMem_of_mem_cutAt t
  closed := isClosed_of_mem_dropLast t

end BoundSql.Text
