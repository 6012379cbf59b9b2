import BoundSql.Text.Basic
import BoundSql.Text.CaseTable

/-!
# Letter case

Lower and upper case of characters and of texts. A character may have a longer
other case (`ß` becomes `SS`), so both maps go from characters to texts. In a
text, a capital sigma at the end of a word has its own lower case.
-/

set_option autoImplicit false

namespace BoundSql.Text

/-- The other case of a character by a list of runs and a list of exceptions. -/
def mapCase (runs : List CaseRun) (long : List (Nat × List Nat)) (c : Char) : Text :=
  match long.find? (fun entry => entry.1 == c.toNat) with
  | some (_, codes) => codes.map Char.ofNat
  | none =>
    match runs.find? (fun run => run.covers c.toNat) with
    | some run => [run.image c.toNat]
    | none => [c]

/-- The lower case of one character by itself. -/
def lowerChar (c : Char) : Text := mapCase lowerRuns longLower c

/-- The upper case of one character. -/
def upperChar (c : Char) : Text := mapCase upperRuns longUpper c

/-- The upper case of a text. -/
def upper (text : Text) : Text := text.flatMap upperChar

/-- Whether a code point lies in one of the ranges. -/
def inRanges (ranges : List (Nat × Nat)) (c : Char) : Bool :=
  ranges.any fun range => range.1 ≤ c.toNat && c.toNat ≤ range.2

/-- Whether the first character that is not passed over is a letter with case. -/
def meetsLetter (text : Text) : Bool :=
  match text.dropWhile (inRanges caselessMarks) with
  | [] => false
  | c :: _ => inRanges casedLetters c

/-- Lower case of a text whose characters before it are `before`, nearest first. -/
def lowerAfter (before : Text) : Text → Text
  | [] => []
  | c :: rest =>
    let small :=
      if c = 'Σ' then if meetsLetter before && !meetsLetter rest then ['ς'] else ['σ']
      else lowerChar c
    small ++ lowerAfter (c :: before) rest

/-- The lower case of a text; a capital sigma that ends a word becomes a final sigma. -/
def lower (text : Text) : Text := lowerAfter [] text

end BoundSql.Text
