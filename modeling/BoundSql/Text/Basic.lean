/-!
# Text

Names, columns and finished SQL are all text, held as the list of their
characters. Scanning, trimming and cutting are then recursion over that list,
and a statement about a text is a statement about its characters.
-/

set_option autoImplicit false

namespace BoundSql

/-- A text is the list of its characters. -/
abbrev Text := List Char

instance : Coe String Text := ⟨String.toList⟩

namespace Text

/-- The texts in order with `separator` between each two. -/
def joined (separator : Text) (parts : List Text) : Text := separator.intercalate parts

/-- Whether the text begins and ends with `quote`; one lone quote does both. -/
def isWrappedIn (text : Text) (quote : Char) : Bool :=
  text.head? == some quote && text.getLast? == some quote

/-- Whether the text begins with `word`, the 26 basic letters of both cases taken as equal. -/
def startsWithWord (text word : Text) : Bool :=
  (text.take word.length).map Char.toLower == word.map Char.toLower

/-- The decimal digits of a number, most significant first. -/
def ofNat (n : Nat) : Text := Nat.toDigits 10 n

/-- A number with at least `width` digits, zeros put in front. -/
def padded (width n : Nat) : Text :=
  List.replicate (width - (ofNat n).length) '0' ++ ofNat n

end Text

end BoundSql
