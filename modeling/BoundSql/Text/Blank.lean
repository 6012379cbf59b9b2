import BoundSql.Text.Basic

/-!
# Blank characters

The characters with the Unicode property White_Space, and the trimming that
rests on them. Trimming removes blanks at the ends of a text and nothing else.
-/

set_option autoImplicit false

namespace BoundSql.Text

/-- Whether a character has the property White_Space. -/
def isBlank (c : Char) : Bool :=
  let n := c.toNat
  (0x09 ≤ n && n ≤ 0x0D) || n == 0x20 || n == 0x85 || n == 0xA0 || n == 0x1680 ||
    (0x2000 ≤ n && n ≤ 0x200A) || n == 0x2028 || n == 0x2029 || n == 0x202F || n == 0x205F ||
    n == 0x3000

/-- The text without the blanks at its start. -/
def trimStart (text : Text) : Text := text.dropWhile isBlank

/-- The text without the blanks at its end. -/
def trimEnd (text : Text) : Text := (text.reverse.dropWhile isBlank).reverse

/-- The text without the blanks at both its ends. -/
def trim (text : Text) : Text := trimEnd (trimStart text)

@[simp] theorem trim_nil : trim [] = [] := rfl

end BoundSql.Text
