import BoundSql.Dialect.Basic
import BoundSql.Toml.Reader

/-!
# Dialect settings

The file form of a dialect: a preset and the settings that replace parts of it.
The file is a TOML document with known keys only. Each setting has one form, and a
document with anything else in it is no settings file.
-/

set_option autoImplicit false

namespace BoundSql

/-- A preset and what replaces parts of it. -/
structure Settings where
  preset : Preset
  fieldQuote : Option Char
  valueQuote : Option Char
  separator : Option Char
  placeholder : Option Placeholder
  booleans : Option (List Text)
  reserved : Option (List Char)
  deriving DecidableEq, Repr

namespace Settings

/-- The generic preset with nothing replaced. -/
def empty : Settings := ⟨.generic, none, none, none, none, none, none⟩

/-- The dialect that the settings describe, which may not be a valid one. -/
def apply (s : Settings) : Dialect where
  quotes :=
    ⟨s.fieldQuote.getD s.preset.dialect.quotes.field,
      s.valueQuote.getD s.preset.dialect.quotes.value⟩
  separator := s.separator.getD s.preset.dialect.separator
  booleans := s.booleans.getD s.preset.dialect.booleans
  reserved := s.reserved.getD s.preset.dialect.reserved
  placeholder := s.placeholder.getD s.preset.dialect.placeholder

/-- The dialect that the settings describe, if it is a valid one. -/
def dialect (s : Settings) : Except Fault Dialect := do
  s.apply.validate
  return s.apply

/-! ## Reading -/

/-- A text. -/
def text? : Toml.Node → Option Text
  | .text t => some t
  | _ => none

/-- A text of one character. -/
def char? : Toml.Node → Option Char
  | .text [c] => some c
  | _ => none

/-- A list of texts. -/
def texts? : Toml.Node → Option (List Text)
  | .array items => items.mapM text?
  | _ => none

/-- A name: a text, or a table whose one member has the name and is itself empty. -/
def name? : Toml.Node → Option Text
  | .text t => some t
  | .table _ [(name, .table _ [])] => some name
  | .table _ [(name, .array [])] => some name
  | _ => none

/-- The settings with one more, read from its key and value. -/
def read? (s : Settings) (member : Text × Toml.Node) : Option Settings :=
  let (key, node) := member
  if key = "preset" then
    ((name? node).bind Preset.ofName?).map fun preset => { s with preset := preset }
  else if key = "field_quote" then (char? node).map fun c => { s with fieldQuote := some c }
  else if key = "value_quote" then (char? node).map fun c => { s with valueQuote := some c }
  else if key = "field_separator" then (char? node).map fun c => { s with separator := some c }
  else if key = "placeholder" then
    ((name? node).bind Placeholder.ofName?).map fun style => { s with placeholder := some style }
  else if key = "boolean_literals" then
    (texts? node).map fun words => { s with booleans := some words }
  else if key = "reserved_chars" then
    (text? node).map fun chars => { s with reserved := some chars }
  else none

/-- The settings in a TOML text. -/
def ofToml? (text : Text) : Option Settings := (Toml.read text).bind fun members =>
  members.foldlM read? .empty

end Settings

end BoundSql
