import BoundSql.Number.Bytes
import BoundSql.Toml.Document

/-!
# Reading TOML

Reads a TOML document that consists of strings, arrays and tables. Numbers, dates,
truth values and arrays of tables have no place in such a document, and a document
that holds one is refused. Outside brackets and braces a key and its value stand on
one line; within them comments and line ends may stand between any two parts, the
points of a dotted key aside. Every reader takes the text in front of it and gives
back what it has read and the text that is left, and its fuel bounds the steps by
the length of the document.
-/

set_option autoImplicit false

namespace BoundSql.Toml

/-- Whether a character may not stand in a document by itself; a tab may. -/
def isControl (c : Char) : Bool := (c.toNat < 0x20 && c != '\t') || c.toNat == 0x7F

/-- The text behind spaces and tabs. -/
def skipSpace (text : Text) : Text := text.dropWhile fun c => c == ' ' || c == '\t'

/-- The text behind a line end. -/
def newline? : Text → Option Text
  | '\n' :: rest => some rest
  | '\r' :: '\n' :: rest => some rest
  | _ => none

/-- The text behind spaces, comments and line ends. -/
def skipLines (inComment : Bool) : Text → Option Text
  | [] => some []
  | '\n' :: rest => skipLines false rest
  | '\r' :: '\n' :: rest => skipLines false rest
  | c :: rest =>
    if inComment then if isControl c then none else skipLines true rest
    else if c == ' ' || c == '\t' then skipLines false rest
    else if c == '#' then skipLines true rest
    else some (c :: rest)

/-- The text behind a comment, its line end not included. -/
def skipComment : Text → Option Text
  | [] => some []
  | '\n' :: rest => some ('\n' :: rest)
  | '\r' :: '\n' :: rest => some ('\r' :: '\n' :: rest)
  | c :: rest => if isControl c then none else skipComment rest

/-- The text behind the rest of a line, which may hold a comment only. -/
def endLine? (text : Text) : Option Text :=
  match skipSpace text with
  | [] => some []
  | '#' :: rest => skipComment rest
  | rest => newline? rest

/-- The text behind blanks and line ends, where a line is continued. -/
def skipBlankLines : Text → Text
  | ' ' :: rest => skipBlankLines rest
  | '\t' :: rest => skipBlankLines rest
  | '\n' :: rest => skipBlankLines rest
  | '\r' :: '\n' :: rest => skipBlankLines rest
  | text => text

/-! ## Strings -/

/-- The character with a code point in `count` hexadecimal digits. -/
def scalar? (count : Nat) (text : Text) : Option (Char × Text) :=
  if (text.take count).length = count then
    match Text.hexValue? (text.take count) with
    | some code =>
      if Nat.isValidChar code then some (Char.ofNat code, text.drop count) else none
    | none => none
  else none

/-- The character for which an escape stands, read behind its backslash. -/
def escape? : Text → Option (Char × Text)
  | 'b' :: rest => some ('\x08', rest)
  | 't' :: rest => some ('\t', rest)
  | 'n' :: rest => some ('\n', rest)
  | 'f' :: rest => some ('\x0c', rest)
  | 'r' :: rest => some ('\r', rest)
  | 'e' :: rest => some ('\x1b', rest)
  | '"' :: rest => some ('"', rest)
  | '\\' :: rest => some ('\\', rest)
  | 'x' :: rest => scalar? 2 rest
  | 'u' :: rest => scalar? 4 rest
  | 'U' :: rest => scalar? 8 rest
  | _ => none

/-- A character in front of what is read behind it. -/
def prepend (c : Char) (read : Option (Text × Text)) : Option (Text × Text) :=
  read.map fun (text, rest) => (c :: text, rest)

/-- A string in double quotes, read behind the first one. -/
def readBasic : Nat → Text → Option (Text × Text)
  | 0, _ => none
  | _, [] => none
  | _ + 1, '"' :: rest => some ([], rest)
  | fuel + 1, '\\' :: rest => do
    let (c, rest) ← escape? rest
    prepend c (readBasic fuel rest)
  | fuel + 1, c :: rest => if isControl c then none else prepend c (readBasic fuel rest)

/-- A string in single quotes, read behind the first one. -/
def readLiteral : Text → Option (Text × Text)
  | [] => none
  | '\'' :: rest => some ([], rest)
  | c :: rest => if isControl c then none else prepend c (readLiteral rest)

/-- A string over several lines in three double quotes, read behind them. Up to two
quotes in front of the closing three belong to the string. -/
def readBasicLines : Nat → Text → Option (Text × Text)
  | 0, _ => none
  | _, [] => none
  | _ + 1, '"' :: '"' :: '"' :: '"' :: '"' :: rest => some ("\"\"", rest)
  | _ + 1, '"' :: '"' :: '"' :: '"' :: rest => some ("\"", rest)
  | _ + 1, '"' :: '"' :: '"' :: rest => some ([], rest)
  | fuel + 1, '\\' :: rest =>
    match newline? (skipSpace rest) with
    | some later => readBasicLines fuel (skipBlankLines later)
    | none => do
      let (c, rest) ← escape? rest
      prepend c (readBasicLines fuel rest)
  | fuel + 1, '\r' :: '\n' :: rest => prepend '\r' (prepend '\n' (readBasicLines fuel rest))
  | fuel + 1, c :: rest =>
    if isControl c && c != '\n' then none else prepend c (readBasicLines fuel rest)

/-- A string over several lines in three single quotes, read behind them. Up to two
quotes in front of the closing three belong to the string. -/
def readLiteralLines : Text → Option (Text × Text)
  | [] => none
  | '\'' :: '\'' :: '\'' :: '\'' :: '\'' :: rest => some ("''", rest)
  | '\'' :: '\'' :: '\'' :: '\'' :: rest => some ("'", rest)
  | '\'' :: '\'' :: '\'' :: rest => some ([], rest)
  | '\r' :: '\n' :: rest => prepend '\r' (prepend '\n' (readLiteralLines rest))
  | c :: rest => if isControl c && c != '\n' then none else prepend c (readLiteralLines rest)

/-- The text without a line end at its start. -/
def dropNewline (text : Text) : Text := (newline? text).getD text

/-! ## Keys and values -/

/-- Whether a character may stand in a key without quotes. -/
def isBareKey (c : Char) : Bool := c.isAlphanum || c == '_' || c == '-'

/-- One part of a key. -/
def readKeyPart (fuel : Nat) : Text → Option (Text × Text)
  | '"' :: rest => readBasic fuel rest
  | '\'' :: rest => readLiteral rest
  | text =>
    if (text.takeWhile isBareKey).isEmpty then none
    else some (text.takeWhile isBareKey, text.dropWhile isBareKey)

/-- A key, its parts separated by points. -/
def readKey : Nat → Text → Option (List Text × Text)
  | 0, _ => none
  | fuel + 1, text => do
    let (part, rest) ← readKeyPart (fuel + 1) text
    match skipSpace rest with
    | '.' :: rest =>
      let (parts, rest) ← readKey fuel (skipSpace rest)
      return (part :: parts, rest)
    | rest => return ([part], rest)

/-- The text behind an equals sign and the blanks around it, all on one line. -/
def skipEquals (text : Text) : Option Text :=
  match skipSpace text with
  | '=' :: rest => some (skipSpace rest)
  | _ => none

/-- The text behind an equals sign within braces, where comments and line ends may
stand around it. -/
def skipBracedEquals (text : Text) : Option Text := do
  match ← skipLines false text with
  | '=' :: rest => skipLines false rest
  | _ => none

mutual

/-- A value: a string, an array or a table in braces. -/
def readValue : Nat → Text → Option (Node × Text)
  | 0, _ => none
  | fuel + 1, '"' :: '"' :: '"' :: rest =>
    (readBasicLines fuel (dropNewline rest)).map fun (text, rest) => (.text text, rest)
  | fuel + 1, '"' :: rest => (readBasic fuel rest).map fun (text, rest) => (.text text, rest)
  | _ + 1, '\'' :: '\'' :: '\'' :: rest =>
    (readLiteralLines (dropNewline rest)).map fun (text, rest) => (.text text, rest)
  | _ + 1, '\'' :: rest => (readLiteral rest).map fun (text, rest) => (.text text, rest)
  | fuel + 1, '[' :: rest => (readItems fuel rest).map fun (items, rest) => (.array items, rest)
  | fuel + 1, '\x7b' :: rest =>
    (readMembers fuel [] rest).map fun (members, rest) => (.table .braced members, rest)
  | _, _ => none

/-- The items of an array, read behind its bracket or a comma. -/
def readItems : Nat → Text → Option (List Node × Text)
  | 0, _ => none
  | fuel + 1, text => do
    match ← skipLines false text with
    | ']' :: rest => return ([], rest)
    | text =>
      let (item, rest) ← readValue fuel text
      match ← skipLines false rest with
      | ']' :: rest => return ([item], rest)
      | ',' :: rest =>
        let (items, rest) ← readItems fuel rest
        return (item :: items, rest)
      | _ => none

/-- The members of a table in braces, read behind its brace or a comma. -/
def readMembers : Nat → Members → Text → Option (Members × Text)
  | 0, _, _ => none
  | fuel + 1, members, text => do
    match ← skipLines false text with
    | '\x7d' :: rest => return (members, rest)
    | text =>
      let (key, rest) ← readKey fuel text
      let (node, rest) ← readValue fuel (← skipBracedEquals rest)
      let members ← members.assign node key
      match ← skipLines false rest with
      | '\x7d' :: rest => return (members, rest)
      | ',' :: rest => readMembers fuel members rest
      | _ => none

end

/-! ## Documents -/

/-- The members of a document behind those read so far, where `path` is the table
that the last header has opened. -/
def readRest : Nat → List Text → Members → Text → Option Members
  | 0, _, _, _ => none
  | fuel + 1, path, members, text => do
    match ← skipLines false text with
    | [] => return members
    | '[' :: rest =>
      let (path, rest) ← readKey (fuel + 1) (skipSpace rest)
      match skipSpace rest with
      | ']' :: rest => readRest fuel path (← members.openTable path) (← endLine? rest)
      | _ => none
    | text =>
      let (key, rest) ← readKey (fuel + 1) text
      let (node, rest) ← readValue (fuel + 1) (← skipEquals rest)
      readRest fuel path (← members.assignWithin node key path) (← endLine? rest)

/-- The members of a document; a byte order mark in front of it does not count. -/
def read (text : Text) : Option Members :=
  let body := if text.head? = some '\uFEFF' then text.tail else text
  readRest (2 * body.length + 2) [] [] body

end BoundSql.Toml
