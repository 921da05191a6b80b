import PodSizing.Toml.Scalar
import PodSizing.Toml.Table
import PodSizing.Toml.Text

/-!
# Reading TOML text

A document is a sequence of lines: headers of tables, and keys with values, which go into the
table of the last header.  Arrays may go over several lines.  Arrays and inline tables are nested
less than 80 deep, and less than 80 keys stand between points.  The readers of values and of lines
take a number of steps that is given by the length of the text, of which each step uses up at
least one character or opens or ends an array or an inline table.
-/

namespace PodSizing.Toml

/-! ### Blanks, comments and line ends -/

/-- Without the blanks at the front; the line does not end. -/
def skipBlank (text : List Char) : List Char := text.dropWhile isBlank

/-- Skips a comment, if one starts here. -/
def skipComment (text : List Char) : List Char :=
  match text with
  | '#' :: rest => rest.dropWhile isTextChar
  | _ => text

/-- Skips blanks, comments and line ends; in a comment everything up to the line's end. -/
def skipLines (inComment : Bool) : List Char → List Char
  | [] => []
  | c :: rest =>
      if inComment then
        if c = '\n' then skipLines false rest
        else if isTextChar c then skipLines true rest
        else c :: rest
      else if isLineBlank c then skipLines false rest
      else if c = '#' then skipLines true rest
      else c :: rest

/-- What follows the end of a line, which may have a comment. -/
def endOfLine? (text : List Char) : Option (List Char) :=
  match skipComment (skipBlank text) with
  | [] => some []
  | '\n' :: rest => some rest
  | _ => none

/-- A line break of two characters counts as one of a single character. -/
def unifyBreaks : List Char → List Char
  | '\r' :: '\n' :: rest => '\n' :: unifyBreaks rest
  | c :: rest => c :: unifyBreaks rest
  | [] => []

/-! ### Keys -/

/-- The characters of keys without quotes. -/
def isBareChar (c : Char) : Bool :=
  c.isAlphanum || c == '_' || c == '-'

/-- A key without quotes or in quotes of one line. -/
def key? (text : List Char) : Option (String × List Char) :=
  match text with
  | '"' :: rest => (basic? .plain rest).map fun (key, rest) => (String.ofList key, rest)
  | '\'' :: rest => (literal? rest).map fun (key, rest) => (String.ofList key, rest)
  | _ =>
      let key := text.takeWhile isBareChar
      if key.isEmpty then none else some (String.ofList key, text.dropWhile isBareChar)

/-- How deep arrays and inline tables may be nested, and how many keys may stand between points. -/
def maxDepth : Nat := 79

/-- At most so many keys with points between them. -/
def keysUpTo? : Nat → List Char → Option (List String × List Char)
  | 0, _ => none
  | count + 1, text => do
      let (key, rest) ← key? text
      match skipBlank rest with
      | '.' :: rest => do
          let (keys, rest) ← keysUpTo? count (skipBlank rest)
          some (key :: keys, rest)
      | rest => some ([key], rest)

/-- Keys with points between them. -/
def keys? (text : List Char) : Option (List String × List Char) := keysUpTo? maxDepth text

/-! ### Values -/

mutual

/-- The value at the front, in which so many arrays and inline tables may be open at a time. -/
def value? (depth : Nat) : Nat → List Char → Option (Json × List Char)
  | 0, _ => none
  | steps + 1, text =>
      match text, depth with
      | '[' :: rest, depth + 1 => items? depth steps [] (skipLines false rest)
      | '\x7b' :: rest, depth + 1 =>
          match skipBlank rest with
          | '\x7d' :: rest => some (.object [], rest)
          | rest => pairs? depth steps [] rest
      | '[' :: _, 0 | '\x7b' :: _, 0 => none
      | '"' :: _, _ | '\'' :: _, _ => (text? text).map fun (text, rest) => (.string text, rest)
      | _, _ => scalar? text

/-- The items of an array from the next one on, given those before it in reverse. -/
def items? (depth : Nat) : Nat → List Json → List Char → Option (Json × List Char)
  | 0, _, _ => none
  | steps + 1, reversed, text =>
      match text with
      | ']' :: rest => some (.array reversed.reverse, rest)
      | _ => do
          let (item, rest) ← value? depth steps text
          match skipLines false rest with
          | ',' :: rest => items? depth steps (item :: reversed) (skipLines false rest)
          | ']' :: rest => some (.array (item :: reversed).reverse, rest)
          | _ => none

/-- The pairs of an inline table from the next one on, given those before it. -/
def pairs? (depth : Nat) : Nat → Fields → List Char → Option (Json × List Char)
  | 0, _, _ => none
  | steps + 1, fields, text => do
      let (keys, rest) ← keys? text
      match rest with
      | '=' :: rest => do
          let (value, rest) ← value? depth steps (skipBlank rest)
          let fields ← insert? value true keys fields
          match skipBlank rest with
          | ',' :: rest => pairs? depth steps fields (skipBlank rest)
          | '\x7d' :: rest => some (.ofFields (jsonFields fields), rest)
          | _ => none
      | _ => none

end

/-! ### Documents -/

/-- A document that is being read. -/
structure Document where
  root : Fields
  /-- The keys that lead to the table of the last header. -/
  current : List String

/-- Reads a header after its opening brackets. -/
def Document.header? (document : Document) (ofArray : Bool) (text : List Char) :
    Option (Document × List Char) := do
  let (keys, rest) ← keys? (skipBlank text)
  let rest ← match ofArray, rest with
    | true, ']' :: ']' :: rest => some rest
    | false, ']' :: rest => some rest
    | _, _ => none
  let (last, before) ← match keys.reverse with
    | last :: before => some (last, before.reverse)
    | [] => none
  let root ← changeAt? (if ofArray then openItem? last else openTable? last) before document.root
  some (⟨root, keys⟩, rest)

/-- Reads keys and a value. -/
def Document.assignment? (document : Document) (text : List Char) :
    Option (Document × List Char) := do
  let (keys, rest) ← keys? text
  match rest with
  | '=' :: rest => do
      let (value, rest) ← value? maxDepth (2 * rest.length) (skipBlank rest)
      let root ← changeAt? (insert? value true keys) document.current document.root
      some ({ document with root }, rest)
  | _ => none

/-- Reads the lines of a document. -/
def Document.lines? : Nat → Document → List Char → Option Document
  | 0, _, _ => none
  | steps + 1, document, text =>
      match skipLines false text with
      | [] => some document
      | text => do
          let (document, rest) ← match text with
            | '[' :: '[' :: rest => document.header? true rest
            | '[' :: rest => document.header? false rest
            | _ => document.assignment? text
          lines? steps document (← endOfLine? rest)

/-- A text without the mark that says how its bytes are ordered. -/
def withoutOrderMark : List Char → List Char
  | '\ufeff' :: rest => rest
  | text => text

/-- The table that a text stands for. -/
def ofText? (text : String) : Option Json := do
  let chars := unifyBreaks (withoutOrderMark text.toList)
  let document ← Document.lines? (chars.length + 1) ⟨[], []⟩ chars
  some (.ofFields (jsonFields document.root))

end PodSizing.Toml
