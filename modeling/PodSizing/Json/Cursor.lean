/-!
# Places in JSON text

A reader of JSON text says where it gave up: the line, and how many bytes of it had been read.
`Scan` is a step of such a reader, which moves a `Cursor` over the text or stops at a `Fault`.
A fault of a value that has been read to its end gets its place from the value around it, by
`Scan.placed`.
-/

namespace PodSizing.Json

/-- A place between two characters of a text. -/
structure Place where
  /-- The line, counted from one. -/
  line : Nat
  /-- The bytes of the line before the place. -/
  column : Nat
  deriving DecidableEq

namespace Place

/-- The start of a text. -/
def start : Place := ⟨1, 0⟩

/-- The place so many bytes further on a line, or at the start of the next one. -/
def move (place : Place) (c : Char) (bytes : Nat) : Place :=
  if c = '\n' then ⟨place.line + 1, 0⟩ else ⟨place.line, place.column + bytes⟩

/-- The place after a character. -/
def after (place : Place) (c : Char) : Place := place.move c c.utf8Size

/-- The place after the first byte of a character. -/
def afterByte (place : Place) (c : Char) : Place := place.move c 1

/-- The place so many bytes further in a text, which may lie within a character. -/
def afterBytes (place : Place) : Nat → List Char → Place
  | 0, _ | _, [] => place
  | bytes, c :: rest =>
      (place.move c (min bytes c.utf8Size)).afterBytes (bytes - c.utf8Size) rest

/-- The place at the end of a text. -/
def atEnd (place : Place) (text : List Char) : Place := text.foldl after place

end Place

/-- What is wrong with a JSON text, or with a value in it. -/
inductive Flaw where
  | unclosedList
  | unclosedObject
  | unclosedText
  /-- The text ends where a value has to stand. -/
  | missingValue
  | expectedColon
  | expectedListEnd
  | expectedObjectEnd
  | misspelledWord
  | expectedValue
  | invalidEscape
  | invalidNumber
  | numberTooLarge
  | controlCharacter
  | keyNotText
  /-- The second half of a surrogate pair without the first, or the first without the second. -/
  | loneSurrogate
  /-- No escape follows the first half of a surrogate pair. -/
  | brokenSurrogate
  | trailingComma
  | trailingText
  | tooDeep
  /-- A value of another type than the expected one. -/
  | wrongType (found expected : String)
  /-- A value of the expected type that is not allowed. -/
  | wrongValue (found expected : String)
  | wrongLength (length : Nat) (expected : String)
  | missingField (name : String)
  | repeatedField (name : String)
  /-- A text that does not have the form it should have, with the reason. -/
  | malformed (reason : String)
  deriving DecidableEq

/-- The flaw in words. -/
def Flaw.message : Flaw → String
  | .unclosedList => "EOF while parsing a list"
  | .unclosedObject => "EOF while parsing an object"
  | .unclosedText => "EOF while parsing a string"
  | .missingValue => "EOF while parsing a value"
  | .expectedColon => "expected `:`"
  | .expectedListEnd => "expected `,` or `]`"
  | .expectedObjectEnd => "expected `,` or `\x7d`"
  | .misspelledWord => "expected ident"
  | .expectedValue => "expected value"
  | .invalidEscape => "invalid escape"
  | .invalidNumber => "invalid number"
  | .numberTooLarge => "number out of range"
  | .controlCharacter => "control character (\\u0000-\\u001F) found while parsing a string"
  | .keyNotText => "key must be a string"
  | .loneSurrogate => "lone leading surrogate in hex escape"
  | .brokenSurrogate => "unexpected end of hex escape"
  | .trailingComma => "trailing comma"
  | .trailingText => "trailing characters"
  | .tooDeep => "recursion limit exceeded"
  | .wrongType found expected => "invalid type: " ++ found ++ ", expected " ++ expected
  | .wrongValue found expected => "invalid value: " ++ found ++ ", expected " ++ expected
  | .wrongLength length expected =>
      "invalid length " ++ toString length ++ ", expected " ++ expected
  | .missingField name => "missing field `" ++ name ++ "`"
  | .repeatedField name => "duplicate field `" ++ name ++ "`"
  | .malformed reason => reason

/-- A flaw and where it was found, unless that is still to be said. -/
structure Fault where
  flaw : Flaw
  place : Option Place
  deriving DecidableEq

/-- What is wrong, and where. -/
def Fault.message (fault : Fault) : String :=
  match fault.place with
  | none => fault.flaw.message
  | some place =>
      fault.flaw.message ++ " at line " ++ toString place.line ++ " column " ++
        toString place.column

/-- A text that has been read up to a place. -/
structure Cursor where
  rest : List Char
  place : Place

/-- A step of a reader. -/
abbrev Scan := ExceptT Fault (StateM Cursor)

namespace Scan

/-- Stops with a flaw whose place is still to be said. -/
def raise {α : Type} (flaw : Flaw) : Scan α := throw ⟨flaw, none⟩

/-- Stops with a flaw at the place that has been reached. -/
def failHere {α : Type} (flaw : Flaw) : Scan α := do
  throw ⟨flaw, some (← get).place⟩

/-- Stops with a flaw of the next character, and so after its first byte. -/
def failNext {α : Type} (flaw : Flaw) : Scan α := do
  let cursor ← get
  match cursor.rest with
  | [] => throw ⟨flaw, some cursor.place⟩
  | c :: _ => throw ⟨flaw, some (cursor.place.afterByte c)⟩

/-- A step that is given as a function of the text and the place; what it returns as its place
is also the place of its flaw. -/
def ofFunction {α : Type} (step : List Char → Place → Except Flaw α × Cursor) : Scan α := do
  let cursor ← get
  let (result, reached) := step cursor.rest cursor.place
  set reached
  match result with
  | .ok value => pure value
  | .error flaw => failHere flaw

/-- A step whose flaw lies where it has got to, unless its place has been said. -/
def placed {α : Type} (scan : Scan α) : Scan α := fun cursor =>
  match scan cursor with
  | (.error ⟨flaw, none⟩, reached) => (.error ⟨flaw, some reached.place⟩, reached)
  | result => result

/-- A step and then its ending, which is also tried where the step has failed.  The fault of the
step counts more than that of the ending. -/
def ended {α : Type} (scan : Scan α) (ending : Scan Unit) : Scan α := fun cursor =>
  match scan cursor with
  | (.error fault, reached) => (.error fault, (ending reached).2)
  | (.ok value, reached) =>
      match ending reached with
      | (.ok _, reached) => (.ok value, reached)
      | (.error fault, reached) => (.error fault, reached)

/-- The character is a blank of JSON. -/
def isSpace (c : Char) : Bool :=
  c == ' ' || c == '\t' || c == '\n' || c == '\r'

/-- A text and its place without the blanks in front. -/
def skipSpaces : List Char → Place → Cursor
  | [], place => ⟨[], place⟩
  | c :: rest, place => if isSpace c then skipSpaces rest (place.after c) else ⟨c :: rest, place⟩

/-- The next character that is no blank. -/
def peek : Scan (Option Char) := do
  let cursor ← get
  let reached := skipSpaces cursor.rest cursor.place
  set reached
  pure reached.rest.head?

/-- Passes over one character. -/
def drop : Scan Unit := modify fun cursor =>
  match cursor.rest with
  | [] => cursor
  | c :: rest => ⟨rest, cursor.place.after c⟩

end Scan

end PodSizing.Json
