import PodSizing.Json.Scalar

/-!
# Texts in TOML

A basic text stands between quotes and may hold escapes; a literal one stands between apostrophes
and holds none.  Between three quotes or apostrophes a text may go over several lines.  The
readers start after the opening marks and return the text and what follows the closing ones.
-/

namespace PodSizing.Toml

/-- A character that a text, a comment or a line may hold: no control character but the tab. -/
def isTextChar (c : Char) : Bool :=
  c == '\t' || (0x20 ≤ c.toNat && c.toNat != 0x7f)

/-- The blanks within a line. -/
def isBlank (c : Char) : Bool := c == ' ' || c == '\t'

/-- The blanks between values that may stand on several lines. -/
def isLineBlank (c : Char) : Bool := isBlank c || c == '\n'

/-- The character with the given code point, unless that is a surrogate or out of range. -/
def charOfCode? (code : Nat) : Option Char :=
  if code.isValidChar then some (Char.ofNat code) else none

/-- The character that a letter after a backslash stands for. -/
def escapedChar? : Char → Option Char
  | '"' => some '"'
  | '\\' => some '\\'
  | 'b' => some '\x08'
  | 't' => some '\t'
  | 'n' => some '\n'
  | 'f' => some '\x0c'
  | 'r' => some '\r'
  | _ => none

/-- The character of an escape and what follows it, the backslash taken off. -/
def escape? : List Char → Option (Char × List Char)
  | 'u' :: a :: b :: c :: d :: rest => do
      some (← charOfCode? (← Json.hexFour? a b c d), rest)
  | 'U' :: a :: b :: c :: d :: a' :: b' :: c' :: d' :: rest => do
      let high ← Json.hexFour? a b c d
      let low ← Json.hexFour? a' b' c' d'
      some (← charOfCode? (high * 0x10000 + low), rest)
  | letter :: rest => (escapedChar? letter).map (·, rest)
  | [] => none

/-- What a reader of text is in the middle of. -/
inductive TextState where
  | plain
  /-- Inside an escape, so many characters before its end. -/
  | escaped (remaining : Nat)
  /-- After a backslash at the end of a line, which removes the blanks that follow. -/
  | joined

/-- The end of a text between three marks, if it is here: up to two more marks may stand directly
before the three, and they belong to the text. -/
def closing (mark : Char) (text : List Char) : Option (List Char × List Char) :=
  let marks := (text.takeWhile (· == mark)).length
  if marks < 3 then none
  else
    let kept := min (marks - 3) 2
    some (List.replicate kept mark, text.drop (kept + 3))

/-- A basic text of one line. -/
def basic? (state : TextState) : List Char → Option (List Char × List Char)
  | [] => none
  | c :: rest =>
      match state with
      | .escaped (remaining + 1) => basic? (.escaped remaining) rest
      | _ =>
          if c = '"' then some ([], rest)
          else if c = '\\' then do
            let (escaped, after) ← escape? rest
            let (text, remainder) ← basic? (.escaped (rest.length - after.length)) rest
            some (escaped :: text, remainder)
          else if isTextChar c then do
            let (text, remainder) ← basic? .plain rest
            some (c :: text, remainder)
          else none

/-- A basic text of several lines. -/
def basicLines? (state : TextState) : List Char → Option (List Char × List Char)
  | [] => none
  | c :: rest =>
      match state, isLineBlank c with
      | .escaped (remaining + 1), _ => basicLines? (.escaped remaining) rest
      | .joined, true => basicLines? .joined rest
      | _, _ =>
          match closing '"' (c :: rest) with
          | some found => some found
          | none =>
              if c = '\\' then
                if (rest.dropWhile isBlank).head? = some '\n' then basicLines? .joined rest
                else do
                  let (escaped, after) ← escape? rest
                  let (text, remainder) ← basicLines? (.escaped (rest.length - after.length)) rest
                  some (escaped :: text, remainder)
              else if isTextChar c ∨ c = '\n' then do
                let (text, remainder) ← basicLines? .plain rest
                some (c :: text, remainder)
              else none

/-- A literal text of one line. -/
def literal? (text : List Char) : Option (List Char × List Char) :=
  match text.dropWhile (fun c => c != '\'' && isTextChar c) with
  | '\'' :: rest => some (text.takeWhile (fun c => c != '\'' && isTextChar c), rest)
  | _ => none

/-- A literal text of several lines. -/
def literalLines? : List Char → Option (List Char × List Char)
  | [] => none
  | c :: rest =>
      match closing '\'' (c :: rest) with
      | some found => some found
      | none =>
          if isTextChar c ∨ c = '\n' then do
            let (text, remainder) ← literalLines? rest
            some (c :: text, remainder)
          else none

/-- A line break directly after three opening marks is not part of the text. -/
def afterFirstBreak : List Char → List Char
  | '\n' :: rest => rest
  | text => text

/-- The text at the front, with its marks. -/
def text? (text : List Char) : Option (String × List Char) :=
  let found := match text with
    | '"' :: '"' :: '"' :: rest => basicLines? .plain (afterFirstBreak rest)
    | '"' :: rest => basic? .plain rest
    | '\'' :: '\'' :: '\'' :: rest => literalLines? (afterFirstBreak rest)
    | '\'' :: rest => literal? rest
    | _ => none
  found.map fun (text, rest) => (String.ofList text, rest)

example : text? "\"a\\u0062\\n\" x".toList = some ("ab\n", [' ', 'x']) := by decide +kernel
example : text? "\"\"\"\na\\\n   b\"\"\"\"".toList = some ("ab\"", []) := by decide +kernel
example : text? "'''it''s''''".toList = some ("it''s'", []) := by decide +kernel

end PodSizing.Toml
