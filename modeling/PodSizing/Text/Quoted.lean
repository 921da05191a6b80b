import PodSizing.Text.Hidden

/-!
# Quoted text

Texts in messages are put between double quotes.  A quote and a backslash are escaped by a
backslash, tab, carriage return, line feed and NUL have short escapes, and a character that
would not leave a mark of its own is written as its code point.
-/

namespace PodSizing.Text

/-- The code point in hexadecimal between braces. -/
def codePointEscape (c : Char) : String :=
  "\\u\x7b" ++ String.ofList (Nat.toDigits 16 c.toNat) ++ "\x7d"

/-- What stands for a character between quotes. -/
def escapeQuoted (c : Char) : String :=
  if c = '"' then "\\\""
  else if c = '\\' then "\\\\"
  else if c = '\n' then "\\n"
  else if c = '\r' then "\\r"
  else if c = '\t' then "\\t"
  else if c = '\x00' then "\\0"
  else if isShown c then c.toString
  else codePointEscape c

/-- The text between double quotes. -/
def quoted (text : String) : String :=
  "\"" ++ String.join (text.toList.map escapeQuoted) ++ "\""

end PodSizing.Text
