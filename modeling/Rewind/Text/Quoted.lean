import Rewind.Unicode.Printable

/-!
# Quoted characters and strings

A quoted text shows every character on one line. A character that shows stands for itself; the
rest are written with a backslash: five by a letter or a sign of their own, all others by their
code point in lower-case hexadecimal. The quote that encloses the text is written with a
backslash inside it, and the other quote is left alone.
-/

namespace Rewind.Text

/-- One character inside quotes of the kind `quote`. -/
def escape (quote c : Char) : String :=
  if c = '\x00' then "\\0"
  else if c = '\t' then "\\t"
  else if c = '\r' then "\\r"
  else if c = '\n' then "\\n"
  else if c = '\\' ∨ c = quote then String.ofList ['\\', c]
  else if Unicode.shows c then String.singleton c
  else "\\u\x7b" ++ String.ofList (Nat.toDigits 16 c.toNat) ++ "\x7d"

/-- A character in single quotes. -/
def quoteChar (c : Char) : String :=
  "'" ++ escape '\'' c ++ "'"

/-- A string in double quotes. -/
def quoteString (s : String) : String :=
  "\"" ++ String.join (s.toList.map (escape '"')) ++ "\""

end Rewind.Text
