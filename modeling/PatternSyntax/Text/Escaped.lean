/-!
# Escaped display of a text

For display, a text is put between double quotes, and the characters that would
be misread there are written as escapes. Control characters of ASCII without an
escape of their own are written by their code in hexadecimal.
-/

namespace PatternSyntax.Text

/-- How one character is displayed between double quotes. -/
def escapedChar (c : Char) : String :=
  if c = '\\' then "\\\\"
  else if c = '"' then "\\\""
  else if c = '\n' then "\\n"
  else if c = '\r' then "\\r"
  else if c = '\t' then "\\t"
  else if c = '\x00' then "\\0"
  else if c.toNat < 0x20 || c.toNat = 0x7F then
    "\\u\x7b" ++ String.ofList (Nat.toDigits 16 c.toNat) ++ "\x7d"
  else c.toString

/-- The text between double quotes, with escapes. -/
def escaped (text : List Char) : String :=
  "\"" ++ String.join (text.map escapedChar) ++ "\""

end PatternSyntax.Text
