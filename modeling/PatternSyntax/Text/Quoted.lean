/-!
# Quoted text

A string is written between two single or two double quotes. Between single
quotes every character stands for itself. Between double quotes a backslash
before a double quote or before another backslash is left out; before any other
character it stands for itself.
-/

namespace PatternSyntax.Text.Quoted

/-- The text without its first and its last character. -/
def inner (text : List Char) : List Char :=
  text.tail.dropLast

/-- Resolve the two escapes of a double-quoted string. -/
def unescape : List Char → List Char
  | '\\' :: '"' :: rest => '"' :: unescape rest
  | '\\' :: '\\' :: rest => '\\' :: unescape rest
  | c :: rest => c :: unescape rest
  | [] => []

/-- The text that a quoted string stands for, told by its opening quote. -/
def decode (text : List Char) : List Char :=
  if text.head? = some '"' then unescape (inner text) else inner text

@[simp]
theorem inner_quoted (opening closing : Char) (text : List Char) :
    inner (opening :: (text ++ [closing])) = text := by
  simp [inner]

theorem decode_single_quoted (text : List Char) : decode ('\'' :: (text ++ ['\''])) = text := by
  simp [decode]

theorem decode_double_quoted (text : List Char) :
    decode ('"' :: (text ++ ['"'])) = unescape text := by
  simp [decode]

end PatternSyntax.Text.Quoted
