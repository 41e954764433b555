/-!
# One history entry on one line

An entry can span several lines of text, but in a file it takes exactly one: a backslash is written
twice and a newline as `\n`.  Reading is lenient, so that a file written by hand is understood as
well: a backslash before any other character stands for that character, and one at the end of the
line for itself.
-/

namespace PipeShell.History

/-- The entry as a line of a file. -/
def escape : List Char → List Char
  | [] => []
  | c :: cs =>
    if c = '\\' then '\\' :: '\\' :: escape cs
    else if c = '\n' then '\\' :: 'n' :: escape cs
    else c :: escape cs

/-- The character that a backslash and the character `c` stand for. -/
def escapedChar (c : Char) : Char :=
  if c = 'n' then '\n' else c

/-- The entry that a line of a file stands for. -/
def unescape : List Char → List Char
  | [] => []
  | ['\\'] => ['\\']
  | '\\' :: c :: cs => escapedChar c :: unescape cs
  | c :: cs => c :: unescape cs

/-- Reading gives back the entry that was written. -/
theorem unescape_escape (cs : List Char) : unescape (escape cs) = cs := by
  induction cs with
  | nil => rfl
  | cons c cs ih =>
    rw [escape]
    split
    · next h => simp [unescape, escapedChar, ih, h]
    · next h =>
      split
      · next hn => simp [unescape, escapedChar, ih, hn]
      · rw [unescape]
        · rw [ih]
        · intro hc _; exact h hc
        · intro _ _ hc _; exact h hc

/-- A written entry takes one line. -/
theorem newline_not_mem_escape (cs : List Char) : '\n' ∉ escape cs := by
  induction cs with
  | nil => simp [escape]
  | cons c cs ih =>
    rw [escape]
    split
    · simp [ih]
    · next h =>
      split
      · simp [ih]
      · next hn => simp [ih, Ne.symm hn]

/-- The entry as text for a file, with its line ending. -/
def escapeLine (entry : String) : String :=
  String.ofList (escape entry.toList) ++ "\n"

/-- The entry of a line of a file. -/
def unescapeLine (line : String) : String :=
  String.ofList (unescape line.toList)

end PipeShell.History
