/-!
# Blank characters and trimming

A character is *blank* when it has the Unicode property `White_Space`.  This is the one notion of
blankness of the library: it separates words on a command line, it decides whether a line is worth
recording, and it is what trimming removes.

The three functions on character lists, `trimLeft`, `trimRight` and `trim`, are the forms that
proofs use; `trimText` is `trim` on strings.
-/

namespace PipeShell.Text

/-- The Unicode property `White_Space`: twenty-five characters, six of them in ASCII. -/
def isBlank (c : Char) : Bool :=
  c == ' ' || ('\t' ≤ c && c ≤ '\r') || c == '\u0085' || c == '\u00a0' || c == '\u1680'
    || ('\u2000' ≤ c && c ≤ '\u200a') || c == '\u2028' || c == '\u2029' || c == '\u202f'
    || c == '\u205f' || c == '\u3000'

/-- Every character that core's ASCII test calls white space is blank. -/
theorem isBlank_of_isWhitespace {c : Char} (h : c.isWhitespace = true) : isBlank c = true := by
  simp only [Char.isWhitespace, Bool.or_eq_true, decide_eq_true_eq] at h
  rcases h with ((rfl | rfl) | rfl) | rfl <;> decide

/-- The characters from the first one that is not blank. -/
def trimLeft (cs : List Char) : List Char :=
  cs.dropWhile isBlank

/-- The characters up to the last one that is not blank. -/
def trimRight (cs : List Char) : List Char :=
  (cs.reverse.dropWhile isBlank).reverse

/-- The characters without the blanks at either end. -/
def trim (cs : List Char) : List Char :=
  trimRight (trimLeft cs)

/-- The text without the blanks at either end. -/
def trimText (s : String) : String :=
  String.ofList (trim s.toList)

/-- The text holds nothing but blanks. -/
def isAllBlank (s : String) : Bool :=
  s.toList.all isBlank

end PipeShell.Text
