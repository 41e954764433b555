/-!
# Variable names

A variable name is a letter or an underscore followed by letters, digits and underscores, all of
them ASCII.  `Reference.read?` finds the name that a dollar sign refers to: either the longest run
of name characters right after it, or a valid name between braces.
-/

namespace PipeShell

/-- A character that can begin a variable name. -/
def isNameStart (c : Char) : Bool :=
  c.isAlpha || c == '_'

/-- A character that can stand inside a variable name. -/
def isNameChar (c : Char) : Bool :=
  c.isAlphanum || c == '_'

/-- The characters form a variable name. -/
def isNameChars : List Char → Bool
  | [] => false
  | c :: cs => isNameStart c && cs.all isNameChar

/-- The text is a variable name. -/
def isValidName (name : String) : Bool :=
  isNameChars name.toList

/-- A character that can begin a name can stand anywhere in one. -/
theorem isNameChar_of_isNameStart {c : Char} (h : isNameStart c = true) : isNameChar c = true := by
  simp only [isNameStart, isNameChar, Char.isAlphanum, Bool.or_eq_true] at *
  rcases h with h | h <;> simp [h]

/-- A reference to a variable: the name and the number of characters, after the dollar sign, that
the reference is written with. -/
structure Reference where
  name : List Char
  width : Nat
deriving Repr, DecidableEq

/-- The reference that follows a dollar sign, if there is one.  An open brace that is never closed,
or that holds anything but a valid name, makes no reference. -/
def Reference.read? : List Char → Option Reference
  | [] => none
  | '\x7b' :: cs =>
    let name := cs.takeWhile (· ≠ '\x7d')
    if name.length < cs.length && isNameChars name then some ⟨name, name.length + 2⟩ else none
  | c :: cs =>
    if isNameStart c then
      let name := c :: cs.takeWhile isNameChar
      some ⟨name, name.length⟩
    else none

end PipeShell
