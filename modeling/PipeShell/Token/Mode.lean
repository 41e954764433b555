import PipeShell.Text.Blank

/-!
# Quoting modes

How a character of a command line is read depends on whether it stands in quotes or after a
backslash.  `Mode.step` is the whole table: the mode after a character, and what the character
does.  Folding it over a line (`Mode.after`) says in which mode the line ends, and `Mode.trace`
lists every step on the way.
-/

namespace PipeShell

/-- Where reading goes on after an escaped character. -/
inductive Resume where
  | plain
  | doubleQuote
deriving Repr, DecidableEq

/-- The way the next character of a line is read. -/
inductive Mode where
  | plain
  | singleQuote
  | doubleQuote
  | escape (back : Resume)
deriving Repr, DecidableEq

/-- What a character of a line does. -/
inductive Action where
  /-- It belongs to the current word. -/
  | push (c : Char)
  /-- It belongs to the current word, and a backslash took its meaning away. -/
  | escaped (c : Char)
  | openQuote
  | closeQuote
  /-- It ends the current word. -/
  | gap
  /-- It is an operator, or the first character of one. -/
  | operator (c : Char)
  /-- It is a dollar sign that may begin a reference to a variable. -/
  | variable
  /-- It is a backslash, which only changes the mode. -/
  | skip
deriving Repr, DecidableEq

/-- The mode that an escape goes back to. -/
def Resume.mode : Resume → Mode
  | plain => .plain
  | doubleQuote => .doubleQuote

namespace Mode

/-- A character outside quotes. -/
def stepPlain (c : Char) : Mode × Action :=
  if c = '\'' then (singleQuote, .openQuote)
  else if c = '"' then (doubleQuote, .openQuote)
  else if c = '\\' then (escape .plain, .skip)
  else if c = '|' || c = '>' then (plain, .operator c)
  else if c = '$' then (plain, .variable)
  else if Text.isBlank c then (plain, .gap)
  else (plain, .push c)

/-- A character between single quotes, where only the closing quote is special. -/
def stepSingle (c : Char) : Mode × Action :=
  if c = '\'' then (plain, .closeQuote) else (singleQuote, .push c)

/-- A character between double quotes, where backslash and dollar sign keep their meaning. -/
def stepDouble (c : Char) : Mode × Action :=
  if c = '"' then (plain, .closeQuote)
  else if c = '\\' then (escape .doubleQuote, .skip)
  else if c = '$' then (doubleQuote, .variable)
  else (doubleQuote, .push c)

/-- One character: the mode after it, and what it does. -/
def step : Mode → Char → Mode × Action
  | plain, c => stepPlain c
  | singleQuote, c => stepSingle c
  | doubleQuote, c => stepDouble c
  | escape back, c => (back.mode, .escaped c)

/-- The mode after all the characters. -/
def after (m : Mode) (cs : List Char) : Mode :=
  cs.foldl (fun m c => (m.step c).1) m

/-- Every step over the characters, in order. -/
def trace : Mode → List Char → List (Mode × Action)
  | _, [] => []
  | m, c :: cs => m.step c :: trace (m.step c).1 cs

/-- Reading nothing stays in the mode. -/
@[simp] theorem after_nil (m : Mode) : m.after [] = m := rfl

/-- Reading a text takes one step for its first character and reads the rest in the mode that comes
of it. -/
@[simp] theorem after_cons (m : Mode) (c : Char) (cs : List Char) :
    m.after (c :: cs) = (m.step c).1.after cs := rfl

/-- The mode behind two texts is that behind the second, read in the mode behind the first. -/
theorem after_append (m : Mode) (cs ds : List Char) :
    m.after (cs ++ ds) = (m.after cs).after ds := by
  simp [after, List.foldl_append]

end Mode

end PipeShell
