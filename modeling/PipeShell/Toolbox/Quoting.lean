/-!
# Quoted names

Messages of tools show names in quotes so that nobody takes a part of a name for something else.
There are two manners.  `quoted` puts a backslash in front of what is not plain.  `shellQuoted`
writes a name so that a shell would read it as that name; it can leave the quotes out where none are
needed.

All texts are texts of bytes.
-/

namespace PipeShell.Toolbox

/-- The letters that stand for bytes which cannot be shown. -/
def shownLetters : List (Char × Char) :=
  [('\x07', 'a'), ('\x08', 'b'), ('\x0c', 'f'), ('\n', 'n'), ('\r', 'r'), ('\t', 't'), ('\x0b', 'v')]

/-- The byte can be shown. -/
def isShown (c : Char) : Bool := ' ' ≤ c && c ≤ '~'

/-- A byte that cannot be shown, behind a backslash. -/
def escaped (c : Char) : List Char :=
  match shownLetters.lookup c with
  | some letter => ['\\', letter]
  | none =>
    let digit (n : Nat) : Char := Char.ofNat (48 + n % 8)
    ['\\', digit (c.toNat / 64), digit (c.toNat / 8), digit c.toNat]

/-- The text in quotes, with backslashes. -/
def quoted (s : String) : String :=
  let inside := s.toList.flatMap fun c =>
    if c == '\'' || c == '\\' then ['\\', c] else if isShown c then [c] else escaped c
  "'" ++ String.ofList inside ++ "'"

/-- A shell takes the byte for itself when it is all alone, at the front, or anywhere. -/
def needsQuotes (cs : List Char) : Bool :=
  let anywhere := [' ', '!', '"', '$', '&', '(', ')', '*', ';', '<', '=', '>', '?', '[', '\\', '^',
    '\x60', '|', '\'']
  cs.isEmpty || cs == ['\x7b'] || cs == ['\x7d'] || cs.head? == some '#' || cs.head? == some '~'
    || cs.any fun c => anywhere.contains c || !isShown c

/-- The text means the same between double quotes. -/
def fitsDoubleQuotes (cs : List Char) : Bool :=
  let safe (c : Char) : Bool :=
    c.isAlphanum || ['%', '+', ',', '-', '.', '/', ':', ']', '_', '@', ' ', '\''].contains c
  match cs with
  | [] => true
  | c :: rest => (safe c || c == '#' || c == '~') && rest.all safe

/-- The text between quotes for a shell, and whether its last byte had to be escaped; `escaping`
says that of the byte before. -/
def shellInside : (escaping : Bool) → List Char → List Char × Bool
  | escaping, [] => ([], escaping)
  | escaping, c :: cs =>
    if c == '\'' then
      let (more, last) := shellInside false cs
      (['\'', '\\', '\'', '\''] ++ more, last)
    else if isShown c then
      let (more, last) := shellInside false cs
      ((if escaping then ['\'', '\'', c] else [c]) ++ more, last)
    else
      let (more, last) := shellInside true cs
      ((if escaping then [] else ['\'', '$', '\'']) ++ escaped c ++ more, last)

/-- The text as a shell reads it, in quotes where they are needed or always.  A text with single
quotes is gone through twice, and the second time goes on from the end of the first. -/
def shellQuoted (always : Bool) (s : String) : String :=
  let cs := s.toList
  if !always && !needsQuotes cs then s
  else
    let once := shellInside false cs
    if !cs.contains '\'' then "'" ++ String.ofList once.1 ++ "'"
    else if fitsDoubleQuotes cs then "\"" ++ s ++ "\""
    else "'" ++ String.ofList (shellInside once.2 cs).1 ++ "'"

/-- The text in front of a colon, in quotes where they are needed. -/
def shellQuotedName (s : String) : String :=
  shellQuoted (s.toList.contains ':') s

end PipeShell.Toolbox
