import PipeShell.Environment

/-!
# Colours

The shell colours its own text: the prompt, errors, what programs write to their error streams, and
the hint about a status.  Whether it does is decided by the inherited environment alone: `NO_COLOR`
and `CLICOLOR=0` forbid colours, `CLICOLOR_FORCE=1` demands them, and otherwise the terminal must be
known to have them.
-/

namespace PipeShell

/-- A way to show a text: the control sequences in front of it. -/
structure Style where
  codes : List String
deriving Repr, DecidableEq

namespace Style

/-- A control sequence that sets how text is shown. -/
def control (code : String) : String := "\x1b[" ++ code ++ "m"

/-- Bold cyan. -/
def prompt : Style := ⟨["36", "1"]⟩

/-- Bold red. -/
def error : Style := ⟨["31", "1"]⟩

/-- Yellow. -/
def programErrors : Style := ⟨["33"]⟩

/-- Grey. -/
def hint : Style := ⟨["38;2;128;128;128"]⟩

/-- The text in this style, and plain text after it. -/
def apply (s : Style) (text : String) : String :=
  String.join (s.codes.map control) ++ text ++ control "0"

end Style

/-- Whether colours are used. -/
structure Palette where
  colored : Bool
deriving Repr, DecidableEq

namespace Palette

/-- No colours. -/
def plain : Palette := ⟨false⟩

/-- The text holds `part` somewhere. -/
def holds (text part : String) : Bool :=
  (List.range (text.length + 1)).any fun n => part.toList.isPrefixOf (text.toList.drop n)

/-- A letter in lower case.  Two letters beyond ASCII have a lower case that ASCII letters are part
of: the sign of the kelvin and the capital `I` with a dot. -/
def lowered (c : Char) : List Char :=
  if c = '\u212a' then ['k'] else if c = '\u0130' then ['i', '\u0307'] else [c.toLower]

/-- Parts of the names of terminals that have colours. -/
def coloredTerms : List String :=
  ["color", "256", "ansi", "xterm", "screen", "tmux", "rxvt-unicode", "konsole", "alacritty",
    "kitty", "terminator", "terminology", "termious", "vte"]

/-- Programs around a shell that have colours. -/
def coloredPrograms : List String := ["iTerm.app", "Apple_Terminal"]

/-- What a terminal says of itself when it has all colours there are. -/
def manyColors : List String := ["truecolor", "24bit"]

/-- The terminal that the environment describes has colours.  Only its name is read without regard
to case. -/
def terminalHasColor (env : Environment) : Bool :=
  let value (name : String) : String := (env.value? name).getD ""
  manyColors.any (holds (value "COLORTERM"))
    || coloredPrograms.contains (value "TERM_PROGRAM")
    || coloredTerms.any (holds (String.ofList ((value "TERM").toList.flatMap lowered)))

/-- The palette for an environment. -/
def ofEnvironment (env : Environment) : Palette :=
  if env.isSet "NO_COLOR" || env.value? "CLICOLOR" = some "0" then plain
  else if env.value? "CLICOLOR_FORCE" = some "1" then ⟨true⟩
  else ⟨terminalHasColor env⟩

/-- The text in a style, if colours are used. -/
def paint (p : Palette) (s : Style) (text : String) : String :=
  if p.colored then s.apply text else text

/-- The prompt for a directory. -/
def prompt (p : Palette) (dir : String) : String := p.paint .prompt dir ++ " > "

/-- A message about an error. -/
def error (p : Palette) (text : String) : String := p.paint .error text

/-- What programs wrote to their error streams. -/
def programErrors (p : Palette) (text : String) : String := p.paint .programErrors text

/-- A hint. -/
def hint (p : Palette) (text : String) : String := p.paint .hint text

end Palette

end PipeShell
