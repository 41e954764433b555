import PipeShell.Text.Unprintable

/-!
# Quoted text

The unambiguous spelling of a text inside a log record: between double quotes, with a backslash
before a quote or a backslash, the short escapes for newline, carriage return, tab and the zero
character, and the code point in braces for every other character that does not show.  A list is
written in brackets.
-/

namespace PipeShell.Text

/-- The code point in lower-case hexadecimal digits, without leading zeros. -/
def codePoint (c : Char) : String :=
  String.ofList (Nat.toDigits 16 c.toNat)

/-- One character inside quotes. -/
def quoteChar (c : Char) : String :=
  match c with
  | '"' => "\\\""
  | '\\' => "\\\\"
  | '\n' => "\\n"
  | '\r' => "\\r"
  | '\t' => "\\t"
  | '\x00' => "\\0"
  | c => if isHidden c then "\\u\x7b" ++ codePoint c ++ "\x7d" else c.toString

/-- The text in double quotes. -/
def quote (s : String) : String :=
  "\"" ++ String.join (s.toList.map quoteChar) ++ "\""

/-- The items in brackets. -/
def bracketed (items : List String) : String :=
  "[" ++ ", ".intercalate items ++ "]"

/-- A list of texts, each in double quotes. -/
def quoteList (items : List String) : String :=
  bracketed (items.map quote)

/-- A list of pairs of texts. -/
def quotePairs (items : List (String × String)) : String :=
  bracketed (items.map fun p => "(" ++ quote p.1 ++ ", " ++ quote p.2 ++ ")")

end PipeShell.Text
