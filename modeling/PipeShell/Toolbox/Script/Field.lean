import PipeShell.Toolbox.Script.Pattern

/-!
# Fields

What an expanded word comes to.  The word is first a list of chunks: its own text, and the values
put in for expansions.  Values outside quotes are cut at separators, so one word can become several
fields or none.

A separator that is a blank only ends a field.  Any other separator ends a field as well, but two in
a row have an empty field between them; blanks around it belong to it.
-/

namespace PipeShell.Script

/-- A piece of an expanded word. -/
inductive Chunk where
  /-- Text that is never cut. -/
  | text (s : String) (quoted : Bool)
  /-- A value that is cut at separators. -/
  | value (s : String)
  /-- The border between two quoted arguments. -/
  | border
  /-- The border between two arguments outside quotes. -/
  | gap
deriving Repr, DecidableEq

/-- A blank that separates. -/
def isBlankSeparator (c : Char) : Bool := c == ' ' || c == '\t' || c == '\n'

/-- The fields made so far. -/
structure Fields where
  /-- The fields that are over, the last one first. -/
  done : List Field
  /-- The field that goes on, its last character first. -/
  current : Option Field
  /-- A blank ended the last field, and no other separator has followed it. -/
  spaced : Bool

namespace Fields

/-- No field yet. -/
def none : Fields := ⟨[], .none, false⟩

/-- Ends the current field, if there is one. -/
def cut (f : Fields) (spaced : Bool) : Fields :=
  match f.current with
  | .none => f
  | some field => { f with done := field.reverse :: f.done, current := .none, spaced }

/-- More characters for the current field. -/
def extend (f : Fields) (cs : List Char) (quoted : Bool) : Fields :=
  { f with
    current := some (cs.foldl (fun field c => (c, quoted) :: field) (f.current.getD []))
    spaced := false }

/-- A character of a value. -/
def addValueChar (separators : List Char) (f : Fields) (c : Char) : Fields :=
  if !separators.contains c then f.extend [c] false
  else if isBlankSeparator c then f.cut true
  else if f.current.isSome then f.cut false
  else if f.spaced then { f with spaced := false }
  else (f.extend [] false).cut false

/-- One more chunk. -/
def add (separators : List Char) (f : Fields) : Chunk → Fields
  | .text s quoted => if s.isEmpty && !quoted then f else f.extend s.toList quoted
  | .value s => s.toList.foldl (addValueChar separators) f
  | .border => { (f.extend [] true).cut false with current := some [] }
  | .gap => f.cut false

/-- All fields. -/
def finish (f : Fields) : List Field := (f.cut false).done.reverse

end Fields

/-- The fields of chunks. -/
def fieldsOf (separators : List Char) (chunks : List Chunk) : List Field :=
  (chunks.foldl (Fields.add separators) .none).finish

/-- The text of chunks that stay together. -/
def joinChunks (chunks : List Chunk) : String :=
  String.join (chunks.map fun
    | .text s _ => s
    | .value s => s
    | .border => " "
    | .gap => " ")

/-- The pattern of chunks that stay together. -/
def patternOf (chunks : List Chunk) : Field :=
  chunks.flatMap fun
    | .text s quoted => s.toList.map (·, quoted)
    | .value s => s.toList.map (·, false)
    | .border => [(' ', true)]
    | .gap => [(' ', false)]

/-- Where the text for the last variable ends, in characters that follow its first separator: at the
last separators, if nothing else comes after them.  `spaced` says that these began with a blank,
which belongs to one more separator.  Characters that cannot separate do not count. -/
def lastEnd (separators : List Char) : (spaced : Bool) → (cut : Option Nat) → (place : Nat) →
    List (Char × Bool) → Option Nat
  | _, cut, _, [] => cut
  | _, cut, place, (_, false) :: rest => lastEnd separators false cut (place + 1) rest
  | spaced, cut, place, (c, true) :: rest =>
    if separators.contains c && isBlankSeparator c then
      lastEnd separators spaced (some (cut.getD place)) (place + 1) rest
    else
      lastEnd separators false (if separators.contains c && spaced then cut else none) (place + 1)
        rest

/-- The words of a line for a number of variables; each character says whether it can separate.  The
last variable takes what is left, without the separators at its end. -/
def wordsOfLine (separators : List Char) : (count : Nat) → List (Char × Bool) → List String
  | 0, _ => []
  | count + 1, cs =>
    let separates (p : Char × Bool) : Bool := p.2 && separators.contains p.1
    let blank (p : Char × Bool) : Bool := separates p && isBlankSeparator p.1
    let text (cs : List (Char × Bool)) : String := String.ofList (cs.map Prod.fst)
    let cs := cs.dropWhile blank
    let word := cs.takeWhile fun p => !separates p
    match cs.drop word.length with
    | [] => text word :: List.replicate count ""
    | p :: rest =>
      if count = 0 then
        let cut := lastEnd separators (blank p) (some word.length) (word.length + 1) rest
        [text (cs.take (cut.getD cs.length))]
      else
        let after := rest.dropWhile blank
        let next := match after with
          | q :: more => if blank p && separates q then more.dropWhile blank else after
          | [] => []
        text word :: wordsOfLine separators count next

end PipeShell.Script
