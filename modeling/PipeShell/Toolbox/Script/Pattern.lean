import PipeShell.Disk
import PipeShell.Toolbox.Octets

/-!
# Patterns

A field of a script knows of each of its characters whether it was quoted.  Unquoted, `*` stands for
any text, `?` for any character and a set in brackets for one of its members.  Patterns are matched
with texts, and, part by part between the slashes, with the names on the disk.
-/

namespace PipeShell.Script

/-- The characters of a field, and whether each was quoted. -/
abbrev Field := List (Char × Bool)

/-- The text of a field. -/
def fieldText (f : Field) : String := String.ofList (f.map Prod.fst)

/-! ## Sets -/

/-- The members of a named class. -/
def classHolds (name : String) (c : Char) : Bool :=
  match name with
  | "alpha" => c.isAlpha
  | "digit" => c.isDigit
  | "alnum" => c.isAlphanum
  | "upper" => c.isUpper
  | "lower" => c.isLower
  | "space" => c == ' ' || ('\t' ≤ c && c ≤ '\r')
  | "blank" => c == ' ' || c == '\t'
  | "punct" => '!' ≤ c && c ≤ '~' && !c.isAlphanum
  | "print" => ' ' ≤ c && c ≤ '~'
  | "graph" => '!' ≤ c && c ≤ '~'
  | "cntrl" => c < ' ' || c == '\x7f'
  | "xdigit" => c.isDigit || ('a' ≤ c && c ≤ 'f') || ('A' ≤ c && c ≤ 'F')
  | _ => false

/-- A member of a set. -/
inductive Member where
  | range (first last : Char)
  | family (name : String)

/-- The member matches the character. -/
def Member.holds (c : Char) : Member → Bool
  | range first last => first ≤ c && c ≤ last
  | family name => classHolds name c

/-- The members of a set from a point after its opening bracket on, and the pattern after it.  A
closing bracket right at the start is a member. -/
def takeMembers : (fuel : Nat) → (start : Bool) → Field → Option (List Member × Field)
  | 0, _, _ => none
  | fuel + 1, start, p =>
    match p with
    | [] => none
    | (']', false) :: rest =>
      if start then
        (takeMembers fuel false rest).map fun q => (.range ']' ']' :: q.1, q.2)
      else some ([], rest)
    | ('[', false) :: (':', false) :: rest =>
      let name := rest.takeWhile fun q => q.1.isLower
      match rest.drop name.length with
      | (':', _) :: (']', _) :: after =>
        (takeMembers fuel false after).map fun q => (.family (fieldText name) :: q.1, q.2)
      | _ => (takeMembers fuel false ((':', false) :: rest)).map fun q =>
        (.range '[' '[' :: q.1, q.2)
    | (a, _) :: ('-', false) :: (b, q) :: rest =>
      if b == ']' && !q then
        (takeMembers fuel false (('-', false) :: (b, q) :: rest)).map fun q =>
          (.range a a :: q.1, q.2)
      else (takeMembers fuel false rest).map fun q => (.range a b :: q.1, q.2)
    | (a, _) :: rest => (takeMembers fuel false rest).map fun q => (.range a a :: q.1, q.2)

/-- The set at the front of a pattern, after its opening bracket, and the pattern after it.  An
exclamation mark makes it the set of all other characters. -/
def takeSet (p : Field) : Option ((Char → Bool) × Field) :=
  match p with
  | ('!', false) :: rest =>
    (takeMembers (rest.length + 1) true rest).map fun q => (fun c => !q.1.any (·.holds c), q.2)
  | rest =>
    (takeMembers (rest.length + 1) true rest).map fun q => (fun c => q.1.any (·.holds c), q.2)

/-! ## Matching -/

/-- The pattern matches the whole text.  `fuel` is more than the sum of their lengths. -/
def matchesFrom : (fuel : Nat) → Field → List Char → Bool
  | 0, _, _ => false
  | fuel + 1, p, cs =>
    match p, cs with
    | [], cs => cs.isEmpty
    | ('*', false) :: p', cs =>
      matchesFrom fuel p' cs ||
        (match cs with
          | [] => false
          | _ :: rest => matchesFrom fuel p rest)
    | ('?', false) :: p', _ :: rest => matchesFrom fuel p' rest
    | ('[', false) :: p', c :: rest =>
      match takeSet p' with
      | some (holds, after) => holds c && matchesFrom fuel after rest
      | none => c == '[' && matchesFrom fuel p' rest
    | (a, _) :: p', c :: rest => a == c && matchesFrom fuel p' rest
    | _ :: _, [] => false

/-- The pattern matches the whole text. -/
def matchesText (p : Field) (cs : List Char) : Bool :=
  matchesFrom (p.length + cs.length + 1) p cs

/-- The pattern matches the name.  A dot at the front has to be written. -/
def matchesName (p : Field) (name : String) : Bool :=
  let cs := name.toList
  (cs.head? != some '.' || (p.head?.map Prod.fst) == some '.') && matchesText p cs

/-- The text without its shortest or longest front that matches a pattern. -/
def dropFront (longest : Bool) (pattern : Field) (text : String) : String :=
  let cs := text.toList
  let counts := List.range (cs.length + 1)
  let found := (if longest then counts.reverse else counts).find? fun n =>
    matchesText pattern (cs.take n)
  String.ofList (cs.drop (found.getD 0))

/-- The text without its shortest or longest end that matches a pattern, if some end does. -/
def dropEnd? (longest : Bool) (pattern : Field) (text : String) : Option String :=
  let cs := text.toList
  let counts := List.range (cs.length + 1)
  let found := (if longest then counts else counts.reverse).find? fun n =>
    matchesText pattern (cs.drop n)
  found.map fun n => String.ofList (cs.take n)

/-- Texts in a row without their front that matches a pattern.  It lies in the first one; the
longest front is the whole row where the pattern matches all of the first. -/
def dropFronts (longest : Bool) (pattern : Field) : List String → List String
  | [] => []
  | text :: texts =>
    if longest && matchesText pattern text.toList then [""]
    else dropFront longest pattern text :: texts

/-- Texts in a row up to the last one with an end that matches a pattern, without the shortest such
end. -/
def dropLastEnd? (pattern : Field) : List String → Option (List String)
  | [] => none
  | text :: texts =>
    match dropLastEnd? pattern texts with
    | some kept => some (text :: kept)
    | none => (dropEnd? false pattern text).map ([·])

/-- Texts in a row without their end that matches a pattern.  The longest end begins in the first
text or nowhere. -/
def dropEnds (longest : Bool) (pattern : Field) (texts : List String) : List String :=
  let cut := if longest then (texts.head?.bind (dropEnd? true pattern)).map ([·])
    else dropLastEnd? pattern texts
  cut.getD texts

/-! ## Paths -/

/-- The field is a pattern. -/
def isPattern (f : Field) : Bool :=
  f.any fun p => !p.2 && (p.1 == '*' || p.1 == '?' || p.1 == '[')

/-- The parts of a field between slashes. -/
def splitSlashes : Field → List Field
  | [] => [[]]
  | p :: rest =>
    let more := splitSlashes rest
    if p.1 == '/' then [] :: more else (p :: more.headD []) :: more.tail

/-- The names in a directory that a part of a pattern matches, in the order of their bytes. -/
def matchingNames (disk : Disk) (l : Location) (part : Field) : List String :=
  let names := "." :: ".." :: (disk.children l).map fun p => Text.spread p.1
  (names.filter (matchesName part)).mergeSort fun a b => decide (a ≤ b)

/-- The paths that go on from `start` by names that match the parts. -/
def matchingPaths (disk : Disk) (dir : String) : (parts : List Field) → String → List String
  | [], start =>
    match disk.lookUpLink (Path.join dir (Text.gather start)) with
    | .ok _ => [start]
    | .error _ => []
  | part :: rest, start =>
    let go (name : String) : List String :=
      matchingPaths disk dir rest (start ++ name ++ if rest.isEmpty then "" else "/")
    if isPattern part then
      match disk.lookUp (Path.join dir (if start.isEmpty then "." else Text.gather start)) with
      | .ok (l, .directory) => (matchingNames disk l part).flatMap go
      | _ => []
    else go (fieldText part)

/-- The paths that a field stands for: those that it matches, or itself. -/
def pathsOf (disk : Disk) (dir : String) (f : Field) : List String :=
  if isPattern f then
    let found := matchingPaths disk dir (splitSlashes f) ""
    if found.isEmpty then [fieldText f] else found
  else [fieldText f]

end PipeShell.Script
