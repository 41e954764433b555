import PipeShell.Text.Bond

/-!
# Clusters

A *cluster* is what a reader takes for one character.  Text is cut before every character that does
not join the ones before it; whether it does is a question of the bonds alone (`Run.joins`).  Most
joins depend on the last character only.  Three depend on more of the past, which a `Run` keeps: the
picture that a joiner ties to the next, the consonant that a linker ties to the next, and the
letters of flags, which come in pairs.

Cutting loses nothing (`flatten_clusters`).
-/

namespace PipeShell.Text

/-- How far a tie to a later character has come. -/
inductive Tie where
  | absent
  /-- A character that can be tied, with nothing but marks after it. -/
  | begun
  /-- The tie is made: a character of the right kind joins. -/
  | made
deriving Repr, DecidableEq

/-- What the characters so far mean for the next one. -/
structure Run where
  last : Bond
  pictures : Tie
  consonants : Tie
  /-- The text ends in an odd number of flag letters. -/
  halfFlag : Bool
deriving Repr, DecidableEq

namespace Run

/-- The run before any text. -/
def empty : Run := ⟨.control, .absent, .absent, false⟩

/-- A joiner ties a picture to the next; it may follow the marks of the picture. -/
def tiePictures (t : Tie) (b : Bond) : Tie :=
  match b, t with
  | .picture, _ => .begun
  | .joiner, .begun => .made
  | .mark, .begun | .linker, .begun | .nonJoiner, .begun => .begun
  | _, _ => .absent

/-- A linker ties a consonant to the next; other marks may stand around it. -/
def tieConsonants (t : Tie) (b : Bond) : Tie :=
  match b, t with
  | .consonant, _ => .begun
  | .linker, .begun | .linker, .made => .made
  | .mark, t | .joiner, t => t
  | _, _ => .absent

/-- The run with one more character. -/
def after (r : Run) (b : Bond) : Run where
  last := b
  pictures := tiePictures r.pictures b
  consonants := tieConsonants r.consonants b
  halfFlag := b = .flagLetter && !r.halfFlag

/-- The next character belongs to the cluster of the one before. -/
def joins (r : Run) (b : Bond) : Bool :=
  match r.last, b with
  | .carriageReturn, .lineFeed => true
  | .control, _ | .carriageReturn, _ | .lineFeed, _ => false
  | _, .control | _, .carriageReturn | _, .lineFeed => false
  | .lead, .lead | .lead, .vowel | .lead, .openSyllable | .lead, .closedSyllable => true
  | .openSyllable, .vowel | .openSyllable, .tail | .vowel, .vowel | .vowel, .tail => true
  | .closedSyllable, .tail | .tail, .tail => true
  | _, .mark | _, .linker | _, .nonJoiner | _, .joiner | _, .spacingMark => true
  | .ahead, _ => true
  | _, .consonant => r.consonants = .made
  | _, .picture => r.pictures = .made
  | _, .flagLetter => r.halfFlag
  | _, _ => false

end Run

/-- Cuts text after the cluster `current`, whose last character comes first. -/
def clustersAfter (r : Run) (current : List Char) : List Char → List (List Char)
  | [] => [current.reverse]
  | c :: cs =>
    let b := Bond.ofChar c
    if r.joins b then clustersAfter (r.after b) (c :: current) cs
    else current.reverse :: clustersAfter (r.after b) [c] cs

/-- The clusters of a text. -/
def clusters : List Char → List (List Char)
  | [] => []
  | c :: cs => clustersAfter (Run.empty.after (Bond.ofChar c)) [c] cs

/-- The clusters of a text are the text again, behind what was begun. -/
theorem flatten_clustersAfter (r : Run) (current cs : List Char) :
    (clustersAfter r current cs).flatten = current.reverse ++ cs := by
  induction cs generalizing r current with
  | nil => simp [clustersAfter]
  | cons c cs ih => rw [clustersAfter]; split <;> simp [ih]

/-- The clusters of a text in a row are the text. -/
theorem flatten_clusters (cs : List Char) : (clusters cs).flatten = cs := by
  cases cs with
  | nil => rfl
  | cons c cs => simp [clusters, flatten_clustersAfter]

end PipeShell.Text
