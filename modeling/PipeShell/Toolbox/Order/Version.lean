/-!
# The order of versions

Texts that hold version numbers are ordered part by part: what is no number by its letters, and
numbers by their size.  Letters come before other signs, and a tilde comes before everything, even
the end.  Endings such as `.tar.gz` count only when all before them is alike.
-/

namespace PipeShell.Toolbox

/-- A digit. -/
def isDigitByte (b : UInt8) : Bool := 48 ≤ b && b ≤ 57

/-- A letter. -/
def isLetterByte (b : UInt8) : Bool := (65 ≤ b && b ≤ 90) || (97 ≤ b && b ≤ 122)

namespace Version

/-- The rank of the first byte of a part that is no number; the end comes before all but a tilde. -/
def rank : List UInt8 → Int
  | [] => -1
  | b :: _ =>
    if isDigitByte b then 0
    else if isLetterByte b then b.toNat
    else if b == 126 then -2
    else b.toNat + 256

/-- A number comes next, or nothing. -/
def atNumber (cs : List UInt8) : Bool := cs.head?.elim true isDigitByte

/-- The order of two runs of digits without zeros in front. -/
def compareDigits : List UInt8 → List UInt8 → Ordering → Ordering × List UInt8 × List UInt8
  | a :: as, b :: bs, soFar =>
    match isDigitByte a, isDigitByte b with
    | true, true => compareDigits as bs (soFar.then (compare a b))
    | true, false => (.gt, [], [])
    | false, true => (.lt, [], [])
    | false, false => (soFar, a :: as, b :: bs)
  | a :: as, [], soFar => (if isDigitByte a then .gt else soFar, a :: as, [])
  | [], b :: bs, soFar => (if isDigitByte b then .lt else soFar, [], b :: bs)
  | [], [], soFar => (soFar, [], [])

/-- The order part by part.  `fuel` is more than the sum of the lengths. -/
def compareParts : (fuel : Nat) → List UInt8 → List UInt8 → Ordering
  | 0, _, _ => .eq
  | fuel + 1, as, bs =>
    if as.isEmpty && bs.isEmpty then .eq
    else if atNumber as && atNumber bs then
      let zero (b : UInt8) : Bool := b == 48
      let (order, as, bs) := compareDigits (as.dropWhile zero) (bs.dropWhile zero) .eq
      order.then (compareParts fuel as bs)
    else (compare (rank as) (rank bs)).then (compareParts fuel as.tail bs.tail)

/-- The text is made of endings, each a dot with a letter and more letters and digits. -/
def isEndings : (fuel : Nat) → List UInt8 → Bool
  | 0, _ => false
  | fuel + 1, cs =>
    let starts (b : UInt8) : Bool := isLetterByte b || b == 126
    match cs with
    | [] => true
    | 46 :: b :: rest =>
      starts b && isEndings fuel (rest.dropWhile fun b => starts b || isDigitByte b)
    | _ => false

/-- The text without its endings.  The first byte is never part of one. -/
def withoutEndings : List UInt8 → List UInt8
  | [] => []
  | b :: rest => if isEndings (rest.length + 1) rest then [b] else b :: withoutEndings rest

/-- The order of the texts as they are. -/
def compareWhole (as bs : List UInt8) : Ordering :=
  compareParts (as.length + bs.length + 1) as bs

/-- The place of a text among those that come first of all: the empty one, a dot, two dots, and
those that begin with a dot. -/
def frontRank (cs : List UInt8) : Nat :=
  match cs with
  | [] => 0
  | [46] => 1
  | [46, 46] => 2
  | 46 :: _ => 3
  | _ => 4

/-- The order of versions. -/
def compareVersions (as bs : List UInt8) : Ordering :=
  let front := compare (frontRank as) (frontRank bs)
  if front != .eq || frontRank as < 3 then front
  else (compareWhole (withoutEndings as) (withoutEndings bs)).then (compareWhole as bs)

end Version

end PipeShell.Toolbox
