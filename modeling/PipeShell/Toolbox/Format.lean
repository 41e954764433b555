import PipeShell.Toolbox.Notation
import PipeShell.Toolbox.Octets
import PipeShell.Toolbox.Quoting

/-!
# Formatted output

Escapes and directives of `echo` and `printf`.  A format is applied again and again while it uses up
arguments; missing arguments count as empty texts or zeros.

There are two dialects: the one of the program `printf`, and the one of scripts, which know `printf`
as a command of their own.  They differ in some escapes and in what they complain about.

All texts here are texts of bytes (`PipeShell.Text.ofOctets`).
-/

namespace PipeShell.Toolbox

/-- Whose format it is. -/
inductive Dialect where
  | program
  | script
deriving Repr, DecidableEq

/-- The precision of a dialect's numbers with places. -/
def Dialect.precision : Dialect → Decimal.Precision
  | program => .extended
  | script => .double

/-- A fault that ends all output. -/
inductive FormatFault where
  | unknown (directive : String)
  | noKind
  | noHexadecimal
  | noCharacter (written : String)
  | badWidth (text : String)
  | badPrecision (text : String)
  /-- A column or a number has more characters than can be written. -/
  | tooWide
deriving Repr, DecidableEq

/-- The text shown to the user. -/
def FormatFault.message (d : Dialect) : FormatFault → String
  | unknown s => s ++ match d with
    | .program => ": invalid conversion specification"
    | .script => ": invalid directive"
  | noKind => "missing format character"
  | noHexadecimal => "missing hexadecimal number in escape"
  | noCharacter s => "invalid universal character name " ++ s
  | badWidth s => "invalid field width: " ++ quoted s
  | badPrecision s => "invalid precision: " ++ quoted s
  | tooWide => "xvsnprintf failed"

/-- What is wrong with an argument. -/
inductive ArgumentFault where
  | noNumber (text : String)
  | moreThanNumber (text : String)
  | outOfRange (text : String)
  /-- This much is not used, which is only worth a warning. -/
  | unused (rest : String)
  /-- Something was left out because it has more characters than can be written. -/
  | tooWide
deriving Repr, DecidableEq

/-- The text shown to the user. -/
def ArgumentFault.message (d : Dialect) (fault : ArgumentFault) : String :=
  let name (s : String) : String := if d = .program then quoted s else s
  match fault with
  | noNumber s =>
    name s ++ (if d = .program then ": expected a numeric value" else ": expected numeric value")
  | moreThanNumber s =>
    name s ++
      (if d = .program then ": value not completely converted" else ": not completely converted")
  | outOfRange s => name s ++ ": Numerical result out of range"
  | unused s =>
    "warning: " ++ s ++ ": character(s) following character constant have been ignored"
  | tooWide => "write error"

/-- The fault counts for the status. -/
def ArgumentFault.counts : ArgumentFault → Bool
  | unused _ => false
  | _ => true

/-! ## Escapes -/

/-- What a backslash and the characters after it stand for. -/
inductive Escape where
  | text (s : List Char)
  /-- All output ends here. -/
  | stop
  | fault (f : FormatFault)

/-- Where an escape stands. -/
inductive EscapePlace where
  | format
  | argument
deriving Repr, DecidableEq

/-- The value of digits. -/
def digitsIn (base : Nat) (cs : List Char) : Nat :=
  cs.foldl (fun n c => n * base + (Decimal.hexValue? c).getD 0) 0

/-- At most `n` octal digits at the front. -/
def octalDigits (n : Nat) (cs : List Char) : List Char :=
  (cs.take n).takeWhile fun c => '0' ≤ c && c ≤ '7'

/-- At most `n` hexadecimal digits at the front. -/
def hexDigits (n : Nat) (cs : List Char) : List Char :=
  (cs.take n).takeWhile fun c => (Decimal.hexValue? c).isSome

/-- The letters after a backslash that stand for one byte each. -/
def letterEscapes : List (Char × Nat) :=
  [('a', 7), ('b', 8), ('e', 27), ('f', 12), ('n', 10), ('r', 13), ('t', 9), ('v', 11), ('\\', 92)]

/-- The number of digits in which a character is named. -/
def characterWidth (mark : Char) : Nat := if mark == 'u' then 4 else 8

/-- A number in hexadecimal digits, at least so many. -/
def hexNumber (width n : Nat) (capital : Bool) : String :=
  let digits := Nat.toDigits 16 n
  let cased := if capital then digits.map Char.toUpper else digits
  String.ofList (List.replicate (width - digits.length) '0' ++ cased)

/-- The character that is named by its number.  Only those of seven bits can be written; others are
named again. -/
def namedCharacter (mark : Char) (digits : List Char) : Escape :=
  let n := digitsIn 16 digits
  if digits.length < characterWidth mark then .fault .noHexadecimal
  else if 0xD800 ≤ n && n ≤ 0xDFFF then
    .fault (.noCharacter ("\\" ++ mark.toString ++ hexNumber (characterWidth mark) n false))
  else if n < 128 then .text [Char.ofNat n]
  else if n < 65536 then .text ("\\u" ++ hexNumber 4 n true).toList
  else .text ("\\U" ++ hexNumber 8 n true).toList

/-- The escape behind a backslash, and the number of characters it takes.  A zero in front of the
octal digits of an argument is not one of them. -/
def readEscape (d : Dialect) (place : EscapePlace) (cs : List Char) : Escape × Nat :=
  match cs with
  | [] => (.text ['\\'], 0)
  | c :: rest =>
    if '0' ≤ c && c ≤ '7' then
      let zero := place = .argument && c == '0'
      let digits := octalDigits 3 (if zero then rest else cs)
      (.text [Char.ofNat (digitsIn 8 digits % 256)], digits.length + if zero then 1 else 0)
    else if c == 'c' && (d = .program || place = .argument) then (.stop, 1)
    else if c == '"' && d = .program then (.text ['"'], 1)
    else if c == 'x' && d = .program then
      let digits := hexDigits 2 rest
      if digits.isEmpty then (.fault .noHexadecimal, 0)
      else (.text [Char.ofNat (digitsIn 16 digits)], digits.length + 1)
    else if (c == 'u' || c == 'U') && d = .program then
      let digits := hexDigits (characterWidth c) rest
      (namedCharacter c digits, digits.length + 1)
    else
      match letterEscapes.lookup c with
      | some n => (.text [Char.ofNat n], 1)
      | none => (.text ['\\', c], 1)

/-- A text with its escapes replaced, the last character first, and what ends it early. -/
def unescapeFrom (d : Dialect) (out : List Char) : (skip : Nat) → List Char →
    List Char × Option Escape
  | _, [] => (out, none)
  | skip + 1, _ :: cs => unescapeFrom d out skip cs
  | 0, c :: cs =>
    if c == '\\' then
      match readEscape d .argument cs with
      | (.text s, n) => unescapeFrom d (s.reverse ++ out) n cs
      | (early, _) => (out, some early)
    else unescapeFrom d (c :: out) 0 cs

/-- A text with its escapes replaced, and what ends it early. -/
def unescape (d : Dialect) (text : List Char) : List Char × Option Escape :=
  let (out, early) := unescapeFrom d [] 0 text
  (out.reverse, early)

/-- What `echo` writes: its arguments with blanks between, escapes replaced, and a newline unless it
is asked for none. -/
def echoText (args : List String) : String :=
  let bare := args.head? == some "-n"
  let words := if bare then args.tail else args
  let (out, early) := unescape .script (" ".intercalate words).toList
  String.ofList (if early.isNone && !bare then out ++ ['\n'] else out)

/-! ## Numbers -/

/-- A number with what is wrong with its text. -/
structure NumberRead (α : Type) where
  value : α
  faults : List ArgumentFault

/-- The faults of a number that was read from the front of a text. -/
def numberFaults (d : Dialect) (text : String) (rest : List Char) (inRange : Bool) :
    List ArgumentFault :=
  let unread : List ArgumentFault :=
    if rest.isEmpty then []
    else if rest.length = text.length then [.noNumber text] else [.moreThanNumber text]
  let range : List ArgumentFault := if inRange then [] else [.outOfRange text]
  match d with
  | .program => (range ++ unread).take 1
  | .script => (unread ++ range).take 1

/-- A sign and digits at the front, after blanks: decimal ones, or octal, hexadecimal or binary ones
behind a zero. -/
def takeInteger (cs : List Char) : Int × List Char :=
  let start := cs.dropWhile fun c => c == ' ' || ('\t' ≤ c && c ≤ '\r')
  let (negative, digits) := Decimal.splitSign start
  let signed (n : Nat) : Int := if negative then -n else n
  match digits with
  | '0' :: x :: rest =>
    let hex := hexDigits rest.length rest
    let bits := rest.takeWhile fun c => c == '0' || c == '1'
    if (x == 'x' || x == 'X') && !hex.isEmpty then
      (signed (digitsIn 16 hex), rest.drop hex.length)
    else if (x == 'b' || x == 'B') && !bits.isEmpty then
      (signed (digitsIn 2 bits), rest.drop bits.length)
    else
      let octal := octalDigits (rest.length + 1) (x :: rest)
      (signed (digitsIn 8 octal), (x :: rest).drop octal.length)
  | digits =>
    let decimal := digits.takeWhile Char.isDigit
    if decimal.isEmpty then (0, cs)
    else (signed (Decimal.digitsValue decimal), digits.drop decimal.length)

/-- The code of a character behind a quote, if the text is one. -/
def readCode? (d : Dialect) (text : String) : Option (NumberRead Int) :=
  match d, text.toList with
  | d, q :: c :: rest =>
    if q == '\'' || q == '"' then
      let unused := d = .program && !rest.isEmpty
      some ⟨c.toNat, if unused then [.unused (String.ofList rest)] else []⟩
    else none
  | .script, [q] => if q == '\'' || q == '"' then some ⟨0, []⟩ else none
  | _, _ => none

/-- The whole number that an argument writes, brought into range. -/
def readInteger (d : Dialect) (signed : Bool) (text : String) : NumberRead Int :=
  match readCode? d text with
  | some read => read
  | none =>
    let (n, rest) := takeInteger text.toList
    let largest : Int := if signed then 9223372036854775807 else 18446744073709551615
    let smallest : Int := if signed then -9223372036854775808 else -18446744073709551615
    let value := if signed then max smallest (min largest n)
      else if n < smallest then largest else min largest n
    ⟨value, numberFaults d text rest (smallest ≤ n && n ≤ largest)⟩

/-- The number with places that an argument writes. -/
def readFloating (d : Dialect) (text : String) : NumberRead Decimal.Floating :=
  match readCode? d text with
  | some read => ⟨(d.precision.round false read.value.toNat 1).1, read.faults⟩
  | none =>
    let read := d.precision.read text.toList
    ⟨read.value, numberFaults d text read.rest read.inRange⟩

/-! ## Directives -/

/-- A width or a precision: none, a number, or the next argument. -/
inductive Measure where
  | absent
  | number (n : Nat)
  | argument
deriving Repr, DecidableEq

/-- A directive of a format as it is written. -/
structure Directive where
  flags : List Char
  width : Measure
  precision : Measure
  kind : Char

/-- A directive with its measures known. -/
structure Layout where
  flags : List Char
  width : Nat
  precision : Option Nat
  kind : Char

/-- The flags of directives. -/
def flagChars : List Char := ['-', '+', ' ', '0', '#']

/-- The measure at the front, and what follows it. -/
def takeMeasure (cs : List Char) : Measure × List Char :=
  match cs with
  | '*' :: rest => (.argument, rest)
  | cs =>
    let digits := cs.takeWhile Char.isDigit
    (if digits.isEmpty then .absent else .number (Decimal.digitsValue digits),
      cs.drop digits.length)

/-- The kind of a directive that ends before its kind. -/
def noDirectiveKind : Char := '\x00'

/-- The directive behind a percent sign, and the number of characters it takes. -/
def Directive.read (d : Dialect) (cs : List Char) : Directive × Nat :=
  let more := if d = .program then flagChars ++ ['\'', 'I'] else flagChars
  let flags := cs.takeWhile more.contains
  let (width, rest) := takeMeasure (cs.drop flags.length)
  let (precision, rest) : Measure × List Char := match rest with
    | '.' :: rest =>
      let (p, rest) := takeMeasure rest
      (if p = .absent then .number 0 else p, rest)
    | rest => (.absent, rest)
  let sizes := if d = .program
    then rest.takeWhile fun c => ['l', 'L', 'h', 'j', 't', 'z'].contains c else []
  match rest.drop sizes.length with
  | [] => (⟨flags, width, precision, noDirectiveKind⟩, cs.length)
  | kind :: rest => (⟨flags, width, precision, kind⟩, cs.length - rest.length)

/-- The kinds of directives for whole numbers with a sign, without one, and for numbers with
places. -/
def signedKinds : List Char := ['d', 'i']

/-- The kinds of directives for whole numbers without a sign. -/
def unsignedKinds : List Char := ['u', 'o', 'x', 'X']

/-- The kinds of directives for numbers with places. -/
def floatingKinds : List Char := ['a', 'A', 'e', 'E', 'f', 'F', 'g', 'G']

/-- The dialect knows a directive like this.  The program is particular about flags. -/
def Directive.isKnown (d : Dialect) (f : Directive) : Bool :=
  let all := ['s', 'b', 'c'] ++ signedKinds ++ unsignedKinds ++ floatingKinds
  let grouped := f.flags.any fun c => c == '\'' || c == 'I'
  match d with
  | .script => all.contains f.kind
  | .program =>
    if f.kind == 'b' || f.kind == 'q' then
      f.flags.isEmpty && f.width = .absent && f.precision = .absent
    else all.contains f.kind
      && !(f.flags.contains '#' && ['c', 'd', 'i', 's', 'u'].contains f.kind)
      && !(f.flags.contains '0' && ['c', 's'].contains f.kind)
      && !(f.precision ≠ .absent && f.kind == 'c')
      && !(grouped && ['a', 'A', 'c', 'e', 'E', 'o', 's', 'x', 'X'].contains f.kind)

/-- A text in a column, behind something that zeros do not go in front of. -/
def Layout.pad (l : Layout) (head body : String) (zeros : Bool) : String :=
  let missing := l.width - head.length - body.length
  let fill (c : Char) : String := String.ofList (List.replicate missing c)
  if l.flags.contains '-' then head ++ body ++ fill ' '
  else if zeros then head ++ fill '0' ++ body
  else fill ' ' ++ head ++ body

/-- The sign in front of a number. -/
def Layout.sign (l : Layout) (negative : Bool) : String :=
  if negative then "-"
  else if l.flags.contains '+' then "+"
  else if l.flags.contains ' ' then " "
  else ""

/-- A text, cut to the precision. -/
def Layout.text (l : Layout) (cs : List Char) : String :=
  l.pad "" (String.ofList (l.precision.elim cs cs.take)) false

/-- A whole number. -/
def Layout.integer (l : Layout) (value : Int) : String :=
  let signed := signedKinds.contains l.kind
  let size := if signed then value.natAbs else (value % 18446744073709551616).toNat
  let base := if l.kind == 'o' then 8 else if l.kind == 'x' || l.kind == 'X' then 16 else 10
  let digits := if size = 0 && l.precision == some 0 then [] else Nat.toDigits base size
  let cased := if l.kind == 'X' then digits.map Char.toUpper else digits
  let long := List.replicate ((l.precision.getD 1) - digits.length) '0' ++ cased
  let marked := l.flags.contains '#'
  let long := if marked && l.kind == 'o' && long.head? != some '0' then '0' :: long else long
  let mark := if marked && size != 0 && base = 16 then "0" ++ l.kind.toString else ""
  l.pad ((if signed then l.sign (value < 0) else "") ++ mark) (String.ofList long)
    (l.flags.contains '0' && l.precision.isNone)

/-- A number with places. -/
def Layout.floating (d : Dialect) (l : Layout) (value : Decimal.Floating) : String :=
  let cased (s : String) : String := if l.kind.isUpper then s.map Char.toUpper else s
  let zeros := l.flags.contains '0'
  let point := l.flags.contains '#'
  match value with
  | .infinite negative => l.pad (l.sign negative) (cased "inf") false
  | .notANumber negative => l.pad (l.sign negative) (cased "nan") false
  | .finite negative size =>
    let places := l.precision.getD 6
    let sign := l.sign negative
    match l.kind.toLower with
    | 'f' => l.pad sign (size.fixed places point) zeros
    | 'e' => l.pad sign (cased (size.scientific places point)) zeros
    | 'g' => l.pad sign (cased (size.general places point)) zeros
    | _ =>
      let written := cased (size.hexadecimal d.precision l.precision point)
      l.pad (sign ++ String.ofList (written.toList.take 2))
        (String.ofList (written.toList.drop 2)) zeros

/-! ## Formats -/

/-- What was written so far, and what is wrong. -/
structure Formatted where
  /-- The texts that were written and the faults that were found in between, the last one first. -/
  events : List (Except ArgumentFault String)
  stopped : Option FormatFault
  more : Bool

namespace Formatted

/-- Nothing was written. -/
def start : Formatted := ⟨[], none, true⟩

/-- All that was written. -/
def output (f : Formatted) : String := String.join (f.events.reverse.filterMap Except.toOption)

/-- All that is wrong with the arguments. -/
def faults (f : Formatted) : List ArgumentFault :=
  f.events.reverse.filterMap fun
    | .error fault => some fault
    | .ok _ => none

/-- More is written. -/
def say (f : Formatted) (text : String) : Formatted := { f with events := .ok text :: f.events }

/-- More is wrong. -/
def note (f : Formatted) (faults : List ArgumentFault) : Formatted :=
  { f with events := faults.foldl (fun events fault => .error fault :: events) f.events }

/-- All output ends. -/
def stop (f : Formatted) (fault : Option FormatFault) : Formatted :=
  { f with stopped := fault, more := false }

end Formatted

/-- The next argument and the others. -/
def nextArg : List String → String × List String
  | [] => ("", [])
  | a :: rest => (a, rest)

/-- The largest measure that an argument can give. -/
def largestMeasure : Int := 2147483647

/-- A whole number as one of 32 bits. -/
def wrapMeasure (n : Int) : Int := (n + 2147483648) % 4294967296 - 2147483648

/-- The first size that is too wide. -/
def writtenLimit : Nat := 50000000

/-- A measure with the arguments that are left, what is wrong with it, and whether it fits. -/
def Measure.value (d : Dialect) (m : Measure) (args : List String) :
    Option Int × List String × List ArgumentFault × Option String :=
  match m with
  | absent => (none, args, [], none)
  | number n => (some n, args, [], none)
  | argument =>
    if args.isEmpty then (some 0, [], [], none)
    else
      let (arg, rest) := nextArg args
      let read := readInteger d true arg
      let fits := -largestMeasure - 1 ≤ read.value && read.value ≤ largestMeasure
      match d with
      | .program => (some read.value, rest, read.faults, if fits then none else some arg)
      | .script => (some (wrapMeasure read.value), rest, read.faults, none)

/-- What a directive writes for an argument. -/
def Layout.apply (d : Dialect) (l : Layout) (given : Bool) (arg : String) (f : Formatted) :
    Formatted :=
  if l.kind == 's' then f.say (l.text arg.toList)
  else if l.kind == 'q' then f.say (shellQuoted false arg)
  else if l.kind == 'b' then
    let (out, early) := unescape d arg.toList
    let f := f.say (l.text out)
    match early with
    | some (.fault fault) => f.stop (some fault)
    | some _ => f.stop none
    | none => f
  else if l.kind == 'c' then f.say (l.pad "" (arg.toList.headD '\x00').toString false)
  else if floatingKinds.contains l.kind then
    let read := readFloating d arg
    (f.note (if given then read.faults else [])).say (l.floating d read.value)
  else
    let read := readInteger d (signedKinds.contains l.kind) arg
    (f.note (if given then read.faults else [])).say (l.integer read.value)

/-- Carries out a directive with the arguments that are left.  Its measures are read even if there
is no directive like it. -/
def Directive.run (d : Dialect) (r : Directive) (written : String) (args : List String)
    (f : Formatted) : Formatted × List String :=
  let (width, args, faults, bad) := r.width.value d args
  let f := f.note faults
  match bad with
  | some text => (f.stop (some (.badWidth text)), args)
  | none =>
    let (precision, args, faults, bad) := r.precision.value d args
    let f := f.note faults
    match bad with
    | some text => (f.stop (some (.badPrecision text)), args)
    | none =>
      let (arg, rest) := nextArg args
      let size := width.getD 0
      let flags := if size < 0 then '-' :: r.flags else r.flags
      let places := (precision.filter (0 ≤ ·)).map Int.toNat
      if !r.isKnown d then
        let fault := if d = .script && r.kind = noDirectiveKind then .noKind else .unknown written
        (f.stop (some fault), args)
      else if writtenLimit ≤ max size.natAbs (places.getD 0) && r.kind != 's' then
        match d with
        | .script => (f.stop (some .tooWide), rest)
        | .program => (if f.faults.contains .tooWide then f else f.note [.tooWide], rest)
      else (Layout.apply d ⟨flags, size.natAbs, places, r.kind⟩ (!args.isEmpty) arg f, rest)

/-- One pass over a format: what was written, and the arguments that are left. -/
def formatOnce (d : Dialect) (f : Formatted) (args : List String) : (skip : Nat) → List Char →
    Formatted × List String
  | _, [] => (f, args)
  | skip + 1, _ :: cs => formatOnce d f args skip cs
  | 0, c :: cs =>
    if !f.more then (f, args)
    else if c == '\\' then
      match readEscape d .format cs with
      | (.stop, _) => (f.stop none, args)
      | (.fault fault, _) => (f.stop (some fault), args)
      | (.text s, n) => formatOnce d (f.say (String.ofList s)) args n cs
    else if c == '%' then
      if cs.head? == some '%' then formatOnce d (f.say "%") args 1 cs
      else
        let (r, n) := Directive.read d cs
        let (f, rest) := r.run d ("%" ++ String.ofList (cs.take n)) args f
        formatOnce d f rest n cs
    else formatOnce d (f.say c.toString) args 0 cs

/-- A format applied until its arguments are used up; a format that uses none is applied once.  The
passes are at most as many as there are arguments. -/
def formatAll (d : Dialect) (format : List Char) : (passes : Nat) → Formatted → List String →
    Formatted × List String
  | 0, f, args => (f, args)
  | passes + 1, f, args =>
    let (f', rest) := formatOnce d f args 0 format
    if rest.isEmpty || rest.length = args.length || !f'.more then (f', rest)
    else formatAll d format passes f' rest

/-- What a format writes for arguments, and the arguments that it has no use for. -/
def formatText (d : Dialect) (format : String) (args : List String) : Formatted × List String :=
  formatAll d format.toList (args.length + 1) .start args

end PipeShell.Toolbox
