import PipeShell.NameMap
import PipeShell.Variable.Name

/-!
# Arithmetic in scripts

Whole numbers of 64 bits with the usual operators, which can also set variables.  An expression is
read once from left to right and evaluated on the way; a part that does not count, such as the
second operand of `0 && x`, is read without effect.

`Operator` lists the binary operators with how tightly they bind; operators of the same strength are
read from the left.
-/

namespace PipeShell.Script.Arithmetic

/-! ## Numbers -/

/-- The number of 64 bits that an integer comes down to. -/
def wrap (n : Int) : Int := Int.bmod n 18446744073709551616

/-- The largest number. -/
def largest : Int := 9223372036854775807

/-- A truth value as a number. -/
def truth (b : Bool) : Int := if b then 1 else 0

/-- The value of a digit in bases up to sixteen. -/
def digit? (c : Char) : Option Nat :=
  if c.isDigit then some (c.toNat - 48)
  else if 'a' ≤ c && c ≤ 'f' then some (c.toNat - 87)
  else if 'A' ≤ c && c ≤ 'F' then some (c.toNat - 55)
  else none

/-- The digits of a base at the front. -/
def digits (base : Nat) (cs : List Char) : List Char :=
  cs.takeWhile fun c => (digit? c).any (· < base)

/-- The number at the front of a text, decimal, or octal after `0`, hexadecimal after `0x`, or
binary after `0b`, and what follows it. -/
def takeNumber (cs : List Char) : Nat × List Char :=
  let value (base : Nat) (ds : List Char) : Nat :=
    ds.foldl (fun n d => n * base + (digit? d).getD 0) 0
  match cs with
  | '0' :: x :: rest =>
    let hex := digits 16 rest
    let bits := digits 2 rest
    if (x == 'x' || x == 'X') && !hex.isEmpty then (value 16 hex, rest.drop hex.length)
    else if (x == 'b' || x == 'B') && !bits.isEmpty then (value 2 bits, rest.drop bits.length)
    else
      let octal := digits 8 (x :: rest)
      (value 8 octal, (x :: rest).drop octal.length)
  | cs =>
    let decimal := digits 10 cs
    (value 10 decimal, cs.drop decimal.length)

/-- A blank. -/
def isBlank (c : Char) : Bool := c == ' ' || ('\t' ≤ c && c ≤ '\r')

/-- The value of a text as a number: an optional sign and digits between blanks; nothing counts as
zero. -/
def number? (text : String) : Option Int :=
  let cs := text.toList.dropWhile isBlank
  let negative := cs.head? == some '-'
  let unsigned := if negative || cs.head? == some '+' then cs.tail else cs
  let starts := (unsigned.head?.map Char.isDigit).getD false
  let (size, rest) := if starts then takeNumber unsigned else (0, cs)
  let n : Int := if negative && starts then -size else size
  if rest.any (fun c => !isBlank c) || n < -largest - 1 || largest < n then none else some n

/-- The value of a text that writes a number in decimal digits: an optional sign and digits between
blanks. -/
def decimal? (text : String) : Option Int :=
  let cs := text.toList.dropWhile isBlank
  let cs := (cs.reverse.dropWhile isBlank).reverse
  let unsigned := if cs.head? == some '-' || cs.head? == some '+' then cs.tail else cs
  if unsigned.isEmpty || !unsigned.all Char.isDigit then none
  else
    let size : Nat := unsigned.foldl (fun n c => n * 10 + (c.toNat - 48)) 0
    let n : Int := if cs.head? == some '-' then -(size : Int) else size
    if -largest - 1 ≤ n && n ≤ largest then some n else none

/-- The text shown to the user about a text that is no number. -/
def badNumber (text : String) : String := "Illegal number: " ++ text

/-! ## Operators -/

/-- A binary operator: its spelling, how tightly it binds, and what it does. -/
structure Operator where
  spelling : String
  strength : Nat
  apply : Int → Int → Option Int
  /-- With an equals sign behind it the operator sets a variable. -/
  assigns : Bool

/-- The bits of a number. -/
def bits (n : Int) : BitVec 64 := BitVec.ofInt 64 n

/-- The operators, longer spellings first. -/
def operators : List Operator :=
  [⟨"<<", 5, fun a b => some ((bits a <<< (b % 64).toNat).toInt), true⟩,
   ⟨">>", 5, fun a b => some (((bits a).sshiftRight (b % 64).toNat).toInt), true⟩,
   ⟨"==", 3, fun a b => some (truth (a = b)), false⟩,
   ⟨"!=", 3, fun a b => some (truth (a ≠ b)), false⟩,
   ⟨"<=", 4, fun a b => some (truth (a ≤ b)), false⟩,
   ⟨">=", 4, fun a b => some (truth (b ≤ a)), false⟩,
   ⟨"<", 4, fun a b => some (truth (a < b)), false⟩,
   ⟨">", 4, fun a b => some (truth (b < a)), false⟩,
   ⟨"+", 6, fun a b => some (wrap (a + b)), true⟩,
   ⟨"-", 6, fun a b => some (wrap (a - b)), true⟩,
   ⟨"*", 7, fun a b => some (wrap (a * b)), true⟩,
   ⟨"/", 7, fun a b => if b = 0 then none else some (wrap (a.tdiv b)), true⟩,
   ⟨"%", 7, fun a b => if b = 0 then none else some (a.tmod b), true⟩,
   ⟨"&", 2, fun a b => some ((bits a &&& bits b).toInt), true⟩,
   ⟨"^", 1, fun a b => some ((bits a ^^^ bits b).toInt), true⟩,
   ⟨"|", 0, fun a b => some ((bits a ||| bits b).toInt), true⟩]

/-- The characters without blanks in front. -/
def skipBlanks (cs : List Char) : List Char :=
  cs.dropWhile fun c => c == ' ' || c == '\t' || c == '\n'

/-- What follows a text at the front, blanks aside. -/
def after? (text : String) (cs : List Char) : Option (List Char) :=
  let cs := skipBlanks cs
  if text.toList.isPrefixOf cs then some (cs.drop text.length) else none

/-- The binary operator at the front, if it binds at least this tightly, and what follows it. -/
def operator? (strength : Nat) (cs : List Char) : Option (Operator × List Char) :=
  let cs := skipBlanks cs
  let other := (after? "&&" cs).isSome || (after? "||" cs).isSome
  match operators.find? fun op => op.spelling.toList.isPrefixOf cs with
  | some op =>
    let rest := cs.drop op.spelling.length
    if other || op.strength < strength || (op.assigns && rest.head? == some '=') then none
    else some (op, rest)
  | none => none

/-- The assignment at the front: the operator that goes with it, if any, and what follows. -/
def assignment? (cs : List Char) : Option (Option Operator × List Char) :=
  let cs := skipBlanks cs
  match cs with
  | '=' :: rest => if rest.head? == some '=' then none else some (none, rest)
  | cs =>
    match operators.find? fun op => op.assigns && op.spelling.toList.isPrefixOf cs with
    | some op =>
      match cs.drop op.spelling.length with
      | '=' :: rest => some (some op, rest)
      | _ => none
    | none => none

/-! ## Expressions -/

/-- What is wrong with an expression. -/
inductive Wrong where
  | expecting (what : String)
  | divisionByZero
  /-- The value of a variable is no number. -/
  | notANumber (text : String)
deriving Repr, DecidableEq

/-- The variables that an expression sees and sets. -/
structure Variables where
  value? : String → Option String
  /-- What was set, the latest first. -/
  changes : List (String × Int)

/-- The value of a variable. -/
def Variables.number (v : Variables) (name : String) : Except Wrong Int :=
  match v.changes.lookup name with
  | some n => .ok n
  | none =>
    let text := (v.value? name).getD ""
    match number? text with
    | some n => .ok n
    | none => .error (.notANumber text)

/-- A reader of an expression: from the variables and what is left of the text to the value. -/
abbrev Reader := StateT (Variables × List Char) (Except Wrong)

/-- What is left of the text. -/
def rest : Reader (List Char) := return (← get).2

/-- Goes on with this text. -/
def goOn (cs : List Char) : Reader Unit := modify fun s => (s.1, cs)

mutual

/-- A number, a variable, an expression in parentheses, or one of these behind a sign. -/
def primary (fuel : Nat) (counts : Bool) : Reader Int :=
  match fuel with
  | 0 => throw (.expecting "primary")
  | fuel + 1 => do
    match skipBlanks (← rest) with
    | '-' :: cs => goOn cs; return wrap (-(← primary fuel counts))
    | '+' :: cs => goOn cs; primary fuel counts
    | '~' :: cs => goOn cs; return -(← primary fuel counts) - 1
    | '!' :: cs =>
      if cs.head? == some '=' then throw (.expecting "primary")
      goOn cs
      return truth ((← primary fuel counts) == 0)
    | '(' :: cs =>
      goOn cs
      let n ← expression fuel counts
      match after? ")" (← rest) with
      | some cs => goOn cs; return n
      | none => throw (.expecting "')'")
    | c :: cs =>
      if c.isDigit then
        let (n, cs) := takeNumber (c :: cs)
        goOn cs
        return min n largest
      else if isNameStart c then
        let name := c :: cs.takeWhile isNameChar
        goOn (cs.drop (name.length - 1))
        if counts then
          match (← get).1.number (String.ofList name) with
          | .ok n => return n
          | .error e => throw e
        else return 0
      else throw (.expecting "primary")
    | [] => throw (.expecting "primary")

/-- Operands with binary operators between them that bind at least this tightly. -/
def binary (fuel : Nat) (counts : Bool) (strength : Nat) : Reader Int :=
  match fuel with
  | 0 => throw (.expecting "primary")
  | fuel + 1 => do
    let n ← primary fuel counts
    binaryFrom fuel counts strength n

/-- The operators after a first operand. -/
def binaryFrom (fuel : Nat) (counts : Bool) (strength : Nat) (n : Int) : Reader Int :=
  match fuel with
  | 0 => throw (.expecting "primary")
  | fuel + 1 => do
    match operator? strength (← rest) with
    | none => return n
    | some (op, cs) =>
      goOn cs
      let k ← binary fuel counts (op.strength + 1)
      if counts then
        match op.apply n k with
        | none => throw .divisionByZero
        | some value => binaryFrom fuel counts strength value
      else binaryFrom fuel counts strength 0

/-- Operands with `&&` between them. -/
def conjunction (fuel : Nat) (counts : Bool) : Reader Int :=
  match fuel with
  | 0 => throw (.expecting "primary")
  | fuel + 1 => do
    let n ← binary fuel counts 0
    match after? "&&" (← rest) with
    | none => return n
    | some cs =>
      goOn cs
      let k ← conjunction fuel (counts && n != 0)
      return truth (n != 0 && k != 0)

/-- Operands with `||` between them. -/
def disjunction (fuel : Nat) (counts : Bool) : Reader Int :=
  match fuel with
  | 0 => throw (.expecting "primary")
  | fuel + 1 => do
    let n ← conjunction fuel counts
    match after? "||" (← rest) with
    | none => return n
    | some cs =>
      goOn cs
      let k ← disjunction fuel (counts && n == 0)
      return truth (n != 0 || k != 0)

/-- A choice by `?` and `:`. -/
def conditional (fuel : Nat) (counts : Bool) : Reader Int :=
  match fuel with
  | 0 => throw (.expecting "primary")
  | fuel + 1 => do
    let n ← disjunction fuel counts
    match after? "?" (← rest) with
    | none => return n
    | some cs =>
      goOn cs
      let yes ← expression fuel (counts && n != 0)
      match after? ":" (← rest) with
      | none => throw (.expecting "':'")
      | some cs =>
        goOn cs
        let no ← conditional fuel (counts && n == 0)
        return if n != 0 then yes else no

/-- An expression, which can be an assignment. -/
def expression (fuel : Nat) (counts : Bool) : Reader Int :=
  match fuel with
  | 0 => throw (.expecting "primary")
  | fuel + 1 => do
    let cs := skipBlanks (← rest)
    let name := if (cs.head?.map isNameStart).getD false then cs.takeWhile isNameChar else []
    match if name.isEmpty then none else assignment? (cs.drop name.length) with
    | none => conditional fuel counts
    | some (op, cs) =>
      goOn cs
      let n ← expression fuel counts
      if !counts then return n
      let value ← match op with
        | none => pure n
        | some op =>
          match (← get).1.number (String.ofList name) with
          | .error e => throw e
          | .ok k =>
            match op.apply k n with
            | none => throw .divisionByZero
            | some value => pure value
      modify fun s => ({ s.1 with changes := (String.ofList name, value) :: s.1.changes }, s.2)
      return value

end

/-- The value of an expression and the variables that it sets, the latest first, or what is
wrong. -/
def evaluate (value? : String → Option String) (text : String) :
    Except Wrong (Int × List (String × Int)) :=
  match (expression (8 * text.length + 16) true).run (⟨value?, []⟩, text.toList) with
  | .error e => .error e
  | .ok (n, vars, rest) =>
    if (skipBlanks rest).isEmpty then .ok (n, vars.changes) else .error (.expecting "EOF")

/-- The text shown to the user about an expression. -/
def Wrong.message (expression : String) : Wrong → String
  | expecting what => "arithmetic expression: expecting " ++ what ++ ": \"" ++ expression ++ "\""
  | divisionByZero => "arithmetic expression: division by zero: \"" ++ expression ++ "\""
  | notANumber text => badNumber text

end PipeShell.Script.Arithmetic
