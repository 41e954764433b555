import PipeShell.Toolbox.Script.Arithmetic
import PipeShell.Toolbox.Script.Machine

/-!
# Tests

The expressions of `test`: operators with one operand are about texts and files, those with two
compare texts, numbers or files, and `!`, `-a`, `-o` and parentheses combine them.

A word is an operator only where one can stand.  With three words the one in the middle is looked at
first, so that any text can be compared with any other.
-/

namespace PipeShell.Script.Test

/-- The operators with one operand. -/
def unary : List String :=
  ["-r", "-w", "-x", "-e", "-f", "-d", "-c", "-b", "-p", "-u", "-g", "-k", "-s", "-t", "-z", "-n",
   "-h", "-L", "-O", "-G", "-S"]

/-- The operators with two operands. -/
def binary : List String :=
  ["=", "!=", "<", ">", "-eq", "-ne", "-ge", "-gt", "-le", "-lt", "-nt", "-ot", "-ef"]

/-- The meaning of a word at some place. -/
inductive Token where
  | operand
  | unary (op : String)
  | binary (op : String)
  | not
  | and
  | or
  | opening
  | closing
  | ending
deriving Repr, DecidableEq

/-- What an operator with one operand has behind it is an operand. -/
def isOperand : List String → Bool
  | [] => true
  | [_] => false
  | op :: _ => binary.contains op

/-- The meaning of the first of some words. -/
def tokenAt : List String → Token
  | [] => .ending
  | "(" :: rest => if rest.isEmpty then .operand else .opening
  | ")" :: _ => .closing
  | "!" :: _ => .not
  | "-a" :: _ => .and
  | "-o" :: _ => .or
  | w :: rest =>
    if binary.contains w then .binary w
    else if unary.contains w && !isOperand rest then .unary w
    else .operand

/-- The entry that an operand names. -/
def entryOf? (m : Machine) (operand : String) : Option (Location × Entry) :=
  (m.world.disk.lookUp (m.path operand)).toOption

/-- What an operator says about a file. -/
def ofFile (m : Machine) (op operand : String) : Bool :=
  let found := (entryOf? m operand).map Prod.snd
  match op with
  | "-e" => found.isSome
  | "-r" => found.isSome
  | "-w" => found.isSome
  | "-O" => found.isSome
  | "-G" => found.isSome
  | "-d" => found.any (·.isDirectory)
  | "-f" => found.any (·.isFile)
  | "-x" => found.any fun e => e.isDirectory || e.isRunnable
  | "-s" => found.any fun e => 0 < e.size
  | "-c" =>
    match found with
    | some (.device _) => true
    | _ => false
  | "-h" => isLink
  | "-L" => isLink
  | _ => false
where
  /-- The path ends at a link. -/
  isLink : Bool :=
    match m.world.disk.lookUpLink (m.path operand) with
    | .ok (_, .link _) => true
    | _ => false

/-- What an operator says about two operands. -/
def ofTwo (m : Machine) (op a b : String) : Except String Bool :=
  let numbers (f : Int → Int → Bool) : Except String Bool :=
    match Arithmetic.decimal? a, Arithmetic.decimal? b with
    | some x, some y => .ok (f x y)
    | none, _ => .error (Arithmetic.badNumber a)
    | _, none => .error (Arithmetic.badNumber b)
  match op with
  | "=" => .ok (a == b)
  | "!=" => .ok (a != b)
  | "<" => .ok (decide (a < b))
  | ">" => .ok (decide (b < a))
  | "-eq" => numbers (· == ·)
  | "-ne" => numbers (· != ·)
  | "-lt" => numbers (· < ·)
  | "-le" => numbers (· ≤ ·)
  | "-gt" => numbers (· > ·)
  | "-ge" => numbers (· ≥ ·)
  | "-ef" =>
    .ok (match entryOf? m a, entryOf? m b with
      | some p, some q => p.1 == q.1
      | _, _ => false)
  | "-nt" => .ok ((entryOf? m a).isSome && (entryOf? m b).isNone)
  | "-ot" => .ok ((entryOf? m a).isNone && (entryOf? m b).isSome)
  | _ => .error (op ++ ": unexpected operator")

/-- The value of the front of some words, and the words from the last one that it used on. -/
abbrev Judged := Except String (Bool × List String)

mutual

/-- Alternatives. -/
def alternatives (m : Machine) (fuel : Nat) (t : Token) (ws : List String) : Judged :=
  match fuel with
  | 0 => .error "too many arguments"
  | fuel + 1 => do
    let (a, ws) ← conjuncts m fuel t ws
    match tokenAt ws.tail with
    | .or =>
      let ws := ws.tail.tail
      let (b, ws) ← alternatives m fuel (tokenAt ws) ws
      return (a || b, ws)
    | _ => return (a, ws)

/-- Things that all have to hold. -/
def conjuncts (m : Machine) (fuel : Nat) (t : Token) (ws : List String) : Judged :=
  match fuel with
  | 0 => .error "too many arguments"
  | fuel + 1 => do
    let (a, ws) ← negation m fuel t ws
    match tokenAt ws.tail with
    | .and =>
      let ws := ws.tail.tail
      let (b, ws) ← conjuncts m fuel (tokenAt ws) ws
      return (a && b, ws)
    | _ => return (a, ws)

/-- Something that can be negated. -/
def negation (m : Machine) (fuel : Nat) (t : Token) (ws : List String) : Judged :=
  match fuel with
  | 0 => .error "too many arguments"
  | fuel + 1 =>
    if t = .not then do
      let next := tokenAt ws.tail
      let (a, ws) ← negation m fuel next (if next = .ending then ws else ws.tail)
      return (!a, ws)
    else primary m fuel t ws

/-- An operator with its operands, or something in parentheses. -/
def primary (m : Machine) (fuel : Nat) (t : Token) (ws : List String) : Judged :=
  match fuel with
  | 0 => .error "too many arguments"
  | fuel + 1 =>
    match t, ws with
    | .ending, ws => .ok (false, ws)
    | .opening, ws =>
      let ws := ws.tail
      if tokenAt ws = .closing then .ok (false, ws)
      else do
        let (a, ws) ← alternatives m fuel (tokenAt ws) ws
        if tokenAt ws.tail = .closing then return (a, ws.tail)
        else throw "closing paren expected"
    | .unary op, ws =>
      match ws.tail with
      | [] => .error (op ++ ": argument expected")
      | a :: rest =>
        match op with
        | "-z" => .ok (a.isEmpty, a :: rest)
        | "-n" => .ok (!a.isEmpty, a :: rest)
        | "-t" =>
          if (Arithmetic.decimal? a).isNone then .error (Arithmetic.badNumber a)
          else .ok (false, a :: rest)
        | op => .ok (ofFile m op a, a :: rest)
    | _, a :: rest =>
      match tokenAt rest, rest.tail with
      | .binary op, [] => .error (op ++ ": argument expected")
      | .binary op, b :: rest => (ofTwo m op a b).map (·, b :: rest)
      | _, _ => .ok (!a.isEmpty, a :: rest)
    | _, [] => .ok (false, [])

end

/-- The value of a test. -/
def judge (m : Machine) : (fuel : Nat) → List String → Except String Bool
  | 0, _ => .error "too many arguments"
  | fuel + 1, ws =>
    let whole (t : Token) : Except String Bool := do
      let (a, rest) ← alternatives m (4 * ws.length + 8) t ws
      match rest with
      | w :: _ :: _ => throw ((if w.isEmpty then "" else w ++ ": ") ++ "unexpected operator")
      | _ => return a
    match ws with
    | [] => .ok false
    | a :: rest =>
      let middle := ws.length == 3 && (rest.head?.map binary.contains).getD false
      if middle then whole .operand
      else if ws.length == 3 || ws.length == 4 then
        if a == "(" && ws.getLast? == some ")" then judge m fuel rest.dropLast
        else if a == "!" then (judge m fuel rest).map (!·)
        else whole (tokenAt ws)
      else whole (tokenAt ws)

end PipeShell.Script.Test
