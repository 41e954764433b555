import PipeShell.Variable.Name

/-!
# Lexemes of scripts

Programs can be scripts, read by an interpreter with a small language of its own: words with quotes
and expansions, operators, redirections and newlines.  A `Part` of a word is a text or something to
be expanded later; what stands inside an expansion is kept as text and read when its time comes.

`lexemes` reads a whole script.  Reading ends at the first thing that is no lexeme, and the lexemes
before it are kept, because a script runs up to the line that is wrong.

A text can be given right in the script, between a redirection `<<` and a line that ends it.  Such a
*document* is found when the line of its redirection is over, and then put in the place of the word
behind that redirection.

All texts of scripts are texts of bytes (`PipeShell.Text.ofOctets`).
-/

namespace PipeShell.Script

/-- How the value of a parameter is used. -/
inductive Form where
  | plain
  | length
  /-- Changed by an operator and a word, as in `${a:-b}`. -/
  | changed (operator word : String)
deriving Repr, DecidableEq

/-- A part of a word. -/
inductive Part where
  | text (s : String) (quoted : Bool)
  | parameter (name : String) (form : Form) (quoted : Bool)
  /-- The output of a script, which begins on some line and can stand between back quotes. -/
  | output (script : String) (line : Nat) (ticked quoted : Bool)
  | arithmetic (text : String) (quoted : Bool)
  /-- An expansion that is none. -/
  | malformed
deriving Repr, DecidableEq

/-- A word of a script. -/
abbrev Word := List Part

/-- A unit of a script. -/
inductive Lexeme where
  | word (w : Word)
  | operator (s : String)
  /-- A redirection operator, and the number written right before it. -/
  | redirect (number : Option Nat) (s : String)
  | newline
deriving Repr, DecidableEq

/-- What is wrong with a script. -/
inductive ScriptError where
  | openQuote
  | openBrace
  | openArithmetic
  | openBackQuote
  /-- A script between parentheses that the whole rest of the text belongs to. -/
  | openScript (script : String)
  | badLoopVariable
  | badFunctionName
  | badChannel
  | unexpected (what : String) (expecting : Option String)
deriving Repr, DecidableEq

/-- The text shown to the user. -/
def ScriptError.message (e : ScriptError) : String :=
  "Syntax error: " ++ match e with
    | openQuote => "Unterminated quoted string"
    | openBrace => "Missing '\x7d'"
    | openArithmetic => "Missing '))'"
    | openBackQuote => "EOF in backquote substitution"
    | openScript _ => "end of file unexpected (expecting \")\")"
    | badLoopVariable => "Bad for loop variable"
    | badFunctionName => "Bad function name"
    | badChannel => "Bad fd number"
    | unexpected what none => what ++ " unexpected"
    | unexpected what (some e) => what ++ " unexpected (expecting " ++ e ++ ")"

/-- The script ends where more was to come. -/
def ScriptError.unfinished (expecting : Option String) : ScriptError :=
  .unexpected "end of file" expecting

/-! ## Characters -/

/-- A character that ends a word. -/
def endsWord (c : Char) : Bool :=
  [' ', '\t', '\n', '|', '&', ';', '(', ')', '<', '>'].contains c

/-- A parameter with a name of one character. -/
def isSpecial (c : Char) : Bool :=
  ['@', '*', '#', '?', '$', '!', '-'].contains c

/-- The name of a parameter at the front. -/
def takeName (cs : List Char) : List Char :=
  match cs with
  | [] => []
  | c :: rest =>
    if isNameStart c then c :: rest.takeWhile isNameChar
    else if c.isDigit then c :: rest.takeWhile Char.isDigit
    else if isSpecial c then [c]
    else []

/-- The number of newlines. -/
def newlines (cs : List Char) : Nat := cs.count '\n'

/-! ## Back quotes and braces -/

/-- The characters up to the back quote that ends a script, and those after it.  A backslash in it
is taken away from a back quote, a dollar sign and a backslash; between double quotes, from a double
quote as well. -/
def takeBackQuoted (quoted : Bool) : List Char → Option (List Char × List Char)
  | [] => none
  | ['\\'] => none
  | '\\' :: c :: cs =>
    let bare := c == '\x60' || c == '$' || c == '\\' || (quoted && c == '"')
    (takeBackQuoted quoted cs).map fun p => ((if bare then [c] else ['\\', c]) ++ p.1, p.2)
  | c :: cs =>
    if c == '\x60' then some ([], cs)
    else (takeBackQuoted quoted cs).map fun p => (c :: p.1, p.2)

/-- The operators on a parameter, longer ones first. -/
def parameterOperators : List String :=
  [":-", ":=", ":+", ":?", ":\x7d", "##", "%%", "-", "=", "+", "?", "#", "%"]

/-- How many characters behind the name of a parameter are taken for an operator, whatever they
are. -/
def operatorLength : List Char → Nat
  | ':' :: _ => 2
  | '%' :: rest => if rest.head? == some '%' then 2 else 1
  | '#' :: rest => if rest.head? == some '#' then 2 else 1
  | '\x7d' :: _ => 0
  | _ => 1

/-- How many characters behind an opening brace are taken for a parameter and an operator.  Quotes
have no meaning there. -/
def headLength (cs : List Char) : Nat :=
  let plain : Nat :=
    let name := takeName cs
    if name.isEmpty then (if cs.head? == some '\x7d' then 0 else 1)
    else name.length + operatorLength (cs.drop name.length)
  match cs with
  | '#' :: c :: rest =>
    if isNameChar c then 1 + (takeName (c :: rest)).length
    else if c != '\x7d' && rest.head? == some '\x7d' then 2
    else plain
  | _ => plain

/-- The expansion between braces. -/
def readBraced (quoted : Bool) (inside : List Char) : Part :=
  let changed (name rest : List Char) : Part :=
    if name.isEmpty then .malformed
    else if rest.isEmpty then .parameter (String.ofList name) .plain quoted
    else
      match parameterOperators.find? fun op => op.toList.isPrefixOf rest with
      | some op =>
        .parameter (String.ofList name)
          (.changed op (String.ofList (rest.drop op.length))) quoted
      | none => .malformed
  match inside with
  | '#' :: c :: rest =>
    let name := takeName (c :: rest)
    if name.length = rest.length + 1 then .parameter (String.ofList name) .length quoted
    else if isNameChar c || rest.isEmpty then .malformed
    else changed ['#'] (c :: rest)
  | inside =>
    let name := takeName inside
    changed name (inside.drop name.length)

/-! ## Words and scripts -/

/-- The parts of a word that is written at the front of some characters.  The line of a script in it
is counted from `line`; so far it is given as the number of characters from its start on. -/
def locate (line : Nat) (cs : List Char) (w : Word) : Word :=
  w.map fun
    | .output script left false quoted =>
      .output script (line + newlines (cs.take (cs.length - left))) false quoted
    | .output script _ true quoted => .output script 1 true quoted
    | part => part

/-- The parts of a word with one more text; texts next to each other that are quoted alike become
one. -/
def addText (s : String) (quoted : Bool) : List Part → List Part
  | .text t q :: parts => if q = quoted then .text (s ++ t) q :: parts
    else .text s quoted :: .text t q :: parts
  | parts => .text s quoted :: parts

/-- The parts of a text between double quotes.  The quotes count for an empty text, but not if all
that they hold is the list of the arguments. -/
def quotedParts : List Part → List Part
  | [.parameter "@" .plain true, .text "" true] => [.parameter "@" .plain true]
  | parts => parts

/-- The text of a word without quotes and expansions. -/
def bareText? : Word → Option String
  | [.text s false] => some s
  | _ => none

/-- What surrounds a text that is read as if between double quotes. -/
inductive Surround where
  /-- Double quotes. -/
  | quotes
  /-- The braces of an expansion that stands between double quotes. -/
  | braces
  /-- The brackets of an arithmetic expansion, in which a double quote is only a character. -/
  | arithmetic
  /-- Nothing: the text is a document. -/
  | document
deriving Repr, DecidableEq

/-- The characters that a backslash takes the meaning from. -/
def Surround.escapable : Surround → List Char
  | quotes => ['$', '\x60', '"', '\\']
  | braces => ['$', '\x60', '"', '\\', '\x7d']
  | arithmetic => ['$', '\x60', '"', '\\']
  | document => ['$', '\x60', '\\']

/-- A document that begins at the next newline. -/
structure Awaited where
  /-- Tabs at the start of lines do not count. -/
  strip : Bool
  delimiter : String
  /-- Nothing is expanded in it. -/
  literal : Bool

/-- The lines of a document, the characters after it, and the number of its newlines.  A backslash
at the end of a line hides what the next line is, unless the document is literal. -/
def takeDocument (a : Awaited) : (fuel : Nat) → (hidden : Bool) → List Char →
    List Char × List Char × Nat
  | 0, _, cs => ([], cs, 0)
  | fuel + 1, hidden, cs =>
    match cs with
    | [] => ([], [], 0)
    | cs =>
      let whole := cs.takeWhile (· ≠ '\n')
      let after := cs.drop whole.length
      let line := if a.strip && !hidden then whole.dropWhile (· == '\t') else whole
      if !hidden && String.ofList line == a.delimiter then
        ([], after.tail, if after.isEmpty then 0 else 1)
      else
        let slashes := (line.reverse.takeWhile (· == '\\')).length
        let next := takeDocument a fuel (!a.literal && slashes % 2 == 1) after.tail
        if after.isEmpty then (line, [], 0)
        else (line ++ '\n' :: next.1, next.2.1, next.2.2 + 1)

/-- Where the reading of a script stands. -/
structure Scan where
  line : Nat
  /-- The documents that begin at the next newline. -/
  awaited : List Awaited
  /-- The last lexeme was the redirection of a document, with tabs stripped or not. -/
  marked : Option Bool
  /-- The script stands between parentheses, and ends where they close. -/
  nested : Bool
  /-- What is open in a nested script, the innermost first: a parenthesis or a `case`. -/
  opened : List Bool
  /-- A command can begin here. -/
  fresh : Bool

/-- What was read of a script. -/
structure Lexed where
  lexemes : List (Lexeme × Nat)
  /-- The documents, in the order of their redirections. -/
  documents : List Word
  fault : Option (ScriptError × Nat)
  /-- What stands after a nested script. -/
  rest : List Char

/-- The operators, longer ones first. -/
def operators : List String := ["&&", "||", ";;", "|", "&", ";", "(", ")"]

/-- The redirection operators, longer ones first. -/
def redirects : List String := ["<<-", "<<", ">>", ">&", ">|", "<&", "<>", "<", ">"]

/-- The operator of a list at the front. -/
def operatorAt? (ops : List String) (cs : List Char) : Option String :=
  ops.find? fun op => op.toList.isPrefixOf cs

/-- The words behind which a command can begin. -/
def freshening : List String :=
  ["if", "then", "else", "elif", "while", "until", "do", "in", "!", "\x7b"]

/-- The scan behind a word. -/
def Scan.afterWord (s : Scan) (w : Word) (line : Nat) : Scan :=
  let bare := (bareText? w).getD ""
  let opened := match s.opened with
    | false :: outer => if s.fresh && bare == "esac" then outer else false :: outer
    | opened => opened
  let opened := if s.fresh && bare == "case" then false :: opened else opened
  let text (p : Part) : String := match p with
    | .text t _ => t
    | _ => ""
  let quoted (p : Part) : Bool := match p with
    | .text _ q => q
    | _ => false
  let awaited := match s.marked with
    | some strip => s.awaited ++ [⟨strip, String.join (w.map text), w.any quoted⟩]
    | none => s.awaited
  { s with line, opened, awaited, marked := none, fresh := freshening.contains bare }

/-- The scan behind an operator. -/
def Scan.afterOperator (s : Scan) (op : String) : Scan :=
  let opened := if op == "(" then true :: s.opened else match op, s.opened with
    | ")", true :: outer => outer
    | _, opened => opened
  { s with opened, marked := none, fresh := true }

/-- Nothing was read, and this is wrong. -/
def Lexed.failed (e : ScriptError) (line : Nat) : Lexed := ⟨[], [], some (e, line), []⟩

/-- The result with one more lexeme in front. -/
def Lexed.cons (l : Lexeme) (line : Nat) (more : Lexed) : Lexed :=
  { more with lexemes := (l, line) :: more.lexemes }

/-- A text and the characters after it, or what is wrong. -/
abbrev Taken := Except ScriptError (List Char × List Char)

/-- The result with characters in front. -/
def Taken.prepend (cs : List Char) (t : Taken) : Taken :=
  t.map fun p => (cs ++ p.1, p.2)

mutual

/-- What is written behind a dollar sign as one expansion, with its brackets. -/
def takeDollar (fuel : Nat) (cs : List Char) : Taken :=
  match fuel with
  | 0 => .error .openQuote
  | fuel + 1 =>
    match cs with
    | '(' :: '(' :: rest =>
      (takeArithmetic fuel 0 rest).map fun p => (['(', '('] ++ p.1 ++ [')', ')'], p.2)
    | '(' :: rest => (takeScript fuel rest).map fun p => ('(' :: p.1 ++ [')'], p.2)
    | '\x7b' :: rest =>
      let head := rest.take (headLength rest)
      (takeBraced fuel false none (rest.drop head.length)).map fun p =>
        ('\x7b' :: head ++ p.1 ++ ['\x7d'], p.2)
    | cs => .ok ([], cs)

/-- The characters of an arithmetic expansion. -/
def takeArithmetic (fuel depth : Nat) (cs : List Char) : Taken :=
  match fuel with
  | 0 => .error .openArithmetic
  | fuel + 1 =>
    match cs with
    | [] => .error .openArithmetic
    | ')' :: rest =>
      match depth, rest with
      | 0, ')' :: rest => .ok ([], rest)
      | depth, rest => Taken.prepend [')'] (takeArithmetic fuel (depth - 1) rest)
    | '(' :: rest => Taken.prepend ['('] (takeArithmetic fuel (depth + 1) rest)
    | '\\' :: c :: rest => Taken.prepend ['\\', c] (takeArithmetic fuel depth rest)
    | '$' :: rest =>
      match takeDollar fuel rest with
      | .error e => .error e
      | .ok (inside, rest) => Taken.prepend ('$' :: inside) (takeArithmetic fuel depth rest)
    | c :: rest => Taken.prepend [c] (takeArithmetic fuel depth rest)

/-- The characters of a script between parentheses. -/
def takeScript (fuel : Nat) (cs : List Char) : Taken :=
  match fuel with
  | 0 => .error (.openScript (String.ofList cs))
  | fuel + 1 =>
    let inside := lexFrom fuel ⟨0, [], none, true, [], true⟩ cs
    match inside.fault with
    | some _ => .error (.openScript (String.ofList cs))
    | none => .ok (cs.take (cs.length - inside.rest.length - 1), inside.rest)

/-- The characters between braces.  Quotes hide a closing brace: those that are open now (`quote`)
and, outside double quotes (`outer`), those that open in between. -/
def takeBraced (fuel : Nat) (outer : Bool) (quote : Option Char) (cs : List Char) : Taken :=
  let unfinished : ScriptError := if outer || quote.isSome then .openQuote else .openBrace
  match fuel with
  | 0 => .error unfinished
  | fuel + 1 =>
    match cs with
    | [] => .error unfinished
    | c :: rest =>
      let keep (quote : Option Char) : Taken :=
        Taken.prepend [c] (takeBraced fuel outer quote rest)
      if quote == some '\'' then keep (if c == '\'' then none else quote)
      else if c == '\\' then
        match rest with
        | d :: rest => Taken.prepend [c, d] (takeBraced fuel outer quote rest)
        | [] => .error unfinished
      else if c == '$' then
        match takeDollar fuel rest with
        | .error e => .error e
        | .ok (inside, rest) => Taken.prepend (c :: inside) (takeBraced fuel outer quote rest)
      else if c == '\x60' then
        match takeBackQuoted false rest with
        | none => .error .openBackQuote
        | some (_, after) =>
          Taken.prepend (cs.take (cs.length - after.length)) (takeBraced fuel outer quote after)
      else if c == '"' then keep (if quote == some '"' then none else some '"')
      else if c == '\'' && quote == none && !outer then keep (some '\'')
      else if c == '\x7d' && quote == none then .ok ([], rest)
      else keep quote

/-- The part behind a dollar sign, and the characters after it. -/
def readDollar (fuel : Nat) (quoted : Bool) (cs : List Char) :
    Except ScriptError (Part × List Char) :=
  match fuel with
  | 0 => .error .openQuote
  | fuel + 1 =>
    match cs with
    | '(' :: '(' :: rest =>
      (takeArithmetic fuel 0 rest).map fun p => (.arithmetic (String.ofList p.1) quoted, p.2)
    | '(' :: rest =>
      (takeScript fuel rest).map fun p => (.output (String.ofList p.1) rest.length false quoted, p.2)
    | '\x7b' :: rest =>
      let head := rest.take (headLength rest)
      (takeBraced fuel quoted none (rest.drop head.length)).map fun p =>
        (readBraced quoted (head ++ p.1), p.2)
    | c :: rest =>
      if c.isDigit then .ok (.parameter c.toString .plain quoted, rest)
      else
        let name := takeName cs
        if name.isEmpty then .ok (.text "$" quoted, cs)
        else .ok (.parameter (String.ofList name) .plain quoted, cs.drop name.length)
    | [] => .ok (.text "$" quoted, cs)

/-- The parts of a text that stands as if between double quotes, and the characters after it. -/
def readDouble (fuel : Nat) (around : Surround) (cs : List Char) :
    Except ScriptError (List Part × List Char) :=
  match fuel with
  | 0 => .error .openQuote
  | fuel + 1 =>
    match cs with
    | [] => if around == .quotes then .error .openQuote else .ok ([.text "" true], [])
    | c :: rest =>
      let literal (s : String) (rest : List Char) : Except ScriptError (List Part × List Char) :=
        (readDouble fuel around rest).map fun p => (addText s true p.1, p.2)
      if c == '"' && around == .quotes then .ok ([.text "" true], rest)
      else if c == '"' && around == .braces then readDouble fuel around rest
      else if c == '\\' then
        match rest with
        | '\n' :: rest => readDouble fuel around rest
        | d :: rest =>
          if around.escapable.contains d then literal d.toString rest
          else literal (String.ofList ['\\', d]) rest
        | [] => literal "\\" []
      else if c == '$' then
        match readDollar fuel true rest with
        | .error e => .error e
        | .ok (.text s _, rest) => literal s rest
        | .ok (part, rest) => (readDouble fuel around rest).map fun p => (part :: p.1, p.2)
      else if c == '\x60' then
        match takeBackQuoted (around != .document) rest with
        | none => .error .openBackQuote
        | some (inside, rest) =>
          (readDouble fuel around rest).map fun p =>
            (.output (String.ofList inside) 0 true true :: p.1, p.2)
      else
        let run := c :: rest.takeWhile fun c => !(['"', '\\', '$', '\x60'].contains c)
        literal (String.ofList run) (cs.drop run.length)

/-- The parts of a word, and the characters after it.  With `whole` blanks and operators do not end
the word. -/
def readWord (fuel : Nat) (whole : Bool) (cs : List Char) :
    Except ScriptError (Word × List Char) :=
  match fuel with
  | 0 => .ok ([], cs)
  | fuel + 1 =>
    match cs with
    | [] => .ok ([], [])
    | c :: rest =>
      let literal (s : String) (quoted : Bool) (rest : List Char) :
          Except ScriptError (Word × List Char) :=
        (readWord fuel whole rest).map fun p => (addText s quoted p.1, p.2)
      if c == '\'' then
        let inside := rest.takeWhile (· ≠ '\'')
        if inside.length < rest.length then
          literal (String.ofList inside) true (rest.drop (inside.length + 1))
        else .error .openQuote
      else if c == '"' then
        match readDouble fuel .quotes rest with
        | .error e => .error e
        | .ok (parts, rest) =>
          (readWord fuel whole rest).map fun p => (quotedParts parts ++ p.1, p.2)
      else if c == '\\' then
        match rest with
        | '\n' :: rest => readWord fuel whole rest
        | d :: rest => literal d.toString true rest
        | [] => literal "\\" true []
      else if c == '$' then
        match readDollar fuel false rest with
        | .error e => .error e
        | .ok (.text s _, rest) => literal s false rest
        | .ok (part, rest) => (readWord fuel whole rest).map fun p => (part :: p.1, p.2)
      else if c == '\x60' then
        match takeBackQuoted false rest with
        | none => .error .openBackQuote
        | some (inside, rest) =>
          (readWord fuel whole rest).map fun p =>
            (.output (String.ofList inside) 0 true false :: p.1, p.2)
      else if endsWord c && !whole then .ok ([], cs)
      else
        let run := c :: rest.takeWhile fun c =>
          !(['\'', '"', '\\', '$', '\x60'].contains c) && (whole || !endsWord c)
        literal (String.ofList run) false (cs.drop run.length)

/-- The documents that begin here, the newline in front of them, which was on some line, and then
the rest of the script. -/
def lexDocuments (fuel : Nat) (s : Scan) (line : Nat) (cs : List Char) : Lexed :=
  match fuel with
  | 0 => .failed .openQuote s.line
  | fuel + 1 =>
    match s.awaited with
    | [] => .cons .newline line (lexFrom fuel s cs)
    | a :: more =>
      let (body, rest, lines) := takeDocument a (cs.length + 1) false cs
      let read : Except ScriptError Word :=
        if a.literal then .ok [.text (String.ofList body) true]
        else (readDouble fuel .document body).map fun p => locate s.line body p.1
      match read with
      | .error e => .failed e (s.line + lines)
      | .ok document =>
        let after := lexDocuments fuel { s with awaited := more, line := s.line + lines } line rest
        { after with documents := document :: after.documents }

/-- The lexemes of a script from a point on. -/
def lexFrom (fuel : Nat) (s : Scan) (cs : List Char) : Lexed :=
  match fuel with
  | 0 => .failed .openQuote s.line
  | fuel + 1 =>
    match cs with
    | [] =>
      if s.nested then .failed (.unfinished (some "\")\"")) s.line
      else ⟨[], s.awaited.map fun _ => [.text "" true], none, []⟩
    | '\\' :: '\n' :: rest => lexFrom fuel { s with line := s.line + 1 } rest
    | c :: rest =>
      if c == ' ' || c == '\t' then lexFrom fuel s rest
      else if c == '\n' then
        lexDocuments fuel { s with line := s.line + 1, marked := none, fresh := true } s.line rest
      else if c == '#' then lexFrom fuel s (rest.dropWhile (· ≠ '\n'))
      else
        let numbered := c.isDigit && (rest.head? == some '<' || rest.head? == some '>')
        match operatorAt? redirects (if numbered then rest else cs) with
        | some op =>
          let number := if numbered then some (c.toNat - 48) else none
          let marked := if op == "<<" then some false else if op == "<<-" then some true else none
          .cons (.redirect number op) s.line
            (lexFrom fuel { s with marked, fresh := false }
              ((if numbered then rest else cs).drop op.length))
        | none =>
          match operatorAt? operators cs with
          | some op =>
            if s.nested && op == ")" && s.opened.isEmpty then ⟨[], [], none, rest⟩
            else
              .cons (.operator op) s.line
                (lexFrom fuel (s.afterOperator op) (cs.drop op.length))
          | none =>
            match readWord fuel false cs with
            | .error e => .failed e (s.line + newlines cs)
            | .ok (w, rest) =>
              let line := s.line + (newlines cs - newlines rest)
              .cons (.word (locate s.line cs w)) line (lexFrom fuel (s.afterWord w line) rest)

end

/-- Enough fuel for reading this many characters. -/
def readingFuel (length : Nat) : Nat := 4 * length + 16

/-- The word that makes up a whole text, which stands on some line and can be surrounded. -/
def wordOf (around : Option Surround) (line : Nat) (text : String) : Except ScriptError Word :=
  let cs := text.toList
  let fuel := readingFuel cs.length
  let read := match around with
    | some around => readDouble fuel around cs
    | none => readWord fuel true cs
  read.map fun p => locate line cs p.1

/-- The lexemes with the documents behind their redirections. -/
def attachDocuments : List (Lexeme × Nat) → List Word → List (Lexeme × Nat)
  | (.redirect n op, k) :: (.word w, l) :: more, documents =>
    if op == "<<" || op == "<<-" then
      (.redirect n "<<", k) :: (.word (documents.headD w), l)
        :: attachDocuments more documents.tail
    else (.redirect n op, k) :: (.word w, l) :: attachDocuments more documents
  | lexeme :: more, documents => lexeme :: attachDocuments more documents
  | [], _ => []

/-- The lexemes of a script that begins on some line, with the lines that they are on, and what is
wrong with it. -/
def lexemes (line : Nat) (text : String) : List (Lexeme × Nat) × Option (ScriptError × Nat) :=
  let cs := text.toList
  let read := lexFrom (readingFuel cs.length) ⟨line, [], none, false, [], true⟩ cs
  (attachDocuments read.lexemes read.documents, read.fault)

end PipeShell.Script
