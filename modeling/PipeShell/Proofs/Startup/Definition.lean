import PipeShell.Proofs.Text.Blank
import PipeShell.Proofs.Variable.Expansion
import PipeShell.Proofs.Variable.Export
import PipeShell.Startup

/-!
# Plain definitions

The line of a plain definition assigns a value to a variable or to an alias.  Its name is a plain
word, and its value is bare or stands in one pair of quotes, with nothing in it that the command
line or the start-up file would take for something else (`PlainDefinition`).

Two readers know such a line.  The one of start-up files finds name and value in it as they are
(`PlainDefinition.read_line`), and the one of the command line finds two words
(`PlainDefinition.scanWith_line`): the command, and the assignment without the quotes.
-/

namespace PipeShell

/-! ## Values -/

/-- What stands around a value. -/
inductive Quoting where
  | bare
  | single
  | double
deriving Repr, DecidableEq

namespace Quoting

/-- The text on both sides of the value. -/
def mark : Quoting → List Char
  | bare => []
  | single => ['\'']
  | double => ['"']

/-- There is something around the value. -/
def isQuoted : Quoting → Bool
  | bare => false
  | single | double => true

/-- The value stands for itself like this.  Between quotes there may be blanks and operators. -/
def Fits (value : String) : Quoting → Prop
  | bare => ∀ c ∈ value.toList, isBare c = true ∧ c ≠ '$'
  | single | double => ∀ c ∈ value.toList, c ∉ ['\'', '"', '\\', '$', '\n']

/-- Whether a value can be written in a manner of quoting can be evaluated. -/
instance (value : String) : DecidablePred (Fits value)
  | bare => decidable_of_iff (value.toList.all (fun c => isBare c && c != '$') = true) <| by
      simp [Fits]
  | single | double =>
      decidable_of_iff (value.toList.all (· ∉ ['\'', '"', '\\', '$', '\n']) = true) <| by
        simp [Fits]

/-- The value as it is written. -/
def written (quoting : Quoting) (value : String) : List Char :=
  quoting.mark ++ value.toList ++ quoting.mark

variable {quoting : Quoting} {value : String}

/-- Without quotes a value is written as it is. -/
lemma written_bare (value : String) : bare.written value = value.toList := by
  rw [written, mark, List.nil_append, List.append_nil]

/-- A value that can be written holds no dollar. -/
lemma Fits.dollar_not_mem (h : quoting.Fits value) : '$' ∉ value.toList := by
  cases quoting with
  | bare => exact fun hmem => (h _ hmem).2 rfl
  | single | double => exact fun hmem => h _ hmem (by decide)

/-- A value that is written down has no newline in it. -/
lemma Fits.newline_not_mem (h : quoting.Fits value) : '\n' ∉ quoting.written value := by
  cases quoting with
  | bare =>
      rw [written_bare]
      exact fun hmem => absurd (h _ hmem).1 (by decide)
  | single | double =>
      have hvalue : '\n' ∉ value.toList := fun hmem => h _ hmem (by decide)
      simp [written, mark, hvalue]

/-- A value that is written down ends in no blank. -/
lemma Fits.getLast?_written (h : quoting.Fits value) :
    ∀ c ∈ (quoting.written value).getLast?, Text.isBlank c = false := by
  intro c hc
  cases quoting with
  | bare =>
      rw [written_bare] at hc
      exact (isBare_iff.mp (h c (List.mem_of_mem_getLast? hc)).1).1
  | single | double =>
      rw [written, mark, List.getLast?_concat, Option.mem_some_iff] at hc
      subst hc
      decide

end Quoting

/-! ## Reading values -/

namespace Startup

variable {quote : Char} {cs : List Char}

/-- A text that does not begin with the quote is not between quotes. -/
lemma betweenQuotes?_of_head (h : cs.head? ≠ some quote) : betweenQuotes? quote cs = none := by
  cases cs with
  | nil => rfl
  | cons c cs =>
      have hc : c ≠ quote := fun hc => h (congrArg some hc)
      rw [betweenQuotes?, if_neg (by simp [hc])]

/-- A text in quotes is found between them. -/
lemma betweenQuotes?_quoted (quote : Char) (cs : List Char) :
    betweenQuotes? quote (quote :: (cs ++ [quote])) = some cs := by
  rw [betweenQuotes?, if_pos (by simp), List.dropLast_concat]

/-- A text that begins with no quote is left as it is. -/
lemma stripQuotes_eq_self (htrim : Text.trim cs = cs)
    (hhead : ∀ quote ∈ ['"', '\''], cs.head? ≠ some quote) : stripQuotes cs = cs := by
  have hdouble := betweenQuotes?_of_head (hhead '"' (by decide))
  have hsingle := betweenQuotes?_of_head (hhead '\'' (by decide))
  simp only [stripQuotes, htrim, hdouble, hsingle, Option.getD_none]

/-- A pair of quotes comes off. -/
lemma stripQuotes_quoted (hquote : quote ∈ ['"', '\'']) (cs : List Char) :
    stripQuotes (quote :: (cs ++ [quote])) = cs := by
  have hblank : Text.isBlank quote = false := by
    rcases List.mem_pair.mp hquote with rfl | rfl <;> rfl
  have htrim : Text.trim (quote :: (cs ++ [quote])) = quote :: (cs ++ [quote]) := by
    refine Text.trim_eq_self_of_ends (fun c hc => ?_) fun c hc => ?_
    · rwa [← Option.some.inj hc]
    · rw [← List.cons_append, List.getLast?_concat, Option.mem_some_iff] at hc
      rwa [← hc]
  rcases List.mem_pair.mp hquote with rfl | rfl
  · simp only [stripQuotes, htrim, betweenQuotes?_quoted]
  · have hdouble : betweenQuotes? '"' ('\'' :: (cs ++ ['\''])) = none :=
      betweenQuotes?_of_head (by simp)
    simp only [stripQuotes, htrim, hdouble, betweenQuotes?_quoted, Option.getD_some]

/-- The reader of start-up files finds the value that is written. -/
theorem stripQuotes_written {quoting : Quoting} {value : String} (h : quoting.Fits value) :
    stripQuotes (quoting.written value) = value.toList := by
  cases quoting with
  | bare =>
      rw [Quoting.written_bare]
      refine stripQuotes_eq_self (Text.trim_eq_self fun c hc => (isBare_iff.mp (h c hc).1).1) ?_
      intro quote hquote hhead
      have hbare := (h quote (List.mem_of_mem_head? hhead)).1
      rcases List.mem_pair.mp hquote with rfl | rfl <;> exact absurd hbare (by decide)
  | single => exact stripQuotes_quoted (by decide) value.toList
  | double => exact stripQuotes_quoted (by decide) value.toList

end Startup

namespace Token

open Mode

variable {vars : Option Lookup}

/-- Quotes add what stands between them, if each of its characters is pushed. -/
lemma scanFrom_quoted {m : Mode} {quote : Char} {value : String}
    (hopen : Rule plain quote m .openQuote) (hclose : Rule m quote plain .closeQuote)
    (hpush : ∀ c ∈ value.toList, Rule m c m (.push c)) (d : Draft) :
    scanFrom vars plain (some d) (quote :: (value.toList ++ [quote])) =
      .ok (Draft.finish (some (Draft.extend value true (some d)))) := by
  rw [scanFrom_quote _ _ _ (.inl hopen),
    scanFrom_begun_append fun c hc d ds => scanFrom_push _ d ds (hpush c hc),
    scanFrom_quote _ _ _ (.inr hclose), scanFrom_nil, String.ofList_toList]
  simp only [Draft.extend_extend, String.empty_append, String.append_empty, Bool.or_false,
    Bool.or_true]

/-- The command line adds the value that is written to the word before it. -/
theorem scanFrom_written {quoting : Quoting} {value : String} (h : quoting.Fits value)
    (d : Draft) :
    scanFrom vars plain (some d) (quoting.written value) =
      .ok (Draft.finish (some (Draft.extend value quoting.isQuoted (some d)))) := by
  cases quoting with
  | bare =>
      have hbare : ∀ c ∈ value.toList, ∀ d cs, scanFrom vars plain d (c :: cs) =
          scanFrom vars plain (some (Draft.extend (String.ofList [c]) false d)) cs :=
        fun c hc d cs => scanFrom_bare vars d cs (h c hc).1 (.inr (h c hc).2)
      rw [Quoting.written_bare, ← List.append_nil value.toList, scanFrom_begun_append hbare,
        String.ofList_toList, scanFrom_nil]
      rfl
  | single =>
      have hpush : ∀ c ∈ value.toList, Rule singleQuote c singleQuote (.push c) :=
        fun c hc => .single fun heq => h c hc (by simp [heq])
      exact scanFrom_quoted .openSingle .closeSingle hpush d
  | double =>
      have hpush : ∀ c ∈ value.toList, Rule doubleQuote c doubleQuote (.push c) := by
        intro c hc
        refine .double ?_ ?_ ?_ <;> rintro rfl <;> exact h _ hc (by decide)
      exact scanFrom_quoted .openDouble .closeDouble hpush d

end Token

/-! ## Definitions -/

/-- The two commands that define something. -/
inductive Keyword where
  | exports
  | aliases
deriving Repr, DecidableEq

namespace Keyword

/-- The name of the command. -/
def name : Keyword → String
  | exports => "export"
  | aliases => "alias"

/-- What a line of a start-up file that begins with the command says. -/
def meaning : Keyword → String → String → Startup.Line
  | exports => .variable
  | aliases => .defineAlias

/-- The keywords are plain words. -/
lemma isPlainWord_name (k : Keyword) : IsPlainWord k.name := by
  cases k <;> decide

end Keyword

/-- A line that begins with one of the commands is read as the command says. -/
lemma Startup.read_of_keyword {text : String} {rest : List Char} (k : Keyword)
    (htrim : Text.trim text.toList = k.name.toList ++ ' ' :: rest) :
    Line.read text = definition k.meaning rest := by
  unfold Line.read
  rw [htrim]
  cases k with
  | exports =>
      have hcontent : ((Keyword.exports.name.toList ++ ' ' :: rest).isEmpty ||
          decide ((Keyword.exports.name.toList ++ ' ' :: rest).head? = some '#')) = false := rfl
      have hafter : Text.after? "export ".toList (Keyword.exports.name.toList ++ ' ' :: rest) =
          some rest := Text.after?_append "export ".toList rest
      simp only [hcontent, hafter, Bool.false_eq_true, if_false]
      rfl
  | aliases =>
      have hcontent : ((Keyword.aliases.name.toList ++ ' ' :: rest).isEmpty ||
          decide ((Keyword.aliases.name.toList ++ ' ' :: rest).head? = some '#')) = false := rfl
      have hother : Text.after? "export ".toList (Keyword.aliases.name.toList ++ ' ' :: rest) =
          none := rfl
      have hafter : Text.after? "alias ".toList (Keyword.aliases.name.toList ++ ' ' :: rest) =
          some rest := Text.after?_append "alias ".toList rest
      simp only [hcontent, hother, hafter, Bool.false_eq_true, if_false]
      rfl

/-- A definition whose line is plain to both readers. -/
structure PlainDefinition where
  keyword : Keyword
  /-- What is defined: not one of the two commands, if it is an alias. -/
  name : String
  quoting : Quoting
  value : String
  name_plain : IsPlainWord name
  equals_not_mem : '=' ∉ name.toList
  fits : quoting.Fits value
  name_free : keyword = .aliases → ∀ k : Keyword, name ≠ k.name

namespace PlainDefinition

/-- The line of the definition. -/
def line (d : PlainDefinition) : String :=
  d.keyword.name ++ " " ++ d.name ++ "=" ++ String.ofList (d.quoting.written d.value)

/-- What stands in the line behind the command. -/
def assignment (d : PlainDefinition) : List Char :=
  d.name.toList ++ '=' :: d.quoting.written d.value

variable (d : PlainDefinition)

/-- A definition is written as its keyword and its assignment. -/
lemma toList_line : d.line.toList = d.keyword.name.toList ++ ' ' :: d.assignment := by
  simp [line, assignment]

/-- The assignment is written as the name and the value, with a sign of equality between them. -/
lemma toList_line_split : d.line.toList =
    (d.keyword.name.toList ++ ' ' :: d.name.toList) ++ '=' :: d.quoting.written d.value := by
  simp [line]

/-- The characters of the name need no quotes. -/
lemma isBare_of_mem_name {c : Char} (hc : c ∈ d.name.toList) : isBare c = true :=
  d.name_plain.1.2 c hc

/-- The command line reads the command and the assignment, without the quotes. -/
theorem scanWith_line (vars : Lookup) :
    Token.scanWith vars d.line =
      .ok [.word d.keyword.name false, .word (d.name ++ "=" ++ d.value) d.quoting.isQuoted] := by
  have hassignment : d.assignment =
      (d.name.toList ++ ['=']) ++ d.quoting.written d.value := by simp [assignment]
  have hbare : ∀ c ∈ d.name.toList ++ ['='], isBare c = true ∧ c ≠ '$' := by
    intro c hc
    rcases List.mem_append.mp hc with hc | hc
    · exact ⟨d.isBare_of_mem_name hc, fun hd => d.name_plain.2 (hd ▸ hc)⟩
    · obtain rfl := List.mem_singleton.mp hc
      decide
  rw [Token.scanWith, Token.scan_eq_scanFrom, toList_line,
    Token.scanFrom_plainWord_space d.keyword.isPlainWord_name, hassignment,
    Token.scanFrom_bare_append (by simp) (fun c hc => (hbare c hc).1)
      (.inr fun c hc => (hbare c hc).2),
    Token.scanFrom_written d.fits, Draft.extend_extend]
  simp [Draft.extend, Draft.finish, Except.map, String.ofList_append]

/-! ## The line in a start-up file -/

/-- Whatever stands in front of the value, the line does not end in a blank. -/
lemma getLast?_append_written (front : List Char) :
    ∀ c ∈ (front ++ '=' :: d.quoting.written d.value).getLast?, Text.isBlank c = false := by
  intro c hc
  rw [List.getLast?_append_cons] at hc
  cases hwritten : d.quoting.written d.value with
  | nil =>
      rw [hwritten] at hc
      cases hc
      decide
  | cons e es =>
      rw [hwritten, List.getLast?_cons_cons, ← hwritten] at hc
      exact d.fits.getLast?_written c hc

/-- There are no blanks around the assignment. -/
lemma trim_assignment : Text.trim d.assignment = d.assignment := by
  refine Text.trim_eq_self_of_ends (fun c hc => ?_) (d.getLast?_append_written _)
  obtain ⟨e, es, hname⟩ :=
    List.exists_cons_of_ne_nil (mt String.toList_eq_nil_iff.mp d.name_plain.1.1)
  rw [assignment, hname] at hc
  cases hc
  exact (isBare_iff.mp (d.isBare_of_mem_name (hname ▸ List.mem_cons_self))).1

/-- There are no blanks around the whole definition. -/
lemma trim_line : Text.trim d.line.toList = d.line.toList := by
  refine Text.trim_eq_self_of_ends (fun c hc => ?_) ?_
  · rw [toList_line] at hc
    cases hkeyword : d.keyword with
    | exports | aliases =>
        rw [hkeyword] at hc
        cases hc
        decide
  · rw [toList_line_split]
    exact d.getLast?_append_written _

/-- Name and value are found in the assignment. -/
lemma definition_assignment (make : String → String → Startup.Line) :
    Startup.definition make d.assignment = make d.name d.value := by
  have hname : Text.trim d.name.toList = d.name.toList :=
    Text.trim_eq_self fun c hc => (isBare_iff.mp (d.isBare_of_mem_name hc)).1
  rw [Startup.definition, trim_assignment, assignment, Text.cut_append d.equals_not_mem]
  simp only [hname, Startup.stripQuotes_written d.fits, String.ofList_toList]

/-- The reader of start-up files finds name and value as they are. -/
theorem read_line : Startup.Line.read d.line = d.keyword.meaning d.name d.value :=
  (Startup.read_of_keyword d.keyword (d.trim_line.trans d.toList_line)).trans
    (d.definition_assignment _)

/-- What the definition does to a state; an unfit name or value is refused. -/
def apply (d : PlainDefinition) (s : ShellState) : Except StateError ShellState :=
  match d.keyword with
  | .exports => s.setVar (d.name, d.value)
  | .aliases => .ok (s.setAlias d.name d.value)

/-- The line counts as applied, unless the definition is refused. -/
theorem applyLine_line (env : Environment) (s : ShellState) :
    Startup.applyLine env s (.read d.line) = (d.apply s).map (·, true) := by
  rw [read_line]
  unfold apply
  cases d.keyword with
  | exports =>
      rw [Keyword.meaning, Startup.applyLine,
        Overlay.expand_of_not_mem _ _ d.fits.dollar_not_mem]
  | aliases => rfl

/-- The line is one line of a file. -/
lemma one_line : '\n' ∉ d.line.toList ∧ d.line.toList.getLast? ≠ some '\r' := by
  constructor
  · have hkeyword : '\n' ∉ d.keyword.name.toList :=
      fun hmem => absurd ((d.keyword.isPlainWord_name).1.2 _ hmem) (by decide)
    have hname : '\n' ∉ d.name.toList := fun hmem =>
      absurd (d.isBare_of_mem_name hmem) (by decide)
    simp [toList_line, assignment, hkeyword, hname, d.fits.newline_not_mem]
  · rw [toList_line_split]
    exact fun hlast => absurd (d.getLast?_append_written _ _ hlast) (by decide)

end PlainDefinition

end PipeShell
