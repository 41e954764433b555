import PipeShell.Proofs.Token.Draft
import PipeShell.Proofs.Token.Table

/-!
# Reading from the middle of a line

`Token.scanFrom` reads a line from any mode on, with a word that may have begun; `Token.scan` is the
case of a whole line.  There is one equation for each kind of action, so that a proof can follow the
scanner character by character without opening `pieces` or `assemble`.

The equations for single characters add up to three for runs: bare characters
(`scanFrom_bare_append`), a text between single quotes (`scanFrom_singleQuoted_append`), and the end
of a word (`scanFrom_of_separated`).  Read for two lines at once they say that a character that both
begin with makes no difference between them (`scanFrom_cons_congr`).
-/

namespace PipeShell

open Mode

/-! ## The scanner, from any mode on -/

/-- The characters still to be skipped are no part of what is read. -/
lemma pieces_skip (expand : Bool) (skip : Nat) (m : Mode) (cs : List Char) :
    pieces expand skip m cs = pieces expand 0 m (cs.drop skip) := by
  induction skip generalizing cs with
  | zero => rw [List.drop_zero]
  | succ skip ih =>
      cases cs with
      | nil => simp [pieces]
      | cons c cs => rw [pieces, List.drop_succ_cons, ih]

/-- A second `>` belongs to the operator. -/
lemma operatorText_gt_cons (cs : List Char) : operatorText '>' ('>' :: cs) = ">>" := by
  simp [operatorText]

/-- An operator is a single character, unless it is `>` in front of another. -/
lemma operatorText_of_ne {c : Char} {cs : List Char} (h : ¬(c = '>' ∧ cs.head? = some '>')) :
    operatorText c cs = String.ofList [c] := by
  rw [operatorText, if_neg (by simpa using h)]
  rfl

namespace Token

/-- The tokens of a line that is read from mode `m` on, with the word `d` begun. -/
def scanFrom (vars : Option Lookup) (m : Mode) (d : Option Draft) (cs : List Char) :
    Except SyntaxError (List Token) :=
  match (pieces vars.isSome 0 m cs).2.openQuote? with
  | some quote => .error (.unterminatedQuote quote)
  | none => .ok (assemble (vars.getD fun _ => none) d (pieces vars.isSome 0 m cs).1)

/-- Scanning a line starts outside of quotes, with no word begun. -/
lemma scan_eq_scanFrom (vars : Option Lookup) (line : String) :
    scan vars line = scanFrom vars plain none line.toList := rfl

section equations

variable (vars : Option Lookup) {m next : Mode} {c : Char} (d : Option Draft) (cs : List Char)

/-- At the end of the line the word is finished. -/
lemma scanFrom_nil : scanFrom vars plain d [] = .ok (Draft.finish d) := rfl

/-- A character that is kept is added to the word. -/
lemma scanFrom_push (h : Rule m c next (.push c)) :
    scanFrom vars m d (c :: cs) =
      scanFrom vars next (some (Draft.extend (String.ofList [c]) false d)) cs := by
  simp only [scanFrom, pieces, pieces.push, h.step_eq, assemble, Draft.push_eq_extend]

/-- A character behind a backslash is added as a quoted one. -/
lemma scanFrom_escaped (back : Resume) :
    scanFrom vars (escape back) d (c :: cs) =
      scanFrom vars back.mode (some (Draft.extend (String.ofList [c]) true d)) cs := by
  simp only [scanFrom, pieces, pieces.push, (Rule.escaped back c).step_eq, assemble,
    Draft.push_eq_extend]

/-- A quote adds nothing, but the word has begun and is quoted. -/
lemma scanFrom_quote (h : Rule m c next .openQuote ∨ Rule m c next .closeQuote) :
    scanFrom vars m d (c :: cs) = scanFrom vars next (some (Draft.extend "" true d)) cs := by
  rcases h with h | h
  · simp only [scanFrom, pieces, pieces.push, h.step_eq, assemble]
  · simp only [scanFrom, pieces, pieces.push, h.step_eq, assemble]

/-- A character that is skipped leaves the word as it is. -/
lemma scanFrom_skip (h : Rule m c next .skip) :
    scanFrom vars m d (c :: cs) = scanFrom vars next d cs := by
  simp only [scanFrom, pieces, h.step_eq]

/-- A blank outside of quotes finishes the word. -/
lemma scanFrom_gap (h : Text.isBlank c = true) :
    scanFrom vars plain d (c :: cs) =
      (scanFrom vars plain none cs).map (Draft.finish d ++ ·) := by
  simp only [scanFrom, pieces, pieces.push, (Rule.gap h).step_eq, assemble]
  split <;> rfl

/-- An operator finishes the word and is a token of its own. -/
lemma scanFrom_operator (h : c = '|' ∨ c = '>') :
    scanFrom vars plain d (c :: cs) =
      (scanFrom vars plain none (cs.drop ((operatorText c cs).length - 1))).map
        fun ts => Draft.finish d ++ .operator (operatorText c cs) :: ts := by
  simp only [scanFrom, pieces, pieces.push, (Rule.operator h).step_eq, assemble,
    pieces_skip _ ((operatorText c cs).length - 1)]
  split <;> rfl

/-- A dollar sign that begins no reference is an ordinary character. -/
lemma scanFrom_dollar (h : Rule m '$' next .variable)
    (hread : vars = none ∨ Reference.read? cs = none) :
    scanFrom vars m d ('$' :: cs) =
      scanFrom vars next (some (Draft.extend (String.ofList ['$']) false d)) cs := by
  have hnone : (if vars.isSome then Reference.read? cs else none) = none := by
    rcases hread with rfl | hread
    · rfl
    · rw [hread, ite_self]
  simp only [scanFrom, pieces, pieces.push, h.step_eq, hnone, assemble, Draft.push_eq_extend]

/-- A bare character outside of quotes is added to the word, unless it is a dollar that is looked
up. -/
lemma scanFrom_bare (h : isBare c = true) (hd : vars = none ∨ c ≠ '$') :
    scanFrom vars plain d (c :: cs) =
      scanFrom vars plain (some (Draft.extend (String.ofList [c]) false d)) cs := by
  by_cases hdollar : c = '$'
  · obtain rfl : vars = none := hd.resolve_right (not_not.mpr hdollar)
    subst hdollar
    exact scanFrom_dollar none d cs .dollarPlain (Or.inl rfl)
  · exact scanFrom_push vars d cs (.bare h hdollar)

/-- A reference adds the value of its variable to the word; without a value it does nothing. -/
lemma scanFrom_reference {vars : Lookup} {ref : Reference} (h : Rule m c next .variable)
    (href : Reference.read? cs = some ref) (d : Option Draft) :
    scanFrom (some vars) m d (c :: cs) =
      scanFrom (some vars) next
        (if ((vars (String.ofList ref.name)).getD "").isEmpty then d
          else some (Draft.extend ((vars (String.ofList ref.name)).getD "") false d))
        (cs.drop ref.width) := by
  simp only [scanFrom, pieces, pieces.push, h.step_eq, href, assemble, Option.isSome_some, if_true,
    Option.getD_some, pieces_skip _ ref.width]
  split
  · rfl
  · split_ifs <;> rfl

/-- The value of a variable is added to a word that has begun. -/
lemma scanFrom_variable {vars : Lookup} {ref : Reference} (h : Rule m c next .variable)
    (href : Reference.read? cs = some ref) (d : Draft) :
    scanFrom (some vars) m (some d) (c :: cs) =
      scanFrom (some vars) next
        (some (Draft.extend ((vars (String.ofList ref.name)).getD "") false (some d)))
        (cs.drop ref.width) := by
  rw [scanFrom_reference cs h href]
  split_ifs with hempty
  · -- an empty value leaves the word as it is
    rw [String.isEmpty_iff.mp hempty, Draft.extend_empty]
  · rfl

end equations

/-- Two lines that begin with the same character, which begins a reference in neither, are read
alike if what follows is; for an operator, if what follows it is. -/
theorem scanFrom_cons_congr {v w : Option Lookup} {m : Mode} {c : Char} {cs ds : List Char}
    (hdollar : (m.step c).2 = .variable →
      (v = none ∨ Reference.read? cs = none) ∧ (w = none ∨ Reference.read? ds = none))
    (hoperator : (m.step c).2 = .operator c → operatorText c cs = operatorText c ds ∧
      scanFrom v plain none (cs.drop ((operatorText c cs).length - 1)) =
        scanFrom w plain none (ds.drop ((operatorText c cs).length - 1)))
    (hrest : ∀ d, scanFrom v (m.step c).1 d cs = scanFrom w (m.step c).1 d ds)
    (d : Option Draft) : scanFrom v m d (c :: cs) = scanFrom w m d (c :: ds) := by
  have hrow := rule_step m c
  generalize m.step c = step at hrow hrest hdollar hoperator
  obtain ⟨next, act⟩ := step
  -- one fact for every action that more than one row of the table has
  have hpush (h : Rule m c next (.push c)) :
      scanFrom v m d (c :: cs) = scanFrom w m d (c :: ds) := by
    rw [scanFrom_push v d cs h, scanFrom_push w d ds h, hrest]
  have hquote (h : Rule m c next .openQuote ∨ Rule m c next .closeQuote) :
      scanFrom v m d (c :: cs) = scanFrom w m d (c :: ds) := by
    rw [scanFrom_quote v d cs h, scanFrom_quote w d ds h, hrest]
  have hskip (h : Rule m c next .skip) :
      scanFrom v m d (c :: cs) = scanFrom w m d (c :: ds) := by
    rw [scanFrom_skip v d cs h, scanFrom_skip w d ds h, hrest]
  have hvariable (h : Rule m '$' next .variable) (hact : act = .variable) :
      scanFrom v m d ('$' :: cs) = scanFrom w m d ('$' :: ds) := by
    obtain ⟨hcs, hds⟩ := hdollar hact
    rw [scanFrom_dollar v d cs h hcs, scanFrom_dollar w d ds h hds, hrest]
  cases hrow with
  | openSingle => exact hquote (Or.inl .openSingle)
  | openDouble => exact hquote (Or.inl .openDouble)
  | escapePlain => exact hskip .escapePlain
  | operator hc =>
      obtain ⟨htext, hbehind⟩ := hoperator rfl
      rw [scanFrom_operator v d cs hc, scanFrom_operator w d ds hc, ← htext, hbehind]
  | dollarPlain => exact hvariable .dollarPlain rfl
  | gap hc => rw [scanFrom_gap v d cs hc, scanFrom_gap w d ds hc, hrest]
  | bare hc hd => exact hpush (.bare hc hd)
  | closeSingle => exact hquote (Or.inr .closeSingle)
  | single hc => exact hpush (.single hc)
  | closeDouble => exact hquote (Or.inr .closeDouble)
  | escapeDouble => exact hskip .escapeDouble
  | dollarDouble => exact hvariable .dollarDouble rfl
  | double hq hb hd => exact hpush (.double hq hb hd)
  | escaped back c =>
      rw [scanFrom_escaped, scanFrom_escaped]
      exact hrest _

/-! ## Runs of characters -/

/-- Blanks are read as no token at all. -/
lemma scanFrom_blanks (vars : Option Lookup) {cs : List Char}
    (h : ∀ c ∈ cs, Text.isBlank c = true) : scanFrom vars plain none cs = .ok [] := by
  induction cs with
  | nil => exact scanFrom_nil vars none
  | cons c cs ih =>
      obtain ⟨hc, hcs⟩ := List.forall_mem_cons.mp h
      rw [scanFrom_gap vars none cs hc, ih hcs]
      rfl

/-- A line with a token is not blank. -/
lemma not_blank_of_scan {vars : Option Lookup} {line : String} {t : Token} {ts : List Token}
    (h : scan vars line = .ok (t :: ts)) : Text.isAllBlank line = false := by
  rw [← Bool.not_eq_true]
  intro hblank
  rw [scan_eq_scanFrom, scanFrom_blanks vars (List.all_eq_true.mp hblank)] at h
  cases h

/-- Characters that are each added to the word are added together. -/
lemma scanFrom_run_append {vars : Option Lookup} {m : Mode} {w : List Char} (hne : w ≠ [])
    (hw : ∀ c ∈ w, ∀ d cs, scanFrom vars m d (c :: cs) =
      scanFrom vars m (some (Draft.extend (String.ofList [c]) false d)) cs)
    (d : Option Draft) (rest : List Char) :
    scanFrom vars m d (w ++ rest) =
      scanFrom vars m (some (Draft.extend (String.ofList w) false d)) rest := by
  induction w generalizing d with
  | nil => exact absurd rfl hne
  | cons c w ih =>
      obtain ⟨hc, hw⟩ := List.forall_mem_cons.mp hw
      rw [List.cons_append, hc]
      by_cases hwnil : w = []
      · rw [hwnil, List.nil_append]
      · rw [ih hwnil hw, Draft.extend_ofList_cons, Bool.or_self]

/-- Where a word has begun, this goes for no characters as well. -/
lemma scanFrom_begun_append {vars : Option Lookup} {m : Mode} {w : List Char}
    (hw : ∀ c ∈ w, ∀ d cs, scanFrom vars m d (c :: cs) =
      scanFrom vars m (some (Draft.extend (String.ofList [c]) false d)) cs)
    (d : Draft) (rest : List Char) :
    scanFrom vars m (some d) (w ++ rest) =
      scanFrom vars m (some (Draft.extend (String.ofList w) false (some d))) rest := by
  by_cases hne : w = []
  · rw [hne, List.nil_append, String.ofList_nil, Draft.extend_empty]
  · exact scanFrom_run_append hne hw (some d) rest

/-- Bare characters are added to the word, as they are.  Where there are variables, a dollar sign is
not bare. -/
theorem scanFrom_bare_append {vars : Option Lookup} {w : List Char} (hne : w ≠ [])
    (hw : ∀ c ∈ w, isBare c = true) (hd : vars = none ∨ ∀ c ∈ w, c ≠ '$') (d : Option Draft)
    (rest : List Char) :
    scanFrom vars plain d (w ++ rest) =
      scanFrom vars plain (some (Draft.extend (String.ofList w) false d)) rest :=
  scanFrom_run_append hne
    (fun c hc d cs => scanFrom_bare vars d cs (hw c hc) (hd.imp_right fun h => h c hc)) d rest

/-- The text between single quotes for `s`: a quote is closed, escaped and opened again. -/
def escapeQuotes (s : List Char) : List Char :=
  s.flatMap fun c => if c = '\'' then ['\'', '\\', '\'', '\''] else [c]

/-- The text of `s` in single quotes. -/
def singleQuoted (s : List Char) : List Char :=
  '\'' :: (escapeQuotes s ++ ['\''])

/-- Between single quotes the text is added to the word, up to the quote that ends it. -/
lemma scanFrom_escapeQuotes_append (vars : Option Lookup) (s : List Char) (d : Option Draft)
    (rest : List Char) :
    scanFrom vars singleQuote d (escapeQuotes s ++ '\'' :: rest) =
      scanFrom vars plain (some (Draft.extend (String.ofList s) true d)) rest := by
  induction s generalizing d with
  | nil => exact scanFrom_quote vars d rest (Or.inr .closeSingle)
  | cons c s ih =>
      rw [escapeQuotes, List.flatMap_cons, List.append_assoc]
      by_cases hc : c = '\''
      · subst hc
        change scanFrom vars singleQuote d
          ('\'' :: '\\' :: '\'' :: '\'' :: (escapeQuotes s ++ '\'' :: rest)) = _
        rw [scanFrom_quote vars _ _ (Or.inr .closeSingle), scanFrom_skip vars _ _ .escapePlain,
          scanFrom_escaped, Resume.mode, scanFrom_quote vars _ _ (Or.inl .openSingle), ih]
        simp only [Draft.extend_extend, Bool.or_self, String.append_empty, String.empty_append]
        rw [← String.ofList_append, List.singleton_append]
      · rw [if_neg hc, List.singleton_append, scanFrom_push vars _ _ (.single hc)]
        change scanFrom vars singleQuote _ (escapeQuotes s ++ '\'' :: rest) = _
        rw [ih, Draft.extend_ofList_cons, Bool.false_or]

/-- A text in single quotes is added to the word, as it is. -/
theorem scanFrom_singleQuoted_append (vars : Option Lookup) (s : List Char) (d : Option Draft)
    (rest : List Char) :
    scanFrom vars plain d (singleQuoted s ++ rest) =
      scanFrom vars plain (some (Draft.extend (String.ofList s) true d)) rest := by
  rw [singleQuoted, List.cons_append, List.append_assoc, List.singleton_append,
    scanFrom_quote vars _ _ (Or.inl .openSingle), scanFrom_escapeQuotes_append,
    Draft.extend_extend, String.empty_append, Bool.or_self]

/-- A word ends where the line ends or a space follows. -/
theorem scanFrom_of_separated (vars : Option Lookup) (d : Option Draft) {rest : List Char}
    (h : ∀ c ∈ rest.head?, c = ' ') :
    scanFrom vars plain d rest = (scanFrom vars plain none rest).map (Draft.finish d ++ ·) := by
  cases rest with
  | nil => simp [scanFrom_nil, Except.map, Draft.finish]
  | cons c rest =>
      obtain rfl : c = ' ' := h c rfl
      rw [scanFrom_gap vars d rest (by decide), scanFrom_gap vars none rest (by decide)]
      cases scanFrom vars plain none rest <;> rfl

end Token

end PipeShell
