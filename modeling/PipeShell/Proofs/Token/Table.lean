import Mathlib.Tactic.Common
import PipeShell.Token.Scan

/-!
# The quoting table, row by row

`Mode.step` is a table with one row for each kind of character in each mode.  `Mode.Rule` states the
rows as a relation, so that what one character can do is a case split with named cases:
`Mode.rule_step` (every step is a row) and `Mode.Rule.step_eq` (every row is a step).  Read from its
end, an action says which rows a step can be; the lemmas `Mode.step_of_push` and so on state what
all steps with one action have in common.

Two notions are read off the table.  A run of characters is *idle* in a mode (`Mode.Idle`) when it
does not change it; the scanner relies on this where it takes several characters at once.  The
characters that the table *keeps* (`Mode.kept`) are those that end up in some token.
-/

namespace PipeShell

/-- A character that can stand in a word outside quotes, when dollar signs are ordinary. -/
def isBare (c : Char) : Bool :=
  !Text.isBlank c && c != '\'' && c != '"' && c != '\\' && c != '|' && c != '>'

/-- A character is bare if it is no blank, no quote, no backslash and begins no operator. -/
lemma isBare_iff {c : Char} : isBare c = true ↔
    Text.isBlank c = false ∧ c ≠ '\'' ∧ c ≠ '"' ∧ c ≠ '\\' ∧ c ≠ '|' ∧ c ≠ '>' := by
  simp only [isBare, Bool.and_eq_true, Bool.not_eq_true', bne_iff_ne, and_assoc]

/-- The action keeps its character for some token. -/
def Action.keeps : Action → Bool
  | .push _ | .escaped _ | .operator _ | .variable => true
  | .openQuote | .closeQuote | .gap | .skip => false

namespace Mode

/-! ## The rows -/

/-- The rows of the table: mode, character, next mode, action. -/
inductive Rule : Mode → Char → Mode → Action → Prop
  | openSingle : Rule plain '\'' singleQuote .openQuote
  | openDouble : Rule plain '"' doubleQuote .openQuote
  | escapePlain : Rule plain '\\' (escape .plain) .skip
  | operator {c : Char} (hc : c = '|' ∨ c = '>') : Rule plain c plain (.operator c)
  | dollarPlain : Rule plain '$' plain .variable
  | gap {c : Char} (hc : Text.isBlank c = true) : Rule plain c plain .gap
  | bare {c : Char} (hc : isBare c = true) (hd : c ≠ '$') : Rule plain c plain (.push c)
  | closeSingle : Rule singleQuote '\'' plain .closeQuote
  | single {c : Char} (hc : c ≠ '\'') : Rule singleQuote c singleQuote (.push c)
  | closeDouble : Rule doubleQuote '"' plain .closeQuote
  | escapeDouble : Rule doubleQuote '\\' (escape .doubleQuote) .skip
  | dollarDouble : Rule doubleQuote '$' doubleQuote .variable
  | double {c : Char} (hq : c ≠ '"') (hb : c ≠ '\\') (hd : c ≠ '$') :
      Rule doubleQuote c doubleQuote (.push c)
  | escaped (back : Resume) (c : Char) : Rule (escape back) c back.mode (.escaped c)

/-- A blank is none of the characters that the rows outside quotes name. -/
lemma ne_of_isBlank {c : Char} (hc : Text.isBlank c = true) :
    c ≠ '\'' ∧ c ≠ '"' ∧ c ≠ '\\' ∧ c ≠ '|' ∧ c ≠ '>' ∧ c ≠ '$' := by
  refine ⟨?_, ?_, ?_, ?_, ?_, ?_⟩ <;> rintro rfl <;> exact absurd hc (by decide)

/-- Every row is a step. -/
theorem Rule.step_eq {m next : Mode} {c : Char} {act : Action} (h : Rule m c next act) :
    m.step c = (next, act) := by
  cases h with
  | operator hc => rcases hc with rfl | rfl <;> rfl
  | gap hc =>
      obtain ⟨h₁, h₂, h₃, h₄, h₅, h₆⟩ := ne_of_isBlank hc
      simp [step, stepPlain, h₁, h₂, h₃, h₄, h₅, h₆, hc]
  | bare hc hd =>
      obtain ⟨hb, h₁, h₂, h₃, h₄, h₅⟩ := isBare_iff.mp hc
      simp [step, stepPlain, h₁, h₂, h₃, h₄, h₅, hd, hb]
  | single hc => simp [step, stepSingle, hc]
  | double hq hb hd => simp [step, stepDouble, hq, hb, hd]
  | _ => rfl

/-- Every step is a row. -/
theorem rule_step (m : Mode) (c : Char) : Rule m c (m.step c).1 (m.step c).2 := by
  cases m with
  | plain =>
      change Rule plain c (stepPlain c).1 (stepPlain c).2
      unfold stepPlain
      split_ifs with h₁ h₂ h₃ h₄ h₅ h₆
      · subst h₁; exact .openSingle
      · subst h₂; exact .openDouble
      · subst h₃; exact .escapePlain
      · exact .operator (by simpa using h₄)
      · subst h₅; exact .dollarPlain
      · exact .gap h₆
      · have h₄' : c ≠ '|' ∧ c ≠ '>' := by simpa using h₄
        exact .bare (isBare_iff.mpr ⟨by simpa using h₆, h₁, h₂, h₃, h₄'⟩) h₅
  | singleQuote =>
      change Rule singleQuote c (stepSingle c).1 (stepSingle c).2
      unfold stepSingle
      split_ifs with h₁
      · subst h₁; exact .closeSingle
      · exact .single h₁
  | doubleQuote =>
      change Rule doubleQuote c (stepDouble c).1 (stepDouble c).2
      unfold stepDouble
      split_ifs with h₁ h₂ h₃
      · subst h₁; exact .closeDouble
      · subst h₂; exact .escapeDouble
      · subst h₃; exact .dollarDouble
      · exact .double h₁ h₂ h₃
  | escape back => exact .escaped back c

/-- The row of a step whose action is known. -/
lemma exists_rule {m : Mode} {c : Char} {act : Action} (h : (m.step c).2 = act) :
    ∃ next, (m.step c).1 = next ∧ Rule m c next act :=
  ⟨_, rfl, h ▸ rule_step m c⟩

/-! ## What an action says about its step -/

section actions

variable {m : Mode} {c : Char}

/-- A pushed character is the one that was read.  It does not change the mode, and outside quotes it
is bare. -/
lemma step_of_push {d : Char} (h : (m.step c).2 = .push d) :
    d = c ∧ (m.step c).1 = m ∧ (m.openQuote? = none → isBare c = true) := by
  obtain ⟨next, hnext, hrow⟩ := exists_rule h
  cases hrow with
  | bare hc hd => exact ⟨rfl, hnext, fun _ => hc⟩
  | single hc => exact ⟨rfl, hnext, fun hopen => by cases hopen⟩
  | double hq hb hd => exact ⟨rfl, hnext, fun hopen => by cases hopen⟩

/-- An escaped character is the one that was read. -/
lemma step_of_escaped {d : Char} (h : (m.step c).2 = .escaped d) : d = c := by
  obtain ⟨next, hnext, hrow⟩ := exists_rule h
  cases hrow
  rfl

/-- A gap stands outside quotes, and reading goes on there. -/
lemma step_of_gap (h : (m.step c).2 = .gap) : m = plain ∧ (m.step c).1 = plain := by
  obtain ⟨next, hnext, hrow⟩ := exists_rule h
  cases hrow
  exact ⟨rfl, hnext⟩

/-- A backslash that only changes the mode neither opens nor closes a quote. -/
lemma step_of_skip (h : (m.step c).2 = .skip) : (m.step c).1.openQuote? = m.openQuote? := by
  obtain ⟨next, hnext, hrow⟩ := exists_rule h
  rw [hnext]
  cases hrow <;> rfl

/-- An operator is one of two characters.  It stands outside quotes, and reading goes on there. -/
lemma step_of_operator {o : Char} (h : (m.step c).2 = .operator o) :
    o = c ∧ (c = '|' ∨ c = '>') ∧ m = plain ∧ (m.step c).1 = plain := by
  obtain ⟨next, hnext, hrow⟩ := exists_rule h
  cases hrow with
  | operator hc => exact ⟨rfl, hc, rfl, hnext⟩

/-- A dollar sign that may begin a reference stands outside quotes or between double quotes, and
does not change the mode. -/
lemma step_of_variable (h : (m.step c).2 = .variable) :
    c = '$' ∧ (m = plain ∨ m = doubleQuote) ∧ (m.step c).1 = m := by
  obtain ⟨next, hnext, hrow⟩ := exists_rule h
  cases hrow with
  | dollarPlain => exact ⟨rfl, Or.inl rfl, hnext⟩
  | dollarDouble => exact ⟨rfl, Or.inr rfl, hnext⟩

end actions

/-! ## Characters that leave the mode -/

/-- The characters leave the mode as it is. -/
def Idle (m : Mode) (cs : List Char) : Prop := ∀ c ∈ cs, (m.step c).1 = m

/-- Reading nothing, a mode is idle. -/
lemma idle_nil (m : Mode) : m.Idle [] := by
  intro c hc
  simp at hc

/-- A mode that is idle over a text stays the same at each of its characters. -/
lemma idle_cons {m : Mode} {c : Char} {cs : List Char} :
    m.Idle (c :: cs) ↔ (m.step c).1 = m ∧ m.Idle cs := by
  simp [Idle]

/-- Idle characters do not change the mode together either. -/
lemma after_of_idle {m : Mode} {cs : List Char} (h : m.Idle cs) : m.after cs = m := by
  induction cs with
  | nil => rfl
  | cons c cs ih =>
      rw [idle_cons] at h
      rw [after_cons, h.1]
      exact ih h.2

/-- Outside quotes and between double quotes a bare character is pushed, unless it is a dollar
sign. -/
lemma rule_push_of_isBare {m : Mode} (hm : m = plain ∨ m = doubleQuote) {c : Char}
    (hc : isBare c = true) (hd : c ≠ '$') : Rule m c m (.push c) := by
  obtain ⟨-, -, hquote, hbackslash, -, -⟩ := isBare_iff.mp hc
  rcases hm with rfl | rfl
  · exact .bare hc hd
  · exact .double hquote hbackslash hd

/-- Characters of names and braces are idle outside quotes and between double quotes. -/
lemma idle_of_forall_name {m : Mode} (hm : m = plain ∨ m = doubleQuote) {cs : List Char}
    (h : ∀ c ∈ cs, isNameChar c = true ∨ c = '\x7b' ∨ c = '\x7d') : m.Idle cs := by
  intro c hc
  have hne : c ≠ '\'' ∧ c ≠ '"' ∧ c ≠ '\\' := by
    refine ⟨?_, ?_, ?_⟩ <;> rintro rfl <;> exact absurd (h _ hc) (by decide)
  rcases hm with rfl | rfl
  · simp only [step, stepPlain, hne.1, hne.2.1, hne.2.2, if_false]
    split_ifs <;> rfl
  · simp only [step, stepDouble, hne.2.1, hne.2.2, if_false]
    split_ifs <;> rfl

/-! ## The characters that reach a token -/

/-- The characters of a line, read from mode `m` on, whose action keeps them. -/
def kept (m : Mode) (cs : List Char) : List Char :=
  ((cs.zip (m.trace cs)).filter fun x => x.2.2.keeps).map Prod.fst

/-- Of no text nothing is kept. -/
@[simp] lemma kept_nil (m : Mode) : m.kept [] = [] := rfl

/-- A character that is kept stands in front of what is kept of the rest. -/
lemma kept_cons_of_keeps {m : Mode} {c : Char} (h : (m.step c).2.keeps = true) (cs : List Char) :
    m.kept (c :: cs) = c :: (m.step c).1.kept cs := by
  simp [kept, trace, h]

/-- Any other character is left out. -/
lemma kept_cons_of_not_keeps {m : Mode} {c : Char} (h : (m.step c).2.keeps = false)
    (cs : List Char) : m.kept (c :: cs) = (m.step c).1.kept cs := by
  simp [kept, trace, h]

end Mode

end PipeShell
