import PipeShell.Proofs.Token.Table

/-!
# Well-formed tokens

A line read without references has tokens of a plain kind: an operator is `|`, `>` or `>>`, a word
that was not quoted is not empty and has only bare characters, and a quoted word is any text at all
(`Token.IsWellFormed`).

The invariant behind it, `Draft.Fits`, ties the word that has begun to the quote that is open.
Inside quotes there is always a word, and it is already quoted; outside quotes there may be none, or
one that is quoted or made of bare characters.  Every piece keeps it
(`isWellFormed_of_mem_assemble`).
-/

namespace PipeShell

open Mode

/-- The text is a word that can be written without quotes. -/
def IsBareWord (text : String) : Prop :=
  text ≠ "" ∧ ∀ c ∈ text.toList, isBare c = true

/-- Whether a word needs no quotes can be evaluated. -/
instance : DecidablePred IsBareWord := fun text =>
  decidable_of_iff (text ≠ "" ∧ text.toList.all isBare = true) (by simp [IsBareWord])

/-- The token is one that a line without references can hold. -/
def Token.IsWellFormed : Token → Prop
  | .word text false => IsBareWord text
  | .word _ true => True
  | .operator text => text = "|" ∨ text = ">" ∨ text = ">>"

/-- So can whether a token is well-formed. -/
instance : DecidablePred Token.IsWellFormed
  | .word text false => inferInstanceAs (Decidable (IsBareWord text))
  | .word _ true => inferInstanceAs (Decidable True)
  | .operator text => inferInstanceAs (Decidable (text = "|" ∨ text = ">" ∨ text = ">>"))

namespace Draft

/-- What holds of the word that has begun, or of there being none, while `quote?` is open. -/
def Fits (quote? : Option Char) : Option Draft → Prop
  | none => quote? = none
  | some d => d.quoted = true ∨ (quote? = none ∧ IsBareWord d.text)

/-! ## What keeps the invariant -/

variable {quote? : Option Char} {d : Option Draft}

/-- A draft still fits when a character is added that needs no quotes here. -/
lemma fits_push {c : Char} (hc : quote? = none → isBare c = true) (hd : Fits quote? d) :
    Fits quote? (some (push c false d)) := by
  rcases d with _ | d
  · refine Or.inr ⟨hd, ?_, ?_⟩
    · simp [push]
    · intro e he
      have hec : e = c := by simpa [push] using he
      rw [hec]
      exact hc hd
  · rcases hd with hquoted | ⟨hopen, -, hbare⟩
    · exact Or.inl (by simp [push, hquoted])
    · refine Or.inr ⟨hopen, ?_, ?_⟩
      · simp [push]
      · intro e he
        have hmem : e ∈ d.text.toList ∨ e = c := by simpa [push] using he
        rcases hmem with he' | rfl
        · exact hbare e he'
        · exact hc hopen

/-- A draft with a quoted character always fits. -/
lemma fits_escaped (quote? : Option Char) (c : Char) (d : Option Draft) :
    Fits quote? (some (push c true d)) := by
  cases d <;> exact Or.inl (by simp [push])

/-- So does a draft with a quote. -/
lemma fits_quote (quote? : Option Char) (d : Option Draft) :
    Fits quote? (some (extend "" true d)) := by
  cases d <;> exact Or.inl (by simp [extend])

/-- A word that ends becomes a well-formed token. -/
lemma isWellFormed_of_mem_finish (hd : Fits quote? d) {t : Token} (ht : t ∈ finish d) :
    t.IsWellFormed := by
  rcases d with _ | ⟨text, quoted⟩
  · simp [finish] at ht
  · have htok : t = .word text quoted := by simpa [finish] using ht
    rw [htok]
    rcases quoted with _ | _
    · rcases hd with hquoted | ⟨-, hword⟩
      · cases hquoted
      · exact hword
    · exact trivial

end Draft

/-- An operator that the table finds has one of the three texts. -/
lemma isWellFormed_operator {m : Mode} {c o : Char} (hact : (m.step c).2 = .operator o)
    (cs : List Char) : (Token.operator (operatorText o cs)).IsWellFormed := by
  obtain ⟨rfl, hchar, -, -⟩ := step_of_operator hact
  unfold operatorText
  split_ifs with h
  · exact Or.inr (Or.inr rfl)
  · rcases hchar with rfl | rfl
    · exact Or.inl rfl
    · exact Or.inr (Or.inl rfl)

/-- Every token read without references is well formed, when the word that has begun fits the quote
that is open. -/
theorem isWellFormed_of_mem_assemble (vars : Lookup) (skip : Nat) (m : Mode) (cs : List Char) :
    ∀ d, Draft.Fits m.openQuote? d →
      ∀ t ∈ assemble vars d (pieces false skip m cs).1, t.IsWellFormed := by
  -- the invariant of the scan is that the draft fits the mode
  fun_induction pieces false skip m cs with
  | case1 => exact fun d hd t ht => Draft.isWellFormed_of_mem_finish hd ht
  | case2 skip m c cs ih => exact ih
  | case3 m c cs next e hact ih =>
      intro d hd
      obtain ⟨rfl, hnext, hbare⟩ := step_of_push hact
      apply ih
      change Draft.Fits (m.step e).1.openQuote? _
      rw [hnext]
      exact Draft.fits_push hbare hd
  | case4 m c cs next e hact ih => exact fun d _ => ih _ (Draft.fits_escaped _ e d)
  | case5 m c cs next hact ih => exact fun d _ => ih _ (Draft.fits_quote _ d)
  | case6 m c cs next hact ih => exact fun d _ => ih _ (Draft.fits_quote _ d)
  -- behind a gap no quote is open, so what follows may begin without a draft
  | case7 m c cs next hact ih =>
      intro d hd t ht
      have hnone : next.openQuote? = none := congrArg openQuote? (step_of_gap hact).2
      rcases List.mem_append.mp ht with ht | ht
      · exact Draft.isWellFormed_of_mem_finish hd ht
      · exact ih none hnone t ht
  | case8 m c cs next o hact text ih =>
      intro d hd t ht
      have hnone : next.openQuote? = none := congrArg openQuote? (step_of_operator hact).2.2.2
      rcases List.mem_append.mp ht with ht | ht
      · exact Draft.isWellFormed_of_mem_finish hd ht
      · rcases List.mem_cons.mp ht with rfl | ht
        · exact isWellFormed_operator hact cs
        · exact ih none hnone t ht
  | case9 m c cs next hact ref href ih => simp at href
  | case10 m c cs next hact href ih =>
      intro d hd
      obtain ⟨rfl, -, hnext⟩ := step_of_variable hact
      apply ih
      change Draft.Fits (m.step '$').1.openQuote? _
      rw [hnext]
      exact Draft.fits_push (fun _ => by decide) hd
  | case11 m c cs next hact ih =>
      intro d hd
      apply ih
      change Draft.Fits (m.step c).1.openQuote? d
      rw [step_of_skip hact]
      exact hd

/-- Every token of a line read without references is well formed. -/
theorem isWellFormed_of_scanPlain {line : String} {ts : List Token}
    (h : Token.scanPlain line = .ok ts) {t : Token} (ht : t ∈ ts) : t.IsWellFormed := by
  unfold Token.scanPlain Token.scan at h
  dsimp only at h
  split at h
  · cases h
  · cases h
    exact isWellFormed_of_mem_assemble _ 0 plain line.toList none rfl t ht

end PipeShell
