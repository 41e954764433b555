import PipeShell.Proofs.Token.Reading
import PipeShell.Proofs.Token.WellFormed

/-!
# Writing tokens and reading them back

`Token.render` writes tokens on a line, with one space between neighbours: operators and unquoted
words as they are, quoted words in single quotes.  Reading such a line gives the tokens back, with
their texts and their kinds (`scanPlain_render`), provided that they are well formed; and the tokens
of a line always are (`isWellFormed_of_scanPlain`).  So well-formed tokens are exactly the ones that
reading can give.
-/

namespace PipeShell.Token

open Mode

/-- How a token is written. -/
def written : Token → List Char
  | .word text false => text.toList
  | .word text true => singleQuoted text.toList
  | .operator text => text.toList

/-- The line that tokens are written on. -/
def render (ts : List Token) : String :=
  String.intercalate " " (ts.map fun t => String.ofList t.written)

/-! ## One token -/

/-- An operator that is written on a line is read as that operator. -/
lemma operatorText_of_separated {c : Char} {cs : List Char} (h : ∀ d ∈ cs.head?, d = ' ') :
    operatorText c cs = String.ofList [c] :=
  operatorText_of_ne fun hgt => absurd (h _ hgt.2) (by decide)

/-- An operator, and a space or nothing after it. -/
lemma scanFrom_operator_append {text : String} (ht : (operator text).IsWellFormed)
    {rest : List Char} (h : ∀ c ∈ rest.head?, c = ' ') :
    scanFrom none plain none (text.toList ++ rest) =
      (scanFrom none plain none rest).map (operator text :: ·) := by
  rcases ht with rfl | rfl | rfl
  · change scanFrom none plain none ('|' :: rest) = _
    rw [scanFrom_operator none none rest (Or.inl rfl), operatorText_of_separated h]
    rfl
  · change scanFrom none plain none ('>' :: rest) = _
    rw [scanFrom_operator none none rest (Or.inr rfl), operatorText_of_separated h]
    rfl
  · change scanFrom none plain none ('>' :: '>' :: rest) = _
    rw [scanFrom_operator none none _ (Or.inr rfl), operatorText_gt_cons]
    rfl

/-- A word that has been read, and a space or nothing after it. -/
lemma scanFrom_word_end (text : String) (quoted : Bool) {rest : List Char}
    (h : ∀ c ∈ rest.head?, c = ' ') :
    scanFrom none plain (some (Draft.extend (String.ofList text.toList) quoted none)) rest =
      (scanFrom none plain none rest).map (word text quoted :: ·) := by
  rw [scanFrom_of_separated none _ h, String.ofList_toList]
  rfl

/-- A token that is written on a line, with a space or nothing after it, is read as that token. -/
theorem scanFrom_written_append {t : Token} (ht : t.IsWellFormed) {rest : List Char}
    (h : ∀ c ∈ rest.head?, c = ' ') :
    scanFrom none plain none (t.written ++ rest) =
      (scanFrom none plain none rest).map (t :: ·) := by
  match t, ht with
  | .word text false, ht =>
      have hne : text.toList ≠ [] := fun hnil => ht.1 (String.toList_eq_nil_iff.mp hnil)
      rw [written, scanFrom_bare_append hne ht.2 (.inl rfl), scanFrom_word_end text false h]
  | .word text true, _ =>
      rw [written, scanFrom_singleQuoted_append, scanFrom_word_end text true h]
  | .operator text, ht => exact scanFrom_operator_append ht h

/-! ## Whole lines -/

/-- The characters of a written line. -/
lemma toList_render_cons (t : Token) (ts : List Token) :
    (render (t :: ts)).toList =
      t.written ++ if ts = [] then [] else ' ' :: (render ts).toList := by
  cases ts with
  | nil => simp [render]
  | cons u us =>
      rw [if_neg (List.cons_ne_nil u us)]
      simp [render]

/-- Reading gives well-formed tokens back as they were written. -/
theorem scanPlain_render {ts : List Token} (h : ∀ t ∈ ts, t.IsWellFormed) :
    scanPlain (render ts) = .ok ts := by
  rw [scanPlain, scan_eq_scanFrom]
  induction ts with
  | nil => rfl
  | cons t ts ih =>
      obtain ⟨ht, hts⟩ := List.forall_mem_cons.mp h
      rw [toList_render_cons]
      by_cases hnil : ts = []
      · subst hnil
        rw [if_pos rfl, scanFrom_written_append ht (by simp)]
        rfl
      · rw [if_neg hnil, scanFrom_written_append ht (by simp), scanFrom_gap none none _ (by decide),
          ih hts]
        rfl

/-- Reading a line and writing tokens are inverse to each other: every line that can be read has
well-formed tokens, well-formed tokens are read back as they were written, and so reading a line,
writing its tokens and reading again changes nothing. -/
theorem scanPlain_and_render_inverse :
    (∀ line ts, scanPlain line = .ok ts → ∀ t ∈ ts, t.IsWellFormed) ∧
      (∀ ts : List Token, (∀ t ∈ ts, t.IsWellFormed) → scanPlain (render ts) = .ok ts) ∧
      ∀ line ts, scanPlain line = .ok ts → scanPlain (render ts) = scanPlain line := by
  refine ⟨fun line ts h t ht => isWellFormed_of_scanPlain h ht, fun ts h => scanPlain_render h, ?_⟩
  intro line ts h
  rw [h]
  exact scanPlain_render fun t ht => isWellFormed_of_scanPlain h ht

/-- The round trip for an empty word, an operator of two characters, a word with a dollar sign and a
word with a quote and an operator in it. -/
theorem scanPlain_and_render_inverse_at_quotes :
    (∀ t ∈ [word "" true, operator ">>", word "$a" false, word "it's |" true], t.IsWellFormed) ∧
      render [word "" true, operator ">>", word "$a" false, word "it's |" true] =
        "'' >> $a 'it'\\''s |'" ∧
      scanPlain (render [word "" true, operator ">>", word "$a" false, word "it's |" true]) =
        .ok [word "" true, operator ">>", word "$a" false, word "it's |" true] :=
  ⟨by decide, by rfl, scanPlain_and_render_inverse.2.1 _ (by decide)⟩

end PipeShell.Token
