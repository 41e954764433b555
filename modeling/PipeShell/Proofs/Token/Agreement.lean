import PipeShell.Proofs.Token.Draft
import PipeShell.Proofs.Token.Table
import PipeShell.Proofs.Variable.Reference

/-!
# The scanner agrees with the quoting table

`pieces` takes several characters at once where it meets `>>` or a reference, without looking them
up in the table.  Those characters are idle where they stand, so the scanner still ends every line
in the mode in which the table ends it (`pieces_mode`), and with that the result of reading a line
is an error exactly when the table leaves a quote open (`scan_eq_of_after`).

Reading a line without references also loses no text.  `pieces` hands on the characters that the
table keeps (`flatMap_chars_pieces`), and `assemble` neither drops nor repeats a character
(`flatMap_text_assemble`).
-/

namespace PipeShell

open Mode

/-! ## Runs that the scanner takes at once -/

/-- An operator is its first character and the characters taken with it, all of them `>`. -/
lemma operatorText_spec (c : Char) (cs : List Char) :
    (operatorText c cs).toList = c :: cs.take ((operatorText c cs).length - 1) ∧
      ∀ d ∈ cs.take ((operatorText c cs).length - 1), d = '>' := by
  unfold operatorText
  split_ifs with h
  · rw [Bool.and_eq_true, decide_eq_true_eq, decide_eq_true_eq] at h
    obtain ⟨rfl, hhead⟩ := h
    obtain ⟨rest, rfl⟩ := List.head?_eq_some_iff.mp hhead
    have hlen : ">>".length - 1 = 1 := rfl
    rw [hlen, List.take_succ_cons, List.take_zero]
    exact ⟨rfl, fun d hd => List.mem_singleton.mp hd⟩
  · have hlen : c.toString.length - 1 = 0 := by simp
    rw [hlen]
    exact ⟨by simp, by simp⟩

/-- What an operator takes behind its first character is there to be taken. -/
lemma length_operatorText_le (c : Char) (cs : List Char) :
    (operatorText c cs).length - 1 ≤ cs.length := by
  have hlength := congrArg List.length (operatorText_spec c cs).1
  rw [String.length_toList, List.length_cons, List.length_take] at hlength
  omega

/-- A further `>` outside quotes leaves the mode. -/
lemma idle_of_forall_gt {cs : List Char} (h : ∀ c ∈ cs, c = '>') : plain.Idle cs := by
  intro c hc
  rw [h c hc]
  rfl

/-- The characters that an operator takes are idle after it. -/
lemma idle_operator {m : Mode} {c o : Char} (hact : (m.step c).2 = .operator o) (cs : List Char) :
    (m.step c).1.Idle (cs.take ((operatorText o cs).length - 1)) := by
  rw [(step_of_operator hact).2.2.2]
  exact idle_of_forall_gt (operatorText_spec o cs).2

/-- The characters that a reference takes are idle after its dollar sign. -/
lemma idle_reference {m : Mode} {c : Char} {cs : List Char} {ref : Reference}
    (hact : (m.step c).2 = .variable) (href : Reference.read? cs = some ref) :
    (m.step c).1.Idle (cs.take ref.width) := by
  obtain ⟨-, hmode, hnext⟩ := step_of_variable hact
  rw [hnext]
  exact idle_of_forall_name hmode fun d hd => Reference.name_or_brace_of_mem_take href hd

/-! ## The mode at the end of a line -/

/-- The scanner ends in the mode that the table reaches over all characters, skipped ones
included, when the characters still to be skipped are idle. -/
theorem pieces_mode (expand : Bool) (skip : Nat) (m : Mode) (cs : List Char)
    (hidle : m.Idle (cs.take skip)) : (pieces expand skip m cs).2 = m.after cs := by
  fun_induction pieces expand skip m cs with
  | case1 => rfl
  | case2 skip m c cs ih =>
      rw [List.take_succ_cons, idle_cons] at hidle
      rw [after_cons, hidle.1]
      exact ih hidle.2
  | case8 m c cs next o hact text ih => exact ih (idle_operator hact cs)
  | case9 m c cs next hact ref href ih =>
      rw [Option.ite_none_right_eq_some] at href
      exact ih (idle_reference hact href.2)
  | _ =>
      rename_i ih
      exact ih (idle_nil _)

/-- The result of reading a line, from the mode in which the table ends it. -/
lemma scan_eq_of_after (vars : Option Lookup) (line : String) :
    Token.scan vars line =
      match (plain.after line.toList).openQuote? with
      | some quote => .error (.unterminatedQuote quote)
      | none => .ok (assemble (vars.getD fun _ => none) none
          (pieces vars.isSome 0 plain line.toList).1) := by
  have hmode := pieces_mode vars.isSome 0 plain line.toList (idle_nil _)
  exact hmode ▸ rfl

/-! ## The text of the tokens -/

/-- The characters that a piece contributes to the tokens. -/
def Piece.chars (vars : Lookup) : Piece → List Char
  | .char c _ => [c]
  | .quote => []
  | .gap => []
  | .operator text => text.toList
  | .variable name => ((vars name).getD "").toList

/-- Joining pieces into tokens keeps every character, in order. -/
theorem flatMap_text_assemble (vars : Lookup) (d : Option Draft) (ps : List Piece) :
    (assemble vars d ps).flatMap (fun t => t.text.toList) =
      Draft.chars d ++ ps.flatMap (Piece.chars vars) := by
  fun_induction assemble vars d ps with
  | case1 d => simp [Draft.flatMap_text_finish]
  | case2 d c escaped ps ih => rw [ih, Draft.chars_push]; simp [Piece.chars]
  | case3 d ps ih => rw [ih, Draft.chars_extend]; simp [Piece.chars]
  | case4 d ps ih =>
      rw [List.flatMap_append, ih, Draft.flatMap_text_finish]
      simp [Draft.chars, Piece.chars]
  | case5 d text ps ih =>
      rw [List.flatMap_append, List.flatMap_cons, ih, Draft.flatMap_text_finish]
      simp [Draft.chars, Piece.chars, Token.text]
  | case6 d name ps value hempty ih =>
      have hvalue : Piece.chars vars (.variable name) = [] := by
        rw [Piece.chars, String.toList_eq_nil_iff]
        exact String.isEmpty_iff.mp hempty
      rw [ih, List.flatMap_cons, hvalue, List.nil_append]
  | case7 d name ps value _ ih =>
      rw [ih, Draft.chars_extend, List.append_assoc, List.flatMap_cons, Piece.chars]

/-- The `>` characters in front of a line are all kept outside quotes. -/
lemma kept_append_of_forall_gt {ds : List Char} (h : ∀ d ∈ ds, d = '>') (cs : List Char) :
    plain.kept (ds ++ cs) = ds ++ plain.kept cs := by
  induction ds with
  | nil => rfl
  | cons d ds ih =>
      obtain ⟨rfl, hds⟩ := List.forall_mem_cons.mp h
      rw [List.cons_append, kept_cons_of_keeps rfl]
      exact congrArg _ (ih hds)

/-- Without references, the pieces of a line hold the characters that the table keeps. -/
theorem flatMap_chars_pieces (vars : Lookup) (skip : Nat) (m : Mode) (cs : List Char) :
    (pieces false skip m cs).1.flatMap (Piece.chars vars) = m.kept (cs.drop skip) := by
  fun_induction pieces false skip m cs with
  | case1 => rw [List.drop_nil]; rfl
  | case2 skip m c cs ih => exact ih
  | case3 m c cs next d hact ih =>
      obtain ⟨rfl, -, -⟩ := step_of_push hact
      rw [List.drop_zero, kept_cons_of_keeps (by rw [hact]; rfl)]
      exact congrArg (d :: ·) ih
  | case4 m c cs next d hact ih =>
      obtain rfl := step_of_escaped hact
      rw [List.drop_zero, kept_cons_of_keeps (by rw [hact]; rfl)]
      exact congrArg (d :: ·) ih
  | case8 m c cs next o hact text ih =>
      obtain ⟨rfl, -, -, hplain⟩ := step_of_operator hact
      obtain ⟨htext, hgt⟩ := operatorText_spec o cs
      change text.toList ++ (pieces false (text.length - 1) next cs).1.flatMap _ = _
      rw [ih, htext, List.drop_zero, kept_cons_of_keeps (by rw [hact]; rfl), List.cons_append]
      change _ :: (_ ++ (m.step o).1.kept _) = _
      rw [hplain, ← kept_append_of_forall_gt hgt, List.take_append_drop]
  | case9 m c cs next hact ref href ih => simp at href
  | case10 m c cs next hact href ih =>
      rw [List.drop_zero, kept_cons_of_keeps (by rw [hact]; rfl)]
      exact congrArg (c :: ·) ih
  | _ =>
      rename_i m c cs next hact ih
      rw [List.drop_zero, kept_cons_of_not_keeps (by rw [hact]; rfl)]
      exact ih

/-! ## Agreement -/

/-- The result of reading a line tells in which mode the line ends: a quote that is still open is an
error that names it, and every other line is read. -/
structure Mode.Decides (m : Mode) (result : Except SyntaxError (List Token)) : Prop where
  single : result = .error (.unterminatedQuote '\'') ↔ m = singleQuote
  double : result = .error (.unterminatedQuote '"') ↔ m = doubleQuote ∨ m = escape .doubleQuote
  read : (∃ ts, result = .ok ts) ↔ m = plain ∨ m = escape .plain

/-- The mode that the table reaches over a line decides the result of reading it. -/
lemma decides_scan (vars : Option Lookup) (line : String) :
    (plain.after line.toList).Decides (Token.scan vars line) := by
  rw [scan_eq_of_after]
  generalize plain.after line.toList = m
  rcases m with _ | _ | _ | (_ | _) <;> constructor <;> simp [Mode.openQuote?]

/-- The scanner agrees with the table.  The mode in which folding the table over all characters of
the line ends decides the result, with references and without.  Without them, the texts of the
tokens are together the characters whose action pushes, escapes, is an operator or may begin a
reference, in order. -/
theorem scan_agrees_with_table (line : String) :
    (plain.after line.toList).Decides (Token.scanPlain line) ∧
      (∀ vars, (plain.after line.toList).Decides (Token.scanWith vars line)) ∧
      ∀ ts, Token.scanPlain line = .ok ts →
        String.join (ts.map Token.text) = String.ofList (plain.kept line.toList) := by
  refine ⟨decides_scan none line, fun vars => decides_scan (some vars) line, ?_⟩
  intro ts hts
  rw [Token.scanPlain, scan_eq_of_after] at hts
  split at hts
  · cases hts
  · cases hts
    apply String.toList_injective
    rw [String.toList_join, String.toList_ofList, List.flatMap_map, flatMap_text_assemble]
    exact flatMap_chars_pieces _ 0 plain line.toList

/-- The agreement at a line with `>>`, both kinds of quotes, an escape, a dollar sign and a
backslash at its end. -/
theorem scan_agrees_with_table_at_mixed_line :
    Token.scanPlain "a>>'b|'\"\\$\"c\\ d $e\\" =
        .ok [.word "a" false, .operator ">>", .word "b|$c d" true, .word "$e" false] ∧
      String.join (List.map Token.text
          [.word "a" false, .operator ">>", .word "b|$c d" true, .word "$e" false]) =
        String.ofList (plain.kept "a>>'b|'\"\\$\"c\\ d $e\\".toList) :=
  ⟨rfl, (scan_agrees_with_table "a>>'b|'\"\\$\"c\\ d $e\\").2.2 _ rfl⟩

end PipeShell
