import PipeShell.Proofs.Token.Agreement
import PipeShell.Proofs.Token.Expansion

/-!
# Reading a line in parts

The scanner looks ahead: for a second `>`, for the end of a name, and for a closing brace, however
far away it is.  A character that goes on with none of these (`BeginsPiece`) stops it.  So the
pieces of a line that is cut at such a character are those of its two parts (`pieces_append_cons`).
A character that ends a word (`EndsWord`: a blank or the pipe) is one, and when the first part ends
outside quotes, its tokens come first and those of the second part follow
(`Token.scanFrom_append_cons`).

`Token.scan_append_blank` and `Token.scan_append_pipe` say this of whole lines.
-/

namespace PipeShell

open Mode

/-- A character that ends a word wherever it stands outside quotes, and goes on with nothing that
stands before it: a blank or the operator between two stages. -/
def EndsWord (w : Char) : Prop := Text.isBlank w = true ∨ w = '|'

/-- A character that goes on with no piece before it: references are not written with it, and it is
not the second character of an operator. -/
structure BeginsPiece (w : Char) : Prop where
  not_name_or_brace : ¬(isNameChar w = true ∨ w = '\x7b' ∨ w = '\x7d')
  ne_gt : w ≠ '>'

section look_ahead

variable {w : Char}

/-- What ends a word begins something new. -/
lemma EndsWord.beginsPiece (hw : EndsWord w) : BeginsPiece w where
  not_name_or_brace := by
    rintro (hname | rfl | rfl)
    · obtain ⟨hblank, -, -, -, hpipe, -⟩ := isBare_iff.mp (isBare_of_isNameChar hname).1
      rcases hw with hw | rfl
      · exact absurd (hw.symm.trans hblank) (by decide)
      · exact hpipe rfl
    · rcases hw with hw | hw <;> exact absurd hw (by decide)
    · rcases hw with hw | hw <;> exact absurd hw (by decide)
  ne_gt := by
    rintro rfl
    rcases hw with hw | hw <;> exact absurd hw (by decide)

/-- Such a character is no part of an operator in front of it. -/
lemma operatorText_append_cons (hw : BeginsPiece w) (c : Char) (cs ds : List Char) :
    operatorText c (cs ++ w :: ds) = operatorText c cs := by
  have hhead : (cs ++ w :: ds).head? = some '>' ↔ cs.head? = some '>' := by
    cases cs with
    | nil => simp [hw.ne_gt]
    | cons d cs => rfl
  simp only [operatorText, Bool.and_eq_true, decide_eq_true_eq, hhead]

/-- The pieces of a line that is cut where a piece begins are the pieces of its first part and those
of its second part, read in the mode in which the first part ends. -/
theorem pieces_append_cons (hw : BeginsPiece w) (expand : Bool) (skip : Nat) (m : Mode)
    (cs ds : List Char) (hskip : skip ≤ cs.length) :
    pieces expand skip m (cs ++ w :: ds) =
      ((pieces expand skip m cs).1 ++
          (pieces expand 0 (pieces expand skip m cs).2 (w :: ds)).1,
        (pieces expand 0 (pieces expand skip m cs).2 (w :: ds)).2) := by
  fun_induction pieces expand skip m cs with
  | case1 skip m =>
      obtain rfl : skip = 0 := Nat.le_zero.mp hskip
      rfl
  | case2 skip m c cs ih => exact ih (Nat.le_of_succ_le_succ hskip)
  -- operators and references look ahead, but not beyond the cut
  | case8 m c cs next o hact text ih =>
      rw [List.cons_append, pieces, hact]
      simp only [operatorText_append_cons hw]
      exact congrArg (pieces.push _) (ih (length_operatorText_le o cs))
  | case9 m c cs next hact ref href ih =>
      have hread := (Option.ite_none_right_eq_some.mp href).2
      rw [List.cons_append, pieces, hact]
      simp only [Reference.read?_append_cons hw.not_name_or_brace, href]
      exact congrArg (pieces.push _) (ih (Reference.width_le hread))
  | case10 m c cs next hact href ih =>
      rw [List.cons_append, pieces, hact]
      simp only [Reference.read?_append_cons hw.not_name_or_brace, href]
      exact congrArg (pieces.push _) (ih (Nat.zero_le _))
  | case11 m c cs next hact ih =>
      rw [List.cons_append, pieces, hact]
      exact ih (Nat.zero_le _)
  | _ =>
      rename_i hact ih
      rw [List.cons_append, pieces, hact]
      exact congrArg (pieces.push _) (ih (Nat.zero_le _))

/-- A character that ends a word is read as a token of its own, or as none. -/
lemma assemble_pieces_cons (hw : EndsWord w) (vars : Lookup) (expand : Bool) (ds : List Char)
    (d : Option Draft) :
    assemble vars d (pieces expand 0 plain (w :: ds)).1 =
      Draft.finish d ++ assemble vars none (pieces expand 0 plain (w :: ds)).1 := by
  rcases hw with hblank | rfl
  · simp only [pieces, (Rule.gap hblank).step_eq]
    rfl
  · rfl

end look_ahead

/-- Pieces are joined in two parts, if the second part ends any word that has begun. -/
lemma assemble_append {vars : Lookup} {qs : List Piece}
    (hqs : ∀ d, assemble vars d qs = Draft.finish d ++ assemble vars none qs) (d : Option Draft)
    (ps : List Piece) :
    assemble vars d (ps ++ qs) = assemble vars d ps ++ assemble vars none qs := by
  fun_induction assemble vars d ps with
  | case1 d => exact hqs d
  | case4 d ps ih => rw [List.cons_append, assemble, ih, List.append_assoc]
  | case5 d text ps ih =>
      rw [List.cons_append, assemble, ih, List.append_assoc, List.cons_append]
  | case6 d name ps value hempty ih =>
      rw [List.cons_append, assemble]
      exact (if_pos hempty).trans ih
  | case7 d name ps value hfull ih =>
      rw [List.cons_append, assemble]
      exact (if_neg hfull).trans ih
  | _ =>
      rename_i ih
      exact ih

namespace Token

variable {vars : Option Lookup} {a : String} {ts : List Token}

/-- A line that ends outside quotes can be read. -/
lemma exists_scan_eq_ok (vars : Option Lookup) (ha : plain.after a.toList = plain) :
    ∃ ts, scan vars a = .ok ts :=
  (decides_scan vars a).read.mpr (Or.inl ha)

/-- The tokens of a line are those of its two parts, if the first part ends outside quotes and the
second begins with a character that ends a word. -/
theorem scanFrom_append_cons {w : Char} (hw : EndsWord w) (ha : plain.after a.toList = plain)
    (hts : scan vars a = .ok ts) (ds : List Char) :
    scanFrom vars plain none (a.toList ++ w :: ds) =
      (scanFrom vars plain none (w :: ds)).map (ts ++ ·) := by
  have hmode : (pieces vars.isSome 0 plain a.toList).2 = plain :=
    (pieces_mode vars.isSome 0 plain a.toList (idle_nil _)).trans ha
  have hread : assemble (vars.getD fun _ => none) none (pieces vars.isSome 0 plain a.toList).1 =
      ts := by
    rw [scan_eq_of_after, ha] at hts
    exact Except.ok.inj hts
  have hpieces := pieces_append_cons hw.beginsPiece vars.isSome 0 plain a.toList ds (Nat.zero_le _)
  simp only [scanFrom, hpieces, hmode]
  split
  · rfl
  · rw [assemble_append (assemble_pieces_cons hw _ _ ds), hread]
    rfl

/-- At a blank a line falls apart into two lines. -/
theorem scan_append_blank {w : Char} (hw : Text.isBlank w = true)
    (ha : plain.after a.toList = plain) (hts : scan vars a = .ok ts) (b : String) :
    scan vars (a ++ w.toString ++ b) = (scan vars b).map (ts ++ ·) := by
  have hline : (a ++ w.toString ++ b).toList = a.toList ++ w :: b.toList := by simp
  rw [scan_eq_scanFrom, hline, scanFrom_append_cons (Or.inl hw) ha hts, scanFrom_gap _ _ _ hw,
    scan_eq_scanFrom]
  cases scanFrom vars plain none b.toList <;> rfl

/-- At a pipe outside quotes a line falls apart into two lines and the operator. -/
theorem scan_append_pipe (ha : plain.after a.toList = plain) (hts : scan vars a = .ok ts)
    (b : String) :
    scan vars (a ++ "|" ++ b) = (scan vars b).map fun us => ts ++ pipe :: us := by
  have hline : (a ++ "|" ++ b).toList = a.toList ++ '|' :: b.toList := by simp
  have htext : operatorText '|' b.toList = "|" := rfl
  have hlength : "|".length - 1 = 0 := rfl
  rw [scan_eq_scanFrom, hline, scanFrom_append_cons (Or.inr rfl) ha hts,
    scanFrom_operator _ _ _ (Or.inl rfl), htext, hlength, List.drop_zero, scan_eq_scanFrom]
  cases scanFrom vars plain none b.toList <;> rfl

/-- Reading a line is compositional.  Behind a text that ends outside quotes, with references or
without, a blank or a pipe starts afresh: the tokens of the first part come first, then the pipe if
there is one, then the tokens of the second part; and where the second part cannot be read, the line
cannot, for the same reason. -/
theorem scan_in_parts (vars : Option Lookup) (a b : String) (ha : plain.after a.toList = plain) :
    ∃ ts, scan vars a = .ok ts ∧
      (∀ w, Text.isBlank w = true →
        scan vars (a ++ w.toString ++ b) = (scan vars b).map (ts ++ ·)) ∧
      scan vars (a ++ "|" ++ b) = (scan vars b).map fun us => ts ++ pipe :: us := by
  obtain ⟨ts, hts⟩ := exists_scan_eq_ok vars ha
  exact ⟨ts, hts, fun w hw => scan_append_blank hw ha hts b, scan_append_pipe ha hts b⟩

/-- The first part ends in an open brace that the second part would close, or in a `>`; a quote that
the second part leaves open is an error of the whole line. -/
theorem scan_in_parts_at_open_brace :
    plain.after "a>$\x7bX".toList = plain ∧
      scan (some fun _ => some "v") ("a>$\x7bX" ++ "|" ++ "Y\x7d'b c'") =
        .ok [word "a" false, operator ">", word "$\x7bX" false, pipe, word "Y\x7db c" true] ∧
      scan (some fun _ => some "v") ("a>$\x7bX" ++ ' '.toString ++ "Y\x7d'") =
        .error (.unterminatedQuote '\'') := by
  have ha : plain.after "a>$\x7bX".toList = plain := rfl
  obtain ⟨ts, hts, -, hpipe⟩ := scan_in_parts (some fun _ => some "v") "a>$\x7bX" "Y\x7d'b c'" ha
  obtain ⟨ts', -, hblank, -⟩ := scan_in_parts (some fun _ => some "v") "a>$\x7bX" "Y\x7d'" ha
  cases hts
  exact ⟨ha, hpipe.trans rfl, (hblank ' ' (by decide)).trans rfl⟩

end Token

end PipeShell
