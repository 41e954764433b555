import PipeShell.Proofs.Token.Boundary

/-!
# The two ways to write a reference

A reference can be written with braces around its name or without.  The name by itself is read up to
the first character that cannot belong to it, and the name between braces up to the first closing
brace; either way nothing that stands before the dollar sign can take a part of it, because a piece
begins there (`beginsPiece_dollar`).  Not even an open brace can: it reaches over the dollar sign,
and what it then holds is no name.  So both ways give the same pieces (`pieces_written_congr`), and
two lines that differ in nothing else are read alike (`Token.scanWith_braced_eq`).
-/

namespace PipeShell

open Mode

/-- A dollar sign goes on with nothing that stands before it. -/
lemma beginsPiece_dollar : BeginsPiece '$' := ⟨by decide, by decide⟩

variable {m : Mode} {name written written' rest : List Char}

/-- Outside quotes and between double quotes, a dollar sign and a written reference are one piece,
and reading goes on behind them. -/
lemma pieces_written (hm : m = plain ∨ m = doubleQuote)
    (hwritten : Reference.Written name written rest) :
    pieces true 0 m ('$' :: (written ++ rest)) =
      pieces.push (.variable (String.ofList name)) (pieces true 0 m rest) := by
  have hrow : Rule m '$' m .variable := by
    rcases hm with rfl | rfl
    · exact .dollarPlain
    · exact .dollarDouble
  have href : Reference.read? (written ++ rest) = some ⟨name, written.length⟩ :=
    Reference.read?_eq_some_iff.mpr ⟨written, rest, rfl, rfl, hwritten⟩
  rw [pieces, hrow.step_eq]
  simp only [if_true, href]
  rw [pieces_skip, List.drop_left]

/-- A line has the same pieces however a reference in it is written. -/
theorem pieces_written_congr {cs : List Char}
    (hm : m.after cs = plain ∨ m.after cs = doubleQuote)
    (h : Reference.Written name written rest) (h' : Reference.Written name written' rest) :
    pieces true 0 m (cs ++ '$' :: (written ++ rest)) =
      pieces true 0 m (cs ++ '$' :: (written' ++ rest)) := by
  have hmode : (pieces true 0 m cs).2 = m.after cs := pieces_mode true 0 m cs (idle_nil _)
  rw [pieces_append_cons beginsPiece_dollar _ _ _ _ _ (Nat.zero_le _),
    pieces_append_cons beginsPiece_dollar _ _ _ _ _ (Nat.zero_le _), hmode,
    pieces_written hm h, pieces_written hm h']

namespace Token

/-- A reference may be written with braces or without.  Behind any text that ends outside quotes or
between double quotes, and in front of any text that does not go on with the name, both lines give
the same tokens, or the same error. -/
theorem scanWith_braced_eq (vars : Lookup) {pre name suf : String} (hname : isValidName name = true)
    (hpre : plain.after pre.toList = plain ∨ plain.after pre.toList = doubleQuote)
    (hsuf : ∀ c ∈ suf.toList.head?, isNameChar c = false) :
    scanWith vars (pre ++ "$" ++ name ++ suf) =
      scanWith vars (pre ++ "$\x7b" ++ name ++ "\x7d" ++ suf) := by
  have hbare : (pre ++ "$" ++ name ++ suf).toList =
      pre.toList ++ '$' :: (name.toList ++ suf.toList) := by
    simp [String.toList_append]
  have hbraced : (pre ++ "$\x7b" ++ name ++ "\x7d" ++ suf).toList =
      pre.toList ++ '$' :: ('\x7b' :: (name.toList ++ ['\x7d']) ++ suf.toList) := by
    simp [String.toList_append]
  have hpieces := pieces_written_congr hpre (.bare hname hsuf) (.braced hname suf.toList)
  rw [← hbare, ← hbraced] at hpieces
  simp only [scanWith, scan, Option.isSome_some, hpieces]

/-- An open brace and a dollar sign stand before the reference, between double quotes, and a closing
brace behind it. -/
theorem scanWith_braced_eq_behind_open_brace :
    isValidName "B" = true ∧ plain.after "\"$\x7bA$".toList = doubleQuote ∧
      scanWith (fun _ => some "| v") "\"$\x7bA$$B\x7d\" x" =
        .ok [word "$\x7bA$| v\x7d" true, word "x" false] ∧
      scanWith (fun _ => some "| v") "\"$\x7bA$$\x7bB\x7d\x7d\" x" =
        .ok [word "$\x7bA$| v\x7d" true, word "x" false] := by
  have hpre : plain.after "\"$\x7bA$".toList = doubleQuote := rfl
  have hsuf : ∀ c ∈ "\x7d\" x".toList.head?, isNameChar c = false := by
    intro c hc
    cases hc
    rfl
  have hbare : scanWith (fun _ => some "| v") "\"$\x7bA$$B\x7d\" x" =
      .ok [word "$\x7bA$| v\x7d" true, word "x" false] := rfl
  have hname : isValidName "B" = true := rfl
  have hsame := scanWith_braced_eq (fun _ => some "| v") hname (Or.inr hpre) hsuf
  exact ⟨hname, hpre, hbare, hsame.symm.trans hbare⟩

end Token

end PipeShell
