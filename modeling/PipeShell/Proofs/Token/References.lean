import PipeShell.Proofs.Token.Expansion

/-!
# The variables that a line refers to

Whatever a line is, it refers to variables by valid names only (`isValidName_of_mem_pieces`).  So
the tokens of a line depend on the values of such variables and on nothing else: `scanWith_congr`.
What a reference stands for is seen best between double quotes, where it is a word of its own even
if there is no value (`scanWith_quotedReference`).
-/

namespace PipeShell

open Mode

/-- The pieces of a line refer to valid names. -/
lemma isValidName_of_mem_pieces {expand : Bool} {skip : Nat} {m : Mode} {cs : List Char}
    {name : String} (h : Piece.variable name ∈ (pieces expand skip m cs).1) :
    isValidName name = true := by
  fun_induction pieces expand skip m cs with
  | case1 => cases h
  | case2 skip m c cs ih => exact ih h
  | case9 m c cs next hact ref href ih =>
      rcases List.mem_cons.mp h with hname | h
      · cases hname
        obtain ⟨-, hread⟩ := Option.ite_none_right_eq_some.mp href
        rw [isValidName, String.toList_ofList]
        exact (Reference.read?_eq_some hread).1
      · exact ih h
  | case11 m c cs next hact ih => exact ih h
  | _ =>
      rename_i ih
      rcases List.mem_cons.mp h with hname | h
      · cases hname
      · exact ih h

/-- Joining pieces asks for the variables in them only. -/
lemma assemble_congr {v w : Lookup} {ps : List Piece}
    (h : ∀ name, Piece.variable name ∈ ps → v name = w name) (d : Option Draft) :
    assemble v d ps = assemble w d ps := by
  induction ps generalizing d with
  | nil => rfl
  | cons p ps ih =>
      have hps : ∀ name, Piece.variable name ∈ ps → v name = w name := fun name hname =>
        h name (List.mem_cons_of_mem p hname)
      cases p with
      | «variable» name => simp only [assemble, h name List.mem_cons_self, ih hps]
      | _ => simp only [assemble, ih hps]

namespace Token

variable {vars : Lookup} {name : String}

/-- A line is read alike with two lookups that agree on all valid names. -/
theorem scanWith_congr {v w : Lookup} (h : ∀ name, isValidName name = true → v name = w name)
    (line : String) : scanWith v line = scanWith w line := by
  have hpieces : ∀ name, Piece.variable name ∈ (pieces true 0 plain line.toList).1 →
      v name = w name := fun name hname => h name (isValidName_of_mem_pieces hname)
  simp only [scanWith, scan, Option.isSome_some, Option.getD_some, assemble_congr hpieces]

/-- The line that is a reference to a variable between double quotes. -/
def quotedReference (name : String) : String := "\"$" ++ name ++ "\""

/-- A reference between double quotes is read as one word, the value of the variable. -/
theorem scanWith_quotedReference (hname : isValidName name = true) :
    scanWith vars (quotedReference name) = .ok [word ((vars name).getD "") true] := by
  have hline : (quotedReference name).toList = '"' :: '$' :: (name.toList ++ ['"']) := by
    simp [quotedReference, String.toList_append]
  have href : Reference.read? (name.toList ++ ['"']) = some ⟨name.toList, name.toList.length⟩ :=
    Reference.read?_name_append hname fun c hc => by cases hc; rfl
  rw [scanWith, scan_eq_scanFrom, hline, scanFrom_quote _ _ _ (.inl .openDouble),
    scanFrom_variable _ .dollarDouble href, List.drop_left,
    scanFrom_quote _ _ _ (.inr .closeDouble), scanFrom_nil]
  simp only [String.ofList_toList, Draft.extend_extend, String.empty_append, String.append_empty]
  rfl

end Token

end PipeShell
