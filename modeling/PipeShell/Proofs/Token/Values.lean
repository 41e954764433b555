import Mathlib.Data.List.Forall2
import PipeShell.Proofs.Token.Agreement

/-!
# Values of variables are no syntax

Two runs of the scanner over one line, with two lookups, are compared.  The line is cut into pieces
before any value is read, so the runs go through the same pieces and differ only in the texts they
put in.

* Whether the line can be read, and the error if not, is the table's doing alone.
* The operators are the operator pieces, whatever the values are (`filter_isOperator_assemble`).
* A reference starts a word or not, depending on whether it has a value.  When the lookups agree on
  that, the runs always have begun a word together and quoted it together
  (`forall₂_sameShape_assemble`), so their tokens differ in nothing but the texts of words.
-/

namespace PipeShell

open Mode

/-- The lookup has no value for the name, or an empty one. -/
def Lookup.Lacks (vars : Lookup) (name : String) : Prop :=
  vars name = none ∨ vars name = some ""

/-- A lookup lacks a name if it gives the empty text or none. -/
lemma Lookup.lacks_iff {vars : Lookup} {name : String} :
    vars.Lacks name ↔ (vars name).getD "" = "" := by
  unfold Lookup.Lacks
  cases vars name <;> simp

/-- Two tokens that differ at most in the text of a word. -/
def Token.SameShape (t u : Token) : Prop :=
  t.isQuoted = u.isQuoted ∧ t.isOperator = u.isOperator ∧
    (t.isOperator = true → t.text = u.text)

/-! ## Operators -/

/-- The operator that a piece is. -/
def Piece.operator? : Piece → Option Token
  | .operator text => some (.operator text)
  | _ => none

/-- The operators among the tokens are the operator pieces. -/
theorem filter_isOperator_assemble (vars : Lookup) (d : Option Draft) (ps : List Piece) :
    (assemble vars d ps).filter Token.isOperator = ps.filterMap Piece.operator? := by
  fun_induction assemble vars d ps with
  | case1 d => exact Draft.filter_isOperator_finish d
  | case4 d ps ih =>
      rw [List.filter_append, Draft.filter_isOperator_finish, List.nil_append, ih]
      rfl
  | case5 d text ps ih =>
      rw [List.filter_append, Draft.filter_isOperator_finish, List.nil_append,
        List.filter_cons_of_pos rfl, ih]
      rfl
  | _ =>
      rename_i ih
      rw [ih]
      rfl

/-! ## Two runs side by side -/

namespace Draft

variable {d e : Option Draft}

/-- Words that have begun together and are quoted alike end as tokens of one shape. -/
lemma forall₂_sameShape_finish (h : d.map Draft.quoted = e.map Draft.quoted) :
    List.Forall₂ Token.SameShape (finish d) (finish e) := by
  cases d with
  | none =>
      cases e with
      | none => exact .nil
      | some e => cases h
  | some d =>
      cases e with
      | none => cases h
      | some e =>
          have hquoted : d.quoted = e.quoted := Option.some.inj h
          exact .cons ⟨hquoted, rfl, fun hop => by cases hop⟩ .nil

end Draft

/-- Two runs over the same pieces stay in step when the lookups lack the same values: they give
tokens of the same shapes, whatever the values are. -/
theorem forall₂_sameShape_assemble {v w : Lookup} (hvw : ∀ name, v.Lacks name ↔ w.Lacks name)
    (ps : List Piece) : ∀ d e : Option Draft, d.map Draft.quoted = e.map Draft.quoted →
      List.Forall₂ Token.SameShape (assemble v d ps) (assemble w e ps) := by
  induction ps with
  | nil => exact fun d e h => Draft.forall₂_sameShape_finish h
  | cons p ps ih =>
      intro d e h
      cases p with
      | char c escaped =>
          apply ih
          simp only [Option.map_some, Draft.quoted_push, h]
      | quote =>
          apply ih
          simp only [Option.map_some, Draft.quoted_extend, h]
      | gap => exact List.rel_append (Draft.forall₂_sameShape_finish h) (ih none none rfl)
      | operator text =>
          refine List.rel_append (Draft.forall₂_sameShape_finish h) (.cons ?_ (ih none none rfl))
          exact ⟨rfl, rfl, fun _ => rfl⟩
      | «variable» name =>
          have hlack := hvw name
          rw [Lookup.lacks_iff, Lookup.lacks_iff] at hlack
          simp only [assemble, String.isEmpty_iff]
          -- a value that is missing leaves no draft behind, in both runs or in none
          by_cases hv : (v name).getD "" = ""
          · rw [if_pos hv, if_pos (hlack.mp hv)]
            exact ih d e h
          · rw [if_neg hv, if_neg (hv ∘ hlack.mpr)]
            apply ih
            simp only [Option.map_some, Draft.quoted_extend, h]

/-! ## Lines -/

/-- Values are no syntax.  Under two lookups a line fails with one error or can be read both times;
then the operators are the same, in order; and when the lookups lack the same values, the tokens
agree one by one in all but the texts of words. -/
theorem scanWith_blind_to_values (line : String) (v w : Lookup) :
    (∃ e, Token.scanWith v line = .error e ∧ Token.scanWith w line = .error e) ∨
      ∃ ts us, Token.scanWith v line = .ok ts ∧ Token.scanWith w line = .ok us ∧
        ts.filter Token.isOperator = us.filter Token.isOperator ∧
        ((∀ name, v.Lacks name ↔ w.Lacks name) → List.Forall₂ Token.SameShape ts us) := by
  unfold Token.scanWith
  rw [scan_eq_of_after, scan_eq_of_after]
  cases (plain.after line.toList).openQuote? with
  | some quote => exact Or.inl ⟨_, rfl, rfl⟩
  | none =>
      refine Or.inr ⟨_, _, rfl, rfl, ?_, ?_⟩
      · exact (filter_isOperator_assemble v none _).trans
          (filter_isOperator_assemble w none _).symm
      · exact fun hvw => forall₂_sameShape_assemble hvw _ none none rfl

/-- A value full of syntax changes no shape: the pipe, the quotes and the blanks in it stay inside
the words that refer to it. -/
theorem scanWith_blind_to_values_at_syntax :
    ∃ ts us,
      Token.scanWith (fun n => if n = "X" then some "| '$X\" >" else none) "a$X \"$X\" $Y >$X" =
        .ok ts ∧
      Token.scanWith (fun n => if n = "X" then some "b" else some "") "a$X \"$X\" $Y >$X" =
        .ok us ∧
      List.Forall₂ Token.SameShape ts us := by
  rcases scanWith_blind_to_values "a$X \"$X\" $Y >$X"
    (fun n => if n = "X" then some "| '$X\" >" else none)
    (fun n => if n = "X" then some "b" else some "") with ⟨e, h, -⟩ | ⟨ts, us, hts, hus, -, hshape⟩
  · cases h
  · refine ⟨ts, us, hts, hus, hshape fun name => ?_⟩
    unfold Lookup.Lacks
    by_cases hname : name = "X" <;> simp [hname]

end PipeShell
