import Mathlib.Tactic.Common
import PipeShell.Token.Scan

/-!
# Words that have begun

The scanner adds to a word in two ways, a character at a time (`Draft.push`) and a text at once
(`Draft.extend`).  The first is a case of the second (`Draft.push_eq_extend`), so what an addition
does to a word is said of `extend` and follows for `push`: additions are joined
(`Draft.extend_extend`), and they are seen in the characters of the word (`Draft.chars_extend`) and
in its being quoted (`Draft.quoted_extend`).
-/

namespace PipeShell.Draft

/-- Adding a character is adding the text of that character. -/
lemma push_eq_extend (c : Char) (quoted : Bool) (d : Option Draft) :
    push c quoted d = extend (String.ofList [c]) quoted d := by
  cases d with
  | none => rfl
  | some d =>
      rw [push, extend, String.push_eq_append]
      rfl

/-- Two additions to a word are one. -/
lemma extend_extend (s t : String) (q r : Bool) (d : Option Draft) :
    extend t r (some (extend s q d)) = extend (s ++ t) (q || r) d := by
  cases d with
  | none => rfl
  | some d => simp only [extend, String.append_assoc, Bool.or_assoc]

/-- A text can be added one character after the other. -/
lemma extend_ofList_cons (c : Char) (cs : List Char) (q r : Bool) (d : Option Draft) :
    extend (String.ofList cs) r (some (extend (String.ofList [c]) q d)) =
      extend (String.ofList (c :: cs)) (q || r) d := by
  rw [extend_extend, ← String.ofList_append, List.singleton_append]

/-- No characters add nothing to a word that has begun. -/
lemma extend_empty (d : Draft) : extend "" false (some d) = d := by
  rw [extend, String.append_empty, Bool.or_false]

/-! ## The characters -/

/-- The characters of a word that has begun. -/
def chars : Option Draft → List Char
  | none => []
  | some d => d.text.toList

/-- The characters of a draft are those it had and those that were added. -/
lemma chars_extend (more : String) (quoted : Bool) (d : Option Draft) :
    chars (some (extend more quoted d)) = chars d ++ more.toList := by
  cases d with
  | none => rfl
  | some d => exact String.toList_append

/-- So it is with one character. -/
lemma chars_push (c : Char) (quoted : Bool) (d : Option Draft) :
    chars (some (push c quoted d)) = chars d ++ [c] := by
  rw [push_eq_extend, chars_extend, String.toList_ofList]

/-! ## Being quoted -/

/-- Whether a word is quoted depends on what was read before only by its having been quoted. -/
lemma quoted_extend (more : String) (quoted : Bool) (d : Option Draft) :
    (extend more quoted d).quoted = ((d.map Draft.quoted).getD false || quoted) := by
  cases d with
  | none => exact (Bool.false_or quoted).symm
  | some d => rfl

/-- A draft is quoted once a part of it is. -/
lemma quoted_push (c : Char) (quoted : Bool) (d : Option Draft) :
    (push c quoted d).quoted = ((d.map Draft.quoted).getD false || quoted) := by
  rw [push_eq_extend, quoted_extend]

/-! ## The end of a word -/

/-- Finishing a draft loses none of its characters. -/
lemma flatMap_text_finish (d : Option Draft) :
    (finish d).flatMap (fun t => t.text.toList) = chars d := by
  cases d with
  | none => rfl
  | some d => exact List.flatMap_singleton ..

/-- A word that ends is no operator. -/
lemma filter_isOperator_finish (d : Option Draft) : (finish d).filter Token.isOperator = [] := by
  cases d <;> rfl

end PipeShell.Draft
