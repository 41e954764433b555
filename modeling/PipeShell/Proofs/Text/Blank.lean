import PipeShell.Proofs.Results
import PipeShell.Text.Blank
import Mathlib.Data.List.DropRight

/-!
# What trimming leaves

Trimming takes blanks from both ends and nothing else.  What it leaves has no blank at either end,
so trimming once more does nothing (`trim_trim`), and neither does trimming a text that has no
blanks at all (`trim_eq_self`).  A text that is nothing but blanks is trimmed to nothing
(`trim_eq_nil`).
-/

namespace PipeShell.Text

variable {c : Char} {cs : List Char}

/-- Trimming on the right is what the library does with lists. -/
lemma trimRight_eq_rdropWhile (cs : List Char) : trimRight cs = cs.rdropWhile isBlank := rfl

/-- Trimming adds no characters. -/
lemma mem_of_mem_trim (h : c ∈ trim cs) : c ∈ cs := by
  rw [trim, trimRight_eq_rdropWhile] at h
  exact (List.dropWhile_suffix isBlank).subset ((List.rdropWhile_prefix isBlank _).subset h)

/-- Of blanks alone nothing is left. -/
lemma trim_eq_nil (h : ∀ c ∈ cs, isBlank c = true) : trim cs = [] := by
  rw [trim, trimLeft, List.dropWhile_eq_nil_iff.mpr h]
  rfl

/-- A text that begins and ends with no blank is left as it is. -/
lemma trim_eq_self_of_ends (hhead : ∀ c ∈ cs.head?, isBlank c = false)
    (hlast : ∀ c ∈ cs.getLast?, isBlank c = false) : trim cs = cs := by
  have hleft : trimLeft cs = cs := by
    rw [trimLeft, List.dropWhile_eq_self_iff]
    intro hcs
    have hfirst : cs.head? = some cs[0] := by
      rw [List.head?_eq_getElem?, List.getElem?_eq_getElem hcs]
    simp [hhead _ hfirst]
  rw [trim, hleft, trimRight_eq_rdropWhile, List.rdropWhile_eq_self_iff]
  intro hcs
  simp [hlast _ (List.getLast?_eq_some_getLast hcs)]

/-- A text without blanks stays as it is. -/
lemma trim_eq_self (h : ∀ c ∈ cs, isBlank c = false) : trim cs = cs :=
  trim_eq_self_of_ends (fun c hc => h c (List.mem_of_mem_head? hc))
    fun c hc => h c (List.mem_of_mem_getLast? hc)

/-- What trimming leaves begins with no blank. -/
lemma trimLeft_trim (cs : List Char) : trimLeft (trim cs) = trim cs := by
  cases htrim : trim cs with
  | nil => rfl
  | cons c rest =>
      have hprefix : c :: rest <+: trimLeft cs := by
        rw [← htrim]
        exact List.rdropWhile_prefix isBlank _
      obtain ⟨more, hmore⟩ := hprefix
      have hc : isBlank c = false := not_of_dropWhile_eq_cons hmore.symm
      rw [trimLeft, List.dropWhile_cons_of_neg (by simp [hc])]

/-- Trimming twice is trimming once. -/
theorem trim_trim (cs : List Char) : trim (trim cs) = trim cs := by
  calc trim (trim cs)
    _ = trimRight (trim cs) := by rw [trim, trimLeft_trim]
    _ = trim cs := by
      rw [trim, trimRight_eq_rdropWhile, trimRight_eq_rdropWhile, List.rdropWhile_idempotent]

end PipeShell.Text
