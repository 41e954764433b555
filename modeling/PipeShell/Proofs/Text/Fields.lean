import PipeShell.Text.Field
import Mathlib.Tactic.Common

/-!
# Cutting a text into fields

Cutting at a character is the library's `List.splitOn` (`fields_eq_splitOn`), and what the library
says about it holds of fields: texts on both sides of a separator are cut apart
(`fields_append_sep`), and fields that were joined are found again (`fields_intercalate`).

The fields have the characters of the text, without the separator (`mem_of_mem_fields`,
`exists_mem_fields`).  A text that is cut in two consists of the parts, with the separator between
them (`eq_append_of_cut`), and it is cut at the first separator (`cut_append`).

Lines that are each ended by a newline are found again (`lines_join_newline`), unless a carriage
return at the end of one is taken for a part of its ending (`dropReturn_concat`).
-/

namespace PipeShell.Text

variable {sep c : Char} {f : List Char}

/-- Cutting into fields is what the library does with lists. -/
lemma fields_eq_splitOn (sep : Char) (cs : List Char) : fields sep cs = cs.splitOn sep := by
  induction cs with
  | nil => rfl
  | cons c cs ih =>
      rw [fields, List.splitOn_cons_eq_if_modifyHead, ih]
      by_cases hc : c = sep
      · rw [if_pos hc, if_pos (beq_iff_eq.mpr hc)]
      · rw [if_neg hc, if_neg (mt beq_iff_eq.mp hc)]
        cases hsplit : cs.splitOn sep with
        | nil => exact absurd hsplit (List.splitOn_ne_nil _ cs)
        | cons g gs => rfl

/-- A text without a separator is one field. -/
lemma fields_of_not_mem (hf : sep ∉ f) : fields sep f = [f] := by
  rw [fields_eq_splitOn, List.splitOn_eq_singleton hf]

/-- Texts on both sides of a separator are cut apart. -/
lemma fields_append_sep (sep : Char) (as bs : List Char) :
    fields sep (as ++ sep :: bs) = fields sep as ++ fields sep bs := by
  simp only [fields_eq_splitOn, List.splitOn_append_cons_self]

/-- The first field ends at the first separator. -/
lemma fields_append_cons (hf : sep ∉ f) (cs : List Char) :
    fields sep (f ++ sep :: cs) = f :: fields sep cs := by
  rw [fields_append_sep, fields_of_not_mem hf, List.singleton_append]

/-- Fields are found again where they were joined. -/
lemma fields_intercalate {fs : List (List Char)} (hne : fs ≠ []) (h : ∀ f ∈ fs, sep ∉ f) :
    fields sep ([sep].intercalate fs) = fs := by
  rw [fields_eq_splitOn]
  exact List.splitOn_intercalate sep h hne

/-- Any character but the separator belongs to the first field when it comes first. -/
lemma fields_cons_of_ne (hc : c ≠ sep) (cs : List Char) :
    ∃ f fs, fields sep (c :: cs) = (c :: f) :: fs := by
  rw [fields, if_neg hc]
  cases hcs : fields sep cs with
  | nil => exact absurd hcs (fields_ne_nil sep cs)
  | cons f fs => exact ⟨f, fs, rfl⟩

/-- What is in a field is in the text. -/
lemma mem_of_mem_fields {cs : List Char} (hf : f ∈ fields sep cs) (hc : c ∈ f) : c ∈ cs := by
  have hjoin : ∀ fs : List (List Char), f ∈ fs → c ∈ joinFields sep fs := by
    intro fs hmem
    fun_induction joinFields sep fs with
    | case1 => cases hmem
    | case2 g => rwa [← List.mem_singleton.mp hmem]
    | case3 g rest hrest ih =>
        rcases List.mem_cons.mp hmem with rfl | hlater
        · exact List.mem_append_left _ hc
        · exact List.mem_append_right _ (List.mem_cons_of_mem sep (ih hlater))
  rw [← joinFields_fields sep cs]
  exact hjoin _ hf

/-- What is in a text is in a field, unless it is the separator. -/
lemma exists_mem_fields {cs : List Char} (hc : c ∈ cs) (hne : c ≠ sep) :
    ∃ f ∈ fields sep cs, c ∈ f := by
  have hjoin : ∀ fs : List (List Char), c ∈ joinFields sep fs → ∃ f ∈ fs, c ∈ f := by
    intro fs hmem
    fun_induction joinFields sep fs with
    | case1 => cases hmem
    | case2 g => exact ⟨g, List.mem_singleton_self g, hmem⟩
    | case3 g rest hrest ih =>
        rcases List.mem_append.mp hmem with hfirst | hlater
        · exact ⟨g, List.mem_cons_self, hfirst⟩
        · obtain ⟨f, hf, hmem⟩ := ih ((List.mem_cons.mp hlater).resolve_left hne)
          exact ⟨f, List.mem_cons_of_mem g hf, hmem⟩
  rw [← joinFields_fields sep cs] at hc
  exact hjoin _ hc

/-- A text is cut at its first separator, whatever stands behind it. -/
lemma cut_append {front : List Char} (h : sep ∉ front) (rest : List Char) :
    cut sep (front ++ sep :: rest) = some (front, rest) := by
  induction front with
  | nil => rw [List.nil_append, cut, if_pos rfl]
  | cons c front ih =>
      have hc : c ≠ sep := fun hc => h (hc ▸ List.mem_cons_self)
      have hfront : sep ∉ front := fun hmem => h (List.mem_cons_of_mem c hmem)
      rw [List.cons_append, cut, if_neg hc, ih hfront]
      rfl

/-- Cutting at the first separator loses nothing but the separator. -/
lemma eq_append_of_cut {cs front rest : List Char} (h : cut sep cs = some (front, rest)) :
    cs = front ++ sep :: rest ∧ sep ∉ front := by
  induction cs generalizing front with
  | nil => cases h
  | cons c cs ih =>
      rw [cut] at h
      split_ifs at h with hc
      · cases h
        exact ⟨by rw [hc, List.nil_append], List.not_mem_nil⟩
      · obtain ⟨⟨front', rest'⟩, hcut, heq⟩ := Option.map_eq_some_iff.mp h
        cases heq
        obtain ⟨rfl, hnot⟩ := ih hcut
        exact ⟨rfl, by simp [hnot, Ne.symm hc]⟩

/-- What follows the beginning of a text is found behind it. -/
lemma after?_append (start rest : List Char) : after? start (start ++ rest) = some rest := by
  induction start with
  | nil => rfl
  | cons c start ih => rw [List.cons_append, after?, if_pos rfl, ih]

/-! ## Lines -/

/-- A field that is followed by others is a line. -/
lemma linesOfFields_cons {f : List Char} {fs : List (List Char)} (hfs : fs ≠ []) :
    linesOfFields (f :: fs) = dropReturn f :: linesOfFields fs := by
  cases fs with
  | nil => exact absurd rfl hfs
  | cons => rfl

/-- A line that does not end in a carriage return stays as it is. -/
lemma dropReturn_eq_self {line : List Char} (h : line.getLast? ≠ some '\r') :
    dropReturn line = line :=
  if_neg h

/-- No other line does. -/
lemma dropReturn_eq_self_iff {line : List Char} :
    dropReturn line = line ↔ line.getLast? ≠ some '\r' := by
  refine ⟨fun h hlast => ?_, dropReturn_eq_self⟩
  have hlength := congrArg List.length h
  have hpos : 0 < line.length :=
    List.length_pos_iff.mpr fun hnil => by rw [hnil] at hlast; cases hlast
  rw [dropReturn, if_pos hlast, List.length_dropLast] at hlength
  omega

/-- A carriage return at the end is dropped. -/
lemma dropReturn_concat (line : List Char) : dropReturn (line ++ ['\r']) = line := by
  rw [dropReturn, if_pos List.getLast?_concat, List.dropLast_concat]

/-- What holds of a carriage return holds of a line exactly when it holds of the line without
one. -/
lemma all_dropReturn {p : Char → Bool} (hp : p '\r' = true) (line : List Char) :
    (dropReturn line).all p = line.all p := by
  rcases List.eq_nil_or_concat line with rfl | ⟨front, last, rfl⟩
  · rfl
  · rw [List.concat_eq_append]
    by_cases hlast : last = '\r'
    · subst hlast
      simp [dropReturn_concat, hp]
    · rw [dropReturn_eq_self (by simpa using hlast)]

/-- Lines that are each ended by a newline are the lines of that text. -/
theorem lines_join_newline {texts : List String}
    (h : ∀ text ∈ texts, '\n' ∉ text.toList ∧ text.toList.getLast? ≠ some '\r') :
    lines (String.join (texts.map (· ++ "\n"))) = texts := by
  induction texts with
  | nil => rfl
  | cons text texts ih =>
      obtain ⟨⟨hnewline, hreturn⟩, htexts⟩ := List.forall_mem_cons.mp h
      have hfields : fields '\n' (String.join ((text :: texts).map (· ++ "\n"))).toList =
          text.toList :: fields '\n' (String.join (texts.map (· ++ "\n"))).toList := by
        simpa using fields_append_cons hnewline (String.join (texts.map (· ++ "\n"))).toList
      rw [lines, hfields, linesOfFields_cons (fields_ne_nil _ _), dropReturn_eq_self hreturn,
        List.map_cons, String.ofList_toList, ← lines, ih htexts]

end PipeShell.Text
