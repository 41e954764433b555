import PipeShell.Proofs.Text.Fields
import PipeShell.Variable.SearchPath

/-!
# Cleaned search paths

The entries of a cleaned value are the distinct entries of the value that it was made from
(`entries_clean`): joining them with colons and cutting the result gives them back, since no entry
holds a colon.  No two of them have the same components (`pairwise_distinct`), so there is nothing
left to clean (`clean_clean`).

A search that goes through entries up to the first that answers does not notice that later entries
with the same components are missing (`findSome?_distinct`).  When such an entry is met, the one it
repeats was asked before and had no answer, and entries with the same components are alike in that.
-/

namespace PipeShell.SearchPath

variable {value entry : String} {entries₁ : List String} {seen : List (List Path.Component)}

/-! ## Entries -/

/-- There is no colon in an entry of a search path. -/
lemma colon_not_mem_of_mem_split (h : entry ∈ split value) : ':' ∉ entry.toList := by
  obtain ⟨field, hfield, rfl⟩ := List.mem_map.mp h
  rw [String.toList_ofList]
  exact Text.not_mem_of_mem_fields hfield

/-- The entries are those between the colons that are not empty. -/
lemma mem_entries_iff : entry ∈ entries value ↔ entry ∈ split value ∧ entry ≠ "" := by
  simp [entries]

/-- Texts without colons are found again where they were joined. -/
lemma split_intercalate (hne : entries₁ ≠ []) (h : ∀ e ∈ entries₁, ':' ∉ e.toList) :
    split (":".intercalate entries₁) = entries₁ := by
  have hcut : Text.fields ':' (":".intercalate entries₁).toList =
      entries₁.map String.toList := by
    rw [String.toList_intercalate]
    apply Text.fields_intercalate (by simpa using hne)
    intro field hfield
    obtain ⟨e, he, rfl⟩ := List.mem_map.mp hfield
    exact h e he
  rw [split, hcut, List.map_map]
  simp [Function.comp_def]

/-- No entry is new. -/
lemma mem_of_mem_distinct (h : entry ∈ distinct seen entries₁) : entry ∈ entries₁ := by
  fun_induction distinct seen entries₁ with
  | case1 => cases h
  | case2 seen e es hseen ih => exact List.mem_cons_of_mem e (ih h)
  | case3 seen e es hnew ih =>
      rcases List.mem_cons.mp h with rfl | hlater
      · exact List.mem_cons_self
      · exact List.mem_cons_of_mem e (ih hlater)

/-- A cleaned value is cut into the distinct entries of the value, in order. -/
lemma split_clean (hne : distinct [] (entries value) ≠ []) :
    split (clean value) = distinct [] (entries value) :=
  split_intercalate hne fun _ he =>
    colon_not_mem_of_mem_split (mem_entries_iff.mp (mem_of_mem_distinct he)).1

/-- A cleaned value has the distinct entries of the value, in order. -/
theorem entries_clean (value : String) : entries (clean value) = distinct [] (entries value) := by
  by_cases hne : distinct [] (entries value) = []
  · rw [clean, hne]
    rfl
  · rw [entries, split_clean hne, List.filter_eq_self]
    intro e he
    simpa using (mem_entries_iff.mp (mem_of_mem_distinct he)).2

/-- A value has no entries if it is written with colons only. -/
lemma entries_eq_nil_iff : entries value = [] ↔ ∀ c ∈ value.toList, c = ':' := by
  constructor
  · intro h c hc
    by_contra hne
    obtain ⟨field, hfield, hmem⟩ := Text.exists_mem_fields hc hne
    have hentry : String.ofList field ∈ entries value := by
      refine mem_entries_iff.mpr ⟨List.mem_map_of_mem hfield, fun hempty => ?_⟩
      rw [String.ofList_eq_empty_iff] at hempty
      rw [hempty] at hmem
      cases hmem
    rw [h] at hentry
    cases hentry
  · intro h
    refine List.eq_nil_iff_forall_not_mem.mpr fun entry hentry => ?_
    obtain ⟨hsplit, hne⟩ := mem_entries_iff.mp hentry
    obtain ⟨field, hfield, rfl⟩ := List.mem_map.mp hsplit
    refine hne (String.ofList_eq_empty_iff.mpr (List.eq_nil_iff_forall_not_mem.mpr fun c hc => ?_))
    rw [h c (Text.mem_of_mem_fields hfield hc)] at hc
    exact Text.not_mem_of_mem_fields hfield hc

/-! ## Distinct entries -/

/-- No entry has components that were seen before. -/
lemma components_not_mem_of_mem_distinct (h : entry ∈ distinct seen entries₁) :
    Path.components entry ∉ seen := by
  fun_induction distinct seen entries₁ with
  | case1 => cases h
  | case2 seen e es hseen ih => exact ih h
  | case3 seen e es hnew ih =>
      rcases List.mem_cons.mp h with rfl | hlater
      · exact hnew
      · exact fun hmem => ih hlater (List.mem_cons_of_mem _ hmem)

/-- No two of the distinct entries have the same components. -/
lemma pairwise_distinct (seen : List (List Path.Component)) (entries₁ : List String) :
    (distinct seen entries₁).Pairwise (Path.same · · = false) := by
  fun_induction distinct seen entries₁ with
  | case1 => exact .nil
  | case2 seen e es hseen ih => exact ih
  | case3 seen e es hnew ih =>
      refine .cons (fun e' he' => decide_eq_false fun hsame => ?_) ih
      exact components_not_mem_of_mem_distinct he' (by simp [hsame])

/-- Entries without repetitions are distinct already. -/
lemma distinct_eq_self (hes : entries₁.Pairwise (Path.same · · = false))
    (hnew : ∀ e ∈ entries₁, Path.components e ∉ seen) : distinct seen entries₁ = entries₁ := by
  fun_induction distinct seen entries₁ with
  | case1 => rfl
  | case2 seen e es hseen ih => exact absurd hseen (hnew e List.mem_cons_self)
  | case3 seen e es _ ih =>
      obtain ⟨hfirst, hrest⟩ := List.pairwise_cons.mp hes
      rw [ih hrest fun e' he' hmem => ?_]
      rcases List.mem_cons.mp hmem with hsame | hmem
      · exact of_decide_eq_false (hfirst e' he') hsame.symm
      · exact hnew e' (List.mem_cons_of_mem e he') hmem

/-- Cleaning a cleaned value changes nothing. -/
theorem clean_clean (value : String) : clean (clean value) = clean value := by
  have hdistinct : distinct [] (distinct [] (entries value)) = distinct [] (entries value) :=
    distinct_eq_self (pairwise_distinct _ _) fun _ _ => List.not_mem_nil
  rw [clean, entries_clean, hdistinct, clean]

/-- Of the first entry there is none before, so it is never left out. -/
lemma distinct_eq_nil_iff : distinct [] entries₁ = [] ↔ entries₁ = [] := by
  cases entries₁ with
  | nil => exact iff_of_true rfl rfl
  | cons e es => simp [distinct]

/-- A cleaned value is empty if there was no entry. -/
lemma clean_eq_empty_iff : clean value = "" ↔ entries value = [] := by
  constructor
  · intro h
    have hclean := entries_clean value
    rw [h] at hclean
    exact distinct_eq_nil_iff.mp hclean.symm
  · intro h
    rw [clean, h]
    rfl

/-! ## Searches -/

/-- A first match among the entries that are not empty is a first match in the value. -/
lemma findSome?_entries_eq_some_iff {α : Type} {f : String → Option α} {a : α} :
    (entries value).findSome? f = some a ↔ ∃ front entry rest,
      split value = front ++ entry :: rest ∧ entry ≠ "" ∧ f entry = some a ∧
        ∀ e ∈ front, e ≠ "" → f e = none := by
  have hskip : (entries value).findSome? f =
      (split value).findSome? fun e => if e = "" then none else f e := by
    rw [entries]
    induction split value with
    | nil => rfl
    | cons e es ih =>
        by_cases he : e = ""
        · rw [List.filter_cons_of_neg (by simp [he]), List.findSome?_cons, if_pos he]
          exact ih
        · rw [List.filter_cons_of_pos (by simp [he]), List.findSome?_cons, List.findSome?_cons,
            if_neg he, ih]
  rw [hskip, List.findSome?_eq_some_iff]
  simp [Option.ite_none_left_eq_some, and_assoc]

/-- A first match is the same among the distinct entries, if entries with the same components have
an answer or have none together. -/
theorem findSome?_distinct {α : Type} {f : String → Option α}
    (halike : ∀ e ∈ entries₁, ∀ e' ∈ entries₁, Path.same e e' = true → f e = none → f e' = none)
    (hseen : ∀ e ∈ entries₁, Path.components e ∈ seen → f e = none) :
    (distinct seen entries₁).findSome? f = entries₁.findSome? f := by
  fun_induction distinct seen entries₁ with
  | case1 => rfl
  | case2 seen e es hmem ih =>
      obtain ⟨hfirst, hlater⟩ := List.forall_mem_cons.mp hseen
      rw [List.findSome?_cons, hfirst hmem]
      exact ih (fun a ha b hb => halike a (List.mem_cons_of_mem e ha) b (List.mem_cons_of_mem e hb))
        hlater
  | case3 seen e es hnew ih =>
      rw [List.findSome?_cons, List.findSome?_cons]
      cases hf : f e with
      | some answer => rfl
      | none =>
          -- from here on `e` counts among the entries that had no answer
          refine ih (fun a ha b hb => halike a (List.mem_cons_of_mem e ha) b
            (List.mem_cons_of_mem e hb)) fun e' he' hmem => ?_
          have he : e ∈ e :: es := List.mem_cons_self
          rcases List.mem_cons.mp hmem with hsame | hearlier
          · exact halike e he e' (List.mem_cons_of_mem e he') (decide_eq_true hsame.symm) hf
          · exact hseen e' (List.mem_cons_of_mem e he') hearlier

end PipeShell.SearchPath
