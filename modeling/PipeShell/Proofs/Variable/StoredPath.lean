import PipeShell.Proofs.Variable.Edits
import PipeShell.Proofs.Variable.SearchPath
import Mathlib.Data.List.Induction

/-!
# The search path that is stored

A value given to `PATH` is cleaned when it is stored.  The entries that are left are those that name
the directory of no entry before them (`SearchPath.firsts`), and giving the stored value to `PATH`
again changes nothing, since a cleaned value is clean (`SearchPath.clean_clean`).

An empty value is refused, but a value of colons alone is not.  What is stored for it is empty and
would be refused (`Overlay.colons_store_empty_search_path`), and there is no other exception:
`Overlay.stored_search_path_is_clean`.
-/

namespace PipeShell

namespace SearchPath

/-! ## First entries -/

/-- The entries that name the directory of no entry before them. -/
def firsts (es : List String) : List String :=
  (es.zipIdx.filter fun p => (es.take p.2).all (!Path.same · p.1)).map Prod.fst

/-- The last entry is a first one if it repeats no other. -/
lemma firsts_concat (es : List String) (e : String) :
    firsts (es ++ [e]) = firsts es ++ if es.all (!Path.same · e) then [e] else [] := by
  have hfront : ∀ p ∈ es.zipIdx, (es ++ [e]).take p.2 = es.take p.2 := by
    intro p hp
    have hlt := List.snd_lt_of_mem_zipIdx hp
    exact List.take_append_of_le_length (by omega)
  rw [firsts, List.zipIdx_append, List.filter_append, List.map_append,
    List.filter_congr fun p hp => by rw [hfront p hp]]
  congr 1
  by_cases hall : es.all (!Path.same · e) = true <;> simp [hall]

/-- The last entry is distinct if it repeats no other and nothing that was seen. -/
lemma distinct_concat (seen : List (List Path.Component)) (es : List String) (e : String) :
    distinct seen (es ++ [e]) = distinct seen es ++
      if Path.components e ∉ seen ∧ es.all (!Path.same · e) then [e] else [] := by
  fun_induction distinct seen es with
  | case1 seen => by_cases he : Path.components e ∈ seen <;> simp [distinct, he]
  | case2 seen e' es hseen ih =>
      -- an entry that repeats `e'` has been seen as well
      have hfirst : Path.components e ∉ seen ∧ es.all (!Path.same · e) ↔
          Path.components e ∉ seen ∧ (e' :: es).all (!Path.same · e) := by
        refine and_congr_right fun hnew => ?_
        have hdiffers : Path.same e' e = false :=
          decide_eq_false fun hsame => hnew (hsame ▸ hseen)
        simp [hdiffers]
      rw [List.cons_append, distinct, if_pos hseen, ih]
      simp only [hfirst]
  | case3 seen e' es hnew ih =>
      have hfirst : Path.components e ∉ Path.components e' :: seen ∧ es.all (!Path.same · e) ↔
          Path.components e ∉ seen ∧ (e' :: es).all (!Path.same · e) := by
        have hdiffers : (!Path.same e' e) = true ↔ Path.components e ≠ Path.components e' := by
          rw [Bool.not_eq_true', Path.same, decide_eq_false_iff_not, eq_comm]
        rw [List.mem_cons, not_or, List.all_cons, Bool.and_eq_true, hdiffers]
        tauto
      rw [List.cons_append, distinct, if_neg hnew, ih, List.cons_append]
      simp only [hfirst]

/-- The distinct entries are the first ones. -/
theorem distinct_eq_firsts (es : List String) : distinct [] es = firsts es := by
  induction es using List.reverseRecOn with
  | nil => rfl
  | append_singleton es e ih =>
      rw [distinct_concat, firsts_concat, ih]
      simp only [List.not_mem_nil, not_false_eq_true, true_and]

end SearchPath

/-- Inserting what is there already changes nothing. -/
lemma NameMap.insert_insert_self {α : Type} (m : NameMap α) (k : String) (v : α) :
    (m.insert k v).insert k v = m.insert k v := by
  refine ext_get? fun k' => ?_
  rw [get?_insert]
  split_ifs with hk
  · rw [hk, get?_insert_self]
  · rfl

namespace Overlay

/-! ## Storing -/

/-- An empty value is refused, and any other value is stored as it is after cleaning. -/
lemma set_path (o : Overlay) (value : String) :
    o.set "PATH" value =
      if value = "" then .error (.invalidValue .emptySearchPath)
      else .ok ⟨o.changes.insert "PATH" (some (SearchPath.clean value))⟩ := by
  have hvalid : isValidName "PATH" = true := rfl
  by_cases hvalue : value = ""
  · subst hvalue
    rfl
  · have hfull : value.isEmpty = false := by simpa using hvalue
    simp [set, storedValue, hvalid, hfull, hvalue, Except.map]

variable {o o' : Overlay} {value : String}

/-- The search path is stored clean.  When a value is given to `PATH` and has a character that is no
colon, then what is stored is not empty; cut at its colons, it has no empty entry and no two entries
with the same components, and its entries are the first ones of the value, in their order and as
they were written; and giving it to `PATH` again succeeds and changes nothing.  When the value is
all colons, what is stored is empty, and giving it to `PATH` again is refused. -/
theorem stored_search_path_is_clean (h : o.set "PATH" value = .ok o') :
    ∃ stored, o' = ⟨o.changes.insert "PATH" (some stored)⟩ ∧
      ((∃ c ∈ value.toList, c ≠ ':') →
        stored ≠ "" ∧ "" ∉ SearchPath.split stored ∧
        (SearchPath.split stored).Pairwise (Path.same · · = false) ∧
        SearchPath.split stored = SearchPath.firsts (SearchPath.entries value) ∧
        o'.set "PATH" stored = .ok o') ∧
      ((∀ c ∈ value.toList, c = ':') →
        stored = "" ∧ o'.set "PATH" stored = .error (.invalidValue .emptySearchPath)) := by
  obtain ⟨-, ho'⟩ := eq_insert_of_set h
  refine ⟨SearchPath.clean value, ho', ?_, ?_⟩
  · rintro ⟨c, hc, hcolon⟩
    have hentries : SearchPath.entries value ≠ [] :=
      fun hnil => hcolon (SearchPath.entries_eq_nil_iff.mp hnil c hc)
    have hfull : SearchPath.clean value ≠ "" := mt SearchPath.clean_eq_empty_iff.mp hentries
    have hsplit := SearchPath.split_clean (mt SearchPath.distinct_eq_nil_iff.mp hentries)
    refine ⟨hfull, ?_, ?_, ?_, ?_⟩
    · rw [hsplit]
      intro hempty
      exact (SearchPath.mem_entries_iff.mp (SearchPath.mem_of_mem_distinct hempty)).2 rfl
    · rw [hsplit]
      exact SearchPath.pairwise_distinct _ _
    · rw [hsplit, SearchPath.distinct_eq_firsts]
    -- what is stored is clean already, so storing it once more makes the same entry
    · have hagain : o'.changes.insert "PATH" (some (SearchPath.clean value)) = o'.changes := by
        rw [ho']
        exact NameMap.insert_insert_self _ _ _
      rw [set_path, if_neg hfull, SearchPath.clean_clean, hagain]
  · intro hcolons
    have hempty : SearchPath.clean value = "" :=
      SearchPath.clean_eq_empty_iff.mpr (SearchPath.entries_eq_nil_iff.mpr hcolons)
    rw [hempty, set_path]
    exact ⟨rfl, if_pos rfl⟩

/-- Empty entries, and one that is repeated in another spelling. -/
theorem stored_search_path_is_clean_at_repeated_entries :
    let stored : Overlay := ⟨empty.changes.insert "PATH" (some "/a:b")⟩
    empty.set "PATH" "/a::b:/a/:" = .ok stored ∧
      SearchPath.firsts (SearchPath.entries "/a::b:/a/:") = ["/a", "b"] ∧
      stored.set "PATH" "/a:b" = .ok stored := by
  intro stored
  have hset : empty.set "PATH" "/a::b:/a/:" = .ok stored := rfl
  obtain ⟨value, hvalue, hclean, -⟩ := stored_search_path_is_clean hset
  obtain rfl : "/a:b" = value := by
    have hget : some (some "/a:b") = _ := congrArg (·.changes.get? "PATH") hvalue
    simpa using hget
  obtain ⟨-, -, -, hfirsts, hagain⟩ := hclean ⟨'b', by decide, by decide⟩
  exact ⟨hset, hfirsts.symm.trans rfl, hagain⟩

/-- A colon is stored as an empty value, which is refused when it is given again. -/
theorem colons_store_empty_search_path :
    ∃ o, empty.set "PATH" ":" = .ok o ∧ o.changes.get? "PATH" = some (some "") ∧
      o.set "PATH" "" = .error (.invalidValue .emptySearchPath) :=
  ⟨_, rfl, rfl, rfl⟩

end Overlay

end PipeShell
