import PipeShell.Proofs.Results
import PipeShell.Variable.Overlay

/-!
# What edits leave in an overlay

Variables are set and removed one after the other, and an attempt that is refused changes nothing
(`Overlay.edited`).  What the overlay holds under a name is then decided by the last attempt on that
name that succeeded, `Overlay.lastEdit?`, and by no other: `get?_edited`, by induction on the
attempts.  The views of an overlay are read off its entries (`mem_assigned_iff`, `mem_removed_iff`),
and `last_edit_decides` puts the two together for an overlay that was empty at first.
-/

namespace PipeShell.Overlay

/-! ## Edits -/

/-- An attempt to set or to remove a variable. -/
inductive Edit where
  | assign (name value : String)
  | remove (name : String)
deriving Repr, DecidableEq

namespace Edit

/-- The variable that the attempt is about. -/
def name : Edit → String
  | assign name _ => name
  | remove name => name

/-- Makes the attempt. -/
def run (o : Overlay) : Edit → Except StateError Overlay
  | assign name value => o.set name value
  | remove name => o.unset name

/-- What the attempt leaves under its name if it succeeds: the value, cleaned if it is that of the
search path, or none for a variable that was removed. -/
def entry : Edit → Option String
  | assign name value => some (if name = "PATH" then SearchPath.clean value else value)
  | remove _ => none

end Edit

/-- The overlay after an attempt. -/
def afterEdit (o : Overlay) (e : Edit) : Overlay :=
  match e.run o with
  | .ok o' => o'
  | .error _ => o

/-- The overlay after attempts that were made one after the other. -/
def edited (o : Overlay) (es : List Edit) : Overlay := es.foldl afterEdit o

/-- Those of the attempts that succeed. -/
def successes (o : Overlay) : List Edit → List Edit
  | [] => []
  | e :: es =>
    match e.run o with
    | .ok o' => e :: o'.successes es
    | .error _ => o.successes es

/-- The last attempt on a variable that succeeds. -/
def lastEdit? (o : Overlay) (es : List Edit) (name : String) : Option Edit :=
  ((o.successes es).filter (·.name = name)).getLast?

variable {o o' : Overlay} {e : Edit} {es : List Edit} {name : String}

/-- A value is stored under a valid name only, and only the search path is stored otherwise than it
was given. -/
lemma eq_insert_of_set {value : String} (h : o.set name value = .ok o') :
    isValidName name = true ∧ o' = ⟨o.changes.insert name (Edit.assign name value).entry⟩ := by
  unfold set at h
  split_ifs at h with hempty hinvalid
  obtain ⟨stored, hstored, rfl⟩ := map_eq_ok_iff.mp h
  refine ⟨by simpa using hinvalid, ?_⟩
  unfold storedValue at hstored
  split_ifs at hstored with hpath hnone
  · cases hstored
    rw [Edit.entry, if_pos hpath]
  · cases hstored
    rw [Edit.entry, if_neg hpath]

/-- An attempt succeeds only on a valid name, and it replaces the entry of that name. -/
lemma eq_insert_of_run (h : e.run o = .ok o') :
    isValidName e.name = true ∧ o' = ⟨o.changes.insert e.name e.entry⟩ := by
  cases e with
  | assign name value => exact eq_insert_of_set h
  | remove name =>
      change o.unset name = .ok o' at h
      unfold unset at h
      split_ifs at h with hvalid
      cases h
      exact ⟨hvalid, rfl⟩

/-- An edit that is accepted gives the overlay that it makes. -/
lemma afterEdit_of_ok (h : e.run o = .ok o') : o.afterEdit e = o' := by
  simp only [afterEdit, h]

/-- A refused attempt changes nothing. -/
lemma afterEdit_of_error {fault : StateError} (h : e.run o = .error fault) :
    o.afterEdit e = o := by
  simp only [afterEdit, h]

/-- Edits take effect one after the other. -/
lemma edited_cons (o : Overlay) (e : Edit) (es : List Edit) :
    o.edited (e :: es) = (o.afterEdit e).edited es := rfl

/-- An edit that is accepted is one of the successes. -/
lemma successes_cons_of_ok (h : e.run o = .ok o') :
    o.successes (e :: es) = e :: o'.successes es := by
  simp only [successes, h]

/-- An edit that is refused is none. -/
lemma successes_cons_of_error {fault : StateError} (h : e.run o = .error fault) :
    o.successes (e :: es) = o.successes es := by
  simp only [successes, h]

/-- A later success on the same name counts instead of this one. -/
lemma lastEdit?_cons_self (h : e.run o = .ok o') (es : List Edit) :
    o.lastEdit? (e :: es) e.name = some ((o'.lastEdit? es e.name).getD e) := by
  rw [lastEdit?, successes_cons_of_ok h, List.filter_cons_of_pos (by simp), List.getLast?_cons]
  rfl

/-- An edit of another name is not the last of this one. -/
lemma lastEdit?_cons_of_ne (h : e.run o = .ok o') (hne : e.name ≠ name) :
    o.lastEdit? (e :: es) name = o'.lastEdit? es name := by
  rw [lastEdit?, successes_cons_of_ok h, List.filter_cons_of_neg (by simpa using hne)]
  rfl

/-- Neither is an edit that is refused. -/
lemma lastEdit?_cons_of_error {fault : StateError} (h : e.run o = .error fault) :
    o.lastEdit? (e :: es) name = o.lastEdit? es name := by
  rw [lastEdit?, successes_cons_of_error h]
  rfl

/-- Only edits of names that a variable can have are accepted. -/
lemma isValidName_of_mem_successes (h : e ∈ o.successes es) : isValidName e.name = true := by
  induction es generalizing o with
  | nil => cases h
  | cons e' es ih =>
      cases hrun : e'.run o with
      | error fault =>
          rw [successes_cons_of_error hrun] at h
          exact ih h
      | ok o' =>
          rw [successes_cons_of_ok hrun] at h
          rcases List.mem_cons.mp h with rfl | h
          · exact (eq_insert_of_run hrun).1
          · exact ih h

/-- The last success on a variable is about that variable, and its name is valid. -/
lemma name_of_lastEdit? (h : o.lastEdit? es name = some e) :
    e.name = name ∧ isValidName name = true := by
  obtain ⟨hmem, hname⟩ := List.mem_filter.mp (List.mem_of_getLast? h)
  obtain rfl := of_decide_eq_true hname
  exact ⟨rfl, isValidName_of_mem_successes hmem⟩

/-- The entry of a name is what the last success on that name left, and without any it is the entry
of before. -/
theorem get?_edited (o : Overlay) (es : List Edit) (name : String) :
    (o.edited es).changes.get? name =
      match o.lastEdit? es name with
      | some e => some e.entry
      | none => o.changes.get? name := by
  induction es generalizing o with
  | nil => rfl
  | cons e es ih =>
      rw [edited_cons]
      cases hrun : e.run o with
      | error fault => rw [afterEdit_of_error hrun, lastEdit?_cons_of_error hrun, ih]
      | ok o' =>
          obtain ⟨-, ho'⟩ := eq_insert_of_run hrun
          rw [afterEdit_of_ok hrun, ih o']
          by_cases hname : e.name = name
          · subst hname
            rw [lastEdit?_cons_self hrun]
            cases o'.lastEdit? es e.name with
            | some later => rfl
            | none =>
                rw [ho']
                exact NameMap.get?_insert_self _ _ _
          · rw [lastEdit?_cons_of_ne hrun hname]
            cases o'.lastEdit? es name with
            | some later => rfl
            | none =>
                rw [ho']
                exact NameMap.get?_insert_of_ne _ (Ne.symm hname) _

/-! ## The views of an overlay -/

/-- The variables that were set are the names with a value. -/
lemma mem_assigned_iff {value : String} :
    (name, value) ∈ o.assigned ↔ o.changes.get? name = some (some value) := by
  rw [← NameMap.mem_toList_iff, assigned, List.mem_filterMap]
  constructor
  · rintro ⟨⟨name', change⟩, hmem, hshown⟩
    obtain ⟨value', rfl, hpair⟩ := Option.map_eq_some_iff.mp hshown
    cases hpair
    exact hmem
  · intro hmem
    exact ⟨_, hmem, rfl⟩

/-- The variables that were removed are the names with an entry and no value. -/
lemma mem_removed_iff : name ∈ o.removed ↔ o.changes.get? name = some none := by
  rw [← NameMap.mem_toList_iff, removed, List.mem_map]
  constructor
  · rintro ⟨⟨name', change⟩, hmem, rfl⟩
    obtain ⟨hmem, hnone⟩ := List.mem_filter.mp hmem
    obtain rfl := Option.isNone_iff_eq_none.mp hnone
    exact hmem
  · intro hmem
    exact ⟨_, List.mem_filter.mpr ⟨hmem, rfl⟩, rfl⟩

/-- The names of the variables that were set ascend. -/
lemma ascending_assigned (o : Overlay) : (o.assigned.map Prod.fst).Pairwise (· < ·) := by
  rw [List.pairwise_map, assigned, List.pairwise_filterMap]
  refine o.changes.ascending.imp ?_
  intro p q hpq p' hp q' hq
  obtain ⟨v, -, rfl⟩ := Option.map_eq_some_iff.mp hp
  obtain ⟨w, -, rfl⟩ := Option.map_eq_some_iff.mp hq
  exact hpq

/-- The names of the variables that were removed ascend. -/
lemma ascending_removed (o : Overlay) : o.removed.Pairwise (· < ·) := by
  rw [removed, List.pairwise_map]
  exact o.changes.ascending.filter _

/-- The value of a variable with an entry is that of the entry. -/
lemma value?_of_get? {change : Option String} (h : o.changes.get? name = some change)
    (env : Environment) : o.value? env name = change := by
  simp only [value?, h]

/-- A variable without an entry has the inherited value. -/
lemma value?_of_get?_none (h : o.changes.get? name = none) (env : Environment) :
    o.value? env name = env.value? name := by
  simp only [value?, h]

/-! ## From no changes on -/

/-- What an overlay that was empty at first holds is what the last successes left. -/
lemma get?_edited_empty (es : List Edit) (name : String) :
    (empty.edited es).changes.get? name = (empty.lastEdit? es name).map Edit.entry := by
  rw [get?_edited]
  cases empty.lastEdit? es name <;> rfl

/-- A success that left a value has set the variable. -/
lemma eq_assign_of_lastEdit? {value : String} (h : o.lastEdit? es name = some e)
    (hentry : e.entry = some value) : ∃ given, e = .assign name given := by
  obtain ⟨rfl, -⟩ := name_of_lastEdit? h
  cases e with
  | assign name given => exact ⟨given, rfl⟩
  | remove name => cases hentry

/-- A success that left no value has removed the variable. -/
lemma eq_remove_of_lastEdit? (h : o.lastEdit? es name = some e) (hentry : e.entry = none) :
    e = .remove name := by
  obtain ⟨rfl, -⟩ := name_of_lastEdit? h
  cases e with
  | assign name given => cases hentry
  | remove name => rfl

/-- The value is that of the last success, and without any it is the inherited one. -/
lemma value?_edited_empty (env : Environment) (es : List Edit) (name : String) :
    (empty.edited es).value? env name =
      match empty.lastEdit? es name with
      | some (.assign _ given) => some (if name = "PATH" then SearchPath.clean given else given)
      | some (.remove _) => none
      | none => env.value? name := by
  have hget := get?_edited_empty es name
  cases hedit : empty.lastEdit? es name with
  | none =>
      rw [hedit] at hget
      exact value?_of_get?_none hget env
  | some e =>
      rw [hedit] at hget
      obtain ⟨rfl, -⟩ := name_of_lastEdit? hedit
      rw [value?_of_get? hget env]
      cases e <;> rfl

/-- The variables that are assigned are those whose last edit assigned them, with the value of that
edit. -/
lemma mem_assigned_edited_iff {value : String} :
    (name, value) ∈ (empty.edited es).assigned ↔ ∃ given,
      empty.lastEdit? es name = some (.assign name given) ∧
      value = if name = "PATH" then SearchPath.clean given else given := by
  rw [mem_assigned_iff, get?_edited_empty, Option.map_eq_some_iff]
  constructor
  · rintro ⟨e, he, hvalue⟩
    obtain ⟨given, rfl⟩ := eq_assign_of_lastEdit? he hvalue
    exact ⟨given, he, (Option.some.inj hvalue).symm⟩
  · rintro ⟨given, h, rfl⟩
    exact ⟨_, h, rfl⟩

/-- The variables that are removed are those whose last edit removed them. -/
lemma mem_removed_edited_iff :
    name ∈ (empty.edited es).removed ↔ empty.lastEdit? es name = some (.remove name) := by
  rw [mem_removed_iff, get?_edited_empty, Option.map_eq_some_iff]
  constructor
  · rintro ⟨e, he, hnone⟩
    rw [he, eq_remove_of_lastEdit? he hnone]
  · intro h
    exact ⟨_, h, rfl⟩

/-- For every environment and all attempts, made one after the other from an empty overlay on: an
attempt that is refused changes nothing.  The value of a variable is that of the last successful
attempt on its name: the value given, cleaned if it is that of the search path; none after a
removal; and the inherited one where there was no success.  The variables shown as set, with their
values, and those shown as removed are exactly the names of the first and of the second kind, each
once and in ascending order, all of them valid and none in both.  A removal says that the variable
was visible exactly if it had a value right before. -/
theorem last_edit_decides (env : Environment) (es : List Edit) :
    let o := empty.edited es
    (∀ e fault, e.run o = .error fault → empty.edited (es ++ [e]) = o) ∧
    (∀ name, o.value? env name =
      match empty.lastEdit? es name with
      | some (.assign _ given) => some (if name = "PATH" then SearchPath.clean given else given)
      | some (.remove _) => none
      | none => env.value? name) ∧
    (∀ name value, (name, value) ∈ o.assigned ↔ ∃ given,
      empty.lastEdit? es name = some (.assign name given) ∧
      value = if name = "PATH" then SearchPath.clean given else given) ∧
    (∀ name, name ∈ o.removed ↔ empty.lastEdit? es name = some (.remove name)) ∧
    (o.assigned.map Prod.fst).Pairwise (· < ·) ∧ o.removed.Pairwise (· < ·) ∧
    (∀ name ∈ o.removed, ∀ value, (name, value) ∉ o.assigned) ∧
    (∀ name ∈ o.assigned.map Prod.fst ++ o.removed, isValidName name = true) ∧
    (∀ name visible o', o.take env name = .ok (visible, o') →
      o' = empty.edited (es ++ [.remove name]) ∧
      (visible = true ↔ ∃ value, o.value? env name = some value)) := by
  intro o
  have hlast : ∀ e, empty.edited (es ++ [e]) = o.afterEdit e := by
    intro e
    rw [edited, List.foldl_append]
    rfl
  refine ⟨?_, value?_edited_empty env es, fun _ _ => mem_assigned_edited_iff,
    fun _ => mem_removed_edited_iff, ascending_assigned o, ascending_removed o, ?_, ?_, ?_⟩
  · intro e fault hrefused
    rw [hlast, afterEdit_of_error hrefused]
  -- none is in both: the last success on a name is of one kind
  · intro name hremoved value hassigned
    obtain ⟨given, hgiven, -⟩ := mem_assigned_edited_iff.mp hassigned
    cases hgiven.symm.trans (mem_removed_edited_iff.mp hremoved)
  · intro name hname
    rcases List.mem_append.mp hname with hset | hremoved
    · obtain ⟨⟨name, value⟩, hassigned, rfl⟩ := List.mem_map.mp hset
      obtain ⟨given, hgiven, -⟩ := mem_assigned_edited_iff.mp hassigned
      exact (name_of_lastEdit? hgiven).2
    · exact (name_of_lastEdit? (mem_removed_edited_iff.mp hremoved)).2
  · intro name visible o' htake
    obtain ⟨after, hafter, heq⟩ := map_eq_ok_iff.mp htake
    cases heq
    refine ⟨?_, Option.isSome_iff_exists⟩
    rw [hlast]
    exact (afterEdit_of_ok (e := .remove name) hafter).symm

/-- Two of these attempts are refused: a name cannot begin with a digit, and the search path cannot
be made empty. -/
def someEdits : List Edit :=
  [.assign "A" "1", .assign "1A" "x", .remove "HOME", .assign "PATH" "/b::/a:/b/", .remove "A",
    .assign "A" "2", .assign "PATH" ""]

/-- An environment with two variables. -/
def smallEnvironment : Environment :=
  ⟨(NameMap.empty.insert "HOME" "/home").insert "USER" "me"⟩

/-- A variable that was removed and set again, an inherited one that was removed, one that was left
alone, and a search path. -/
theorem last_edit_decides_at_some_edits :
    (empty.edited someEdits).value? smallEnvironment "A" = some "2" ∧
    (empty.edited someEdits).value? smallEnvironment "HOME" = none ∧
    (empty.edited someEdits).value? smallEnvironment "USER" = some "me" ∧
    ("PATH", "/b:/a") ∈ (empty.edited someEdits).assigned ∧
    "HOME" ∈ (empty.edited someEdits).removed ∧
    empty.edited (someEdits ++ [.assign "1A" "y"]) = empty.edited someEdits ∧
    (empty.edited someEdits).take smallEnvironment "USER" =
      .ok (true, empty.edited (someEdits ++ [.remove "USER"])) := by
  obtain ⟨hrefused, hvalue, hassigned, hremoved, -, -, -, -, htake⟩ :=
    last_edit_decides smallEnvironment someEdits
  have htaken : (empty.edited someEdits).take smallEnvironment "USER" =
      .ok (true, (empty.edited someEdits).afterEdit (.remove "USER")) := rfl
  refine ⟨hvalue "A", hvalue "HOME", hvalue "USER", (hassigned _ _).mpr ⟨"/b::/a:/b/", rfl, rfl⟩,
    (hremoved _).mpr rfl, hrefused _ (.invalidValue .invalidName) rfl, ?_⟩
  rw [htaken, (htake _ _ _ htaken).1]

end PipeShell.Overlay
