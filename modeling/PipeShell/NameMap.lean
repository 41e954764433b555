/-!
# Finite maps from names

A finite map whose keys are texts, kept as a list of pairs in strictly ascending order of name.
Two maps that answer alike are therefore equal (`ext_get?`), and `toList` is the order in which a
map is shown.  Names are compared by code point, which is also the order of their bytes.

Main statements: `get?_insert` and `get?_erase` say what the two updates do to every answer, and
`mem_toList_iff` ties the list to the answers.
-/

namespace PipeShell

/-- The names of the pairs ascend. -/
def Ascending {α : Type} (l : List (String × α)) : Prop :=
  l.Pairwise fun p q => p.1 < q.1

/-- A finite map from names to values. -/
structure NameMap (α : Type) where
  /-- The pairs of the map, in ascending order of name. -/
  toList : List (String × α)
  ascending : Ascending toList

namespace NameMap

variable {α : Type}

/-- Maps are compared by their lists. -/
instance [DecidableEq α] : DecidableEq (NameMap α) := fun m n =>
  if h : m.toList = n.toList then isTrue (by cases m; cases n; cases h; rfl)
  else isFalse (fun e => h (by rw [e]))

/-- The map without names. -/
def empty : NameMap α := ⟨[], List.Pairwise.nil⟩

/-- The empty map is written like an empty set. -/
instance : EmptyCollection (NameMap α) := ⟨empty⟩

/-- There is a map, whatever the values are. -/
instance : Inhabited (NameMap α) := ⟨empty⟩

/-! ## Operations on ascending lists -/

/-- The value paired with `k`. -/
def find? (k : String) : List (String × α) → Option α
  | [] => none
  | (k', v) :: l => if k = k' then some v else find? k l

/-- The pair put at its place, in the stead of a pair with the same name. -/
def insertPair (k : String) (v : α) : List (String × α) → List (String × α)
  | [] => [(k, v)]
  | (k', v') :: l =>
    if k < k' then (k, v) :: (k', v') :: l
    else if k = k' then (k, v) :: l
    else (k', v') :: insertPair k v l

/-- What is in a list after an insertion was inserted or is an old pair. -/
theorem mem_insertPair {k : String} {v : α} {l : List (String × α)} {p : String × α}
    (h : p ∈ insertPair k v l) : p = (k, v) ∨ p ∈ l := by
  induction l with
  | nil => simpa [insertPair] using h
  | cons q l ih =>
    rw [insertPair] at h
    split at h
    · simpa using h
    · split at h
      · simp only [List.mem_cons] at h ⊢
        exact h.imp id Or.inr
      · simp only [List.mem_cons] at h ⊢
        rcases h with h | h
        · exact Or.inr (Or.inl h)
        · exact (ih h).imp id Or.inr

/-- Insertion keeps the order of the names. -/
theorem ascending_insertPair {l : List (String × α)} (h : Ascending l) (k : String) (v : α) :
    Ascending (insertPair k v l) := by
  induction l with
  | nil => exact List.pairwise_singleton _ _
  | cons q l ih =>
    obtain ⟨hq, hl⟩ := List.pairwise_cons.1 h
    rw [insertPair]
    split
    · next hlt =>
      refine List.pairwise_cons.2 ⟨fun p hp => ?_, h⟩
      rcases List.mem_cons.1 hp with rfl | hp
      · exact hlt
      · exact String.lt_trans hlt (hq p hp)
    · next hlt =>
      split
      · next heq => exact List.pairwise_cons.2 ⟨fun p hp => heq ▸ hq p hp, hl⟩
      · next hne =>
        refine List.pairwise_cons.2 ⟨fun p hp => ?_, ih hl⟩
        rcases mem_insertPair hp with rfl | hp
        · refine Decidable.byContradiction fun hle => hne ?_
          exact String.le_antisymm (String.not_lt.1 hle) (String.not_lt.1 hlt)
        · exact hq p hp

/-- After an insertion the new name has the new value, and any other name the one it had. -/
theorem find?_insertPair (k k' : String) (v : α) (l : List (String × α)) :
    find? k' (insertPair k v l) = if k' = k then some v else find? k' l := by
  induction l with
  | nil => simp [insertPair, find?]
  | cons q l ih =>
    rw [insertPair]
    split
    · simp [find?]
    · split
      · next heq =>
        by_cases h : k' = k <;> simp [find?, h, ← heq]
      · next hne =>
        simp only [find?, ih]
        by_cases h : k' = q.1
        · simp [h, Ne.symm hne]
        · simp [h]

/-- In an ascending list a name has only one value, so looking it up finds that one. -/
theorem find?_eq_some_of_mem {l : List (String × α)} (h : Ascending l) {k : String} {v : α}
    (hm : (k, v) ∈ l) : find? k l = some v := by
  induction l with
  | nil => simp at hm
  | cons q l ih =>
    obtain ⟨hq, hl⟩ := List.pairwise_cons.1 h
    rcases List.mem_cons.1 hm with rfl | hm
    · simp [find?]
    · have hne : k ≠ q.1 := fun e => String.lt_irrefl k (by simpa [e] using hq _ hm)
      simp [find?, hne, ih hl hm]

/-- What is found under a name is in the list. -/
theorem mem_of_find?_eq_some {l : List (String × α)} {k : String} {v : α}
    (h : find? k l = some v) : (k, v) ∈ l := by
  induction l with
  | nil => simp [find?] at h
  | cons q l ih =>
    rw [find?] at h
    split at h
    · next hk => cases h; simp [hk]
    · exact List.mem_cons_of_mem _ (ih h)

/-! ## The map -/

/-- The value of a name. -/
def get? (m : NameMap α) (k : String) : Option α := find? k m.toList

/-- The map with `k` bound to `v`. -/
def insert (m : NameMap α) (k : String) (v : α) : NameMap α :=
  ⟨insertPair k v m.toList, ascending_insertPair m.ascending k v⟩

/-- The map without the name `k`. -/
def erase (m : NameMap α) (k : String) : NameMap α :=
  ⟨m.toList.filter (·.1 ≠ k), m.ascending.filter _⟩

/-- The map of a list of pairs, a later pair replacing an earlier one of the same name. -/
def ofList (l : List (String × α)) : NameMap α :=
  l.foldl (fun m p => m.insert p.1 p.2) empty

/-- The names that are bound, in ascending order. -/
def keys (m : NameMap α) : List String := m.toList.map Prod.fst

/-- In the empty map no name has a value. -/
@[simp] theorem get?_empty (k : String) : (empty : NameMap α).get? k = none := rfl

/-- Insertion gives the name the value and leaves all other names alone. -/
theorem get?_insert (m : NameMap α) (k k' : String) (v : α) :
    (m.insert k v).get? k' = if k' = k then some v else m.get? k' :=
  find?_insertPair k k' v m.toList

/-- The inserted name has the inserted value. -/
@[simp] theorem get?_insert_self (m : NameMap α) (k : String) (v : α) :
    (m.insert k v).get? k = some v := by
  simp [get?_insert]

/-- Other names keep their values. -/
theorem get?_insert_of_ne (m : NameMap α) {k k' : String} (h : k' ≠ k) (v : α) :
    (m.insert k v).get? k' = m.get? k' := by
  simp [get?_insert, h]

/-- The list of a map has the pairs that can be looked up, and no others. -/
theorem mem_toList_iff (m : NameMap α) {k : String} {v : α} :
    (k, v) ∈ m.toList ↔ m.get? k = some v :=
  ⟨find?_eq_some_of_mem m.ascending, mem_of_find?_eq_some⟩

/-- Erasing takes the value from the name and leaves all other names alone. -/
theorem get?_erase (m : NameMap α) (k k' : String) :
    (m.erase k).get? k' = if k' = k then none else m.get? k' := by
  have hmem : ∀ v, (m.erase k).get? k' = some v ↔ k' ≠ k ∧ m.get? k' = some v := by
    intro v
    rw [← mem_toList_iff, ← mem_toList_iff]
    simp [erase, And.comm]
  refine Option.ext fun v => ?_
  rw [hmem v]
  by_cases h : k' = k <;> simp [h]

/-- The names of the map are those that have an answer. -/
theorem contains_keys (m : NameMap α) (k : String) : m.keys.contains k = (m.get? k).isSome := by
  rw [Bool.eq_iff_iff, List.contains_iff_mem, keys, List.mem_map, Option.isSome_iff_exists]
  constructor
  · rintro ⟨⟨k', v⟩, hmem, rfl⟩
    exact ⟨v, m.mem_toList_iff.1 hmem⟩
  · rintro ⟨v, hget⟩
    exact ⟨(k, v), m.mem_toList_iff.2 hget, rfl⟩

/-- Maps that answer alike are equal. -/
theorem ext_get? {m n : NameMap α} (h : ∀ k, m.get? k = n.get? k) : m = n := by
  have key : ∀ (l₁ l₂ : List (String × α)), Ascending l₁ → Ascending l₂ →
      (∀ p, p ∈ l₁ ↔ p ∈ l₂) → l₁ = l₂ := by
    intro l₁
    induction l₁ with
    | nil =>
      intro l₂ _ _ hm
      cases l₂ with
      | nil => rfl
      | cons p l₂ => exact absurd ((hm p).2 List.mem_cons_self) (by simp)
    | cons p l₁ ih =>
      intro l₂ h₁ h₂ hm
      cases l₂ with
      | nil => exact absurd ((hm p).1 List.mem_cons_self) (by simp)
      | cons q l₂ =>
        obtain ⟨hp, hl₁⟩ := List.pairwise_cons.1 h₁
        obtain ⟨hq, hl₂⟩ := List.pairwise_cons.1 h₂
        have hpq : p = q := by
          rcases List.mem_cons.1 ((hm p).1 List.mem_cons_self) with e | hpm
          · exact e
          · rcases List.mem_cons.1 ((hm q).2 List.mem_cons_self) with e | hqm
            · exact e.symm
            · exact absurd (String.lt_trans (hp q hqm) (hq p hpm)) (String.lt_irrefl _)
        subst hpq
        refine congrArg (p :: ·) (ih l₂ hl₁ hl₂ fun r => ⟨fun hr => ?_, fun hr => ?_⟩)
        · rcases List.mem_cons.1 ((hm r).1 (List.mem_cons_of_mem _ hr)) with rfl | hr'
          · exact absurd (hp _ hr) (String.lt_irrefl _)
          · exact hr'
        · rcases List.mem_cons.1 ((hm r).2 (List.mem_cons_of_mem _ hr)) with rfl | hr'
          · exact absurd (hq _ hr) (String.lt_irrefl _)
          · exact hr'
  have hl := key m.toList n.toList m.ascending n.ascending fun p => by
    obtain ⟨k, v⟩ := p
    rw [mem_toList_iff, mem_toList_iff, h k]
  cases m; cases n; cases hl; rfl

end NameMap

end PipeShell
