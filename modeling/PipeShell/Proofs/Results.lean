import Mathlib.Data.List.Forall2
import Mathlib.Data.List.TakeWhile
import Mathlib.Tactic.Common

/-!
# Results and runs

Small facts that the proofs about readers share: where a result comes from when it was mapped or
made of many, what the character or token is like at which a run ends, and what stands before a cut.
-/

namespace PipeShell

/-- A mapped result is there when the result is. -/
lemma map_eq_ok_iff {ε α β : Type} {f : α → β} {x : Except ε α} {b : β} :
    x.map f = .ok b ↔ ∃ a, x = .ok a ∧ f a = b := by
  cases x <;> simp [Except.map]

/-- A function that is applied to a result leaves its errors alone. -/
lemma map_eq_error_iff {ε α β : Type} {f : α → β} {x : Except ε α} {e : ε} :
    x.map f = .error e ↔ x = .error e := by
  cases x <;> simp [Except.map]

/-- A chain of two results is there when both are. -/
lemma bind_eq_ok_iff {ε α β : Type} {x : Except ε α} {f : α → Except ε β} {b : β} :
    (x >>= f) = .ok b ↔ ∃ a, x = .ok a ∧ f a = .ok b := by
  cases x with
  | error e => simp [bind, Except.bind]
  | ok a => simp [bind, Except.bind]

/-- The results for all elements of a list are there when each is. -/
lemma mapM_eq_ok_iff {ε α β : Type} {f : α → Except ε β} {as : List α} {bs : List β} :
    as.mapM f = .ok bs ↔ List.Forall₂ (fun a b => f a = .ok b) as bs := by
  induction as generalizing bs with
  | nil => simp [pure, Except.pure, eq_comm]
  | cons a as ih =>
      rw [List.mapM_cons, bind_eq_ok_iff, List.forall₂_cons_left_iff]
      simp only [bind_eq_ok_iff, pure, Except.pure, Except.ok.injEq, ih]
      constructor
      · rintro ⟨b, hb, bs, hbs, rfl⟩
        exact ⟨b, bs, hb, hbs, rfl⟩
      · rintro ⟨b, bs, hb, hbs, rfl⟩
        exact ⟨b, hb, bs, hbs, rfl⟩

/-- The results for the elements of a list fail as the first of them fails. -/
lemma mapM_eq_error_iff {ε α β : Type} {f : α → Except ε β} {as : List α} {e : ε} :
    as.mapM f = .error e ↔ ∃ front a rest, as = front ++ a :: rest ∧
      (∀ a' ∈ front, ∃ b, f a' = .ok b) ∧ f a = .error e := by
  induction as with
  | nil => simp [pure, Except.pure]
  | cons a as ih =>
      rw [List.mapM_cons]
      -- if the first element fails, nothing can stand in front of the one that does
      cases ha : f a with
      | error e' =>
          constructor
          · rintro ⟨⟩
            exact ⟨[], a, as, rfl, nofun, ha⟩
          · rintro ⟨front, a', rest, hcons, hfront, ha'⟩
            cases front with
            | nil =>
                obtain ⟨rfl, rfl⟩ := List.cons.inj hcons
                rw [ha] at ha'
                cases ha'
                rfl
            | cons a'' front =>
                obtain ⟨rfl, -⟩ := List.cons.inj hcons
                obtain ⟨b, hb⟩ := hfront a List.mem_cons_self
                rw [ha] at hb
                cases hb
      | ok b =>
          have hrest : (do let bs ← as.mapM f; pure (b :: bs) : Except ε (List β)) = .error e ↔
              as.mapM f = .error e := by
            cases as.mapM f <;> simp [bind, Except.bind, pure, Except.pure]
          refine hrest.trans (ih.trans ?_)
          constructor
          · rintro ⟨front, a', rest, rfl, hfront, ha'⟩
            exact ⟨a :: front, a', rest, rfl, List.forall_mem_cons.mpr ⟨⟨b, ha⟩, hfront⟩, ha'⟩
          · rintro ⟨front, a', rest, hcons, hfront, ha'⟩
            cases front with
            | nil =>
                obtain ⟨rfl, -⟩ := List.cons.inj hcons
                rw [ha] at ha'
                cases ha'
            | cons a'' front =>
                obtain ⟨rfl, rfl⟩ := List.cons.inj hcons
                exact ⟨front, a', rest, rfl, (List.forall_mem_cons.mp hfront).2, ha'⟩

/-- What a run ends at fails the test of the run. -/
lemma not_of_dropWhile_eq_cons {α : Type} {p : α → Bool} {as rest : List α} {a : α}
    (h : as.dropWhile p = a :: rest) : p a = false := by
  have hhead := List.head?_dropWhile_not p as
  rw [h] at hhead
  exact hhead

/-- A list that is cut at a place outside of `front` has `front` before the cut. -/
lemma exists_eq_append_of_not_mem {α : Type} {front rest as bs : List α} {a : α}
    (h : as ++ a :: bs = front ++ rest) (ha : a ∉ front) :
    ∃ mid, as = front ++ mid ∧ rest = mid ++ a :: bs := by
  rcases List.append_eq_append_iff.mp h with ⟨mid, rfl, hmid⟩ | ⟨mid, has, hrest⟩
  · cases mid with
    | nil => exact ⟨[], by simp, by simpa using hmid.symm⟩
    | cons b mid =>
        obtain ⟨rfl, -⟩ := List.cons.inj hmid
        exact absurd (List.mem_append_right _ List.mem_cons_self) ha
  · exact ⟨mid, has, hrest⟩

end PipeShell
