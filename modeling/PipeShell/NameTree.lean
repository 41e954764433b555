/-!
# Trees of names

A `NameTree` gives values to *locations*, which are lists of names: the names that lead from the
root of the tree to a node.  A location has a value or none, whatever the locations above and below
it have.

Three operations change a tree, and each has one lemma that says what it does to every location:
`assign` (`get?_assign`), `prune` (`get?_prune`), and both leave all else as it was.
-/

namespace PipeShell

/-- A tree in which every node may hold a value. -/
inductive NameTree (α : Type) where
  | node (value : Option α) (inside : List (String × NameTree α))

namespace NameTree

variable {α : Type}

/-- The tree without values. -/
def empty : NameTree α := node none []

/-- The value at the root. -/
def value : NameTree α → Option α
  | node v _ => v

/-- The trees right under the root, by name. -/
def inside : NameTree α → List (String × NameTree α)
  | node _ ts => ts

/-- The tree right under the root with this name. -/
def child (t : NameTree α) (n : String) : NameTree α :=
  (t.inside.lookup n).getD empty

/-- The list with `t` under the name `n`. -/
def setIn (n : String) (t : NameTree α) : List (String × NameTree α) → List (String × NameTree α)
  | [] => [(n, t)]
  | (k, u) :: rest => if n = k then (n, t) :: rest else (k, u) :: setIn n t rest

/-- The tree at a location. -/
def subtree (t : NameTree α) : List String → NameTree α
  | [] => t
  | n :: l => (t.child n).subtree l

/-- The tree with the tree at a location changed. -/
def change (f : NameTree α → NameTree α) (t : NameTree α) : List String → NameTree α
  | [] => f t
  | n :: l => node t.value (setIn n ((t.child n).change f l) t.inside)

/-- The value at a location. -/
def get? (t : NameTree α) (l : List String) : Option α :=
  (t.subtree l).value

/-- The tree with this value at a location, or without a value there. -/
def assign (t : NameTree α) (l : List String) (v : Option α) : NameTree α :=
  t.change (fun s => node v s.inside) l

/-- The tree without values at a location and below it. -/
def prune (t : NameTree α) (l : List String) : NameTree α :=
  t.change (fun _ => empty) l

/-- The names right under a location that have values, with these values, in no particular order. -/
def children (t : NameTree α) (l : List String) : List (String × α) :=
  (t.subtree l).inside.filterMap fun p => p.2.value.map (p.1, ·)

mutual

/-- All values with their locations, which go on from `l`. -/
def valuesFrom (l : List String) : NameTree α → List (List String × α)
  | node v ts => (v.map (l, ·)).toList ++ valuesInside l ts

/-- All values of the trees right under `l`. -/
def valuesInside (l : List String) : List (String × NameTree α) → List (List String × α)
  | [] => []
  | (n, t) :: rest => valuesFrom (l ++ [n]) t ++ valuesInside l rest

end

/-- All values with their locations, in no particular order. -/
def toList (t : NameTree α) : List (List String × α) := valuesFrom [] t

/-! ## What the operations do -/

/-- After a child was set, its name leads to it, and any other name to where it led before. -/
theorem lookup_setIn (n k : String) (t : NameTree α) (ts : List (String × NameTree α)) :
    (setIn n t ts).lookup k = if k = n then some t else ts.lookup k := by
  have beq : ∀ m : String, (k == m) = decide (k = m) := fun m => by
    rw [Bool.eq_iff_iff]; simp
  induction ts with
  | nil => by_cases h : k = n <;> simp [setIn, List.lookup_cons, List.lookup_nil, beq, h]
  | cons p ts ih =>
    obtain ⟨m, u⟩ := p
    rw [setIn]
    split
    · next heq => subst heq; by_cases h : k = n <;> simp [List.lookup_cons, beq, h]
    · next hne =>
      by_cases h : k = m
      · subst h; simp [Ne.symm hne]
      · simp [List.lookup_cons, beq, h, ih]

/-- A change below one child leaves the other children alone. -/
theorem child_change (f : NameTree α → NameTree α) (t : NameTree α) (n k : String)
    (l : List String) :
    (t.change f (n :: l)).child k = if k = n then (t.child n).change f l else t.child k := by
  rw [change, child, inside, lookup_setIn]
  split <;> rfl

/-- There is nothing at the root of the empty tree. -/
@[simp] theorem value_empty : (empty : NameTree α).value = none := rfl

/-- There is nothing anywhere below it either. -/
@[simp] theorem subtree_empty (l : List String) : (empty : NameTree α).subtree l = empty := by
  induction l with
  | nil => rfl
  | cons n l ih => rw [subtree]; exact ih

/-- A value changes at its location and nowhere else. -/
theorem get?_assign (t : NameTree α) (l l' : List String) (v : Option α) :
    (t.assign l v).get? l' = if l' = l then v else t.get? l' := by
  induction l generalizing t l' with
  | nil =>
    cases l' with
    | nil => rfl
    | cons k l' => simp [assign, get?, subtree, change, child, inside]
  | cons n l ih =>
    cases l' with
    | nil => simp [assign, get?, subtree, change, value]
    | cons k l' =>
      have step := ih (t.child n) l'
      simp only [assign, get?] at step
      simp only [assign, get?, subtree, child_change]
      by_cases h : k = n
      · subst h; simp [step]
      · simp [h]

/-- Pruning takes the values at a location and below, and no others. -/
theorem get?_prune (t : NameTree α) (l l' : List String) :
    (t.prune l).get? l' = if l.isPrefixOf l' then none else t.get? l' := by
  induction l generalizing t l' with
  | nil => simp [prune, change, get?, value_empty]
  | cons n l ih =>
    cases l' with
    | nil => simp [prune, get?, subtree, change, value]
    | cons k l' =>
      have step := ih (t.child n) l'
      simp only [prune, get?] at step
      simp only [prune, get?, subtree, child_change]
      by_cases h : k = n
      · subst h; simp [step, List.isPrefixOf]
      · have apart : ¬ n = k := fun e => h e.symm
        simp [h, apart, List.isPrefixOf]

end NameTree

end PipeShell
