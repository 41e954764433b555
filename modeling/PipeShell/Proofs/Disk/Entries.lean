import Mathlib.Data.List.Nodup
import PipeShell.Proofs.Disk.Canonical

/-!
# What directories list

On a disk as a system has it (`Disk.WellFormed`) every entry stands in a directory, under a name
that an entry can have, and no directory lists a name twice.  Such a directory lists what stands in
it and nothing else (`WellFormed.mem_children_iff`).

It does so in no particular order.  Disks that differ in this order only (`Disk.Reordered`) lead
every path to the same entry (`Reordered.lookUp_eq`).
-/

namespace PipeShell

namespace NameTree

variable {α : Type} {t u : NameTree α} {ts : List (String × NameTree α)} {l : List String}
  {n : String} {v : α}

/-! ## Trees in which names are unique -/

/-- Nowhere do two trees of one name stand under the same node. -/
def Tidy (t : NameTree α) : Prop := ∀ l, ((t.subtree l).inside.map Prod.fst).Nodup

/-- The empty tree is tidy. -/
lemma tidy_empty : (empty : NameTree α).Tidy := by
  intro l
  rw [subtree_empty]
  exact List.nodup_nil

/-- So is each child of a tidy tree. -/
lemma Tidy.child (h : t.Tidy) (n : String) : (t.child n).Tidy := fun l => h (n :: l)

/-- No name is new but the one that is set. -/
lemma mem_map_fst_setIn {k : String} :
    k ∈ (setIn n u ts).map Prod.fst ↔ k = n ∨ k ∈ ts.map Prod.fst := by
  induction ts with
  | nil => simp [setIn]
  | cons p ts ih =>
      rw [setIn]
      split_ifs with hn
      · simp [hn]
      · rw [List.map_cons, List.mem_cons, ih, List.map_cons, List.mem_cons]
        exact or_left_comm

/-- Setting a child leaves the names of the children different. -/
lemma nodup_setIn (h : (ts.map Prod.fst).Nodup) : ((setIn n u ts).map Prod.fst).Nodup := by
  induction ts with
  | nil => simp [setIn]
  | cons p ts ih =>
      obtain ⟨hp, hts⟩ := List.nodup_cons.mp h
      rw [setIn]
      split_ifs with hn
      · subst hn
        exact h
      · refine List.nodup_cons.mpr ⟨?_, ih hts⟩
        rw [mem_map_fst_setIn, not_or]
        exact ⟨fun heq => hn heq.symm, hp⟩

/-- A change at a location makes no name appear twice, if it does not there. -/
lemma Tidy.change {f : NameTree α → NameTree α} (hf : ∀ s, s.Tidy → (f s).Tidy) (h : t.Tidy)
    (l : List String) : (t.change f l).Tidy := by
  induction l generalizing t with
  | nil => exact hf t h
  | cons n l ih =>
      rintro (_ | ⟨k, l'⟩)
      · exact nodup_setIn (h [])
      · rw [subtree, child_change]
        split_ifs with hk
        · exact ih (h.child n) l'
        · exact h.child k l'

/-- Assigning a value keeps a tree tidy. -/
lemma Tidy.assign (h : t.Tidy) (l : List String) (v : Option α) : (t.assign l v).Tidy := by
  refine h.change (fun s hs => ?_) l
  rintro (_ | ⟨k, l'⟩)
  · exact hs []
  · exact hs (k :: l')

/-- So does cutting something off. -/
lemma Tidy.prune (h : t.Tidy) (l : List String) : (t.prune l).Tidy :=
  h.change (fun _ _ => tidy_empty) l

/-- Under a name that is there once, one tree is found. -/
lemma lookup_eq_some_iff (h : (ts.map Prod.fst).Nodup) :
    ts.lookup n = some u ↔ (n, u) ∈ ts := by
  induction ts with
  | nil => simp
  | cons p ts ih =>
      obtain ⟨hp, hts⟩ := List.nodup_cons.mp h
      obtain ⟨k, s⟩ := p
      by_cases hn : n = k
      · subst hn
        have hnot : (n, u) ∉ ts := fun hmem => hp (List.mem_map.mpr ⟨_, hmem, rfl⟩)
        simp [hnot, eq_comm]
      · simp [List.lookup_cons, beq_eq_false_iff_ne.mpr hn, hn, ih hts]

/-- A longer way leads to where its second part leads from the end of the first. -/
lemma subtree_append (t : NameTree α) (l l' : List String) :
    t.subtree (l ++ l') = (t.subtree l).subtree l' := by
  induction l generalizing t with
  | nil => rfl
  | cons n l ih => exact ih (t.child n)

/-- The names right under a location are those under which a value stands. -/
lemma Tidy.mem_children_iff (h : t.Tidy) :
    (n, v) ∈ t.children l ↔ t.get? (l ++ [n]) = some v := by
  have hinside : (n, v) ∈ t.children l ↔ ∃ s, (n, s) ∈ (t.subtree l).inside ∧ s.value = some v := by
    simp [children]
  rw [hinside, get?, subtree_append]
  change _ ↔ ((t.subtree l).child n).value = some v
  rw [NameTree.child]
  constructor
  · rintro ⟨s, hs, hv⟩
    rwa [(lookup_eq_some_iff (h l)).mpr hs]
  · intro hv
    cases hs : (t.subtree l).inside.lookup n with
    | none =>
        rw [hs] at hv
        cases hv
    | some s =>
        rw [hs] at hv
        exact ⟨s, (lookup_eq_some_iff (h l)).mp hs, hv⟩

/-- No two children of a node of a tidy tree have the same name. -/
lemma Tidy.nodup_children (h : t.Tidy) (l : List String) :
    ((t.children l).map Prod.fst).Nodup := by
  have hsub : ∀ ts : List (String × NameTree α),
      ((ts.filterMap fun p => p.2.value.map (p.1, ·)).map Prod.fst).Sublist (ts.map Prod.fst) := by
    intro ts
    induction ts with
    | nil => exact .slnil
    | cons p ts ih =>
        cases hv : p.2.value with
        | none => simpa [hv] using ih.cons p.1
        | some v => simpa [hv] using ih.cons_cons p.1
  exact (h l).sublist (hsub _)

end NameTree

namespace Disk

variable {d d' : Disk} {l : Location} {name : String} {e : Entry}

/-! ## Disks as a system has them -/

/-- Every entry stands in a directory, under a name that an entry can have, and no name is there
twice. -/
structure WellFormed (d : Disk) : Prop where
  inside : ∀ {l name e}, d.entryAt? (l ++ [name]) = some e → d.entryAt? l = some .directory
  isName : ∀ {l name e}, d.entryAt? (l ++ [name]) = some e → IsName name
  tidy : d.tree.Tidy

/-- On an empty disk there is nothing but the root. -/
lemma entryAt?_empty (base l : Location) :
    (empty base).entryAt? l = if l = [] then some .directory else none := by
  cases l with
  | nil => rfl
  | cons n l =>
      change (NameTree.empty.subtree (n :: l)).value = none
      rw [NameTree.subtree_empty]
      rfl

/-- The empty disk is well-formed. -/
lemma wellFormed_empty (base : Location) : (empty base).WellFormed where
  inside h := by simp [entryAt?_empty] at h
  isName h := by simp [entryAt?_empty] at h
  tidy := NameTree.tidy_empty

/-- So is a disk with one more entry in a directory, or with another one in the place of an entry
that is no directory. -/
lemma WellFormed.put (h : d.WellFormed) (hdir : d.entryAt? l = some .directory)
    (hname : IsName name) (hold : d.entryAt? (l ++ [name]) ≠ some .directory) (e : Entry) :
    (d.put (l ++ [name]) e).WellFormed := by
  have hentry := entryAt?_put d (List.append_ne_nil_of_right_ne_nil l (List.cons_ne_nil name []))
  -- an entry of the new disk is the one that was put, or was there before
  have hcases : ∀ {l' : Location} {name' : String} {e' : Entry},
      (d.put (l ++ [name]) e).entryAt? (l' ++ [name']) = some e' →
        (l' = l ∧ name' = name) ∨ d.entryAt? (l' ++ [name']) = some e' := by
    intro l' name' e' he'
    rw [hentry] at he'
    split_ifs at he' with hat
    · exact .inl (by simpa using hat)
    · exact .inr he'
  refine ⟨fun he' => ?_, fun he' => ?_, h.tidy.assign _ _⟩
  · have hdir' : ∀ {l'}, d.entryAt? l' = some .directory →
        (d.put (l ++ [name]) e).entryAt? l' = some .directory := by
      intro l' hl'
      rw [hentry, if_neg]
      · exact hl'
      · rintro rfl
        exact hold hl'
    rcases hcases he' with ⟨rfl, rfl⟩ | hbefore
    · exact hdir' hdir
    · exact hdir' (h.inside hbefore)
  · rcases hcases he' with ⟨rfl, rfl⟩ | hbefore
    · exact hname
    · exact h.isName hbefore

/-- And a disk from which a location was removed, with all that stood below it. -/
lemma WellFormed.remove (h : d.WellFormed) (hl : l ≠ []) : (d.remove l).WellFormed := by
  have hentry := entryAt?_remove d hl
  have hkept : ∀ {l' e}, (d.remove l).entryAt? l' = some e →
      ¬ l.isPrefixOf l' = true ∧ d.entryAt? l' = some e := by
    intro l' e he
    rw [hentry] at he
    split_ifs at he with hbelow
    exact ⟨hbelow, he⟩
  refine ⟨fun he => ?_, fun he => h.isName (hkept he).2, h.tidy.prune l⟩
  obtain ⟨hnot, hbefore⟩ := hkept he
  rw [hentry, if_neg]
  · exact h.inside hbefore
  · intro hbelow
    rw [List.isPrefixOf_iff_prefix] at hnot hbelow
    exact hnot (hbelow.trans (List.prefix_append _ _))

/-- The children of a directory are the entries that stand in it. -/
lemma WellFormed.mem_children_iff (h : d.WellFormed) :
    (name, e) ∈ d.children l ↔ d.entryAt? (l ++ [name]) = some e := by
  rw [children, h.tidy.mem_children_iff, entryAt?, if_neg (by simp)]

/-- No name is listed twice. -/
lemma WellFormed.nodup_children (h : d.WellFormed) (l : Location) :
    ((d.children l).map Prod.fst).Nodup :=
  h.tidy.nodup_children l

/-! ## The order of entries -/

/-- The same entries are listed in another order. -/
structure Reordered (d d' : Disk) : Prop where
  base_eq : d'.base = d.base
  entryAt?_eq : ∀ l, d'.entryAt? l = d.entryAt? l
  children_perm : ∀ l, (d'.children l).Perm (d.children l)

/-- Well-formed disks with the same entries can list them in another order, and differ in nothing
else. -/
theorem WellFormed.reordered (h : d.WellFormed) (h' : d'.WellFormed) (hbase : d'.base = d.base)
    (hentries : ∀ l, d'.entryAt? l = d.entryAt? l) : d.Reordered d' := by
  refine ⟨hbase, hentries, fun l => ?_⟩
  have hnodup := List.Nodup.of_map Prod.fst (h.nodup_children l)
  have hnodup' := List.Nodup.of_map Prod.fst (h'.nodup_children l)
  refine (List.perm_ext_iff_of_nodup hnodup' hnodup).mpr fun ⟨name, e⟩ => ?_
  rw [h.mem_children_iff, h'.mem_children_iff, hentries]

/-- A walk does not see the order of the entries. -/
lemma Reordered.advance_eq (h : d.Reordered d') (followLast : Bool) (l : Location) (e : Entry)
    (names : List String) : d'.advance followLast l e names = d.advance followLast l e names := by
  induction names generalizing l e with
  | nil => rfl
  | cons name rest ih => simp only [advance, h.entryAt?_eq, ih]

/-- Neither does one through links. -/
lemma Reordered.follow_eq (h : d.Reordered d') (followLast : Bool) (links : Nat) (l : Location)
    (names : List String) :
    d'.follow followLast links l names = d.follow followLast links l names := by
  induction links generalizing l names with
  | zero => unfold follow; simp only [h.entryAt?_eq, h.advance_eq]
  | succ links ih => unfold follow; simp only [h.entryAt?_eq, h.advance_eq, ih]

/-- Paths lead to the same entries. -/
theorem Reordered.lookUp_eq (h : d.Reordered d') (path : String) :
    d'.lookUp path = d.lookUp path := by
  simp only [lookUp, find, findSteps, h.base_eq, h.follow_eq]

end Disk

end PipeShell
