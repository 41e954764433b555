import PipeShell.Proofs.Disk.Edit

/-!
# Writing to a file that exists

A path is searched in two ways: to look at what is there, and to write there.  The second refuses a
slash at the end, be it of the path itself or of a link that the path ends at.  The first walks such
a path to a directory or not at all (`isDirectory_of_follow_dot`), so whatever else a path leads to
is where it would be written (`findTarget_of_find`), and a path that leads to a file can always be
written (`exists_edit_of_lookUp_file`).
-/

namespace PipeShell.Disk

variable {d : Disk} {path : String}

/-- How a walk comes out whose last step is a dot: at a directory, or at a link with that step still
to go. -/
def Progress.EndsAtDirectory : Progress → Prop
  | done p => p.isDirectory = true
  | failed _ => True
  | atLink _ _ rest => rest.getLast? = some "."

/-- The last of several steps is the last of those after the first. -/
lemma getLast?_of_cons {name : String} {rest : List String} (hname : name ≠ ".")
    (hlast : (name :: rest).getLast? = some ".") : rest.getLast? = some "." := by
  cases rest with
  | nil => exact absurd (Option.some.inj hlast) hname
  | cons step rest => rwa [List.getLast?_cons_cons] at hlast

/-- A walk whose last step is a dot ends at a directory, if it ends. -/
lemma endsAtDirectory_advance {l : Location} {e : Entry} {names : List String}
    (hlast : names.getLast? = some ".") :
    (d.advance true l e names).EndsAtDirectory := by
  fun_induction advance d true l e names with
  | case1 => cases hlast
  | case2 | case5 | case7 => trivial
  | case3 l e rest hdir ih =>
      -- the dot that is walked here may be the last step
      cases rest with
      | nil =>
          change e.isDirectory = true
          simpa using hdir
      | cons step rest => exact ih (by rwa [List.getLast?_cons_cons] at hlast)
  | case4 l e rest hdir hdot ih => exact ih (getLast?_of_cons hdot hlast)
  | case6 l e name rest hdir hdot hup hlong hnone hend =>
      obtain rfl := List.isEmpty_iff.mp hend
      exact absurd (Option.some.inj hlast) hdot
  | case8 l e name rest hdir hdot hup hlong target hlink hend => simp at hend
  | case9 l e name rest hdir hdot => exact getLast?_of_cons hdot hlast
  | case10 l e name rest hdir hdot hup hlong e' hlink hentry ih =>
      exact ih (getLast?_of_cons hdot hlast)

/-- A path with a dot as its last step leads to a directory, if anywhere. -/
theorem isDirectory_of_follow_dot {links : Nat} {l : Location} {names : List String} {p : Place}
    (hlast : names.getLast? = some ".") (h : d.follow true links l names = .ok p) :
    p.isDirectory = true := by
  fun_induction follow d true links l names with
  | case2 links l names e hentry place hadvance =>
      cases h
      have hends := endsAtDirectory_advance (d := d) (l := l) (e := e) hlast
      rwa [hadvance] at hends
  | case5 l names e hentry l' target rest hadvance links ih =>
      have hends := endsAtDirectory_advance (d := d) (l := l) (e := e) hlast
      rw [hadvance] at hends
      refine ih ?_ h
      rw [List.getLast?_append, hends]
      rfl
  | case1 | case3 | case4 => cases h

/-- What a path leads to is written where it stands, unless it is a directory. -/
lemma findTargetFrom_of_follow {links : Nat} {l : Location} {path : String} {rest : List String}
    {p : Place} (hp : p.isDirectory = false)
    (h : d.follow true links (start l path) (steps path ++ rest) = .ok p) :
    d.findTargetFrom links l path rest = .ok p := by
  -- on the links, as the search for the target goes on from them
  fun_induction findTargetFrom d links l path rest with
  | case1 links l path rest hslash =>
      obtain ⟨hrest, hends⟩ := Bool.and_eq_true_iff.mp hslash
      obtain rfl := List.isEmpty_iff.mp hrest
      have hlast : (steps path ++ []).getLast? = some "." := by
        rw [List.append_nil, steps, if_pos hends, List.getLast?_concat]
      exact absurd (isDirectory_of_follow_dot hlast h) (by simp [hp])
  | case2 links l path rest hslash hnone =>
      rw [follow_of_none hnone] at h
      cases h
  | case3 links l path rest hslash e hentry place hadvance =>
      rwa [follow_of_done hentry hadvance] at h
  | case4 links l path rest hslash e hentry fault hadvance =>
      rw [follow_of_failed hentry hadvance] at h
      cases h
  | case5 l path rest hslash e hentry l' target rest' hadvance =>
      rw [follow_zero_of_atLink hentry hadvance] at h
      cases h
  | case6 l path rest hslash e hentry l' target rest' hadvance links ih =>
      rw [follow_succ_of_atLink hentry hadvance] at h
      exact ih h

/-- What is no directory can be written to where it was found. -/
lemma findTarget_of_find {p : Place} (hp : p.isDirectory = false) (h : d.find path = .ok p) :
    d.findTarget path = .ok p := by
  unfold find findSteps at h
  unfold findTarget
  cases hfault : pathFault? path with
  | some fault =>
      rw [hfault] at h
      cases h
  | none =>
      rw [hfault] at h
      exact findTargetFrom_of_follow hp (by rwa [List.append_nil])

/-- A path that leads to a file can be written, and then the data of that file is changed. -/
theorem exists_edit_of_lookUp_file {l : Location} {data : ByteArray} {runnable : Bool}
    (hlook : d.lookUp path = .ok (l, .file data runnable)) (change : ByteArray → ByteArray) :
    ∃ d', d.edit path change = .ok d' ∧
      d'.lookUp path = .ok (l, .file (change data) runnable) := by
  have hedit : d.edit path change = .ok (d.put l (.file (change data) runnable)) := by
    rw [edit, findTarget_of_find rfl (find_of_lookUp hlook)]
  refine ⟨_, hedit, ?_⟩
  cases edited_of_edit hedit with
  | replaced hbefore _ _ hafter =>
      cases hlook.symm.trans hbefore
      exact hafter
  | created hbefore | swallowed hbefore => cases hlook.symm.trans hbefore

end PipeShell.Disk
