import PipeShell.Proofs.Disk.Walk
import PipeShell.Proofs.Path.Components

/-!
# Paths with the same components

A `.` on the way leads nowhere: a walk comes out the same without the dots that other steps follow
(`follow_withoutDots`).  A dot at the end is another matter, since the path then has to lead to a
directory, and so is a slash at the end.

Therefore paths with the same components that end in the same name lead to the same entry, however
their directories are written (`lookUp_join_congr`), as long as the system takes both paths at all:
it refuses those that are too long.
-/

namespace PipeShell.Disk

variable {d : Disk} {followLast : Bool}

/-! ## Dots on the way -/

/-- Steps without the dots that other steps follow. -/
def withoutDots : List String → List String
  | [] => []
  | s :: rest => if s = "." ∧ rest ≠ [] then withoutDots rest else s :: withoutDots rest

variable {s name : String} {ss rest names : List String}

/-- A step that is no dot stays. -/
lemma withoutDots_cons_of_ne (hs : s ≠ ".") (rest : List String) :
    withoutDots (s :: rest) = s :: withoutDots rest := by
  rw [withoutDots, if_neg fun h => hs h.1]

/-- A dot that is followed by a step is left out. -/
lemma withoutDots_dot_cons (hrest : rest ≠ []) : withoutDots ("." :: rest) = withoutDots rest := by
  rw [withoutDots, if_pos ⟨rfl, hrest⟩]

/-- A step on its own stays, even if it is a dot. -/
lemma withoutDots_singleton (s : String) : withoutDots [s] = [s] := by
  rw [withoutDots, if_neg fun h => h.2 rfl, withoutDots]

/-- The last step stays. -/
@[simp] lemma withoutDots_eq_nil_iff : withoutDots ss = [] ↔ ss = [] := by
  fun_induction withoutDots ss with
  | case1 => rfl
  | case2 s rest hdot ih => simp [ih, hdot.2]
  | case3 s rest hkept ih => simp

/-- Leaving the dots out twice is leaving them out. -/
lemma withoutDots_withoutDots (ss : List String) :
    withoutDots (withoutDots ss) = withoutDots ss := by
  fun_induction withoutDots ss with
  | case1 => rfl
  | case2 s rest hdot ih => exact ih
  | case3 s rest hkept ih =>
      rw [withoutDots, if_neg (by simpa using hkept), ih]

/-- The dots of the last steps can be left out first. -/
lemma withoutDots_append (front ss : List String) :
    withoutDots (front ++ withoutDots ss) = withoutDots (front ++ ss) := by
  induction front with
  | nil => exact withoutDots_withoutDots ss
  | cons s front ih =>
      have hrest : front ++ withoutDots ss ≠ [] ↔ front ++ ss ≠ [] := by simp
      rw [List.cons_append, List.cons_append, withoutDots, withoutDots, ih]
      simp only [hrest]

/-- Before a last step all dots go. -/
lemma withoutDots_concat (ss : List String) (s : String) :
    withoutDots (ss ++ [s]) = ss.filter (· ≠ ".") ++ [s] := by
  induction ss with
  | nil => simp [withoutDots]
  | cons t ss ih =>
      rw [List.cons_append]
      by_cases ht : t = "."
      · subst ht
        rw [withoutDots_dot_cons (by simp), ih, List.filter_cons_of_neg (by simp)]
      · rw [withoutDots_cons_of_ne ht, ih, List.filter_cons_of_pos (by simpa using ht),
          List.cons_append]

/-! ## Walks without dots -/

/-- How far the walk without dots comes. -/
def Progress.withoutDots : Progress → Progress
  | atLink l target rest => atLink l target (Disk.withoutDots rest)
  | p => p

/-- In a directory, a walk takes a dot without moving. -/
lemma advance_dot_cons {e : Entry} (hdir : ¬(!e.isDirectory) = true) (l : Location)
    (rest : List String) :
    d.advance followLast l e ("." :: rest) = d.advance followLast l e rest := by
  rw [advance, if_neg hdir, if_pos rfl]

/-- Up to the next link, dots make no difference. -/
lemma advance_withoutDots (d : Disk) (followLast : Bool) (l : Location) (e : Entry)
    (names : List String) :
    d.advance followLast l e (withoutDots names) =
      (d.advance followLast l e names).withoutDots := by
  fun_induction advance d followLast l e names with
  | case1 => rfl
  | case2 l e name rest hdir =>
      obtain ⟨s, names, hnames⟩ := List.exists_cons_of_ne_nil
        (mt withoutDots_eq_nil_iff.mp (List.cons_ne_nil name rest))
      rw [hnames, advance_cons_of_leaf (by simpa using hdir)]
      rfl
  -- a dot goes away, but one at the end stays: it asks for a directory
  | case3 l e rest hdir ih =>
      cases rest with
      | nil =>
          rw [withoutDots_singleton, advance_dot_cons hdir]
          exact ih
      | cons s rest => rw [withoutDots_dot_cons (List.cons_ne_nil s rest), ih]
  | case4 l e rest hdir hdot ih =>
      rw [withoutDots_cons_of_ne hdot, advance, if_neg hdir, if_neg hdot, if_pos rfl, ih]
  | case5 l e name rest hdir hdot hup hlong =>
      rw [withoutDots_cons_of_ne hdot, advance, if_neg hdir, if_neg hdot, if_neg hup, if_pos hlong]
      rfl
  | case6 l e name rest hdir hdot hup hlong hnone hlast =>
      obtain rfl := List.isEmpty_iff.mp hlast
      rw [withoutDots_cons_of_ne hdot, advance, if_neg hdir, if_neg hdot, if_neg hup, if_neg hlong]
      simp only [hnone]
      rfl
  | case7 l e name rest hdir hdot hup hlong hnone hlast =>
      rw [withoutDots_cons_of_ne hdot, advance, if_neg hdir, if_neg hdot, if_neg hup, if_neg hlong]
      simp only [hnone]
      rw [if_neg (by simpa using hlast)]
      rfl
  | case8 l e name rest hdir hdot hup hlong target hlink hlast =>
      obtain ⟨hrest, hfollow⟩ := Bool.and_eq_true_iff.mp hlast
      obtain rfl := List.isEmpty_iff.mp hrest
      rw [withoutDots_cons_of_ne hdot, advance, if_neg hdir, if_neg hdot, if_neg hup, if_neg hlong]
      simp only [hlink]
      exact if_pos hlast
  -- the walk stops at a link with steps left, and these lose their dots as well
  | case9 l e name rest hdir hdot hup hlong target hlink hlast =>
      rw [withoutDots_cons_of_ne hdot, advance, if_neg hdir, if_neg hdot, if_neg hup, if_neg hlong]
      simp only [hlink]
      rw [if_neg (by simpa using hlast)]
      rfl
  | case10 l e name rest hdir hdot hup hlong e' hlink hentry ih =>
      rw [withoutDots_cons_of_ne hdot, advance_cons_of_entry hdir hdot hup hlong hentry hlink, ih]

/-- Dots on the way make no difference, if they make none behind the next link. -/
lemma follow_withoutDots_of (links : Nat) (l : Location) (names : List String)
    (hlink : ∀ k l' target rest, links = k + 1 →
      d.follow followLast k (start l' target) (steps target ++ withoutDots rest) =
        d.follow followLast k (start l' target) (steps target ++ rest)) :
    d.follow followLast links l (withoutDots names) = d.follow followLast links l names := by
  cases hentry : d.entryAt? l with
  | none => rw [follow_of_none hentry, follow_of_none hentry]
  | some e =>
      have hwalk := advance_withoutDots d followLast l e names
      cases hadvance : d.advance followLast l e names with
      | done p =>
          rw [hadvance] at hwalk
          rw [follow_of_done hentry hwalk, follow_of_done hentry hadvance]
      | failed fault =>
          rw [hadvance] at hwalk
          rw [follow_of_failed hentry hwalk, follow_of_failed hentry hadvance]
      | atLink l' target rest =>
          rw [hadvance] at hwalk
          cases links with
          | zero =>
              rw [follow_zero_of_atLink hentry hwalk, follow_zero_of_atLink hentry hadvance]
          | succ k =>
              rw [follow_succ_of_atLink hentry hwalk, follow_succ_of_atLink hentry hadvance]
              exact hlink k l' target rest rfl

/-- Dots on the way make no difference, through any number of links. -/
theorem follow_withoutDots (d : Disk) (followLast : Bool) (links : Nat) (l : Location)
    (names : List String) :
    d.follow followLast links l (withoutDots names) = d.follow followLast links l names := by
  -- on the links: behind one the target comes first, and then what is left of the steps
  induction links generalizing l names with
  | zero => exact follow_withoutDots_of 0 l names nofun
  | succ links ih =>
      apply follow_withoutDots_of
      rintro k l' target rest ⟨⟩
      rw [← ih, withoutDots_append, ih]

/-! ## Names in directories with the same components -/

/-- A name in a directory is the last step on its path. -/
lemma withoutDots_steps_join (hslash : '/' ∉ name.toList) (hname : name ≠ "") (dir : String) :
    withoutDots (steps (Path.join dir name)) = Path.trail dir ++ [name] := by
  have hends := Path.endsWithSlash_join_of_bare hslash hname dir
  have hrelative := Path.isAbsolute_of_bare hslash
  rw [steps, if_neg (by simp [hends]), Path.names_join hrelative,
    Path.names_of_bare hslash hname, withoutDots_concat]
  rfl

/-- Paths with the same components that end in the same name lead to the same entry, however their
directories are written, as long as the system takes both paths. -/
theorem lookUp_join_congr (d : Disk) {dir dir' : String} (hslash : '/' ∉ name.toList)
    (hname : name ≠ "") (hsame : Path.same (Path.join dir name) (Path.join dir' name) = true)
    (hfault : pathFault? (Path.join dir name) = none)
    (hfault' : pathFault? (Path.join dir' name) = none) :
    d.lookUp (Path.join dir name) = d.lookUp (Path.join dir' name) := by
  obtain ⟨horigin, htrail⟩ := Path.same_iff.mp hsame
  have hrelative := Path.isAbsolute_of_bare hslash
  have hstart : start d.base (Path.join dir name) = start d.base (Path.join dir' name) := by
    rw [start, start, Path.isAbsolute_eq_of_origin horigin]
  have hdirs : Path.trail dir = Path.trail dir' := by
    rw [Path.trail_join hrelative, Path.trail_join hrelative] at htrail
    exact List.append_cancel_right htrail
  have hfind : d.find (Path.join dir name) = d.find (Path.join dir' name) := by
    simp only [find, findSteps, hfault, hfault']
    rw [← follow_withoutDots, withoutDots_steps_join hslash hname, hstart, hdirs,
      ← withoutDots_steps_join hslash hname, follow_withoutDots]
  rw [lookUp, hfind, lookUp]

end PipeShell.Disk
