import PipeShell.Proofs.Disk.Entries

/-!
# Following an entry of a directory

An entry of a directory can be followed from the directory itself, through as many links as it takes
(`Disk.LeadsToDirectory`).  It can also be looked up by its path, which is the path of the directory
with the name behind it.  Both come to the same (`lookUp_join`), but a path can be refused: it can
be too long, and all links on it count, those to the directory and those from the entry
(`Disk.IsRefused`).
-/

namespace PipeShell.Disk

variable {d : Disk} {followLast : Bool} {l l' : Location} {e e' : Entry} {path name : String}
  {links : Nat} {names front rest : List String}

/-! ## Walks in two parts -/

/-- How far a walk comes that has come this far and has more names to walk. -/
def Progress.goOn (d : Disk) (rest : List String) : Progress → Progress
  | done (.occupied l e) => d.advance true l e rest
  | done (.vacant l name) => if rest.isEmpty then done (.vacant l name) else failed .notFound
  | failed fault => failed fault
  | atLink l target names => atLink l target (names ++ rest)

/-- A walk goes on from where its first part has come to. -/
lemma advance_append (d : Disk) (l : Location) (e : Entry) (front rest : List String) :
    d.advance true l e (front ++ rest) = (d.advance true l e front).goOn d rest := by
  fun_induction advance d true l e front with
  | case1 => rfl
  | case2 l e name front hdir =>
      rw [List.cons_append, advance_cons_of_leaf (by simpa using hdir)]
      rfl
  | case3 l e front hdir ih => rw [List.cons_append, advance_dot_cons hdir, ih]
  | case4 l e front hdir hdot ih =>
      rw [List.cons_append, advance, if_neg hdir, if_neg hdot, if_pos rfl, ih]
  | case5 l e name front hdir hdot hup hlong =>
      rw [List.cons_append, advance, if_neg hdir, if_neg hdot, if_neg hup, if_pos hlong]
      rfl
  -- a missing entry is only excused as the last step of all, so it matters whether there is a rest
  | case6 l e name front hdir hdot hup hlong hnone hlast =>
      obtain rfl := List.isEmpty_iff.mp hlast
      rw [List.cons_append, advance, if_neg hdir, if_neg hdot, if_neg hup, if_neg hlong]
      simp only [hnone]
      rfl
  | case7 l e name front hdir hdot hup hlong hnone hlast =>
      rw [List.cons_append, advance, if_neg hdir, if_neg hdot, if_neg hup, if_neg hlong]
      simp only [hnone]
      rw [if_neg (by simp_all)]
      rfl
  | case8 l e name front hdir hdot hup hlong target hlink hlast => simp at hlast
  | case9 l e name front hdir hdot hup hlong target hlink hlast =>
      rw [List.cons_append, advance, if_neg hdir, if_neg hdot, if_neg hup, if_neg hlong]
      simp only [hlink]
      rw [if_neg (by simp)]
      rfl
  | case10 l e name front hdir hdot hup hlong e₁ hlink hentry ih =>
      rw [List.cons_append, advance_cons_of_entry hdir hdot hup hlong hentry hlink, ih]

/-- Searches that make the same walk to the next link come to the same. -/
lemma follow_eq_of_advance (hentry : d.entryAt? l = some e) (hentry' : d.entryAt? l' = some e')
    (h : d.advance followLast l e names = d.advance followLast l' e' rest) (links : Nat) :
    d.follow followLast links l names = d.follow followLast links l' rest := by
  unfold follow
  simp only [hentry, hentry', h]

/-- A search that has come to an entry goes on from there, with the links that are left. -/
theorem follow_append (h : d.follow true links l front = .ok (.occupied l' e'))
    (hentry' : d.entryAt? l' = some e') :
    ∃ left, ∀ rest, d.follow true links l (front ++ rest) = d.follow true left l' rest := by
  fun_induction follow d true links l front with
  | case2 links l front e hentry place hadvance =>
      cases h
      refine ⟨links, fun rest => follow_eq_of_advance hentry hentry' ?_ links⟩
      rw [advance_append, hadvance]
      rfl
  | case5 l front e hentry l₁ target names hadvance links ih =>
      obtain ⟨left, hleft⟩ := ih h
      refine ⟨left, fun rest => ?_⟩
      have hlink : d.advance true l e (front ++ rest) = .atLink l₁ target (names ++ rest) := by
        rw [advance_append, hadvance]
        rfl
      rw [follow_succ_of_atLink hentry hlink, ← List.append_assoc, hleft]
  | case1 | case3 | case4 => cases h

/-- More links make a difference only to a search that ran out of them. -/
theorem follow_add_links (h : d.follow followLast links l names ≠ .error .tooManyLinks)
    (more : Nat) :
    d.follow followLast (links + more) l names = d.follow followLast links l names := by
  fun_induction follow d followLast links l names with
  | case1 links l names hnone => exact follow_of_none hnone
  | case2 links l names e hentry place hadvance => exact follow_of_done hentry hadvance
  | case3 links l names e hentry fault hadvance => exact follow_of_failed hentry hadvance
  | case4 => exact absurd rfl h
  | case5 l names e hentry l₁ target rest hadvance links ih =>
      rw [Nat.succ_add, follow_succ_of_atLink hentry hadvance, ih h]

/-- A walk that came to a place did not fail for having too many links. -/
lemma ne_tooManyLinks_of_ok {p : Place} (h : d.follow followLast links l names = .ok p) :
    d.follow followLast links l names ≠ .error .tooManyLinks := by
  rw [h]
  nofun

/-- Searches with enough links come to the same, however many these are. -/
lemma follow_eq_of_enough {links' : Nat}
    (h : d.follow followLast links l names ≠ .error .tooManyLinks)
    (h' : d.follow followLast links' l names ≠ .error .tooManyLinks) :
    d.follow followLast links l names = d.follow followLast links' l names := by
  rw [← follow_add_links h links', Nat.add_comm, follow_add_links h' links]

/-! ## The path of an entry -/

/-- An occupied place is all that has an occupant. -/
lemma eq_of_occupant_eq_ok {found : Except Fault Place} (h : occupant found = .ok (l, e)) :
    found = .ok (.occupied l e) := by
  unfold occupant at h
  split at h <;> cases h
  rfl

/-- The steps of a path without its dots are the names that it is resolved by. -/
lemma filter_steps (path : String) : (steps path).filter (· ≠ ".") = Path.trail path := by
  unfold steps Path.trail
  split_ifs
  · rw [List.filter_append, List.filter_cons_of_neg (by simp), List.filter_nil, List.append_nil]
  · rfl

/-- A name that an entry can have brings no fault into the text of a path. -/
lemma textFault?_join (h : textFault? path = none) (hname : IsName name) :
    textFault? (Path.join path name) = none := by
  have hne := Path.join_ne_empty hname.ne_empty path
  have hzero : '\x00' ∉ (Path.join path name).toList := by
    have hpath := zero_not_mem_of_textFault? h
    have hname := hname.zero_not_mem
    unfold Path.join
    split_ifs <;> simp [hpath, hname]
  simp [textFault?, hzero, hne]

/-! ## What an entry leads to -/

/-- The entry `name` of the directory at `l` is a directory, or a link that leads to one, through
any number of links. -/
def LeadsToDirectory (d : Disk) (l : Location) (name : String) : Prop :=
  ∃ links l', d.follow true links l [name] = .ok (.occupied l' .directory)

/-- The system does not follow the path to its end: it is too long, or there are too many links. -/
def IsRefused (d : Disk) (path : String) : Prop :=
  d.lookUp path = .error .nameTooLong ∨ d.lookUp path = .error .tooManyLinks

/-- An entry that is a directory leads to one. -/
lemma leadsToDirectory_of_directory (hstands : d.entryAt? l = some .directory) (hname : IsName name)
    (hentry : d.entryAt? (l ++ [name]) = some .directory) : d.LeadsToDirectory l name := by
  refine ⟨0, l ++ [name], follow_of_done hstands ?_⟩
  rw [advance_cons_of_entry (by simp [Entry.isDirectory]) hname.ne_here hname.ne_up hname.short
    hentry nofun, advance]

section Directory

variable (hdir : d.lookUp path = .ok (l, .directory)) (hstands : d.entryAt? l = some .directory)
  (hname : IsName name)

include hdir hstands hname

/-- An entry of a directory is looked up by following it from there, with the links that the path of
the directory has left, unless the path of the entry is too long. -/
theorem lookUp_join :
    ∃ left, d.lookUp (Path.join path name) =
      if pathLimit ≤ (Path.join path name).utf8ByteSize then .error .nameTooLong
      else occupant (d.follow true left l [name]) := by
  have hfind := find_of_lookUp hdir
  unfold find findSteps pathFault? at hfind
  split at hfind
  · cases hfind
  · next hfault =>
    split at hfault
    · cases hfault
    · next htext =>
      obtain ⟨left, hleft⟩ := follow_append hfind hstands
      have hrelative := Path.isAbsolute_of_bare hname.slash_not_mem
      -- dots make no difference, so the steps are those to the directory, and then the name
      have hsearch : d.follow true linkLimit (start d.base (Path.join path name))
          (steps (Path.join path name)) = d.follow true left l [name] := by
        have hstart : start d.base (Path.join path name) = start d.base path := by
          rw [start, start, Path.isAbsolute_join hrelative]
        rw [hstart, ← follow_withoutDots, withoutDots_steps_join hname.slash_not_mem hname.ne_empty,
          ← filter_steps, ← withoutDots_concat, follow_withoutDots, hleft]
      refine ⟨left, ?_⟩
      rw [lookUp, find, findSteps, pathFault?, textFault?_join htext hname]
      split_ifs
      · rfl
      · simp only [hsearch]

/-- An entry whose path is found leads to a directory if its path does. -/
theorem leadsToDirectory_iff_of_lookUp
    (hlook : d.lookUp (Path.join path name) = .ok (l', e)) :
    d.LeadsToDirectory l name ↔ e.isDirectory = true := by
  obtain ⟨left, hleft⟩ := lookUp_join hdir hstands hname
  rw [hlook] at hleft
  split_ifs at hleft
  have hfollow : d.follow true left l [name] = .ok (.occupied l' e) :=
    eq_of_occupant_eq_ok hleft.symm
  constructor
  · rintro ⟨links, l₁, hlinks⟩
    have hsame := follow_eq_of_enough (ne_tooManyLinks_of_ok hfollow) (ne_tooManyLinks_of_ok hlinks)
    rw [hfollow, hlinks] at hsame
    cases hsame
    rfl
  · intro he
    cases e <;> first | exact ⟨left, l', hfollow⟩ | cases he

/-- An entry whose path is not found leads to no directory, unless the path was refused. -/
theorem not_leadsToDirectory_of_lookUp {fault : Fault}
    (hlook : d.lookUp (Path.join path name) = .error fault)
    (htaken : ¬ d.IsRefused (Path.join path name)) : ¬ d.LeadsToDirectory l name := by
  obtain ⟨left, hleft⟩ := lookUp_join hdir hstands hname
  split_ifs at hleft with hlong
  · exact absurd (.inl hleft) htaken
  · rintro ⟨links, l₁, hlinks⟩
    have henough : d.follow true left l [name] ≠ .error .tooManyLinks := by
      intro hran
      rw [hran] at hleft
      exact htaken (.inr hleft)
    have hsame := follow_eq_of_enough henough (ne_tooManyLinks_of_ok hlinks)
    rw [hsame, hlinks, hlook] at hleft
    cases hleft

end Directory

end PipeShell.Disk
