import PipeShell.Proofs.Disk.Walk

/-!
# What a write does

A write succeeds at a file, at a free name, or at a device (`wrote_of_edit`).  `Disk.Edited` lists
what it can have done there: it replaced the data of a file, made a new file, or was swallowed by a
device.  It did one of these (`edited_of_edit`).  Then the path leads to the new contents, unless it
leads to a device (`Edited.contents_or_device`), and nothing else has changed: a file that another
path leads to is as it was (`Edited.lookUp_file_of_not_sameFile`), and a path that led to nothing
still does (`Edited.lookUp_error_of_not_sameFile`).
-/

namespace PipeShell.Disk

variable {d d' : Disk} {path : String} {change : ByteArray → ByteArray}

/-- The place of a file to be written is where the path leads. -/
lemma follow_of_findTargetFrom {links : Nat} {l : Location} {path : String} {rest : List String}
    {p : Place} (h : d.findTargetFrom links l path rest = .ok p) :
    d.follow true links (start l path) (steps path ++ rest) = .ok p := by
  fun_induction findTargetFrom d links l path rest with
  | case1 links l path rest hslash =>
      cases hfollow : d.follow true links (start l path) ((Path.names path).dropLast ++ ["."]) with
      | error fault => simp [hfollow, Except.bind] at h
      | ok place => simp [hfollow, Except.bind] at h
  | case3 links l path rest hslash e hentry place hadvance =>
      cases h
      exact follow_of_done hentry hadvance
  | case6 l path rest hslash e hentry l' target rest' hadvance links ih =>
      rw [follow_succ_of_atLink hentry hadvance]
      exact ih h
  | case2 | case4 | case5 => cases h

/-- A place that can be written to is the one that the path leads to. -/
lemma find_of_findTarget {p : Place} (h : d.findTarget path = .ok p) : d.find path = .ok p := by
  unfold findTarget at h
  unfold find findSteps
  cases hfault : pathFault? path with
  | some fault =>
      rw [hfault] at h
      cases h
  | none =>
      rw [hfault] at h
      have hfollow := follow_of_findTargetFrom h
      rwa [List.append_nil] at hfollow

/-- The disk has at the place that was found what was found there. -/
lemma stands_of_find {p : Place} (h : d.find path = .ok p) : p.Stands d := by
  unfold find findSteps at h
  split at h
  · cases h
  · exact stands_of_follow h

/-- New contents can be put where a file stands. -/
lemma fits_of_file {l : Location} {data data' : ByteArray} {runnable runnable' : Bool}
    (hentry : d.entryAt? l = some (.file data runnable)) : d.Fits l (.file data' runnable') := by
  refine ⟨rfl, fun e he => ?_⟩
  cases hentry.symm.trans he
  rfl

/-- A file can be put where nothing stands. -/
lemma fits_of_free {l : Location} {data : ByteArray} {runnable : Bool}
    (hfree : d.entryAt? l = none) : d.Fits l (.file data runnable) := by
  refine ⟨rfl, fun e he => ?_⟩
  cases hfree.symm.trans he

/-- What a search finds to be there is what is looked up. -/
lemma lookUp_of_find {l : Location} {e : Entry} (hfind : d.find path = .ok (.occupied l e)) :
    d.lookUp path = .ok (l, e) := by
  rw [lookUp, hfind]
  rfl

/-- The places at which a write can succeed, and what it did there. -/
inductive Wrote (d : Disk) (path : String) (change : ByteArray → ByteArray) (d' : Disk) : Prop
  | file {l : Location} {data : ByteArray} {runnable : Bool}
      (hfind : d.find path = .ok (.occupied l (.file data runnable)))
      (hentry : d.entryAt? l = some (.file data runnable))
      (hput : d' = d.put l (.file (change data) runnable))
  | free {l : Location} {name : String} (hfind : d.find path = .ok (.vacant l name))
      (hfree : d.entryAt? (l ++ [name]) = none)
      (hput : d' = d.put (l ++ [name]) (.file (change .empty) false))
  | device {l : Location} {kind : Device}
      (hfind : d.find path = .ok (.occupied l (.device kind))) (hsame : d' = d)

/-- A write succeeds at no other place. -/
theorem wrote_of_edit (h : d.edit path change = .ok d') : d.Wrote path change d' := by
  unfold edit at h
  cases hplace : d.findTarget path with
  | error fault => simp [hplace] at h
  | ok p =>
      have hfind := find_of_findTarget hplace
      have hstands := stands_of_find hfind
      cases p with
      | vacant l name =>
          simp only [hplace, Except.ok.injEq] at h
          exact .free hfind hstands h.symm
      | occupied l e =>
          cases e with
          | directory | link | program => simp [hplace] at h
          | device kind =>
              have hsame : d' = d := by
                cases kind <;> simp only [hplace] at h
                case full =>
                  split at h
                  · cases h; rfl
                  · cases h
                all_goals cases h; rfl
              exact .device hfind hsame
          | file data runnable =>
              simp only [hplace, Except.ok.injEq] at h
              have hentry : d.entryAt? l = some (.file data runnable) := by
                simpa [Place.Stands, Entry.isDirectory] using hstands
              exact .file hfind hentry h.symm

/-- What a write to `path` can have done. -/
inductive Edited (d : Disk) (path : String) (change : ByteArray → ByteArray) (d' : Disk) : Prop
  /-- The data of the file there is changed, and nothing else. -/
  | replaced {l : Location} {data : ByteArray} {runnable : Bool}
      (hbefore : d.lookUp path = .ok (l, .file data runnable))
      (hfits : d.Fits l (.file (change data) runnable))
      (hput : d' = d.put l (.file (change data) runnable))
      (hafter : d'.lookUp path = .ok (l, .file (change data) runnable))
  /-- There is a new file, and nothing else is changed. -/
  | created {l : Location} (hbefore : d.lookUp path = .error .notFound)
      (hfits : d.Fits l (.file (change .empty) false))
      (hput : d' = d.put l (.file (change .empty) false))
      (hafter : d'.lookUp path = .ok (l, .file (change .empty) false))
  /-- A device took the bytes, and nothing is changed. -/
  | swallowed {l : Location} {kind : Device} (hbefore : d.lookUp path = .ok (l, .device kind))
      (hsame : d' = d)

/-- A write that succeeded has done one of the things of `Edited`. -/
theorem edited_of_edit (h : d.edit path change = .ok d') : d.Edited path change d' := by
  cases wrote_of_edit h with
  | @file l data runnable hfind hentry hput =>
      subst hput
      have hbefore := lookUp_of_find hfind
      have hfits : d.Fits l (.file (change data) runnable) := fits_of_file hentry
      exact .replaced hbefore hfits rfl (hfits.lookUp_put_self hbefore rfl)
  | @free l name hfind hfree hput =>
      subst hput
      have hfits : d.Fits (l ++ [name]) (.file (change .empty) false) := fits_of_free hfree
      have hbefore : d.lookUp path = .error .notFound := by rw [lookUp, hfind]; rfl
      exact .created hbefore hfits rfl (hfits.lookUp_put_of_find hfind rfl rfl)
  | device hfind hsame => exact .swallowed (lookUp_of_find hfind) hsame

/-- Looking up a path at which there is nothing fails. -/
lemma exists_fault_of_absent (h : d.pathExists path = false) :
    ∃ fault, d.lookUp path = .error fault := by
  unfold pathExists at h
  cases hlook : d.lookUp path with
  | error fault => exact ⟨fault, rfl⟩
  | ok found => simp [hlook] at h

/-! ## The file that was written -/

/-- What a file holds; nothing where there is none. -/
def contents (d : Disk) (path : String) : ByteArray :=
  (d.readBytes path).toOption.getD .empty

/-- Unless a device took the bytes, the path leads to a location that has the changed contents, and
all other locations are as before. -/
theorem Edited.contents_or_device (h : d.Edited path change d') :
    (∃ l, d'.readBytes path = .ok (change (d.contents path)) ∧
      (∃ e, d'.lookUp path = .ok (l, e)) ∧ ∀ l' ≠ l, d'.entryAt? l' = d.entryAt? l') ∨
    ((∃ l kind, d.lookUp path = .ok (l, .device kind)) ∧ d' = d) := by
  cases h with
  | @replaced l data runnable hbefore hfits hput hafter =>
      have hold : d.contents path = data := by simp [contents, readBytes, hbefore, Except.toOption]
      refine .inl ⟨l, by rw [readBytes, hafter, hold], ⟨_, hafter⟩, fun l' hl' => ?_⟩
      rw [hput, hfits.entryAt?_put_of_ne hl']
  | @created l hbefore hfits hput hafter =>
      have hold : d.contents path = .empty := by
        simp [contents, readBytes, hbefore, Except.toOption]
      refine .inl ⟨l, by rw [readBytes, hafter, hold], ⟨_, hafter⟩, fun l' hl' => ?_⟩
      rw [hput, hfits.entryAt?_put_of_ne hl']
  | swallowed hbefore hsame => exact .inr ⟨⟨_, _, hbefore⟩, hsame⟩

/-! ## Other files -/

/-- The two paths lead to one file. -/
def SameFile (d : Disk) (path path' : String) : Prop :=
  ∃ l e e', d.lookUp path = .ok (l, e) ∧ d.lookUp path' = .ok (l, e')

variable {other : String}

/-- A write leaves every other file as it was. -/
lemma Edited.lookUp_file_of_not_sameFile {l : Location} {data : ByteArray} {runnable : Bool}
    (h : d.Edited path change d') (hother : ¬ d'.SameFile other path)
    (hlook : d.lookUp other = .ok (l, .file data runnable)) :
    d'.lookUp other = .ok (l, .file data runnable) := by
  cases h with
  | @replaced l₀ _ _ _ hfits hput hafter | @created l₀ _ hfits hput hafter =>
      subst hput
      by_cases hl : l = l₀
      · subst hl
        exact absurd ⟨l, _, _, hfits.lookUp_put_self hlook rfl, hafter⟩ hother
      · exact hfits.lookUp_put_of_ne hlook hl
  | swallowed _ hsame =>
      subst hsame
      exact hlook

/-- A write makes no file but the one that is written. -/
lemma Edited.lookUp_error_of_not_sameFile {fault : Fault} (h : d.Edited path change d')
    (hother : ¬ d'.SameFile other path) (hlook : d.lookUp other = .error fault) :
    ∃ fault', d'.lookUp other = .error fault' := by
  cases h with
  | replaced _ hfits hput hafter | created _ hfits hput hafter =>
      subst hput
      rcases hfits.lookUp_put_of_error hlook with herror | hat
      · exact herror
      · exact absurd ⟨_, _, _, hat, hafter⟩ hother
  | swallowed _ hsame =>
      subst hsame
      exact ⟨fault, hlook⟩

end PipeShell.Disk
