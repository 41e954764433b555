import PipeShell.Proofs.Disk.Edit

/-!
# What a write leaves alone

A file is written through a path (`Disk.edit`) or while it is held open (`Disk.editOpen`).  In both
cases nothing happens, or a file is put at one location: a new one that may not be run, or one with
the permission that it had before (`Disk.WrittenAt`).  So every other location is as it was
(`WrittenAt.entryAt?_of_ne`), a path that led somewhere leads there still (`WrittenAt.lookUp`), and
the programs are the same as before (`WrittenAt.isRunnable_eq`).
-/

namespace PipeShell.Disk

variable {d d' : Disk} {l : Location} {path : String} {change : ByteArray → ByteArray}

/-- The entry at the location may be run, if there is one. -/
def runnableAt (d : Disk) (l : Location) : Bool :=
  ((d.entryAt? l).map Entry.isRunnable).getD false

/-- The disk `d'` is `d`, but for a file at the location `l` that was written. -/
inductive WrittenAt (d : Disk) (l : Location) : Disk → Prop
  | same : WrittenAt d l d
  | put {data : ByteArray} {runnable : Bool} (hfits : d.Fits l (.file data runnable))
      (hrunnable : d.runnableAt l = runnable) : WrittenAt d l (d.put l (.file data runnable))

/-! ## The two ways to write -/

/-- A file can be written where a file stands. -/
lemma writtenAt_put_of_file {data data' : ByteArray} {runnable : Bool}
    (hentry : d.entryAt? l = some (.file data runnable)) :
    d.WrittenAt l (d.put l (.file data' runnable)) := by
  refine .put (fits_of_file hentry) ?_
  rw [runnableAt, hentry]
  rfl

/-- A file can be written where nothing stands. -/
lemma writtenAt_put_of_free {data : ByteArray} (hfree : d.entryAt? l = none) :
    d.WrittenAt l (d.put l (.file data false)) := by
  refine .put (fits_of_free hfree) ?_
  rw [runnableAt, hfree]
  rfl

/-- Writing through a path writes at the location that the path then leads to. -/
theorem writtenAt_of_edit (h : d.edit path change = .ok d') :
    ∃ l, d.WrittenAt l d' ∧ ∃ e, d'.lookUp path = .ok (l, e) := by
  cases wrote_of_edit h with
  | @file l data runnable hfind hentry hput =>
      subst hput
      exact ⟨l, writtenAt_put_of_file hentry, _,
        (fits_of_file hentry).lookUp_put_self (lookUp_of_find hfind) rfl⟩
  | @free l name hfind hfree hput =>
      subst hput
      exact ⟨l ++ [name], writtenAt_put_of_free hfree, _,
        (fits_of_free hfree).lookUp_put_of_find hfind rfl rfl⟩
  | @device l kind hfind hsame =>
      subst hsame
      exact ⟨l, .same, _, lookUp_of_find hfind⟩

/-- Writing a file that is held open writes at its location. -/
theorem writtenAt_editOpen (d : Disk) (f : OpenFile) (change : ByteArray → ByteArray) :
    d.WrittenAt f.location (d.editOpen f change) := by
  unfold editOpen
  split
  · split
    · next hentry => exact writtenAt_put_of_file hentry
    · exact .same
  · exact .same

/-! ## What is left alone -/

namespace WrittenAt

/-- Other locations are as they were. -/
theorem entryAt?_of_ne (h : d.WrittenAt l d') {l' : Location} (hl : l' ≠ l) :
    d'.entryAt? l' = d.entryAt? l' := by
  cases h with
  | same => rfl
  | put hfits _ => exact hfits.entryAt?_put_of_ne hl

/-- A path leads to the location that it led to. -/
theorem lookUp (h : d.WrittenAt l d') {l' : Location} {e : Entry}
    (hlook : d.lookUp path = .ok (l', e)) : ∃ e', d'.lookUp path = .ok (l', e') := by
  cases h with
  | same => exact ⟨e, hlook⟩
  | put hfits _ => exact hfits.lookUp_put hlook

end WrittenAt

/-- What may be run at the place that was found. -/
def placeRunnable : Except Fault Place → Bool
  | .ok (.occupied _ e) => e.isRunnable
  | .ok (.vacant _ _) => false
  | .error _ => false

/-- Whether a path may be run is seen from the place that it leads to. -/
lemma isRunnable_eq_placeRunnable (d : Disk) (path : String) :
    d.isRunnable path = placeRunnable (d.find path) := by
  unfold isRunnable Disk.lookUp
  rcases d.find path with fault | ⟨l, e⟩ | ⟨l, name⟩ <;> rfl

/-- A place at which a file is put can be run as before. -/
lemma placeRunnable_rewritten {p : Place} (hstands : p.Stands d) {data : ByteArray}
    {runnable : Bool} (hrunnable : d.runnableAt l = runnable) :
    placeRunnable (.ok (p.rewritten l (.file data runnable))) = placeRunnable (.ok p) := by
  unfold Place.rewritten
  split_ifs with hat
  · obtain ⟨rfl, hleaf⟩ := hat
    cases p with
    | occupied l e =>
        have hentry : d.entryAt? l = some e :=
          hstands.resolve_left fun hdir => Bool.noConfusion (hdir.symm.trans hleaf)
        change runnable = e.isRunnable
        simp only [← hrunnable, runnableAt, Place.location, hentry, Option.map_some,
          Option.getD_some]
    | vacant l name =>
        have hnone : d.entryAt? (l ++ [name]) = none := hstands
        change runnable = false
        simp only [← hrunnable, runnableAt, Place.location, hnone, Option.map_none,
          Option.getD_none]
  · rfl

/-- The programs are the same as before. -/
theorem WrittenAt.isRunnable_eq (h : d.WrittenAt l d') (path : String) :
    d'.isRunnable path = d.isRunnable path := by
  cases h with
  | same => rfl
  | @put data runnable hfits hrunnable =>
      rw [isRunnable_eq_placeRunnable, isRunnable_eq_placeRunnable]
      have hfind := hfits.find_put path
      cases hplace : d.find path with
      | ok p =>
          rw [hplace] at hfind
          rw [hfind.eq_ok]
          exact placeRunnable_rewritten (stands_of_find hplace) hrunnable
      | error fault =>
          rw [hplace] at hfind
          cases hentry : d.entryAt? l with
          | some e =>
              obtain ⟨fault', hfault⟩ := hfits.find_put_error hentry hplace
              rw [hfault]
              rfl
          | none =>
              -- the path may lead to the new file, which cannot be run
              have hrun : runnable = false := by
                rw [← hrunnable, runnableAt, hentry]
                rfl
              rcases hfind with ⟨fault', hfault⟩ | hnew
              · rw [hfault]
                rfl
              · rw [hnew, hrun]
                rfl

end PipeShell.Disk
