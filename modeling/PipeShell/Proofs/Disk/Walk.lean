import PipeShell.Disk.Access
import Mathlib.Tactic.Common

/-!
# Walks over a disk to which an entry was written

Two questions about finding paths.  Where does a walk end: at an entry that stands there, or at a
name that is free (`stands_of_follow`).  And what becomes of the walks when an entry is put at a
location (`Disk.Fits`): those that end there come to the new entry, and all others end as before
(`follow_put`).  Both are shown for the steps up to the next link, `Disk.advance`, and then, by
induction on the links, for `Disk.follow`.

The consequences for looking up a path are `lookUp_put_of_ne`, `lookUp_put_self` and
`lookUp_put_of_error`.
-/

namespace PipeShell

/-- Neither a directory nor a link, so that a path can only end there. -/
def Entry.isLeaf : Entry → Bool
  | directory => false
  | link _ => false
  | _ => true

/-- A leaf is no directory. -/
lemma Entry.isDirectory_of_isLeaf {e : Entry} (h : e.isLeaf = true) : e.isDirectory = false := by
  cases e <;> first | rfl | cases h

/-- A leaf is no link. -/
lemma Entry.ne_link_of_isLeaf {e : Entry} (h : e.isLeaf = true) (target : String) :
    e ≠ .link target := by
  rintro rfl
  cases h

namespace Place

/-- Where the entry stands, or where one could. -/
def location : Place → Location
  | occupied l _ => l
  | vacant l name => l ++ [name]

/-- A directory stands there. -/
def isDirectory : Place → Bool
  | occupied _ e => e.isDirectory
  | vacant _ _ => false

/-- The place once `e₀` stands at the location `l₀`. -/
def rewritten (l₀ : Location) (e₀ : Entry) (p : Place) : Place :=
  if p.location = l₀ ∧ p.isDirectory = false then occupied l₀ e₀ else p

/-- The disk has at the place what the place says.  Of a directory nothing is said: a walk can come
to one from below. -/
def Stands (d : Disk) : Place → Prop
  | occupied l e => e.isDirectory = true ∨ d.entryAt? l = some e
  | vacant l name => d.entryAt? (l ++ [name]) = none

end Place

namespace Disk

variable {d : Disk} {followLast : Bool}

/-! ## Where walks end -/

/-- A walk cannot go on from what is no directory. -/
lemma advance_cons_of_leaf {e : Entry} (h : e.isDirectory = false) (l : Location) (name : String)
    (rest : List String) :
    d.advance followLast l e (name :: rest) = .failed .notADirectory := by
  simp [advance, h]

/-- A walk goes on with an entry that is no link. -/
lemma advance_cons_of_entry {e e' : Entry} {l : Location} {name : String} {rest : List String}
    (hdir : ¬(!e.isDirectory) = true) (hdot : ¬name = ".") (hup : ¬name = "..")
    (hlong : ¬longestName < name.utf8ByteSize) (hentry : d.entryAt? (l ++ [name]) = some e')
    (hlink : ∀ target, e' ≠ .link target) :
    d.advance followLast l e (name :: rest) = d.advance followLast (l ++ [name]) e' rest := by
  rw [advance, if_neg hdir, if_neg hdot, if_neg hup, if_neg hlong]
  cases e' with
  | link target => exact absurd rfl (hlink target)
  | directory | file | device | program => simp only [hentry]

/-- A walk ends at what stands there, if it starts so. -/
lemma stands_of_advance {names : List String} {l : Location} {e : Entry} {p : Place}
    (hl : e.isDirectory = true ∨ d.entryAt? l = some e)
    (h : d.advance followLast l e names = .done p) : p.Stands d := by
  fun_induction advance d followLast l e names with
  | case1 =>
      cases h
      exact hl
  | case3 l e rest hdir ih => exact ih hl h
  | case4 l e rest hdir hdot ih => exact ih (.inl (by simpa using hdir)) h
  | case6 l e name rest hdir hdot hup hlong hnone hlast =>
      cases h
      exact hnone
  | case8 l e name rest hdir hdot hup hlong target hlink hlast =>
      cases h
      exact .inr hlink
  | case10 l e name rest hdir hdot hup hlong e' hlink hentry ih => exact ih (.inr hentry) h
  | case2 | case5 | case7 | case9 => cases h

/-- A path is found at what stands there. -/
theorem stands_of_follow {links : Nat} {l : Location} {names : List String} {p : Place}
    (h : d.follow followLast links l names = .ok p) : p.Stands d := by
  fun_induction follow d followLast links l names with
  | case2 links l names e hentry place hadvance =>
      cases h
      exact stands_of_advance (.inr hentry) hadvance
  | case5 l names e hentry l' target rest hadvance links ih => exact ih h
  | case1 | case3 | case4 => cases h

/-! ## The steps of a search -/

section Steps

variable {links : Nat} {l : Location} {names : List String} {e : Entry}

/-- Nothing is found from a location where nothing stands. -/
lemma follow_of_none (hnone : d.entryAt? l = none) :
    d.follow followLast links l names = .error .notFound := by
  unfold follow
  simp only [hnone]

/-- A walk that is done has found its place. -/
lemma follow_of_done {p : Place} (hentry : d.entryAt? l = some e)
    (h : d.advance followLast l e names = .done p) :
    d.follow followLast links l names = .ok p := by
  unfold follow
  simp only [hentry, h]

/-- A walk that fails has found nothing. -/
lemma follow_of_failed {fault : Fault} (hentry : d.entryAt? l = some e)
    (h : d.advance followLast l e names = .failed fault) :
    d.follow followLast links l names = .error fault := by
  unfold follow
  simp only [hentry, h]

/-- No link is followed when none is left to follow. -/
lemma follow_zero_of_atLink {l' : Location} {target : String} {rest : List String}
    (hentry : d.entryAt? l = some e)
    (h : d.advance followLast l e names = .atLink l' target rest) :
    d.follow followLast 0 l names = .error .tooManyLinks := by
  unfold follow
  simp only [hentry, h]

/-- A link is followed by its steps, with those behind it still to go. -/
lemma follow_succ_of_atLink {l' : Location} {target : String} {rest : List String}
    (hentry : d.entryAt? l = some e)
    (h : d.advance followLast l e names = .atLink l' target rest) :
    d.follow followLast (links + 1) l names =
      d.follow followLast links (start l' target) (steps target ++ rest) := by
  rw [follow]
  simp only [hentry, h]

end Steps

/-! ## Walks after an entry was put

A walk looks up every name once and goes on from a directory only.  A leaf that is put at `l₀` can
therefore change a walk at its last name; on the way there it makes a walk fail that failed before,
for want of an entry or of a directory.  Going up is different, because `..` looks nothing up: a
walk can hold a directory at `l₀` whatever the disk has there.  Such a walk is the same before and
after, and so `Place.rewritten` leaves directories alone. -/

/-- `e₀` can be put at the location `l₀` without any other location being touched: no directory or
link stands there, and `e₀` is none. -/
structure Fits (d : Disk) (l₀ : Location) (e₀ : Entry) : Prop where
  isLeaf : e₀.isLeaf = true
  isLeaf_of_entryAt? : ∀ e, d.entryAt? l₀ = some e → e.isLeaf = true

variable {l₀ : Location} {e₀ : Entry}

/-- Nothing fits at the root. -/
lemma Fits.ne_nil (h : d.Fits l₀ e₀) : l₀ ≠ [] := by
  rintro rfl
  exact Bool.noConfusion (h.isLeaf_of_entryAt? .directory rfl)

/-- What fits is no link. -/
lemma Fits.ne_link (h : d.Fits l₀ e₀) (target : String) : e₀ ≠ .link target :=
  Entry.ne_link_of_isLeaf h.isLeaf target

/-- What was put at the location stands there. -/
lemma Fits.entryAt?_put_self (h : d.Fits l₀ e₀) : (d.put l₀ e₀).entryAt? l₀ = some e₀ := by
  rw [entryAt?_put d h.ne_nil, if_pos rfl]

/-- At all other locations the disk is as it was. -/
lemma Fits.entryAt?_put_of_ne (h : d.Fits l₀ e₀) {l : Location} (hl : l ≠ l₀) :
    (d.put l₀ e₀).entryAt? l = d.entryAt? l := by
  rw [entryAt?_put d h.ne_nil, if_neg hl]

/-- Links stand elsewhere. -/
lemma Fits.ne_of_link (h : d.Fits l₀ e₀) {l : Location} {target : String}
    (hlink : d.entryAt? l = some (.link target)) : l ≠ l₀ := by
  rintro rfl
  exact Bool.noConfusion (h.isLeaf_of_entryAt? _ hlink)

/-- How a walk comes out once `e₀` stands at `l₀`, when it came out like this before. -/
def Progress.Rewritten (l₀ : Location) (e₀ : Entry) : Progress → Progress → Prop
  | done p, after => after = done (p.rewritten l₀ e₀)
  | failed _, after => ∃ fault, after = failed fault
  | atLink l target rest, after => after = atLink l target rest

/-- A walk that was done at the location now ends at the new entry. -/
lemma Progress.rewritten_at {p : Place} (hl : p.location = l₀) (hp : p.isDirectory = false) :
    (done p).Rewritten l₀ e₀ (done (.occupied l₀ e₀)) :=
  congrArg done (if_pos ⟨hl, hp⟩).symm

/-- A walk that was done anywhere else ends there still. -/
lemma Progress.rewritten_elsewhere {p : Place} (h : p.isDirectory = true ∨ p.location ≠ l₀) :
    (done p).Rewritten l₀ e₀ (done p) := by
  refine congrArg done (if_neg ?_).symm
  rintro ⟨hl, hp⟩
  rcases h with hdir | hne
  · exact Bool.noConfusion (hp.symm.trans hdir)
  · exact hne hl

/-- A walk that has stepped onto `l₀` ends there or fails. -/
lemma Fits.advance_onto (h : d.Fits l₀ e₀) {e : Entry} (he : e.isLeaf = true)
    (rest : List String) :
    (d.advance followLast l₀ e rest).Rewritten l₀ e₀
      ((d.put l₀ e₀).advance followLast l₀ e₀ rest) := by
  have hdir := Entry.isDirectory_of_isLeaf he
  have hdir₀ := Entry.isDirectory_of_isLeaf h.isLeaf
  cases rest with
  | nil => exact Progress.rewritten_at rfl hdir
  | cons name rest =>
      rw [advance_cons_of_leaf hdir, advance_cons_of_leaf hdir₀]
      exact ⟨_, rfl⟩

/-- A walk comes to `e₀` where it ended at `l₀` before, and ends as before where it did not. -/
lemma Fits.advance_put (h : d.Fits l₀ e₀) {l : Location} {e : Entry} {names : List String}
    (hl : e.isDirectory = true ∨ l ≠ l₀) :
    (d.advance followLast l e names).Rewritten l₀ e₀
      ((d.put l₀ e₀).advance followLast l e names) := by
  fun_induction advance d followLast l e names with
  | case1 l e => exact Progress.rewritten_elsewhere hl
  | case2 l e name rest hdir =>
      rw [advance_cons_of_leaf (by simpa using hdir)]
      exact ⟨_, rfl⟩
  | case3 l e rest hdir ih =>
      rw [advance, if_neg hdir, if_pos rfl]
      exact ih hl
  | case4 l e rest hdir hdot ih =>
      -- going up looks nothing up, so the walk holds a directory even if it comes to `l₀`
      rw [advance, if_neg hdir, if_neg hdot, if_pos rfl]
      exact ih (.inl (by simpa using hdir))
  | case5 l e name rest hdir hdot hup hlong =>
      rw [advance, if_neg hdir, if_neg hdot, if_neg hup, if_pos hlong]
      exact ⟨_, rfl⟩
  | case6 l e name rest hdir hdot hup hlong hnone hlast =>
      -- the last name was free: if it was that of `l₀`, the walk now comes to `e₀`
      obtain rfl := List.isEmpty_iff.mp hlast
      by_cases hl₀ : l ++ [name] = l₀
      · rw [advance_cons_of_entry hdir hdot hup hlong (hl₀ ▸ h.entryAt?_put_self) h.ne_link, hl₀]
        exact Progress.rewritten_at hl₀ rfl
      · rw [advance, if_neg hdir, if_neg hdot, if_neg hup, if_neg hlong]
        simp only [h.entryAt?_put_of_ne hl₀, hnone]
        exact Progress.rewritten_elsewhere (.inr hl₀)
  | case7 l e name rest hdir hdot hup hlong hnone hlast =>
      -- a name on the way was free: at `l₀` there is now an entry, but no directory to go on from
      by_cases hl₀ : l ++ [name] = l₀
      · obtain ⟨name', rest', rfl⟩ := List.exists_cons_of_ne_nil (mt List.isEmpty_iff.mpr hlast)
        rw [advance_cons_of_entry hdir hdot hup hlong (hl₀ ▸ h.entryAt?_put_self) h.ne_link,
          advance_cons_of_leaf (Entry.isDirectory_of_isLeaf h.isLeaf)]
        exact ⟨_, rfl⟩
      · rw [advance, if_neg hdir, if_neg hdot, if_neg hup, if_neg hlong]
        simp only [h.entryAt?_put_of_ne hl₀, hnone, hlast]
        exact ⟨_, rfl⟩
  | case8 l e name rest hdir hdot hup hlong target hlink hlast =>
      have hl₀ := h.ne_of_link hlink
      rw [advance, if_neg hdir, if_neg hdot, if_neg hup, if_neg hlong]
      simp only [h.entryAt?_put_of_ne hl₀, hlink, if_pos hlast]
      exact Progress.rewritten_elsewhere (.inr hl₀)
  | case9 l e name rest hdir hdot hup hlong target hlink hlast =>
      rw [advance, if_neg hdir, if_neg hdot, if_neg hup, if_neg hlong]
      simp only [h.entryAt?_put_of_ne (h.ne_of_link hlink), hlink, if_neg hlast]
      rfl
  | case10 l e name rest hdir hdot hup hlong e' hlink hentry ih =>
      by_cases hl₀ : l ++ [name] = l₀
      · subst hl₀
        rw [advance_cons_of_entry hdir hdot hup hlong h.entryAt?_put_self h.ne_link]
        exact h.advance_onto (h.isLeaf_of_entryAt? e' hentry) rest
      · have hentry' : (d.put l₀ e₀).entryAt? (l ++ [name]) = some e' := by
          rw [h.entryAt?_put_of_ne hl₀, hentry]
        rw [advance_cons_of_entry hdir hdot hup hlong hentry' hlink]
        exact ih (.inr hl₀)

/-- How a search comes out once `e₀` stands at `l₀`, when it came out like this before.  One that
failed can now come to `e₀`. -/
def SearchRewritten (l₀ : Location) (e₀ : Entry) :
    Except Fault Place → Except Fault Place → Prop
  | .ok p, after => after = .ok (p.rewritten l₀ e₀)
  | .error _, after => (∃ fault, after = .error fault) ∨ after = .ok (.occupied l₀ e₀)

/-- A search that found a place finds it still, with what stands there now. -/
lemma SearchRewritten.eq_ok {p : Place} {after : Except Fault Place}
    (h : SearchRewritten l₀ e₀ (.ok p) after) : after = .ok (p.rewritten l₀ e₀) := h

/-- A walk from an entry begins from the entry that stands there now, and comes out rewritten. -/
lemma Fits.advance_entry (h : d.Fits l₀ e₀) {l : Location} {e : Entry} {names : List String}
    (hentry : d.entryAt? l = some e) :
    ∃ e', (d.put l₀ e₀).entryAt? l = some e' ∧
      (d.advance followLast l e names).Rewritten l₀ e₀
        ((d.put l₀ e₀).advance followLast l e' names) := by
  by_cases hl : l = l₀
  · subst hl
    exact ⟨e₀, h.entryAt?_put_self, h.advance_onto (h.isLeaf_of_entryAt? e hentry) names⟩
  · exact ⟨e, (h.entryAt?_put_of_ne hl).trans hentry, h.advance_put (.inr hl)⟩

/-- A path leads to `e₀` where it ended at `l₀` before, and ends as before where it did not. -/
theorem Fits.follow_put (h : d.Fits l₀ e₀) (links : Nat) (l : Location) (names : List String) :
    SearchRewritten l₀ e₀ (d.follow followLast links l names)
      ((d.put l₀ e₀).follow followLast links l names) := by
  -- on the links: `advance_entry` says how the walk to the next one comes out
  fun_induction follow d followLast links l names with
  | case1 links l names hnone =>
      by_cases hl : l = l₀
      · subst hl
        cases names with
        | nil => exact .inr (follow_of_done h.entryAt?_put_self rfl)
        | cons name rest =>
            exact .inl ⟨_, follow_of_failed h.entryAt?_put_self
              (advance_cons_of_leaf (Entry.isDirectory_of_isLeaf h.isLeaf) _ _ _)⟩
      · exact .inl ⟨_, follow_of_none ((h.entryAt?_put_of_ne hl).trans hnone)⟩
  | case2 links l names e hentry place hadvance =>
      obtain ⟨e', hentry', hrewritten⟩ := h.advance_entry hentry
      rw [hadvance] at hrewritten
      exact follow_of_done hentry' hrewritten
  | case3 links l names e hentry fault hadvance =>
      obtain ⟨e', hentry', hrewritten⟩ := h.advance_entry hentry
      rw [hadvance] at hrewritten
      obtain ⟨fault', hfault⟩ := hrewritten
      exact .inl ⟨fault', follow_of_failed hentry' hfault⟩
  | case4 l names e hentry l' target rest hadvance =>
      obtain ⟨e', hentry', hrewritten⟩ := h.advance_entry hentry
      rw [hadvance] at hrewritten
      exact .inl ⟨_, follow_zero_of_atLink hentry' hrewritten⟩
  | case5 l names e hentry l' target rest hadvance links ih =>
      obtain ⟨e', hentry', hrewritten⟩ := h.advance_entry hentry
      rw [hadvance] at hrewritten
      rw [follow_succ_of_atLink hentry' hrewritten]
      exact ih

/-- A path that failed while something stood at `l₀` still fails: where it looks, nothing is new. -/
theorem Fits.follow_put_error (h : d.Fits l₀ e₀) {e₁ : Entry} (hold : d.entryAt? l₀ = some e₁)
    {links : Nat} {l : Location} {names : List String} {fault : Fault}
    (hfail : d.follow followLast links l names = .error fault) :
    ∃ fault', (d.put l₀ e₀).follow followLast links l names = .error fault' := by
  fun_induction follow d followLast links l names with
  | case1 links l names hnone =>
      have hl : l ≠ l₀ := by
        rintro rfl
        cases hnone.symm.trans hold
      exact ⟨_, follow_of_none ((h.entryAt?_put_of_ne hl).trans hnone)⟩
  | case2 => cases hfail
  | case3 links l names e hentry fault hadvance =>
      obtain ⟨e', hentry', hrewritten⟩ := h.advance_entry hentry
      rw [hadvance] at hrewritten
      obtain ⟨fault', hfault⟩ := hrewritten
      exact ⟨fault', follow_of_failed hentry' hfault⟩
  | case4 l names e hentry l' target rest hadvance =>
      obtain ⟨e', hentry', hrewritten⟩ := h.advance_entry hentry
      rw [hadvance] at hrewritten
      exact ⟨_, follow_zero_of_atLink hentry' hrewritten⟩
  | case5 l names e hentry l' target rest hadvance links ih =>
      obtain ⟨e', hentry', hrewritten⟩ := h.advance_entry hentry
      rw [hadvance] at hrewritten
      rw [follow_succ_of_atLink hentry' hrewritten]
      exact ih hfail

/-- So does a search, whatever its path is. -/
lemma Fits.find_put (h : d.Fits l₀ e₀) (path : String) :
    SearchRewritten l₀ e₀ (d.find path) ((d.put l₀ e₀).find path) := by
  unfold find findSteps
  cases pathFault? path with
  | some fault => exact .inl ⟨fault, rfl⟩
  | none => exact h.follow_put _ _ _

/-- If something stood at the location before, no search succeeds that failed. -/
lemma Fits.find_put_error (h : d.Fits l₀ e₀) {e₁ : Entry} (hold : d.entryAt? l₀ = some e₁)
    {path : String} {fault : Fault} (hfail : d.find path = .error fault) :
    ∃ fault', (d.put l₀ e₀).find path = .error fault' := by
  unfold find findSteps at hfail ⊢
  cases hfault : pathFault? path with
  | some fault' => exact ⟨fault', rfl⟩
  | none =>
      rw [hfault] at hfail
      exact h.follow_put_error hold hfail

/-! ## Looking up a path -/

/-- What a path leads to is its place. -/
lemma find_of_lookUp {path : String} {l : Location} {e : Entry}
    (hlook : d.lookUp path = .ok (l, e)) : d.find path = .ok (.occupied l e) := by
  unfold lookUp at hlook
  cases hplace : d.find path with
  | error fault =>
      rw [hplace] at hlook
      cases hlook
  | ok p =>
      rw [hplace] at hlook
      cases p with
      | occupied l' e' =>
          cases hlook
          rfl
      | vacant l' name => cases hlook

/-- A path that led elsewhere leads there still. -/
theorem Fits.lookUp_put_of_ne (h : d.Fits l₀ e₀) {path : String} {l : Location} {e : Entry}
    (hlook : d.lookUp path = .ok (l, e)) (hl : l ≠ l₀) :
    (d.put l₀ e₀).lookUp path = .ok (l, e) := by
  have hfind := h.find_put path
  rw [find_of_lookUp hlook] at hfind
  rw [lookUp, hfind.eq_ok, Place.rewritten, if_neg fun hat => hl hat.1]
  rfl

/-- A path that led nowhere leads to the new entry, or still nowhere. -/
theorem Fits.lookUp_put_of_error (h : d.Fits l₀ e₀) {path : String} {fault : Fault}
    (hlook : d.lookUp path = .error fault) :
    (∃ fault', (d.put l₀ e₀).lookUp path = .error fault') ∨
      (d.put l₀ e₀).lookUp path = .ok (l₀, e₀) := by
  have hfind := h.find_put path
  unfold lookUp at hlook ⊢
  rcases hplace : d.find path with fault' | ⟨l', e'⟩ | ⟨l', name⟩ <;> rw [hplace] at hlook hfind
  · rcases hfind with ⟨fault'', hfault⟩ | hat
    · rw [hfault]
      exact .inl ⟨_, rfl⟩
    · rw [hat]
      exact .inr rfl
  · cases hlook
  · rw [hfind.eq_ok]
    by_cases hl : l' ++ [name] = l₀
    · rw [Place.rewritten, if_pos ⟨hl, rfl⟩]
      exact .inr rfl
    · rw [Place.rewritten, if_neg fun hat => hl hat.1]
      exact .inl ⟨_, rfl⟩

/-- A path that ended at `l₀`, though not at a directory, leads to the new entry. -/
theorem Fits.lookUp_put_of_find (h : d.Fits l₀ e₀) {path : String} {p : Place}
    (hplace : d.find path = .ok p) (hl : p.location = l₀) (hp : p.isDirectory = false) :
    (d.put l₀ e₀).lookUp path = .ok (l₀, e₀) := by
  have hfind := h.find_put path
  rw [hplace] at hfind
  rw [lookUp, hfind.eq_ok, Place.rewritten, if_pos ⟨hl, hp⟩]
  rfl

/-- A path leads to the location that it led to. -/
lemma Fits.lookUp_put (h : d.Fits l₀ e₀) {path : String} {l : Location} {e : Entry}
    (hlook : d.lookUp path = .ok (l, e)) : ∃ e', (d.put l₀ e₀).lookUp path = .ok (l, e') := by
  have hfind := h.find_put path
  rw [find_of_lookUp hlook] at hfind
  rw [lookUp, hfind.eq_ok, Place.rewritten]
  split_ifs with hat
  · obtain ⟨rfl, -⟩ := hat
    exact ⟨e₀, rfl⟩
  · exact ⟨e, rfl⟩

/-- A path that led to the entry at `l₀` leads to the new one. -/
theorem Fits.lookUp_put_self (h : d.Fits l₀ e₀) {path : String} {e : Entry}
    (hlook : d.lookUp path = .ok (l₀, e)) (he : e.isDirectory = false) :
    (d.put l₀ e₀).lookUp path = .ok (l₀, e₀) :=
  h.lookUp_put_of_find (find_of_lookUp hlook) rfl he

end Disk

end PipeShell
