import PipeShell.Proofs.Disk.Canonical
import PipeShell.Proofs.Disk.Written

/-!
# Disks that grow

Writing files and making directories takes away no directory and no link, and makes no link
(`Disk.Grows`).  A directory that a shell can stay in is then still there, under the same path
(`IsHome.grown`).
-/

namespace PipeShell.Disk

variable {d d' d'' : Disk} {l : Location} {path dir : String} {e : Entry}

/-- The directories and links of the disk `d` are all on the disk `d'`, and no other links are. -/
structure Grows (d d' : Disk) : Prop where
  entryAt?_eq : ∀ l e, d.entryAt? l = some e → e.isLeaf = false → d'.entryAt? l = some e
  link_before : ∀ l target, d'.entryAt? l = some (.link target) →
    d.entryAt? l = some (.link target)

namespace Grows

/-- A disk that stays as it is grows. -/
lemma refl (d : Disk) : d.Grows d :=
  ⟨fun _ _ h _ => h, fun _ _ h => h⟩

/-- Growing twice is growing. -/
lemma trans (h : d.Grows d') (h' : d'.Grows d'') : d.Grows d'' where
  entryAt?_eq l e hentry he := h'.entryAt?_eq l e (h.entryAt?_eq l e hentry he) he
  link_before l target hlink := h.link_before l target (h'.link_before l target hlink)

end Grows

/-! ## What stays -/

/-- No links are new, so the links can still be read. -/
lemma LinksReadable.grown (h : d.LinksReadable) (hgrows : d.Grows d') : d'.LinksReadable :=
  fun l target hlink => h l target (hgrows.link_before l target hlink)

/-- No directory is gone, so the way down is still there. -/
lemma Rooted.grown (h : d.Rooted l) (hgrows : d.Grows d') : d'.Rooted l := by
  induction h with
  | root => exact .root
  | inside _ hdir hname ih => exact .inside ih (hgrows.entryAt?_eq _ _ hdir rfl) hname

/-- A shell can stay where it is. -/
theorem IsHome.grown (h : d.IsHome dir) (hgrows : d.Grows d') : d'.IsHome dir := by
  obtain ⟨⟨l, rfl, hleads⟩, hshort⟩ := h
  have hdir := hgrows.entryAt?_eq l .directory hleads.entry rfl
  exact ⟨⟨l, rfl, (hleads.rooted.grown hgrows).leads hdir⟩, hshort⟩

/-! ## What makes a disk grow -/

/-- A disk grows when a directory or a file is put where none of its directories and links stands.
-/
lemma grows_put (hl : l ≠ []) (hold : ∀ e', d.entryAt? l = some e' → e'.isLeaf = true)
    (hnew : ∀ target, e ≠ .link target) : d.Grows (d.put l e) where
  entryAt?_eq l' e' hentry he' := by
    rw [entryAt?_put d hl, if_neg, hentry]
    rintro rfl
    exact Bool.noConfusion (he'.symm.trans (hold e' hentry))
  link_before l' target hlink := by
    rw [entryAt?_put d hl] at hlink
    split_ifs at hlink with hsame
    · exact absurd (Option.some.inj hlink) (hnew target)
    · exact hlink

/-- That is so where an entry fits. -/
lemma Fits.grows (h : d.Fits l e) : d.Grows (d.put l e) :=
  grows_put h.ne_nil h.isLeaf_of_entryAt? h.ne_link

/-- A disk grows when a file is written. -/
lemma WrittenAt.grows (h : d.WrittenAt l d') : d.Grows d' := by
  cases h with
  | same => exact .refl d
  | put hfits => exact hfits.grows

/-- It grows when the file that a path leads to is changed. -/
lemma Edited.grows {change : ByteArray → ByteArray} (h : d.Edited path change d') :
    d.Grows d' := by
  cases h with
  | replaced _ hfits hput | created _ hfits hput => exact hput ▸ hfits.grows
  | swallowed _ hsame => exact hsame ▸ .refl d

/-- A new directory is made where nothing stood. -/
lemma grows_of_makeDirectory (h : d.makeDirectory path = .ok d') : d.Grows d' := by
  unfold makeDirectory at h
  dsimp only at h
  split at h
  · cases h
  · cases h
  · next name l _ _ _ =>
    split_ifs at h with hdots hlong hexists
    cases h
    refine grows_put (by simp) (fun e he => ?_) nofun
    exact absurd (Option.isSome_iff_exists.mpr ⟨e, he⟩) hexists
  · cases h

/-- It grows when a chain of directories is made, even if that fails on the way. -/
lemma grows_makeChain (d : Disk) (paths : List String) : d.Grows (d.makeChain paths).1 := by
  induction paths with
  | nil => exact .refl d
  | cons path parents ih =>
      rw [makeChain]
      split
      · next made hmade => exact grows_of_makeDirectory hmade
      · split
        · next d' fault hparents =>
          rw [hparents] at ih
          exact ih
        · next d' hparents =>
          rw [hparents] at ih
          split
          · next made hmade => exact ih.trans (grows_of_makeDirectory hmade)
          · exact ih
      · exact .refl d

/-- A directory is made with all its parents, and those that were made stay even where the last one
cannot be. -/
theorem grows_makeDirectories (d : Disk) (path : String) : d.Grows (d.makeDirectories path).1 :=
  grows_makeChain d _

end PipeShell.Disk
