import PipeShell.Proofs.Disk.Spelling
import PipeShell.Proofs.Results

/-!
# Canonical paths

A walk that can be taken by going down from the root alone, through directories and without a link,
comes to its end by the names of the location there (`Disk.Leads`).  Every path that is found is
found at the end of such a walk, however it went (`leads_of_resolve`), so the canonical path of a
path leads where the path leads, and is its own canonical path (`Leads.resolve_ofNames`).

The system refuses a canonical path that is too long.  Where it does not, and there is a directory,
a shell can stay: `Disk.IsHome`.  That is what is checked when a shell goes to a directory
(`isHome_of_realDirectory?`), and a second check finds the same (`IsHome.realDirectory?_eq`).

All this is said of disks on which every link points to a text that can be a path, as no system
makes other links (`Disk.LinksReadable`).
-/

namespace PipeShell

namespace Path

variable {p s : String} {l : List String}

/-! ## The text of a location -/

/-- The text can stand between two slashes of a path. -/
structure IsStep (s : String) : Prop where
  ne_empty : s ≠ ""
  slash_not_mem : '/' ∉ s.toList
  zero_not_mem : '\x00' ∉ s.toList

/-- The names in a path can stand between slashes, if the zero character is not in it. -/
lemma isStep_of_mem_names (hzero : '\x00' ∉ p.toList) (h : s ∈ names p) : IsStep s := by
  obtain ⟨f, hf, rfl⟩ := List.mem_map.mp h
  obtain ⟨hfield, hne⟩ := List.mem_filter.mp hf
  refine ⟨?_, ?_, ?_⟩
  · simpa using hne
  · simpa using Text.not_mem_of_mem_fields hfield
  · rw [String.toList_ofList]
    exact fun hmem => hzero (Text.mem_of_mem_fields hfield hmem)

/-- The text of a location is an absolute path. -/
lemma isAbsolute_ofNames (l : List String) : isAbsolute (ofNames l) = true := by
  simp [isAbsolute, ofNames]

/-- The names of a location are found again in its text. -/
lemma names_ofNames (h : ∀ s ∈ l, IsStep s) : names (ofNames l) = l := by
  cases l with
  | nil => rfl
  | cons s rest =>
      have hcut : Text.fields '/' ("/".intercalate (s :: rest)).toList =
          (s :: rest).map String.toList := by
        rw [String.toList_intercalate]
        refine Text.fields_intercalate (by simp) fun f hf => ?_
        obtain ⟨t, ht, rfl⟩ := List.mem_map.mp hf
        exact (h t ht).slash_not_mem
      have hnames : names ("/".intercalate (s :: rest)) = s :: rest := by
        have hfilter : ((s :: rest).map String.toList).filter (!·.isEmpty) =
            (s :: rest).map String.toList := by
          rw [List.filter_eq_self]
          intro f hf
          obtain ⟨t, ht, rfl⟩ := List.mem_map.mp hf
          simpa using (h t ht).ne_empty
        rw [names, hcut, hfilter, List.map_map]
        simp [Function.comp_def]
      have hfront := names_append_slash "" ("/".intercalate (s :: rest))
      rw [String.empty_append, hnames] at hfront
      exact hfront

/-- The text of a location ends with its last name. -/
lemma exists_ofNames_concat (l : List String) (s : String) :
    ∃ front, ofNames (l ++ [s]) = front ++ s := by
  cases l with
  | nil => exact ⟨"/", by simp [ofNames]⟩
  | cons t rest =>
      refine ⟨"/" ++ ("/".intercalate (t :: rest) ++ "/"), ?_⟩
      rw [ofNames, String.intercalate_append_of_ne_nil (List.cons_ne_nil t rest) (by simp),
        String.intercalate_singleton]
      simp only [String.append_assoc]

/-- Only the text of the root ends with a slash. -/
lemma endsWithSlash_ofNames (h : ∀ s ∈ l, IsStep s) (hl : l ≠ []) :
    endsWithSlash (ofNames l) = false := by
  have hs := h (l.getLast hl) (List.getLast_mem hl)
  obtain ⟨front, htext⟩ := exists_ofNames_concat l.dropLast (l.getLast hl)
  rw [List.dropLast_concat_getLast] at htext
  rw [htext, endsWithSlash_append hs.ne_empty, endsWithSlash, decide_eq_false_iff_not]
  exact fun hlast => hs.slash_not_mem (List.mem_of_getLast? hlast)

/-- The zero character is not in the text of a location if it is in none of the names. -/
lemma zero_not_mem_ofNames (h : ∀ s ∈ l, IsStep s) : '\x00' ∉ (ofNames l).toList := by
  have htext : '\x00' ∉ ("/".intercalate l).toList := by
    induction l with
    | nil => simp
    | cons s rest ih =>
        have hs := (h s List.mem_cons_self).zero_not_mem
        have hlater := ih fun t ht => h t (List.mem_cons_of_mem s ht)
        by_cases hrest : rest = []
        · rwa [hrest, String.intercalate_singleton]
        · rw [String.intercalate_cons_of_ne_nil hrest]
          simpa [hs] using hlater
  simpa [ofNames] using htext

end Path

namespace Disk

variable {d : Disk} {path name dir : String} {l l' : Location} {e : Entry}

/-! ## Walks that go down -/

/-- A name that an entry can have. -/
structure IsName (name : String) : Prop extends Path.IsStep name where
  ne_here : name ≠ "."
  ne_up : name ≠ ".."
  short : ¬longestName < name.utf8ByteSize

/-- The location can be come to by going down from the root: all above it are directories. -/
inductive Rooted (d : Disk) : Location → Prop
  | root : Rooted d []
  | inside {l : Location} {name : String} (habove : Rooted d l)
      (hdir : d.entryAt? l = some .directory) (hname : IsName name) : Rooted d (l ++ [name])

/-- The names on the way down are names that can stand between slashes. -/
lemma Rooted.isStep (h : d.Rooted l) : ∀ s ∈ l, Path.IsStep s := by
  induction h with
  | root => simp
  | inside _ _ hname ih =>
      intro s hs
      rcases List.mem_append.mp hs with habove | hlast
      · exact ih s habove
      · rw [List.mem_singleton.mp hlast]
        exact hname.toIsStep

/-- The walk that goes down to the location ends there, at the entry `e`. -/
structure Leads (d : Disk) (l : Location) (e : Entry) : Prop where
  rooted : d.Rooted l
  entry : d.entryAt? l = some e
  ne_link : ∀ target, e ≠ .link target

/-- The walk that goes nowhere ends at the root. -/
lemma leads_root (d : Disk) : d.Leads [] .directory :=
  ⟨.root, rfl, nofun⟩

/-- A directory that can be come to by going down is where that walk ends. -/
lemma Rooted.leads (h : d.Rooted l) (hdir : d.entryAt? l = some .directory) :
    d.Leads l .directory :=
  ⟨h, hdir, nofun⟩

/-- What is above a location that a walk comes to is a directory; above the root is the root. -/
lemma Rooted.leads_dropLast (h : d.Rooted l) : d.Leads l.dropLast .directory := by
  cases h with
  | root => exact leads_root d
  | inside habove hdir _ =>
      rw [List.dropLast_concat]
      exact habove.leads hdir

/-! ## Where walks come to -/

/-- Every link on the disk points to a text that can be a path. -/
def LinksReadable (d : Disk) : Prop :=
  ∀ l target, d.entryAt? l = some (.link target) → '\x00' ∉ target.toList

/-- A walk has come to where a walk that goes down comes to, and what is left of it are steps. -/
def Progress.Downward (d : Disk) : Progress → Prop
  | done (.occupied l e) => d.Leads l e
  | done (.vacant _ _) => True
  | failed _ => True
  | atLink l target rest =>
    d.Leads l .directory ∧ '\x00' ∉ target.toList ∧ ∀ s ∈ rest, Path.IsStep s

/-- The steps of a path can stand between slashes, if the zero character is not in it. -/
lemma isStep_of_mem_steps (hzero : '\x00' ∉ path.toList) {s : String} (h : s ∈ steps path) :
    Path.IsStep s := by
  unfold steps at h
  split_ifs at h
  · rcases List.mem_append.mp h with hname | hdot
    · exact Path.isStep_of_mem_names hzero hname
    · rw [List.mem_singleton.mp hdot]
      exact ⟨by decide, by decide, by decide⟩
  · exact Path.isStep_of_mem_names hzero h

/-- The condition of the walk, read as an equation. -/
lemma eq_directory_of_isDirectory (h : ¬(!e.isDirectory) = true) : e = .directory := by
  cases e <;> first | rfl | exact absurd rfl h

/-- Up to the next link, a walk comes only to where a walk that goes down comes to. -/
lemma downward_advance (hlinks : d.LinksReadable) {names : List String} (hl : d.Leads l e)
    (hnames : ∀ s ∈ names, Path.IsStep s) : (d.advance true l e names).Downward d := by
  fun_induction advance d true l e names with
  | case1 => exact hl
  | case2 | case5 | case6 | case7 => trivial
  | case3 l e rest hdir ih =>
      exact ih hl fun s hs => hnames s (List.mem_cons_of_mem _ hs)
  | case4 l e rest hdir hdot ih =>
      obtain rfl := eq_directory_of_isDirectory hdir
      exact ih hl.rooted.leads_dropLast fun s hs => hnames s (List.mem_cons_of_mem _ hs)
  | case8 l e name rest hdir hdot hup hlong target hlink hlast => simp at hlast
  | case9 l e name rest hdir hdot hup hlong target hlink hlast =>
      obtain rfl := eq_directory_of_isDirectory hdir
      exact ⟨hl, hlinks _ target hlink, fun s hs => hnames s (List.mem_cons_of_mem _ hs)⟩
  | case10 l e name rest hdir hdot hup hlong e' hlink hentry ih =>
      obtain rfl := eq_directory_of_isDirectory hdir
      have hname : IsName name := ⟨hnames name List.mem_cons_self, hdot, hup, hlong⟩
      exact ih ⟨.inside hl.rooted hl.entry hname, hentry, hlink⟩
        fun s hs => hnames s (List.mem_cons_of_mem _ hs)

/-- A walk ends only where a walk that goes down ends, through any number of links. -/
theorem leads_of_follow (hlinks : d.LinksReadable) {links : Nat} {names : List String}
    (hl : ∀ e, d.entryAt? l = some e → d.Leads l e) (hnames : ∀ s ∈ names, Path.IsStep s)
    (h : d.follow true links l names = .ok (.occupied l' e)) : d.Leads l' e := by
  -- on the links: behind one, the walk goes on from the root or from a directory come to before
  fun_induction follow d true links l names with
  | case2 links l names e₀ hentry place hadvance =>
      cases h
      have hdown := downward_advance hlinks (hl e₀ hentry) hnames
      rwa [hadvance] at hdown
  | case5 l names e₀ hentry l₁ target rest hadvance links ih =>
      have hdown := downward_advance hlinks (hl e₀ hentry) hnames
      rw [hadvance] at hdown
      obtain ⟨hl₁, hzero, hrest⟩ := hdown
      refine ih (fun e he => ?_) (fun s hs => ?_) h
      · have hstart : d.Leads (start l₁ target) .directory := by
          unfold start
          split_ifs
          · exact leads_root d
          · exact hl₁
        cases hstart.entry.symm.trans he
        exact hstart
      · rcases List.mem_append.mp hs with htarget | hlater
        · exact isStep_of_mem_steps hzero htarget
        · exact hrest s hlater
  | case1 | case3 | case4 => cases h

/-- A path without a fault in its text does not hold the zero character. -/
lemma zero_not_mem_of_textFault? (h : textFault? path = none) : '\x00' ∉ path.toList := by
  unfold textFault? at h
  split_ifs at h with hzero
  simpa using hzero

/-- What a path is resolved to is found by going down from the root. -/
theorem leads_of_resolve (hlinks : d.LinksReadable)
    (hstart : ∀ e, d.entryAt? (start d.base path) = some e → d.Leads (start d.base path) e)
    (h : d.resolve path = .ok (l, e)) : d.Leads l e := by
  unfold resolve at h
  cases hfault : textFault? path with
  | some fault =>
      rw [hfault] at h
      cases h
  | none =>
      simp only [hfault] at h
      cases hfollow : d.follow true linkLimit (start d.base path) (steps path) with
      | error fault =>
          rw [hfollow] at h
          cases h
      | ok place =>
          rw [hfollow] at h
          cases place with
          | vacant l₁ name => cases h
          | occupied l₁ e₁ =>
              cases h
              have hzero := zero_not_mem_of_textFault? hfault
              exact leads_of_follow hlinks hstart (fun s => isStep_of_mem_steps hzero) hfollow

/-! ## The path of a location -/

/-- A walk that goes down first and then takes other steps is the walk with these steps from below.
-/
lemma Rooted.advance_append (h : d.Rooted l) (hdir : d.entryAt? l = some .directory)
    (followLast : Bool) (rest : List String) :
    d.advance followLast [] .directory (l ++ rest) = d.advance followLast l .directory rest := by
  induction h generalizing rest with
  | root => rfl
  | @inside l name habove habovedir hname ih =>
      rw [List.append_assoc, ih habovedir]
      exact advance_cons_of_entry (by simp [Entry.isDirectory]) hname.ne_here hname.ne_up
        hname.short hdir nofun

/-- The steps of its path go down to a location. -/
lemma Leads.advance_steps (h : d.Leads l e) :
    d.advance true [] .directory (steps (Path.ofNames l)) = .done (.occupied l e) := by
  obtain ⟨hrooted, hentry, hlink⟩ := h
  have hsteps := hrooted.isStep
  cases hrooted with
  | root =>
      cases hentry
      rfl
  | @inside l name habove hdir hname =>
      rw [steps, Path.endsWithSlash_ofNames hsteps (by simp), if_neg Bool.false_ne_true,
        Path.names_ofNames hsteps, habove.advance_append hdir,
        advance_cons_of_entry (by simp [Entry.isDirectory]) hname.ne_here hname.ne_up hname.short
          hentry hlink, advance]

/-- The text of a location is followed to the location, whatever the base is. -/
lemma Leads.follow_steps (h : d.Leads l e) (base : Location) :
    d.follow true linkLimit (start base (Path.ofNames l)) (steps (Path.ofNames l)) =
      .ok (.occupied l e) := by
  rw [start, if_pos (Path.isAbsolute_ofNames l)]
  exact follow_of_done rfl h.advance_steps

/-- There is no fault in that text. -/
lemma Leads.textFault?_ofNames (h : d.Leads l e) : textFault? (Path.ofNames l) = none := by
  have hzero := Path.zero_not_mem_ofNames h.rooted.isStep
  have hne : (Path.ofNames l).isEmpty = false := by simp [Path.ofNames]
  simp [textFault?, hzero, hne]

/-- The path of a location leads there. -/
theorem Leads.resolve_ofNames (h : d.Leads l e) : d.resolve (Path.ofNames l) = .ok (l, e) := by
  rw [resolve, h.textFault?_ofNames]
  simp only [h.follow_steps]
  rfl

/-- So does looking it up, unless it is too long. -/
theorem Leads.lookUp_ofNames (h : d.Leads l e)
    (hshort : (Path.ofNames l).utf8ByteSize < pathLimit) :
    d.lookUp (Path.ofNames l) = .ok (l, e) := by
  have hfault : pathFault? (Path.ofNames l) = none := by
    rw [pathFault?, h.textFault?_ofNames]
    exact if_neg (Nat.not_le.mpr hshort)
  rw [lookUp, find, findSteps, hfault]
  simp only [h.follow_steps]
  rfl

/-! ## Where a shell can stay -/

/-- The path is the canonical path of a directory, and it is not too long. -/
structure IsHome (d : Disk) (dir : String) : Prop where
  leads : ∃ l, dir = Path.ofNames l ∧ d.Leads l .directory
  short : dir.utf8ByteSize < pathLimit

namespace IsHome

/-- The path of a place where a shell can stay is absolute. -/
lemma isAbsolute (h : d.IsHome dir) : Path.isAbsolute dir = true := by
  obtain ⟨l, rfl, -⟩ := h.leads
  exact Path.isAbsolute_ofNames l

/-- It is its own canonical path. -/
lemma canonical (h : d.IsHome dir) : d.canonical dir = .ok dir := by
  obtain ⟨l, rfl, hleads⟩ := h.leads
  rw [Disk.canonical, hleads.resolve_ofNames]
  rfl

/-- It leads to a directory. -/
lemma isDirectory (h : d.IsHome dir) : d.isDirectory dir = true := by
  obtain ⟨⟨l, rfl, hleads⟩, hshort⟩ := h
  rw [Disk.isDirectory, hleads.lookUp_ofNames hshort]
  rfl

/-- When it is looked for again, it is found as it is. -/
lemma realDirectory?_eq (h : d.IsHome dir) : d.realDirectory? dir = some dir := by
  rw [realDirectory?, h.canonical]
  exact if_pos h.isDirectory

end IsHome

/-- A path that leads to a directory is not too long. -/
lemma short_of_isDirectory (h : d.isDirectory path = true) : path.utf8ByteSize < pathLimit := by
  by_contra hlong
  have hfault : ∃ fault, pathFault? path = some fault := by
    unfold pathFault?
    split
    · exact ⟨_, rfl⟩
    · exact ⟨_, if_pos (Nat.not_lt.mp hlong)⟩
  obtain ⟨fault, hfault⟩ := hfault
  rw [isDirectory, lookUp, find, findSteps, hfault] at h
  cases h

/-- The directory that a path really leads to is the canonical path, and a directory. -/
lemma canonical_of_realDirectory? (h : d.realDirectory? path = some dir) :
    d.canonical path = .ok dir ∧ d.isDirectory dir = true := by
  unfold realDirectory? at h
  split at h
  · next dir' hcanonical =>
    split_ifs at h with hdir
    cases h
    exact ⟨hcanonical, hdir⟩
  · cases h

/-- A path that leads to no directory has a canonical path that is none. -/
lemma isDirectory_eq_false_of_realDirectory? (h : d.realDirectory? path = none)
    (hcanonical : d.canonical path = .ok dir) : d.isDirectory dir = false := by
  rw [realDirectory?, hcanonical] at h
  simpa using h

/-- The directory that a path leads to is one where a shell can stay. -/
theorem isHome_of_canonical (hlinks : d.LinksReadable)
    (hstart : ∀ e, d.entryAt? (start d.base path) = some e → d.Leads (start d.base path) e)
    (hcanonical : d.canonical path = .ok dir) (hdir : d.isDirectory dir = true) :
    d.IsHome dir := by
  obtain ⟨⟨l, e⟩, hresolve, rfl⟩ := map_eq_ok_iff.mp hcanonical
  have hleads := leads_of_resolve hlinks hstart hresolve
  have hshort := short_of_isDirectory hdir
  have hdirectory : e = .directory := by
    rw [isDirectory, hleads.lookUp_ofNames hshort] at hdir
    exact eq_directory_of_isDirectory (by simpa using hdir)
  exact ⟨⟨l, rfl, hdirectory ▸ hleads⟩, hshort⟩

/-- Whatever the disk starts relative paths from, an absolute path that leads to a directory leads
to one where a shell can stay. -/
lemma isHome_of_realDirectory? (hlinks : d.LinksReadable) (habsolute : Path.isAbsolute path = true)
    (h : d.realDirectory? path = some dir) : d.IsHome dir := by
  obtain ⟨hcanonical, hdir⟩ := canonical_of_realDirectory? h
  refine isHome_of_canonical hlinks (fun e he => ?_) hcanonical hdir
  rw [start, if_pos habsolute] at he ⊢
  cases he
  exact leads_root d

/-- Relative paths start from where a walk that goes down comes to, if anything is still there, and
every link points to a text that can be a path. -/
structure Sound (d : Disk) : Prop where
  base : ∀ e, d.entryAt? d.base = some e → d.Leads d.base e
  links : d.LinksReadable

/-- On such a disk every path that leads to a directory leads to one where a shell can stay. -/
lemma Sound.isHome_of_canonical (h : d.Sound) (hcanonical : d.canonical path = .ok dir)
    (hdir : d.isDirectory dir = true) : d.IsHome dir := by
  refine Disk.isHome_of_canonical h.links (fun e he => ?_) hcanonical hdir
  unfold start at he ⊢
  split_ifs at he ⊢
  · cases he
    exact leads_root d
  · exact h.base e he

end Disk

end PipeShell
