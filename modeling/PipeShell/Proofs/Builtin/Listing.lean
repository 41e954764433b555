import PipeShell.Builtin.Listing
import PipeShell.Proofs.Disk.Following
import PipeShell.Proofs.Text.ByteOrder

/-!
# What a listing shows

`ls` reads its arguments once: an argument that is a dash with letters behind it adds these letters
to the options, and all others are paths (`listArgs_eq`).  So the options are a set of letters, and
where they stand among the paths makes no difference.

The lines about a directory are sorted, and names are unique, so the order in which the system lists
the directory makes none either (`listDirectory_reordered`).  The lines are those of the entries
that are to be shown (`Lists`), in the order of their bytes.  An entry is marked with a slash if it
leads to a directory, but for a link whose path the system refuses (`isDirectory_describe_iff`).

`listing_of_entries` puts all this together.
-/

namespace PipeShell.Builtin

/-! ## Arguments -/

/-- The argument is a dash with letters behind it. -/
def isFlags (arg : String) : Bool :=
  match arg.toList with
  | '-' :: _ :: _ => true
  | _ => false

/-- The letters of all options among the arguments. -/
def letters (args : List String) : List Char :=
  (args.filter isFlags).flatMap fun arg => arg.toList.tail

/-- The arguments that are no options. -/
def paths (args : List String) : List String := args.filter fun arg => !isFlags arg

/-- The letter is an option. -/
def isListLetter (c : Char) : Bool := c = 'a' || c = 'l' || c = '1'

/-- The options with some letters more. -/
def ListOptions.withLetters (o : ListOptions) (cs : List Char) : ListOptions where
  all := o.all || cs.contains 'a'
  long := o.long || cs.contains 'l'

variable {o : ListOptions} {c : Char} {cs ds : List Char} {arg : String} {args : List String}

/-- No letters change no options. -/
lemma ListOptions.withLetters_nil (o : ListOptions) : o.withLetters [] = o := by
  simp [withLetters]

/-- Letters take effect one after the other. -/
lemma ListOptions.withLetters_append (o : ListOptions) (cs ds : List Char) :
    o.withLetters (cs ++ ds) = (o.withLetters cs).withLetters ds := by
  simp [withLetters, Bool.or_assoc]

/-- Adding a letter fails exactly if `ls` does not know it. -/
lemma ListOptions.add_eq (o : ListOptions) (c : Char) :
    o.add c = if isListLetter c then .ok (o.withLetters [c]) else .error c := by
  unfold add
  split_ifs <;> simp_all [isListLetter, withLetters]

/-- Letters are read up to the first that is no option. -/
lemma ListOptions.addAll_eq (o : ListOptions) (cs : List Char) :
    o.addAll cs =
      match cs.find? fun c => !isListLetter c with
      | some c => .error c
      | none => .ok (o.withLetters cs) := by
  induction cs generalizing o with
  | nil => rw [withLetters_nil]; rfl
  | cons c cs ih =>
      rw [addAll, add_eq]
      cases hc : isListLetter c with
      | true =>
          have hmore : o.withLetters (c :: cs) = (o.withLetters [c]).withLetters cs :=
            o.withLetters_append [c] cs
          simp [hc, ih, hmore]
      | false => simp [hc]

/-- An argument with a dash gives its letters, any other argument gives none. -/
lemma letters_cons (arg : String) (args : List String) :
    letters (arg :: args) = (if isFlags arg then arg.toList.tail else []) ++ letters args := by
  unfold letters
  cases h : isFlags arg <;> simp [h]

/-- An argument without a dash is a path, any other argument is none. -/
lemma paths_cons (arg : String) (args : List String) :
    paths (arg :: args) = if isFlags arg then paths args else arg :: paths args := by
  unfold paths
  cases h : isFlags arg <;> simp [h]

/-- The letters of an argument are added before the next argument is read. -/
lemma listArgs_cons_of_flags (h : isFlags arg = true) :
    listArgs o (arg :: args) =
      match o.addAll arg.toList.tail with
      | .error c => .error c
      | .ok o' => listArgs o' args := by
  unfold isFlags at h
  split at h
  · next hlist => simp only [listArgs, hlist]; rfl
  · cases h

/-- A path is kept, and the other arguments are read on. -/
lemma listArgs_cons_of_path (h : isFlags arg = false) :
    listArgs o (arg :: args) = (listArgs o args).map fun r => (r.1, arg :: r.2) := by
  unfold isFlags at h
  split at h
  · cases h
  · next hlist =>
    rw [listArgs]
    split
    · next c cs heq => exact absurd heq (hlist c cs)
    · rfl

/-- The arguments are options and paths, unless a letter is no option. -/
theorem listArgs_eq (o : ListOptions) (args : List String) :
    listArgs o args =
      match (letters args).find? fun c => !isListLetter c with
      | some c => .error c
      | none => .ok (o.withLetters (letters args), paths args) := by
  induction args generalizing o with
  | nil =>
      change Except.ok (o, []) = .ok (o.withLetters [], [])
      rw [ListOptions.withLetters_nil]
  | cons arg args ih =>
      rw [letters_cons, paths_cons]
      cases h : isFlags arg with
      | true =>
          rw [listArgs_cons_of_flags h, ListOptions.addAll_eq, if_pos rfl, if_pos rfl,
            List.find?_append, ListOptions.withLetters_append]
          cases hfirst : arg.toList.tail.find? fun c => !isListLetter c with
          | some c => rfl
          | none => simp only [ih, Option.none_or]
      | false =>
          rw [listArgs_cons_of_path h, ih]
          simp only [Bool.false_eq_true, if_false, List.nil_append]
          cases (letters args).find? fun c => !isListLetter c <;> rfl

/-! ## One directory -/

variable {d d' : Disk} {l : Location} {path name : String} {e : Entry}
  {children children' : List (String × Entry)}

/-- What is told of a child has the name of the child. -/
@[simp] lemma name_describe (d : Disk) (path : String) (child : String × Entry) :
    (describe d path child).name = child.1 := by
  unfold describe
  split <;> rfl

/-- Entries of this name are shown. -/
def isShown (o : ListOptions) (name : String) : Bool := o.all || name.toList.head? ≠ some '.'

/-- What is listed are the entries that are shown. -/
lemma listDirectory_perm (d : Disk) (o : ListOptions) (path : String)
    (children : List (String × Entry)) :
    (listDirectory d o path children).Perm
      ((children.filter fun child => isShown o child.1).map (describe d path)) :=
  List.mergeSort_perm _ _

/-- The names in a listing are those of the children that are shown, in some order. -/
lemma names_listDirectory_perm (d : Disk) (o : ListOptions) (path : String)
    (children : List (String × Entry)) :
    ((listDirectory d o path children).map Listed.name).Perm
      ((children.map Prod.fst).filter (isShown o)) := by
  refine ((listDirectory_perm d o path children).map Listed.name).trans (.of_eq ?_)
  rw [List.map_map, List.filter_map]
  exact List.map_congr_left fun child _ => name_describe d path child

/-- Where no name is there twice, the names ascend. -/
lemma listDirectory_ascending (h : (children.map Prod.fst).Nodup) :
    (listDirectory d o path children).Pairwise fun a b => a.name < b.name := by
  have hnodup : ((listDirectory d o path children).map Listed.name).Nodup :=
    (names_listDirectory_perm d o path children).nodup_iff.mpr (h.filter _)
  have hsorted : (listDirectory d o path children).Pairwise fun a b => a.name ≤ b.name := by
    have htrans : ∀ a b c : Listed, decide (a.name ≤ b.name) = true →
        decide (b.name ≤ c.name) = true → decide (a.name ≤ c.name) = true := by
      intro a b c hab hbc
      exact decide_eq_true (String.le_trans (of_decide_eq_true hab) (of_decide_eq_true hbc))
    have htotal : ∀ a b : Listed,
        (decide (a.name ≤ b.name) || decide (b.name ≤ a.name)) = true := by
      intro a b
      simpa using String.le_total a.name b.name
    exact (List.pairwise_mergeSort htrans htotal _).imp of_decide_eq_true
  refine (hsorted.and (List.pairwise_map.mp hnodup)).imp fun {a b} hab => ?_
  exact String.not_le.mp fun hba => hab.2 (String.le_antisymm hab.1 hba)

/-- Entries that are given in order stay so. -/
lemma listDirectory_of_ascending (h : (children.map Prod.fst).Pairwise (· ≤ ·)) :
    listDirectory d o path children =
      (children.filter fun child => isShown o child.1).map (describe d path) := by
  refine List.mergeSort_of_pairwise (List.pairwise_map.mpr ?_)
  refine ((List.pairwise_map.mp h).filter _).imp fun hab => ?_
  rw [name_describe, name_describe]
  exact decide_eq_true hab

/-- The order in which the entries are given makes no difference. -/
lemma listDirectory_eq_of_perm (hperm : children'.Perm children)
    (h : (children.map Prod.fst).Nodup) :
    listDirectory d o path children' = listDirectory d o path children := by
  have h' : (children'.map Prod.fst).Nodup := (hperm.map Prod.fst).nodup_iff.mpr h
  have hsame : (listDirectory d o path children').Perm (listDirectory d o path children) :=
    (listDirectory_perm d o path children').trans
      (((hperm.filter _).map _).trans (listDirectory_perm d o path children).symm)
  refine hsame.eq_of_pairwise (fun a b _ _ hab hba => ?_) (listDirectory_ascending h')
    (listDirectory_ascending h)
  exact absurd (String.lt_trans hab hba) (String.lt_irrefl _)

/-- Nor does the order in which the disk lists any directory. -/
theorem listDirectory_reordered (h : d.Reordered d') (hd : d.WellFormed) (o : ListOptions)
    (path : String) (l : Location) :
    listDirectory d' o path (d'.children l) = listDirectory d o path (d.children l) := by
  have hdescribe : describe d' path = describe d path := by
    funext child
    unfold describe
    rw [h.lookUp_eq]
  rw [← listDirectory_eq_of_perm (h.children_perm l) (hd.nodup_children l), listDirectory,
    listDirectory, hdescribe]

/-- An entry is described as a directory if it leads to one, unless it is a link whose path is
refused. -/
theorem isDirectory_describe_iff (h : d.WellFormed) (hdir : d.lookUp path = .ok (l, .directory))
    (hentry : d.entryAt? (l ++ [name]) = some e) :
    (describe d path (name, e)).isDirectory = true ↔
      d.LeadsToDirectory l name ∧
        (d.entryAt? (l ++ [name]) = some .directory ∨ ¬ d.IsRefused (Path.join path name)) := by
  have hstands := h.inside hentry
  have hname := h.isName hentry
  unfold describe
  cases hlook : d.lookUp (Path.join path name) with
  | ok found =>
      obtain ⟨l', e'⟩ := found
      have htaken : ¬ d.IsRefused (Path.join path name) := by
        rintro (hrefused | hrefused) <;> cases hlook.symm.trans hrefused
      rw [Disk.leadsToDirectory_iff_of_lookUp hdir hstands hname hlook]
      exact (and_iff_left (.inr htaken)).symm
  | error fault =>
      constructor
      · intro he
        obtain rfl := Disk.eq_directory_of_isDirectory (by simpa using he)
        exact ⟨Disk.leadsToDirectory_of_directory hstands hname hentry, .inl hentry⟩
      · rintro ⟨hleads, hdirectory | htaken⟩
        · cases hentry.symm.trans hdirectory
          rfl
        · exact absurd hleads (Disk.not_leadsToDirectory_of_lookUp hdir hstands hname hlook htaken)

/-- The listing is that of the directory at `l`, which was come to by `path`: the entries that are
to be shown, each once, in the order of the bytes of their names.  Those are marked as directories
that lead to one, but for links whose path is refused. -/
structure Lists (d : Disk) (o : ListOptions) (l : Location) (path : String)
    (listing : List Listed) : Prop where
  ascending : (listing.map fun x => Text.bytes x.name).Pairwise (· < ·)
  mem_iff : ∀ name, name ∈ listing.map Listed.name ↔
    (∃ e, d.entryAt? (l ++ [name]) = some e) ∧ (o.all = true ∨ name.toList.head? ≠ some '.')
  isDirectory_iff : ∀ x ∈ listing, x.isDirectory = true ↔
    d.LeadsToDirectory l x.name ∧
      (d.entryAt? (l ++ [x.name]) = some .directory ∨ ¬ d.IsRefused (Path.join path x.name))

/-- The listing of a directory satisfies `Lists`: it has the entries that are shown, each once and
told of truly, in the order of the names. -/
lemma lists_listDirectory (h : d.WellFormed) (hdir : d.lookUp path = .ok (l, .directory))
    (o : ListOptions) : Lists d o l path (listDirectory d o path (d.children l)) where
  ascending := by
    rw [List.pairwise_map]
    exact (listDirectory_ascending (h.nodup_children l)).imp Text.bytes_lt_bytes_iff.mpr
  mem_iff name := by
    rw [(names_listDirectory_perm d o path (d.children l)).mem_iff, List.mem_filter]
    simp [isShown, h.mem_children_iff]
  isDirectory_iff x hx := by
    have hmem := (listDirectory_perm d o path (d.children l)).mem_iff.mp hx
    obtain ⟨⟨name, e⟩, hchild, rfl⟩ := List.mem_map.mp hmem
    have hentry := h.mem_children_iff.mp (List.mem_filter.mp hchild).1
    rw [name_describe]
    exact isDirectory_describe_iff h hdir hentry

/-- A line ends in the name, and in a slash for a directory.  Without the option there is nothing
more on it. -/
lemma exists_line_eq (o : ListOptions) (x : Listed) :
    ∃ front, x.line o = front ++ x.name ++ (if x.isDirectory then "/" else "") ∧
      (o.long = false → front = "") := by
  unfold Listed.line
  cases hlong : o.long with
  | true =>
      exact ⟨(if x.isDirectory then "d " else "- ") ++ Text.padLeft 10 (toString x.size) ++ " ",
        (String.append_assoc ..).symm, nofun⟩
  | false => exact ⟨"", by rw [String.empty_append]; rfl, fun _ => rfl⟩

/-! ## All paths -/

variable {v : View} {target : String} {several : Bool} {i : Nat}

/-- What stands above the lines about a directory. -/
def heading (several : Bool) (i : Nat) (target : String) : String :=
  (if several && 0 < i then "\n" else "") ++ (if several then target ++ ":\n" else "")

/-- A target that is a directory is listed line by line, under its heading. -/
lemma listTarget_of_directory (hresolve : v.resolve target = .ok path)
    (hdir : v.disk.lookUp path = .ok (l, .directory)) (o : ListOptions) (several : Bool) (i : Nat) :
    listTarget v o several (i, target) =
      .ok (Text.encode (heading several i target ++
        printLines ((listDirectory v.disk o path (v.disk.children l)).map (·.line o)))) := by
  simp only [listTarget, hresolve, hdir]
  rfl

/-- How the entries lie on the disk does not show in the listing of a target. -/
lemma listTarget_reordered (h : v.disk.Reordered d) (hdisk : v.disk.WellFormed) (o : ListOptions)
    (several : Bool) (target : Nat × String) :
    listTarget { v with disk := d } o several target = listTarget v o several target := by
  have hresolve : View.resolve { v with disk := d } = v.resolve := rfl
  unfold listTarget
  rw [hresolve]
  cases v.resolve target.2 with
  | error e => rfl
  | ok path =>
      dsimp only
      rw [h.lookUp_eq]
      rcases v.disk.lookUp path with fault | ⟨l, e⟩
      · rfl
      · cases e with
        | directory => simp only [listDirectory_reordered h hdisk]
        | file | link | device | program => rfl

/-- The paths that are listed: the shell's directory where there are none. -/
def targets (args : List String) : List String :=
  if (paths args).isEmpty then ["."] else paths args

/-- The options that the letters among the arguments give. -/
def optionsOf (args : List String) : ListOptions :=
  (⟨false, false⟩ : ListOptions).withLetters (letters args)

/-- With letters that `ls` knows, it lists its targets one after the other. -/
lemma lsCommand_of_options (h : ∀ c ∈ letters args, isListLetter c = true) (v : View) :
    lsCommand v args =
      .each (listTarget v (optionsOf args) (1 < (targets args).length))
        ((targets args).zipIdx.map fun p => (p.2, p.1)) := by
  have hnone : (letters args).find? (fun c => !isListLetter c) = none := by
    simpa [List.find?_eq_none] using h
  simp only [lsCommand, listArgs_eq, hnone]
  rfl

/-- The first letter that `ls` does not know is what it complains about. -/
lemma lsCommand_of_stray (h : (letters args).find? (fun c => !isListLetter c) = some c) (v : View) :
    lsCommand v args = .fail (.invalidArguments ("invalid option -- '" ++ c.toString ++ "'")) := by
  simp only [lsCommand, listArgs_eq, h]

/-- Of a single directory nothing but the lines is printed. -/
lemma lsCommand_of_directory (h : ∀ c ∈ letters args, isListLetter c = true)
    (htargets : targets args = [target]) (hresolve : v.resolve target = .ok path)
    (hdir : v.disk.lookUp path = .ok (l, .directory)) :
    lsCommand v args =
      .print (printLines ((listDirectory v.disk (optionsOf args) path (v.disk.children l)).map
        (·.line (optionsOf args)))) := by
  rw [lsCommand_of_options h, htargets]
  simp only [List.zipIdx_singleton, List.map_cons, List.map_nil, List.length_singleton,
    Report.each, listTarget_of_directory hresolve hdir, Report.print]
  simp [heading]

/-- The order in which the system lists directories makes no difference. -/
lemma lsCommand_reordered (h : v.disk.Reordered d) (hdisk : v.disk.WellFormed)
    (args : List String) : lsCommand { v with disk := d } args = lsCommand v args := by
  have htarget : listTarget { v with disk := d } = listTarget v := by
    funext o several target
    exact listTarget_reordered h hdisk o several target
  unfold lsCommand
  rw [htarget]

/-- Nor does it make a difference how the options are written. -/
lemma lsCommand_eq_of_letters {args' : List String} (h : ∀ c ∈ letters args, isListLetter c = true)
    (h' : ∀ c ∈ letters args', isListLetter c = true)
    (hletters : ∀ c, c ≠ '1' → (c ∈ letters args' ↔ c ∈ letters args))
    (hpaths : paths args' = paths args) (v : View) : lsCommand v args' = lsCommand v args := by
  have hoptions : optionsOf args' = optionsOf args := by
    simp [optionsOf, ListOptions.withLetters, hletters 'a' (by decide), hletters 'l' (by decide)]
  have htargets : targets args' = targets args := by rw [targets, targets, hpaths]
  rw [lsCommand_of_options h, lsCommand_of_options h', hoptions, htargets]

/-- What `ls` prints is settled by the entries of the disk, by the letters among its arguments and
by the paths among them, in their order.  Neither the order in which the system lists a directory
nor the way in which the letters are written makes a difference, and a letter that is no option
makes it fail before anything is printed.  The lines about a directory are those of its entries that
are to be shown, each once and in the order of the bytes of their names; those have a slash that
lead to a directory, but for links whose path the system refuses. -/
theorem listing_of_entries (v : View) (hdisk : v.disk.WellFormed) (args : List String) :
    (∀ d, v.disk.Reordered d → lsCommand { v with disk := d } args = lsCommand v args) ∧
    ((∃ c ∈ letters args, isListLetter c = false) →
      ∃ c ∈ letters args, isListLetter c = false ∧
        lsCommand v args =
          .fail (.invalidArguments ("invalid option -- '" ++ c.toString ++ "'"))) ∧
    ((∀ c ∈ letters args, isListLetter c = true) →
      (∀ args', (∀ c ∈ letters args', isListLetter c = true) →
        (∀ c, c ≠ '1' → (c ∈ letters args' ↔ c ∈ letters args)) → paths args' = paths args →
        lsCommand v args' = lsCommand v args) ∧
      ∃ o : ListOptions, (o.all = true ↔ 'a' ∈ letters args) ∧
        (o.long = true ↔ 'l' ∈ letters args) ∧
        lsCommand v args =
          .each (listTarget v o (1 < (targets args).length))
            ((targets args).zipIdx.map fun p => (p.2, p.1)) ∧
        ∀ i target path l, v.resolve target = .ok path →
          v.disk.lookUp path = .ok (l, .directory) →
          ∃ listing, Lists v.disk o l path listing ∧
            (∀ x ∈ listing, ∃ front,
              x.line o = front ++ x.name ++ (if x.isDirectory then "/" else "") ∧
                (o.long = false → front = "")) ∧
            ∀ several, listTarget v o several (i, target) =
              .ok (Text.encode (heading several i target ++
                printLines (listing.map (·.line o))))) := by
  refine ⟨fun d h => lsCommand_reordered h hdisk args, ?_, fun hoptions => ⟨?_, ?_⟩⟩
  · rintro ⟨c, hc, hstray⟩
    cases hfirst : (letters args).find? (fun c => !isListLetter c) with
    | none => exact absurd hstray (by simpa using List.find?_eq_none.mp hfirst c hc)
    | some first =>
        have hno := List.find?_some hfirst
        exact ⟨first, List.mem_of_find?_eq_some hfirst, by simpa using hno,
          lsCommand_of_stray hfirst v⟩
  · intro args' hoptions' hletters hpaths
    exact lsCommand_eq_of_letters hoptions hoptions' hletters hpaths v
  · refine ⟨optionsOf args, ?_, ?_, lsCommand_of_options hoptions v, ?_⟩
    · simp [optionsOf, ListOptions.withLetters]
    · simp [optionsOf, ListOptions.withLetters]
    · intro i target path l hresolve hdir
      exact ⟨_, lists_listDirectory hdisk hdir _, fun x _ => exists_line_eq _ x,
        fun several => listTarget_of_directory hresolve hdir _ several i⟩

/-! ## Links that lead back -/

/-- A link to the directory that it stands in. -/
def loop : Entry := .link "."

/-- A link that goes through the loop twenty times. -/
def longLoop : Entry := .link ("/".intercalate (List.replicate 20 "l"))

/-- A root directory with both links. -/
def loopedDisk : Disk := ((Disk.empty []).put ["l"] loop).put ["m"] longLoop

/-- The same directory, listed in another order. -/
def relistedDisk : Disk := ((Disk.empty []).put ["m"] longLoop).put ["l"] loop

/-- A command that sees a disk from its root. -/
def viewOf (disk : Disk) : View := ⟨⟨∅⟩, ⟨"/", .empty, ∅, none⟩, .inMemory, disk, ""⟩

/-- A path to the root that goes through the loop thirty times. -/
def roundabout : String := "/".intercalate (List.replicate 30 "l")

/-- An entry can have the name of the loop. -/
lemma isName_l : Disk.IsName "l" :=
  ⟨⟨by decide, by decide, by decide⟩, by decide, by decide, by decide⟩

/-- It can have the name of the longer link. -/
lemma isName_m : Disk.IsName "m" :=
  ⟨⟨by decide, by decide, by decide⟩, by decide, by decide, by decide⟩

/-- Links that lead back leave a disk well-formed. -/
lemma wellFormed_loopedDisk : loopedDisk.WellFormed :=
  ((Disk.wellFormed_empty []).put (l := []) rfl isName_l nofun loop).put (l := []) rfl isName_m
    nofun longLoop

/-- The other order does so as well. -/
lemma wellFormed_relistedDisk : relistedDisk.WellFormed :=
  ((Disk.wellFormed_empty []).put (l := []) rfl isName_m nofun longLoop).put (l := []) rfl isName_l
    nofun loop

/-- These two disks differ in the order of their entries only. -/
lemma reordered_loopedDisk : loopedDisk.Reordered relistedDisk := by
  refine wellFormed_loopedDisk.reordered wellFormed_relistedDisk rfl fun l => ?_
  have hl : (["l"] : Location) ≠ [] := List.cons_ne_nil _ _
  have hm : (["m"] : Location) ≠ [] := List.cons_ne_nil _ _
  simp only [loopedDisk, relistedDisk, Disk.entryAt?_put _ hl, Disk.entryAt?_put _ hm]
  split_ifs with hat hat' <;> simp_all

/-- The long way around comes back to the root. -/
lemma lookUp_roundabout : loopedDisk.lookUp ("/" ++ roundabout) = .ok ([], .directory) := by
  rfl

/-- The order of the entries, and the way in which the options are written, make no difference. -/
theorem listing_of_entries_at_roundabout :
    loopedDisk.WellFormed ∧
    lsCommand (viewOf relistedDisk) ["-a", roundabout] =
      lsCommand (viewOf loopedDisk) ["-a", roundabout] ∧
    lsCommand (viewOf loopedDisk) ["-1", roundabout, "-a"] =
      lsCommand (viewOf loopedDisk) ["-a", roundabout] := by
  obtain ⟨hreordered, -, hoptions⟩ := listing_of_entries (viewOf loopedDisk) wellFormed_loopedDisk
    ["-a", roundabout]
  have hletters : letters ["-a", roundabout] = ['a'] := by decide +kernel
  have hletters' : letters ["-1", roundabout, "-a"] = ['1', 'a'] := by decide +kernel
  obtain ⟨hsame, -⟩ := hoptions (by simp [hletters, isListLetter])
  exact ⟨wellFormed_loopedDisk, hreordered relistedDisk reordered_loopedDisk,
    hsame ["-1", roundabout, "-a"] (by simp [hletters', isListLetter])
      (by simp +contextual [hletters, hletters']) (by decide +kernel)⟩

/-- The root of this disk holds no name with a dot in front, and its entries are in order. -/
lemma lsCommand_loopedDisk {arg path : String} (hflags : isFlags arg = false)
    (hresolve : (viewOf loopedDisk).resolve arg = .ok path)
    (hdir : loopedDisk.lookUp path = .ok ([], .directory)) :
    lsCommand (viewOf loopedDisk) [arg] =
      .print (printLines ((loopedDisk.children []).map fun child =>
        (describe loopedDisk path child).line ⟨false, false⟩)) := by
  have hletters : letters [arg] = [] := by
    rw [letters_cons, hflags]
    rfl
  have htargets : targets [arg] = [arg] := by
    rw [targets, paths_cons, hflags]
    rfl
  have hoptions : optionsOf [arg] = ⟨false, false⟩ := by
    rw [optionsOf, hletters]
    rfl
  have hascending : ((loopedDisk.children []).map Prod.fst).Pairwise (· ≤ ·) := by
    decide +kernel
  have hlisting : listDirectory loopedDisk ⟨false, false⟩ path (loopedDisk.children []) =
      (loopedDisk.children []).map (describe loopedDisk path) := by
    rw [listDirectory_of_ascending hascending]
    rfl
  have hdisk : (viewOf loopedDisk).disk = loopedDisk := rfl
  rw [lsCommand_of_directory (by simp [hletters]) htargets hresolve hdir, hoptions, hdisk, hlisting,
    List.map_map]
  rfl

/-- Both links lead to a directory, and in the listing of `.` both have a slash.  By the path of
thirty links the system finds the same directory, but does not follow twenty-one more from there. -/
theorem refused_link_unmarked :
    loopedDisk.WellFormed ∧ loopedDisk.lookUp "/." = .ok ([], .directory) ∧
    loopedDisk.lookUp ("/" ++ roundabout) = .ok ([], .directory) ∧
    loopedDisk.LeadsToDirectory [] "m" ∧
    lsCommand (viewOf loopedDisk) ["."] = .print "l/\nm/\n" ∧
    lsCommand (viewOf loopedDisk) [roundabout] = .print "l/\nm\n" := by
  have hhere : loopedDisk.lookUp "/." = .ok ([], .directory) := by rfl
  have hflags : isFlags roundabout = false := by decide +kernel
  have hresolve : (viewOf loopedDisk).resolve roundabout = .ok ("/" ++ roundabout) := by
    decide +kernel
  refine ⟨wellFormed_loopedDisk, hhere, lookUp_roundabout, ⟨40, [], by rfl⟩, ?_, ?_⟩
  · refine (lsCommand_loopedDisk rfl rfl hhere).trans (congrArg Report.print ?_)
    decide +kernel
  · refine (lsCommand_loopedDisk hflags hresolve lookUp_roundabout).trans
      (congrArg Report.print ?_)
    decide +kernel

end PipeShell.Builtin
