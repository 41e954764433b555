import PipeShell.Proofs.Disk.Spelling
import PipeShell.Proofs.Program.Search
import PipeShell.Proofs.Variable.Edits
import PipeShell.Proofs.Variable.SearchPath

/-!
# Programs and the cleaned search path

When a search path is set, it is cleaned before it is stored.  That changes no program that is found
(`cleaning_keeps_programs`).  A search looks at one path for each entry (`candidates`), and an entry
that was taken out repeats the components of an earlier one.  So all that is asked of the disk is
that candidates with the same components are programs together (`Disk.RunsAlike`).

Of a disk that is walked name by name this is true, unless a candidate is too long to be taken
(`runsAlike_of_taken`).
-/

namespace PipeShell

/-- Among these paths, any two with the same components are programs together or not at all. -/
def Disk.RunsAlike (d : Disk) (paths : List String) : Prop :=
  ∀ p ∈ paths, ∀ q ∈ paths, Path.same p q = true → d.isRunnable p = d.isRunnable q

namespace Program

variable {disk : Disk} {o : Overlay} {s : ShellState} {value dir name path : String}

/-- The paths that a search for a name may look at, in order. -/
def candidates (searchPath dir name : String) : List String :=
  (SearchPath.entries searchPath).map fun entry => Path.join (Path.join dir entry) name

/-- What is found without a slash is in the first entry that is not empty and holds a program of
this name. -/
lemma search_eq_some_iff_of_bare (hname : name ≠ "") (hslash : '/' ∉ name.toList) :
    search disk value dir name = some path ↔ ∃ front entry rest,
      SearchPath.split value = front ++ entry :: rest ∧ entry ≠ "" ∧
      path = Path.join (Path.join dir entry) name ∧ disk.isRunnable path = true ∧
      ∀ e ∈ front, e ≠ "" → disk.isRunnable (Path.join (Path.join dir e) name) = false := by
  rw [search_of_bare hname hslash, SearchPath.findSome?_entries_eq_some_iff]
  simp only [runnable?_eq_some_iff, runnable?_eq_none_iff, and_assoc]

/-! ## The cleaned search path -/

/-- With the cleaned search path the same programs are found. -/
theorem search_clean (halike : disk.RunsAlike (candidates value dir name)) :
    search disk (SearchPath.clean value) dir name = search disk value dir name := by
  by_cases hname : name = ""
  · rw [hname, search_of_empty, search_of_empty]
  by_cases hslash : '/' ∈ name.toList
  · rw [search_of_slash hslash, search_of_slash hslash]
  · rw [search_of_bare hname hslash, search_of_bare hname hslash, SearchPath.entries_clean]
    refine SearchPath.findSome?_distinct ?_ nofun
    intro e he e' he' hsame hnone
    rw [runnable?_eq_none_iff] at hnone ⊢
    have hentry : e ≠ "" := (SearchPath.mem_entries_iff.mp he).2
    have hentry' : e' ≠ "" := (SearchPath.mem_entries_iff.mp he').2
    have hcandidates : Path.same (Path.join (Path.join dir e) name)
        (Path.join (Path.join dir e') name) = true :=
      Path.same_join_left (Path.same_join_right hsame dir) (Path.join_ne_empty hentry dir)
        (Path.join_ne_empty hentry' dir) (Path.isAbsolute_of_bare hslash)
    rw [← halike _ (List.mem_map_of_mem he) _ (List.mem_map_of_mem he') hcandidates]
    exact hnone

/-- A state in which the search path was set searches the cleaned value. -/
lemma find_of_set (hset : o.set "PATH" value = .ok s.overlay) (env : Environment) (disk : Disk)
    (name : String) :
    find env disk s name = search disk (SearchPath.clean value) s.dir name := by
  have hget : s.overlay.changes.get? "PATH" = some (some (SearchPath.clean value)) := by
    rw [(Overlay.eq_insert_of_set hset).2]
    exact NameMap.get?_insert_self ..
  rw [find, ShellState.var?, Overlay.value?_of_get? hget, Option.getD_some]

/-- On any disk, the candidates of a search run alike if the system takes all of them. -/
theorem runsAlike_of_taken (disk : Disk) (hname : name ≠ "") (hslash : '/' ∉ name.toList)
    (htaken : ∀ path ∈ candidates value dir name, Disk.pathFault? path = none) :
    disk.RunsAlike (candidates value dir name) := by
  intro p hp q hq hsame
  have hfault := htaken p hp
  have hfault' := htaken q hq
  obtain ⟨e, -, rfl⟩ := List.mem_map.mp hp
  obtain ⟨e', -, rfl⟩ := List.mem_map.mp hq
  rw [Disk.isRunnable, disk.lookUp_join_congr hslash hname hsame hfault hfault', Disk.isRunnable]

/-- Setting the search path, which cleans it, changes no program that is found: the shell finds what
a search with the value as it was given finds.  For the empty name that is nothing, for a name with
a slash the path itself, and for any other name the path in the first entry of the value that is not
empty and holds a program of this name; in each case only if a program is there. -/
theorem cleaning_keeps_programs (env : Environment) (disk : Disk) (name : String)
    (hset : o.set "PATH" value = .ok s.overlay)
    (halike : disk.RunsAlike (candidates value s.dir name)) :
    find env disk s name = search disk value s.dir name ∧
    (name = "" → find env disk s name = none) ∧
    (∀ path, '/' ∈ name.toList → (find env disk s name = some path ↔
      path = Path.join s.dir name ∧ disk.isRunnable path = true)) ∧
    (∀ path, name ≠ "" → '/' ∉ name.toList → (find env disk s name = some path ↔
      ∃ front entry rest, SearchPath.split value = front ++ entry :: rest ∧ entry ≠ "" ∧
        path = Path.join (Path.join s.dir entry) name ∧ disk.isRunnable path = true ∧
        ∀ e ∈ front, e ≠ "" →
          disk.isRunnable (Path.join (Path.join s.dir e) name) = false)) := by
  have hfind : find env disk s name = search disk value s.dir name := by
    rw [find_of_set hset, search_clean halike]
  rw [hfind]
  refine ⟨rfl, ?_, ?_, ?_⟩
  · rintro rfl
    exact search_of_empty disk value s.dir
  · intro path hslash
    rw [search_of_slash hslash, runnable?_eq_some_iff]
  · intro path hname hslash
    exact search_eq_some_iff_of_bare hname hslash

/-- A disk with the program `/w/bin/go`. -/
def workDisk : Disk :=
  (((Disk.empty []).put ["w"] .directory).put ["w", "bin"] .directory).put ["w", "bin", "go"]
    (.file .empty true)

/-- A search path with empty and repeated entries. -/
def repeatedPath : String := ":none:bin//:/w/./bin::bin:/w/bin"

/-- A state in `/w` that was given this search path. -/
def workState : ShellState :=
  ⟨"/w", ⟨(∅ : NameMap (Option String)).insert "PATH" (some (SearchPath.clean repeatedPath))⟩, ∅,
    none⟩

/-- The program is found in the first of the four entries that lead to its directory, two of which
are taken out. -/
theorem cleaning_keeps_programs_of_repeated_entries :
    Overlay.empty.set "PATH" repeatedPath = .ok workState.overlay ∧
    SearchPath.clean repeatedPath = "none:bin//:/w/./bin" ∧
    find ⟨∅⟩ workDisk workState "go" = search workDisk repeatedPath "/w" "go" ∧
    search workDisk repeatedPath "/w" "go" = some "/w/bin//go" := by
  have hset : Overlay.empty.set "PATH" repeatedPath = .ok workState.overlay := rfl
  have htaken : ∀ path ∈ candidates repeatedPath workState.dir "go",
      Disk.pathFault? path = none := by decide +kernel
  have halike := runsAlike_of_taken workDisk (by decide) (by decide) htaken
  obtain ⟨hfind, -⟩ := cleaning_keeps_programs ⟨∅⟩ workDisk "go" hset halike
  exact ⟨hset, by decide +kernel, hfind, by decide +kernel⟩

end Program

end PipeShell
