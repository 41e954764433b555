import PipeShell.Program.Search
import PipeShell.Proofs.Path.Components

/-!
# Programs that are found

A search has three cases: the empty name (`search_of_empty`), a name with a slash
(`search_of_slash`) and any other (`search_of_bare`).  Which program a name stands for depends on
the disk only by what can be run there (`find_eq_of_isRunnable_eq`).  The path that is found ends in
the name, behind a slash if there is anything in front of it (`path_of_find`).
-/

namespace PipeShell

namespace Program

variable {env : Environment} {disk disk' : Disk} {s : ShellState} {dir name path : String}

/-- Where the same paths lead to programs, the same programs are found. -/
theorem find_eq_of_isRunnable_eq (h : ∀ path, disk'.isRunnable path = disk.isRunnable path) :
    find env disk' s name = find env disk s name := by
  have hrunnable : runnable? disk' = runnable? disk := by
    funext path
    simp only [runnable?, h path]
  simp only [find, search, hrunnable]

/-- A path is passed over exactly if it leads to no program. -/
lemma runnable?_eq_none_iff : runnable? disk path = none ↔ disk.isRunnable path = false := by
  simp [runnable?]

/-- A path that leads to a program is taken as it stands. -/
lemma runnable?_eq_some_iff {found : String} :
    runnable? disk path = some found ↔ found = path ∧ disk.isRunnable found = true := by
  unfold runnable?
  split_ifs with hrun
  · constructor
    · rintro ⟨⟩
      exact ⟨rfl, hrun⟩
    · rintro ⟨rfl, -⟩
      rfl
  · refine iff_of_false nofun ?_
    rintro ⟨rfl, hrun'⟩
    exact hrun hrun'

/-- The empty name stands for no program. -/
lemma search_of_empty (disk : Disk) (searchPath dir : String) :
    search disk searchPath dir "" = none := rfl

/-- A name with a slash is looked for at one path only. -/
lemma search_of_slash (hslash : '/' ∈ name.toList) (searchPath : String) :
    search disk searchPath dir name = runnable? disk (Path.join dir name) := by
  have hname : name ≠ "" := by
    rintro rfl
    cases hslash
  rw [search, if_neg (by simpa using hname), if_pos (by simpa using hslash)]

/-- Any other name is looked for in the directories of the search path. -/
lemma search_of_bare (hname : name ≠ "") (hslash : '/' ∉ name.toList) (searchPath : String) :
    search disk searchPath dir name = (SearchPath.entries searchPath).findSome? fun entry =>
      runnable? disk (Path.join (Path.join dir entry) name) := by
  rw [search, if_neg (by simpa using hname), if_neg (by simpa using hslash)]

/-- The path that is found for a name ends in that name. -/
theorem path_of_find (h : find env disk s name = some path) :
    path = name ∨ ∃ front, path = front ++ "/" ++ name := by
  unfold find search at h
  split_ifs at h with hempty hslash
  · rw [(runnable?_eq_some_iff.mp h).1]
    exact Path.join_cases s.dir name
  · obtain ⟨entry, -, hentry⟩ := List.exists_of_findSome?_eq_some h
    rw [(runnable?_eq_some_iff.mp hentry).1]
    exact Path.join_cases (Path.join s.dir entry) name

end Program

end PipeShell
