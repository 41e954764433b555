import PipeShell.Text.Cluster

/-!
# Backspaces

In a line that was typed, a backspace takes back the cluster before it.  What it takes back is
counted in bytes, and the count is kept in a single byte: of a cluster of 256 bytes or more only the
rest is taken, from its end.  Such a cut can fall inside a character, and then the line has no
meaning (`backspaced` is `none`).

A line without backspaces is what was typed (`backspaced_of_not_mem`).
-/

namespace PipeShell.Text

/-- What stands after some typing. -/
structure Typed where
  /-- The characters that stand, the last one first. -/
  standing : List Char
  /-- How many bytes each backspace would take, the next one first. -/
  widths : List Nat
deriving Repr, DecidableEq

/-- Every width is less than this. -/
def widthModulus : Nat := 256

/-- The number of bytes of a text. -/
def byteCount (cs : List Char) : Nat :=
  cs.foldr (fun c n => c.utf8Size + n) 0

/-- The characters without the first `n` bytes, which must be whole characters. -/
def dropBytes : Nat → List Char → Option (List Char)
  | 0, cs => some cs
  | _ + 1, [] => none
  | n + 1, c :: cs => if c.utf8Size ≤ n + 1 then dropBytes (n + 1 - c.utf8Size) cs else none
termination_by _ cs => cs.length

namespace Typed

/-- Nothing was typed. -/
def empty : Typed := ⟨[], []⟩

/-- One more cluster. -/
def add (t : Typed) (cluster : List Char) : Typed :=
  ⟨cluster.reverse ++ t.standing, byteCount cluster % widthModulus :: t.widths⟩

/-- The last cluster is taken back.  There may be none. -/
def erase (t : Typed) : Option Typed :=
  match t.widths with
  | [] => some t
  | width :: widths => (dropBytes width t.standing).map (⟨·, widths⟩)

/-- One more cluster or a backspace. -/
def press (t : Typed) (cluster : List Char) : Option Typed :=
  if cluster = ['\x08'] then t.erase else some (t.add cluster)

end Typed

/-- The line that stands after `line` was typed. -/
def backspaced (line : String) : Option String :=
  ((clusters line.toList).foldlM Typed.press .empty).map fun t => String.ofList t.standing.reverse

/-- Clusters without a backspace all stay, behind what stands already. -/
theorem foldlM_press (clusters : List (List Char)) (h : ['\x08'] ∉ clusters) (t : Typed) :
    (clusters.foldlM Typed.press t).map (·.standing)
      = some (clusters.flatten.reverse ++ t.standing) := by
  induction clusters generalizing t with
  | nil => simp
  | cons cluster clusters ih =>
    simp only [List.mem_cons, not_or] at h
    simp [Typed.press, Ne.symm h.1, ih h.2, Typed.add]

/-- A line without backspaces stays as it is. -/
theorem backspaced_of_not_mem {line : String} (h : '\x08' ∉ line.toList) :
    backspaced line = some line := by
  have apart : ['\x08'] ∉ clusters line.toList := fun member => h <| by
    rw [← flatten_clusters line.toList]
    exact List.mem_flatten.mpr ⟨_, member, by simp⟩
  have typed := foldlM_press _ apart .empty
  rw [flatten_clusters] at typed
  rw [backspaced]
  cases hfold : (clusters line.toList).foldlM Typed.press Typed.empty with
  | none => simp [hfold] at typed
  | some t =>
    simp only [hfold, Option.map_some, Option.some.injEq] at typed
    simp [typed, Typed.empty]

end PipeShell.Text
