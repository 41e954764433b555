import PipeShell.Program.Launch
import PipeShell.Proofs.Execution.Run
import PipeShell.Proofs.Token.References
import PipeShell.Proofs.Variable.Edits

/-!
# The variables of a child

A program that the shell starts gets the inherited variables, with those put in that were set and
those taken out that were removed.  Name by name this is the entry of the overlay, and where there
is none the inherited variable (`get?_childEnvironment`).  The shell itself looks a variable up in
the same order, so it agrees with its children on every name that a variable can have
(`child_agrees_with_references`).

No variable has a name with an equals sign in it.  Still the shell has a value for some such texts:
it asks the inherited environment, which finds them inside the values of variables
(`child_lacks_text_inside_value`).
-/

namespace PipeShell

namespace NameMap

variable {α : Type} {k : String}

/-- Pairs with other names change nothing about a name. -/
lemma get?_foldl_insert_of_forall_ne {l : List (String × α)} (h : ∀ p ∈ l, p.1 ≠ k)
    (m : NameMap α) : (l.foldl (fun m p => m.insert p.1 p.2) m).get? k = m.get? k := by
  induction l generalizing m with
  | nil => rfl
  | cons p l ih =>
      obtain ⟨hp, hl⟩ := List.forall_mem_cons.mp h
      rw [List.foldl_cons, ih hl, get?_insert_of_ne m (Ne.symm hp)]

/-- Where all pairs with a name have one value, the name has this value in the end. -/
lemma get?_foldl_insert_of_mem {l : List (String × α)} {v : α} (hmem : (k, v) ∈ l)
    (hall : ∀ w, (k, w) ∈ l → w = v) (m : NameMap α) :
    (l.foldl (fun m p => m.insert p.1 p.2) m).get? k = some v := by
  induction l generalizing m with
  | nil => cases hmem
  | cons p l ih =>
      have hrest : ∀ w, (k, w) ∈ l → w = v := fun w hw => hall w (List.mem_cons_of_mem p hw)
      rw [List.foldl_cons]
      by_cases hlater : (k, v) ∈ l
      · exact ih hlater hrest _
      · obtain rfl : (k, v) = p := (List.mem_cons.mp hmem).resolve_right hlater
        rw [get?_foldl_insert_of_forall_ne, get?_insert_self]
        rintro ⟨k', w⟩ hw rfl
        exact hlater (hrest w hw ▸ hw)

/-- The names that were taken out are gone, and all others are as before. -/
lemma get?_foldl_erase (l : List String) (m : NameMap α) (k : String) :
    (l.foldl (fun m name => m.erase name) m).get? k = if k ∈ l then none else m.get? k := by
  induction l generalizing m with
  | nil => rfl
  | cons name l ih =>
      rw [List.foldl_cons, ih, get?_erase]
      by_cases hl : k ∈ l
      · simp [hl]
      · by_cases hname : k = name <;> simp [hl, hname]

end NameMap

/-- What has no separator is not cut. -/
lemma Text.cut_eq_none {sep : Char} {cs : List Char} (h : sep ∉ cs) : cut sep cs = none := by
  induction cs with
  | nil => rfl
  | cons c cs ih =>
      have hc : ¬ c = sep := fun hc => h (hc ▸ List.mem_cons_self)
      rw [cut, if_neg hc, ih fun hcs => h (List.mem_cons_of_mem c hcs)]
      rfl

/-- A name without an equals sign has the value of the variable of this name and no other. -/
lemma Environment.value?_eq_get? {name : String} (h : '=' ∉ name.toList) (env : Environment) :
    env.value? name = env.vars.get? name := by
  have hcut : Text.cutText '=' name = none := by
    rw [Text.cutText, Text.cut_eq_none h]
    rfl
  unfold value? valueInside?
  rw [hcut]
  cases env.vars.get? name <;> rfl

namespace Overlay

variable {o : Overlay} {name : String}

/-- A child has what the overlay holds under a name, and the inherited variable where it holds
nothing. -/
theorem get?_childEnvironment (o : Overlay) (env : Environment) (name : String) :
    (o.childEnvironment env).vars.get? name =
      match o.changes.get? name with
      | some change => change
      | none => env.vars.get? name := by
  unfold childEnvironment
  dsimp only
  rw [NameMap.get?_foldl_erase]
  cases hget : o.changes.get? name with
  | none =>
      have hremoved : name ∉ o.removed := by simp [mem_removed_iff, hget]
      rw [if_neg hremoved, NameMap.get?_foldl_insert_of_forall_ne]
      rintro ⟨_, value⟩ hassigned rfl
      cases hget.symm.trans (mem_assigned_iff.mp hassigned)
  | some change =>
      cases change with
      | none => rw [if_pos (mem_removed_iff.mpr hget)]
      | some value =>
          have hremoved : name ∉ o.removed := by simp [mem_removed_iff, hget]
          rw [if_neg hremoved]
          -- the list may hold the name again, but with this value only
          refine NameMap.get?_foldl_insert_of_mem (mem_assigned_iff.mpr hget) ?_ _
          intro other hother
          cases hget.symm.trans (mem_assigned_iff.mp hother)
          rfl

/-- A child and the shell see the same value under a name without an equals sign. -/
lemma get?_childEnvironment_eq_value? (h : '=' ∉ name.toList) (o : Overlay) (env : Environment) :
    (o.childEnvironment env).vars.get? name = o.value? env name := by
  cases hget : o.changes.get? name with
  | none =>
      simp only [get?_childEnvironment, hget, value?_of_get?_none hget,
        Environment.value?_eq_get? h]
  | some change => simp only [get?_childEnvironment, hget, value?_of_get? hget]

/-- A child sees what the last successful attempt on a name has left. -/
lemma get?_childEnvironment_edited {es : List Edit} {e : Edit} (h : o.lastEdit? es name = some e)
    (env : Environment) : ((o.edited es).childEnvironment env).vars.get? name = e.entry := by
  rw [get?_childEnvironment, get?_edited, h]

end Overlay

namespace Shell

/-- A child and the shell see the same variables.  After any attempts to set and to remove
variables, the value that a child gets under a name is the value that the shell has for it, if the
name has no equals sign in it; it is what a reference to the name is replaced by, and every line is
read as if it referred to the variables of the child.  So a variable that was removed last is not
there for a child, even if it was inherited, and one that was set last is there with its value, even
if it was removed before. -/
theorem child_agrees_with_references (host : Host) (s : ShellState) (es : List Overlay.Edit)
    (program typed : String) (args : List String) (input : ByteArray) :
    let s' : ShellState := { s with overlay := s.overlay.edited es }
    let child := (Program.callFrom host s' program typed args input).env.vars
    (∀ name, '=' ∉ name.toList → child.get? name = s'.var? host.env name) ∧
    (∀ name, isValidName name = true →
      Token.scanWith (s'.var? host.env) (Token.quotedReference name) =
        .ok [.word ((child.get? name).getD "") true]) ∧
    (∀ line, Token.scanWith (s'.var? host.env) line = Token.scanWith child.get? line) ∧
    (∀ name, s.overlay.lastEdit? es name = some (.remove name) → child.get? name = none) ∧
    (∀ name value, s.overlay.lastEdit? es name = some (.assign name value) →
      child.get? name = some (if name = "PATH" then SearchPath.clean value else value)) := by
  intro s' child
  have hagree : ∀ name, '=' ∉ name.toList → child.get? name = s'.var? host.env name :=
    fun name hname => Overlay.get?_childEnvironment_eq_value? hname s'.overlay host.env
  have hvalid : ∀ name, isValidName name = true → s'.var? host.env name = child.get? name :=
    fun name hname => (hagree name (equals_not_mem_of_isValidName hname)).symm
  refine ⟨hagree, ?_, Token.scanWith_congr hvalid, ?_, ?_⟩
  · intro name hname
    rw [Token.scanWith_quotedReference hname, hvalid name hname]
  · intro name hlast
    exact Overlay.get?_childEnvironment_edited hlast host.env
  · intro name value hlast
    exact Overlay.get?_childEnvironment_edited hlast host.env

/-- A host with two inherited variables. -/
def inheritingHost : Host :=
  { bareHost with env := ⟨(NameMap.empty.insert "A" "B=C").insert "HOME" "/home"⟩ }

/-- An inherited variable that was removed, one that was removed and set again, and a line that
refers to both. -/
theorem child_agrees_with_references_after_removal :
    let s : ShellState := (newShell (.empty [])).state
    let s' : ShellState :=
      { s with overlay := s.overlay.edited [.remove "A", .remove "HOME", .assign "HOME" "a b"] }
    let child := (Program.callFrom inheritingHost s' "/bin/tool" "tool" [] .empty).env.vars
    child.get? "A" = none ∧ child.get? "HOME" = some "a b" ∧
    s'.var? inheritingHost.env "HOME" = some "a b" ∧
    Token.scanWith (s'.var? inheritingHost.env) "\"$HOME\"" = .ok [.word "a b" true] ∧
    Token.scanWith child.get? "[$A$HOME]" = .ok [.word "[a b]" false] := by
  obtain ⟨hagree, hreference, hline, hremoved, hassigned⟩ :=
    child_agrees_with_references inheritingHost (newShell (.empty [])).state
      [.remove "A", .remove "HOME", .assign "HOME" "a b"] "/bin/tool" "tool" [] .empty
  have hhome := hassigned "HOME" "a b" rfl
  refine ⟨hremoved "A" rfl, hhome, ?_, ?_, ?_⟩
  · rw [← hagree "HOME" (by decide)]
    exact hhome
  · exact hreference "HOME" (by decide)
  · exact (hline "[$A$HOME]").symm

/-- The inherited variable `A` is `B=C`, and the shell sets it to `x`.  Its children have only the
new value, but the shell still has a value for the text `A=B`. -/
theorem child_lacks_text_inside_value :
    let s : ShellState := (newShell (.empty [])).state
    let s' : ShellState := { s with overlay := s.overlay.edited [.assign "A" "x"] }
    let child := (Program.callFrom inheritingHost s' "/bin/tool" "tool" [] .empty).env.vars
    child.get? "A" = some "x" ∧ child.get? "A=B" = none ∧
      s'.var? inheritingHost.env "A=B" = some "C" :=
  ⟨rfl, rfl, rfl⟩

end Shell

end PipeShell
