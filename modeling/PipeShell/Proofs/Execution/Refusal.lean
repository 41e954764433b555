import PipeShell.Proofs.Execution.Completion
import PipeShell.Proofs.Text.Fields
import PipeShell.Proofs.Variable.Export

/-!
# Changes that are refused

A change of one thing is made or not made.  A change of several variables is not like that: it stops
at the first variable that is refused, and those before it stay changed.

Commands look at their arguments before they ask for anything, so there is one way left for a
command to fail halfway: `export` with an empty value for the search path, behind other assignments
(`refusal_keeps_all_but_earlier_variables`).
-/

namespace PipeShell

variable {α β : Type} {disk : Disk}

/-- Where every item of a list has a result, the items before a result have the results before it.
-/
lemma exists_of_mapM_append {f : α → Option β} {as : List α} {front rest : List β} {b : β}
    (h : as.mapM f = some (front ++ b :: rest)) :
    ∃ as₁ a as₂, as = as₁ ++ a :: as₂ ∧ as₁.mapM f = some front ∧ f a = some b := by
  induction front generalizing as with
  | nil =>
      cases as with
      | nil => cases h
      | cons a as =>
          rw [List.mapM_cons] at h
          obtain ⟨b', hb, h⟩ := Option.bind_eq_some_iff.mp h
          obtain ⟨bs, -, heq⟩ := Option.bind_eq_some_iff.mp h
          cases heq
          exact ⟨[], a, as, rfl, rfl, hb⟩
  | cons b₁ front ih =>
      cases as with
      | nil => cases h
      | cons a as =>
          rw [List.mapM_cons] at h
          obtain ⟨b', hb, h⟩ := Option.bind_eq_some_iff.mp h
          obtain ⟨bs, hbs, heq⟩ := Option.bind_eq_some_iff.mp h
          cases heq
          obtain ⟨as₁, a', as₂, rfl, hfront, ha'⟩ := ih hbs
          refine ⟨a :: as₁, a', as₂, rfl, ?_, ha'⟩
          rw [List.mapM_cons, hb, hfront]
          rfl

namespace ShellState

variable {s s' : ShellState} {e : StateError}

/-- A variable with a proper name is refused only where the search path would be empty. -/
lemma eq_of_setVar_refused {p : String × String} (hname : isValidName p.1 = true)
    (h : s.setVar p = .error e) : p = ("PATH", "") := by
  obtain ⟨name, value⟩ := p
  by_cases hpath : name = "PATH"
  · subst hpath
    by_cases hvalue : value = ""
    · rw [hvalue]
    · have hset : s.setVar ("PATH", value) =
          .ok (s.withVar "PATH" (SearchPath.clean value)) := by
        simp [setVar, Overlay.set, Overlay.storedValue, hname, hvalue, Except.map, withVar]
      rw [hset] at h
      cases h
  · rw [setVar_of_name s hname hpath value] at h
    cases h

/-- A variable with a proper name can always be removed. -/
lemma unsetVar_ne_error {name : String} (hname : isValidName name = true) :
    s.unsetVar name ≠ .error e := by
  simp [unsetVar, Overlay.unset, hname, Except.map]

end ShellState

namespace Builtin

variable {arg : String} {args : List String}

/-- An assignment names a variable properly, and is written with the equals sign behind it. -/
lemma eq_of_assignment? {p : String × String} (h : assignment? arg = some p) :
    isValidName p.1 = true ∧ arg = p.1 ++ "=" ++ p.2 := by
  obtain ⟨hcut, hname⟩ := Option.filter_eq_some_iff.mp h
  obtain ⟨⟨front, rest⟩, hchars, rfl⟩ := Option.map_eq_some_iff.mp hcut
  refine ⟨hname, String.toList_inj.mp ?_⟩
  rw [(Text.eq_append_of_cut hchars).1]
  simp

/-- The variable that is refused is given by the argument that leaves the search path empty. -/
lemma exists_of_refused {s' : ShellState} {e : StateError} {front rest : List (String × String)}
    {p : String × String} (hvars : args.mapM assignment? = some (front ++ p :: rest))
    (h : s'.setVar p = .error e) :
    ∃ args₁ args₂, args = args₁ ++ "PATH=" :: args₂ ∧ args₁.mapM assignment? = some front := by
  obtain ⟨args₁, arg, args₂, rfl, hfront, harg⟩ := exists_of_mapM_append hvars
  obtain ⟨hname, rfl⟩ := eq_of_assignment? harg
  rw [ShellState.eq_of_setVar_refused hname h]
  exact ⟨args₁, args₂, rfl, hfront⟩

/-- Assignments that do not empty the search path can all be carried out. -/
lemma exists_applyEach_setVar (s : ShellState) {vars : List (String × String)}
    (hvars : args.mapM assignment? = some vars) (hpath : "PATH=" ∉ args) :
    ∃ s', vars.foldlM ShellState.setVar s = .ok s' ∧
      ShellState.applyEach ShellState.setVar s vars = (s', none) := by
  rcases ShellState.applyEach_cases ShellState.setVar s vars with
    hall | ⟨front, p, rest, s', e, rfl, -, hrefused, -⟩
  · exact hall
  · obtain ⟨args₁, args₂, rfl, -⟩ := exists_of_refused hvars hrefused
    exact absurd (List.mem_append_right args₁ List.mem_cons_self) hpath

end Builtin

namespace Shell

variable {host : Host} {index : Nat} {stage : Stage} {b : Builtin} {input : ByteArray}
  {sh left : Shell} {failure : StageFailure}

/-- A built-in command that fails leaves the state as it was, unless it is `export` and has set the
variables before an empty search path. -/
theorem state_of_failed_builtin (hname : Builtin.ofName? stage.command = some b)
    (h : runStage host index stage input sh = (.error failure, left)) :
    left.state = sh.state ∨
      b = .exports ∧ ∃ front rest vars, stage.args = front ++ "PATH=" :: rest ∧ front ≠ [] ∧
        front.mapM Builtin.assignment? = some vars ∧
        vars.foldlM ShellState.setVar sh.state = .ok left.state := by
  cases altered_of_runStage h with
  | not hstate => exact .inl hstate
  | @changed _ _ refusal _ _ hb hasks happlied hresult =>
      cases hb.symm.trans hname
      generalize left.state = state at happlied ⊢
      obtain ⟨e, rfl⟩ : ∃ e, refusal = some e := by
        cases refusal with
        | none => cases hresult
        | some e => exact ⟨e, rfl⟩
      cases hasks with
      | aliases | exit => cases happlied
      | cd =>
          cases happlied
          exact .inl rfl
      -- all names were looked at before the first one is removed, so none is refused
      | unset hnames =>
          obtain ⟨front, name, rest, hargs, -, hrefused⟩ := happlied.exists_refused_name
          have hproper := hnames name (hargs ▸ List.mem_append_right front List.mem_cons_self)
          exact absurd hrefused (ShellState.unsetVar_ne_error hproper)
      -- the names of `export` were looked at as well, but not its values
      | exports hvars =>
          obtain ⟨set, p, rest, rfl, hset, hrefused⟩ := happlied.exists_refused_var
          obtain ⟨front, rest, hargs, hread⟩ := Builtin.exists_of_refused hvars hrefused
          refine (ShellState.eq_or_ne_nil_of_foldlM hset).imp_right fun hne => ?_
          refine ⟨rfl, front, rest, set, hargs, ?_, hread, hset⟩
          rintro rfl
          cases hread
          exact hne rfl

/-- `export` of assignments sets all their variables, if none of them empties the search path. -/
theorem state_of_export {vars : List (String × String)}
    (hname : Builtin.ofName? stage.command = some .exports)
    (hvars : stage.args.mapM Builtin.assignment? = some vars) (hpath : "PATH=" ∉ stage.args) :
    ∃ o left, runStage host index stage input sh = (.ok o, left) ∧
      vars.foldlM ShellState.setVar sh.state = .ok left.state := by
  rw [runStage, hname]
  obtain ⟨s', hset, happly⟩ := Builtin.exists_applyEach_setVar sh.state hvars hpath
  by_cases hargs : stage.args = []
  · rw [hargs] at hvars
    cases hvars
    cases hset
    obtain ⟨text, hprint⟩ : ∃ text, Builtin.exports.run (sh.view host input) stage.args =
        (sh.view host input).keep (.print text) := by
      rw [hargs]
      exact ⟨_, rfl⟩
    obtain ⟨left, hrun, hstate⟩ := runBuiltin_of_print (k := index) hprint
    exact ⟨_, left, hrun, congrArg Except.ok hstate.symm⟩
  · have hask : Builtin.exports.run (sh.view host input) stage.args =
        (sh.view host input).keep (.ask (.setVars vars)) := by
      simp only [Builtin.run, Builtin.exportCommand, List.isEmpty_iff, hargs, if_false, hvars]
    obtain ⟨left, hrun, rfl⟩ := runBuiltin_of_ask (k := index) hask fun _ => happly
    exact ⟨_, left, hrun, hset⟩

/-- A change that is refused leaves directory, aliases and the wish to leave as they were, and the
variables too, but for those that the same change has set or removed before the one that is refused.
A built-in command that fails therefore leaves the state as it was, unless it is `export`, and an
argument empties the search path: then the variables before that argument are set.  All others that
are given in proper assignments are set together. -/
theorem refusal_keeps_all_but_earlier_variables (host : Host) (index : Nat) (stage : Stage)
    (input : ByteArray) (sh : Shell) :
    (∀ disk c s' e, sh.state.apply disk c = (s', some e) →
      s'.dir = sh.state.dir ∧ s'.aliases = sh.state.aliases ∧
      s'.exitRequest = sh.state.exitRequest ∧
      (s' = sh.state ∨
        (∃ front p rest, c = .setVars (front ++ p :: rest) ∧ front ≠ [] ∧
          front.foldlM ShellState.setVar sh.state = .ok s' ∧ s'.setVar p = .error e) ∨
        ∃ front name rest, c = .unsetVars (front ++ name :: rest) ∧ front ≠ [] ∧
          front.foldlM ShellState.unsetVar sh.state = .ok s' ∧ s'.unsetVar name = .error e)) ∧
    (∀ b failure left, Builtin.ofName? stage.command = some b →
      runStage host index stage input sh = (.error failure, left) →
      left.state = sh.state ∨
        b = .exports ∧ ∃ front rest vars, stage.args = front ++ "PATH=" :: rest ∧ front ≠ [] ∧
          front.mapM Builtin.assignment? = some vars ∧
          vars.foldlM ShellState.setVar sh.state = .ok left.state) ∧
    (∀ vars, Builtin.ofName? stage.command = some .exports →
      stage.args.mapM Builtin.assignment? = some vars → "PATH=" ∉ stage.args →
      ∃ o left, runStage host index stage input sh = (.ok o, left) ∧
        vars.foldlM ShellState.setVar sh.state = .ok left.state) := by
  refine ⟨?_, ?_, ?_⟩
  · intro disk c s' e h
    have happlied := ShellState.applied_of_apply h
    obtain ⟨hdir, haliases, hexit⟩ := happlied.keeps
    exact ⟨hdir, haliases, hexit, happlied.eq_or_exists_refused⟩
  · intro b failure left hname h
    exact state_of_failed_builtin hname h
  · intro vars hname hvars hpath
    exact state_of_export hname hvars hpath

/-- `export A=1 PATH=` sets the first variable and fails at the second, and `export A=1 B=2` sets
both. -/
theorem refusal_keeps_all_but_earlier_variables_at_empty_path :
    let sh := newShell (.empty [])
    let vars := [("A", "1"), ("PATH", "")]
    let refused := sh.state.apply sh.disk (.setVars vars)
    let failed := runStage bareHost 0 (plainStage "export" ["A=1", "PATH="]) .empty sh
    (refused.2 = some (.invalidValue .emptySearchPath) ∧ refused.1.dir = sh.state.dir ∧
      refused.1.aliases = sh.state.aliases ∧ refused.1.exitRequest = sh.state.exitRequest) ∧
    ((∃ failure, failed.1 = .error failure) ∧ ∃ front rest vars,
      ["A=1", "PATH="] = front ++ "PATH=" :: rest ∧ front ≠ [] ∧
        front.mapM Builtin.assignment? = some vars ∧
        vars.foldlM ShellState.setVar sh.state = .ok failed.2.state) ∧
    ∃ o left, runStage bareHost 0 (plainStage "export" ["A=1", "B=2"]) .empty sh =
        (.ok o, left) ∧
      [("A", "1"), ("B", "2")].foldlM ShellState.setVar sh.state = .ok left.state := by
  intro sh vars refused failed
  obtain ⟨happly, hfailed, -⟩ := refusal_keeps_all_but_earlier_variables bareHost 0
    (plainStage "export" ["A=1", "PATH="]) .empty sh
  obtain ⟨-, -, hexport⟩ := refusal_keeps_all_but_earlier_variables bareHost 0
    (plainStage "export" ["A=1", "B=2"]) .empty sh
  have hrefused := happly sh.disk (.setVars vars) refused.1 _ rfl
  have hstate : failed.2.state ≠ sh.state := by decide +kernel
  refine ⟨⟨rfl, hrefused.1, hrefused.2.1, hrefused.2.2.1⟩, ⟨⟨_, rfl⟩, ?_⟩, ?_⟩
  · have hrun : failed = (.error (.ofCommand 0 "export" (.invalidArguments "Empty PATH value")),
        failed.2) := rfl
    rcases hfailed .exports _ _ rfl hrun with hkept | ⟨-, hset⟩
    · exact absurd hkept hstate
    · exact hset
  · exact hexport _ rfl rfl (by decide)

/-- A change that is refused, and an `export` that fails, leave a variable behind. -/
theorem refused_export_leaves_variable :
    let sh := newShell (.empty [])
    let refused := sh.state.apply sh.disk (.setVars [("A", "1"), ("PATH", "")])
    let failed := runStage bareHost 0 (plainStage "export" ["A=1", "PATH="]) .empty sh
    (refused.2 = some (.invalidValue .emptySearchPath) ∧ refused.1 ≠ sh.state) ∧
      (∃ failure, failed.1 = .error failure) ∧ failed.2.state ≠ sh.state ∧
      failed.2.state.var? bareHost.env "A" = some "1" ∧
      sh.state.var? bareHost.env "A" = none := by
  intro sh refused failed
  refine ⟨⟨rfl, ?_⟩, ⟨_, rfl⟩, ?_, ?_, ?_⟩ <;> decide +kernel

end Shell

end PipeShell
