import PipeShell.Proofs.Results
import PipeShell.State

/-!
# What a change does to the state

`ShellState.Applied` lists the ways in which a change can come out, each with the state that it
leaves and the error, if there is one; there is no other way (`applied_apply`).  A directory is
changed or not, aliases and the wish to leave are never refused, and several variables are changed
one after the other, up to the first that is refused (`applyEach_cases`).

So a change that is refused leaves everything but the variables as it was (`Applied.keeps`).
-/

namespace PipeShell.ShellState

/-! ## One step after the other -/

section Items

variable {α : Type} {step : ShellState → α → Except StateError ShellState} {s s' : ShellState}
  {as : List α}

/-- All steps are accepted, or the first one that is refused ends them. -/
theorem applyEach_cases (step : ShellState → α → Except StateError ShellState) (s : ShellState)
    (as : List α) :
    (∃ s', as.foldlM step s = .ok s' ∧ applyEach step s as = (s', none)) ∨
      ∃ front a rest s' e, as = front ++ a :: rest ∧ front.foldlM step s = .ok s' ∧
        step s' a = .error e ∧ applyEach step s as = (s', some e) := by
  induction as generalizing s with
  | nil => exact .inl ⟨s, rfl, rfl⟩
  | cons a as ih =>
      rw [applyEach]
      cases hstep : step s a with
      | error e => exact .inr ⟨[], a, as, s, e, rfl, rfl, hstep, rfl⟩
      | ok mid =>
          have hfold : ∀ more : List α, (a :: more).foldlM step s = more.foldlM step mid := by
            intro more
            rw [List.foldlM_cons, hstep]
            rfl
          rcases ih mid with ⟨s', hall, hdone⟩ | ⟨front, b, rest, s', e, rfl, hfront, hb, hstop⟩
          · exact .inl ⟨s', (hfold as).trans hall, hdone⟩
          · exact .inr ⟨a :: front, b, rest, s', e, rfl, (hfold front).trans hfront, hb, hstop⟩

/-- Steps that touch nothing but the variables do so one after the other, too. -/
lemma eq_withOverlay_of_foldlM
    (hstep : ∀ s a s', step s a = .ok s' → s' = { s with overlay := s'.overlay })
    (h : as.foldlM step s = .ok s') : s' = { s with overlay := s'.overlay } := by
  induction as generalizing s with
  | nil =>
      cases h
      rfl
  | cons a as ih =>
      rw [List.foldlM_cons] at h
      obtain ⟨mid, hmid, hrest⟩ := bind_eq_ok_iff.mp h
      rw [ih hrest, hstep s a mid hmid]

/-- Where no step was taken, nothing has changed. -/
lemma eq_or_ne_nil_of_foldlM (h : as.foldlM step s = .ok s') : s' = s ∨ as ≠ [] := by
  cases as with
  | nil =>
      cases h
      exact .inl rfl
  | cons a as => exact .inr (List.cons_ne_nil a as)

end Items

variable {s s' : ShellState} {disk : Disk} {c : Change} {e : StateError}

/-- Setting variables changes nothing but the overlay. -/
lemma eq_withOverlay_of_setVars {vars : List (String × String)}
    (h : vars.foldlM setVar s = .ok s') : s' = { s with overlay := s'.overlay } := by
  refine eq_withOverlay_of_foldlM (fun s p s' hset => ?_) h
  obtain ⟨overlay, -, rfl⟩ := map_eq_ok_iff.mp hset
  rfl

/-- So does removing them. -/
lemma eq_withOverlay_of_unsetVars {names : List String}
    (h : names.foldlM unsetVar s = .ok s') : s' = { s with overlay := s'.overlay } := by
  refine eq_withOverlay_of_foldlM (fun s name s' hunset => ?_) h
  obtain ⟨overlay, -, rfl⟩ := map_eq_ok_iff.mp hunset
  rfl

/-! ## All changes -/

/-- The state with aliases, the later of two with the same name in force. -/
def withAliases (s : ShellState) (definitions : List (String × String)) : ShellState :=
  { s with aliases := definitions.foldl (fun m p => m.insert p.1 p.2) s.aliases }

/-- Aliases that are set one after the other are all set in the end. -/
lemma foldl_setAlias (s : ShellState) (definitions : List (String × String)) :
    definitions.foldl (fun s p => s.setAlias p.1 p.2) s = s.withAliases definitions := by
  induction definitions generalizing s with
  | nil => rfl
  | cons p definitions ih =>
      rw [List.foldl_cons, ih]
      rfl

/-- How a change can come out, and the state that it leaves. -/
inductive Applied (s : ShellState) (disk : Disk) :
    Change → ShellState → Option StateError → Prop
  /-- The path leads to a directory. -/
  | moved {path dir : String} (hdir : disk.realDirectory? (Path.join s.dir path) = some dir) :
      Applied s disk (.changeDir path) { s with dir } none
  /-- The path leads to no directory. -/
  | notMoved {path : String} (hdir : disk.realDirectory? (Path.join s.dir path) = none) :
      Applied s disk (.changeDir path) s (some (.invalidPath (Path.join s.dir path)))
  /-- All variables are set. -/
  | varsSet {vars : List (String × String)} {s' : ShellState}
      (hset : vars.foldlM setVar s = .ok s') : Applied s disk (.setVars vars) s' none
  /-- A variable cannot be set: those before it are, and those behind it are not. -/
  | varRefused {front rest : List (String × String)} {p : String × String} {s' : ShellState}
      {e : StateError} (hfront : front.foldlM setVar s = .ok s')
      (hrefused : s'.setVar p = .error e) :
      Applied s disk (.setVars (front ++ p :: rest)) s' (some e)
  /-- All variables are removed. -/
  | varsUnset {names : List String} {s' : ShellState} (hunset : names.foldlM unsetVar s = .ok s') :
      Applied s disk (.unsetVars names) s' none
  /-- A variable cannot be removed: those before it are, and those behind it are not. -/
  | nameRefused {front rest : List String} {name : String} {s' : ShellState} {e : StateError}
      (hfront : front.foldlM unsetVar s = .ok s') (hrefused : s'.unsetVar name = .error e) :
      Applied s disk (.unsetVars (front ++ name :: rest)) s' (some e)
  /-- Aliases can always be set. -/
  | aliasesSet {definitions : List (String × String)} :
      Applied s disk (.setAliases definitions) (s.withAliases definitions) none
  /-- The wish to leave is always heard. -/
  | exitAsked {code : Int} :
      Applied s disk (.requestExit code) { s with exitRequest := some code } none

-- `delta` and not `unfold`, which derives an equation by evaluating what the function looks up

/-- Going to a directory goes to its canonical path. -/
lemma changeDir_of_some {path dir : String}
    (hdir : disk.realDirectory? (Path.join s.dir path) = some dir) :
    s.changeDir disk path = .ok { s with dir } := by
  delta changeDir
  dsimp only
  rw [hdir]

/-- Going to what is no directory is refused. -/
lemma changeDir_of_none {path : String}
    (hdir : disk.realDirectory? (Path.join s.dir path) = none) :
    s.changeDir disk path = .error (.invalidPath (Path.join s.dir path)) := by
  delta changeDir
  dsimp only
  rw [hdir]

/-- A change of directory is accepted if the directory can be gone to. -/
lemma apply_changeDir_of_ok {path : String} (h : s.changeDir disk path = .ok s') :
    s.apply disk (.changeDir path) = (s', none) := by
  delta apply
  dsimp only
  rw [h]

/-- Otherwise it is refused, and the state is as it was. -/
lemma apply_changeDir_of_error {path : String} (h : s.changeDir disk path = .error e) :
    s.apply disk (.changeDir path) = (s, some e) := by
  delta apply
  dsimp only
  rw [h]

/-- Setting variables goes from one to the next, up to the first that is refused. -/
lemma apply_setVars (s : ShellState) (disk : Disk) (vars : List (String × String)) :
    s.apply disk (.setVars vars) = applyEach setVar s vars := rfl

/-- So does removing them. -/
lemma apply_unsetVars (s : ShellState) (disk : Disk) (names : List String) :
    s.apply disk (.unsetVars names) = applyEach unsetVar s names := rfl

/-- Setting aliases is never refused. -/
lemma apply_setAliases (s : ShellState) (disk : Disk) (definitions : List (String × String)) :
    s.apply disk (.setAliases definitions) =
      (definitions.foldl (fun s p => s.setAlias p.1 p.2) s, none) := rfl

/-- A change comes out in one of the ways of `Applied`. -/
theorem applied_apply (s : ShellState) (disk : Disk) (c : Change) :
    Applied s disk c (s.apply disk c).1 (s.apply disk c).2 := by
  cases c with
  | changeDir path =>
      cases hdir : disk.realDirectory? (Path.join s.dir path) with
      | some dir =>
          rw [apply_changeDir_of_ok (changeDir_of_some hdir)]
          exact .moved hdir
      | none =>
          rw [apply_changeDir_of_error (changeDir_of_none hdir)]
          exact .notMoved hdir
  | setVars vars =>
      rw [apply_setVars]
      rcases applyEach_cases setVar s vars with
        ⟨s', hall, heq⟩ | ⟨front, p, rest, s', e, rfl, hfront, hp, heq⟩ <;> rw [heq]
      · exact .varsSet hall
      · exact .varRefused hfront hp
  | unsetVars names =>
      rw [apply_unsetVars]
      rcases applyEach_cases unsetVar s names with
        ⟨s', hall, heq⟩ | ⟨front, name, rest, s', e, rfl, hfront, hname, heq⟩ <;> rw [heq]
      · exact .varsUnset hall
      · exact .nameRefused hfront hname
  | setAliases definitions =>
      rw [apply_setAliases, foldl_setAlias]
      exact .aliasesSet
  | requestExit code => exact .exitAsked

/-- `Applied` tells all that can come of a change. -/
lemma applied_of_apply {result : Option StateError} (h : s.apply disk c = (s', result)) :
    Applied s disk c s' result := by
  have happlied := applied_apply s disk c
  rwa [h] at happlied

/-- Variables are not all set where one of them is refused. -/
lemma Applied.exists_refused_var {vars : List (String × String)}
    (h : Applied s disk (.setVars vars) s' (some e)) :
    ∃ front p rest, vars = front ++ p :: rest ∧ front.foldlM setVar s = .ok s' ∧
      s'.setVar p = .error e := by
  cases h with
  | varRefused hfront hrefused => exact ⟨_, _, _, rfl, hfront, hrefused⟩

/-- Variables are not all removed where one of them is refused. -/
lemma Applied.exists_refused_name {names : List String}
    (h : Applied s disk (.unsetVars names) s' (some e)) :
    ∃ front name rest, names = front ++ name :: rest ∧ front.foldlM unsetVar s = .ok s' ∧
      s'.unsetVar name = .error e := by
  cases h with
  | nameRefused hfront hrefused => exact ⟨_, _, _, rfl, hfront, hrefused⟩

/-- A change that is refused leaves all as it was, unless it is one of several variables, some of
which come before the one that is refused. -/
theorem Applied.eq_or_exists_refused (h : Applied s disk c s' (some e)) :
    s' = s ∨
      (∃ front p rest, c = .setVars (front ++ p :: rest) ∧ front ≠ [] ∧
        front.foldlM setVar s = .ok s' ∧ s'.setVar p = .error e) ∨
      ∃ front name rest, c = .unsetVars (front ++ name :: rest) ∧ front ≠ [] ∧
        front.foldlM unsetVar s = .ok s' ∧ s'.unsetVar name = .error e := by
  cases h with
  | notMoved => exact .inl rfl
  | varRefused hfront hrefused =>
      exact (eq_or_ne_nil_of_foldlM hfront).imp_right fun hne =>
        .inl ⟨_, _, _, rfl, hne, hfront, hrefused⟩
  | nameRefused hfront hrefused =>
      exact (eq_or_ne_nil_of_foldlM hfront).imp_right fun hne =>
        .inr ⟨_, _, _, rfl, hne, hfront, hrefused⟩

/-- A change that is refused leaves everything but the variables as it was. -/
theorem Applied.keeps (h : Applied s disk c s' (some e)) :
    s'.dir = s.dir ∧ s'.aliases = s.aliases ∧ s'.exitRequest = s.exitRequest := by
  rcases h.eq_or_exists_refused with
    rfl | ⟨front, p, rest, -, -, hfront, -⟩ | ⟨front, name, rest, -, -, hfront, -⟩
  · exact ⟨rfl, rfl, rfl⟩
  · rw [eq_withOverlay_of_setVars hfront]
    exact ⟨rfl, rfl, rfl⟩
  · rw [eq_withOverlay_of_unsetVars hfront]
    exact ⟨rfl, rfl, rfl⟩

/-- Only a change of directory that is accepted changes the directory. -/
lemma Applied.dir_eq {result : Option StateError} (h : Applied s disk c s' result)
    (hkept : ¬ ((∃ path, c = .changeDir path) ∧ result = none)) : s'.dir = s.dir := by
  cases h with
  | moved => exact absurd ⟨⟨_, rfl⟩, rfl⟩ hkept
  | varsSet hset =>
      rw [eq_withOverlay_of_setVars hset]
  | varRefused hfront =>
      rw [eq_withOverlay_of_setVars hfront]
  | varsUnset hunset =>
      rw [eq_withOverlay_of_unsetVars hunset]
  | nameRefused hfront =>
      rw [eq_withOverlay_of_unsetVars hfront]
  | notMoved | aliasesSet | exitAsked => rfl

/-- Only a change of aliases changes the aliases. -/
lemma Applied.aliases_eq {result : Option StateError} (h : Applied s disk c s' result)
    (hkept : ∀ definitions, c ≠ .setAliases definitions) : s'.aliases = s.aliases := by
  cases h with
  | aliasesSet => exact absurd rfl (hkept _)
  | varsSet hset =>
      rw [eq_withOverlay_of_setVars hset]
  | varRefused hfront =>
      rw [eq_withOverlay_of_setVars hfront]
  | varsUnset hunset =>
      rw [eq_withOverlay_of_unsetVars hunset]
  | nameRefused hfront =>
      rw [eq_withOverlay_of_unsetVars hfront]
  | moved | notMoved | exitAsked => rfl

end PipeShell.ShellState
