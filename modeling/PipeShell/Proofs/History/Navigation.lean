import PipeShell.Proofs.History.Exchange

/-!
# Walking over the log

The cursor is a position in the log, or the one behind its end.  It moves by single steps and stops
at both ends (`moved`), and it returns behind the end whenever the log changes.  So it is known from
the steps that were taken since then: `History.Walked` is a run of all operations, successful or
refused, that keeps these steps, and `Walked.cursor_eq` is the invariant.

A step answers with the line that it comes to, which is an empty one behind the end (`StepsBack`,
`StepsForward`).  Where the log has just changed, going back tells it from its newest line to its
oldest (`walk_older`, `navigation_walks_log`).
-/

namespace PipeShell.History

variable {h : History} {taken : List Direction}

/-! ## Single steps -/

/-- The history with its cursor at a position. -/
def placed (h : History) (i : Nat) (hi : i ≤ h.entries.length) : History :=
  { h with cursor := i, cursor_le := hi }

/-- The position that a step from `i` leads to, in a log of `n` lines. -/
def moved (n i : Nat) : Direction → Nat
  | .older => i - 1
  | .newer => min (i + 1) n

/-- A step back stops at the oldest line; before that it comes to the next older line. -/
structure StepsBack (h : History) : Prop where
  stops_iff : h.navigate .older = (none, h) ↔ h.cursor = 0
  moves : ∀ i, h.cursor = i + 1 → ∃ hi : i < h.entries.length,
    h.navigate .older = (some h.entries[i], h.placed i hi.le)

/-- A step forward stops behind the newest line; it comes there from the newest line, with an empty
line to show; and before that it comes to the next newer line. -/
structure StepsForward (h : History) : Prop where
  stops_iff : h.navigate .newer = (none, h) ↔ h.cursor = h.entries.length
  clears_iff : h.navigate .newer = (some "", h.placed h.entries.length le_rfl) ↔
    h.cursor + 1 = h.entries.length
  moves : ∀ hi : h.cursor + 1 < h.entries.length,
    h.navigate .newer = (some h.entries[h.cursor + 1], h.placed (h.cursor + 1) hi.le)

/-- From the first entry there is no way back. -/
lemma navigate_older_of_zero (hc : h.cursor = 0) : h.navigate .older = (none, h) := by
  rw [navigate, dif_pos hc]

/-- From anywhere else a step back shows the entry before. -/
lemma navigate_older_of_succ {i : Nat} (hc : h.cursor = i + 1) (hi : i < h.entries.length) :
    h.navigate .older = (some h.entries[i], h.placed i hi.le) := by
  have hne : h.cursor ≠ 0 := by omega
  rw [navigate, dif_neg hne]
  simp [hc, placed, hi]

/-- Stepping back works as `StepsBack` says, wherever the cursor is. -/
theorem stepsBack (h : History) : h.StepsBack := by
  have hle := h.cursor_le
  have hmoves : ∀ i, h.cursor = i + 1 → ∃ hi : i < h.entries.length,
      h.navigate .older = (some h.entries[i], h.placed i hi.le) := fun i hc =>
    ⟨by omega, navigate_older_of_succ hc _⟩
  refine ⟨⟨fun hstop => ?_, navigate_older_of_zero⟩, hmoves⟩
  cases hc : h.cursor with
  | zero => rfl
  | succ i =>
      obtain ⟨hi, hmove⟩ := hmoves i hc
      rw [hmove] at hstop
      cases hstop

/-- With an entry behind the one that is shown, a step forward shows that entry. -/
lemma navigate_newer_of_lt (hi : h.cursor + 1 < h.entries.length) :
    h.navigate .newer = (some h.entries[h.cursor + 1], h.placed (h.cursor + 1) hi.le) := by
  rw [navigate, dif_pos hi, List.getElem?_eq_getElem hi]
  rfl

/-- From the last entry a step forward shows an empty line. -/
lemma navigate_newer_of_succ_eq (hc : h.cursor + 1 = h.entries.length) :
    h.navigate .newer = (some "", h.placed h.entries.length le_rfl) := by
  rw [navigate, dif_neg hc.not_lt, dif_pos hc]
  rfl

/-- Behind the last entry there is no way forward. -/
lemma navigate_newer_of_eq (hc : h.cursor = h.entries.length) :
    h.navigate .newer = (none, h) := by
  rw [navigate, dif_neg (by omega), dif_neg (by omega)]

/-- The cursor is behind the newest line, at it, or at an older one. -/
lemma cursor_cases (h : History) : h.cursor = h.entries.length ∨
    h.cursor + 1 = h.entries.length ∨ h.cursor + 1 < h.entries.length := by
  have hle := h.cursor_le
  omega

/-- Stepping forward works as `StepsForward` says, wherever the cursor is. -/
theorem stepsForward (h : History) : h.StepsForward := by
  refine ⟨⟨fun hstop => ?_, navigate_newer_of_eq⟩, ⟨fun hclear => ?_, navigate_newer_of_succ_eq⟩,
    navigate_newer_of_lt⟩
  · rcases h.cursor_cases with hc | hc | hc
    · exact hc
    · rw [navigate_newer_of_succ_eq hc] at hstop
      cases hstop
    · rw [navigate_newer_of_lt hc] at hstop
      cases hstop
  · rcases h.cursor_cases with hc | hc | hc
    · rw [navigate_newer_of_eq hc] at hclear
      cases hclear
    · exact hc
    · rw [navigate_newer_of_lt hc] at hclear
      exact congrArg cursor (Prod.mk.inj hclear).2

/-- A step places the cursor, and that is all it does. -/
theorem history_navigate (h : History) (dir : Direction) :
    ∃ i hi, (h.navigate dir).2 = h.placed i hi ∧ i = moved h.entries.length h.cursor dir := by
  cases dir with
  | older =>
      cases hc : h.cursor with
      | zero =>
          rw [navigate_older_of_zero hc]
          exact ⟨h.cursor, h.cursor_le, rfl, hc⟩
      | succ i =>
          have hi : i < h.entries.length := by
            have hle := h.cursor_le
            omega
          rw [navigate_older_of_succ hc hi]
          exact ⟨i, hi.le, rfl, rfl⟩
  | newer =>
      rcases h.cursor_cases with hc | hc | hc
      · rw [navigate_newer_of_eq hc]
        exact ⟨h.cursor, h.cursor_le, rfl, by simp [moved, hc]⟩
      · rw [navigate_newer_of_succ_eq hc]
        exact ⟨h.entries.length, le_rfl, rfl, by simp [moved, hc]⟩
      · rw [navigate_newer_of_lt hc]
        exact ⟨h.cursor + 1, hc.le, rfl, (Nat.min_eq_left hc.le).symm⟩

/-! ## Runs -/

/-- The history after some steps, and what they answered. -/
def walk (h : History) : List Direction → List (Option String) × History
  | [] => ([], h)
  | dir :: dirs =>
    let step := h.navigate dir
    let rest := walk step.2 dirs
    (step.1 :: rest.1, rest.2)

/-- Steps leave everything but the cursor as it was. -/
lemma history_walk (h : History) (dirs : List Direction) :
    ∃ i hi, (h.walk dirs).2 = h.placed i hi := by
  induction dirs generalizing h with
  | nil => exact ⟨h.cursor, h.cursor_le, rfl⟩
  | cons dir dirs ih =>
      obtain ⟨i, hi, hstep, -⟩ := h.history_navigate dir
      rw [walk, hstep]
      exact ih (h.placed i hi)

/-- Going back from a position answers with the lines before it, the newest first, and then with
nothing. -/
theorem walk_older (h : History) (k : Nat) :
    (h.walk (List.replicate k .older)).1 =
      ((h.entries.take h.cursor).reverse.take k).map some ++
        List.replicate (k - h.cursor) none := by
  induction k generalizing h with
  | zero => simp [walk]
  | succ k ih =>
      rw [List.replicate_succ, walk]
      cases hc : h.cursor with
      | zero =>
          rw [navigate_older_of_zero hc]
          simp only [ih, hc, List.take_zero, List.reverse_nil, List.take_nil, List.map_nil,
            List.nil_append, Nat.sub_zero, List.replicate_succ]
      | succ i =>
          have hi : i < h.entries.length := by
            have hle := h.cursor_le
            omega
          rw [navigate_older_of_succ hc hi]
          simp only [ih, placed, List.take_succ_eq_append_getElem hi, List.reverse_append,
            List.reverse_singleton, List.cons_append, List.nil_append, List.take_succ_cons,
            List.map_cons, Nat.add_sub_add_right]

/-- Going back tells the log from its newest line, up to its oldest and no further. -/
def ToldBackwards (h : History) : Prop :=
  (∀ k ≤ h.entries.length,
    (h.walk (List.replicate k .older)).1 = (h.entries.reverse.take k).map some) ∧
  (h.walk (List.replicate (h.entries.length + 1) .older)).1 = h.entries.reverse.map some ++ [none]

/-- From behind its end all of the log is told. -/
lemma toldBackwards_of_cursor_eq (hc : h.cursor = h.entries.length) : h.ToldBackwards := by
  constructor
  · intro k hk
    rw [walk_older, hc, List.take_length, Nat.sub_eq_zero_of_le hk, List.replicate_zero,
      List.append_nil]
  · rw [walk_older, hc, List.take_length, Nat.add_sub_cancel_left,
      List.take_of_length_le (by simp)]
    rfl

/-- A history is used with all operations, on a disk that can be any, and `taken` are the steps that
were taken over the log since it was last changed. -/
inductive Walked : List Direction → History → Prop
  | inMemory : Walked [] inMemory
  | opened (d : Disk) (path : String) : Walked [] (ofFile d path).1
  | recorded {taken : List Direction} {h : History} (hrun : Walked taken h) (d : Disk)
      (line : String) : Walked [] (h.record d line).history
  | stepped {taken : List Direction} {h : History} (hrun : Walked taken h) (dir : Direction) :
      Walked (taken ++ [dir]) (h.navigate dir).2
  /-- The log is replaced by the entries of a file. -/
  | loaded {taken : List Direction} {h : History} {d : Disk} {path : String} {count : Nat}
      {step : Step} (hrun : Walked taken h) (hload : h.load d path = (.ok count, step)) :
      Walked [] step.history
  /-- The log is saved, which leaves the log and the cursor as they are. -/
  | saved {taken : List Direction} {h : History} {d : Disk} {path : String} {x : Exchange}
      {count : Nat} {step : Step} (hrun : Walked taken h) (hx : x ≠ .load)
      (hsave : x.run h d path = (.ok count, step)) : Walked taken step.history
  | refused {taken : List Direction} {h : History} {d : Disk} {path : String} {x : Exchange}
      {e : HistoryError} {step : Step} (hrun : Walked taken h)
      (hrefused : x.run h d path = (.error e, step)) : Walked taken step.history

/-- Saving the log changes neither the log nor the cursor. -/
lemma cursor_of_saved_run {d : Disk} {path : String} {x : Exchange} {count : Nat} {step : Step}
    (hx : x ≠ .load) (hsave : x.run h d path = (.ok count, step)) :
    step.history.entries = h.entries ∧ step.history.cursor = h.cursor := by
  cases x with
  | load => exact absurd rfl hx
  | save => cases saved_of_save hsave with | written => exact ⟨rfl, rfl⟩
  | saveNew => cases savedNew_of_saveNew hsave <;> exact ⟨rfl, rfl⟩

/-- The cursor is where the steps lead that were taken since the log was last changed. -/
theorem Walked.cursor_eq (hrun : Walked taken h) :
    h.cursor = taken.foldl (moved h.entries.length) h.entries.length := by
  induction hrun with
  | inMemory => rfl
  | opened d path =>
      unfold ofFile
      split <;> rfl
  | @recorded taken h hrun d line ih =>
      rw [history_record]
      exact (List.length_append : (h.entries ++ [line]).length = h.entries.length + 1).symm
  | @stepped taken h hrun dir ih =>
      obtain ⟨i, hi, hstep, rfl⟩ := h.history_navigate dir
      rw [hstep, List.foldl_append]
      exact congrArg (moved h.entries.length · dir) ih
  | loaded hrun hload ih =>
      cases loaded_of_load hload <;> rfl
  | saved hrun hx hsave ih =>
      obtain ⟨hentries, hcursor⟩ := cursor_of_saved_run hx hsave
      rw [hentries, hcursor, ih]
  | refused hrun hrefused ih =>
      rw [Exchange.step_of_error hrefused]
      exact ih

/-- Where the log has just changed, all of it is told. -/
lemma Walked.toldBackwards (hrun : Walked [] h) : h.ToldBackwards :=
  toldBackwards_of_cursor_eq hrun.cursor_eq

/-- Navigation is a walk over the log.  After any run of operations, some of which may have been
refused, the cursor is where the steps lead that were taken since the log was last changed, and
neither it nor the mark of what is saved is beyond the end of the log.  A step back and a step
forward do what they should, and no steps change anything but the cursor.  When a line is recorded
or the log is loaded, going back tells all of the log that there is then. -/
theorem navigation_walks_log (hrun : Walked taken h) :
    (h.cursor = taken.foldl (moved h.entries.length) h.entries.length ∧
      h.cursor ≤ h.entries.length ∧ h.saved ≤ h.entries.length) ∧
    h.StepsBack ∧ h.StepsForward ∧
    (∀ dirs, ∃ i hi, (h.walk dirs).2 = h.placed i hi) ∧
    (∀ d line, (h.record d line).history.ToldBackwards) ∧
    ∀ d path count step, h.load d path = (.ok count, step) → step.history.ToldBackwards :=
  ⟨⟨hrun.cursor_eq, h.cursor_le, h.saved_le⟩, h.stepsBack, h.stepsForward, h.history_walk,
    fun d line => (hrun.recorded d line).toldBackwards,
    fun _ _ _ _ hload => (hrun.loaded hload).toldBackwards⟩

/-- Two lines are recorded, three steps back and one forward are taken, of which the third stops,
and another line is recorded. -/
theorem navigation_walks_log_after_steps :
    ∃ h, Walked [.older, .older, .older, .newer] h ∧ h.cursor = 1 ∧
      (h.navigate .newer).1 = some "" ∧
      ((h.record (.empty []) "c").history.walk [.older, .older, .older, .older]).1 =
        [some "c", some "b", some "a", none] := by
  have hrun := (((((Walked.inMemory.recorded (.empty []) "a").recorded (.empty []) "b").stepped
    .older).stepped .older).stepped .older).stepped .newer
  obtain ⟨⟨hcursor, -⟩, -, hforward, -, htold, -⟩ := navigation_walks_log hrun
  have hclears := hforward.clears_iff.mpr rfl
  exact ⟨_, hrun, hcursor, congrArg Prod.fst hclears, (htold (.empty []) "c").2⟩

end PipeShell.History
