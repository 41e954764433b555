import PipeShell.Proofs.Token.Agreement
import PipeShell.Proofs.Token.Expansion

/-!
# References as substitution

A line consists of characters that stand for themselves and of references to variables.  Which is
which is a matter of the quoting table and of names alone: the relation `Mode.Parts` cuts a line
without the scanner, in exactly one way (`Mode.exists_parts`, `Mode.Parts.unique`).

Putting the values into the line and reading it without references is then the same as reading it
with references, as long as the values are plain words (`Token.expansion_is_substitution`).  The two
readings go through the parts side by side (`Mode.Parts.scanFrom_eq`).  A value adds itself to its
word in both; a character has the same row of the table in both, and since no value is empty or
begins with `>`, an operator takes the same characters in both.
-/

namespace PipeShell

open Mode

/-! ## The parts of a line -/

/-- A part of a line, as far as references go. -/
inductive Part where
  /-- A character that stands for itself. -/
  | literal (c : Char)
  /-- A reference to a variable. -/
  | reference (name : String)
deriving Repr, DecidableEq

/-- What stands for a part where references are replaced by values. -/
def Part.chars (vars : Lookup) : Part → List Char
  | literal c => [c]
  | reference name => ((vars name).getD "").toList

/-- The text of all parts, with references replaced by values. -/
def substituted (vars : Lookup) (parts : List Part) : List Char := parts.flatMap (Part.chars vars)

/-- The parts of a line that is read from mode `m` on.  A dollar sign is *active* where the table
says that it may begin a reference; it does begin one if one is written behind it.  The mode is that
of the table, which goes through all characters. -/
inductive Mode.Parts : Mode → List Char → List Part → Prop
  | nil (m : Mode) : Parts m [] []
  | reference {m : Mode} {c : Char} {cs name written rest : List Char} {parts : List Part}
      (hactive : (m.step c).2 = .variable) (hcs : cs = written ++ rest)
      (hwritten : Reference.Written name written rest)
      (hrest : Parts (m.after (c :: written)) rest parts) :
      Parts m (c :: cs) (.reference (String.ofList name) :: parts)
  | literal {m : Mode} {c : Char} {cs : List Char} {parts : List Part}
      (hliteral : (m.step c).2 = .variable →
        ∀ name written rest, cs = written ++ rest → ¬Reference.Written name written rest)
      (hrest : Parts (m.step c).1 cs parts) :
      Parts m (c :: cs) (.literal c :: parts)

/-- Every variable that the parts refer to has a value, and the value is a plain word. -/
def Lookup.IsPlainOn (vars : Lookup) (parts : List Part) : Prop :=
  ∀ name, .reference name ∈ parts → ∃ value, vars name = some value ∧ IsPlainWord value

/-- What is said of all parts is said of those behind the first. -/
lemma Lookup.IsPlainOn.tail {vars : Lookup} {p : Part} {parts : List Part}
    (h : vars.IsPlainOn (p :: parts)) : vars.IsPlainOn parts :=
  fun name hname => h name (List.mem_cons_of_mem p hname)

namespace Mode

variable {m : Mode} {cs : List Char} {parts : List Part}

/-- Every line has parts. -/
theorem exists_parts (m : Mode) (cs : List Char) : ∃ parts, m.Parts cs parts := by
  induction hlength : cs.length using Nat.strong_induction_on generalizing m cs with
  | _ n ih =>
    cases cs with
    | nil => exact ⟨[], .nil m⟩
    | cons c cs =>
        by_cases href : (m.step c).2 = .variable ∧
          ∃ name written rest, cs = written ++ rest ∧ Reference.Written name written rest
        · obtain ⟨hactive, name, written, rest, rfl, hwritten⟩ := href
          have hshort : rest.length < n := by
            rw [← hlength, List.length_cons, List.length_append]
            omega
          obtain ⟨parts, hparts⟩ := ih _ hshort (m.after (c :: written)) rest rfl
          exact ⟨_, .reference hactive rfl hwritten hparts⟩
        · have hshort : cs.length < n := by
            rw [← hlength, List.length_cons]
            omega
          obtain ⟨parts, hparts⟩ := ih _ hshort (m.step c).1 cs rfl
          refine ⟨_, .literal (fun hactive name written rest hcs hwritten => ?_) hparts⟩
          exact href ⟨hactive, name, written, rest, hcs, hwritten⟩

/-- No line has other parts than these. -/
theorem Parts.unique {parts' : List Part} (h : m.Parts cs parts) (h' : m.Parts cs parts') :
    parts = parts' := by
  induction h generalizing parts' with
  | nil m =>
      cases h'
      rfl
  | reference hactive hcs hwritten hrest ih =>
      cases h' with
      | reference hactive' hcs' hwritten' hrest' =>
          obtain ⟨rfl, rfl, rfl⟩ := hwritten.unique hwritten' (hcs.symm.trans hcs')
          rw [ih hrest']
      | literal hliteral => exact absurd hwritten (hliteral hactive _ _ _ hcs)
  | literal hliteral hrest ih =>
      cases h' with
      | reference hactive hcs hwritten => exact absurd hwritten (hliteral hactive _ _ _ hcs)
      | literal hliteral' hrest' => rw [ih hrest']

/-- Behind a reference the line goes on in the mode of its dollar sign. -/
lemma after_reference {c : Char} {name written rest : List Char}
    (hactive : (m.step c).2 = .variable) (hwritten : Reference.Written name written rest) :
    m.after (c :: written) = m := by
  obtain ⟨-, hmode, hnext⟩ := step_of_variable hactive
  rw [after_cons, hnext]
  exact after_of_idle (idle_of_forall_name hmode fun d hd => hwritten.name_or_brace hd)

/-! ## Reading the parts -/

variable {vars : Lookup}

/-- Values neither hide a `>` at the front of a line nor put one there. -/
lemma Parts.head?_eq_gt_iff (h : m.Parts cs parts) (hvars : vars.IsPlainOn parts) :
    (substituted vars parts).head? = some '>' ↔ cs.head? = some '>' := by
  cases h with
  | nil => rfl
  | reference hactive hcs hwritten hrest =>
      obtain ⟨value, hvalue, ⟨hne, hbare⟩, -⟩ := hvars _ List.mem_cons_self
      obtain ⟨e, es, hes⟩ := List.exists_cons_of_ne_nil (mt String.toList_eq_nil_iff.mp hne)
      have he : e ≠ '>' := (isBare_iff.mp (hbare e (by simp [hes]))).2.2.2.2.2
      obtain ⟨rfl, -, -⟩ := step_of_variable hactive
      simp [substituted, Part.chars, hvalue, hes, he]
  | literal hliteral hrest => rfl

/-- An operator takes the same characters from the substituted text as from the line, and what it
leaves of the line has the parts of what it leaves of the text. -/
lemma Parts.behind_operator (h : plain.Parts cs parts) (hvars : vars.IsPlainOn parts) (c : Char) :
    operatorText c cs = operatorText c (substituted vars parts) ∧
      ∃ parts', plain.Parts (cs.drop ((operatorText c cs).length - 1)) parts' ∧
        vars.IsPlainOn parts' ∧
        (substituted vars parts).drop ((operatorText c cs).length - 1) =
          substituted vars parts' := by
  have htext : operatorText c cs = operatorText c (substituted vars parts) := by
    simp only [operatorText, h.head?_eq_gt_iff hvars]
  refine ⟨htext, ?_⟩
  by_cases hgt : c = '>' ∧ cs.head? = some '>'
  · obtain ⟨rfl, hhead⟩ := hgt
    obtain ⟨cs, rfl⟩ := List.head?_eq_some_iff.mp hhead
    have hlength : ">>".length - 1 = 1 := rfl
    rw [operatorText_gt_cons, hlength]
    cases h with
    | reference hactive => cases hactive
    | literal hliteral hrest => exact ⟨_, hrest, hvars.tail, rfl⟩
  · have hlength : (String.ofList [c]).length - 1 = 0 := by simp
    rw [operatorText_of_ne hgt, hlength]
    exact ⟨parts, h, hvars, rfl⟩

/-- A line with references is read as the substituted text is without. -/
theorem Parts.scanFrom_eq (h : m.Parts cs parts) (hvars : vars.IsPlainOn parts)
    (d : Option Draft) :
    Token.scanFrom (some vars) m d cs = Token.scanFrom none m d (substituted vars parts) := by
  -- not on the parts: an operator may take a character beyond the first part
  induction hlength : cs.length using Nat.strong_induction_on generalizing m cs parts d with
  | _ n ih =>
    cases h with
    | nil => rfl
    | @reference _ c cs name written rest parts hactive hcs hwritten hrest =>
        obtain ⟨value, hvalue, hplain⟩ := hvars _ List.mem_cons_self
        obtain ⟨-, hmode, hnext⟩ := step_of_variable hactive
        have hrow : Rule m c m .variable := by
          have hrow := rule_step m c
          rwa [hactive, hnext] at hrow
        have href : Reference.read? cs = some ⟨name, written.length⟩ :=
          Reference.read?_eq_some_iff.mpr ⟨written, rest, hcs, rfl, hwritten⟩
        have hshort : rest.length < n := by
          rw [← hlength, List.length_cons, hcs, List.length_append]
          omega
        have hsubstituted : substituted vars (.reference (String.ofList name) :: parts) =
            value.toList ++ substituted vars parts := by
          simp [substituted, Part.chars, hvalue]
        rw [after_reference hactive hwritten] at hrest
        rw [hsubstituted, Token.scanFrom_plainWord_append hmode hplain,
          Token.scanFrom_reference cs hrow href, hcs, List.drop_left]
        simp only [hvalue, Option.getD_some, String.isEmpty_iff, hplain.1.1, if_false]
        exact ih _ hshort hrest hvars.tail _ rfl
    | @literal _ c cs parts hliteral hrest =>
        have hshort : cs.length < n := by
          rw [← hlength, List.length_cons]
          omega
        refine Token.scanFrom_cons_congr (fun hactive => ?_) (fun hoperator => ?_)
          (fun d => ih _ hshort hrest hvars.tail d rfl) d
        · exact ⟨Or.inr (Reference.read?_eq_none_iff.mpr (hliteral hactive)), Or.inl rfl⟩
        · rw [(step_of_operator hoperator).2.2.2] at hrest
          obtain ⟨htext, parts', hparts', hvars', hdrop⟩ := hrest.behind_operator hvars.tail c
          have hless : (cs.drop ((operatorText c cs).length - 1)).length < n :=
            lt_of_le_of_lt (List.drop_sublist _ _).length_le hshort
          refine ⟨htext, ?_⟩
          rw [hdrop]
          exact ih _ hless hparts' hvars' none rfl

end Mode

namespace Token

/-- References are substitution.  A line has parts in exactly one way, and where the values of the
variables it refers to are plain words, reading it with references is reading, without references,
the line that has the values in their place: the tokens are the same, or the error is. -/
theorem expansion_is_substitution (line : String) :
    (∃! parts, plain.Parts line.toList parts) ∧
      ∀ parts vars, plain.Parts line.toList parts → vars.IsPlainOn parts →
        scanWith vars line = scanPlain (String.ofList (substituted vars parts)) := by
  constructor
  · obtain ⟨parts, hparts⟩ := exists_parts plain line.toList
    exact ⟨parts, hparts, fun parts' hparts' => hparts'.unique hparts⟩
  · intro parts vars hparts hvars
    rw [scanWith, scanPlain, scan_eq_scanFrom, scan_eq_scanFrom, String.toList_ofList]
    exact hparts.scanFrom_eq hvars none

/-- The three dollar signs of a line: one in front of a name between braces, behind a `>`; one in
single quotes; and one with nothing behind it. -/
theorem expansion_is_substitution_at_each_dollar :
    (∃ parts, plain.Parts ">$\x7bX\x7d'$X'$".toList parts ∧
      Lookup.IsPlainOn (fun _ => some "v=w") parts ∧
      String.ofList (substituted (fun _ => some "v=w") parts) = ">v=w'$X'$") ∧
    scanWith (fun _ => some "v=w") ">$\x7bX\x7d'$X'$" = scanPlain ">v=w'$X'$" := by
  have hparts : plain.Parts ">$\x7bX\x7d'$X'$".toList
      [.literal '>', .reference "X", .literal '\'', .literal '$', .literal 'X', .literal '\'',
        .literal '$'] := by
    have hlast : plain.Parts ['$'] [.literal '$'] :=
      .literal (fun _ => Reference.read?_eq_none_iff.mp rfl) (.nil _)
    have hquoted : plain.Parts ['\'', '$', 'X', '\'', '$']
        [.literal '\'', .literal '$', .literal 'X', .literal '\'', .literal '$'] :=
      .literal nofun (.literal nofun (.literal nofun (.literal nofun hlast)))
    have hname : Reference.Written ['X'] "\x7bX\x7d".toList "'$X'$".toList := .braced rfl _
    exact .literal nofun (.reference rfl rfl hname hquoted)
  have hvars : ∀ parts, Lookup.IsPlainOn (fun _ => some "v=w") parts :=
    fun parts name _ => ⟨"v=w", rfl, by decide⟩
  exact ⟨⟨_, hparts, hvars _, rfl⟩, (expansion_is_substitution _).2 _ _ hparts (hvars _)⟩

end Token

end PipeShell
