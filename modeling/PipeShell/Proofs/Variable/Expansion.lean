import Mathlib.Data.List.Infix
import PipeShell.Proofs.Token.Substitution
import PipeShell.Variable.Overlay

/-!
# Values of a start-up file

`$HOME` and `$PATH` are replaced in a value, first the one everywhere and then the other everywhere
in the result.

A text is cut into single characters and references (`Overlay.Cut`), where what counts as a
reference is a parameter.  Each pass of `Overlay.expand` takes every occurrence of its name for a
reference, even inside a longer name (`expandName_eq_substituted`).  References as the command line
knows them end where the name ends (`IsWhole`), and all are replaced at once.

The two come to the same where every occurrence is such a reference and the value of `HOME` makes no
new `$PATH` (`expand_eq_substituted`).  The proof counts: a pass goes wrong only where the name
occurs more often than it is referred to.
-/

namespace PipeShell.Overlay

variable {pattern replacement text : List Char} {name : String} {parts : List Part}

/-! ## Occurrences -/

/-- How often a text begins somewhere in another. -/
def occurrences (pattern : List Char) : List Char → Nat
  | [] => 0
  | c :: cs => occurrences pattern cs + if pattern <+: c :: cs then 1 else 0

/-- Behind more text there are no fewer occurrences. -/
lemma occurrences_le_append (pattern front cs : List Char) :
    occurrences pattern cs ≤ occurrences pattern (front ++ cs) := by
  induction front with
  | nil => exact le_rfl
  | cons c front ih =>
      rw [List.cons_append, occurrences]
      exact Nat.le_add_right_of_le ih

/-- A text that is written once more occurs once more. -/
lemma occurrences_lt_append (hne : pattern ≠ []) (cs : List Char) :
    occurrences pattern cs < occurrences pattern (pattern ++ cs) := by
  obtain ⟨c, rest, rfl⟩ := List.exists_cons_of_ne_nil hne
  rw [List.cons_append, occurrences, if_pos ⟨cs, rfl⟩]
  exact Nat.lt_succ_of_le (occurrences_le_append _ rest cs)

/-! ## Replacing -/

/-- What was replaced already is passed over. -/
lemma replaceAll_skip (pattern replacement : List Char) (skip : Nat) (cs : List Char) :
    replaceAll pattern replacement skip cs = replaceAll pattern replacement 0 (cs.drop skip) := by
  induction skip generalizing cs with
  | zero => rfl
  | succ skip ih =>
      cases cs with
      | nil => simp [replaceAll]
      | cons c cs => rw [replaceAll, List.drop_succ_cons, ih]

/-- An occurrence is replaced, and what follows it is read from there on. -/
lemma replaceAll_append (hne : pattern ≠ []) (replacement cs : List Char) :
    replaceAll pattern replacement 0 (pattern ++ cs) =
      replacement ++ replaceAll pattern replacement 0 cs := by
  obtain ⟨c, rest, rfl⟩ := List.exists_cons_of_ne_nil hne
  have hprefix : (c :: rest).isPrefixOf (c :: rest ++ cs) = true :=
    List.isPrefixOf_iff_prefix.mpr ⟨cs, rfl⟩
  rw [List.cons_append] at hprefix ⊢
  rw [replaceAll, if_pos hprefix, replaceAll_skip, List.length_cons, Nat.add_sub_cancel,
    List.drop_left]

/-- A character at which the pattern does not begin is kept. -/
lemma replaceAll_cons_of_not {c : Char} {cs : List Char} (h : ¬ pattern <+: c :: cs) :
    replaceAll pattern replacement 0 (c :: cs) = c :: replaceAll pattern replacement 0 cs := by
  rw [replaceAll, if_neg (mt List.isPrefixOf_iff_prefix.mp h)]

/-- A text in which nothing occurs is left as it is. -/
lemma replaceAll_front_append {front cs : List Char}
    (h : occurrences pattern (front ++ cs) = occurrences pattern cs) :
    replaceAll pattern replacement 0 (front ++ cs) =
      front ++ replaceAll pattern replacement 0 cs := by
  induction front with
  | nil => rfl
  | cons c front ih =>
      have hle := occurrences_le_append pattern front cs
      rw [List.cons_append, occurrences] at h
      split_ifs at h with hprefix
      · omega
      · rw [List.cons_append, replaceAll_cons_of_not hprefix, ih h, List.cons_append]

/-! ## Parts of a text -/

/-- The dollar sign and the name. -/
def marker (name : String) : List Char := '$' :: name.toList

/-- A marker is not empty. -/
lemma marker_ne_nil (name : String) : marker name ≠ [] := List.cons_ne_nil _ _

/-- The parts of a text, where `IsRef` tells which names in front of which rest are references. -/
inductive Cut (IsRef : String → List Char → Prop) : List Char → List Part → Prop
  | nil : Cut IsRef [] []
  | reference {name : String} {rest : List Char} {parts : List Part} (href : IsRef name rest)
      (hrest : Cut IsRef rest parts) : Cut IsRef (marker name ++ rest) (.reference name :: parts)
  | literal {c : Char} {cs : List Char} {parts : List Part}
      (hliteral : ∀ name rest, c :: cs = marker name ++ rest → ¬ IsRef name rest)
      (hrest : Cut IsRef cs parts) : Cut IsRef (c :: cs) (.literal c :: parts)

variable {IsRef : String → List Char → Prop}

/-- Every text has parts. -/
theorem exists_cut (IsRef : String → List Char → Prop) (text : List Char) :
    ∃ parts, Cut IsRef text parts := by
  induction hlength : text.length using Nat.strong_induction_on generalizing text with
  | _ n ih =>
    cases text with
    | nil => exact ⟨[], .nil⟩
    | cons c cs =>
        by_cases href : ∃ name rest, c :: cs = marker name ++ rest ∧ IsRef name rest
        · obtain ⟨name, rest, htext, href⟩ := href
          have hshort : rest.length < n := by
            rw [← hlength, htext, List.length_append, marker, List.length_cons]
            omega
          obtain ⟨parts, hparts⟩ := ih _ hshort rest rfl
          exact htext ▸ ⟨_, .reference href hparts⟩
        · have hshort : cs.length < n := by
            rw [← hlength, List.length_cons]
            omega
          obtain ⟨parts, hparts⟩ := ih _ hshort cs rfl
          refine ⟨_, .literal (fun name rest htext hname => ?_) hparts⟩
          exact href ⟨name, rest, htext, hname⟩

/-- A text has no other parts than these, if it never begins with two references. -/
theorem Cut.unique {parts' : List Part}
    (hone : ∀ name name' rest rest', IsRef name rest → IsRef name' rest' →
      marker name ++ rest = marker name' ++ rest' → name = name')
    (h : Cut IsRef text parts) (h' : Cut IsRef text parts') : parts = parts' := by
  induction h generalizing parts' with
  | nil =>
      cases h'
      rfl
  | @reference name rest parts href hrest ih =>
      generalize htext : marker name ++ rest = text at h'
      cases h' with
      | nil => cases htext
      | @reference name' rest' parts' href' hrest' =>
          obtain rfl := hone _ _ _ _ href href' htext
          rw [List.append_cancel_left htext] at ih
          rw [ih hrest']
      | literal hliteral => exact absurd href (hliteral _ _ htext.symm)
  | @literal c cs parts hliteral hrest ih =>
      -- where a reference begins there is no literal
      generalize htext : c :: cs = text at h'
      cases h' with
      | nil => cases htext
      | reference href' => exact absurd href' (hliteral _ _ htext)
      | literal hliteral' hrest' =>
          cases htext
          rw [ih hrest']

/-- A part that is a reference comes from one. -/
lemma Cut.isRef_of_mem (h : Cut IsRef text parts) (hname : .reference name ∈ parts) :
    ∃ rest, IsRef name rest := by
  induction h with
  | nil => cases hname
  | reference href hrest ih =>
      rcases List.mem_cons.mp hname with heq | hname
      · cases heq
        exact ⟨_, href⟩
      · exact ih hname
  | literal hliteral hrest ih =>
      rcases List.mem_cons.mp hname with heq | hname
      · cases heq
      · exact ih hname

/-- What a part is written as. -/
def written : Part → List Char
  | .literal c => [c]
  | .reference name => marker name

/-- The parts of a cut, written one behind the other, are the text. -/
lemma Cut.flatMap_written (h : Cut IsRef text parts) : parts.flatMap written = text := by
  induction h with
  | nil => rfl
  | reference href hrest ih => rw [List.flatMap_cons, ih, written]
  | literal hliteral hrest ih => rw [List.flatMap_cons, ih, written, List.singleton_append]

/-- One pass takes every occurrence of the name for a reference. -/
theorem expandName_eq_substituted (o : Overlay) (env : Environment)
    (h : Cut (fun n _ => n = name) text parts) :
    o.expandName env text name = substituted (o.value? env) parts := by
  unfold expandName
  induction h with
  | nil => rfl
  | reference href hrest ih =>
      subst href
      rw [← marker, replaceAll_append (marker_ne_nil _), marker, ih]
      rfl
  | literal hliteral hrest ih =>
      rw [replaceAll_cons_of_not, ih]
      · rfl
      · rintro ⟨rest, htext⟩
        exact hliteral name rest htext.symm rfl

/-! ## One pass over the parts -/

variable {f : Part → List Char}

/-- The references to a variable occur in the text. -/
lemma count_le_occurrences (hf : f (.reference name) = marker name) (parts : List Part) :
    parts.count (.reference name) ≤ occurrences (marker name) (parts.flatMap f) := by
  induction parts with
  | nil => exact Nat.zero_le _
  | cons p parts ih =>
      rw [List.flatMap_cons]
      by_cases hp : p = .reference name
      · subst hp
        rw [List.count_cons_self, hf]
        exact Nat.lt_of_le_of_lt ih (occurrences_lt_append (marker_ne_nil name) _)
      · rw [List.count_cons_of_ne hp]
        exact Nat.le_trans ih (occurrences_le_append _ _ _)

/-- Where nothing occurs but the references to a variable, replacing replaces these. -/
theorem replaceAll_flatMap (hf : f (.reference name) = marker name)
    (hcount : occurrences (marker name) (parts.flatMap f) = parts.count (.reference name)) :
    replaceAll (marker name) replacement 0 (parts.flatMap f) =
      parts.flatMap (Function.update f (.reference name) replacement) := by
  induction parts with
  | nil => rfl
  | cons p parts ih =>
      have hleast := count_le_occurrences hf parts
      rw [List.flatMap_cons] at hcount ⊢
      rw [List.flatMap_cons]
      by_cases hp : p = .reference name
      · subst hp
        have hmore := occurrences_lt_append (marker_ne_nil name) (parts.flatMap f)
        rw [List.count_cons_self, hf] at hcount
        rw [hf, replaceAll_append (marker_ne_nil name), ih (by omega), Function.update_self]
      · have hmore := occurrences_le_append (marker name) (f p) (parts.flatMap f)
        rw [List.count_cons_of_ne hp] at hcount
        rw [replaceAll_front_append (by omega), ih (by omega), Function.update_of_ne hp]

/-! ## Whole references -/

/-- The two names that are replaced in a value. -/
def expandedNames : List String := ["HOME", "PATH"]

/-- The name is one of the two, and it ends here for the command line, too. -/
def IsWhole (name : String) (rest : List Char) : Prop :=
  name ∈ expandedNames ∧ Reference.Written name.toList name.toList rest

/-- The names that are expanded are names. -/
lemma isNameChars_of_mem (hname : name ∈ expandedNames) : isNameChars name.toList = true := by
  revert name
  decide

/-- A name is whole if no character of a name follows it. -/
lemma isWhole_iff {rest : List Char} :
    IsWhole name rest ↔ name ∈ expandedNames ∧ ∀ c ∈ rest.head?, isNameChar c = false := by
  have hbare : ∀ w, Reference.Written name.toList w rest → w = name.toList →
      ∀ c ∈ rest.head?, isNameChar c = false := by
    rintro w (⟨-, hrest⟩ | -) hw
    · exact hrest
    · have hlength := congrArg List.length hw
      rw [List.length_cons, List.length_append, List.length_singleton] at hlength
      omega
  exact and_congr_right fun hname =>
    ⟨fun hwritten => hbare _ hwritten rfl, fun hrest => .bare (isNameChars_of_mem hname) hrest⟩

/-- That a name ends here, in a form that can be evaluated. -/
lemma all_not_isNameChar_iff {o : Option Char} :
    o.all (!isNameChar ·) = true ↔ ∀ c ∈ o, isNameChar c = false := by
  simp [Option.all_eq_true]

/-- Whether a name is whole can be evaluated. -/
instance (name : String) : DecidablePred (IsWhole name) := fun rest =>
  decidable_of_iff (name ∈ expandedNames ∧ rest.head?.all (!isNameChar ·) = true) <| by
    rw [isWhole_iff, all_not_isNameChar_iff]

/-- There is no dollar in the names that are expanded. -/
lemma dollar_not_mem (hname : name ∈ expandedNames) : '$' ∉ name.toList := by
  revert name
  decide

/-- A text never begins with two references. -/
lemma IsWhole.eq {name' : String} {rest rest' : List Char} (h : IsWhole name rest)
    (h' : IsWhole name' rest') (htext : marker name ++ rest = marker name' ++ rest') :
    name = name' :=
  String.toList_injective (h.2.unique h'.2 (List.cons_eq_cons.mp htext).2).1

/-- A text has whole references and other characters in exactly one way. -/
theorem existsUnique_cut_isWhole (text : List Char) : ∃! parts, Cut IsWhole text parts := by
  obtain ⟨parts, hparts⟩ := exists_cut IsWhole text
  exact ⟨parts, hparts, fun parts' hparts' =>
    hparts'.unique (fun _ _ _ _ h h' htext => h.eq h' htext) hparts⟩

/-- A character stands for itself where neither of the names begins, or where it goes on. -/
lemma Cut.literal_of_forall {c : Char} {cs : List Char}
    (h : ∀ name ∈ expandedNames, marker name <+: c :: cs →
      ((c :: cs).drop (marker name).length).head?.any isNameChar = true)
    (hrest : Cut IsWhole cs parts) : Cut IsWhole (c :: cs) (.literal c :: parts) := by
  refine .literal (fun name rest htext href => ?_) hrest
  obtain ⟨hname, hend⟩ := isWhole_iff.mp href
  have hlonger := h name hname ⟨rest, htext.symm⟩
  rw [htext, List.drop_left] at hlonger
  obtain ⟨d, hd, hchar⟩ := (Option.any_eq_true _ _).mp hlonger
  exact Bool.false_ne_true ((hend d hd).symm.trans hchar)

/-- Wherever one of the two names occurs, it is a whole name. -/
def AllWhole (text : List Char) : Prop :=
  ∀ name ∈ expandedNames, ∀ rest, marker name ++ rest <:+ text →
    ∀ c ∈ rest.head?, isNameChar c = false

/-- The same, in a form that can be evaluated. -/
lemma allWhole_iff_tails : AllWhole text ↔ ∀ name ∈ expandedNames, ∀ t ∈ text.tails,
    marker name <+: t → (t.drop (marker name).length).head?.all (!isNameChar ·) = true := by
  refine forall₂_congr fun name _ => ⟨fun h t ht => ?_, fun h rest hrest => ?_⟩
  · rintro ⟨rest, rfl⟩
    rw [List.drop_left, all_not_isNameChar_iff]
    exact h rest ((List.mem_tails _ _).mp ht)
  · have hend := h _ ((List.mem_tails _ _).mpr hrest) (List.prefix_append _ _)
    rwa [List.drop_left, all_not_isNameChar_iff] at hend

/-- So can whether all names in a text are. -/
instance : DecidablePred AllWhole := fun _ => decidable_of_iff _ allWhole_iff_tails.symm

/-- In the end of such a text all names are whole as well. -/
lemma AllWhole.of_suffix {text' : List Char} (h : AllWhole text) (hsuffix : text' <:+ text) :
    AllWhole text' :=
  fun name hname rest hrest => h name hname rest (hrest.trans hsuffix)

/-- Where all names are whole, a reference begins where its name does. -/
lemma AllWhole.isWhole {rest : List Char} (h : AllWhole (marker name ++ rest))
    (hname : name ∈ expandedNames) : IsWhole name rest :=
  isWhole_iff.mpr ⟨hname, h name hname rest List.suffix_rfl⟩

/-- Without a dollar sign there is no place where a name could begin. -/
lemma occurrences_append_of_not_mem {front : List Char} (hfront : '$' ∉ front)
    (cs : List Char) : occurrences (marker name) (front ++ cs) = occurrences (marker name) cs := by
  induction front with
  | nil => rfl
  | cons c front ih =>
      rw [List.mem_cons, not_or] at hfront
      rw [List.cons_append, occurrences, ih hfront.2, if_neg, Nat.add_zero]
      exact fun hprefix => hfront.1 (List.cons_prefix_cons.mp hprefix).1

/-- A text without a dollar sign is left as it is. -/
theorem expand_of_not_mem {s : String} (o : Overlay) (env : Environment)
    (hdollar : '$' ∉ s.toList) : o.expand env s = s := by
  have hpass : ∀ name, o.expandName env s.toList name = s.toList := by
    intro name
    have hfront : o.expandName env (s.toList ++ []) name = s.toList ++ [] :=
      replaceAll_front_append (occurrences_append_of_not_mem hdollar [])
    rwa [List.append_nil] at hfront
  change String.ofList (o.expandName env (o.expandName env s.toList "HOME") "PATH") = s
  rw [hpass, hpass, String.ofList_toList]

/-- A name can occur at the beginning of another, and not inside. -/
lemma occurrences_marker_append {name' : String} (hname' : name' ∈ expandedNames)
    (cs : List Char) : occurrences (marker name) (marker name' ++ cs) =
      occurrences (marker name) cs + if marker name <+: marker name' ++ cs then 1 else 0 := by
  rw [← occurrences_append_of_not_mem (dollar_not_mem hname') cs]
  rfl

/-- Where all names are whole, there are as many occurrences as references. -/
theorem AllWhole.occurrences_eq_count (h : AllWhole text) (hname : name ∈ expandedNames)
    (hcut : Cut IsWhole text parts) :
    occurrences (marker name) text = parts.count (.reference name) := by
  induction hcut with
  | nil => rfl
  | @reference name' rest parts href hrest ih =>
      have hsuffix : rest <:+ marker name' ++ rest := List.suffix_append _ _
      rw [occurrences_marker_append href.1, ih (h.of_suffix hsuffix), List.count_cons]
      refine congrArg _ (if_congr ⟨?_, ?_⟩ rfl rfl)
      · rintro ⟨rest', htext⟩
        rw [← htext] at h
        exact beq_iff_eq.mpr (congrArg Part.reference (href.eq (h.isWhole hname) htext.symm))
      · intro heq
        cases beq_iff_eq.mp heq
        exact List.prefix_append _ _
  | @literal c cs parts hliteral hrest ih =>
      have hne : Part.literal c ≠ .reference name := nofun
      rw [occurrences, ih (h.of_suffix (List.suffix_cons c cs)), if_neg, Nat.add_zero,
        List.count_cons_of_ne hne]
      rintro ⟨rest, htext⟩
      rw [← htext] at h
      exact hliteral name rest htext.symm (h.isWhole hname)

/-! ## The two passes -/

/-- The value of `HOME` makes no `$PATH` that was not there. -/
def HomeAddsNoPath (o : Overlay) (env : Environment) (text : List Char) : Prop :=
  occurrences (marker "PATH") (o.expandName env text "HOME") = occurrences (marker "PATH") text

/-- Where all names are whole and the first pass adds none, the two passes replace the whole
references, and these alone. -/
theorem expand_eq_substituted {o : Overlay} {env : Environment} {text : String}
    (hwhole : AllWhole text.toList) (hhome : HomeAddsNoPath o env text.toList)
    (hcut : Cut IsWhole text.toList parts) :
    o.expand env text = String.ofList (substituted (o.value? env) parts) := by
  let value := fun name => ((o.value? env name).getD "").toList
  let afterHome := Function.update written (.reference "HOME") (value "HOME")
  -- the first pass replaces the home directory everywhere, the second one then the search path
  have hfirst : o.expandName env text.toList "HOME" = parts.flatMap afterHome := by
    have hcount := hwhole.occurrences_eq_count (by decide : "HOME" ∈ expandedNames) hcut
    rw [← hcut.flatMap_written] at hcount ⊢
    exact replaceAll_flatMap rfl hcount
  have hsecond : o.expandName env (parts.flatMap afterHome) "PATH" =
      parts.flatMap (Function.update afterHome (.reference "PATH") (value "PATH")) := by
    have hcount := hwhole.occurrences_eq_count (by decide : "PATH" ∈ expandedNames) hcut
    rw [← hhome, hfirst] at hcount
    exact replaceAll_flatMap (Function.update_of_ne (by decide) _ _) hcount
  have hparts : ∀ p ∈ parts, Function.update afterHome (.reference "PATH") (value "PATH") p =
      p.chars (o.value? env) := by
    intro p hp
    cases p with
    | literal c => rfl
    | reference name =>
        obtain ⟨rest, hname, -⟩ := hcut.isRef_of_mem hp
        rcases List.mem_pair.mp hname with rfl | rfl
        · rw [Function.update_of_ne (by decide)]
          exact Function.update_self ..
        · rw [Function.update_self]
          rfl
  change String.ofList (o.expandName env (o.expandName env text.toList "HOME") "PATH") = _
  rw [hfirst, hsecond, substituted, List.flatMap_congr hparts]

/-- Text that is put in for `HOME` makes no beginning of a name, if it begins with a slash. -/
lemma Cut.prefix_substituted_iff {vars : Lookup} {home : List Char}
    (hhome : ((vars "HOME").getD "").toList = '/' :: home)
    (h : Cut (fun n _ => n = "HOME") text parts) {w : List Char} (hdollar : '$' ∉ w)
    (hslash : '/' ∉ w) : w <+: substituted vars parts ↔ w <+: text := by
  induction h generalizing w with
  | nil => rfl
  | @reference name rest parts href hrest ih =>
      subst href
      cases w with
      | nil => exact iff_of_true List.nil_prefix List.nil_prefix
      | cons a w =>
          rw [substituted, List.flatMap_cons, Part.chars, hhome, marker, List.cons_append,
            List.cons_append, List.cons_prefix_cons, List.cons_prefix_cons]
          refine iff_of_false (fun h => hslash ?_) (fun h => hdollar ?_)
          · exact h.1 ▸ List.mem_cons_self
          · exact h.1 ▸ List.mem_cons_self
  | @literal c cs parts hliteral hrest ih =>
      cases w with
      | nil => exact iff_of_true List.nil_prefix List.nil_prefix
      | cons a w =>
          rw [List.mem_cons, not_or] at hdollar hslash
          rw [substituted, List.flatMap_cons, Part.chars, List.singleton_append,
            List.cons_prefix_cons, List.cons_prefix_cons]
          exact and_congr_right fun _ => ih hdollar.2 hslash.2

/-- An absolute path without a dollar sign, as a home directory has it, makes no new `$PATH`. -/
theorem homeAddsNoPath_of_absolute {o : Overlay} {env : Environment} {home : String}
    (hhome : o.value? env "HOME" = some home) (habsolute : home.toList.head? = some '/')
    (hdollar : '$' ∉ home.toList) (text : List Char) : HomeAddsNoPath o env text := by
  obtain ⟨parts, hcut⟩ := exists_cut (fun n _ => n = "HOME") text
  obtain ⟨rest, hrest⟩ := List.head?_eq_some_iff.mp habsolute
  have hvalue : ((o.value? env "HOME").getD "").toList = '/' :: rest := by rw [hhome, ← hrest]; rfl
  unfold HomeAddsNoPath
  rw [expandName_eq_substituted o env hcut]
  induction hcut with
  | nil => rfl
  | @reference name cs parts href hcs ih =>
      subst href
      have hother : ¬ marker "PATH" <+: marker "HOME" ++ cs := fun hprefix =>
        absurd (List.cons_prefix_cons.mp (List.cons_prefix_cons.mp hprefix).2).1 (by decide)
      have hvalue' : '$' ∉ ((o.value? env "HOME").getD "").toList := by rwa [hhome]
      rw [occurrences_marker_append (by decide), if_neg hother, Nat.add_zero, ← ih]
      -- no name begins inside the path that is put in, as it has no dollar sign
      exact occurrences_append_of_not_mem hvalue' _
  | @literal c cs parts hliteral hcs ih =>
      have hiff : marker "PATH" <+: c :: substituted (o.value? env) parts ↔
          marker "PATH" <+: c :: cs := by
        rw [marker, List.cons_prefix_cons, List.cons_prefix_cons,
          hcs.prefix_substituted_iff hvalue (by decide) (by decide)]
      rw [occurrences, ← ih]
      exact congrArg _ (if_congr hiff rfl rfl)

/-- A value is searched twice.  All `$HOME` are replaced wherever they occur, and all `$PATH`
wherever they occur in the result.  This comes to the same as replacing the whole references in the
one way that the text has them, provided that it has no longer names that begin like these and that
the value of `HOME` makes no new `$PATH`, which no absolute path without a dollar sign does. -/
theorem expansion_searches_twice (o : Overlay) (env : Environment) (text : String) :
    (∃ first second, Cut (fun n _ => n = "HOME") text.toList first ∧
      Cut (fun n _ => n = "PATH") (substituted (o.value? env) first) second ∧
      o.expand env text = String.ofList (substituted (o.value? env) second)) ∧
    (∃! parts, Cut IsWhole text.toList parts) ∧
    (∀ parts, Cut IsWhole text.toList parts → AllWhole text.toList →
      HomeAddsNoPath o env text.toList →
      o.expand env text = String.ofList (substituted (o.value? env) parts)) ∧
    ∀ home, o.value? env "HOME" = some home → home.toList.head? = some '/' →
      '$' ∉ home.toList → HomeAddsNoPath o env text.toList := by
  refine ⟨?_, existsUnique_cut_isWhole _, fun parts hcut hwhole hhome => ?_,
    fun home hhome habsolute hdollar => homeAddsNoPath_of_absolute hhome habsolute hdollar _⟩
  · obtain ⟨first, hfirst⟩ := exists_cut (fun n _ => n = "HOME") text.toList
    obtain ⟨second, hsecond⟩ :=
      exists_cut (fun n _ => n = "PATH") (substituted (o.value? env) first)
    refine ⟨first, second, hfirst, hsecond, ?_⟩
    rw [← expandName_eq_substituted o env hsecond, ← expandName_eq_substituted o env hfirst]
    rfl
  · exact expand_eq_substituted hwhole hhome hcut

/-- A text with both names and a third variable, where the value of `PATH` mentions `HOME`. -/
theorem expansion_searches_twice_at_nested_value :
    ∃ parts, Cut IsWhole "$HOME:$PATH$X".toList parts ∧ AllWhole "$HOME:$PATH$X".toList ∧
      parts = [.reference "HOME", .literal ':', .reference "PATH", .literal '$', .literal 'X'] ∧
      Overlay.expand ⟨.ofList [("HOME", some "/h"), ("PATH", some "/$HOME")]⟩ ⟨∅⟩ "$HOME:$PATH$X" =
        "/h:/$HOME$X" := by
  have hcut : Cut IsWhole (marker "HOME" ++ ':' :: (marker "PATH" ++ ['$', 'X']))
      [.reference "HOME", .literal ':', .reference "PATH", .literal '$', .literal 'X'] :=
    .reference (by decide) <| .literal_of_forall (by decide) <|
      .reference (by decide) <| .literal_of_forall (by decide) <|
        .literal_of_forall (by decide) .nil
  have hwhole : AllWhole "$HOME:$PATH$X".toList := by decide
  obtain ⟨-, -, hsingle, hhome⟩ := expansion_searches_twice
    ⟨.ofList [("HOME", some "/h"), ("PATH", some "/$HOME")]⟩ ⟨∅⟩ "$HOME:$PATH$X"
  exact ⟨_, hcut, hwhole, rfl, hsingle _ hcut hwhole (hhome "/h" rfl rfl (by decide))⟩

/-- A longer name is taken for `HOME`, and a `$PATH` in the value of `HOME` for one of the text. -/
theorem expansion_takes_more_than_whole_names :
    (∃ parts, Cut IsWhole "$HOMEBREW".toList parts ∧
      ∀ vars, substituted vars parts = "$HOMEBREW".toList) ∧
    Overlay.expand ⟨.ofList [("HOME", some "/h")]⟩ ⟨∅⟩ "$HOMEBREW" = "/hBREW" ∧
    Cut IsWhole (marker "HOME" ++ []) [.reference "HOME"] ∧
    Overlay.expand ⟨.ofList [("HOME", some "/$PATH"), ("PATH", some "/bin")]⟩ ⟨∅⟩ "$HOME" =
      "//bin" := by
  refine ⟨⟨"$HOMEBREW".toList.map .literal, ?_, fun vars => rfl⟩, rfl,
    .reference (by decide) .nil, rfl⟩
  iterate 9 refine .literal_of_forall (by decide) ?_
  exact .nil

end PipeShell.Overlay
