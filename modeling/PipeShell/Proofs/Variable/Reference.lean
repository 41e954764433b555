import PipeShell.Proofs.Results
import PipeShell.Variable.Name

/-!
# What a reference is written with

`Reference.read?` looks at the characters after a dollar sign.  `Reference.read?_eq_some` says what
a reference that it finds looks like: the name by itself, as long as it can be, or the name between
braces.  In both cases the width is the length of what was read, so that nothing but characters of
names and braces is taken (`Reference.name_or_brace_of_mem_take`).

The two ways to write a reference are the relation `Reference.Written`, which is all that
`Reference.read?` looks for (`Reference.read?_eq_some_iff`).  So it does not look beyond a character
that references are not written with: `Reference.read?_append_cons`.
-/

namespace PipeShell

/-- A name has only characters of names. -/
lemma isNameChar_of_mem_name {name : List Char} (h : isNameChars name = true) {c : Char}
    (hc : c ∈ name) : isNameChar c = true := by
  cases name with
  | nil => simp at hc
  | cons d ds =>
      rw [isNameChars, Bool.and_eq_true, List.all_eq_true] at h
      rcases List.mem_cons.mp hc with rfl | hc'
      · exact isNameChar_of_isNameStart h.1
      · exact h.2 c hc'

/-- No name has an equals sign in it. -/
lemma equals_not_mem_of_isValidName {name : String} (h : isValidName name = true) :
    '=' ∉ name.toList := by
  intro hmem
  exact absurd (isNameChar_of_mem_name h hmem) (by decide)

namespace Reference

/-- Where a brace is closed, the text up to the first closing brace and the rest. -/
lemma exists_eq_append_brace {cs : List Char}
    (h : (cs.takeWhile (· ≠ '\x7d')).length < cs.length) :
    ∃ rest, cs = cs.takeWhile (· ≠ '\x7d') ++ '\x7d' :: rest := by
  have hsplit := List.takeWhile_append_dropWhile (p := (· ≠ '\x7d')) (l := cs)
  cases hd : cs.dropWhile (· ≠ '\x7d') with
  | nil =>
      rw [hd, List.append_nil] at hsplit
      rw [hsplit] at h
      exact absurd h (Nat.lt_irrefl _)
  | cons d rest =>
      have hbrace : d = '\x7d' := by simpa using not_of_dropWhile_eq_cons hd
      rw [hd, hbrace] at hsplit
      exact ⟨rest, hsplit.symm⟩

/-- What is written where a reference is found. -/
theorem read?_eq_some {cs : List Char} {ref : Reference} (h : read? cs = some ref) :
    isNameChars ref.name = true ∧ ∃ rest,
      (cs = ref.name ++ rest ∧ ref.width = ref.name.length ∧
        ∀ c ∈ rest.head?, isNameChar c = false) ∨
      (cs = '\x7b' :: (ref.name ++ '\x7d' :: rest) ∧ ref.width = ref.name.length + 2) := by
  unfold read? at h
  split at h
  · cases h
  · next cs =>
    simp only [Option.ite_none_right_eq_some, Bool.and_eq_true, decide_eq_true_eq,
      Option.some.injEq] at h
    obtain ⟨⟨hclosed, hname⟩, rfl⟩ := h
    obtain ⟨rest, hrest⟩ := exists_eq_append_brace hclosed
    exact ⟨hname, rest, Or.inr ⟨congrArg _ hrest, rfl⟩⟩
  · next c cs _ =>
    simp only [Option.ite_none_right_eq_some, Option.some.injEq] at h
    obtain ⟨hstart, rfl⟩ := h
    refine ⟨?_, cs.dropWhile isNameChar, Or.inl ⟨?_, rfl, ?_⟩⟩
    · rw [isNameChars, hstart, Bool.true_and, List.all_eq_true]
      exact fun d hd => List.mem_takeWhile_imp hd
    · rw [List.cons_append, List.takeWhile_append_dropWhile]
    · intro d hd
      obtain ⟨rest, hrest⟩ := List.head?_eq_some_iff.mp hd
      exact not_of_dropWhile_eq_cons hrest

/-- A name by itself is read up to the first character that cannot belong to it. -/
theorem read?_name_append {name rest : List Char} (hname : isNameChars name = true)
    (hrest : ∀ c ∈ rest.head?, isNameChar c = false) :
    read? (name ++ rest) = some ⟨name, name.length⟩ := by
  match name, hname with
  | c :: cs, hname =>
      rw [isNameChars, Bool.and_eq_true, List.all_eq_true] at hname
      obtain ⟨hstart, hcs⟩ := hname
      have hbrace : c ≠ '\x7b' := by
        rintro rfl
        exact absurd hstart (by decide)
      have hstop : rest.takeWhile isNameChar = [] := by
        cases rest with
        | nil => rfl
        | cons d ds => exact List.takeWhile_cons_of_neg (by simp [hrest d rfl])
      have htake : (cs ++ rest).takeWhile isNameChar = cs := by
        rw [List.takeWhile_append_of_pos hcs, hstop, List.append_nil]
      rw [List.cons_append]
      unfold read?
      simp only [hstart, htake, if_true]

/-- A name between braces is read, whatever follows. -/
theorem read?_braced_append {name : List Char} (hname : isNameChars name = true)
    (rest : List Char) :
    read? ('\x7b' :: (name ++ '\x7d' :: rest)) = some ⟨name, name.length + 2⟩ := by
  have hopen : ∀ c ∈ name, decide (c ≠ '\x7d') = true := by
    intro c hc
    have hchar := isNameChar_of_mem_name hname hc
    refine decide_eq_true ?_
    rintro rfl
    exact absurd hchar (by decide)
  have htake : (name ++ '\x7d' :: rest).takeWhile (· ≠ '\x7d') = name := by
    rw [List.takeWhile_append_of_pos hopen, List.takeWhile_cons_of_neg (by decide),
      List.append_nil]
  unfold read?
  simp only [htake, hname, Bool.and_true]
  rw [if_pos (by simp)]

/-! ## What stands behind a reference -/

/-- How a reference is written after its dollar sign, with `rest` behind it: the name by itself, as
long as it can be, or the name between braces. -/
inductive Written (name : List Char) : (written rest : List Char) → Prop
  | bare {rest : List Char} (hname : isNameChars name = true)
      (hrest : ∀ c ∈ rest.head?, isNameChar c = false) : Written name name rest
  | braced (hname : isNameChars name = true) (rest : List Char) :
      Written name ('\x7b' :: (name ++ ['\x7d'])) rest

/-- A reference is found exactly where one is written. -/
theorem read?_eq_some_iff {cs : List Char} {ref : Reference} :
    read? cs = some ref ↔ ∃ written rest, cs = written ++ rest ∧ ref.width = written.length ∧
      Written ref.name written rest := by
  constructor
  · intro h
    obtain ⟨hname, rest, ⟨hcs, hwidth, hrest⟩ | ⟨hcs, hwidth⟩⟩ := read?_eq_some h
    · exact ⟨_, rest, hcs, hwidth, .bare hname hrest⟩
    · exact ⟨_, rest, by simp [hcs], by simp [hwidth], .braced hname rest⟩
  · obtain ⟨name, width⟩ := ref
    rintro ⟨written, rest, rfl, hwidth, hwritten⟩
    change width = written.length at hwidth
    change Written name written rest at hwritten
    subst hwidth
    cases hwritten with
    | bare hname hrest => exact read?_name_append hname hrest
    | braced hname => simpa using read?_braced_append hname rest

/-- No reference is found where none is written. -/
lemma read?_eq_none_iff {cs : List Char} : read? cs = none ↔
    ∀ name written rest, cs = written ++ rest → ¬Written name written rest := by
  rw [Option.eq_none_iff_forall_ne_some]
  constructor
  · rintro h name written rest rfl hwritten
    exact h ⟨name, written.length⟩ (read?_eq_some_iff.mpr ⟨written, rest, rfl, rfl, hwritten⟩)
  · rintro h ref href
    obtain ⟨written, rest, rfl, -, hwritten⟩ := read?_eq_some_iff.mp href
    exact h ref.name written rest rfl hwritten

/-- At most one reference is written at the front of a text. -/
lemma Written.unique {name name' written written' rest rest' : List Char}
    (h : Written name written rest) (h' : Written name' written' rest')
    (htext : written ++ rest = written' ++ rest') :
    name = name' ∧ written = written' ∧ rest = rest' := by
  have hread : read? (written ++ rest) = some ⟨name, written.length⟩ :=
    read?_eq_some_iff.mpr ⟨written, rest, rfl, rfl, h⟩
  have hread' : read? (written ++ rest) = some ⟨name', written'.length⟩ :=
    read?_eq_some_iff.mpr ⟨written', rest', htext, rfl, h'⟩
  rw [hread, Option.some.injEq, Reference.mk.injEq] at hread'
  exact ⟨hread'.1, List.append_inj htext hread'.2⟩

/-- A reference is no wider than the text that it is read from. -/
lemma width_le {cs : List Char} {ref : Reference} (h : read? cs = some ref) :
    ref.width ≤ cs.length := by
  obtain ⟨written, rest, rfl, hwidth, -⟩ := read?_eq_some_iff.mp h
  rw [hwidth, List.length_append]
  exact Nat.le_add_right ..

/-- The characters that a reference is written with are those of its name, and braces. -/
lemma Written.name_or_brace {name written rest : List Char} (h : Written name written rest)
    {c : Char} (hc : c ∈ written) : isNameChar c = true ∨ c = '\x7b' ∨ c = '\x7d' := by
  cases h with
  | bare hname _ => exact Or.inl (isNameChar_of_mem_name hname hc)
  | braced hname =>
      simp only [List.mem_cons, List.mem_append, List.not_mem_nil, or_false] at hc
      rcases hc with rfl | hc | rfl
      · exact Or.inr (Or.inl rfl)
      · exact Or.inl (isNameChar_of_mem_name hname hc)
      · exact Or.inr (Or.inr rfl)

/-- The characters that a reference takes are those of its name, and braces. -/
lemma name_or_brace_of_mem_take {cs : List Char} {ref : Reference} (h : read? cs = some ref)
    {c : Char} (hc : c ∈ cs.take ref.width) : isNameChar c = true ∨ c = '\x7b' ∨ c = '\x7d' := by
  obtain ⟨written, rest, rfl, hwidth, hwritten⟩ := read?_eq_some_iff.mp h
  rw [hwidth, List.take_left] at hc
  exact hwritten.name_or_brace hc

/-- A character that no name goes on with hides what stands behind it. -/
lemma Written.append_cons_iff {name written mid : List Char} {w : Char}
    (hw : isNameChar w = false) (ds : List Char) :
    Written name written (mid ++ w :: ds) ↔ Written name written mid := by
  have hhead : (∀ c ∈ (mid ++ w :: ds).head?, isNameChar c = false) ↔
      ∀ c ∈ mid.head?, isNameChar c = false := by
    cases mid <;> simp [hw]
  constructor
  · intro h
    cases h with
    | bare hname hrest => exact .bare hname (hhead.mp hrest)
    | braced hname => exact .braced hname _
  · intro h
    cases h with
    | bare hname hrest => exact .bare hname (hhead.mpr hrest)
    | braced hname => exact .braced hname _

/-- A reference is found or not before anything is known of what stands behind a character that
references are not written with.  This is so for an open brace too, however far it reaches. -/
theorem read?_append_cons {w : Char} (hw : ¬(isNameChar w = true ∨ w = '\x7b' ∨ w = '\x7d'))
    (cs ds : List Char) : read? (cs ++ w :: ds) = read? cs := by
  have hname : isNameChar w = false := eq_false_of_ne_true fun h => hw (Or.inl h)
  ext ref
  rw [read?_eq_some_iff, read?_eq_some_iff]
  constructor
  · rintro ⟨written, rest, hcs, hwidth, hwritten⟩
    obtain ⟨mid, rfl, rfl⟩ := exists_eq_append_of_not_mem hcs fun hmem =>
      hw (hwritten.name_or_brace hmem)
    exact ⟨written, mid, rfl, hwidth, (Written.append_cons_iff hname ds).mp hwritten⟩
  · rintro ⟨written, mid, rfl, hwidth, hwritten⟩
    exact ⟨written, mid ++ w :: ds, List.append_assoc .., hwidth,
      (Written.append_cons_iff hname ds).mpr hwritten⟩

end Reference

end PipeShell
