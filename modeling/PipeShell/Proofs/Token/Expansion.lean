import PipeShell.Proofs.Token.Reading
import PipeShell.Proofs.Token.WellFormed
import PipeShell.Proofs.Variable.Reference

/-!
# Words with values in them

Reading a line that assigns a value and lines that refer to it.  The characters of a name are bare
(`isBare_of_isNameChar`), so a name is read as a part of a word; a text in single quotes is read as
it is; and a reference adds the value to its word, whatever characters the value has.

`scanWith_exportLine`, `scanWith_bareLine` and `scanWith_bracedLine` put this together for an
assignment in single quotes and for the two forms of a reference, by itself and between double
quotes.
-/

namespace PipeShell

open Mode

/-! ## Characters of names -/

/-- The characters of names lie in this range. -/
lemma range_of_isNameChar {c : Char} (h : isNameChar c = true) :
    48 ≤ c.val.toNat ∧ c.val.toNat ≤ 122 := by
  -- the ranges are read off the classes as they stand, capital letters first
  have hkinds : (((c.isUpper || c.isLower) || c.isDigit) || c == '_') = true := h
  simp only [Bool.or_eq_true, beq_iff_eq] at hkinds
  rcases hkinds with ((hupper | hlower) | hdigit) | rfl
  · obtain ⟨hfirst, hlast⟩ : 'A'.val ≤ c.val ∧ c.val ≤ 'Z'.val := of_decide_eq_true hupper
    exact ⟨Nat.le_trans (by decide) (UInt32.le_iff_toNat_le.mp hfirst),
      Nat.le_trans (UInt32.le_iff_toNat_le.mp hlast) (by decide)⟩
  · obtain ⟨hfirst, hlast⟩ := Bool.and_eq_true_iff.mp hlower
    exact ⟨Nat.le_trans (by decide) (UInt32.le_iff_toNat_le.mp (of_decide_eq_true hfirst)),
      UInt32.le_iff_toNat_le.mp (of_decide_eq_true hlast)⟩
  · obtain ⟨hfirst, hlast⟩ := Bool.and_eq_true_iff.mp hdigit
    exact ⟨UInt32.le_iff_toNat_le.mp (of_decide_eq_true hfirst),
      Nat.le_trans (UInt32.le_iff_toNat_le.mp (of_decide_eq_true hlast)) (by decide)⟩
  · decide

/-- Blanks lie outside of it. -/
lemma range_of_isBlank {c : Char} (h : Text.isBlank c = true) :
    c.val.toNat ≤ 32 ∨ 133 ≤ c.val.toNat := by
  simp only [Text.isBlank, Bool.or_eq_true, Bool.and_eq_true, beq_iff_eq, decide_eq_true_eq,
    Char.le_def, UInt32.le_iff_toNat_le] at h
  rcases h with (((((((((rfl | h) | rfl) | rfl) | rfl) | h) | rfl) | rfl) | rfl) | rfl) | rfl
  -- the single characters are closed cases, and two ranges are left
  any_goals decide
  · exact .inl (Nat.le_trans h.2 (by decide))
  · exact .inr (Nat.le_trans (by decide) h.1)

/-- A name can stand in a word, and it refers to nothing. -/
lemma isBare_of_isNameChar {c : Char} (h : isNameChar c = true) : isBare c = true ∧ c ≠ '$' := by
  have hblank : Text.isBlank c = false := by
    rw [← Bool.not_eq_true]
    intro hblank
    have hname := range_of_isNameChar h
    have hrange := range_of_isBlank hblank
    omega
  refine ⟨isBare_iff.mpr ⟨hblank, ?_, ?_, ?_, ?_, ?_⟩, ?_⟩ <;> rintro rfl <;>
    exact absurd h (by decide)

/-- The text is a word that can be written without quotes, and it refers to nothing. -/
def IsPlainWord (w : String) : Prop := IsBareWord w ∧ '$' ∉ w.toList

/-- Whether a word is plain can be evaluated. -/
instance : DecidablePred IsPlainWord := fun w =>
  inferInstanceAs (Decidable (IsBareWord w ∧ '$' ∉ w.toList))

/-- A plain word ends outside quotes, where it begins. -/
lemma after_plainWord {w : String} (hw : IsPlainWord w) : plain.after w.toList = plain := by
  refine after_of_idle fun c hc => ?_
  rw [(Rule.bare (hw.1.2 c hc) fun hd => hw.2 (hd ▸ hc)).step_eq]

namespace Token

variable {vars : Lookup} {name value : String}

/-! ## Words of a line -/

/-- Outside quotes and between double quotes, a plain word is added to the word before it as it is,
whether references are read or not. -/
lemma scanFrom_plainWord_append {vars : Option Lookup} {m : Mode} (hm : m = plain ∨ m = doubleQuote)
    {w : String} (hw : IsPlainWord w) (d : Option Draft) (rest : List Char) :
    scanFrom vars m d (w.toList ++ rest) =
      scanFrom vars m (some (Draft.extend w false d)) rest := by
  obtain ⟨⟨hne, hbare⟩, hdollar⟩ := hw
  have hnil : w.toList ≠ [] := fun h => hne (String.toList_eq_nil_iff.mp h)
  have hpush : ∀ c ∈ w.toList, Rule m c m (.push c) := fun c hc =>
    rule_push_of_isBare hm (hbare c hc) fun hd => hdollar (hd ▸ hc)
  rw [scanFrom_run_append hnil (fun c hc d cs => scanFrom_push vars d cs (hpush c hc)),
    String.ofList_toList]

/-- With a space behind it, a plain word is a word of its own. -/
lemma scanFrom_plainWord_space {w : String} (hw : IsPlainWord w) (rest : List Char) :
    scanFrom (some vars) plain none (w.toList ++ ' ' :: rest) =
      (scanFrom (some vars) plain none rest).map (word w false :: ·) := by
  rw [scanFrom_plainWord_append (Or.inl rfl) hw, scanFrom_gap _ _ _ (by decide)]
  rfl

/-- A plain word is read as one word. -/
theorem scanWith_plainWord {w : String} (hw : IsPlainWord w) :
    scanWith vars w = .ok [word w false] := by
  rw [scanWith, scan_eq_scanFrom, ← List.append_nil w.toList,
    scanFrom_plainWord_append (Or.inl rfl) hw, scanFrom_nil]
  rfl

/-- A line that is a plain word is not blank. -/
lemma not_blank_of_plainWord {w : String} (hw : IsPlainWord w) : Text.isAllBlank w = false := by
  have hscan : scanWith (fun _ => none) w = .ok [word w false] := scanWith_plainWord hw
  exact not_blank_of_scan hscan

/-- The line that sets a variable to a value in single quotes. -/
def exportLine (name value : String) : String :=
  "export " ++ name ++ "=" ++ String.ofList (singleQuoted value.toList)

/-- An assignment in single quotes is read as the name, an equals sign and the value. -/
theorem scanWith_exportLine (hname : isValidName name = true) :
    scanWith vars (exportLine name value) =
      .ok [word "export" false, word (name ++ "=" ++ value) true] := by
  have hline : (exportLine name value).toList =
      "export".toList ++ ' ' :: ((name.toList ++ ['=']) ++ (singleQuoted value.toList ++ [])) := by
    simp [exportLine, String.toList_append]
  have hbare : ∀ c ∈ name.toList ++ ['='], isBare c = true ∧ c ≠ '$' := by
    intro c hc
    rcases List.mem_append.mp hc with hc | hc
    · exact isBare_of_isNameChar (isNameChar_of_mem_name hname hc)
    · obtain rfl := List.mem_singleton.mp hc
      decide
  rw [scanWith, scan_eq_scanFrom, hline,
    scanFrom_plainWord_space (by decide),
    scanFrom_bare_append (by simp) (fun c hc => (hbare c hc).1) (.inr fun c hc => (hbare c hc).2),
    scanFrom_singleQuoted_append, scanFrom_nil, Draft.extend_extend]
  simp [Draft.extend, Draft.finish, Except.map, String.ofList_append]

/-- The line that shows a variable between brackets. -/
def bareLine (name : String) : String := "echo [$" ++ name ++ "]"

/-- The line that shows a variable between brackets, with the name in braces and all of it in double
quotes. -/
def bracedLine (name : String) : String := "echo \"[$\x7b" ++ name ++ "\x7d]\""

/-- A reference between brackets is read as one word with the value in it. -/
theorem scanWith_bareLine (hname : isValidName name = true) (hvalue : vars name = some value) :
    scanWith vars (bareLine name) =
      .ok [word "echo" false, word ("[" ++ value ++ "]") false] := by
  have hline : (bareLine name).toList =
      "echo".toList ++ ' ' :: '[' :: '$' :: (name.toList ++ [']']) := by
    simp [bareLine, String.toList_append]
  have href : Reference.read? (name.toList ++ [']']) = some ⟨name.toList, name.toList.length⟩ :=
    Reference.read?_name_append hname fun c hc => by cases hc; rfl
  rw [scanWith, scan_eq_scanFrom, hline,
    scanFrom_plainWord_space (by decide),
    scanFrom_push _ _ _ (.bare (by decide) (by decide)), scanFrom_variable _ .dollarPlain href,
    List.drop_left, scanFrom_push _ _ _ (.bare (by decide) (by decide)), scanFrom_nil]
  simp only [String.ofList_toList, hvalue, Draft.extend_extend]
  rfl

/-- In double quotes, with braces around the name, it is the same word, but for its being quoted. -/
theorem scanWith_bracedLine (hname : isValidName name = true) (hvalue : vars name = some value) :
    scanWith vars (bracedLine name) =
      .ok [word "echo" false, word ("[" ++ value ++ "]") true] := by
  have hline : (bracedLine name).toList =
      "echo".toList ++ ' ' :: '"' :: '[' :: '$' :: '\x7b' ::
        (name.toList ++ ['\x7d', ']', '"']) := by
    simp [bracedLine, String.toList_append]
  have href : Reference.read? ('\x7b' :: (name.toList ++ ['\x7d', ']', '"'])) =
      some ⟨name.toList, name.toList.length + 2⟩ :=
    Reference.read?_braced_append hname [']', '"']
  have hrest : ('\x7b' :: (name.toList ++ ['\x7d', ']', '"'])).drop (name.toList.length + 2) =
      [']', '"'] := by
    rw [List.drop_succ_cons, List.drop_length_add_append]
    rfl
  rw [scanWith, scan_eq_scanFrom, hline,
    scanFrom_plainWord_space (by decide),
    scanFrom_quote _ _ _ (.inl .openDouble),
    scanFrom_push _ _ _ (.double (by decide) (by decide) (by decide)),
    scanFrom_variable _ .dollarDouble href, hrest,
    scanFrom_push _ _ _ (.double (by decide) (by decide) (by decide)),
    scanFrom_quote _ _ _ (.inr .closeDouble), scanFrom_nil]
  simp only [String.ofList_toList, hvalue, Draft.extend_extend, String.empty_append,
    String.append_empty]
  rfl

end Token

end PipeShell
