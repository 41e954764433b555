import PipeShell.Proofs.Builtin.Log
import PipeShell.Proofs.Program.Search
import PipeShell.Proofs.Text.Utf8
import PipeShell.Proofs.Token.WellFormed

/-!
# What the command about names tells

`type` says of a name what it stands for.  `Builtin.Tells` reads a success of `type` on one name off
its output, as a text about the name, and there are three kinds of text: about an alias, about a
built-in command, and the path of a program.  For a name that is a bare word no text is of two
kinds (`path_ne_builtinText`, `path_ne_aliasText`), so the kind of the text tells which of the
tables had the name: `tellsAlias_iff`, `tellsBuiltin_iff`, `tellsPath_iff`.

Several names are told one after the other, up to the first that stands for nothing
(`run_type_splits`).
-/

namespace PipeShell

namespace Builtin

/-! ## One name -/

variable {v : View} {name text w body path : String}

/-- What `type` says of an alias. -/
def aliasText (body : String) : String := "aliased to '" ++ body ++ "'"

/-- What `type` says of a built-in command. -/
def builtinText : String := "a shell builtin"

/-- `type` finds the name and writes a line that says of it this text. -/
def Tells (v : View) (name text : String) : Prop :=
  (type.run v [name]).result = .ok none ∧
    (type.run v [name]).output = Text.encode (name ++ " is " ++ text ++ "\n")

/-- `type` writes the text as the path of a program. -/
def TellsPath (v : View) (name path : String) : Prop :=
  Tells v name path ∧ path ≠ builtinText ∧ ∀ body, path ≠ aliasText body

/-- The four things that `type` can find about a name, with the line that it then has. -/
inductive Found (v : View) (name : String) : Prop
  | aliased {body : String} (halias : v.state.alias? name = some body)
      (hline : typeLine names v name = .ok (name ++ " is " ++ aliasText body))
  | builtin (halias : v.state.alias? name = none) (hbuiltin : (ofName? name).isSome = true)
      (hline : typeLine names v name = .ok (name ++ " is " ++ builtinText))
  | program {path : String} (halias : v.state.alias? name = none) (hbuiltin : ofName? name = none)
      (hfind : Program.find v.env v.disk v.state name = some path)
      (hline : typeLine names v name = .ok (name ++ " is " ++ path))
  | nothing (halias : v.state.alias? name = none) (hbuiltin : ofName? name = none)
      (hfind : Program.find v.env v.disk v.state name = none)
      (hline : typeLine names v name = .error (.notFound name))

/-- There is nothing else that `type` can find. -/
theorem found (v : View) (name : String) : Found v name := by
  cases halias : v.state.alias? name with
  | some body =>
      refine .aliased halias ?_
      rw [typeLine, halias, aliasText]
      simp only [String.append_assoc]
      rfl
  | none =>
      cases hbuiltin : ofName? name with
      | some b =>
          have hsome : (ofName? name).isSome = true := by rw [hbuiltin]; rfl
          refine .builtin halias hsome ?_
          rw [typeLine, halias, contains_names, hsome]
          simp only [String.append_assoc]
          rfl
      | none =>
          cases hfind : Program.find v.env v.disk v.state name with
          | some path =>
              refine .program halias hbuiltin hfind ?_
              rw [typeLine, halias, contains_names, hbuiltin, hfind]
              rfl
          | none =>
              refine .nothing halias hbuiltin hfind ?_
              rw [typeLine, halias, contains_names, hbuiltin, hfind]
              rfl

/-- The line of `type` about a name, in bytes. -/
def typeBytes (v : View) (name : String) : Except CommandError ByteArray :=
  (typeLine names v name).map fun line => Text.encode (line ++ "\n")

/-- With arguments, `type` writes a line about each of them. -/
lemma run_type {args : List String} (hargs : args ≠ []) :
    type.run v args = v.keep (.each (typeBytes v) args) := by
  change v.keep (typeCommand names v args) = _
  rw [typeCommand, if_neg (by simpa using hargs)]
  rfl

/-- A name that is found has its line in front of what is told of the others. -/
lemma each_typeBytes_of_ok {line : String} (h : typeLine names v name = .ok line)
    (args : List String) :
    Report.each (typeBytes v) (name :: args) =
      ⟨Text.encode (line ++ "\n") ++ (Report.each (typeBytes v) args).output,
        (Report.each (typeBytes v) args).result⟩ := by
  have hbytes : typeBytes v name = .ok (Text.encode (line ++ "\n")) := by rw [typeBytes, h]; rfl
  rw [Report.each, hbytes]

/-- At a name that is not found `type` stops. -/
lemma each_typeBytes_of_error {e : CommandError} (h : typeLine names v name = .error e)
    (args : List String) : Report.each (typeBytes v) (name :: args) = .fail e := by
  have hbytes : typeBytes v name = .error e := by rw [typeBytes, h]; rfl
  rw [Report.each, hbytes]

/-- On one name that has a line, `type` succeeds with that line. -/
lemma run_type_of_ok {line : String} (h : typeLine names v name = .ok line) :
    (type.run v [name]).result = .ok none ∧
      (type.run v [name]).output = Text.encode (line ++ "\n") := by
  rw [run_type (List.cons_ne_nil _ _), each_typeBytes_of_ok h]
  exact ⟨rfl, ByteArray.append_empty⟩

/-- On one name that has none, it fails. -/
lemma run_type_of_error {e : CommandError} (h : typeLine names v name = .error e) :
    (type.run v [name]).result = .error e := by
  rw [run_type (List.cons_ne_nil _ _), each_typeBytes_of_error h]
  rfl

/-- What `type` tells of a name is its line about it. -/
lemma tells_iff : Tells v name text ↔ typeLine names v name = .ok (name ++ " is " ++ text) := by
  constructor
  · rintro ⟨hresult, houtput⟩
    cases hline : typeLine names v name with
    | error e =>
        rw [run_type_of_error hline] at hresult
        cases hresult
    | ok line =>
        rw [(run_type_of_ok hline).2] at houtput
        rw [(String.append_left_inj "\n").mp (Text.encode_inj.mp houtput)]
  · exact run_type_of_ok

/-- The text about a name is determined by its line. -/
lemma tells_iff_of_line (hline : typeLine names v name = .ok (name ++ " is " ++ body)) :
    Tells v name text ↔ text = body := by
  rw [tells_iff, hline, Except.ok.injEq, String.append_right_inj]
  exact eq_comm

/-- Of a name without a line nothing is told. -/
lemma not_tells_of_error {e : CommandError} (hline : typeLine names v name = .error e) :
    ¬ Tells v name text := by
  rw [tells_iff, hline]
  exact nofun

/-! ## The three kinds of text -/

/-- Texts about aliases tell the bodies apart. -/
lemma aliasText_inj : aliasText text = aliasText body ↔ text = body := by
  rw [aliasText, aliasText, String.append_left_inj, String.append_right_inj]

/-- The text about a built-in command is never one about an alias. -/
lemma builtinText_ne_aliasText : builtinText ≠ aliasText body := by
  intro h
  have hchars := congrArg String.toList h
  rw [aliasText, String.toList_append, String.toList_append] at hchars
  cases hchars

variable {env : Environment} {disk : Disk} {s : ShellState}

/-- A bare word has a last character, and it is no quote. -/
lemma getLast?_of_isBareWord (hw : IsBareWord w) (front : String) :
    ∃ c, (front ++ w).toList.getLast? = some c ∧ c ≠ '\'' := by
  obtain ⟨hne, hchars⟩ := hw
  have hnil : w.toList ≠ [] := fun h => hne (String.toList_eq_nil_iff.mp h)
  refine ⟨w.toList.getLast hnil, ?_, ?_⟩
  · rw [String.toList_append, List.getLast?_append, List.getLast?_eq_some_getLast hnil]
    rfl
  · exact (isBare_iff.mp (hchars _ (List.getLast_mem hnil))).2.1

/-- The path of a program is no text about an alias: it ends like the name. -/
lemma path_ne_aliasText (hw : IsBareWord w) (hfind : Program.find env disk s w = some path) :
    path ≠ aliasText body := by
  have hpath : ∃ front, path = front ++ w := by
    rcases Program.path_of_find hfind with rfl | ⟨front, rfl⟩
    · exact ⟨"", String.empty_append.symm⟩
    · exact ⟨front ++ "/", rfl⟩
  obtain ⟨front, rfl⟩ := hpath
  obtain ⟨c, hlast, hc⟩ := getLast?_of_isBareWord hw front
  intro h
  have hquote : (aliasText body).toList.getLast? = some '\'' := by
    rw [aliasText, String.toList_append]
    exact List.getLast?_concat ..
  rw [h, hquote] at hlast
  exact hc (Option.some.inj hlast).symm

/-- Nor is it the text about a built-in command, which has spaces and no slash. -/
lemma path_ne_builtinText (hw : IsBareWord w) (hfind : Program.find env disk s w = some path) :
    path ≠ builtinText := by
  rcases Program.path_of_find hfind with rfl | ⟨front, rfl⟩
  · rintro rfl
    exact absurd (hw.2 ' ' (by decide)) (by decide)
  · intro h
    have hslash : '/' ∈ (front ++ "/" ++ w).toList := by simp [String.toList_append]
    rw [h] at hslash
    exact absurd hslash (by decide)

/-! ## What the text says about the name -/

/-- `type` tells of an alias what the alias stands for. -/
theorem tellsAlias_iff (hw : IsBareWord w) :
    Tells v w (aliasText body) ↔ v.state.alias? w = some body := by
  cases found v w with
  | aliased halias hline =>
      rw [tells_iff_of_line hline, aliasText_inj, halias, Option.some.injEq]
      exact eq_comm
  | builtin halias _ hline =>
      rw [tells_iff_of_line hline, halias]
      exact iff_of_false builtinText_ne_aliasText.symm nofun
  | program halias _ hfind hline =>
      rw [tells_iff_of_line hline, halias]
      exact iff_of_false (path_ne_aliasText hw hfind).symm nofun
  | nothing halias _ _ hline =>
      rw [halias]
      exact iff_of_false (not_tells_of_error hline) nofun

/-- `type` tells of a built-in command that it is one, if it has no alias. -/
theorem tellsBuiltin_iff (hw : IsBareWord w) :
    Tells v w builtinText ↔ v.state.alias? w = none ∧ (ofName? w).isSome = true := by
  cases found v w with
  | aliased halias hline =>
      rw [tells_iff_of_line hline, halias]
      exact iff_of_false builtinText_ne_aliasText nofun
  | builtin halias hbuiltin hline =>
      rw [tells_iff_of_line hline]
      exact iff_of_true rfl ⟨halias, hbuiltin⟩
  | program _ hbuiltin hfind hline =>
      rw [tells_iff_of_line hline, hbuiltin]
      exact iff_of_false (path_ne_builtinText hw hfind).symm nofun
  | nothing _ hbuiltin _ hline =>
      rw [hbuiltin]
      exact iff_of_false (not_tells_of_error hline) nofun

/-- `type` tells the path of the program that is found, if there is nothing else of that name. -/
theorem tellsPath_iff (hw : IsBareWord w) :
    TellsPath v w path ↔ v.state.alias? w = none ∧ ofName? w = none ∧
      Program.find v.env v.disk v.state w = some path := by
  unfold TellsPath
  cases found v w with
  | aliased halias hline =>
      rw [tells_iff_of_line hline, halias]
      exact iff_of_false (fun h => h.2.2 _ h.1) nofun
  | builtin _ hbuiltin hline =>
      rw [tells_iff_of_line hline]
      refine iff_of_false (fun h => h.2.1 h.1) fun h => ?_
      rw [h.2.1] at hbuiltin
      cases hbuiltin
  | program halias hbuiltin hfind hline =>
      rw [tells_iff_of_line hline, halias, hbuiltin, hfind, Option.some.injEq]
      constructor
      · rintro ⟨rfl, -⟩
        exact ⟨rfl, rfl, rfl⟩
      · rintro ⟨-, -, rfl⟩
        exact ⟨rfl, path_ne_builtinText hw hfind, fun body => path_ne_aliasText hw hfind⟩
  | nothing _ _ hfind hline =>
      rw [hfind]
      exact iff_of_false (fun h => not_tells_of_error hline h.1) nofun

/-- `type` fails with the name exactly if it stands for nothing. -/
theorem run_type_notFound_iff :
    (type.run v [name]).result = .error (.notFound name) ↔ v.state.alias? name = none ∧
      ofName? name = none ∧ Program.find v.env v.disk v.state name = none := by
  cases found v name with
  | aliased halias hline =>
      rw [(run_type_of_ok hline).1, halias]
      exact iff_of_false nofun nofun
  | builtin _ hbuiltin hline =>
      rw [(run_type_of_ok hline).1]
      refine iff_of_false nofun fun h => ?_
      rw [h.2.1] at hbuiltin
      cases hbuiltin
  | program _ _ hfind hline =>
      rw [(run_type_of_ok hline).1, hfind]
      exact iff_of_false nofun nofun
  | nothing halias hbuiltin hfind hline =>
      rw [run_type_of_error hline]
      exact iff_of_true rfl ⟨halias, hbuiltin, hfind⟩

/-! ## Several names -/

/-- What `type` writes about names, each with a text, in order. -/
def tellingLines (told : List (String × String)) : List String :=
  told.map fun p => p.1 ++ " is " ++ p.2

/-- A name is told, or it is the reason of the failure. -/
lemma tells_or_notFound (v : View) (name : String) :
    (∃ text, typeLine names v name = .ok (name ++ " is " ++ text)) ∨
      typeLine names v name = .error (.notFound name) := by
  cases found v name with
  | aliased _ hline => exact .inl ⟨_, hline⟩
  | builtin _ _ hline => exact .inl ⟨_, hline⟩
  | program _ _ _ hline => exact .inl ⟨_, hline⟩
  | nothing _ _ _ hline => exact .inr hline

/-- The names of a list are told one after the other, up to the first that stands for nothing. -/
theorem run_type_splits (v : View) {args : List String} (hargs : args ≠ []) :
    ∃ told rest, args = told.map Prod.fst ++ rest ∧ (∀ p ∈ told, Tells v p.1 p.2) ∧
      (type.run v args).output = Text.encode (printLines (tellingLines told)) ∧
      ((rest = [] ∧ (type.run v args).result = .ok none) ∨
        ∃ bad more, rest = bad :: more ∧
          (type.run v [bad]).result = .error (.notFound bad) ∧
          (type.run v args).result = .error (.notFound bad)) := by
  rw [run_type hargs]
  clear hargs
  induction args with
  | nil => exact ⟨[], [], rfl, List.forall_mem_nil _, rfl, .inl ⟨rfl, rfl⟩⟩
  | cons name args ih =>
      rcases tells_or_notFound v name with ⟨text, hline⟩ | hline
      · obtain ⟨told, rest, rfl, htold, houtput, hend⟩ := ih
        have hprinted : printLines (tellingLines ((name, text) :: told)) =
            (name ++ " is " ++ text ++ "\n") ++ printLines (tellingLines told) := String.join_cons
        rw [each_typeBytes_of_ok hline]
        refine ⟨(name, text) :: told, rest, rfl, ?_, ?_, hend⟩
        · exact List.forall_mem_cons.mpr ⟨tells_iff.mpr hline, htold⟩
        · rw [hprinted, Text.encode_append (name ++ " is " ++ text ++ "\n"), ← houtput]
          rfl
      · rw [each_typeBytes_of_error hline]
        exact ⟨[], name :: args, rfl, List.forall_mem_nil _, rfl,
          .inr ⟨name, args, rfl, run_type_of_error hline, rfl⟩⟩

end Builtin

end PipeShell
