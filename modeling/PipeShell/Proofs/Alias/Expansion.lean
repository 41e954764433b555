import PipeShell.Proofs.Execution.Run
import PipeShell.Proofs.Pipeline.Segments
import PipeShell.Proofs.Token.Boundary
import PipeShell.Proofs.Token.Values
import PipeShell.Shell

/-!
# What aliases change in a line

Aliases are looked for at the first token of each segment between pipes and nowhere else.  A segment
whose first token is a word without quotes that has an alias has the tokens of the body in its
place; every other segment is as it was (`Alias.Expanded`).  `Alias.expand` does this to all
segments and stops at the first body that cannot be read (`Alias.expand_eq_mapM`).

So a word with an alias, in front of a text without pipes, is prepared as its body is in front of
the same text where there are no aliases: `Shell.prepare_of_alias`.
-/

namespace PipeShell

open Mode

namespace Alias

variable {aliases : String → Option String} {vars : Lookup} {seg ts us : List Token}

/-! ## One token -/

/-- What a token stands for. -/
def tokensOf (aliases : String → Option String) (vars : Lookup) (atCommand : Bool) (t : Token) :
    Except SyntaxError (List Token) :=
  match body? aliases atCommand t with
  | none => .ok [t]
  | some body => Token.scanWith vars body

/-- A plain word that can be an alias, and is one, comes to the tokens of its body. -/
lemma tokensOf_word {text body : String} (halias : aliases text = some body) :
    tokensOf aliases vars true (.word text false) = Token.scanWith vars body := by
  simp only [tokensOf, body?, if_true, halias]

/-- A token stands for itself, unless it is a word without quotes that has an alias. -/
lemma tokensOf_of_plain {atCommand : Bool} {t : Token}
    (h : ∀ text, t = .word text false → aliases text = none) :
    tokensOf aliases vars atCommand t = .ok [t] := by
  rcases t with ⟨text, _ | _⟩ | text
  · cases atCommand <;> simp [tokensOf, body?, h text rfl]
  · rfl
  · rfl

/-- Behind the first token of a segment every token stands for itself. -/
lemma tokensOf_behind (t : Token) : tokensOf aliases vars false t = .ok [t] := by
  rcases t with ⟨text, _ | _⟩ | text <;> rfl

/-- What the first token stands for comes first. -/
lemma expandFrom_cons (atCommand : Bool) (t : Token) (ts : List Token) :
    (expandFrom aliases vars atCommand (t :: ts)).1 =
      tokensOf aliases vars atCommand t >>= fun front =>
        (expandFrom aliases vars t.isPipe ts).1.map (front ++ ·) := by
  rw [expandFrom, tokensOf]
  cases body? aliases atCommand t with
  | none => rfl
  | some body => cases hread : Token.scanWith vars body <;> simp [hread, bind, Except.bind]

/-! ## Segments -/

/-- What becomes of the tokens between two pipes. -/
inductive Expanded (aliases : String → Option String) (vars : Lookup) :
    List Token → List Token → Prop
  /-- The first token is a word without quotes that has an alias, and the tokens of the body take
  its place. -/
  | body {text body : String} {inserted rest : List Token} (halias : aliases text = some body)
      (hread : Token.scanWith vars body = .ok inserted) :
      Expanded aliases vars (.word text false :: rest) (inserted ++ rest)
  /-- The first token, if there is one, is no such word. -/
  | kept {seg : List Token}
      (hplain : ∀ text rest, seg = .word text false :: rest → aliases text = none) :
      Expanded aliases vars seg seg

/-- The first token is a word without quotes that has an alias, and the body cannot be read. -/
def Refused (aliases : String → Option String) (vars : Lookup) (seg : List Token)
    (e : SyntaxError) : Prop :=
  ∃ text body rest, seg = .word text false :: rest ∧ aliases text = some body ∧
    Token.scanWith vars body = .error e

/-- The tokens between two pipes, with the alias of the first of them replaced. -/
def expandSegment (aliases : String → Option String) (vars : Lookup) :
    List Token → Except SyntaxError (List Token)
  | [] => .ok []
  | t :: ts => (tokensOf aliases vars true t).map (· ++ ts)

/-- A segment that begins with an alias has the tokens of the body in front of its rest. -/
lemma expandSegment_of_body {text body : String} (halias : aliases text = some body)
    (rest : List Token) :
    expandSegment aliases vars (.word text false :: rest) =
      (Token.scanWith vars body).map (· ++ rest) := by
  rw [expandSegment, tokensOf_word halias]

/-- A segment that begins with no alias stays as it is. -/
lemma expandSegment_of_plain
    (hplain : ∀ text rest, seg = .word text false :: rest → aliases text = none) :
    expandSegment aliases vars seg = .ok seg := by
  cases seg with
  | nil => rfl
  | cons t ts =>
      rw [expandSegment, tokensOf_of_plain fun text ht => hplain text ts (by rw [ht])]
      rfl

/-- A segment begins with a word that has an alias, or it is as it was. -/
lemma command_cases (aliases : String → Option String) (seg : List Token) :
    (∃ text body rest, seg = .word text false :: rest ∧ aliases text = some body) ∨
      ∀ text rest, seg = .word text false :: rest → aliases text = none := by
  refine or_iff_not_imp_left.mpr fun h text rest hseg => ?_
  rw [Option.eq_none_iff_forall_ne_some]
  exact fun body halias => h ⟨text, body, rest, hseg, halias⟩

/-- The function for one segment gives what the relation says. -/
theorem expandSegment_eq_ok_iff :
    expandSegment aliases vars seg = .ok us ↔ Expanded aliases vars seg us := by
  constructor
  · intro h
    rcases command_cases aliases seg with ⟨text, body, rest, rfl, halias⟩ | hplain
    · rw [expandSegment_of_body halias, map_eq_ok_iff] at h
      obtain ⟨inserted, hread, rfl⟩ := h
      exact .body halias hread
    · rw [expandSegment_of_plain hplain] at h
      cases h
      exact .kept hplain
  · rintro (⟨halias, hread⟩ | hplain)
    · rw [expandSegment_of_body halias, hread]
      rfl
    · exact expandSegment_of_plain hplain

/-- It refuses a segment for the reason that the relation gives, and only then. -/
theorem expandSegment_eq_error_iff {e : SyntaxError} :
    expandSegment aliases vars seg = .error e ↔ Refused aliases vars seg e := by
  constructor
  · intro h
    rcases command_cases aliases seg with ⟨text, body, rest, rfl, halias⟩ | hplain
    · rw [expandSegment_of_body halias, map_eq_error_iff] at h
      exact ⟨text, body, rest, rfl, halias, h⟩
    · rw [expandSegment_of_plain hplain] at h
      cases h
  · rintro ⟨text, body, rest, rfl, halias, hread⟩
    rw [expandSegment_of_body halias, hread]
    rfl

/-! ## Lines -/

/-- Behind the first token of a segment nothing changes up to the next pipe. -/
lemma expandFrom_append (hseg : ∀ t ∈ seg, t.isPipe = false) (ts : List Token) :
    (expandFrom aliases vars false (seg ++ ts)).1 =
      (expandFrom aliases vars false ts).1.map (seg ++ ·) := by
  induction seg with
  | nil => cases h : (expandFrom aliases vars false ts).1 <;> simp [h, Except.map]
  | cons t seg ih =>
      obtain ⟨ht, hseg⟩ := List.forall_mem_cons.mp hseg
      rw [List.cons_append, expandFrom_cons, tokensOf_behind, ht, ih hseg]
      cases (expandFrom aliases vars false ts).1 <;> rfl

/-- Behind a pipe a segment begins. -/
lemma expandFrom_pipe (atCommand : Bool) (ts : List Token) :
    (expandFrom aliases vars atCommand (.pipe :: ts)).1 =
      (expand aliases vars ts).1.map (.pipe :: ·) := by
  have hpipe : tokensOf aliases vars atCommand .pipe = .ok [.pipe] := rfl
  rw [expandFrom_cons, hpipe]
  rfl

/-- A segment is expanded by itself, and what stands behind it is looked at no more than the end of
the line is. -/
lemma expand_append (hseg : ∀ t ∈ seg, t.isPipe = false)
    (hts : ts = [] ∨ ∃ rest, ts = .pipe :: rest) :
    (expand aliases vars (seg ++ ts)).1 =
      expandSegment aliases vars seg >>= fun us =>
        (expandFrom aliases vars false ts).1.map (us ++ ·) := by
  cases seg with
  | nil =>
      rcases hts with rfl | ⟨rest, rfl⟩
      · rfl
      · rw [List.nil_append, expand, expandFrom_pipe, expandFrom_pipe, expandSegment]
        cases (expand aliases vars rest).1 <;> rfl
  | cons t seg =>
      obtain ⟨ht, hseg⟩ := List.forall_mem_cons.mp hseg
      rw [List.cons_append, expand, expandFrom_cons, ht, expandFrom_append hseg, expandSegment]
      cases tokensOf aliases vars true t with
      | error e => rfl
      | ok front =>
          cases (expandFrom aliases vars false ts).1 <;> simp [Except.map, bind, Except.bind]

/-- A line without pipes is one segment. -/
lemma expand_of_unpiped (hseg : ∀ t ∈ seg, t.isPipe = false) :
    (expand aliases vars seg).1 = expandSegment aliases vars seg := by
  rw [← List.append_nil seg, expand_append hseg (Or.inl rfl), List.append_nil]
  cases expandSegment aliases vars seg <;> simp [expandFrom, Except.map, bind, Except.bind]

/-- Segments that are joined by pipes are expanded one by one. -/
lemma expand_intercalate {segs : List (List Token)} (hne : segs ≠ [])
    (hpipe : ∀ seg ∈ segs, ∀ t ∈ seg, t.isPipe = false) :
    (expand aliases vars ([Token.pipe].intercalate segs)).1 =
      (segs.mapM (expandSegment aliases vars)).map [Token.pipe].intercalate := by
  induction segs with
  | nil => exact absurd rfl hne
  | cons seg segs ih =>
      obtain ⟨hseg, hsegs⟩ := List.forall_mem_cons.mp hpipe
      rw [List.mapM_cons]
      by_cases hnil : segs = []
      · subst hnil
        rw [List.intercalate_singleton, expand_of_unpiped hseg]
        cases expandSegment aliases vars seg <;>
          simp [Except.map, bind, Except.bind, pure, Except.pure]
      · rw [List.intercalate_cons_of_ne_nil hnil, List.append_assoc, List.singleton_append,
          expand_append hseg (Or.inr ⟨_, rfl⟩), expandFrom_pipe, ih hnil hsegs]
        cases expandSegment aliases vars seg with
        | error e => rfl
        | ok us =>
            cases hrest : segs.mapM (expandSegment aliases vars) with
            | error e => rfl
            | ok rest =>
                -- no segment is lost, so a pipe has to stand before the others again
                have hrestne : rest ≠ [] := by
                  rintro rfl
                  exact hnil (List.forall₂_nil_right_iff.mp (mapM_eq_ok_iff.mp hrest))
                simp [Except.map, bind, Except.bind, pure, Except.pure,
                  List.intercalate_cons_of_ne_nil hrestne]

/-- Aliases are replaced segment by segment. -/
theorem expand_eq_mapM (ts : List Token) :
    (expand aliases vars ts).1 =
      ((Pipeline.segments ts).mapM (expandSegment aliases vars)).map [Token.pipe].intercalate := by
  have hpipe : ∀ seg ∈ Pipeline.segments ts, ∀ t ∈ seg, t.isPipe = false :=
    fun seg hseg t ht => Pipeline.isPipe_of_mem_segments hseg ht
  rw [← expand_intercalate (Pipeline.segments_ne_nil ts) hpipe, Pipeline.intercalate_segments]

/-- The expanded line is its expanded segments with the pipes between them. -/
theorem expand_eq_ok_iff : (expand aliases vars ts).1 = .ok us ↔ ∃ segs,
    List.Forall₂ (Expanded aliases vars) (Pipeline.segments ts) segs ∧
      [Token.pipe].intercalate segs = us := by
  simp only [expand_eq_mapM, map_eq_ok_iff, mapM_eq_ok_iff, expandSegment_eq_ok_iff]

/-- Expansion fails at the first segment whose body cannot be read. -/
theorem expand_eq_error_iff {e : SyntaxError} : (expand aliases vars ts).1 = .error e ↔
    ∃ front seg rest, Pipeline.segments ts = front ++ seg :: rest ∧
      (∀ seg' ∈ front, ∃ us, Expanded aliases vars seg' us) ∧ Refused aliases vars seg e := by
  simp only [expand_eq_mapM, map_eq_error_iff, mapM_eq_error_iff, expandSegment_eq_ok_iff,
    expandSegment_eq_error_iff]

/-- Where there are no aliases nothing changes. -/
lemma expand_of_no_alias (h : ∀ name, aliases name = none) (ts : List Token) :
    (expand aliases vars ts).1 = .ok ts := by
  rw [expand_eq_ok_iff]
  refine ⟨Pipeline.segments ts, ?_, Pipeline.intercalate_segments ts⟩
  rw [List.forall₂_same]
  exact fun seg _ => .kept fun text _ _ => h text

end Alias

/-! ## Texts without pipes -/

/-- A pipe that the scanner finds is one for the table. -/
lemma exists_mem_trace_of_pipe {expand : Bool} {skip : Nat} {m : Mode} {cs : List Char}
    (hidle : m.Idle (cs.take skip)) (h : Piece.operator "|" ∈ (pieces expand skip m cs).1) :
    ∃ step ∈ m.trace cs, step.2 = .operator '|' := by
  -- the characters that are skipped are idle: the table finds no operator in them
  fun_induction pieces expand skip m cs with
  | case1 => cases h
  | case2 skip m c cs ih =>
      rw [List.take_succ_cons, idle_cons] at hidle
      obtain ⟨step, hmem, hpipe⟩ := ih hidle.2 h
      refine ⟨step, List.mem_cons_of_mem _ ?_, hpipe⟩
      rwa [hidle.1]
  | case8 m c cs next o hact text ih =>
      rcases List.mem_cons.mp h with htext | h
      · have hchars := (operatorText_spec o cs).1
        have htext : "|" = operatorText o cs := Piece.operator.inj htext
        rw [← htext] at hchars
        have ho : '|' = o := (List.cons.inj hchars).1
        exact ⟨m.step c, List.mem_cons_self, by rw [hact, ← ho]⟩
      · obtain ⟨step, hmem, hpipe⟩ := ih (idle_operator hact cs) h
        exact ⟨step, List.mem_cons_of_mem _ hmem, hpipe⟩
  | case9 m c cs next hact ref href ih =>
      rcases List.mem_cons.mp h with hpiece | h
      · cases hpiece
      · have hread := (Option.ite_none_right_eq_some.mp href).2
        obtain ⟨step, hmem, hpipe⟩ := ih (idle_reference hact hread) h
        exact ⟨step, List.mem_cons_of_mem _ hmem, hpipe⟩
  | case11 m c cs next hact ih =>
      obtain ⟨step, hmem, hpipe⟩ := ih (idle_nil _) h
      exact ⟨step, List.mem_cons_of_mem _ hmem, hpipe⟩
  | _ =>
      rename_i ih
      rcases List.mem_cons.mp h with hpiece | h
      · cases hpiece
      · obtain ⟨step, hmem, hpipe⟩ := ih (idle_nil _) h
        exact ⟨step, List.mem_cons_of_mem _ hmem, hpipe⟩

/-- No character of the text is a pipe for the table. -/
def Unpiped (text : String) : Prop := ∀ step ∈ plain.trace text.toList, step.2 ≠ .operator '|'

/-- The tokens of a text without pipes are none. -/
lemma isPipe_of_unpiped {vars : Option Lookup} {text : String} (htext : Unpiped text)
    {ts : List Token} (hts : Token.scan vars text = .ok ts) : ∀ t ∈ ts, t.isPipe = false := by
  intro t ht
  by_contra hpipe
  obtain rfl := Token.isPipe_iff.mp (eq_true_of_ne_false hpipe)
  rw [scan_eq_of_after] at hts
  split at hts
  · cases hts
  · cases hts
    have hmem := List.mem_filter.mpr ⟨ht, (rfl : Token.pipe.isOperator = true)⟩
    rw [filter_isOperator_assemble] at hmem
    obtain ⟨piece, hpiece, hop⟩ := List.mem_filterMap.mp hmem
    cases piece with
    | operator text' =>
        obtain rfl : text' = "|" := by simpa [Piece.operator?, Token.pipe] using hop
        obtain ⟨step, hstep, hact⟩ := exists_mem_trace_of_pipe (idle_nil _) hpiece
        exact htext step hstep hact
    | _ => cases hop

/-! ## Preparing a line -/

namespace Shell

/-- The shell without its aliases. -/
def withoutAliases (sh : Shell) : Shell := { sh with state := { sh.state with aliases := ∅ } }

/-- The pipeline that a line writes, or the error, without the aliases used on the way. -/
lemma fst_prepare (host : Host) (sh : Shell) (line : String) :
    (prepare host sh line).1 = Token.scanWith (sh.state.var? host.env) line >>= fun ts =>
      (Alias.expand sh.state.alias? (sh.state.var? host.env) ts).1 >>= Pipeline.ofTokens := by
  rw [prepare]
  cases Token.scanWith (sh.state.var? host.env) line <;> rfl

/-- A word with an alias is prepared as its body is without aliases, in front of any text that has
no pipe. -/
theorem prepare_of_alias (host : Host) {sh : Shell} {name body text : String}
    (hname : IsPlainWord name) (halias : sh.state.alias? name = some body)
    (hbody : plain.after body.toList = plain) (htext : Unpiped text) :
    (prepare host sh (name ++ " " ++ text)).1 =
      (prepare host sh.withoutAliases (body ++ " " ++ text)).1 := by
  have hblank : Text.isBlank ' ' = true := by decide
  obtain ⟨inserted, hinserted⟩ := Token.exists_scan_eq_ok (some (sh.state.var? host.env)) hbody
  have hline : Token.scanWith (sh.state.var? host.env) (name ++ " " ++ text) =
      (Token.scanWith (sh.state.var? host.env) text).map ([.word name false] ++ ·) :=
    Token.scan_append_blank hblank (after_plainWord hname) (Token.scanWith_plainWord hname) text
  have hline' : Token.scanWith (sh.state.var? host.env) (body ++ " " ++ text) =
      (Token.scanWith (sh.state.var? host.env) text).map (inserted ++ ·) :=
    Token.scan_append_blank hblank hbody hinserted text
  rw [fst_prepare, fst_prepare, hline]
  change _ = Token.scanWith (sh.state.var? host.env) (body ++ " " ++ text) >>= _
  rw [hline']
  cases hts : Token.scanWith (sh.state.var? host.env) text with
  | error e => rfl
  | ok us =>
      have hunpiped : ∀ t ∈ .word name false :: us, t.isPipe = false :=
        List.forall_mem_cons.mpr ⟨rfl, isPipe_of_unpiped htext hts⟩
      have hleft : (Alias.expand sh.state.alias? (sh.state.var? host.env)
          (.word name false :: us)).1 = .ok (inserted ++ us) := by
        rw [Alias.expand_of_unpiped hunpiped, Alias.expandSegment_of_body halias]
        exact map_eq_ok_iff.mpr ⟨inserted, hinserted, rfl⟩
      have hright : (Alias.expand sh.withoutAliases.state.alias? (sh.state.var? host.env)
          (inserted ++ us)).1 = .ok (inserted ++ us) :=
        Alias.expand_of_no_alias (fun _ => rfl) _
      exact (congrArg (· >>= Pipeline.ofTokens) hleft).trans
        (congrArg (· >>= Pipeline.ofTokens) hright).symm

/-- Aliases replace command words, once.  The expanded line is the segments of the line, each with
the body in the place of its first token where that is a word without quotes that has an alias, and
joined by pipes again; the error is that of the first such body that cannot be read.  Hence a word
with an alias is prepared as the body is where there are no aliases, with the same pipeline or the
same error, if the body ends outside quotes and the text behind has no pipe. -/
theorem aliases_replace_command_words :
    (∀ aliases vars ts,
      (∀ us, (Alias.expand aliases vars ts).1 = .ok us ↔ ∃ segs,
        List.Forall₂ (Alias.Expanded aliases vars) (Pipeline.segments ts) segs ∧
          [Token.pipe].intercalate segs = us) ∧
      ∀ e, (Alias.expand aliases vars ts).1 = .error e ↔
        ∃ front seg rest, Pipeline.segments ts = front ++ seg :: rest ∧
          (∀ seg' ∈ front, ∃ us, Alias.Expanded aliases vars seg' us) ∧
            Alias.Refused aliases vars seg e) ∧
    ∀ (host : Host) (sh : Shell) (name body text : String), IsPlainWord name →
      sh.state.alias? name = some body → plain.after body.toList = plain → Unpiped text →
        (prepare host sh (name ++ " " ++ text)).1 =
          (prepare host sh.withoutAliases (body ++ " " ++ text)).1 :=
  ⟨fun _ _ _ => ⟨fun _ => Alias.expand_eq_ok_iff, fun _ => Alias.expand_eq_error_iff⟩,
    fun host _ _ _ _ => prepare_of_alias host⟩

/-- The body has a pipe and ends in a redirection, whose target is the quoted pipe of the text. -/
theorem aliases_replace_command_words_before_pipe :
    let sh := newShell (.empty [])
    let sh' := { sh with state := sh.state.setAlias "ll" "ls | sort >" }
    (IsPlainWord "ll" ∧ sh'.state.alias? "ll" = some "ls | sort >" ∧
        plain.after "ls | sort >".toList = plain ∧ Unpiped "'a|b'") ∧
      (prepare bareHost sh' "ll 'a|b'").1 = .ok ⟨[plainStage "ls" [], plainStage "sort" []],
        some ⟨"a|b", .overwrite⟩, by decide⟩ ∧
      (prepare bareHost sh' "ll 'a|b'").1 =
        (prepare bareHost sh'.withoutAliases "ls | sort > 'a|b'").1 := by
  intro sh sh'
  have hname : IsPlainWord "ll" := by decide
  have htext : Unpiped "'a|b'" := by
    unfold Unpiped
    decide
  exact ⟨⟨hname, rfl, rfl, htext⟩, rfl,
    aliases_replace_command_words.2 bareHost sh' "ll" "ls | sort >" "'a|b'" hname rfl rfl htext⟩

end Shell

end PipeShell
