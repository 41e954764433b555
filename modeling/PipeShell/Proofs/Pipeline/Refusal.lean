import PipeShell.Proofs.Pipeline.Grammar

/-!
# Why tokens are refused

A token list can break several rules of the grammar at once.  `Pipeline.Offence` says which offence
is then reported, by looking at the segments alone: no tokens at all come before an empty segment,
wherever it is; an empty segment comes before a redirection ahead of the last segment; and the form
of the redirection comes last of all.  Of several segments with the same offence the first is
reported.

Each pass of `Pipeline.ofTokens` has its own condition for an error (`ofSegments_eq_error_iff`,
`ofStages_eq_error_iff`, `splitRedirection_eq_error_iff`), and together they are the offences
(`ofTokens_reports_first_offence`).
-/

namespace PipeShell

/-- The position of the stage that an error is about. -/
def SyntaxError.index? : SyntaxError → Option Nat
  | emptyStage i => some i
  | redirectNotFinal i => some i
  | _ => none

namespace Pipeline

variable {ts : List Token} {segs : List (List Token)} {e : SyntaxError}

/-! ## Segments -/

/-- The segments are the runs of tokens between pipes. -/
structure CutAtPipes (ts : List Token) (segs : List (List Token)) : Prop where
  segs_ne_nil : segs ≠ []
  isPipe_eq_false : ∀ seg ∈ segs, ∀ t ∈ seg, t.isPipe = false
  tokens_eq : ts = [Token.pipe].intercalate segs

/-- There is one way to cut at the pipes. -/
lemma cutAtPipes_iff : CutAtPipes ts segs ↔ segs = segments ts := by
  constructor
  · rintro ⟨hne, hpipe, rfl⟩
    exact (segments_intercalate hne hpipe).symm
  · rintro rfl
    exact ⟨segments_ne_nil ts, fun _ hseg _ ht => isPipe_of_mem_segments hseg ht,
      (intercalate_segments ts).symm⟩

/-- Some token begins a redirection. -/
def HasRedirect (seg : List Token) : Prop := ∃ t ∈ seg, t.isRedirect = true

/-- A segment without a redirection has no token that is one. -/
lemma not_hasRedirect_iff {seg : List Token} :
    ¬ HasRedirect seg ↔ ∀ t ∈ seg, t.isRedirect = false := by
  simp [HasRedirect]

/-- The position `i` is the least at which there is a segment of this kind. -/
def IsFirst (P : List Token → Prop) (segs : List (List Token)) (i : Nat) : Prop :=
  ∃ h : i < segs.length, P segs[i] ∧ ∀ j (hj : j < i), ¬ P segs[j]

/-- If the first segment has the property, it is the first to have it. -/
lemma isFirst_zero {P : List Token → Prop} {seg : List Token} (h : P seg) :
    IsFirst P (seg :: segs) 0 :=
  ⟨Nat.succ_pos _, h, fun _ hj => absurd hj (Nat.not_lt_zero _)⟩

/-- Behind a segment of another kind the first one is found one position later. -/
lemma isFirst_cons {P : List Token → Prop} {seg : List Token} (h : ¬ P seg) {i : Nat} :
    IsFirst P (seg :: segs) i ↔ ∃ j, IsFirst P segs j ∧ i = j + 1 := by
  constructor
  · rintro ⟨hlt, hi, hbefore⟩
    cases i with
    | zero => exact absurd hi h
    | succ j =>
        refine ⟨j, ⟨Nat.lt_of_succ_lt_succ hlt, hi, fun k hk => ?_⟩, rfl⟩
        exact hbefore (k + 1) (Nat.succ_lt_succ hk)
  · rintro ⟨j, ⟨hlt, hj, hbefore⟩, rfl⟩
    refine ⟨Nat.succ_lt_succ hlt, hj, fun k hk => ?_⟩
    cases k with
    | zero => exact h
    | succ k => exact hbefore k (Nat.lt_of_succ_lt_succ hk)

/-- There is one first position. -/
lemma IsFirst.unique {P : List Token → Prop} {i j : Nat} (hi : IsFirst P segs i)
    (hj : IsFirst P segs j) : i = j := by
  obtain ⟨_, hPi, hbelow⟩ := hi
  obtain ⟨_, hPj, hbelow'⟩ := hj
  rcases Nat.lt_trichotomy i j with hlt | heq | hlt
  · exact absurd hPi (hbelow' i hlt)
  · exact heq
  · exact absurd hPj (hbelow j hlt)

/-! ## The errors of each pass -/

/-- Making stages fails at the first segment without tokens. -/
theorem ofSegments_eq_error_iff {index : Nat} :
    Stage.ofSegments index segs = .error e ↔
      ∃ i, IsFirst (· = []) segs i ∧ e = .emptyStage (index + i) := by
  induction segs generalizing index with
  | nil =>
      constructor
      · intro h
        cases h
      · rintro ⟨i, ⟨hlt, -⟩, -⟩
        exact absurd hlt (Nat.not_lt_zero i)
  | cons seg segs ih =>
      rw [Stage.ofSegments]
      cases seg with
      | nil =>
          have hfirst : IsFirst (· = []) ([] :: segs) 0 := isFirst_zero rfl
          constructor
          · intro h
            cases h
            exact ⟨0, hfirst, rfl⟩
          · rintro ⟨i, hi, rfl⟩
            rw [hi.unique hfirst]
            rfl
      | cons t ts =>
          -- the first segment has tokens, so all positions move by one
          have hcons : ∀ i, IsFirst (· = []) ((t :: ts) :: segs) i ↔
              ∃ j, IsFirst (· = []) segs j ∧ i = j + 1 :=
            fun i => isFirst_cons (P := (· = [])) (List.cons_ne_nil t ts)
          change (Stage.ofSegments (index + 1) segs).map (_ :: ·) = .error e ↔ _
          rw [map_eq_error_iff, ih]
          constructor
          · rintro ⟨j, hj, rfl⟩
            exact ⟨j + 1, (hcons _).mpr ⟨j, hj, rfl⟩, by rw [Nat.add_assoc, Nat.add_comm 1 j]⟩
          · rintro ⟨i, hi, rfl⟩
            obtain ⟨j, hj, rfl⟩ := (hcons i).mp hi
            exact ⟨j, hj, by rw [Nat.add_assoc, Nat.add_comm 1 j]⟩

/-- The stage that redirects too early is the first segment that does. -/
lemma findIdx?_isRedirect_eq_some_iff {front : List Stage} {i : Nat} :
    front.findIdx? (·.tokens.any Token.isRedirect) = some i ↔
      IsFirst HasRedirect (front.map Stage.tokens) i := by
  simp [List.findIdx?_eq_some_iff_getElem, IsFirst, HasRedirect]

/-- An operator has no target where nothing follows it, or an operator; and it has more than one
where more than one token follows. -/
lemma redirectionOf_eq_error_iff {op : Token} {after : List Token} :
    redirectionOf op after = .error e ↔
      ((after = [] ∨ ∃ t, after = [t] ∧ t.isOperator = true) ∧ e = .missingRedirectTarget) ∨
        2 ≤ after.length ∧ e = .malformedRedirection := by
  match after with
  | [] => simp [redirectionOf, @eq_comm _ e]
  | [t] => cases ht : t.isOperator <;> simp [redirectionOf, ht, @eq_comm _ e]
  | t :: u :: rest => simp [redirectionOf, @eq_comm _ e]

/-- What makes the redirection of a stage wrong is the first operator and what follows it. -/
theorem splitRedirection_eq_error_iff :
    splitRedirection ts = .error e ↔ ∃ before op after, ts = before ++ op :: after ∧
      ¬ HasRedirect before ∧ op.isRedirect = true ∧ redirectionOf op after = .error e := by
  unfold splitRedirection
  constructor
  · intro h
    have hsplit := List.takeWhile_append_dropWhile (p := (!·.isRedirect)) (l := ts)
    cases hdrop : ts.dropWhile (!·.isRedirect) with
    | nil =>
        rw [hdrop] at h
        cases h
    | cons op after =>
        rw [hdrop] at h hsplit
        refine ⟨_, op, after, hsplit.symm, not_hasRedirect_iff.mpr fun t ht => ?_, ?_,
          map_eq_error_iff.mp h⟩
        · simpa using List.mem_takeWhile_imp ht
        · simpa using not_of_dropWhile_eq_cons hdrop
  · rintro ⟨before, op, after, rfl, hbefore, hop, herror⟩
    have hpos : ∀ t ∈ before, (!t.isRedirect) = true := fun t ht => by
      simp [not_hasRedirect_iff.mp hbefore t ht]
    rw [List.dropWhile_append_of_pos hpos, List.dropWhile_cons_of_neg (by simp [hop])]
    exact map_eq_error_iff.mpr herror

/-- The last stage is left empty by a redirection that is all of it. -/
lemma splitRedirection_eq_ok_nil_iff {last : Stage} :
    (∃ r, splitRedirection last.tokens = .ok ([], r)) ↔ ∃ op target,
      last.tokens = [op, target] ∧ op.isRedirect = true ∧ target.isOperator = false := by
  simp only [splitRedirection_eq_ok_iff, List.nil_append]
  constructor
  · rintro ⟨r, -, tail, htail, htokens⟩
    cases htail with
    | none => exact absurd htokens last.tokens_ne_nil
    | overwrite htarget => exact ⟨_, _, htokens, by decide, htarget⟩
    | append htarget => exact ⟨_, _, htokens, by decide, htarget⟩
  · rintro ⟨op, target, htokens, hop, htarget⟩
    rcases Token.isRedirect_iff.mp hop with rfl | rfl
    · exact ⟨_, nofun, _, .overwrite htarget, htokens⟩
    · exact ⟨_, nofun, _, .append htarget, htokens⟩

/-- A stage before the last redirects, or the redirection of the last is wrong or leaves nothing. -/
theorem ofStages_eq_error_iff {front : List Stage} {last : Stage} :
    ofStages front last = .error e ↔
      (∃ i, IsFirst HasRedirect (front.map Stage.tokens) i ∧ e = .redirectNotFinal i) ∨
        (∀ s ∈ front, ¬ HasRedirect s.tokens) ∧ (splitRedirection last.tokens = .error e ∨
          (∃ r, splitRedirection last.tokens = .ok ([], r)) ∧ e = .emptyStage front.length) := by
  have hnone : front.findIdx? (·.tokens.any Token.isRedirect) = none ↔
      ∀ s ∈ front, ¬ HasRedirect s.tokens := by
    simp only [findIdx?_isRedirect_eq_none_iff, not_hasRedirect_iff]
  simp only [← findIdx?_isRedirect_eq_some_iff, ← hnone]
  unfold ofStages
  cases front.findIdx? (·.tokens.any Token.isRedirect) with
  | some i => simp [@eq_comm _ e]
  | none =>
      rcases splitRedirection last.tokens with e' | ⟨ts, r⟩
      · simp
      · cases ts <;> simp [Stage.ofTokens?, @eq_comm _ e]

/-- The errors of all passes, in their order. -/
theorem ofTokens_eq_error_iff :
    ofTokens ts = .error e ↔ (ts = [] ∧ e = .emptyPipeline) ∨
      (ts ≠ [] ∧ ∃ i, IsFirst (· = []) (segments ts) i ∧ e = .emptyStage i) ∨
        ∃ front last, (front ++ [last]).map Stage.tokens = segments ts ∧
          ofStages front last = .error e := by
  constructor
  · intro h
    unfold ofTokens at h
    split_ifs at h with hempty
    · cases h
      exact .inl ⟨List.isEmpty_iff.mp hempty, rfl⟩
    · refine .inr ?_
      cases hstages : Stage.ofSegments 0 (segments ts) with
      | error e' =>
          rw [hstages] at h
          cases h
          obtain ⟨i, hi, rfl⟩ := ofSegments_eq_error_iff.mp hstages
          exact .inl ⟨mt List.isEmpty_iff.mpr hempty, i, hi, by rw [Nat.zero_add]⟩
      | ok stages =>
          have hsegs := Stage.ofSegments_eq_ok_iff.mp hstages
          simp only [hstages] at h
          split_ifs at h with hnil
          · rw [hnil] at hsegs
            exact absurd hsegs.symm (segments_ne_nil ts)
          · refine .inr ⟨stages.dropLast, stages.getLast hnil, ?_, h⟩
            rw [List.dropLast_concat_getLast hnil, hsegs]
  · rintro (⟨rfl, rfl⟩ | ⟨hts, i, hi, rfl⟩ | ⟨front, last, hsegs, h⟩)
    · rfl
    · have hstages : Stage.ofSegments 0 (segments ts) = .error (.emptyStage i) :=
        ofSegments_eq_error_iff.mpr ⟨i, hi, by rw [Nat.zero_add]⟩
      rw [ofTokens, if_neg (mt List.isEmpty_iff.mp hts), hstages]
    · rw [ofTokens_eq_ofStages hsegs, h]

/-! ## The offence that is reported -/

/-- Of all segments only the last has a redirection: an operator behind `before`, which has no
other, and in front of `after`. -/
structure RedirectsLast (segs : List (List Token)) (before after : List Token) : Prop where
  ne_nil : ∀ seg ∈ segs, seg ≠ []
  segs_eq : ∃ front op, segs = front ++ [before ++ op :: after] ∧
    (∀ seg ∈ front, ¬ HasRedirect seg) ∧ ¬ HasRedirect before ∧ op.isRedirect = true

/-- The offence of the tokens `ts`, cut into these segments, that is reported. -/
inductive Offence (ts : List Token) (segs : List (List Token)) : SyntaxError → Prop
  | noTokens (hts : ts = []) : Offence ts segs .emptyPipeline
  /-- A segment is empty, whatever the others are. -/
  | emptySegment {i : Nat} (hts : ts ≠ []) (hfirst : IsFirst (· = []) segs i) :
      Offence ts segs (.emptyStage i)
  /-- No segment is empty, but one before the last has a redirection. -/
  | earlyRedirect {i : Nat} (hne : ∀ seg ∈ segs, seg ≠ [])
      (hfirst : IsFirst HasRedirect segs.dropLast i) : Offence ts segs (.redirectNotFinal i)
  /-- Nothing follows the operator, or nothing but another operator. -/
  | noTarget {before after : List Token} (hlast : RedirectsLast segs before after)
      (hafter : after = [] ∨ ∃ t, after = [t] ∧ t.isOperator = true) :
      Offence ts segs .missingRedirectTarget
  | moreThanTarget {before after : List Token} (hlast : RedirectsLast segs before after)
      (hafter : 2 ≤ after.length) : Offence ts segs .malformedRedirection
  /-- The redirection is complete, and nothing stands before it. -/
  | noCommand {target : Token} (hlast : RedirectsLast segs [] [target])
      (htarget : target.isOperator = false) : Offence ts segs (.emptyStage (segs.length - 1))

/-- Segments that are the tokens of stages are not empty. -/
lemma ne_nil_of_map_tokens {stages : List Stage} (hsegs : stages.map Stage.tokens = segs) :
    ∀ seg ∈ segs, seg ≠ [] := by
  subst hsegs
  intro seg hseg
  obtain ⟨s, -, rfl⟩ := List.mem_map.mp hseg
  exact s.tokens_ne_nil

/-- The same of stages. -/
lemma redirectsLast_iff {before after : List Token} :
    RedirectsLast segs before after ↔ ∃ front last op,
      (front ++ [last]).map Stage.tokens = segs ∧ (∀ s ∈ front, ¬ HasRedirect s.tokens) ∧
        last.tokens = before ++ op :: after ∧ ¬ HasRedirect before ∧ op.isRedirect = true := by
  constructor
  · rintro ⟨hne, front, op, rfl, hfront, hbefore, hop⟩
    obtain ⟨hfrontne, hlastne⟩ := List.forall_mem_append.mp hne
    obtain ⟨stages, rfl⟩ := Stage.exists_map_tokens_eq hfrontne
    obtain ⟨last, hlast⟩ := Stage.exists_tokens_eq (hlastne _ (List.mem_singleton_self _))
    exact ⟨stages, last, op, by simp [hlast], fun s hs => hfront _ (List.mem_map_of_mem hs), hlast,
      hbefore, hop⟩
  · rintro ⟨front, last, op, hsegs, hfront, hlast, hbefore, hop⟩
    refine ⟨ne_nil_of_map_tokens hsegs, front.map Stage.tokens, op, ?_,
      List.forall_mem_map.mpr hfront, hbefore, hop⟩
    rw [← hsegs, List.map_append, List.map_singleton, hlast]

/-- Where every segment is a stage, an error is one of the offences about redirections. -/
lemma offence_of_ofStages {front : List Stage} {last : Stage}
    (hsegs : (front ++ [last]).map Stage.tokens = segs) (h : ofStages front last = .error e) :
    Offence ts segs e := by
  rcases ofStages_eq_error_iff.mp h with
    ⟨i, hi, rfl⟩ | ⟨hfront, hsplit | ⟨hempty, rfl⟩⟩
  · refine .earlyRedirect (ne_nil_of_map_tokens hsegs) ?_
    rwa [← hsegs, List.map_append, List.map_singleton, List.dropLast_concat]
  · obtain ⟨before, op, after, hlast, hbefore, hop, herror⟩ :=
      splitRedirection_eq_error_iff.mp hsplit
    have hredirects : RedirectsLast segs before after :=
      redirectsLast_iff.mpr ⟨front, last, op, hsegs, hfront, hlast, hbefore, hop⟩
    rcases redirectionOf_eq_error_iff.mp herror with ⟨hafter, rfl⟩ | ⟨hafter, rfl⟩
    · exact .noTarget hredirects hafter
    · exact .moreThanTarget hredirects hafter
  · obtain ⟨op, target, hlast, hop, htarget⟩ := splitRedirection_eq_ok_nil_iff.mp hempty
    have hredirects : RedirectsLast segs [] [target] :=
      redirectsLast_iff.mpr ⟨front, last, op, hsegs, hfront, hlast, nofun, hop⟩
    have hlength : segs.length - 1 = front.length := by simp [← hsegs]
    exact hlength ▸ .noCommand hredirects htarget

/-- The offence is reported. -/
lemma ofTokens_of_offence (h : Offence ts (segments ts) e) : ofTokens ts = .error e := by
  rw [ofTokens_eq_error_iff]
  cases h with
  | noTokens hts => exact .inl ⟨hts, rfl⟩
  | emptySegment hts hfirst => exact .inr (.inl ⟨hts, _, hfirst, rfl⟩)
  | earlyRedirect hne hfirst =>
      obtain ⟨stages, hsegs⟩ := Stage.exists_map_tokens_eq hne
      have hstages : stages ≠ [] := by
        rintro rfl
        exact segments_ne_nil ts hsegs.symm
      rw [← List.dropLast_concat_getLast hstages] at hsegs
      refine .inr (.inr ⟨_, _, hsegs, ofStages_eq_error_iff.mpr (.inl ⟨_, ?_, rfl⟩)⟩)
      rwa [← hsegs, List.map_append, List.map_singleton, List.dropLast_concat] at hfirst
  | noTarget hlast hafter =>
      obtain ⟨front, last, op, hsegs, hfront, hlast, hbefore, hop⟩ := redirectsLast_iff.mp hlast
      refine .inr (.inr ⟨front, last, hsegs, ofStages_eq_error_iff.mpr (.inr ⟨hfront, .inl ?_⟩)⟩)
      exact splitRedirection_eq_error_iff.mpr ⟨_, op, _, hlast, hbefore, hop,
        redirectionOf_eq_error_iff.mpr (.inl ⟨hafter, rfl⟩)⟩
  | moreThanTarget hlast hafter =>
      obtain ⟨front, last, op, hsegs, hfront, hlast, hbefore, hop⟩ := redirectsLast_iff.mp hlast
      refine .inr (.inr ⟨front, last, hsegs, ofStages_eq_error_iff.mpr (.inr ⟨hfront, .inl ?_⟩)⟩)
      exact splitRedirection_eq_error_iff.mpr ⟨_, op, _, hlast, hbefore, hop,
        redirectionOf_eq_error_iff.mpr (.inr ⟨hafter, rfl⟩)⟩
  | noCommand hlast htarget =>
      obtain ⟨front, last, op, hsegs, hfront, hlast, -, hop⟩ := redirectsLast_iff.mp hlast
      have hlength : (segments ts).length - 1 = front.length := by simp [← hsegs]
      refine .inr (.inr ⟨front, last, hsegs, ofStages_eq_error_iff.mpr (.inr ⟨hfront, .inr ?_⟩)⟩)
      rw [hlength]
      exact ⟨splitRedirection_eq_ok_nil_iff.mpr ⟨op, _, hlast, hop, htarget⟩, rfl⟩

/-- The position in an error is that of a segment. -/
lemma Offence.index_lt (h : Offence ts segs e) {i : Nat} (hi : e.index? = some i) :
    i < segs.length := by
  cases h with
  | noTokens | noTarget | moreThanTarget => cases hi
  | emptySegment _ hfirst =>
      cases hi
      exact hfirst.1
  | earlyRedirect _ hfirst =>
      cases hi
      obtain ⟨hlt, -⟩ := hfirst
      rw [List.length_dropLast] at hlt
      exact Nat.lt_of_lt_of_le hlt (Nat.sub_le _ _)
  | noCommand hlast =>
      cases hi
      obtain ⟨-, front, op, rfl, -⟩ := hlast
      simp

/-- The first offence is reported.  Tokens are cut at the pipes in one way; and what is reported
about tokens that form no pipeline is the offence of these segments, with a position that is one of
a segment. -/
theorem ofTokens_reports_first_offence (ts : List Token) :
    (∃! segs, CutAtPipes ts segs) ∧ ∀ segs, CutAtPipes ts segs → ∀ e,
      (ofTokens ts = .error e ↔ Offence ts segs e) ∧
        (ofTokens ts = .error e → ∀ i, e.index? = some i → i < segs.length) := by
  refine ⟨⟨segments ts, cutAtPipes_iff.mpr rfl, fun _ => cutAtPipes_iff.mp⟩, ?_⟩
  intro segs hsegs e
  obtain rfl := cutAtPipes_iff.mp hsegs
  have hoffence : ofTokens ts = .error e ↔ Offence ts (segments ts) e := by
    refine ⟨fun h => ?_, ofTokens_of_offence⟩
    rcases ofTokens_eq_error_iff.mp h with
      ⟨hts, rfl⟩ | ⟨hts, i, hi, rfl⟩ | ⟨front, last, hstages, herror⟩
    · exact .noTokens hts
    · exact .emptySegment hts hi
    · exact offence_of_ofStages hstages herror
  exact ⟨hoffence, fun h i hi => (hoffence.mp h).index_lt hi⟩

/-- Of a redirection in the first segment, an empty second one and a redirection without a target in
the third, the empty segment is reported. -/
theorem ofTokens_reports_first_offence_of_three :
    let ts := [.word "a" false, .operator ">", .word "f" false, .pipe, .pipe, .operator ">"]
    let segs := [[.word "a" false, .operator ">", .word "f" false], [], [.operator ">"]]
    CutAtPipes ts segs ∧ Offence ts segs (.emptyStage 1) ∧ 1 < segs.length := by
  intro ts segs
  have hcut : CutAtPipes ts segs := cutAtPipes_iff.mpr (by decide)
  obtain ⟨hoffence, hindex⟩ := (ofTokens_reports_first_offence ts).2 segs hcut (.emptyStage 1)
  have herror : ofTokens ts = .error (.emptyStage 1) := by decide
  exact ⟨hcut, hoffence.mp herror, hindex herror 1 rfl⟩

end Pipeline

end PipeShell
