import PipeShell.Proofs.Pipeline.Segments

/-!
# The grammar of pipelines

A pipeline is written as segments with a pipe between neighbours, and then possibly a redirection.
A segment is any tokens without pipes and redirection operators, but at least one; an operator with
another text is an ordinary token here.  `Pipeline.Grammar` says so without reading anything.

`Pipeline.ofTokens` accepts exactly the token lists of this form, and the stages are the segments
(`grammar_of_ofTokens`, `ofTokens_of_grammar`).  Printing a pipeline and reading it are inverse
to each other, except that a printed target is never quoted (`ofTokens_toTokens`,
`writesBack_of_ofTokens`).
-/

namespace PipeShell.Pipeline

/-- The tokens can be a stage. -/
def IsSegment (seg : List Token) : Prop :=
  seg ≠ [] ∧ ∀ t ∈ seg, t.isPipe = false ∧ t.isRedirect = false

/-- The tokens `ts` have the form of a pipeline: `segs` with a pipe between neighbours, and then the
redirection `r`, or nothing. -/
structure Grammar (segs : List (List Token)) (r : Option Redirection) (ts : List Token) :
    Prop where
  segs_ne_nil : segs ≠ []
  isSegment : ∀ seg ∈ segs, IsSegment seg
  tokens_eq : ∃ tail, Redirects tail r ∧ ts = [Token.pipe].intercalate segs ++ tail

/-! ## The last passes -/

/-- No stage is found to redirect where none holds a redirection operator. -/
lemma findIdx?_isRedirect_eq_none_iff {front : List Stage} :
    front.findIdx? (·.tokens.any Token.isRedirect) = none ↔
      ∀ s ∈ front, ∀ t ∈ s.tokens, t.isRedirect = false := by
  rw [List.findIdx?_eq_none_iff]
  simp only [List.any_eq_false, Bool.not_eq_true]

/-- The stages before the last keep their tokens, and hold no redirection operator; the last one
gives up its redirection. -/
lemma ofStages_eq_ok_iff {front : List Stage} {last : Stage} {p : Pipeline} :
    ofStages front last = .ok p ↔
      (∀ s ∈ front, ∀ t ∈ s.tokens, t.isRedirect = false) ∧
        ∃ s, p.stages = front ++ [s] ∧
          splitRedirection last.tokens = .ok (s.tokens, p.redirection) := by
  constructor
  · intro h
    unfold ofStages at h
    split at h
    · cases h
    · next hfront =>
      split at h
      · cases h
      · next ts r hsplit =>
        split at h
        · cases h
        · next s hs =>
          cases h
          rw [← Stage.ofTokens?_eq_some_iff.mp hs] at hsplit
          exact ⟨findIdx?_isRedirect_eq_none_iff.mp hfront, s, rfl, hsplit⟩
  · rintro ⟨hfront, s, hp, hsplit⟩
    obtain ⟨stages, r, hne⟩ := p
    subst hp
    unfold ofStages
    rw [findIdx?_isRedirect_eq_none_iff.mpr hfront, hsplit]
    simp only [Stage.ofTokens?_eq_some_iff.mpr rfl]

/-- Where every segment is a stage, what is left to check are the redirections. -/
lemma ofTokens_eq_ofStages {ts : List Token} {front : List Stage} {last : Stage}
    (hsegs : (front ++ [last]).map Stage.tokens = segments ts) :
    ofTokens ts = ofStages front last := by
  have hempty : ¬ ts.isEmpty = true := by
    intro hempty
    rw [List.isEmpty_iff.mp hempty, segments, List.map_append] at hsegs
    have hlast : [last.tokens] = [[]] := (List.append_eq_singleton_iff.mp hsegs).elim
      (fun h => h.2) fun h => by cases h.2
    exact last.tokens_ne_nil (List.singleton_inj.mp hlast)
  have hne : front ++ [last] ≠ [] := by simp
  rw [ofTokens, if_neg hempty, Stage.ofSegments_eq_ok_iff.mpr hsegs]
  change (if h : front ++ [last] = [] then _ else _) = _
  rw [dif_neg hne, List.dropLast_concat, List.getLast_concat]

/-- The stages are the segments, before the last one gives up its redirection. -/
lemma ofTokens_eq_ok_iff {ts : List Token} {p : Pipeline} :
    ofTokens ts = .ok p ↔ ∃ front last,
      (front ++ [last]).map Stage.tokens = segments ts ∧ ofStages front last = .ok p := by
  constructor
  · intro h
    unfold ofTokens at h
    split_ifs at h with hempty
    cases hstages : Stage.ofSegments 0 (segments ts) with
    | error e =>
        rw [hstages] at h
        cases h
    | ok stages =>
        simp only [hstages] at h
        split_ifs at h with hnil
        refine ⟨stages.dropLast, stages.getLast hnil, ?_, h⟩
        rw [List.dropLast_concat_getLast hnil]
        exact Stage.ofSegments_eq_ok_iff.mp hstages
  · rintro ⟨front, last, hsegs, h⟩
    rw [ofTokens_eq_ofStages hsegs, h]

/-! ## Reading -/

/-- A pipeline has a last stage. -/
lemma exists_stages_eq_concat (p : Pipeline) : ∃ front s, p.stages = front ++ [s] :=
  ⟨p.stages.dropLast, p.stages.getLast p.stages_ne_nil,
    (List.dropLast_concat_getLast p.stages_ne_nil).symm⟩

/-- What can be read has the form of a pipeline. -/
theorem grammar_of_ofTokens {ts : List Token} {p : Pipeline} (h : ofTokens ts = .ok p) :
    Grammar (p.stages.map Stage.tokens) p.redirection ts := by
  obtain ⟨front, last, hsegs, hstages⟩ := ofTokens_eq_ok_iff.mp h
  obtain ⟨hfront, s, hp, hsplit⟩ := ofStages_eq_ok_iff.mp hstages
  obtain ⟨hs, tail, htail, hlast⟩ := splitRedirection_eq_ok_iff.mp hsplit
  have hpipe : ∀ s' ∈ front ++ [last], ∀ t ∈ s'.tokens, t.isPipe = false := fun s' hs' t ht =>
    isPipe_of_mem_segments (hsegs ▸ List.mem_map_of_mem hs') ht
  refine ⟨by simpa using p.stages_ne_nil, ?_, tail, htail, ?_⟩
  · intro seg hseg
    rw [hp, List.map_append, List.map_singleton] at hseg
    rcases List.mem_append.mp hseg with hseg | hseg
    · obtain ⟨s', hs', rfl⟩ := List.mem_map.mp hseg
      exact ⟨s'.tokens_ne_nil, fun t ht =>
        ⟨hpipe s' (List.mem_append_left _ hs') t ht, hfront s' hs' t ht⟩⟩
    · obtain rfl := List.mem_singleton.mp hseg
      have hmem : ∀ t ∈ s.tokens, t ∈ last.tokens := fun t ht =>
        hlast ▸ List.mem_append_left tail ht
      exact ⟨s.tokens_ne_nil, fun t ht =>
        ⟨hpipe last (by simp) t (hmem t ht), hs t ht⟩⟩
  · calc ts = [Token.pipe].intercalate (segments ts) := (intercalate_segments ts).symm
      _ = [Token.pipe].intercalate (front.map Stage.tokens ++ [s.tokens ++ tail]) := by
          rw [← hsegs, List.map_append, List.map_singleton, hlast]
      _ = [Token.pipe].intercalate (front.map Stage.tokens ++ [s.tokens]) ++ tail :=
          intercalate_concat_append _ _ _
      _ = [Token.pipe].intercalate (p.stages.map Stage.tokens) ++ tail := by
          rw [hp, List.map_append, List.map_singleton]

/-- What has the form of a pipeline can be read. -/
theorem ofTokens_of_grammar {ts : List Token} {p : Pipeline}
    (h : Grammar (p.stages.map Stage.tokens) p.redirection ts) : ofTokens ts = .ok p := by
  obtain ⟨-, hseg, tail, htail, hts⟩ := h
  obtain ⟨front, s, hp⟩ := exists_stages_eq_concat p
  have hmem : ∀ s' ∈ front ++ [s], IsSegment s'.tokens := fun s' hs' =>
    hseg _ (List.mem_map_of_mem (hp ▸ hs'))
  have hs : IsSegment s.tokens := hmem s (by simp)
  -- The last segment still has the redirection on it.
  let last : Stage := ⟨s.head, s.tail ++ tail⟩
  have hlast : last.tokens = s.tokens ++ tail := rfl
  refine ofTokens_eq_ok_iff.mpr ⟨front, last, ?_, ofStages_eq_ok_iff.mpr ⟨?_, s, hp, ?_⟩⟩
  · rw [hts, hp, List.map_append, List.map_append, List.map_singleton, List.map_singleton,
      ← intercalate_concat_append, ← hlast]
    refine (segments_intercalate (by simp) ?_).symm
    intro seg hseg' t ht
    rcases List.mem_append.mp hseg' with hseg' | hseg'
    · obtain ⟨s', hs', rfl⟩ := List.mem_map.mp hseg'
      exact ((hmem s' (List.mem_append_left _ hs')).2 t ht).1
    · obtain rfl := List.mem_singleton.mp hseg'
      rw [hlast] at ht
      rcases List.mem_append.mp ht with ht | ht
      · exact (hs.2 t ht).1
      · exact htail.isPipe_eq_false ht
  · intro s' hs' t ht
    exact ((hmem s' (List.mem_append_left _ hs')).2 t ht).2
  · exact splitRedirection_eq_ok_iff.mpr ⟨fun t ht => (hs.2 t ht).2, tail, htail, hlast⟩

/-! ## Printing -/

/-- No stage holds an operator that would end it. -/
def IsPrintable (p : Pipeline) : Prop := ∀ s ∈ p.stages, IsSegment s.tokens

/-- The tokens of a pipeline are the tokens `ts`, when the target of a redirection is not looked at
for its being quoted. -/
def WritesBack (p : Pipeline) (ts : List Token) : Prop :=
  match p.redirection with
  | none => p.toTokens = ts
  | some r => ∃ front quoted,
      p.toTokens = front ++ [.word r.path false] ∧ ts = front ++ [.word r.path quoted]

/-- Stages are printed with a pipe between each two. -/
lemma joinStages_eq_intercalate (stages : List Stage) :
    joinStages stages = [Token.pipe].intercalate (stages.map Stage.tokens) := by
  induction stages with
  | nil => rfl
  | cons s stages ih =>
      cases stages with
      | nil => simp [joinStages]
      | cons s' stages =>
          rw [joinStages, ih, List.map_cons, List.map_cons, List.map_cons,
            List.intercalate_cons_cons, List.append_assoc, List.singleton_append]
          simp

/-- A printed pipeline has the form of one. -/
lemma grammar_toTokens {p : Pipeline} (h : p.IsPrintable) :
    Grammar (p.stages.map Stage.tokens) p.redirection p.toTokens := by
  refine ⟨by simpa using p.stages_ne_nil, ?_, ?_⟩
  · intro seg hseg
    obtain ⟨s, hs, rfl⟩ := List.mem_map.mp hseg
    exact h s hs
  · unfold toTokens
    rw [joinStages_eq_intercalate]
    cases p.redirection with
    | none => exact ⟨[], .none, rfl⟩
    | some r =>
        obtain ⟨path, mode⟩ := r
        cases mode with
        | overwrite => exact ⟨_, @Redirects.overwrite (.word path false) rfl, rfl⟩
        | append => exact ⟨_, @Redirects.append (.word path false) rfl, rfl⟩

/-- Reading undoes printing. -/
theorem ofTokens_toTokens {p : Pipeline} (h : p.IsPrintable) : ofTokens p.toTokens = .ok p :=
  ofTokens_of_grammar (grammar_toTokens h)

/-- A pipeline that was read can be printed. -/
lemma isPrintable_of_ofTokens {ts : List Token} {p : Pipeline} (h : ofTokens ts = .ok p) :
    p.IsPrintable := fun _ hs =>
  (grammar_of_ofTokens h).isSegment _ (List.mem_map_of_mem hs)

/-- Printing undoes reading, up to the quoting of the target. -/
theorem writesBack_of_ofTokens {ts : List Token} {p : Pipeline} (h : ofTokens ts = .ok p) :
    p.WritesBack ts := by
  obtain ⟨-, -, tail, htail, hts⟩ := grammar_of_ofTokens h
  unfold WritesBack toTokens
  rw [joinStages_eq_intercalate, hts]
  generalize p.redirection = r at htail ⊢
  generalize [Token.pipe].intercalate (p.stages.map Stage.tokens) = front
  cases htail with
  | none => rfl
  | overwrite htarget =>
      obtain ⟨path, quoted, rfl⟩ := Token.exists_eq_word htarget
      refine ⟨front ++ [.operator ">"], quoted, ?_, ?_⟩
      · rw [List.append_assoc]
        rfl
      · rw [List.append_assoc]
        rfl
  | append htarget =>
      obtain ⟨path, quoted, rfl⟩ := Token.exists_eq_word htarget
      refine ⟨front ++ [.operator ">>"], quoted, ?_, ?_⟩
      · rw [List.append_assoc]
        rfl
      · rw [List.append_assoc]
        rfl

/-! ## The grammar -/

/-- Reading accepts exactly the grammar and loses nothing.  A token list has the form of a pipeline,
with given segments and a given redirection, exactly when it is read as a pipeline whose stages are
these segments and whose redirection is this one.  What is read has at least one stage, can be
printed, and is printed as the tokens it was read from but for the quoting of the target; and what
can be printed is read back as it was. -/
theorem ofTokens_reads_grammar :
    (∀ ts segs r, Grammar segs r ts ↔
        ∃ p, ofTokens ts = .ok p ∧ p.stages.map Stage.tokens = segs ∧ p.redirection = r) ∧
      (∀ ts p, ofTokens ts = .ok p → 0 < p.length ∧ p.IsPrintable ∧ p.WritesBack ts) ∧
      ∀ p : Pipeline, p.IsPrintable → ofTokens p.toTokens = .ok p := by
  refine ⟨fun ts segs r => ⟨fun h => ?_, ?_⟩, fun ts p h => ⟨?_, ?_, ?_⟩, fun p h => ?_⟩
  · obtain ⟨stages, hstages⟩ := Stage.exists_map_tokens_eq fun seg hseg => (h.isSegment seg hseg).1
    have hne : stages ≠ [] := by
      intro hnil
      rw [hnil] at hstages
      exact h.segs_ne_nil hstages.symm
    exact ⟨⟨stages, r, hne⟩, ofTokens_of_grammar (hstages ▸ h), hstages, rfl⟩
  · rintro ⟨p, hp, rfl, rfl⟩
    exact grammar_of_ofTokens hp
  · exact List.length_pos_iff.mpr p.stages_ne_nil
  · exact isPrintable_of_ofTokens h
  · exact writesBack_of_ofTokens h
  · exact ofTokens_toTokens h

/-- The grammar at two stages with an operator of another text, a quoted pipe and a quoted
target. -/
theorem ofTokens_reads_grammar_at_append :
    ∃ p, ofTokens [.word "a" false, .operator "<", .pipe, .word "|" true, .operator ">>",
        .word "f g" true] = .ok p ∧
      p.stages = [⟨.word "a" false, [.operator "<"]⟩, ⟨.word "|" true, []⟩] ∧
      p.redirection = some ⟨"f g", .append⟩ ∧
      0 < p.length ∧ ofTokens p.toTokens = .ok p := by
  let p : Pipeline := ⟨[⟨.word "a" false, [.operator "<"]⟩, ⟨.word "|" true, []⟩],
    some ⟨"f g", .append⟩, by simp⟩
  have hp := ofTokens_reads_grammar.2.1 [.word "a" false, .operator "<", .pipe, .word "|" true,
    .operator ">>", .word "f g" true] p rfl
  exact ⟨p, rfl, rfl, rfl, hp.1, ofTokens_reads_grammar.2.2 p hp.2.1⟩

end PipeShell.Pipeline
