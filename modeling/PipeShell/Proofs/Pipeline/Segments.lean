import PipeShell.Pipeline
import PipeShell.Proofs.Results

/-!
# The parts of a pipeline

What each pass of `Pipeline.ofTokens` does, one specification a pass.

* `segments` cuts at the pipe operators; joining the segments with pipes gives the tokens back
  (`intercalate_segments`), and it is the only way to cut them (`segments_intercalate`).
* `Stage.ofSegments` succeeds when no segment is empty, and then keeps every token
  (`ofSegments_eq_ok_iff`).
* `splitRedirection` takes a redirection off the end, if there is one
  (`splitRedirection_eq_ok_iff`).  What a redirection is written with is the relation `Redirects`.
-/

namespace PipeShell

namespace Token

/-- Only one token is a pipe. -/
lemma isPipe_iff {t : Token} : t.isPipe = true ↔ t = pipe := by
  cases t with
  | word text quoted => simp [isPipe, pipe]
  | operator text => simp [isPipe, pipe]

/-- Two tokens are redirections. -/
lemma isRedirect_iff {t : Token} :
    t.isRedirect = true ↔ t = operator ">" ∨ t = operator ">>" := by
  cases t with
  | word text quoted => simp [isRedirect]
  | operator text => simp [isRedirect]

/-- What is no operator is a word. -/
lemma exists_eq_word {t : Token} (h : t.isOperator = false) :
    ∃ text quoted, t = word text quoted := by
  cases t with
  | word text quoted => exact ⟨text, quoted, rfl⟩
  | operator text => cases h

end Token

namespace Pipeline

/-! ## Cutting at pipes -/

/-- Cutting at the pipe operators is cutting at the token `Token.pipe`. -/
lemma segments_eq_splitOn (ts : List Token) : segments ts = ts.splitOn .pipe := by
  induction ts with
  | nil => rfl
  | cons t ts ih =>
      rw [segments, List.splitOn_cons_eq_if_modifyHead, ih]
      by_cases ht : t = .pipe
      · rw [if_pos (Token.isPipe_iff.mpr ht), if_pos (beq_iff_eq.mpr ht)]
      · rw [if_neg (mt Token.isPipe_iff.mp ht), if_neg (mt beq_iff_eq.mp ht)]
        cases hsplit : ts.splitOn .pipe with
        | nil => exact absurd hsplit (List.splitOn_ne_nil _ ts)
        | cons s ss => rfl

/-- Joining the segments with pipes gives the tokens back. -/
lemma intercalate_segments (ts : List Token) : [Token.pipe].intercalate (segments ts) = ts := by
  rw [segments_eq_splitOn, List.intercalate_splitOn]

/-- Segments without pipes are found again where they were joined. -/
lemma segments_intercalate {segs : List (List Token)} (hne : segs ≠ [])
    (h : ∀ seg ∈ segs, ∀ t ∈ seg, t.isPipe = false) :
    segments ([Token.pipe].intercalate segs) = segs := by
  rw [segments_eq_splitOn]
  refine List.splitOn_intercalate _ (fun seg hseg hpipe => ?_) hne
  have hfalse := h seg hseg .pipe hpipe
  rw [Token.isPipe_pipe] at hfalse
  cases hfalse

/-- No segment holds a pipe. -/
lemma isPipe_of_mem_segments {ts seg : List Token} (hseg : seg ∈ segments ts) {t : Token}
    (ht : t ∈ seg) : t.isPipe = false := by
  induction ts generalizing seg with
  | nil =>
      rw [segments, List.mem_singleton] at hseg
      rw [hseg] at ht
      cases ht
  | cons u us ih =>
      rw [segments] at hseg
      split_ifs at hseg with hu
      · rcases List.mem_cons.mp hseg with rfl | hseg
        · cases ht
        · exact ih hseg ht
      · cases hsegs : segments us with
        | nil => exact absurd hsegs (segments_ne_nil us)
        | cons s ss =>
            rw [hsegs] at hseg ih
            rcases List.mem_cons.mp hseg with rfl | hseg
            · rcases List.mem_cons.mp ht with rfl | ht
              · exact eq_false_of_ne_true hu
              · exact ih List.mem_cons_self ht
            · exact ih (List.mem_cons_of_mem s hseg) ht

/-- What stands at the end of the last segment stands at the end of all tokens. -/
lemma intercalate_concat_append (segs : List (List Token)) (seg tail : List Token) :
    [Token.pipe].intercalate (segs ++ [seg ++ tail]) =
      [Token.pipe].intercalate (segs ++ [seg]) ++ tail := by
  induction segs with
  | nil => simp
  | cons s segs ih =>
      rw [List.cons_append, List.cons_append, List.intercalate_cons_of_ne_nil (by simp),
        List.intercalate_cons_of_ne_nil (by simp), ih]
      simp only [List.append_assoc]

end Pipeline

/-! ## Making stages -/

namespace Stage

/-- A stage is read from its tokens and from no others. -/
lemma ofTokens?_eq_some_iff {ts : List Token} {s : Stage} :
    ofTokens? ts = some s ↔ s.tokens = ts := by
  obtain ⟨head, tail⟩ := s
  cases ts with
  | nil => simp [ofTokens?, tokens]
  | cons t ts => simp [ofTokens?, tokens, eq_comm]

/-- A stage has tokens: its command at least. -/
lemma tokens_ne_nil (s : Stage) : s.tokens ≠ [] := List.cons_ne_nil _ _

/-- A token list that is not empty is a stage. -/
lemma exists_tokens_eq {ts : List Token} (h : ts ≠ []) : ∃ s : Stage, s.tokens = ts := by
  obtain ⟨t, ts', rfl⟩ := List.exists_cons_of_ne_nil h
  exact ⟨⟨t, ts'⟩, rfl⟩

/-- Segments that are not empty are the tokens of stages. -/
lemma exists_map_tokens_eq {segs : List (List Token)} (h : ∀ seg ∈ segs, seg ≠ []) :
    ∃ stages : List Stage, stages.map tokens = segs := by
  induction segs with
  | nil => exact ⟨[], rfl⟩
  | cons seg segs ih =>
      obtain ⟨hseg, hsegs⟩ := List.forall_mem_cons.mp h
      obtain ⟨s, hs⟩ := exists_tokens_eq hseg
      obtain ⟨stages, hstages⟩ := ih hsegs
      exact ⟨s :: stages, by rw [List.map_cons, hs, hstages]⟩

/-- Making stages succeeds where every segment has a token, and keeps all tokens. -/
theorem ofSegments_eq_ok_iff {index : Nat} {segs : List (List Token)} {stages : List Stage} :
    ofSegments index segs = .ok stages ↔ stages.map tokens = segs := by
  induction segs generalizing index stages with
  | nil =>
      rw [ofSegments, Except.ok.injEq, List.map_eq_nil_iff]
      exact eq_comm
  | cons seg segs ih =>
      rw [ofSegments, List.map_eq_cons_iff]
      cases hseg : ofTokens? seg with
      | none =>
          constructor
          · intro h
            cases h
          · rintro ⟨s, rest, -, hs, -⟩
            rw [ofTokens?_eq_some_iff.mpr hs] at hseg
            cases hseg
      | some s =>
          change (ofSegments (index + 1) segs).map (s :: ·) = .ok stages ↔ _
          rw [map_eq_ok_iff]
          constructor
          · rintro ⟨rest, hrest, rfl⟩
            exact ⟨s, rest, rfl, ofTokens?_eq_some_iff.mp hseg, ih.mp hrest⟩
          · rintro ⟨s', rest, rfl, hs', hrest⟩
            rw [ofTokens?_eq_some_iff.mpr hs', Option.some.injEq] at hseg
            exact ⟨rest, ih.mpr hrest, by rw [hseg]⟩

end Stage

/-! ## Taking the redirection off -/

namespace Pipeline

/-- The tokens that a redirection is written with, at the end of a pipeline: none, or an operator
and one token that is not an operator. -/
inductive Redirects : List Token → Option Redirection → Prop
  | none : Redirects [] none
  | overwrite {target : Token} (h : target.isOperator = false) :
      Redirects [.operator ">", target] (some ⟨target.text, .overwrite⟩)
  | append {target : Token} (h : target.isOperator = false) :
      Redirects [.operator ">>", target] (some ⟨target.text, .append⟩)

/-- A redirection is written without pipes. -/
lemma Redirects.isPipe_eq_false {tail : List Token} {r : Option Redirection} (h : Redirects tail r)
    {t : Token} (ht : t ∈ tail) : t.isPipe = false := by
  cases h with
  | none => cases ht
  | overwrite htarget | append htarget =>
      obtain ⟨text, quoted, rfl⟩ := Token.exists_eq_word htarget
      rw [List.mem_cons, List.mem_singleton] at ht
      rcases ht with rfl | rfl
      · decide
      · rfl

/-- What a redirection operator and the tokens after it mean. -/
lemma redirectionOf_eq_ok_iff {op : Token} (hop : op.isRedirect = true) {rest : List Token}
    {r : Redirection} : redirectionOf op rest = .ok r ↔ Redirects (op :: rest) (some r) := by
  constructor
  · intro h
    match rest, h with
    | [target], h =>
        rw [redirectionOf] at h
        split_ifs at h with htarget
        cases h
        have htarget := eq_false_of_ne_true htarget
        rcases Token.isRedirect_iff.mp hop with rfl | rfl
        · exact .overwrite htarget
        · exact .append htarget
  · intro h
    cases h with
    | overwrite htarget => rw [redirectionOf, htarget]; rfl
    | append htarget => rw [redirectionOf, htarget]; rfl

/-- The tokens before the first redirection operator, and what follows them. -/
theorem splitRedirection_eq_ok_iff {ts front : List Token} {r : Option Redirection} :
    splitRedirection ts = .ok (front, r) ↔
      (∀ t ∈ front, t.isRedirect = false) ∧ ∃ tail, Redirects tail r ∧ ts = front ++ tail := by
  constructor
  · intro h
    have hsplit := List.takeWhile_append_dropWhile (p := (!·.isRedirect)) (l := ts)
    have htake : ∀ t ∈ ts.takeWhile (!·.isRedirect), t.isRedirect = false := fun t ht => by
      simpa using List.mem_takeWhile_imp ht
    unfold splitRedirection at h
    cases hdrop : ts.dropWhile (!·.isRedirect) with
    | nil =>
        rw [hdrop] at h hsplit
        cases h
        rw [List.append_nil] at hsplit
        exact ⟨hsplit ▸ htake, [], .none, (List.append_nil _).symm⟩
    | cons op rest =>
        have hop : op.isRedirect = true := by simpa using not_of_dropWhile_eq_cons hdrop
        rw [hdrop] at h hsplit
        obtain ⟨r', hr', hpair⟩ := map_eq_ok_iff.mp h
        cases hpair
        exact ⟨htake, op :: rest, (redirectionOf_eq_ok_iff hop).mp hr', hsplit.symm⟩
  · rintro ⟨hfront, tail, htail, rfl⟩
    have hpos : ∀ t ∈ front, (!t.isRedirect) = true := fun t ht => by simp [hfront t ht]
    unfold splitRedirection
    rw [List.dropWhile_append_of_pos hpos, List.takeWhile_append_of_pos hpos]
    cases htail with
    | none => rw [List.dropWhile_nil, List.append_nil]
    | overwrite htarget =>
        rw [List.takeWhile_cons_of_neg (by decide), List.append_nil]
        exact map_eq_ok_iff.mpr
          ⟨_, (redirectionOf_eq_ok_iff (by decide)).mpr (.overwrite htarget), rfl⟩
    | append htarget =>
        rw [List.takeWhile_cons_of_neg (by decide), List.append_nil]
        exact map_eq_ok_iff.mpr
          ⟨_, (redirectionOf_eq_ok_iff (by decide)).mpr (.append htarget), rfl⟩

end Pipeline

end PipeShell
