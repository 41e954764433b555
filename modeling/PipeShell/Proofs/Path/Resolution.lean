import PipeShell.Environment
import PipeShell.Proofs.Path.Components
import PipeShell.Proofs.Results

/-!
# Where a path leads to

`Path.resolve` makes an absolute path of every text (`resolve_anchors`).  A path that begins with
`~/` goes on behind the home directory, part by part: a part holds no slash, so it is never an
absolute path, and `Path.join` never leaves the home directory for it (`names_foldl_join`,
`components_foldl_join`).  Every other text is seen from the base, and only an absolute one is kept
as it is.

The home directory may be a relative path.  It is then seen from the base, and it does not matter
whether that is done before or after the parts are added (`join_join`, `join_foldl_join`).
-/

namespace PipeShell.Path

variable {env : Environment} {base home p q : String} {parts : List String}

/-! ## Joining more than once -/

/-- What stands between a directory and a path behind it. -/
def separator (dir : String) : String :=
  if dir.isEmpty || endsWithSlash dir then "" else "/"

/-- A relative path stands behind its base, with a slash between them where there is none. -/
lemma join_of_relative (hp : isAbsolute p = false) (base : String) :
    join base p = base ++ separator base ++ p := by
  unfold join separator
  rw [if_neg (by simp [hp])]
  split_ifs
  · rw [String.append_empty]
  · rfl

/-- Whether a slash is needed is seen from the end of the base. -/
lemma separator_append (hp : p ≠ "") (front : String) : separator (front ++ p) = separator p := by
  simp [separator, endsWithSlash_append hp, hp]

/-- A path is joined to a joined path in either order. -/
lemma join_join (hp : p ≠ "") (base q : String) : join (join base p) q = join base (join p q) := by
  cases hq : isAbsolute q with
  | true => rw [join_of_isAbsolute hq, join_of_isAbsolute hq, join_of_isAbsolute hq]
  | false =>
      cases habsolute : isAbsolute p with
      | true =>
          have hjoined := isAbsolute_join_of_isAbsolute habsolute q
          rw [join_of_isAbsolute habsolute, join_of_isAbsolute hjoined]
      | false =>
          have hjoined : isAbsolute (join p q) = false := by rw [isAbsolute_join hq, habsolute]
          rw [join_of_relative hjoined, join_of_relative hq, join_of_relative hq,
            join_of_relative habsolute, separator_append hp]
          simp only [String.append_assoc]

/-! ## Parts behind a directory -/

/-- A name is never an absolute path. -/
lemma isAbsolute_of_mem_names {s : String} (h : s ∈ names p) : isAbsolute s = false := by
  obtain ⟨f, hf, rfl⟩ := List.mem_map.mp h
  refine isAbsolute_of_bare ?_
  rw [String.toList_ofList]
  exact Text.not_mem_of_mem_fields (List.mem_of_mem_filter hf)

/-- A name is never empty. -/
lemma ne_empty_of_mem_names {s : String} (h : s ∈ names p) : s ≠ "" := by
  obtain ⟨f, hf, rfl⟩ := List.mem_map.mp h
  simpa using (List.mem_filter.mp hf).2

/-- A part is its own only name. -/
lemma names_of_mem_names {s : String} (h : s ∈ names p) : names s = [s] := by
  obtain ⟨f, hf, rfl⟩ := List.mem_map.mp h
  refine names_of_bare ?_ (ne_empty_of_mem_names h)
  rw [String.toList_ofList]
  exact Text.not_mem_of_mem_fields (List.mem_of_mem_filter hf)

/-- Parts are added to a home directory that is seen from the base, or the other way round. -/
lemma join_foldl_join (hhome : home ≠ "") (hparts : ∀ s ∈ parts, s ≠ "") (base : String) :
    join base (parts.foldl join home) = parts.foldl join (join base home) := by
  induction parts generalizing home with
  | nil => rfl
  | cons s parts ih =>
      obtain ⟨hs, hparts⟩ := List.forall_mem_cons.mp hparts
      rw [List.foldl_cons, List.foldl_cons, join_join hhome]
      exact ih (join_ne_empty hs home) hparts

/-- Every part is one more name behind those of the directory. -/
lemma names_foldl_join (hparts : ∀ s ∈ parts, isAbsolute s = false ∧ names s = [s])
    (dir : String) : names (parts.foldl join dir) = names dir ++ parts := by
  induction parts generalizing dir with
  | nil => exact (List.append_nil _).symm
  | cons s parts ih =>
      obtain ⟨⟨hrelative, hname⟩, hparts⟩ := List.forall_mem_cons.mp hparts
      rw [List.foldl_cons, ih hparts, names_join hrelative, hname, List.append_assoc]
      rfl

/-- From an absolute directory, going down keeps the path absolute. -/
lemma isAbsolute_foldl_join {dir : String} (hdir : isAbsolute dir = true) (parts : List String) :
    isAbsolute (parts.foldl join dir) = true := by
  induction parts generalizing dir with
  | nil => exact hdir
  | cons s parts ih => exact ih (isAbsolute_join_of_isAbsolute hdir s)

/-- Names behind an absolute directory are components behind it, those apart that lead nowhere. -/
lemma components_of_names_append {dir path : String} (hdir : isAbsolute dir = true)
    (hpath : isAbsolute path = true) (hnames : names path = names dir ++ parts) :
    components path =
      components dir ++ (parts.filter (· ≠ ".")).map Component.ofName := by
  rw [components_eq, components_eq, origin_eq_root_iff.mpr hdir, origin_eq_root_iff.mpr hpath,
    trail, trail, hnames, List.filter_append, List.map_append, List.append_assoc]

/-! ## Home -/

/-- An empty variable is no home directory. -/
lemma home_ne_empty (h : env.home? = some home) : home ≠ "" := by
  simpa using (Option.filter_eq_some_iff.mp h).2

/-- The tilde is the home directory. -/
lemma expandHome_tilde (h : env.home? = some home) : expandHome env "~" = .ok home := by
  simp [expandHome, Environment.home, h]

/-- What stands behind the tilde and a slash is seen from there, name by name. -/
lemma expandHome_tilde_slash (h : env.home? = some home) (rest : String) :
    expandHome env ("~/" ++ rest) = .ok ((names rest).foldl join home) := by
  simp [expandHome, Environment.home, h, Except.map]

/-- Whatever is neither `~` nor begins with `~/` is left alone. -/
lemma expandHome_of_other (hp : p ≠ "~") (hrest : ∀ rest, p ≠ "~/" ++ rest) :
    expandHome env p = .ok p := by
  unfold expandHome
  split
  · next hlist => exact absurd (String.toList_inj.mp (by simpa using hlist)) hp
  · next rest hlist =>
    exact absurd (String.toList_inj.mp (by simpa using hlist)) (hrest (String.ofList rest))
  · rfl

/-- With a home directory every path can be expanded. -/
lemma exists_expandHome (h : env.home? = some home) (p : String) :
    ∃ expanded, expandHome env p = .ok expanded := by
  by_cases hp : p = "~"
  · subst hp
    exact ⟨home, expandHome_tilde h⟩
  · by_cases hrest : ∃ rest, p = "~/" ++ rest
    · obtain ⟨rest, rfl⟩ := hrest
      exact ⟨_, expandHome_tilde_slash h rest⟩
    · exact ⟨p, expandHome_of_other hp (not_exists.mp hrest)⟩

/-- A path that can be expanded is seen from the base after that. -/
lemma resolve_of_expandHome {expanded : String} (h : expandHome env p = .ok expanded)
    (base : String) : resolve env base p = .ok (join base expanded) := by
  rw [resolve, h]
  rfl

/-- An absolute path is its own resolution, wherever it is seen from. -/
lemma resolve_of_isAbsolute (hp : isAbsolute p = true) (base : String) :
    resolve env base p = .ok p := by
  have hother : expandHome env p = .ok p := by
    refine expandHome_of_other ?_ fun rest => ?_ <;> rintro rfl
    · exact absurd hp (by decide)
    · simp [isAbsolute] at hp
  rw [resolve_of_expandHome hother, join_of_isAbsolute hp]

/-- A path behind `~/` is the home directory, seen from the base, with the parts of the path
behind it. -/
lemma resolve_tilde_slash (hhome : env.home? = some home) (base rest : String) :
    resolve env base ("~/" ++ rest) = .ok ((names rest).foldl join (join base home)) := by
  rw [resolve_of_expandHome (expandHome_tilde_slash hhome rest),
    join_foldl_join (home_ne_empty hhome) fun _ hs => ne_empty_of_mem_names hs]

/-- Every path resolves to an absolute one, which resolves to itself from everywhere.  It is the
path itself if that is absolute; the home directory for `~`; the home directory with the parts of
`rest` behind it, and nothing else, for `~/rest`; and all other paths as they stand, seen from the
base. -/
theorem resolve_anchors (hhome : env.home? = some home) (hbase : isAbsolute base = true)
    (p : String) :
    ∃ r, resolve env base p = .ok r ∧ isAbsolute r = true ∧
      (∀ base', resolve env base' r = .ok r) ∧
      (isAbsolute p = true → r = p) ∧
      (p = "~" → r = join base home) ∧
      (∀ rest, p = "~/" ++ rest →
        r = (names rest).foldl join (join base home) ∧
        names r = names (join base home) ++ names rest ∧
        components (join base home) <+: components r) ∧
      (isAbsolute p = false → p ≠ "~" → (∀ rest, p ≠ "~/" ++ rest) →
        r = base ++ separator base ++ p) := by
  have hseen : isAbsolute (join base home) = true := isAbsolute_join_of_isAbsolute hbase home
  obtain ⟨expanded, hexpanded⟩ := exists_expandHome hhome p
  have hr := resolve_of_expandHome hexpanded base
  have habsolute := isAbsolute_join_of_isAbsolute hbase expanded
  refine ⟨join base expanded, hr, habsolute, fun base' => resolve_of_isAbsolute habsolute base',
    ?_, ?_, ?_, ?_⟩
  · intro hp
    exact Except.ok.inj (hr.symm.trans (resolve_of_isAbsolute hp base))
  · rintro rfl
    exact Except.ok.inj (hr.symm.trans (resolve_of_expandHome (expandHome_tilde hhome) base))
  · rintro rest rfl
    rw [Except.ok.inj (hr.symm.trans (resolve_tilde_slash hhome base rest))]
    have hnames := names_foldl_join
      (fun _ hs => ⟨isAbsolute_of_mem_names hs, names_of_mem_names (p := rest) hs⟩) (join base home)
    refine ⟨rfl, hnames, ?_⟩
    rw [components_of_names_append hseen (isAbsolute_foldl_join hseen _) hnames]
    exact List.prefix_append _ _
  · intro hp htilde hrest
    rw [Except.ok.inj (hexpanded.symm.trans (expandHome_of_other htilde hrest)),
      join_of_relative hp]

/-- A home directory that is a relative path. -/
def relativeHome : Environment := ⟨.ofList [("HOME", "h/")]⟩

/-- The many slashes of `~///etc/../a//` lead to nothing outside of the home directory. -/
theorem resolve_anchors_behind_many_slashes :
    relativeHome.home? = some "h/" ∧ isAbsolute "/b" = true ∧
    ∃ r, resolve relativeHome "/b" "~///etc/../a//" = .ok r ∧ r = "/b/h/etc/../a" ∧
      resolve relativeHome "/c" r = .ok r ∧ components "/b/h/" <+: components r := by
  have hhome : relativeHome.home? = some "h/" := by decide +kernel
  have hbase : isAbsolute "/b" = true := by decide
  obtain ⟨r, hr, -, hagain, -, -, hrest, -⟩ := resolve_anchors hhome hbase "~///etc/../a//"
  obtain ⟨hparts, -, hprefix⟩ := hrest "//etc/../a//" (by decide)
  exact ⟨hhome, hbase, r, hr, hparts.trans (by decide +kernel), hagain "/c", hprefix⟩

end PipeShell.Path
