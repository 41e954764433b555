import PipeShell.Path
import PipeShell.Proofs.Text.Fields

/-!
# The components of a path

A path starts somewhere (`origin`) and then goes through names, of which a `.` leads nowhere
(`trail`).  The two together are its components, and each can be read off them, so paths have the
same components if and only if both agree (`same_iff`).

Seen from a directory, a relative path starts where the directory does and goes on behind it
(`origin_join`, `trail_join`).  So the components of a path seen from a directory depend only on the
components of the path and of the directory (`same_join_left`, `same_join_right`).
-/

namespace PipeShell.Path

variable {base p q : String}

/-! ## Joining -/

/-- A path that is seen from a directory stays as it is, or stands behind a slash. -/
lemma join_cases (base p : String) :
    join base p = p ∨ ∃ front, join base p = front ++ "/" ++ p := by
  unfold join
  split_ifs with habsolute hbase
  · exact .inl rfl
  · rw [Bool.or_eq_true] at hbase
    rcases hbase with hempty | hslash
    · rw [String.isEmpty_iff.mp hempty, String.empty_append]
      exact .inl rfl
    · right
      obtain ⟨front, hfront⟩ := List.getLast?_eq_some_iff.mp (of_decide_eq_true hslash)
      refine ⟨String.ofList front, ?_⟩
      rw [← String.ofList_toList (s := base), hfront, String.ofList_append]
  · exact .inr ⟨base, rfl⟩

/-- An absolute path stays as it is, wherever it is seen from. -/
lemma join_of_isAbsolute (h : isAbsolute p = true) (base : String) : join base p = p :=
  if_pos h

/-- Seen from nowhere, a path stays as it is. -/
lemma empty_join (p : String) : join "" p = p := by
  simp [join]

/-- A path that is not empty is not empty from anywhere. -/
lemma join_ne_empty (hp : p ≠ "") (base : String) : join base p ≠ "" := by
  rcases join_cases base p with h | ⟨front, h⟩
  · rwa [h]
  · rw [h]
    simp

/-! ## Names -/

/-- The names of a path are those in front of a slash and those behind it. -/
lemma names_append_slash (p q : String) : names (p ++ "/" ++ q) = names p ++ names q := by
  have hcut : (p ++ "/" ++ q).toList = p.toList ++ '/' :: q.toList := by simp
  rw [names, hcut, Text.fields_append_sep, List.filter_append, List.map_append]
  rfl

/-- A slash at the end adds no name. -/
lemma names_concat_slash (p : String) : names (p ++ "/") = names p := by
  have hnames := names_append_slash p ""
  rw [String.append_empty] at hnames
  rw [hnames]
  exact List.append_nil _

/-- A text without slashes is its own only name. -/
lemma names_of_bare (hslash : '/' ∉ p.toList) (hp : p ≠ "") : names p = [p] := by
  rw [names, Text.fields_of_not_mem hslash]
  simp [hp]

/-- The names of a relative path come behind those of the directory that it is seen from. -/
lemma names_join (hp : isAbsolute p = false) (base : String) :
    names (join base p) = names base ++ names p := by
  unfold join
  rw [if_neg (by simp [hp])]
  split_ifs with hbase
  · rw [Bool.or_eq_true] at hbase
    rcases hbase with hempty | hslash
    · rw [String.isEmpty_iff.mp hempty, String.empty_append]
      exact (List.nil_append _).symm
    · obtain ⟨front, hfront⟩ := List.getLast?_eq_some_iff.mp (of_decide_eq_true hslash)
      obtain rfl : base = String.ofList front ++ "/" := by
        rw [← String.ofList_toList (s := base), hfront, String.ofList_append]
      rw [names_append_slash, names_concat_slash]
  · exact names_append_slash base p

/-- Whether a path is absolute is seen at its first character. -/
lemma isAbsolute_append (hp : p ≠ "") (q : String) : isAbsolute (p ++ q) = isAbsolute p := by
  obtain ⟨c, cs, hcs⟩ := List.exists_cons_of_ne_nil (mt String.toList_eq_nil_iff.mp hp)
  simp [isAbsolute, hcs]

/-- A relative path is absolute where it is seen from an absolute directory. -/
lemma isAbsolute_join (hp : isAbsolute p = false) (base : String) :
    isAbsolute (join base p) = isAbsolute base := by
  by_cases hbase : base = ""
  · subst hbase
    rw [empty_join, hp]
    rfl
  · unfold join
    rw [if_neg (by simp [hp])]
    split_ifs
    · exact isAbsolute_append hbase p
    · rw [String.append_assoc]
      exact isAbsolute_append hbase _

/-- Whatever is seen from an absolute directory is absolute. -/
lemma isAbsolute_join_of_isAbsolute (hbase : isAbsolute base = true) (p : String) :
    isAbsolute (join base p) = true := by
  cases hp : isAbsolute p with
  | true => rwa [join_of_isAbsolute hp]
  | false => rwa [isAbsolute_join hp]

/-- A text without slashes is a relative path. -/
lemma isAbsolute_of_bare (hslash : '/' ∉ p.toList) : isAbsolute p = false := by
  rw [isAbsolute, decide_eq_false_iff_not]
  intro hhead
  exact hslash (List.mem_of_head? hhead)

/-- Whether it ends with a slash is seen at its last. -/
lemma endsWithSlash_append (hq : q ≠ "") (p : String) :
    endsWithSlash (p ++ q) = endsWithSlash q := by
  have hlist : q.toList ≠ [] := mt String.toList_eq_nil_iff.mp hq
  rw [endsWithSlash, endsWithSlash, String.toList_append, List.getLast?_append,
    List.getLast?_eq_some_getLast hlist, Option.some_or]

/-- A path that ends in a text without slashes does not end in a slash. -/
lemma endsWithSlash_join_of_bare (hslash : '/' ∉ p.toList) (hp : p ≠ "") (base : String) :
    endsWithSlash (join base p) = false := by
  have hends : endsWithSlash p = false := by
    rw [endsWithSlash, decide_eq_false_iff_not]
    intro hlast
    exact hslash (List.mem_of_getLast? hlast)
  rcases join_cases base p with h | ⟨front, h⟩
  · rwa [h]
  · rwa [h, endsWithSlash_append hp]

/-! ## Components -/

/-- The components of where a path starts. -/
def origin (p : String) : List Component :=
  if isAbsolute p then [.root] else if (names p).head? = some "." then [.here] else []

/-- The names of a path that lead somewhere. -/
def trail (p : String) : List String :=
  (names p).filter (· ≠ ".")

/-- The component of a name that leads somewhere. -/
def Component.ofName (s : String) : Component :=
  if s = ".." then .up else .name s

/-- The component leads somewhere. -/
def Component.leads : Component → Bool
  | root => false
  | here => false
  | up => true
  | name _ => true

/-- The component of a name leads somewhere. -/
lemma Component.leads_ofName (s : String) : (ofName s).leads = true := by
  unfold ofName
  split_ifs <;> rfl

/-- Different names are different components. -/
lemma Component.ofName_injective : Function.Injective ofName := by
  intro s t h
  unfold ofName at h
  split_ifs at h with hs ht
  · rw [hs, ht]
  · exact Component.name.inj h

/-- Where a path starts is no step of the way. -/
lemma leads_of_mem_origin {c : Component} (h : c ∈ origin p) : c.leads = false := by
  unfold origin at h
  split_ifs at h
  · rw [List.mem_singleton.mp h]
    rfl
  · rw [List.mem_singleton.mp h]
    rfl
  · cases h

/-- The components of a path are where it starts and the way it goes. -/
lemma components_eq (p : String) :
    components p = origin p ++ (trail p).map Component.ofName := rfl

/-- The components that lead somewhere are the way. -/
lemma filter_leads_components (p : String) :
    (components p).filter Component.leads = (trail p).map Component.ofName := by
  rw [components_eq, List.filter_append]
  have horigin : (origin p).filter Component.leads = [] := by
    rw [List.filter_eq_nil_iff]
    intro c hc
    simp [leads_of_mem_origin hc]
  have htrail : ((trail p).map Component.ofName).filter Component.leads =
      (trail p).map Component.ofName := by
    rw [List.filter_eq_self]
    intro c hc
    obtain ⟨s, -, rfl⟩ := List.mem_map.mp hc
    exact Component.leads_ofName s
  rw [horigin, htrail, List.nil_append]

/-- Paths have the same components if they start in the same way and then go the same way. -/
theorem same_iff : same p q = true ↔ origin p = origin q ∧ trail p = trail q := by
  rw [same, decide_eq_true_iff]
  constructor
  · intro h
    have htrail : trail p = trail q := by
      have hmap := congrArg (List.filter Component.leads) h
      rw [filter_leads_components, filter_leads_components] at hmap
      exact (List.map_inj_right fun _ _ hs => Component.ofName_injective hs).mp hmap
    rw [components_eq, components_eq, htrail] at h
    exact ⟨List.append_cancel_right h, htrail⟩
  · rintro ⟨horigin, htrail⟩
    rw [components_eq, components_eq, horigin, htrail]

/-- A path starts at the root exactly if it is absolute. -/
lemma origin_eq_root_iff : origin p = [.root] ↔ isAbsolute p = true := by
  unfold origin
  split_ifs with habsolute hhere <;> simp [habsolute]

/-- Paths that start in the same way are both absolute or both not. -/
lemma isAbsolute_eq_of_origin (h : origin p = origin q) : isAbsolute p = isAbsolute q := by
  rw [Bool.eq_iff_iff, ← origin_eq_root_iff, h, origin_eq_root_iff]

/-- A relative path goes on from where the base has led. -/
lemma trail_join (hp : isAbsolute p = false) (base : String) :
    trail (join base p) = trail base ++ trail p := by
  rw [trail, names_join hp, List.filter_append]
  rfl

/-- A relative path that is not empty has a name. -/
lemma names_ne_nil (hp : p ≠ "") (hrelative : isAbsolute p = false) : names p ≠ [] := by
  obtain ⟨c, cs, hcs⟩ := List.exists_cons_of_ne_nil (mt String.toList_eq_nil_iff.mp hp)
  have hc : c ≠ '/' := by
    rintro rfl
    simp [isAbsolute, hcs] at hrelative
  obtain ⟨f, fs, hfields⟩ := Text.fields_cons_of_ne hc cs
  rw [names, hcs, hfields]
  simp

/-- Where a path starts is decided by the directory that it is seen from. -/
lemma origin_join (hp : isAbsolute p = false) (hbase : base ≠ "") :
    origin (join base p) = origin base := by
  cases hrelative : isAbsolute base with
  | true =>
      rw [origin_eq_root_iff.mpr hrelative, origin_eq_root_iff, isAbsolute_join hp, hrelative]
  | false =>
      obtain ⟨s, ss, hnames⟩ := List.exists_cons_of_ne_nil (names_ne_nil hbase hrelative)
      simp [origin, isAbsolute_join hp, names_join hp, hrelative, hnames]

/-! ## Paths seen from a directory -/

/-- From directories with the same components a relative path has the same components. -/
theorem same_join_left (h : same p q = true) (hp : p ≠ "") (hq : q ≠ "") {name : String}
    (hname : isAbsolute name = false) : same (join p name) (join q name) = true := by
  rw [same_iff] at h ⊢
  rw [origin_join hname hp, origin_join hname hq, trail_join hname, trail_join hname, h.1, h.2]
  exact ⟨rfl, rfl⟩

/-- Paths with the same components have the same components from any directory. -/
theorem same_join_right (h : same p q = true) (base : String) :
    same (join base p) (join base q) = true := by
  have hsame := same_iff.mp h
  have habsolute := isAbsolute_eq_of_origin hsame.1
  cases hp : isAbsolute p with
  | true =>
      rwa [join_of_isAbsolute hp, join_of_isAbsolute (habsolute ▸ hp)]
  | false =>
      rw [hp] at habsolute
      by_cases hbase : base = ""
      · rwa [hbase, empty_join, empty_join]
      · rw [same_iff, origin_join hp hbase, origin_join habsolute.symm hbase, trail_join hp,
          trail_join habsolute.symm, hsame.2]
        exact ⟨rfl, rfl⟩

end PipeShell.Path
