import PipeShell.Options
import Mathlib.Data.List.Induction
import Mathlib.Tactic.Common

/-!
# The items of a command line

Arguments that write options are a row of items (`Options.Item`): a flag without a value, or a flag
and the argument behind it, whatever that looks like.  A reader goes from item to item
(`addArgs_args_append`), and it can only be stopped by an argument that begins no item
(`Options.Blocks`).  So it accepts exactly the rows of items, and what it leaves is told by the
items it has come through (`Options.Holds`): `ofArgs_reads_items`.

A flag is looked up in a table.  No argument spells two flags (`Flag.Spells.unique`), so the answer
is the same in every order of the table (`Flag.ofArg?_eq_some_iff`).
-/

namespace PipeShell

namespace Flag

variable {table : List Flag} {f g : Flag} {arg : String}

/-- The argument is one of the two spellings of the flag. -/
def Spells (f : Flag) (arg : String) : Prop := arg = f.short ∨ arg = f.long

/-- Whether a flag is spelled like an argument can be evaluated. -/
instance : Decidable (f.Spells arg) := inferInstanceAs (Decidable (_ ∨ _))

/-- No argument spells two flags. -/
lemma Spells.unique (hf : f.Spells arg) (hg : g.Spells arg) : f = g := by
  rcases hf with rfl | rfl <;> revert hg <;> cases f <;> cases g <;> decide

/-- The list of all flags is complete. -/
lemma mem_all (f : Flag) : f ∈ all := by
  cases f <;> decide

/-- The flag that is found for an argument is spelled like it. -/
lemma spells_of_ofArg? (h : ofArg? table arg = some f) : f.Spells arg := by
  unfold ofArg? at h
  simpa [Spells] using List.find?_some h

/-- An argument is found in the table as the flag that it spells, in whatever order the table is. -/
lemma ofArg?_eq_some_iff (htable : table.Perm all) :
    ofArg? table arg = some f ↔ f.Spells arg := by
  refine ⟨spells_of_ofArg?, fun h => ?_⟩
  have hsome : (ofArg? table arg).isSome = true := by
    rw [ofArg?, List.find?_isSome]
    exact ⟨f, htable.mem_iff.mpr f.mem_all, by simpa [Spells] using h⟩
  obtain ⟨g, hg⟩ := Option.isSome_iff_exists.mp hsome
  rw [hg, h.unique (spells_of_ofArg? hg)]

/-- No flag is found exactly if none is spelled like the argument. -/
lemma ofArg?_eq_none_iff (htable : table.Perm all) :
    ofArg? table arg = none ↔ ∀ f : Flag, ¬ f.Spells arg := by
  simp only [Option.eq_none_iff_forall_ne_some, ne_eq, ofArg?_eq_some_iff htable]

end Flag

namespace Options

/-! ## Items -/

/-- One or two arguments that set a flag. -/
inductive Item where
  /-- A flag without a value of its own. -/
  | switch (f : Flag) (spelling : String) (hspells : f.Spells spelling)
      (hswitch : f.takesValue = false)
  /-- A flag and its value, which may be any text. -/
  | valued (f : Flag) (spelling value : String) (hspells : f.Spells spelling)
      (hvalued : f.takesValue = true)

namespace Item

/-- The flag that the item sets. -/
def flag : Item → Flag
  | switch f _ _ _ => f
  | valued f _ _ _ _ => f

/-- The value that the flag then has. -/
def value : Item → String
  | switch _ _ _ _ => "true"
  | valued _ _ value _ _ => value

/-- The arguments that the item consists of. -/
def args : Item → List String
  | switch _ spelling _ _ => [spelling]
  | valued _ spelling value _ _ => [spelling, value]

end Item

/-- No item begins the arguments: the first of them spells no flag, or it spells one whose value is
missing. -/
inductive Blocks : List String → FlagError → Prop
  | unknown {arg : String} {rest : List String} (hunknown : ∀ f : Flag, ¬ f.Spells arg) :
      Blocks (arg :: rest) (.unknown arg)
  | missingValue {arg : String} {f : Flag} (hspells : f.Spells arg)
      (hvalued : f.takesValue = true) : Blocks [arg] (.missingValue arg)

/-- The options hold what the items say and nothing else: a flag without a value of its own is set
where one of the items sets it, and any other has the value of the last item that sets it. -/
structure Holds (o : Options) (items : List Item) : Prop where
  isSet_iff : ∀ f : Flag, f.takesValue = false →
    (o.isSet f = true ↔ ∃ item ∈ items, item.flag = f)
  value_iff : ∀ f : Flag, f.takesValue = true → ∀ value, o.value? f = some value ↔
    ∃ before item after, items = before ++ item :: after ∧ item.flag = f ∧ item.value = value ∧
      ∀ later ∈ after, later.flag ≠ f

variable {table : List Flag} {args rest : List String} {e : FlagError}

/-! ## What items leave -/

/-- The options with the flags of the items set, one after the other. -/
def withItems (o : Options) (items : List Item) : Options :=
  items.foldl (fun o item => o.set item.flag item.value) o

/-- The last item takes effect last. -/
lemma withItems_concat (o : Options) (items : List Item) (item : Item) :
    o.withItems (items ++ [item]) = (o.withItems items).set item.flag item.value := by
  rw [withItems, List.foldl_append]
  rfl

/-- A flag has the value of the last item that sets it. -/
lemma value?_withItems (items : List Item) (f : Flag) :
    (none.withItems items).value? f = (items.reverse.find? (·.flag = f)).map Item.value := by
  induction items using List.reverseRecOn with
  | nil => rfl
  | append_singleton items last ih =>
      rw [withItems_concat, set, List.reverse_append]
      dsimp only
      split_ifs with hlast
      · simp [hlast]
      · have hother : ¬ last.flag = f := fun h => hlast h.symm
        simp [hother, ih]

/-- An item is the last for its flag when no later one sets the same flag. -/
lemma find?_reverse_eq_some_iff {items : List Item} {f : Flag} {item : Item} :
    items.reverse.find? (·.flag = f) = some item ↔
      ∃ before after, items = before ++ item :: after ∧ item.flag = f ∧
        ∀ later ∈ after, later.flag ≠ f := by
  simp only [List.find?_eq_some_iff_append, decide_eq_true_eq, Bool.not_eq_true',
    decide_eq_false_iff_not]
  constructor
  · rintro ⟨hflag, after, before, hitems, hafter⟩
    refine ⟨before.reverse, after.reverse, ?_, hflag, fun later hlater => ?_⟩
    · simpa using congrArg List.reverse hitems
    · exact hafter later (List.mem_reverse.mp hlater)
  · rintro ⟨before, after, rfl, hflag, hafter⟩
    refine ⟨hflag, after.reverse, before.reverse, by simp, fun later hlater => ?_⟩
    exact hafter later (List.mem_reverse.mp hlater)

/-- Options that start from nothing hold what the items say. -/
lemma holds_withItems (items : List Item) : Holds (none.withItems items) items where
  isSet_iff f _ := by
    rw [isSet, value?_withItems, Option.isSome_map, List.find?_isSome]
    simp
  value_iff f _ value := by
    rw [value?_withItems, Option.map_eq_some_iff]
    simp only [find?_reverse_eq_some_iff]
    constructor
    · rintro ⟨item, ⟨before, after, hitems, hflag, hafter⟩, hvalue⟩
      exact ⟨before, item, after, hitems, hflag, hvalue, hafter⟩
    · rintro ⟨before, item, after, hitems, hflag, hvalue, hafter⟩
      exact ⟨item, ⟨before, after, hitems, hflag, hafter⟩, hvalue⟩

/-! ## Reading -/

/-- Arguments are items up to their end, or up to where no item begins. -/
theorem exists_items : (args : List String) → ∃ (items : List Item) (rest : List String),
    args = items.flatMap Item.args ++ rest ∧ (rest = [] ∨ ∃ e, Blocks rest e)
  | [] => ⟨[], [], rfl, .inl rfl⟩
  | arg :: more => by
      by_cases hknown : ∃ f : Flag, f.Spells arg
      · obtain ⟨f, hspells⟩ := hknown
        cases hvalued : f.takesValue with
        | false =>
            obtain ⟨items, rest, rfl, hrest⟩ := exists_items more
            exact ⟨.switch f arg hspells hvalued :: items, rest, rfl, hrest⟩
        | true =>
            cases more with
            | nil => exact ⟨[], [arg], rfl, .inr ⟨_, .missingValue hspells hvalued⟩⟩
            | cons value more =>
                obtain ⟨items, rest, rfl, hrest⟩ := exists_items more
                exact ⟨.valued f arg value hspells hvalued :: items, rest, rfl, hrest⟩
      · exact ⟨[], arg :: more, rfl, .inr ⟨_, .unknown (not_exists.mp hknown)⟩⟩

section Reading

variable (htable : table.Perm Flag.all)

include htable

/-- An item is read as a whole. -/
lemma addArgs_item_append (o : Options) (item : Item) (rest : List String) :
    addArgs table o (item.args ++ rest) = addArgs table (o.set item.flag item.value) rest := by
  cases item with
  | switch f spelling hspells hswitch =>
      have hfound := (Flag.ofArg?_eq_some_iff htable).mpr hspells
      simp [Item.args, Item.flag, Item.value, addArgs, hfound, hswitch]
  | valued f spelling value hspells hvalued =>
      have hfound := (Flag.ofArg?_eq_some_iff htable).mpr hspells
      simp [Item.args, Item.flag, Item.value, addArgs, hfound, hvalued]

/-- Items are read one after the other. -/
lemma addArgs_items_append (o : Options) (items : List Item) (rest : List String) :
    addArgs table o (items.flatMap Item.args ++ rest) =
      addArgs table (o.withItems items) rest := by
  induction items generalizing o with
  | nil => rfl
  | cons item items ih =>
      rw [List.flatMap_cons, List.append_assoc, addArgs_item_append htable, ih]
      rfl

/-- Where no item begins, reading stops. -/
lemma addArgs_of_blocks (o : Options) (h : Blocks rest e) :
    addArgs table o rest = (o, some e) := by
  cases h with
  | unknown hunknown =>
      have hfound := (Flag.ofArg?_eq_none_iff htable).mpr hunknown
      simp [addArgs, hfound]
  | missingValue hspells hvalued =>
      have hfound := (Flag.ofArg?_eq_some_iff htable).mpr hspells
      simp [addArgs, hfound, hvalued]

/-- Items up to the end are accepted. -/
lemma addArgs_of_items (items : List Item) :
    addArgs table none (items.flatMap Item.args) = (none.withItems items, .none) := by
  have hread := addArgs_items_append htable none items []
  rwa [List.append_nil] at hread

/-- Items up to where none begins are read, and the rest is refused. -/
lemma addArgs_of_blocked (items : List Item) (h : Blocks rest e) :
    addArgs table none (items.flatMap Item.args ++ rest) = (none.withItems items, some e) := by
  rw [addArgs_items_append htable, addArgs_of_blocks htable _ h]

/-- Reading options accepts exactly the rows of items, in whatever order the flags are looked up,
and then the options hold what the items say.  Otherwise some items are followed by arguments that
no item begins: the error is about the first of these, and the options hold what the items before it
say. -/
theorem ofArgs_reads_items (args : List String) :
    addArgs table none args = ofArgs args ∧
    ((ofArgs args).2 = .none ↔ ∃ items : List Item, args = items.flatMap Item.args) ∧
    (∀ items : List Item, args = items.flatMap Item.args → Holds (ofArgs args).1 items) ∧
    (∀ e, (ofArgs args).2 = some e ↔
      ∃ (items : List Item) (rest : List String),
        args = items.flatMap Item.args ++ rest ∧ Blocks rest e) ∧
    (∀ (items : List Item) (rest : List String) (e : FlagError),
      args = items.flatMap Item.args ++ rest → Blocks rest e → Holds (ofArgs args).1 items) := by
  -- every row is a row of items with nothing behind it, or with something that blocks, so these two
  -- facts answer for all of them
  have haccepted : ∀ items : List Item,
      ofArgs (items.flatMap Item.args) = (none.withItems items, .none) :=
    addArgs_of_items (.refl _)
  have hrefused : ∀ (items : List Item) (rest : List String) (e : FlagError), Blocks rest e →
      ofArgs (items.flatMap Item.args ++ rest) = (none.withItems items, some e) :=
    fun items _ _ hblocks => addArgs_of_blocked (.refl _) items hblocks
  refine ⟨?_, ⟨fun hnone => ?_, ?_⟩, ?_, fun e => ⟨fun hsome => ?_, ?_⟩, ?_⟩
  · obtain ⟨items, rest, rfl, rfl | ⟨e, hblocks⟩⟩ := exists_items args
    · rw [List.append_nil, haccepted, addArgs_of_items htable]
    · rw [hrefused items rest e hblocks, addArgs_of_blocked htable items hblocks]
  · obtain ⟨items, rest, rfl, rfl | ⟨e, hblocks⟩⟩ := exists_items args
    · exact ⟨items, List.append_nil _⟩
    · rw [hrefused items rest e hblocks] at hnone
      cases hnone
  · rintro ⟨items, rfl⟩
    rw [haccepted]
  · rintro items rfl
    rw [haccepted]
    exact holds_withItems items
  · obtain ⟨items, rest, rfl, rfl | ⟨e', hblocks⟩⟩ := exists_items args
    · rw [List.append_nil, haccepted] at hsome
      cases hsome
    · rw [hrefused items rest e' hblocks] at hsome
      cases hsome
      exact ⟨items, rest, rfl, hblocks⟩
  · rintro ⟨items, rest, rfl, hblocks⟩
    rw [hrefused items rest e hblocks]
  · rintro items rest e rfl hblocks
    rw [hrefused items rest e hblocks]
    exact holds_withItems items

end Reading

/-- `-c -q --log x -d -l --help`. -/
def someItems : List Item :=
  [.valued .command "-c" "-q" (by decide) rfl, .valued .log "--log" "x" (by decide) rfl,
   .switch .debug "-d" (by decide) rfl, .valued .log "-l" "--help" (by decide) rfl]

/-- Values that look like flags set nothing, the last value counts, and what comes before an unknown
argument stays set, also when the flags are looked up in another order. -/
theorem ofArgs_reads_items_up_to_unknown :
    let args := ["-c", "-q", "--log", "x", "-d", "-l", "--help", "--nope", "-v"]
    Flag.all.reverse.Perm Flag.all ∧ args = someItems.flatMap Item.args ++ ["--nope", "-v"] ∧
    Blocks ["--nope", "-v"] (.unknown "--nope") ∧
    (addArgs Flag.all.reverse none args).2 = some (.unknown "--nope") ∧
    Holds (ofArgs args).1 someItems ∧ (ofArgs args).1.isSet .quiet = false ∧
    (ofArgs args).1.value? .log = some "--help" := by
  intro args
  have htable : Flag.all.reverse.Perm Flag.all := List.reverse_perm _
  have hargs : args = someItems.flatMap Item.args ++ ["--nope", "-v"] := rfl
  have hblocks : Blocks ["--nope", "-v"] (.unknown "--nope") :=
    .unknown fun f => by cases f <;> decide
  obtain ⟨hsame, -, -, herror, hholds⟩ := ofArgs_reads_items htable args
  refine ⟨htable, hargs, hblocks, ?_, hholds _ _ _ hargs hblocks, by decide, by decide⟩
  rw [hsame]
  exact (herror _).mpr ⟨_, _, hargs, hblocks⟩

end Options

end PipeShell
