import Container.Proofs.Config.RoundTrip
import Container.Proofs.Text.ByteOrder

set_option autoImplicit false

/-!
# Recipes that are put together script by script

Whatever scripts are added to a recipe and in whatever order, each phase has the scripts it had and
then those that were added to it, in the order in which these came. Scripts of different phases can
change places, as a recipe is nothing but its phases with their scripts: it has no memory of which
phase came first, and its document lists the phases in the order of their bytes.

## Main definitions

* `Recipe.pushAll` — adds scripts to their phases, one after the other.
* `Recipe.pushedTo` — the scripts among them that go to one phase.
* `Recipe.PushLaw` — what is known of a recipe to which scripts were added.

## Main results

* `Recipe.eq_of_lookup` — a recipe is what is found under each phase.
* `Recipe.lookup_pushAll` — what is found under a phase after scripts were added.
* `Recipe.push_law` — what is known of adding any scripts to any recipe.
-/

namespace Container

open Datum

namespace Recipe

variable {recipe recipe' : Recipe} {phase : String}

/-! ## Scripts of one phase -/

/-- Adds scripts, each to its phase, one after the other. -/
def pushAll (recipe : Recipe) (pushes : List (String × String)) : Recipe :=
  pushes.foldl (fun recipe (phase, script) => recipe.push phase script) recipe

/-- The scripts among those added that go to a phase, in the order in which they come. -/
def pushedTo (phase : String) (pushes : List (String × String)) : List String :=
  (pushes.filter fun (name, _) => name = phase).map Prod.snd

/-- The first script goes to its own phase and to no other. -/
theorem pushedTo_cons (phase : String) (push : String × String) (pushes : List (String × String)) :
    pushedTo phase (push :: pushes) =
      if push.1 = phase then push.2 :: pushedTo phase pushes else pushedTo phase pushes := by
  by_cases h : push.1 = phase <;> simp [pushedTo, h]

/-- No script goes to a phase exactly if none is added to it. -/
theorem pushedTo_eq_nil_iff {pushes : List (String × String)} :
    pushedTo phase pushes = [] ↔ phase ∉ pushes.map Prod.fst := by
  rw [pushedTo, List.map_eq_nil_iff, List.filter_eq_nil_iff, List.mem_map]
  constructor
  · rintro h ⟨push, hpush, rfl⟩
    exact h push hpush (by simp)
  · intro h push hpush heq
    exact h ⟨push, hpush, by simpa using heq⟩

/-! ## What is found in a recipe -/

/-- A phase that is looked up is found if it is there. -/
theorem lookup_of_mem {entry : String × List String} (h : entry ∈ recipe.phases) :
    recipe.phases.lookup entry.1 = some entry.2 := by
  obtain ⟨before, after, hsplit⟩ := List.append_of_mem h
  have hsorted := recipe.sorted
  rw [hsplit, List.pairwise_append] at hsorted
  refine List.lookup_eq_some_iff.mpr ⟨before, after, hsplit, fun other hother => ?_⟩
  have hlt : other.1 < entry.1 := hsorted.2.2 other hother entry List.mem_cons_self
  rw [bne_iff_ne]
  exact fun heq => String.lt_irrefl _ (heq ▸ hlt)

/-- What is found under a phase is there. -/
theorem mem_iff_lookup {scripts : List String} :
    (phase, scripts) ∈ recipe.phases ↔ recipe.phases.lookup phase = some scripts := by
  refine ⟨lookup_of_mem, fun h => ?_⟩
  obtain ⟨before, after, hsplit, -⟩ := List.lookup_eq_some_iff.mp h
  rw [hsplit]
  exact List.mem_append_right _ List.mem_cons_self

/-- **A recipe is what is found under each phase.** -/
theorem eq_of_lookup (h : ∀ phase, recipe.phases.lookup phase = recipe'.phases.lookup phase) :
    recipe = recipe' := by
  have hnodup : ∀ recipe : Recipe, recipe.phases.Nodup := by
    intro recipe
    refine List.Pairwise.of_map Prod.fst ?_ recipe.nodup_phases
    rintro entry _ hne rfl
    exact hne rfl
  refine eq_of_perm ((List.perm_ext_iff_of_nodup (hnodup _) (hnodup _)).mpr ?_)
  rintro ⟨phase, scripts⟩
  rw [mem_iff_lookup, mem_iff_lookup, h]

/-- The phases of a recipe are those under which something is found. -/
theorem mem_phases_iff :
    phase ∈ recipe.phases.map Prod.fst ↔ recipe.phases.lookup phase ≠ none := by
  rw [List.mem_map, Option.ne_none_iff_exists']
  constructor
  · rintro ⟨entry, hentry, rfl⟩
    exact ⟨_, lookup_of_mem hentry⟩
  · rintro ⟨scripts, h⟩
    exact ⟨_, mem_iff_lookup.mpr h, rfl⟩

/-! ## What is found after scripts were added -/

/-- After a script was added, its phase has one more and the others are as they were. -/
theorem lookup_push (recipe : Recipe) (added script phase : String) :
    (recipe.push added script).phases.lookup phase =
      if phase = added then some (recipe.scripts added ++ [script])
      else recipe.phases.lookup phase :=
  lookup_alterIn recipe.sorted phase

/-- **After scripts were added**, each phase to which some were added has them after those it had,
and the others are as they were. -/
theorem lookup_pushAll (recipe : Recipe) (pushes : List (String × String)) (phase : String) :
    (recipe.pushAll pushes).phases.lookup phase =
      if pushedTo phase pushes = [] then recipe.phases.lookup phase
      else some (recipe.scripts phase ++ pushedTo phase pushes) := by
  -- The scripts that come later are added to the recipe that has the first one already.
  induction pushes generalizing recipe with
  | nil => rfl
  | cons push pushes ih =>
    obtain ⟨added, script⟩ := push
    have hrest := ih (recipe.push added script)
    rw [lookup_push, scripts_push] at hrest
    rw [pushAll, List.foldl_cons, ← pushAll, hrest, pushedTo_cons]
    by_cases h : phase = added
    · subst h
      by_cases hnone : pushedTo phase pushes = [] <;> simp [hnone]
    · simp [h, Ne.symm h]

/-- The scripts of a phase after scripts were added. -/
theorem scripts_pushAll (recipe : Recipe) (pushes : List (String × String)) (phase : String) :
    (recipe.pushAll pushes).scripts phase = recipe.scripts phase ++ pushedTo phase pushes := by
  rw [scripts, lookup_pushAll]
  split
  · rename_i hnone
    rw [hnone, List.append_nil, scripts]
  · rfl

/-- Scripts that come to the same in each phase come to the same recipe. -/
theorem pushAll_congr {pushes pushes' : List (String × String)}
    (h : ∀ phase, pushedTo phase pushes = pushedTo phase pushes') (recipe : Recipe) :
    recipe.pushAll pushes = recipe.pushAll pushes' := by
  apply eq_of_lookup
  intro phase
  rw [lookup_pushAll, lookup_pushAll, h]

/-- After scripts were added there are the phases that were there and those of the scripts. -/
theorem mem_phases_pushAll (recipe : Recipe) (pushes : List (String × String)) (phase : String) :
    phase ∈ (recipe.pushAll pushes).phases.map Prod.fst ↔
      phase ∈ recipe.phases.map Prod.fst ∨ phase ∈ pushes.map Prod.fst := by
  rw [mem_phases_iff, lookup_pushAll, mem_phases_iff]
  by_cases h : pushedTo phase pushes = []
  · simp [h, pushedTo_eq_nil_iff.mp h]
  · have hmem : phase ∈ pushes.map Prod.fst := by
      by_contra hnot
      exact h (pushedTo_eq_nil_iff.mpr hnot)
    simp [h, hmem]

/-! ## Documents -/

/-- What is known of a document of a recipe. -/
structure Documented (recipe : Recipe) (text : String) : Prop where
  /-- It lists the phases with their scripts, one after the other. -/
  lists : Json.Denotes (Utf8.bytes text)
    (.record (recipe.phases.map fun (phase, scripts) => (phase, ofTexts scripts)))
  /-- Each comes after those with smaller bytes, so none comes twice. -/
  ordered : (recipe.phases.map Prod.fst).Pairwise fun phase later =>
    Utf8.bytes phase < Utf8.bytes later
  nodup : (recipe.phases.map Prod.fst).Nodup
  /-- The recipe is read back from it. -/
  parse : Json.parse Recipe.read (Utf8.bytes text) = .ok recipe

/-- A recipe has its document, be it on one line or spread over lines. -/
theorem documented (recipe : Recipe) {text : String}
    (h : text ∈ [Json.compact recipe.toDatum, Json.pretty recipe.toDatum]) :
    recipe.Documented text := by
  obtain ⟨hreads, hprintable⟩ := recipe.standsFor_toDatum
  have hdenotes : Json.Denotes (Utf8.bytes text) recipe.toDatum := by
    rcases List.mem_pair.mp h with rfl | rfl
    · exact Json.denotes_compact hprintable
    · exact Json.denotes_prettyAt hprintable 0
  refine ⟨hdenotes, ?_, recipe.nodup_phases, ?_⟩
  · rw [List.pairwise_map]
    exact recipe.sorted.imp Utf8.bytes_lt_bytes_iff.mpr
  · rw [hdenotes.holds.parse_eq, hreads]
    rfl

/-! ## Any scripts -/

/-- What is known of a recipe to which scripts were added. -/
structure PushLaw (recipe : Recipe) (pushes : List (String × String)) (pushed : Recipe) : Prop where
  /-- Each phase has the scripts it had, and then those that were added to it. -/
  scripts : ∀ phase, pushed.scripts phase = recipe.scripts phase ++ pushedTo phase pushes
  /-- A phase without scripts to which none is added has none. -/
  empty : ∀ phase, recipe.scripts phase = [] → phase ∉ pushes.map Prod.fst →
    pushed.scripts phase = []
  /-- No phase is lost, and those are added to which a script was added. -/
  phases : ∀ phase, phase ∈ pushed.phases.map Prod.fst ↔
    phase ∈ recipe.phases.map Prod.fst ∨ phase ∈ pushes.map Prod.fst
  /-- It has its documents. -/
  documented : ∀ text ∈ [Json.compact pushed.toDatum, Json.pretty pushed.toDatum],
    pushed.Documented text

end Recipe

/-- Scripts that are added to a configuration are added to its recipe. -/
theorem Config.foldl_withScript (config : Config) (pushes : List (String × String)) :
    pushes.foldl (fun config (phase, script) => config.withScript phase script) config =
      { config with recipe := config.recipe.pushAll pushes } := by
  induction pushes generalizing config with
  | nil => rfl
  | cons push pushes ih =>
    rw [List.foldl_cons, ih]
    rfl

namespace Recipe

/-- **Adding scripts to a recipe**: each phase gets its own, in the order in which they come, and
how those of different phases come between each other makes no difference, neither to the recipe nor
to its document. Building a configuration does the same to its recipe and to nothing else.

**Proof sketch.** What is found under a phase after scripts were added depends on the scripts of
that phase alone, and a recipe is what is found under each phase. Its phases are in the order of
their names, which is that of their bytes. -/
theorem push_law (recipe : Recipe) (pushes : List (String × String)) :
    PushLaw recipe pushes (recipe.pushAll pushes) ∧
      (∀ pushes', (∀ phase, pushedTo phase pushes' = pushedTo phase pushes) →
        recipe.pushAll pushes' = recipe.pushAll pushes ∧
          ∀ write ∈ [Json.compact, Json.pretty],
            write (recipe.pushAll pushes').toDatum = write (recipe.pushAll pushes).toDatum) ∧
      ∀ config : Config,
        pushes.foldl (fun config (phase, script) => config.withScript phase script) config =
          { config with recipe := config.recipe.pushAll pushes } := by
  refine ⟨⟨scripts_pushAll recipe pushes, ?_, mem_phases_pushAll recipe pushes, ?_⟩, ?_,
    fun config => config.foldl_withScript pushes⟩
  · intro phase hempty hphase
    rw [scripts_pushAll, hempty, pushedTo_eq_nil_iff.mpr hphase, List.append_nil]
  · intro text htext
    exact documented _ htext
  · intro pushes' hsame
    have heq := pushAll_congr hsame recipe
    exact ⟨heq, fun write _ => by rw [heq]⟩

/-- Three scripts are added to two phases, in two orders. The name of one phase is a character of
three bytes, that of the other one of four, which comes later although it is written first. -/
theorem push_law_interleaved :
    let recipe := Recipe.empty.push "setup" "a"
    let pushes := [("𐀀", "y"), ("～", "x"), ("～", "z")]
    let pushes' := [("～", "x"), ("𐀀", "y"), ("～", "z")]
    (∀ phase, pushedTo phase pushes' = pushedTo phase pushes) ∧
      recipe.pushAll pushes' = recipe.pushAll pushes ∧
      Json.compact (recipe.pushAll pushes).toDatum =
        "\x7b\"setup\":[\"a\"],\"～\":[\"x\",\"z\"],\"𐀀\":[\"y\"]\x7d" := by
  intro recipe pushes pushes'
  have hsame : ∀ phase, pushedTo phase pushes' = pushedTo phase pushes := by
    intro phase
    by_cases hthree : "～" = phase
    · subst hthree
      rfl
    · simp [pushes, pushes', pushedTo_cons, hthree]
  exact ⟨hsame, ((push_law recipe pushes).2.1 pushes' hsame).1, by decide⟩

end Recipe
end Container
