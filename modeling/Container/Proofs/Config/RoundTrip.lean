import Container.Config.Load
import Container.Proofs.Act
import Container.Proofs.Datum.Fields
import Container.Proofs.Json.RoundTrip
import Container.Proofs.Ledger

set_option autoImplicit false

/-!
# A description is read back from its document

A description whose paths are text has a value, and from that value it is read back part by part.
No field is missing there, so nothing is taken from the configuration that is in force where a
description says nothing; in particular the environment, from which the directories of that
configuration come, makes no difference.

## Main definitions

* `Datum.StandsFor` — a value that is read as something and that has a JSON form.
* `Config.paths` — the paths of a configuration.
* `Description.loaded` — what loading the document of a description comes to.

## Main results

* `Config.exists_toDatum?_iff` — which configurations have a value.
* `Description.standsFor_toDatum?` — the value of a description stands for it.
* `Description.document_roundTrip` — what becomes of the document of a description.
-/

namespace Container

open Datum

/-! ## Values that stand for something -/

namespace Datum

variable {α : Type} {read : Datum → Reading α}

/-- A value stands for what is read of it if it has a JSON form. -/
structure StandsFor (read : Datum → Reading α) (a : α) (d : Datum) : Prop where
  reads : read d = .ok a
  printable : d.Printable

theorem standsFor_text (s : String) : StandsFor readText s (.text s) := ⟨rfl, .text s⟩

theorem standsFor_bool (b : Bool) : StandsFor readBool b (.bool b) := ⟨rfl, .bool b⟩

theorem standsFor_path {p : Path} {d : Datum} (h : ofPath? p = some d) :
    StandsFor readPath p d := by
  refine ⟨readPath_of_ofPath? h, ?_⟩
  obtain ⟨s, -, rfl⟩ := Option.map_eq_some_iff.1 h
  exact .text s

/-- The value of a part that may be absent. -/
theorem standsFor_ofOption? {value? : α → Option Datum}
    (hpart : ∀ a d, value? a = some d → StandsFor read a d ∧ d ≠ .null) {o : Option α} {d : Datum}
    (h : ofOption? value? o = some d) : StandsFor (readOptional read) o d := by
  cases o with
  | none =>
    obtain rfl : Datum.null = d := Option.some.inj h
    exact ⟨rfl, .null⟩
  | some a =>
    obtain ⟨⟨hreads, hprintable⟩, hnull⟩ := hpart a d h
    refine ⟨?_, hprintable⟩
    have hsome : readOptional read d = some <$> read d := by
      cases hprintable with
      | null => exact absurd rfl hnull
      | _ => rfl
    rw [hsome, hreads]
    rfl

/-- Items that stand for something each stand for it together. -/
theorem standsFor_mapM {value? : α → Option Datum}
    (hitem : ∀ a d, value? a = some d → StandsFor read a d) {as : List α} {ds : List Datum}
    (h : as.mapM value? = some ds) : StandsFor (readSequence read) as (.sequence ds) := by
  have hitems : ds.mapM read = .ok as ∧ ∀ d ∈ ds, d.Printable := by
    induction as generalizing ds with
    | nil =>
      obtain rfl : [] = ds := by simpa using h
      exact ⟨rfl, by simp⟩
    | cons a as ih =>
      simp only [List.mapM_cons, Option.bind_eq_bind, Option.bind_eq_some_iff, Option.pure_def,
        Option.some.injEq] at h
      obtain ⟨d, hd, rest, hrest, rfl⟩ := h
      obtain ⟨hreads, hprintable⟩ := hitem a d hd
      obtain ⟨hrestReads, hrestPrintable⟩ := ih hrest
      refine ⟨?_, ?_⟩
      · rw [List.mapM_cons, hreads]
        simp only [bind, Except.bind, hrestReads, pure, Except.pure]
      · simpa using ⟨hprintable, hrestPrintable⟩
  exact ⟨hitems.1, .sequence hitems.2⟩

theorem standsFor_texts (texts : List String) : StandsFor readTexts texts (ofTexts texts) := by
  have hmap : texts.mapM (fun s => some (Datum.text s)) = some (texts.map .text) :=
    List.mapM_pure
  refine standsFor_mapM ?_ hmap
  intro s d hd
  obtain rfl : Datum.text s = d := Option.some.inj hd
  exact standsFor_text s

end Datum

/-! ## Programs and identities -/

theorem Program.standsFor_toDatum (program : Program) :
    StandsFor Program.read program program.toDatum := by
  have harguments := standsFor_texts program.arguments
  have henvironment := standsFor_texts program.environment
  have hcollect := shape.collect_record .json (by decide) [
    (.of "args" readTexts, ofTexts program.arguments),
    (.of "env" readTexts, ofTexts program.environment)] rfl
    (by simp [Field.check_of harguments.reads, Field.check_of henvironment.reads])
  refine ⟨?_, .record (by simp [harguments.printable, henvironment.printable])⟩
  simp only [named, List.map_cons, List.map_nil, Field.of] at hcollect
  simp [Program.read, toDatum, hcollect, bind, Except.bind, Fields.required, Fields.value?,
    List.lookup_cons, harguments.reads, henvironment.reads, pure, Except.pure]

theorem Identity.standsFor_toDatum (identity : Identity) :
    StandsFor Identity.read identity identity.toDatum := by
  have hid := standsFor_text identity.containerId
  have hname := standsFor_text identity.engineName
  have hprogram := identity.program.standsFor_toDatum
  have hcollect := shape.collect_record .json (by decide) [
    (.of "container_id" readText, .text identity.containerId),
    (.of "engine_name" readText, .text identity.engineName),
    (.of "process" Program.read, identity.program.toDatum)] rfl
    (by simp [Field.check_of hid.reads, Field.check_of hname.reads, Field.check_of hprogram.reads])
  refine ⟨?_, .record (by simp [hid.printable, hname.printable, hprogram.printable])⟩
  simp only [named, List.map_cons, List.map_nil, Field.of] at hcollect
  simp [Identity.read, toDatum, hcollect, bind, Except.bind, Fields.required, Fields.value?,
    List.lookup_cons, hid.reads, hname.reads, hprogram.reads, pure, Except.pure]

/-! ## Recipes -/

namespace Recipe

/-- Recipes with the same phases are the same recipe, in whichever order these are given. -/
theorem eq_of_perm {recipe recipe' : Recipe} (h : recipe.phases.Perm recipe'.phases) :
    recipe = recipe' := by
  obtain ⟨phases, hsorted⟩ := recipe
  obtain ⟨phases', hsorted'⟩ := recipe'
  obtain rfl : phases = phases' := by
    refine h.eq_of_pairwise (fun a b _ _ hab hba => ?_) hsorted hsorted'
    exact absurd (String.lt_trans hab hba) (String.lt_irrefl _)
  rfl

/-- No phase comes twice. -/
theorem nodup_phases (recipe : Recipe) : (recipe.phases.map (·.1)).Nodup := by
  refine List.pairwise_map.mpr (recipe.sorted.imp ?_)
  intro a b hlt heq
  exact String.lt_irrefl _ (heq ▸ hlt)

/-- A phase that is not there yet is added to the others. -/
theorem alterIn_perm {phase : String} {f : List String → List String}
    {phases : List (String × List String)} (h : phase ∉ phases.map (·.1)) :
    (alterIn phase f phases).Perm ((phase, f []) :: phases) := by
  induction phases with
  | nil => exact .refl _
  | cons entry phases ih =>
    rw [List.map_cons, List.mem_cons, not_or] at h
    rw [alterIn]
    split
    · exact .refl _
    · rw [if_neg h.1]
      exact ((ih h.2).cons entry).trans (.swap _ _ _)

/-- Phases that are not there yet are added, in whichever order they come. -/
theorem exists_readEntries {phases : List (String × List String)} {recipe : Recipe}
    (hnodup : ((recipe.phases ++ phases).map (·.1)).Nodup) :
    ∃ recipe', readEntries recipe (phases.map fun e => (.text e.1, ofTexts e.2)) = .ok recipe' ∧
      recipe'.phases.Perm (recipe.phases ++ phases) := by
  induction phases generalizing recipe with
  | nil => exact ⟨recipe, rfl, by rw [List.append_nil]⟩
  | cons entry phases ih =>
    obtain ⟨phase, scripts⟩ := entry
    have hmiddle : (recipe.phases ++ (phase, scripts) :: phases).Perm
        ((phase, scripts) :: (recipe.phases ++ phases)) := List.perm_middle
    have hnew : phase ∉ recipe.phases.map (·.1) := by
      have hcons := (hmiddle.map Prod.fst).nodup_iff.mp hnodup
      rw [List.map_cons, List.nodup_cons, List.map_append] at hcons
      exact fun hmem => hcons.1 (List.mem_append_left _ hmem)
    have hset : (recipe.set phase scripts).phases.Perm ((phase, scripts) :: recipe.phases) :=
      alterIn_perm hnew
    have hperm := (hset.append_right phases).trans hmiddle.symm
    obtain ⟨recipe', hread, hphases⟩ := ih ((hperm.map Prod.fst).nodup_iff.mpr hnodup)
    refine ⟨recipe', ?_, hphases.trans hperm⟩
    have htext : readText (.text phase) = .ok phase := rfl
    simp only [List.map_cons, readEntries, htext, (standsFor_texts scripts).reads, bind,
      Except.bind, hread]

/-- **The phases of a recipe** are read as it, in whichever order they come. -/
theorem read_of_perm {recipe : Recipe} {phases : List (String × List String)}
    (h : phases.Perm recipe.phases) :
    Recipe.read (.record (phases.map fun (phase, scripts) => (phase, ofTexts scripts))) =
      .ok recipe := by
  have hnodup : (phases.map (·.1)).Nodup :=
    (h.map Prod.fst).nodup_iff.mpr recipe.nodup_phases
  obtain ⟨recipe', hread, hperm⟩ := @exists_readEntries phases .empty hnodup
  obtain rfl := eq_of_perm (hperm.trans h)
  simp only [Recipe.read, Datum.record, List.map_map]
  exact hread

theorem standsFor_toDatum (recipe : Recipe) :
    StandsFor Recipe.read recipe recipe.toDatum := by
  refine ⟨read_of_perm (.refl _), .record ?_⟩
  intro field hfield
  obtain ⟨entry, -, rfl⟩ := List.mem_map.1 hfield
  exact (standsFor_texts entry.2).printable

end Recipe

/-! ## Resources -/

theorem Network.standsFor_toDatum (network : Network) :
    StandsFor Network.read network network.toDatum := by
  have hnamespaces := standsFor_texts network.namespaces
  have hcollect := shape.collect_record .json (by decide)
    [(.of "namespaces" readTexts, ofTexts network.namespaces)] rfl
    (by simp [Field.check_of hnamespaces.reads])
  refine ⟨?_, .record (by simp [hnamespaces.printable])⟩
  simp only [named, List.map_cons, List.map_nil, Field.of] at hcollect
  simp [Network.read, toDatum, hcollect, bind, Except.bind, Fields.required, Fields.value?,
    hnamespaces.reads, pure, Except.pure]

theorem Cgroup.standsFor_toDatum? {cgroup : Cgroup} {d : Datum} (h : cgroup.toDatum? = some d) :
    StandsFor Cgroup.read cgroup d := by
  simp only [toDatum?, Option.bind_eq_bind, Option.bind_eq_some_iff, Option.pure_def,
    Option.some.injEq] at h
  obtain ⟨path, hof, rfl⟩ := h
  have hpath := standsFor_path hof
  have hcollect := shape.collect_record .json (by decide) [(.of "path" readPath, path)] rfl
    (by simp [Field.check_of hpath.reads])
  refine ⟨?_, .record (by simp [hpath.printable])⟩
  simp only [named, List.map_cons, List.map_nil, Field.of] at hcollect
  simp [Cgroup.read, hcollect, bind, Except.bind, Fields.required, Fields.value?, hpath.reads,
    pure, Except.pure]

/-- A path that may be absent. -/
theorem standsFor_ofPath? {p? : Option Path} {d : Datum} (h : ofOption? ofPath? p? = some d) :
    StandsFor (readOptional readPath) p? d := by
  refine standsFor_ofOption? ?_ h
  intro p d hof
  refine ⟨standsFor_path hof, ?_⟩
  rintro rfl
  obtain ⟨s, -, hs⟩ := Option.map_eq_some_iff.1 hof
  cases hs

theorem Bind.standsFor_toDatum? {bind : Bind} {d : Datum} (h : bind.toDatum? = some d) :
    StandsFor Bind.read bind d := by
  simp only [toDatum?, Option.bind_eq_bind, Option.bind_eq_some_iff, Option.pure_def,
    Option.some.injEq] at h
  obtain ⟨source, hsourceOf, target, htargetOf, rfl⟩ := h
  have hsource := standsFor_path hsourceOf
  have htarget := standsFor_ofPath? htargetOf
  have hcollect := shape.collect_record .json (by decide) [
    (.of "source" readPath, source),
    (.of "target" (readOptional readPath) .defaulted, target)] rfl
    (by simp [Field.check_of hsource.reads, Field.check_of htarget.reads])
  refine ⟨?_, .record (by simp [hsource.printable, htarget.printable])⟩
  simp only [named, List.map_cons, List.map_nil, Field.of] at hcollect
  simp [Bind.read, hcollect, Bind.bind, Except.bind, Fields.required, Fields.optional,
    Fields.withDefault, Fields.value?, List.lookup_cons, hsource.reads, htarget.reads, pure,
    Except.pure]

theorem Layout.standsFor_toDatum? {layout : Layout} {d : Datum} (h : layout.toDatum? = some d) :
    StandsFor Layout.read layout d := by
  simp only [toDatum?, Option.bind_eq_bind, Option.bind_eq_some_iff, Option.pure_def,
    Option.some.injEq] at h
  obtain ⟨session, hsessionOf, final, hfinalOf, rfl⟩ := h
  have hsession := standsFor_path hsessionOf
  have hfinal := standsFor_path hfinalOf
  have hcollect := shape.collect_record .json (by decide) [
    (.of "session_dir" readPath, session), (.of "final_dir" readPath, final)] rfl
    (by simp [Field.check_of hsession.reads, Field.check_of hfinal.reads])
  refine ⟨?_, .record (by simp [hsession.printable, hfinal.printable])⟩
  simp only [named, List.map_cons, List.map_nil, Field.of] at hcollect
  simp [Layout.read, hcollect, bind, Except.bind, Fields.required, Fields.value?,
    List.lookup_cons, hsession.reads, hfinal.reads, pure, Except.pure]

/-! ## Configurations -/

/-- The value of a configuration stands for it, whatever is in force where a description says
nothing. -/
theorem Config.standsFor_toDatum? (default : Config) {config : Config} {d : Datum}
    (h : config.toDatum? = some d) : StandsFor (Config.read default) config d := by
  simp only [toDatum?, Option.bind_eq_bind, Option.bind_eq_some_iff, Option.pure_def,
    Option.some.injEq] at h
  obtain ⟨rootfs, hrootfsOf, image, himageOf, network, hnetworkOf, cgroup, hcgroupOf, device,
    hdeviceOf, binds, hbindsOf, layout, hlayoutOf, rfl⟩ := h
  have hrootfs := standsFor_path hrootfsOf
  have himage := standsFor_path himageOf
  have hrecipe := config.recipe.standsFor_toDatum
  have hnetwork : StandsFor (readOptional Network.read) config.network? network := by
    refine standsFor_ofOption? ?_ hnetworkOf
    intro network d hd
    obtain rfl : network.toDatum = d := Option.some.inj hd
    exact ⟨network.standsFor_toDatum, by rintro ⟨⟩⟩
  have hcgroup : StandsFor (readOptional Cgroup.read) config.cgroup? cgroup := by
    refine standsFor_ofOption? ?_ hcgroupOf
    intro cgroup d hd
    refine ⟨Cgroup.standsFor_toDatum? hd, ?_⟩
    rintro rfl
    obtain ⟨path, -, hnull⟩ := Option.bind_eq_some_iff.1 hd
    cases hnull
  have hdevice := standsFor_ofPath? hdeviceOf
  have hdelete := standsFor_bool config.deleteImage
  have hrecord := standsFor_bool config.hasRecord
  have hfakeroot := standsFor_bool config.fakeroot
  have htmp := standsFor_bool config.mountTmp
  have hcontain := standsFor_bool config.contain
  have hbinds := standsFor_mapM (fun _ _ => Bind.standsFor_toDatum?) hbindsOf
  have hlayout := Layout.standsFor_toDatum? hlayoutOf
  have hcollect := shape.collect_record .json (by decide) [
    (.of "rootfs" readPath .defaulted, rootfs),
    (.of "image" readPath .defaulted, image),
    (.of "recipe" Recipe.read .defaulted, config.recipe.toDatum),
    (.of "network" (readOptional Network.read) .defaulted, network),
    (.of "cgroup" (readOptional Cgroup.read) .defaulted, cgroup),
    (.of "crypt_dev" (readOptional readPath) .defaulted, device),
    (.of "delete_image" readBool .defaulted, .bool config.deleteImage),
    (.of "instance" readBool .defaulted, .bool config.hasRecord),
    (.of "fakeroot" readBool .defaulted, .bool config.fakeroot),
    (.of "mount_tmp" readBool .defaulted, .bool config.mountTmp),
    (.of "contain" readBool .defaulted, .bool config.contain),
    (.of "binds" (readSequence Bind.read) .defaulted, .sequence binds),
    (.of "layout" Layout.read .defaulted, layout)] rfl
    (by simp [Field.check_of hrootfs.reads, Field.check_of himage.reads,
      Field.check_of hrecipe.reads, Field.check_of hnetwork.reads, Field.check_of hcgroup.reads,
      Field.check_of hdevice.reads, Field.check_of hdelete.reads, Field.check_of hrecord.reads,
      Field.check_of hfakeroot.reads, Field.check_of htmp.reads, Field.check_of hcontain.reads,
      Field.check_of hbinds.reads, Field.check_of hlayout.reads])
  refine ⟨?_, .record (by simp [hrootfs.printable, himage.printable, hrecipe.printable,
    hnetwork.printable, hcgroup.printable, hdevice.printable, hdelete.printable,
    hrecord.printable, hfakeroot.printable, htmp.printable, hcontain.printable,
    hbinds.printable, hlayout.printable])⟩
  simp only [named, List.map_cons, List.map_nil, Field.of] at hcollect
  simp [Config.read, hcollect, bind, Except.bind, Fields.withDefault, Fields.value?,
    List.lookup_cons, hrootfs.reads, himage.reads, hrecipe.reads, hnetwork.reads, hcgroup.reads,
    hdevice.reads, hdelete.reads, hrecord.reads, hfakeroot.reads, htmp.reads, hcontain.reads,
    hbinds.reads, hlayout.reads, pure, Except.pure]

/-! ## Descriptions -/

/-- The value of a description stands for it, whatever is in force where a description says
nothing. -/
theorem Description.standsFor_toDatum? (default : Config) {description : Description} {d : Datum}
    (h : description.toDatum? = some d) : StandsFor (Description.read default) description d := by
  simp only [toDatum?, Option.bind_eq_bind, Option.bind_eq_some_iff, Option.pure_def,
    Option.some.injEq] at h
  obtain ⟨engine, hengineOf, rfl⟩ := h
  have hidentity := description.identity.standsFor_toDatum
  have hconfig := Config.standsFor_toDatum? default hengineOf
  have hcollect := (shape default).collect_record .json (by simp [Shape.names, shape, Field.of]) [
    (.of "common" Identity.read, description.identity.toDatum),
    (.of "engine" (Config.read default) .defaulted, engine)] rfl
    (by simp [Field.check_of hidentity.reads, Field.check_of hconfig.reads])
  refine ⟨?_, .record (by simp [hidentity.printable, hconfig.printable])⟩
  simp only [named, List.map_cons, List.map_nil, Field.of] at hcollect
  simp [Description.read, hcollect, bind, Except.bind, Fields.required, Fields.withDefault,
    Fields.value?, List.lookup_cons, hidentity.reads, hconfig.reads, pure, Except.pure]

/-! ## Which descriptions have a value -/

/-- The paths of a configuration. -/
def Config.paths (config : Config) : List Path :=
  [config.rootfs, config.image, config.layout.sessionDir, config.layout.finalDir] ++
    (config.cgroup?.map (·.path)).toList ++ config.cryptDevice?.toList ++
    config.binds.flatMap fun bind => bind.source :: bind.target?.toList

/-- A path has a value exactly if it is text. -/
theorem Path.exists_ofPath?_iff (p : Path) : (∃ d, ofPath? p = some d) ↔ p.IsText := by
  constructor
  · rintro ⟨d, hd⟩
    obtain ⟨s, hs, -⟩ := Option.map_eq_some_iff.1 hd
    exact ⟨s, (Utf8.bytes_of_text? hs).symm⟩
  · rintro ⟨s, hs⟩
    refine ⟨.text s, Option.map_eq_some_iff.2 ⟨s, ?_, rfl⟩⟩
    exact Utf8.text?_eq_some_iff.2 hs.symm

/-- What may be absent has a value unless it is there and has none. -/
theorem Datum.exists_ofOption?_iff {α : Type} (value? : α → Option Datum) (o : Option α) :
    (∃ d, ofOption? value? o = some d) ↔ ∀ a ∈ o, ∃ d, value? a = some d := by
  cases o with
  | none => simp [ofOption?]
  | some a => simp [ofOption?]

theorem Cgroup.exists_toDatum?_iff (cgroup : Cgroup) :
    (∃ d, cgroup.toDatum? = some d) ↔ cgroup.path.IsText := by
  rw [← Path.exists_ofPath?_iff]
  simp [toDatum?, Option.bind_eq_some_iff]

theorem Bind.exists_toDatum?_iff (bind : Bind) :
    (∃ d, bind.toDatum? = some d) ↔ bind.source.IsText ∧ ∀ p ∈ bind.target?, p.IsText := by
  have htarget : (∃ d, ofOption? ofPath? bind.target? = some d) ↔ ∀ p ∈ bind.target?, p.IsText := by
    rw [Datum.exists_ofOption?_iff]
    simp only [Path.exists_ofPath?_iff]
  rw [← Path.exists_ofPath?_iff, ← htarget]
  simp [toDatum?, Option.bind_eq_some_iff]

theorem Layout.exists_toDatum?_iff (layout : Layout) :
    (∃ d, layout.toDatum? = some d) ↔ layout.sessionDir.IsText ∧ layout.finalDir.IsText := by
  rw [← Path.exists_ofPath?_iff, ← Path.exists_ofPath?_iff]
  simp [toDatum?, Option.bind_eq_some_iff]

/-- Items all have values exactly if each has one. -/
theorem Datum.exists_mapM_iff {α : Type} (value? : α → Option Datum) (as : List α) :
    (∃ ds, as.mapM value? = some ds) ↔ ∀ a ∈ as, ∃ d, value? a = some d := by
  induction as with
  | nil => simp
  | cons a as ih => simp [Option.bind_eq_some_iff, ← ih]

/-- A configuration has a value exactly if all its paths are text. -/
theorem Config.exists_toDatum?_iff (config : Config) :
    (∃ d, config.toDatum? = some d) ↔ ∀ p ∈ config.paths, p.IsText := by
  have hnetwork :
      ∃ d, ofOption? (fun network => some network.toDatum) config.network? = some d := by
    cases config.network? <;> simp [ofOption?]
  have hparts : (∃ d, config.toDatum? = some d) ↔
      (∃ d, ofPath? config.rootfs = some d) ∧ (∃ d, ofPath? config.image = some d) ∧
        (∃ d, ofOption? Cgroup.toDatum? config.cgroup? = some d) ∧
        (∃ d, ofOption? ofPath? config.cryptDevice? = some d) ∧
        (∃ ds, config.binds.mapM Bind.toDatum? = some ds) ∧
        ∃ d, config.layout.toDatum? = some d := by
    simp [toDatum?, Option.bind_eq_some_iff, hnetwork]
  rw [hparts, Datum.exists_ofOption?_iff, Datum.exists_ofOption?_iff, Datum.exists_mapM_iff,
    Layout.exists_toDatum?_iff]
  simp only [Path.exists_ofPath?_iff, Cgroup.exists_toDatum?_iff, Bind.exists_toDatum?_iff]
  constructor
  · rintro ⟨hrootfs, himage, hcgroup, hdevice, hbinds, hsession, hfinal⟩ p hp
    simp only [paths, List.mem_append, List.mem_cons, List.not_mem_nil, or_false,
      Option.mem_toList, List.mem_flatMap] at hp
    rcases hp with ((hp | hp) | hp) | ⟨bind, hbind, hp⟩
    · rcases hp with rfl | rfl | rfl | rfl
      · exact hrootfs
      · exact himage
      · exact hsession
      · exact hfinal
    · obtain ⟨cgroup, hmem, rfl⟩ := Option.map_eq_some_iff.1 hp
      exact hcgroup cgroup hmem
    · exact hdevice p hp
    · rcases hp with rfl | hp
      · exact (hbinds bind hbind).1
      · exact (hbinds bind hbind).2 p hp
  · intro h
    refine ⟨h _ (by simp [paths]), h _ (by simp [paths]), ?_, ?_, ?_, h _ (by simp [paths]),
      h _ (by simp [paths])⟩
    · intro cgroup hcgroup
      have hcgroup : config.cgroup? = some cgroup := hcgroup
      exact h _ (by simp [paths, hcgroup])
    · intro p hp
      have hp : config.cryptDevice? = some p := hp
      exact h _ (by simp [paths, hp])
    · intro bind hbind
      refine ⟨h _ ?_, fun p hp => h p ?_⟩
      · exact List.mem_append_right _ (List.mem_flatMap.2 ⟨bind, hbind, by simp⟩)
      · have hp : bind.target? = some p := hp
        exact List.mem_append_right _ (List.mem_flatMap.2 ⟨bind, hbind, by simp [hp]⟩)

namespace Description

/-- A description has a value exactly if all paths of its configuration are text. -/
theorem exists_toDatum?_iff (description : Description) :
    (∃ d, description.toDatum? = some d) ↔ ∀ p ∈ description.config.paths, p.IsText := by
  rw [← Config.exists_toDatum?_iff]
  simp [toDatum?, Option.bind_eq_some_iff]

/-! ## The document of a description -/

/-- What loading the document of a description comes to: the description itself, unless it lacks
its container or else its engine. -/
def loaded (description : Description) : Except Stop Description :=
  if description.identity.containerId = "" then
    .error (.failed (.config (.lacking .noContainerId)))
  else if description.identity.engineName = "" then
    .error (.failed (.config (.lacking .noEngineName)))
  else .ok description

/-- A document that is read as a description is loaded as that description. -/
theorem load_eq_loaded {σ : Type} {sys : System σ} {env : Environment} {path : Path}
    {content : Bytes} {s s' : σ} {description : Description}
    (hread : Json.parse (Description.read (.default env)) content = .ok description)
    (hfile : sys.readFile path s = (.ok content, s')) :
    load sys env path s = (description.loaded, s') := by
  by_cases hid : description.identity.containerId = ""
  · have hfault : description.fault? = some .noContainerId := by simp [fault?, hid]
    simp [load, hfile, parse, hread, hfault, loaded, hid]
  · by_cases hname : description.identity.engineName = ""
    · have hfault : description.fault? = some .noEngineName := by simp [fault?, hid, hname]
      simp [load, hfile, parse, hread, hfault, loaded, hid, hname]
    · have hfault : description.fault? = none := by simp [fault?, hid, hname]
      simp [load, hfile, parse, hread, hfault, loaded, hid, hname]

/-- **A description is read back from its document.** It has one exactly if all its paths are
text, be it on one line or spread over lines. From that document it is read back in every
environment, so what is read has the same document again; and loading a file with that document
comes to the same description unless the description lacks its container or its engine.

**Proof sketch.** The value of the description has a JSON form, so the text is read as that value
(`Json.parse_compact`, `Json.parse_pretty`), and the value stands for the description whatever
is in force where it says nothing (`Description.standsFor_toDatum?`). -/
theorem document_roundTrip (description : Description) :
    ((∃ d, description.toDatum? = some d) ↔ ∀ p ∈ description.config.paths, p.IsText) ∧
      ∀ d, description.toDatum? = some d → ∀ text ∈ [Json.compact d, Json.pretty d],
        ∀ env : Environment,
          Json.parse (Description.read (.default env)) (Utf8.bytes text) = .ok description ∧
            ∀ (σ : Type) (sys : System σ) (path : Path) (s s' : σ),
              sys.readFile path s = (.ok (Utf8.bytes text), s') →
                load sys env path s = (description.loaded, s') := by
  refine ⟨description.exists_toDatum?_iff, ?_⟩
  intro d hd text htext env
  obtain ⟨hreads, hprintable⟩ := standsFor_toDatum? (.default env) hd
  have hread : Json.parse (Description.read (.default env)) (Utf8.bytes text) =
      .ok description := by
    rcases List.mem_pair.1 htext with rfl | rfl
    · rw [Json.parse_compact hprintable, hreads]
      rfl
    · rw [Json.parse_pretty hprintable, hreads]
      rfl
  refine ⟨hread, ?_⟩
  intro σ sys path s s' hfile
  exact load_eq_loaded hread hfile

/-- A description with a bound path, a script with every kind of escape and a network. -/
def busy : Description where
  identity := ⟨"c1", "shroud", ⟨["/bin/sh"], ["NAME=\"a\\b\""]⟩⟩
  config := {
    rootfs := "/srv/root"
    image := "/srv/image"
    recipe := Recipe.empty.push "pre" "printf 'é\t\u0001\n'"
    network? := some ⟨["inner"]⟩
    cgroup? := none
    cryptDevice? := some "/dev/mapper/c1"
    deleteImage := true
    hasRecord := false
    fakeroot := false
    mountTmp := true
    contain := false
    binds := [⟨"/srv/data", some "/data"⟩, ⟨"/etc/hosts", none⟩]
    layout := ⟨"/run/session", "/run/final"⟩ }

/-- The document of such a description is loaded as that description. -/
theorem document_roundTrip_busy :
    ∃ d, busy.toDatum? = some d ∧ Json.pretty d ∈ [Json.compact d, Json.pretty d] ∧
      load { System.willing with readFile := fun _ _ => (.ok (Utf8.bytes (Json.pretty d)), ()) }
        .empty "/srv/c1.json" () = (.ok busy, ()) := by
  have hpaths : ∀ p ∈ busy.config.paths, p.IsText := by
    intro p hp
    simp only [Config.paths, busy, Option.map_none, Option.toList_none, Option.toList_some,
      List.flatMap_cons, List.flatMap_nil, List.append_nil, List.cons_append, List.nil_append,
      List.mem_cons, List.not_mem_nil, or_false] at hp
    rcases hp with rfl | rfl | rfl | rfl | rfl | rfl | rfl | rfl <;> exact Path.isText_ofText _
  obtain ⟨d, hd⟩ := (document_roundTrip busy).1.2 hpaths
  have hmem : Json.pretty d ∈ [Json.compact d, Json.pretty d] := by simp
  exact ⟨d, hd, hmem, ((document_roundTrip busy).2 d hd (Json.pretty d) hmem .empty).2 Unit
    { System.willing with readFile := fun _ _ => (.ok (Utf8.bytes (Json.pretty d)), ()) }
    "/srv/c1.json" () () rfl⟩

end Description
end Container
