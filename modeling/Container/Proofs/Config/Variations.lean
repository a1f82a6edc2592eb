import Container.Proofs.Config.RoundTrip
import Container.Proofs.Datum.Variations
import Container.Proofs.Json.Grammar

set_option autoImplicit false

/-!
# Descriptions up to order, omission and extension

The document of a description may give the members of its records in any order, may have others
that nobody knows, and need not say of the configuration what is in force anyway. It is loaded as
the description all the same.
-/

namespace Container

open Datum

/-! ## Scalars -/

/-- The value is that of the path. -/
def Path.Documents (p : Path) (d : Datum) : Prop := ofPath? p = some d

theorem Path.faithful : Faithful Path.Documents readPath :=
  fun _ _ h _ => readPath_of_ofPath? h

/-- What has only one value is documented by that value. -/
theorem Datum.faithful_eq {α : Type} {value : α → Datum} {read : Datum → Reading α}
    (h : ∀ a, read (value a) = .ok a) : Faithful (fun a d => d = value a) read := by
  rintro a _ rfl _
  exact h a

theorem Datum.faithful_text : Faithful (fun s d => d = .text s) readText :=
  faithful_eq fun _ => rfl

theorem Datum.faithful_bool : Faithful (fun b d => d = .bool b) readBool :=
  faithful_eq fun _ => rfl

theorem Datum.faithful_texts : Faithful (fun texts d => d = ofTexts texts) readTexts :=
  faithful_eq fun texts => (standsFor_texts texts).reads

/-! ## Programs and identities -/

/-- The members of the record of a program. -/
def Program.members (program : Program) : List Member :=
  [.of "args" (fun texts d => d = ofTexts texts) program.arguments,
    .of "env" (fun texts d => d = ofTexts texts) program.environment]

/-- The value is a document of the program. -/
def Program.Documents (program : Program) (d : Datum) : Prop := Comprises program.members d

theorem Program.faithful : Faithful Program.Documents Program.read := by
  intro program d h hfault
  obtain ⟨found, hcollect, hfound⟩ := exists_collect_of_comprises shape h hfault
    (.cons (Field.takes_of faithful_texts _ _ _) (.cons (Field.takes_of faithful_texts _ _ _) .nil))
    .json
  simp only [members, List.forall_mem_cons] at hfound
  obtain ⟨harguments, henvironment, -⟩ := hfound
  simp only [Program.read, hcollect, bind, Except.bind, harguments.required faithful_texts,
    henvironment.required faithful_texts]
  rfl

/-- The members of the record of an identity. -/
def Identity.members (identity : Identity) : List Member :=
  [.of "container_id" (fun s d => d = .text s) identity.containerId,
    .of "engine_name" (fun s d => d = .text s) identity.engineName,
    .of "process" Program.Documents identity.program]

/-- The value is a document of the identity. -/
def Identity.Documents (identity : Identity) (d : Datum) : Prop := Comprises identity.members d

theorem Identity.faithful : Faithful Identity.Documents Identity.read := by
  intro identity d h hfault
  obtain ⟨found, hcollect, hfound⟩ := exists_collect_of_comprises shape h hfault
    (.cons (Field.takes_of faithful_text _ _ _) (.cons (Field.takes_of faithful_text _ _ _)
      (.cons (Field.takes_of Program.faithful _ _ _) .nil))) .json
  simp only [members, List.forall_mem_cons] at hfound
  obtain ⟨hid, hname, hprogram, -⟩ := hfound
  simp only [Identity.read, hcollect, bind, Except.bind, hid.required faithful_text,
    hname.required faithful_text, hprogram.required Program.faithful]
  rfl

/-! ## Resources -/

/-- The value is a document of the recipe: its phases, in any order. -/
def Recipe.Documents (recipe : Recipe) (d : Datum) : Prop :=
  ∃ phases, List.Perm phases recipe.phases ∧
    d = .record (phases.map fun (phase, scripts) => (phase, ofTexts scripts))

theorem Recipe.faithful : Faithful Recipe.Documents Recipe.read := by
  rintro recipe _ ⟨phases, hperm, rfl⟩ _
  exact read_of_perm hperm

/-- What documents something by its members is not null. -/
theorem Datum.readOptional_comprises {α : Type} {members : List Member} {d : Datum}
    (h : Comprises members d) (read : Datum → Reading α) :
    readOptional read d = some <$> read d := by
  obtain ⟨entries, rfl, -⟩ := h
  rfl

/-- The members of the record of a network. -/
def Network.members (network : Network) : List Member :=
  [.of "namespaces" (fun texts d => d = ofTexts texts) network.namespaces]

/-- The value is a document of the network. -/
def Network.Documents (network : Network) (d : Datum) : Prop := Comprises network.members d

theorem Network.faithful : Faithful Network.Documents Network.read := by
  intro network d h hfault
  obtain ⟨found, hcollect, hfound⟩ := exists_collect_of_comprises shape h hfault
    (.cons (Field.takes_of faithful_texts _ _ _) .nil) .json
  simp only [members, List.forall_mem_cons] at hfound
  obtain ⟨hnamespaces, -⟩ := hfound
  simp only [Network.read, hcollect, bind, Except.bind, hnamespaces.required faithful_texts]
  rfl

/-- The members of the record of a control group. -/
def Cgroup.members (cgroup : Cgroup) : List Member := [.of "path" Path.Documents cgroup.path]

/-- The value is a document of the control group. -/
def Cgroup.Documents (cgroup : Cgroup) (d : Datum) : Prop := Comprises cgroup.members d

theorem Cgroup.faithful : Faithful Cgroup.Documents Cgroup.read := by
  intro cgroup d h hfault
  obtain ⟨found, hcollect, hfound⟩ := exists_collect_of_comprises shape h hfault
    (.cons (Field.takes_of Path.faithful _ _ _) .nil) .json
  simp only [members, List.forall_mem_cons] at hfound
  obtain ⟨hpath, -⟩ := hfound
  simp only [Cgroup.read, hcollect, bind, Except.bind, hpath.required Path.faithful]
  rfl

/-- A path that is there has a value that is not null. -/
theorem Path.faithful_option :
    Faithful (DocumentsOption Path.Documents) (readOptional readPath) := by
  refine Path.faithful.option fun p d h => ?_
  obtain ⟨s, -, rfl⟩ := Option.map_eq_some_iff.mp h
  rfl

/-- The members of the record of a bound path. Where it is seen need not be said if it is seen
where it is. -/
def Bind.members (bind : Bind) : List Member :=
  [.of "source" Path.Documents bind.source,
    .unless "target" none (DocumentsOption Path.Documents) bind.target?]

/-- The value is a document of the bound path. -/
def Bind.Documents (bind : Bind) (d : Datum) : Prop := Comprises bind.members d

theorem Bind.faithful : Faithful Bind.Documents Bind.read := by
  intro bind d h hfault
  obtain ⟨found, hcollect, hfound⟩ := exists_collect_of_comprises shape h hfault
    (.cons (Field.takes_of Path.faithful _ _ _)
      (.cons (Field.takes_unless Path.faithful_option _ _ _ _) .nil)) .json
  simp only [members, List.forall_mem_cons] at hfound
  obtain ⟨hsource, htarget, -⟩ := hfound
  simp only [Bind.read, hcollect, Bind.bind, Except.bind, hsource.required Path.faithful,
    Fields.optional, htarget.withDefault Path.faithful_option]
  rfl

/-- The members of the record of a layout. -/
def Layout.members (layout : Layout) : List Member :=
  [.of "session_dir" Path.Documents layout.sessionDir,
    .of "final_dir" Path.Documents layout.finalDir]

/-- The value is a document of the layout. -/
def Layout.Documents (layout : Layout) (d : Datum) : Prop := Comprises layout.members d

theorem Layout.faithful : Faithful Layout.Documents Layout.read := by
  intro layout d h hfault
  obtain ⟨found, hcollect, hfound⟩ := exists_collect_of_comprises shape h hfault
    (.cons (Field.takes_of Path.faithful _ _ _) (.cons (Field.takes_of Path.faithful _ _ _) .nil))
    .json
  simp only [members, List.forall_mem_cons] at hfound
  obtain ⟨hsession, hfinal, -⟩ := hfound
  simp only [Layout.read, hcollect, bind, Except.bind, hsession.required Path.faithful,
    hfinal.required Path.faithful]
  rfl

/-! ## Configurations -/

/-- The members of the record of a configuration. What is as in `default` need not be said. -/
def Config.members (config default : Config) : List Member :=
  [.unless "rootfs" default.rootfs Path.Documents config.rootfs,
    .unless "image" default.image Path.Documents config.image,
    .unless "recipe" default.recipe Recipe.Documents config.recipe,
    .unless "network" default.network? (DocumentsOption Network.Documents) config.network?,
    .unless "cgroup" default.cgroup? (DocumentsOption Cgroup.Documents) config.cgroup?,
    .unless "crypt_dev" default.cryptDevice? (DocumentsOption Path.Documents)
      config.cryptDevice?,
    .unless "delete_image" default.deleteImage (fun b d => d = .bool b) config.deleteImage,
    .unless "instance" default.hasRecord (fun b d => d = .bool b) config.hasRecord,
    .unless "fakeroot" default.fakeroot (fun b d => d = .bool b) config.fakeroot,
    .unless "mount_tmp" default.mountTmp (fun b d => d = .bool b) config.mountTmp,
    .unless "contain" default.contain (fun b d => d = .bool b) config.contain,
    .unless "binds" default.binds (DocumentsList Bind.Documents) config.binds,
    .unless "layout" default.layout Layout.Documents config.layout]

/-- The value is a document of the configuration. -/
def Config.Documents (config default : Config) (d : Datum) : Prop :=
  Comprises (config.members default) d

theorem Config.faithful (default : Config) :
    Faithful (fun config => config.Documents default) (Config.read default) := by
  intro config d h hfault
  have hnetworks : Faithful (DocumentsOption Network.Documents) (readOptional Network.read) :=
    Network.faithful.option fun _ _ h => readOptional_comprises h _
  have hcgroups : Faithful (DocumentsOption Cgroup.Documents) (readOptional Cgroup.read) :=
    Cgroup.faithful.option fun _ _ h => readOptional_comprises h _
  have hlists := Bind.faithful.list
  obtain ⟨found, hcollect, hfound⟩ := exists_collect_of_comprises shape h hfault
    (.cons (Field.takes_unless Path.faithful _ _ _ _)
      (.cons (Field.takes_unless Path.faithful _ _ _ _)
      (.cons (Field.takes_unless Recipe.faithful _ _ _ _)
      (.cons (Field.takes_unless hnetworks _ _ _ _)
      (.cons (Field.takes_unless hcgroups _ _ _ _)
      (.cons (Field.takes_unless Path.faithful_option _ _ _ _)
      (.cons (Field.takes_unless faithful_bool _ _ _ _)
      (.cons (Field.takes_unless faithful_bool _ _ _ _)
      (.cons (Field.takes_unless faithful_bool _ _ _ _)
      (.cons (Field.takes_unless faithful_bool _ _ _ _)
      (.cons (Field.takes_unless faithful_bool _ _ _ _)
      (.cons (Field.takes_unless hlists _ _ _ _)
      (.cons (Field.takes_unless Layout.faithful _ _ _ _) .nil))))))))))))) .json
  simp only [members, List.forall_mem_cons] at hfound
  obtain ⟨hrootfs, himage, hrecipe, hnetwork, hcgroup, hdevice, hdelete, hrecord, hfakeroot, htmp,
    hcontain, hbinds, hlayout, -⟩ := hfound
  simp only [Config.read, hcollect, bind, Except.bind, hrootfs.withDefault Path.faithful,
    himage.withDefault Path.faithful, hrecipe.withDefault Recipe.faithful,
    hnetwork.withDefault hnetworks, hcgroup.withDefault hcgroups,
    hdevice.withDefault Path.faithful_option, hdelete.withDefault faithful_bool,
    hrecord.withDefault faithful_bool, hfakeroot.withDefault faithful_bool,
    htmp.withDefault faithful_bool, hcontain.withDefault faithful_bool,
    hbinds.withDefault hlists, hlayout.withDefault Layout.faithful]
  rfl

/-! ## Descriptions -/

namespace Description

/-- The members of the record of a description. A configuration that is `default` throughout need
not be given. -/
def members (description : Description) (default : Config) : List Member :=
  [.of "common" Identity.Documents description.identity,
    .unless "engine" default (fun config => config.Documents default) description.config]

/-- The value is a document of the description. -/
def Documents (description : Description) (default : Config) (d : Datum) : Prop :=
  Comprises (description.members default) d

theorem faithful (default : Config) :
    Faithful (fun description => description.Documents default) (Description.read default) := by
  intro description d h hfault
  obtain ⟨found, hcollect, hfound⟩ := exists_collect_of_comprises (shape default) h hfault
    (.cons (Field.takes_of Identity.faithful _ _ _)
      (.cons (Field.takes_unless (Config.faithful default) _ _ _ _) .nil)) .json
  simp only [members, List.forall_mem_cons] at hfound
  obtain ⟨hidentity, hconfig, -⟩ := hfound
  simp only [Description.read, hcollect, bind, Except.bind, hidentity.required Identity.faithful,
    hconfig.withDefault (Config.faithful default)]
  rfl

end Description

/-! ## The value of a description is one of its documents -/

namespace Datum

variable {α : Type} {value? : α → Option Datum} {documents : α → Datum → Prop}

theorem documentsOption_of (hpart : ∀ a d, value? a = some d → documents a d) {o : Option α}
    {d : Datum} (h : ofOption? value? o = some d) : DocumentsOption documents o d := by
  cases o with
  | none => exact (Option.some.inj h).symm
  | some a => exact hpart a d h

theorem documentsList_of (hitem : ∀ a d, value? a = some d → documents a d) {as : List α}
    {ds : List Datum} (h : as.mapM value? = some ds) :
    DocumentsList documents as (.sequence ds) := by
  refine ⟨ds, rfl, ?_⟩
  induction as generalizing ds with
  | nil =>
    obtain rfl : [] = ds := by simpa using h
    exact .nil
  | cons a as ih =>
    simp only [List.mapM_cons, Option.bind_eq_bind, Option.bind_eq_some_iff, Option.pure_def,
      Option.some.injEq] at h
    obtain ⟨d, hd, rest, hrest, rfl⟩ := h
    exact .cons (hitem a d hd) (ih hrest)

end Datum

theorem Program.documents_toDatum (program : Program) : program.Documents program.toDatum :=
  comprises_record (by simp [members, Member.of]) (.cons ⟨rfl, rfl⟩ (.cons ⟨rfl, rfl⟩ .nil))

theorem Identity.documents_toDatum (identity : Identity) : identity.Documents identity.toDatum :=
  comprises_record (by simp [members, Member.of]) (.cons ⟨rfl, rfl⟩ (.cons ⟨rfl, rfl⟩
    (.cons ⟨rfl, identity.program.documents_toDatum⟩ .nil)))

theorem Recipe.documents_toDatum (recipe : Recipe) : recipe.Documents recipe.toDatum :=
  ⟨recipe.phases, .refl _, rfl⟩

theorem Network.documents_toDatum (network : Network) : network.Documents network.toDatum :=
  comprises_record (by simp [members, Member.of]) (.cons ⟨rfl, rfl⟩ .nil)

theorem Cgroup.documents_of_toDatum? {cgroup : Cgroup} {d : Datum} (h : cgroup.toDatum? = some d) :
    cgroup.Documents d := by
  simp only [toDatum?, Option.bind_eq_bind, Option.bind_eq_some_iff, Option.pure_def,
    Option.some.injEq] at h
  obtain ⟨path, hpath, rfl⟩ := h
  exact comprises_record (by simp [members, Member.of]) (.cons ⟨rfl, hpath⟩ .nil)

theorem Bind.documents_of_toDatum? {bind : Bind} {d : Datum} (h : bind.toDatum? = some d) :
    bind.Documents d := by
  simp only [toDatum?, Option.bind_eq_bind, Option.bind_eq_some_iff, Option.pure_def,
    Option.some.injEq] at h
  obtain ⟨source, hsource, target, htarget, rfl⟩ := h
  exact comprises_record (by simp [members, Member.of, Member.unless]) (.cons ⟨rfl, hsource⟩
    (.cons ⟨rfl, documentsOption_of (fun _ _ hpath => hpath) htarget⟩ .nil))

theorem Layout.documents_of_toDatum? {layout : Layout} {d : Datum} (h : layout.toDatum? = some d) :
    layout.Documents d := by
  simp only [toDatum?, Option.bind_eq_bind, Option.bind_eq_some_iff, Option.pure_def,
    Option.some.injEq] at h
  obtain ⟨session, hsession, final, hfinal, rfl⟩ := h
  exact comprises_record (by simp [members, Member.of])
    (.cons ⟨rfl, hsession⟩ (.cons ⟨rfl, hfinal⟩ .nil))

/-- The value of a configuration documents it, whatever is in force where it says nothing. -/
theorem Config.documents_of_toDatum? (default : Config) {config : Config} {d : Datum}
    (h : config.toDatum? = some d) : config.Documents default d := by
  simp only [toDatum?, Option.bind_eq_bind, Option.bind_eq_some_iff, Option.pure_def,
    Option.some.injEq] at h
  obtain ⟨rootfs, hrootfs, image, himage, network, hnetwork, cgroup, hcgroup, device, hdevice,
    binds, hbinds, layout, hlayout, rfl⟩ := h
  have hnetworks : DocumentsOption Network.Documents config.network? network :=
    documentsOption_of (fun network d hd => Option.some.inj hd ▸ network.documents_toDatum) hnetwork
  exact comprises_record (by simp [members, Member.unless]) (.cons ⟨rfl, hrootfs⟩
    (.cons ⟨rfl, himage⟩ (.cons ⟨rfl, config.recipe.documents_toDatum⟩ (.cons ⟨rfl, hnetworks⟩
    (.cons ⟨rfl, documentsOption_of (fun _ _ => Cgroup.documents_of_toDatum?) hcgroup⟩
    (.cons ⟨rfl, documentsOption_of (fun _ _ hpath => hpath) hdevice⟩ (.cons ⟨rfl, rfl⟩
    (.cons ⟨rfl, rfl⟩ (.cons ⟨rfl, rfl⟩ (.cons ⟨rfl, rfl⟩ (.cons ⟨rfl, rfl⟩
    (.cons ⟨rfl, documentsList_of (fun _ _ => Bind.documents_of_toDatum?) hbinds⟩
    (.cons ⟨rfl, Layout.documents_of_toDatum? hlayout⟩ .nil)))))))))))))

/-- **The value of a description** documents it, whatever is in force where it says nothing. -/
theorem Description.documents_of_toDatum? (default : Config) {description : Description}
    {d : Datum} (h : description.toDatum? = some d) : description.Documents default d := by
  simp only [toDatum?, Option.bind_eq_bind, Option.bind_eq_some_iff, Option.pure_def,
    Option.some.injEq] at h
  obtain ⟨engine, hengine, rfl⟩ := h
  exact comprises_record (by simp [members, Member.of, Member.unless])
    (.cons ⟨rfl, description.identity.documents_toDatum⟩
      (.cons ⟨rfl, Config.documents_of_toDatum? default hengine⟩ .nil))

end Container
