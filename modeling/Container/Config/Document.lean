import Container.Config.Basic
import Container.Datum.Record

set_option autoImplicit false

/-!
# Descriptions as documents

How a container description and its parts are taken out of a self-describing value, and which
value stands for them. A part with a path that is not text has no value.

## Main definitions

* `Description.read`, `Config.read` and the readers of their parts.
* `Description.toDatum?`, `Config.toDatum?` and the values of their parts.
-/

namespace Container

open Datum

/-- A list of texts. -/
def Datum.readTexts : Datum → Reading (List String) := readSequence readText

/-- The value of a list of texts. -/
def Datum.ofTexts (texts : List String) : Datum := .sequence (texts.map .text)

/-- The value of something that may be absent. -/
def Datum.ofOption? {α : Type} (value? : α → Option Datum) : Option α → Option Datum
  | none => some .null
  | some a => value? a

/-! ## Programs and identities -/

/-- The form of a program. -/
def Program.shape : Shape := ⟨"struct ProcessSpec", [.of "args" readTexts, .of "env" readTexts]⟩

/-- A program. -/
def Program.read (d : Datum) : Reading Program := do
  let found ← Program.shape.collect .json d
  let arguments ← found.required "args" readTexts
  let environment ← found.required "env" readTexts
  return ⟨arguments, environment⟩

/-- The value of a program. -/
def Program.toDatum (program : Program) : Datum :=
  .record [("args", ofTexts program.arguments), ("env", ofTexts program.environment)]

/-- The form of an identity. -/
def Identity.shape : Shape :=
  ⟨"struct CommonConfig",
    [.of "container_id" readText, .of "engine_name" readText, .of "process" Program.read]⟩

/-- An identity. -/
def Identity.read (d : Datum) : Reading Identity := do
  let found ← Identity.shape.collect .json d
  let containerId ← found.required "container_id" readText
  let engineName ← found.required "engine_name" readText
  let program ← found.required "process" Program.read
  return ⟨containerId, engineName, program⟩

/-- The value of an identity. -/
def Identity.toDatum (identity : Identity) : Datum :=
  .record [("container_id", .text identity.containerId), ("engine_name", .text identity.engineName),
    ("process", identity.program.toDatum)]

/-! ## Recipes -/

/-- The phases of a recipe among entries, after those in `recipe`. Of a phase that comes twice
the later one counts. -/
def Recipe.readEntries (recipe : Recipe) : List (Datum × Datum) → Reading Recipe
  | [] => .ok recipe
  | (key, value) :: entries => do
    let phase ← readText key
    let scripts ← readTexts value
    Recipe.readEntries (recipe.set phase scripts) entries

/-- A recipe: a map from phases to scripts. -/
def Recipe.read : Datum → Reading Recipe
  | .map entries => Recipe.readEntries .empty entries
  | d => d.refuse .map

/-- The value of a recipe. -/
def Recipe.toDatum (recipe : Recipe) : Datum :=
  .record (recipe.phases.map fun (phase, scripts) => (phase, ofTexts scripts))

/-! ## Resources -/

/-- The form of a network. -/
def Network.shape : Shape := ⟨"struct NetworkConfig", [.of "namespaces" readTexts]⟩

/-- A network. -/
def Network.read (d : Datum) : Reading Network := do
  let found ← Network.shape.collect .json d
  return ⟨← found.required "namespaces" readTexts⟩

/-- The value of a network. -/
def Network.toDatum (network : Network) : Datum :=
  .record [("namespaces", ofTexts network.namespaces)]

/-- The form of a control group. -/
def Cgroup.shape : Shape := ⟨"struct CgroupConfig", [.of "path" readPath]⟩

/-- A control group. -/
def Cgroup.read (d : Datum) : Reading Cgroup := do
  let found ← Cgroup.shape.collect .json d
  return ⟨← found.required "path" readPath⟩

/-- The value of a control group. -/
def Cgroup.toDatum? (cgroup : Cgroup) : Option Datum := do
  return .record [("path", ← ofPath? cgroup.path)]

/-- The form of a bound path. -/
def Bind.shape : Shape :=
  ⟨"struct BindPath", [.of "source" readPath, .of "target" (readOptional readPath) .defaulted]⟩

/-- A bound path. -/
def Bind.read (d : Datum) : Reading Bind := do
  let found ← Bind.shape.collect .json d
  let source ← found.required "source" readPath
  let target? ← found.optional "target" readPath
  return ⟨source, target?⟩

/-- The value of a bound path. -/
def Bind.toDatum? (bind : Bind) : Option Datum := do
  return .record [("source", ← ofPath? bind.source), ("target", ← ofOption? ofPath? bind.target?)]

/-- The form of a layout. -/
def Layout.shape : Shape :=
  ⟨"struct Layout", [.of "session_dir" readPath, .of "final_dir" readPath]⟩

/-- A layout. -/
def Layout.read (d : Datum) : Reading Layout := do
  let found ← Layout.shape.collect .json d
  let sessionDir ← found.required "session_dir" readPath
  let finalDir ← found.required "final_dir" readPath
  return ⟨sessionDir, finalDir⟩

/-- The value of a layout. -/
def Layout.toDatum? (layout : Layout) : Option Datum := do
  return .record [("session_dir", ← ofPath? layout.sessionDir),
    ("final_dir", ← ofPath? layout.finalDir)]

/-! ## Configurations -/

/-- The form of a configuration. -/
def Config.shape : Shape :=
  ⟨"struct EngineConfig", [
    .of "rootfs" readPath .defaulted,
    .of "image" readPath .defaulted,
    .of "recipe" Recipe.read .defaulted,
    .of "network" (readOptional Network.read) .defaulted,
    .of "cgroup" (readOptional Cgroup.read) .defaulted,
    .of "crypt_dev" (readOptional readPath) .defaulted,
    .of "delete_image" readBool .defaulted,
    .of "instance" readBool .defaulted,
    .of "fakeroot" readBool .defaulted,
    .of "mount_tmp" readBool .defaulted,
    .of "contain" readBool .defaulted,
    .of "binds" (readSequence Bind.read) .defaulted,
    .of "layout" Layout.read .defaulted]⟩

/-- A configuration. Whatever it does not say is as in `default`. -/
def Config.read (default : Config) (d : Datum) : Reading Config := do
  let found ← Config.shape.collect .json d
  let rootfs ← found.withDefault "rootfs" default.rootfs readPath
  let image ← found.withDefault "image" default.image readPath
  let recipe ← found.withDefault "recipe" default.recipe Recipe.read
  let network? ← found.withDefault "network" default.network? (readOptional Network.read)
  let cgroup? ← found.withDefault "cgroup" default.cgroup? (readOptional Cgroup.read)
  let cryptDevice? ← found.withDefault "crypt_dev" default.cryptDevice? (readOptional readPath)
  let deleteImage ← found.withDefault "delete_image" default.deleteImage readBool
  let hasRecord ← found.withDefault "instance" default.hasRecord readBool
  let fakeroot ← found.withDefault "fakeroot" default.fakeroot readBool
  let mountTmp ← found.withDefault "mount_tmp" default.mountTmp readBool
  let contain ← found.withDefault "contain" default.contain readBool
  let binds ← found.withDefault "binds" default.binds (readSequence Bind.read)
  let layout ← found.withDefault "layout" default.layout Layout.read
  return ⟨rootfs, image, recipe, network?, cgroup?, cryptDevice?, deleteImage, hasRecord, fakeroot,
    mountTmp, contain, binds, layout⟩

/-- The value of a configuration. -/
def Config.toDatum? (config : Config) : Option Datum := do
  return .record [
    ("rootfs", ← ofPath? config.rootfs),
    ("image", ← ofPath? config.image),
    ("recipe", config.recipe.toDatum),
    ("network", ← ofOption? (fun network => some network.toDatum) config.network?),
    ("cgroup", ← ofOption? Cgroup.toDatum? config.cgroup?),
    ("crypt_dev", ← ofOption? ofPath? config.cryptDevice?),
    ("delete_image", .bool config.deleteImage),
    ("instance", .bool config.hasRecord),
    ("fakeroot", .bool config.fakeroot),
    ("mount_tmp", .bool config.mountTmp),
    ("contain", .bool config.contain),
    ("binds", .sequence (← config.binds.mapM Bind.toDatum?)),
    ("layout", ← config.layout.toDatum?)]

/-! ## Descriptions -/

/-- The form of a description. -/
def Description.shape (default : Config) : Shape :=
  ⟨"struct ContainerFile",
    [.of "common" Identity.read, .of "engine" (Config.read default) .defaulted]⟩

/-- A description. Whatever it does not say of the configuration is as in `default`. -/
def Description.read (default : Config) (d : Datum) : Reading Description := do
  let found ← (Description.shape default).collect .json d
  let identity ← found.required "common" Identity.read
  let config ← found.withDefault "engine" default (Config.read default)
  return ⟨identity, config⟩

/-- The value of a description. -/
def Description.toDatum? (description : Description) : Option Datum := do
  return .record [("common", description.identity.toDatum),
    ("engine", ← description.config.toDatum?)]

end Container
