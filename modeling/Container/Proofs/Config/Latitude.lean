import Container.Proofs.Config.Variations

set_option autoImplicit false

/-!
# What a document leaves open, and what it does not

The document of a description is loaded as that description whatever the order of its members,
whatever else it has, and whether or not it says what is in force anyway. A record in it that
repeats a known name is refused. And if it gives the layout, it does not matter which directories
the environment names: the layout is all that is taken from there.

## Main definitions

* `Config.Repeats`, `Description.Repeats` — documents in which a known name is repeated.
* `Description.GivesLayout` — documents that say where the root is put together.

## Main results

* `Description.fails_read_of_repeats` — no record repeats a known name.
* `Description.read_congr` — a document with a layout is read alike in every environment.
* `Description.document_variations` — all of it, for the file of a description.
-/

namespace Container

open Datum

/-! ## Repeated names -/

namespace Datum

variable {α : Type} {shape : Shape} {source : Source} {read : Datum → Reading α} {d v : Datum}

/-- A record whose field cannot be read is not collected. -/
theorem Shape.Has.fails_collect {name : String} {absence : Absence} (hhas : shape.Has d name v)
    (hnodup : shape.names.Nodup) (hfield : shape.field? name = some (.of name read absence))
    (h : Fails (read v)) : Fails (shape.collect source d) :=
  Shape.fails_collect_of_has source hnodup hhas hfield (h.map _)

/-- What repeats a name is not null, so it is read as something that is there. -/
theorem Shape.Repeats.fails_readOptional (hrepeats : shape.Repeats v) (h : Fails (read v)) :
    Fails (readOptional read v) := by
  obtain ⟨entries, -, rfl, -, -⟩ := hrepeats
  exact h.map some

/-- A sequence with an item that cannot be read cannot be read. -/
theorem fails_readSequence {items : List Datum} (hmem : v ∈ items) (h : Fails (read v)) :
    Fails (readSequence read (.sequence items)) := by
  show Fails (items.mapM read)
  induction items with
  | nil => cases hmem
  | cons item items ih =>
    rw [List.mapM_cons]
    rcases List.mem_cons.mp hmem with rfl | hmem
    · exact h.bind _
    · exact .after _ fun _ => (ih hmem).bind _

end Datum

/-- Somewhere in the document of an identity a known name is repeated. -/
def Identity.Repeats (d : Datum) : Prop :=
  shape.Repeats d ∨ ∃ v, shape.Has d "process" v ∧ Program.shape.Repeats v

theorem Identity.fails_read_of_repeats {d : Datum} (h : Repeats d) : Fails (read d) := by
  obtain h | ⟨v, hprogram, h⟩ := h
  · exact (Shape.fails_collect_of_repeats .json h).bind _
  · exact (hprogram.fails_collect (by decide) rfl
      ((Shape.fails_collect_of_repeats .json h).bind _)).bind _

/-- Somewhere in the document of a configuration a known name is repeated. -/
def Config.Repeats (d : Datum) : Prop :=
  shape.Repeats d ∨ (∃ v, shape.Has d "network" v ∧ Network.shape.Repeats v) ∨
    (∃ v, shape.Has d "cgroup" v ∧ Cgroup.shape.Repeats v) ∨
    (∃ items, shape.Has d "binds" (.sequence items) ∧ ∃ v ∈ items, Bind.shape.Repeats v) ∨
    ∃ v, shape.Has d "layout" v ∧ Layout.shape.Repeats v

theorem Config.fails_read_of_repeats (default : Config) {d : Datum} (h : Repeats d) :
    Fails (read default d) := by
  refine Fails.bind ?_ _
  obtain h | ⟨v, hnetwork, h⟩ | ⟨v, hcgroup, h⟩ | ⟨items, hbinds, v, hv, h⟩ | ⟨v, hlayout, h⟩ := h
  · exact Shape.fails_collect_of_repeats .json h
  · exact hnetwork.fails_collect (by decide) rfl
      (h.fails_readOptional ((Shape.fails_collect_of_repeats .json h).bind _))
  · exact hcgroup.fails_collect (by decide) rfl
      (h.fails_readOptional ((Shape.fails_collect_of_repeats .json h).bind _))
  · exact hbinds.fails_collect (by decide) rfl
      (fails_readSequence hv ((Shape.fails_collect_of_repeats .json h).bind _))
  · exact hlayout.fails_collect (by decide) rfl ((Shape.fails_collect_of_repeats .json h).bind _)

namespace Description

variable (default : Config) {d : Datum}

theorem nodup_names : (shape default).names.Nodup :=
  show ["common", "engine"].Nodup by decide

/-- Somewhere in the document of a description a known name is repeated. -/
def Repeats (d : Datum) : Prop :=
  (shape default).Repeats d ∨ (∃ v, (shape default).Has d "common" v ∧ Identity.Repeats v) ∨
    ∃ v, (shape default).Has d "engine" v ∧ Config.Repeats v

/-- **No record repeats a known name**, wherever in the document it stands. -/
theorem fails_read_of_repeats (h : Repeats default d) : Fails (read default d) := by
  refine Fails.bind ?_ _
  obtain h | ⟨v, hidentity, h⟩ | ⟨v, hconfig, h⟩ := h
  · exact Shape.fails_collect_of_repeats .json h
  · exact hidentity.fails_collect (nodup_names default) rfl (Identity.fails_read_of_repeats h)
  · exact hconfig.fails_collect (nodup_names default) rfl (Config.fails_read_of_repeats default h)

end Description

/-! ## The environment -/

/-- Readings that go on alike, up to what becomes of their results, agree up to that. -/
theorem Datum.map_bind_congr {α β γ : Type} {f : β → γ} (reading : Reading α)
    {next next' : α → Reading β} (h : ∀ a, f <$> next a = f <$> next' a) :
    f <$> (reading >>= next) = f <$> (reading >>= next') := by
  cases reading with
  | error mismatch => rfl
  | ok a => exact h a

/-- The environment decides on nothing but the layout. -/
theorem Config.read_default_congr {env env' : Environment} {d : Datum}
    (h : ∀ found, shape.collect .json d = .ok found →
      found.withDefault "layout" (.default env) Layout.read =
        found.withDefault "layout" (.default env') Layout.read) :
    Config.read (.default env) d = Config.read (.default env') d := by
  cases hcollect : shape.collect .json d with
  | error mismatch => simp only [Config.read, hcollect, bind, Except.bind]
  | ok found =>
    simp only [Config.read, hcollect, bind, Except.bind, Config.default, h found hcollect]

/-- Whether a configuration can be read is up to its document alone. -/
theorem Config.readable_congr (env env' : Environment) (d : Datum) :
    (fun _ => ()) <$> Config.read (.default env) d =
      (fun _ => ()) <$> Config.read (.default env') d := by
  refine map_bind_congr _ fun found => ?_
  iterate 12 refine map_bind_congr _ fun _ => ?_
  show (fun _ => ()) <$> (found.withDefault "layout" (Layout.default env) Layout.read >>= _) =
    (fun _ => ()) <$> (found.withDefault "layout" (Layout.default env') Layout.read >>= _)
  cases hlayout : found.value? "layout" with
  | none =>
    simp only [Fields.withDefault, hlayout]
    rfl
  | some v => simp only [Fields.withDefault, hlayout]

namespace Description

/-- So is which values a description takes. -/
theorem shape_congr (env env' : Environment) :
    Description.shape (.default env) = Description.shape (.default env') := by
  have hcheck : (Field.of "engine" (Config.read (.default env)) .defaulted) =
      .of "engine" (Config.read (.default env')) .defaulted := by
    rw [Field.of, Field.of, funext (Config.readable_congr env env')]
  rw [shape, shape, hcheck]

/-- The document of the description says where the root is put together. -/
def GivesLayout (default : Config) (d : Datum) : Prop :=
  ∃ engine layout, (shape default).Has d "engine" engine ∧ Config.shape.Has engine "layout" layout

/-- **A document with a layout is read alike in every environment.** -/
theorem read_congr {env : Environment} {d : Datum} (h : GivesLayout (.default env) d)
    (env' : Environment) :
    Description.read (.default env') d = Description.read (.default env) d := by
  obtain ⟨engine, layout, hengine, hlayout⟩ := h
  have hconfig : Config.read (.default env') engine = Config.read (.default env) engine := by
    have hfield : Config.shape.field? "layout" = some (.of "layout" Layout.read .defaulted) := rfl
    refine Config.read_default_congr fun found hcollect => ?_
    obtain ⟨hvalue, -⟩ := Shape.of_collect .json (by decide) hcollect hlayout hfield
    simp only [Fields.withDefault, hvalue]
  have hfield : (shape (.default env)).field? "engine" =
    some (.of "engine" (Config.read (.default env)) .defaulted) := rfl
  rw [Description.read, Description.read, shape_congr env' env]
  cases hcollect : (shape (.default env)).collect .json d with
  | error mismatch => simp only [bind, Except.bind]
  | ok found =>
    obtain ⟨hvalue, -⟩ := Shape.of_collect .json (nodup_names _) hcollect hengine hfield
    simp only [bind, Except.bind, Fields.withDefault, hvalue, hconfig]

/-! ## Files -/

/-- A file in which a known name is repeated is not loaded. -/
theorem fails_load_of_repeats {σ : Type} {sys : System σ} {env : Environment} {path : Path}
    {content : Bytes} {s s' : σ} (hfile : sys.readFile path s = (.ok content, s'))
    (h : Repeats (.default env) (Json.read content).1) :
    ∃ failure, load sys env path s = (.error (.failed failure), s') := by
  obtain ⟨mismatch, hread⟩ := fails_read_of_repeats (.default env) h
  have hparse : Json.parse (read (.default env)) content = .error (Json.Error.of mismatch) := by
    simp only [Json.parse, hread]
  exact ⟨.document (.unreadable (Json.Error.of mismatch)), by simp [load, hfile, parse, hparse]⟩

/-- A file with a layout is loaded alike in every environment. -/
theorem load_congr {σ : Type} {sys : System σ} {env : Environment} {path : Path}
    {content : Bytes} {s s' : σ} (hfile : sys.readFile path s = (.ok content, s'))
    (h : GivesLayout (.default env) (Json.read content).1) (env' : Environment) :
    load sys env' path s = load sys env path s := by
  have hparse : parse env' content = parse env content := by
    simp only [parse, Json.parse, read_congr h env']
  simp [load, hfile, hparse]

/-- **The document of a description** may vary in order, omission and extension.

A description whose paths are text has a document of its own, which is among its documents. Any
file that holds one of its documents is loaded as that description, provided that it lacks neither
its container nor its engine: in whatever order the members of the records and the phases of the
recipe come, whatever members nobody knows are among those of the records, and whatever is left out
of the configuration because it is in force anyway, the layout being that which the environment
names. A file in which a known name is repeated is not loaded. And of a file that says where the
root is put together, whatever else it says, the environment is not asked.

**Proof sketch.** What documents a description is read as it (`Description.faithful`), since every
text that holds a value of the grammar can be passed over (`Json.Holds.fault?`). A repeated name is
refused where it stands, and with it every record around that one
(`Description.fails_read_of_repeats`). The environment decides on the layout alone, and whether a
configuration can be read at all does not depend on the layout in force
(`Config.readable_congr`, `Description.read_congr`). -/
theorem document_variations (env : Environment) :
    (∀ description : Description, (∀ p ∈ description.config.paths, p.IsText) →
      ∃ d, description.toDatum? = some d ∧ description.Documents (.default env) d ∧
        ∀ text ∈ [Json.compact d, Json.pretty d], Json.Holds (Utf8.bytes text) d) ∧
      ∀ (σ : Type) (sys : System σ) (path : Path) (content : Bytes) (s s' : σ),
        sys.readFile path s = (.ok content, s') →
          (∀ (description : Description) (d : Datum), description.identity.containerId ≠ "" →
            description.identity.engineName ≠ "" → description.Documents (.default env) d →
              Json.Holds content d → load sys env path s = (.ok description, s')) ∧
          (Repeats (.default env) (Json.read content).1 →
            ∃ failure, load sys env path s = (.error (.failed failure), s')) ∧
          (GivesLayout (.default env) (Json.read content).1 →
            ∀ env', load sys env' path s = load sys env path s) := by
  refine ⟨fun description hpaths => ?_, fun σ sys path content s s' hfile => ⟨?_,
    fails_load_of_repeats hfile, load_congr hfile⟩⟩
  · obtain ⟨d, hd⟩ := description.exists_toDatum?_iff.mpr hpaths
    have hprintable := (standsFor_toDatum? (.default env) hd).printable
    refine ⟨d, hd, documents_of_toDatum? _ hd, fun text htext => ?_⟩
    rcases List.mem_pair.mp htext with rfl | rfl
    · exact (Json.denotes_compact hprintable).holds
    · exact (Json.denotes_prettyAt hprintable 0).holds
  · intro description d hid hname hdocuments hholds
    have hparse : Json.parse (read (.default env)) content = .ok description := by
      rw [hholds.parse_eq, faithful (.default env) description d hdocuments hholds.fault?]
      rfl
    rw [load_eq_loaded hparse hfile, loaded, if_neg hid, if_neg hname]

/-- An environment that names the directory in which the root is put together. -/
def staged : Environment := Environment.empty.set (Utf8.bytes "SHROUD_SESSION_DIR")
  (Utf8.bytes "/run/session")

/-- A description that mostly keeps to what is in force. -/
def frugal : Description where
  identity := ⟨"c1", "shroud", ⟨["/bin/sh"], []⟩⟩
  config := { Config.default staged with
    mountTmp := true, binds := [⟨"/etc/hosts", none⟩] }

/-- What a document of it says of its program. -/
def asideCommon : Datum :=
  .record [
    ("process", .record [("env", .sequence []), ("args", .sequence [.text "/bin/sh"])]),
    ("engine_name", .text "shroud"),
    ("container_id", .text "c1")]

/-- What a document of it says of its configuration: no more than it has to, and some things that
nobody asks for. -/
def asideEngine : Datum :=
  .record [
    ("binds", .sequence [.record [("why", .null), ("source", .text "/etc/hosts")]]),
    ("colour", .text "red"),
    ("mount_tmp", .bool true)]

/-- A document of it. -/
def aside : Datum :=
  .record [("note", .sequence [.null, .record [("args", .bool true)]]), ("engine", asideEngine),
    ("common", asideCommon)]

/-- A document in which the program is given its environment twice. -/
def stuttering : Datum :=
  .record [("common", .record [
    ("process", .record [("env", .sequence []), ("args", .sequence []), ("env", .sequence [])])])]

/-- A document that says where the root is put together. -/
def settled : Datum :=
  .record [("engine", .record [
    ("layout", .record [("final_dir", .text "/f"), ("session_dir", .text "/s")])])]

theorem frugal_documents : frugal.Documents (.default staged) aside := by
  have hprogram : Program.Documents ⟨["/bin/sh"], []⟩
      (.record [("env", .sequence []), ("args", .sequence [.text "/bin/sh"])]) :=
    ⟨_, rfl, by simp [Program.members, Member.of, Once, ofTexts]⟩
  have hidentity : frugal.identity.Documents asideCommon :=
    ⟨_, rfl, by simpa [Identity.members, frugal, Member.of, Once] using hprogram⟩
  have hbind : Bind.Documents ⟨"/etc/hosts", none⟩
      (.record [("why", .null), ("source", .text "/etc/hosts")]) :=
    ⟨_, rfl, by simp [Bind.members, Member.of, Member.unless, Once]; rfl⟩
  have hbinds : DocumentsList Bind.Documents [⟨"/etc/hosts", none⟩]
      (.sequence [.record [("why", .null), ("source", .text "/etc/hosts")]]) :=
    ⟨_, rfl, .cons hbind .nil⟩
  have hconfig : frugal.config.Documents (.default staged) asideEngine :=
    ⟨_, rfl, by simpa [Config.members, frugal, Member.unless, Once] using hbinds⟩
  exact ⟨_, rfl, by simpa [members, Member.of, Member.unless, Once] using ⟨hidentity, hconfig⟩⟩

/-- The calls of a host on which every file has this text. -/
def reading (d : Datum) : System Unit :=
  { System.willing with readFile := fun _ _ => (.ok (Utf8.bytes (Json.compact d)), ()) }

/-- Such a document is loaded as the description, one with a repeated name is not loaded, and one
with a layout is loaded alike without that environment. -/
theorem document_variations_frugal :
    (∃ d, frugal.toDatum? = some d) ∧
      load (reading aside) staged "/srv/c1.json" () = (.ok frugal, ()) ∧
      (∃ failure, load (reading stuttering) staged "/srv/c1.json" () =
        (.error (.failed failure), ())) ∧
      load (reading settled) .empty "/srv/c1.json" () =
        load (reading settled) staged "/srv/c1.json" () := by
  obtain ⟨hown, hfiles⟩ := document_variations staged
  have hpaths : ∀ p ∈ frugal.config.paths, p.IsText := by
    have hlayout : Layout.default staged = ⟨"/run/session", "/var/lib/shroud/mnt/final"⟩ := by
      decide +kernel
    intro p hp
    simp only [Config.paths, frugal, Config.default, hlayout, Option.map_none, Option.toList_none,
      List.flatMap_cons, List.flatMap_nil, List.append_nil, List.cons_append, List.nil_append,
      List.mem_cons, List.not_mem_nil, or_false] at hp
    have hempty : Path.empty.IsText := ⟨"", by decide⟩
    rcases hp with rfl | rfl | rfl | rfl | rfl <;> first | exact hempty | exact Path.isText_ofText _
  have haside : aside.Printable := by
    have hnote : (Datum.record [("args", .bool true)]).Printable :=
      .record (by simp [Printable.bool])
    have hbind : (Datum.record [("why", .null), ("source", .text "/etc/hosts")]).Printable :=
      .record (by simp [Printable.null, Printable.text])
    have hprogram : (Datum.record [("env", .sequence []),
        ("args", .sequence [.text "/bin/sh"])]).Printable :=
      .record (by simp [Printable.sequence, Printable.text])
    have hengine : asideEngine.Printable :=
      .record (by simp [hbind, Printable.sequence, Printable.text, Printable.bool])
    have hcommon : asideCommon.Printable := .record (by simp [hprogram, Printable.text])
    exact .record (by simp [hnote, hengine, hcommon, Printable.sequence, Printable.null])
  have hstuttering : stuttering.Printable := by
    have hprogram : (Datum.record [("env", .sequence []), ("args", .sequence []),
        ("env", .sequence [])]).Printable := .record (by simp [Printable.sequence])
    exact .record (by simp [hprogram, Printable.record])
  have hsettled : settled.Printable := by
    have hlayout :
        (Datum.record [("final_dir", .text "/f"), ("session_dir", .text "/s")]).Printable :=
      .record (by simp [Printable.text])
    exact .record (by simp [hlayout, Printable.record])
  refine ⟨?_, ?_, ?_, ?_⟩
  · obtain ⟨d, hd, -⟩ := hown frugal hpaths
    exact ⟨d, hd⟩
  · exact (hfiles Unit (reading aside) "/srv/c1.json" _ () () rfl).1 frugal aside (by decide)
      (by decide) frugal_documents (Json.denotes_compact haside).holds
  · refine (hfiles Unit (reading stuttering) "/srv/c1.json" _ () () rfl).2.1 ?_
    obtain ⟨after, -, hread⟩ := (Json.denotes_compact hstuttering).holds.read_eq
    rw [hread]
    exact .inr (.inl ⟨_, .entry List.mem_cons_self, .inr ⟨_, .entry List.mem_cons_self,
      _, "env", rfl, by decide, .cons_mem (by simp)⟩⟩)
  · refine (hfiles Unit (reading settled) "/srv/c1.json" _ () () rfl).2.2 ?_ .empty
    obtain ⟨after, -, hread⟩ := (Json.denotes_compact hsettled).holds.read_eq
    rw [hread]
    exact ⟨_, _, .entry List.mem_cons_self, .entry List.mem_cons_self⟩

end Description

end Container
