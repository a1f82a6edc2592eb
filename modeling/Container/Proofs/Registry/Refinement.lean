import Container.Proofs.Host.Storing
import Container.Proofs.Registry.Document
import Container.Proofs.Series

set_option autoImplicit false

/-!
# A registry is a catalogue

Whatever is asked of a registry, one thing after the other, it answers as a catalogue does that says
for each container what its record is: a map without files, paths or documents. A record that was
found can be used at any time to remove the record of the same container, be it still the same one,
another one, or none.

## Main definitions

* `Registry.Ask`, `Registry.Ask.perform` — what is asked of a registry, and what it does.
* `Registry.Catalogue`, `Registry.Ask.answer` — what a catalogue answers.
* `Registry.Kept` — the files of a registry keep a catalogue.

## Main results

* `Registry.perform_agrees` — one answer, and what is kept after it.
* `Registry.catalogue_law` — any number of them.
-/

namespace Container

open Path

variable {σ : Type}

namespace Registry

/-! ## What is asked -/

/-- What is asked of a registry. -/
inductive Ask where
  | record (kind : String) (info : InstanceInfo)
  | find (containerId kind : String)
  /-- Removing through one of the records that were found so far, by its number. Where there is no
  such record, nothing is asked. -/
  | delete (n : Nat)

namespace Ask

/-- The container that is named. -/
def key? : Ask → Option Key
  | .record kind info => some ⟨kind, info.containerId⟩
  | .find containerId kind => some ⟨kind, containerId⟩
  | .delete _ => none

/-- What a computation does in a world, beside the records that were found there. -/
def besideFound {α : Type} (act : Act σ α) : Act (σ × List FoundRecord) α := Slot.first.run act

/-- What a registry does, with the records that it found so far. -/
def perform (sys : System σ) (registry : Registry) :
    Ask → Act (σ × List FoundRecord) (Option InstanceInfo)
  | .record kind info => do
    besideFound (registry.record sys kind info)
    return none
  | .find containerId kind => do
    let r ← besideFound (registry.find sys containerId kind)
    modify fun (s, found) => (s, found ++ [r])
    return some r.info
  | .delete n => do
    match (← get).2[n]? with
    | none => return none
    | some r =>
      besideFound (Registry.delete sys r)
      return none

end Ask

/-! ## Catalogues -/

/-- What the record of each container is, if it has one. -/
abbrev Catalogue := Key → Option InstanceInfo

/-- Why something is refused: because of the record, or because of its document. -/
inductive Refusal where
  | record
  | document

/-- What a catalogue answers, and what becomes of it. Beside it are the containers of which a record
was found so far. -/
def Ask.answer : Ask → StateM (Catalogue × List Key) (Except Refusal (Option InstanceInfo))
  | .record kind info => fun (catalogue, found) =>
    if ¬ IsId info.containerId then (.error .record, catalogue, found)
    else if info.image.text?.isNone then (.error .document, catalogue, found)
    else (.ok none, Function.update catalogue ⟨kind, info.containerId⟩ (some info), found)
  | .find containerId kind => fun (catalogue, found) =>
    if ¬ IsId containerId then (.error .record, catalogue, found)
    else
      match catalogue ⟨kind, containerId⟩ with
      | some info => (.ok (some info), catalogue, found ++ [⟨kind, containerId⟩])
      | none => (.error .record, catalogue, found)
  | .delete n => fun (catalogue, found) =>
    match found[n]? with
    | none => (.ok none, catalogue, found)
    | some key =>
      if (catalogue key).isSome then (.ok none, Function.update catalogue key none, found)
      else (.error .record, catalogue, found)

/-- The container that is concerned, where records of some containers were found so far. -/
def Ask.concerned? (found : List Key) : Ask → Option Key
  | .delete n => found[n]?
  | ask => ask.key?

/-- What a catalogue answers to all that is asked, one after the other. -/
def Catalogue.answers (catalogue : Catalogue) (asks : List Ask) :
    List (Except Refusal (Option InstanceInfo)) :=
  (asks.mapM Ask.answer (catalogue, [])).1

/-- What becomes of a catalogue by that, and the containers of which a record was found. -/
def Catalogue.after (catalogue : Catalogue) (asks : List Ask) : Catalogue × List Key :=
  (asks.mapM Ask.answer (catalogue, [])).2

/-- Only the container that is concerned is affected. -/
theorem Ask.answer_of_not_concerned {ask : Ask} {catalogue : Catalogue} {found : List Key}
    {key : Key} (hkey : ask.concerned? found ≠ some key) :
    (ask.answer (catalogue, found)).2.1 key = catalogue key := by
  cases ask with
  | record kind info =>
    have hne : key ≠ ⟨kind, info.containerId⟩ := fun heq => hkey (by rw [heq]; rfl)
    simp only [Ask.answer]
    split
    · rfl
    · split
      · rfl
      · exact Function.update_of_ne hne _ _
  | find containerId kind =>
    simp only [Ask.answer]
    split
    · rfl
    · split <;> rfl
  | delete n =>
    simp only [Ask.answer]
    cases hn : found[n]? with
    | none => rfl
    | some other =>
      have hne : key ≠ other := by
        rintro rfl
        exact hkey hn
      simp only
      split
      · exact Function.update_of_ne hne _ _
      · rfl

/-- One thing that is asked after others. -/
theorem Catalogue.after_concat (catalogue : Catalogue) (asks : List Ask) (ask : Ask) :
    catalogue.after (asks ++ [ask]) = (ask.answer (catalogue.after asks)).2 := by
  unfold Catalogue.after
  rw [List.mapM_append]
  rfl

/-- Two answers agree if they are equal, or refusals of one kind. -/
inductive Agrees :
    Except Refusal (Option InstanceInfo) → Except Failure (Option InstanceInfo) → Prop
  | ok (answer : Option InstanceInfo) : Agrees (.ok answer) (.ok answer)
  | record (fault : RecordFault) : Agrees (.error .record) (.error (.record fault))
  | document (fault : DocumentFault) : Agrees (.error .document) (.error (.document fault))

/-! ## Files that keep a catalogue -/

/-- The files below the root of a registry keep a catalogue: each record has its document at its
place, no other place of a record has anything, and nothing but directories is where their
directories are to be. -/
structure Kept (catalogue : Catalogue) (shelf : Shelf) : Prop where
  clear : ∀ key : Key, key.Ordinary → shelf.Clear [Utf8.bytes key.kind]
  absent : ∀ key, key.Ordinary → IsId key.containerId → catalogue key = none →
    shelf key.place = none
  present : ∀ key info, key.Ordinary → IsId key.containerId → catalogue key = some info →
    ∃ content, info.document? = some content ∧ shelf key.place = some (.file content)

namespace Kept

variable {catalogue : Catalogue} {shelf : Shelf} {key : Key} {info : InstanceInfo}

/-- Where there is nothing, or only a root, an empty catalogue is kept. -/
theorem empty (hroot : shelf [] = none ∨ shelf [] = some .directory)
    (h : ∀ place, place ≠ [] → shelf place = none) : Kept (fun _ => none) shelf where
  clear _ _ place _ := by
    by_cases hplace : place = []
    · exact hplace ▸ hroot
    · exact .inl (h place hplace)
  absent key _ _ _ := h key.place (by simp [Key.place])
  present := nofun

/-- What is not above a record does not matter. -/
theorem place_not_above (key : Key) (kind : String) : ¬ key.place <+: [Utf8.bytes kind] := by
  intro h
  have hlength := h.length_le
  simp [Key.place] at hlength

/-- Directories for records make no difference. -/
theorem withDirs (h : Kept catalogue shelf) (kind : String) :
    Kept catalogue (shelf.withDirs [Utf8.bytes kind]) where
  clear other hother place hplace := by
    unfold Shelf.withDirs
    split
    · exact .inr rfl
    · exact h.clear other hother place hplace
  absent key hkey hid hnone := by
    rw [Shelf.withDirs, if_neg (place_not_above key kind)]
    exact h.absent key hkey hid hnone
  present key info hkey hid hsome := by
    rw [Shelf.withDirs, if_neg (place_not_above key kind)]
    exact h.present key info hkey hid hsome

/-- A change at the place of one record. -/
theorem update (h : Kept catalogue shelf) {info? : Option InstanceInfo} {stored? : Option Stored}
    (hnone : info? = none → stored? = none)
    (hsome : ∀ info, info? = some info →
      ∃ content, info.document? = some content ∧ stored? = some (.file content)) :
    Kept (Function.update catalogue key info?) (Function.update shelf key.place stored?) where
  clear other hother place hplace := by
    have hne : place ≠ key.place := by
      rintro rfl
      exact place_not_above key other.kind hplace
    rw [Function.update_of_ne hne]
    exact h.clear other hother place hplace
  absent other hother hid hcatalogue := by
    by_cases hkey : other = key
    · subst hkey
      rw [Function.update_self] at hcatalogue ⊢
      exact hnone hcatalogue
    · rw [Function.update_of_ne hkey] at hcatalogue
      rw [Function.update_of_ne (Key.place_injective.ne hkey)]
      exact h.absent other hother hid hcatalogue
  present other info hother hid hcatalogue := by
    by_cases hkey : other = key
    · subst hkey
      rw [Function.update_self] at hcatalogue ⊢
      exact hsome info hcatalogue
    · rw [Function.update_of_ne hkey] at hcatalogue
      rw [Function.update_of_ne (Key.place_injective.ne hkey)]
      exact h.present other info hother hid hcatalogue

/-- What the files keep says what is at the place of a record. -/
theorem shelf_eq (h : Kept catalogue shelf) (hkey : key.Ordinary) (hid : IsId key.containerId) :
    shelf key.place = (catalogue key).bind fun info => info.document?.map .file := by
  cases hinfo : catalogue key with
  | none => exact h.absent key hkey hid hinfo
  | some info =>
    obtain ⟨content, hcontent, hfile⟩ := h.present key info hkey hid hinfo
    simp [hcontent, hfile]

end Kept

/-! ## One answer -/

section Answer

variable {sys : System σ} {registry : Registry} {shelf : σ → Shelf} {calm : σ → Prop}
  {takes : List Bytes → Prop} {catalogue : Catalogue} {s : σ} {key : Key} {info : InstanceInfo}

/-- An id that is not allowed is refused, and nothing is done. -/
theorem record_refused (kind : String) (hid : ¬ IsId info.containerId) (s : σ) :
    registry.record sys kind info s =
      (.error (.failed (.record (.invalidId info.containerId))), s) := by
  rw [record, Act.run_bind, locate_of_not_isId registry hid]

/-- There is no record for an id that is not allowed. -/
theorem find_refused {containerId : String} (hid : ¬ IsId containerId) (kind : String) (s : σ) :
    registry.find sys containerId kind s =
      (.error (.failed (.record (.invalidId containerId))), s) := by
  rw [find, Act.run_bind, locate_of_not_isId registry hid]

variable (hstores : StoresFiles sys registry.root shelf calm takes) (hcalm : calm s)
  (hkept : Kept catalogue (shelf s)) (hkey : key.Ordinary) (hid : IsId key.containerId)
  (htaken : takes key.place)
include hcalm hkept hkey hid htaken

/-- The place of a record can be reached. -/
theorem reachable : Reachable shelf calm takes s [Utf8.bytes key.kind]
    (Utf8.bytes (key.containerId ++ ".json")) :=
  ⟨hcalm, hkey.place hid, htaken, hkept.clear key hkey⟩

include hstores

/-- A record that is there is found. -/
theorem find_some (h : catalogue key = some info) :
    Gives shelf calm (registry.find sys key.containerId key.kind) s
      (.ok ⟨registry.root.down key.place, info⟩) (shelf s) := by
  obtain ⟨content, hcontent, hfile⟩ := hkept.present key info hkey hid h
  obtain ⟨s', hread, hcalm', hsame⟩ := hstores.reads s _ _ content
    (reachable hcalm hkept hkey hid htaken) hfile
  change sys.readFile (registry.root.down key.place) s = _ at hread
  refine ⟨s', ?_, hcalm', hsame⟩
  simp only [find, Act.run_bind, locate_of_isId registry hid, Act.run_call, hread, mapError_ok,
    InstanceInfo.parse_document hcontent]
  rfl

/-- A record that is not there is not found. -/
theorem find_none (h : catalogue key = none) : ∃ fault,
    Gives shelf calm (registry.find sys key.containerId key.kind) s
      (.error (.failed (.record fault))) (shelf s) := by
  obtain ⟨fault, s', hread, hcalm', hsame⟩ := hstores.readsNothing s _ _
    (reachable hcalm hkept hkey hid htaken) (hkept.absent key hkey hid h)
  change sys.readFile (registry.root.down key.place) s = _ at hread
  refine ⟨.absent (registry.root.down key.place) fault, s', ?_, hcalm', hsame⟩
  simp only [find, Act.run_bind, locate_of_isId registry hid, Act.run_call, hread, mapError_error]

/-- The directory in which a record is to lie is made before anything else. -/
theorem makeDirs_record : ∃ parent, (registry.root.down key.place).parent? = some parent ∧
    Gives shelf calm (sys.makeDirs parent) s (.ok ())
      ((shelf s).withDirs [Utf8.bytes key.kind]) := by
  have hnames : ∀ n ∈ [Utf8.bytes key.kind] ++ [Utf8.bytes (key.containerId ++ ".json")],
      IsEntry n := fun n hn => (hkey.place hid n hn).1
  have hparent := registry.root.parent?_down hnames
  exact ⟨_, hparent, hstores.makesDirs s _ _ _ (reachable hcalm hkept hkey hid htaken) hparent⟩

/-- A record that is no text is not written. -/
theorem record_notText (hinfo : info.containerId = key.containerId)
    (himage : info.image.text?.isNone) :
    Gives shelf calm (registry.record sys key.kind info) s
      (.error (.failed (.document .notText))) ((shelf s).withDirs [Utf8.bytes key.kind]) := by
  obtain ⟨parent, hparent, s', hmake, hcalm', hshelf⟩ :=
    makeDirs_record hstores hcalm hkept hkey hid htaken
  have hnone : info.toDatum? = none := by
    rw [← Option.not_isSome_iff_eq_none, info.isSome_toDatum?]
    simpa using himage
  refine ⟨s', ?_, hcalm', hshelf⟩
  simp only [record, Act.run_bind, hinfo, locate_of_isId registry hid, hparent, Act.run_call, hmake,
    mapError_ok, hnone, Act.run_fail]

/-- A record that is text is written, in place of any that is there. -/
theorem record_text (hinfo : info.containerId = key.containerId)
    (himage : info.image.text?.isSome) : ∃ content, info.document? = some content ∧
      Gives shelf calm (registry.record sys key.kind info) s (.ok ())
        (Function.update ((shelf s).withDirs [Utf8.bytes key.kind]) key.place
          (some (.file content))) := by
  obtain ⟨parent, hparent, mid, hmake, hcalmMid, hshelfMid⟩ :=
    makeDirs_record hstores hcalm hkept hkey hid htaken
  obtain ⟨d, hd⟩ : ∃ d, info.toDatum? = some d :=
    Option.isSome_iff_exists.mp (info.isSome_toDatum?.trans himage)
  have hkeptMid : Kept catalogue (shelf mid) := hshelfMid ▸ hkept.withDirs key.kind
  have hdirectory : shelf mid [Utf8.bytes key.kind] = some .directory := by
    rw [hshelfMid, Shelf.withDirs, if_pos List.prefix_rfl]
  have hold : ∀ stored, shelf mid key.place = some stored → ∃ old, stored = .file old := by
    intro stored hstored
    cases hinfo : catalogue key with
    | none =>
      rw [hkeptMid.absent key hkey hid hinfo] at hstored
      cases hstored
    | some before =>
      obtain ⟨old, -, hfile⟩ := hkeptMid.present key before hkey hid hinfo
      exact ⟨old, Option.some.inj (hstored.symm.trans hfile)⟩
  obtain ⟨after, hwrite, hcalmAfter, hshelfAfter⟩ := hstores.writes mid _ _
    (Utf8.bytes (Json.pretty d)) (reachable hcalmMid hkeptMid hkey hid htaken) hdirectory hold
  change sys.writeFile (registry.root.down key.place) _ mid = _ at hwrite
  obtain ⟨s', hlog, hcalm', hshelf⟩ := hstores.log ⟨.debug, .records, "instance recorded",
    [("path", .shown (registry.root.down key.place).display)]⟩ after hcalmAfter
  refine ⟨_, by rw [InstanceInfo.document?, hd]; rfl, s', ?_, hcalm', ?_⟩
  · simp only [record, Act.run_bind, hinfo, locate_of_isId registry hid, hparent, Act.run_call,
      hmake, mapError_ok, hd, hwrite, Act.run_lift, System.report, hlog]
  · rw [hshelf, hshelfAfter, hshelfMid]
    rfl

/-- A record that is there is removed through any record of that container. -/
theorem delete_some {r : FoundRecord} (hpath : r.path = registry.root.down key.place)
    (h : catalogue key = some info) :
    Gives shelf calm (Registry.delete sys r) s (.ok ())
      (Function.update (shelf s) key.place none) := by
  obtain ⟨content, -, hfile⟩ := hkept.present key info hkey hid h
  obtain ⟨s', hremove, hcalm', hshelf⟩ := hstores.removes s _ _ content
    (reachable hcalm hkept hkey hid htaken) hfile
  change sys.removeFile (registry.root.down key.place) s = _ at hremove
  exact ⟨s', by simp only [delete, hpath, Act.run_call, hremove, mapError_ok], hcalm', hshelf⟩

/-- A record that is not there is not removed. -/
theorem delete_none {r : FoundRecord} (hpath : r.path = registry.root.down key.place)
    (h : catalogue key = none) : ∃ fault, Gives shelf calm (Registry.delete sys r) s
      (.error (.failed (.record fault))) (shelf s) := by
  obtain ⟨fault, s', hremove, hcalm', hshelf⟩ := hstores.removesNothing s _ _
    (reachable hcalm hkept hkey hid htaken) (hkept.absent key hkey hid h)
  change sys.removeFile (registry.root.down key.place) s = _ at hremove
  exact ⟨.notRemoved r.info.containerId fault, s',
    by simp only [delete, hpath, Act.run_call, hremove, mapError_error], hcalm', hshelf⟩

end Answer

/-! ## All that is asked -/

/-- What may be asked: of containers of ordinary kinds, without zero bytes in their ids, and at
places that the system takes. -/
def Ask.Proper (takes : List Bytes → Prop) (ask : Ask) : Prop :=
  ∀ key ∈ ask.key?, key.Ordinary ∧ (IsId key.containerId → takes key.place)

section Session

variable {sys : System σ} {registry : Registry} {shelf : σ → Shelf} {calm : σ → Prop}
  {takes : List Bytes → Prop}

/-- A catalogue belongs to a world that keeps it, and a container to each record that was found. -/
structure Together (registry : Registry) (shelf : σ → Shelf) (calm : σ → Prop)
    (takes : List Bytes → Prop) (state : Catalogue × List Key) (world : σ × List FoundRecord) :
    Prop where
  calm : calm world.1
  kept : Kept state.1 (shelf world.1)
  found : List.Forall₂ (fun key r => r.path = registry.root.down key.place ∧ key.Ordinary ∧
    IsId key.containerId ∧ takes key.place) state.2 world.2

/-- What is asked is answered as by a catalogue, which is kept. -/
def Follows (sys : System σ) (registry : Registry) (shelf : σ → Shelf) (calm : σ → Prop)
    (takes : List Bytes → Prop) (ask : Ask) (state : Catalogue × List Key)
    (world : σ × List FoundRecord) : Prop :=
  ∃ outcome world', (ask.perform sys registry).guarded world = (.ok outcome, world') ∧
    Agrees (ask.answer state).1 outcome ∧
    Together registry shelf calm takes (ask.answer state).2 world'

/-- What is asked is answered so if the two answers agree, and the catalogue is kept. -/
theorem Follows.of_eq {ask : Ask} {state state' : Catalogue × List Key}
    {world world' : σ × List FoundRecord} {answer : Except Refusal (Option InstanceInfo)}
    (outcome : Except Failure (Option InstanceInfo))
    (hperform : ask.perform sys registry world = (outcome.mapError .failed, world'))
    (hanswer : ask.answer state = (answer, state')) (hagree : Agrees answer outcome)
    (h : Together registry shelf calm takes state' world') :
    Follows sys registry shelf calm takes ask state world := by
  refine ⟨outcome, world', ?_, by rwa [hanswer], by rwa [hanswer]⟩
  rw [Act.run_guarded, hperform]
  cases outcome <;> rfl

/-- What is done beside the records that were found leaves them as they are. -/
theorem besideFound_apply {α : Type} (act : Act σ α) (s : σ) (found : List FoundRecord) :
    Ask.besideFound act (s, found) = ((act s).1, (act s).2, found) := rfl

/-- What removing a record comes to. -/
theorem perform_delete (n : Nat) (s : σ) (found : List FoundRecord) :
    (Ask.delete n).perform sys registry (s, found) = match found[n]? with
      | none => (.ok none, s, found)
      | some r =>
        ((Registry.delete sys r s).1.map fun _ => none, (Registry.delete sys r s).2, found) := by
  have hget : (get : Act (σ × List FoundRecord) (σ × List FoundRecord)) (s, found) =
      (.ok (s, found), s, found) := rfl
  rw [Ask.perform, Act.run_bind, hget]
  simp only
  cases found[n]? with
  | none => rfl
  | some r =>
    simp only [Act.run_bind, besideFound_apply]
    cases (Registry.delete sys r s).1 <;> rfl

/-- Of two lists that are related item by item, the items at each place are. -/
theorem rel_getElem? {α β : Type} {R : α → β → Prop} {as : List α} {bs : List β}
    (h : List.Forall₂ R as bs) (n : Nat) : Option.Rel R as[n]? bs[n]? := by
  induction h generalizing n with
  | nil => exact .none
  | cons hab _ ih =>
    cases n with
    | zero => exact .some hab
    | succ n => simpa using ih n

/-- An id that is not allowed is refused, and nothing is done. -/
theorem perform_refused {ask : Ask} {key : Key} (hask : ask.key? = some key)
    (hid : ¬ IsId key.containerId) (world : σ × List FoundRecord) :
    ask.perform sys registry world =
      (.error (.failed (.record (.invalidId key.containerId))), world) := by
  obtain ⟨s, found⟩ := world
  cases ask with
  | record kind info =>
    obtain rfl := Option.some.inj hask
    simp only [Ask.perform, Act.run_bind, besideFound_apply, record_refused kind hid]
  | find containerId kind =>
    obtain rfl := Option.some.inj hask
    simp only [Ask.perform, Act.run_bind, besideFound_apply, find_refused hid kind]
  | delete n => cases hask

variable {catalogue : Catalogue} {keys : List Key} {s : σ} {found : List FoundRecord}
  (hstores : StoresFiles sys registry.root shelf calm takes)
  (h : Together registry shelf calm takes (catalogue, keys) (s, found))

include hstores h

/-- Recording a container. -/
theorem follows_record {kind : String} {info : InstanceInfo}
    (hproper : (Ask.record kind info).Proper takes) :
    Follows sys registry shelf calm takes (.record kind info) (catalogue, keys) (s, found) := by
  obtain ⟨hkey, htaken⟩ := hproper ⟨kind, info.containerId⟩ rfl
  have hsame : info.containerId = (Key.mk kind info.containerId).containerId := rfl
  by_cases hid : IsId info.containerId
  · cases himage : info.image.text? with
    | none =>
      obtain ⟨s', hrun, hcalm, hshelf⟩ := record_notText hstores h.calm h.kept hkey hid
        (htaken hid) hsame (by simp [himage])
      have hafter : Together registry shelf calm takes (catalogue, keys) (s', found) :=
        ⟨hcalm, hshelf ▸ h.kept.withDirs kind, h.found⟩
      refine .of_eq (.error (.document .notText)) ?_ ?_ (.document _) hafter
      · simp only [Ask.perform, Act.run_bind, besideFound_apply, hrun, mapError_error]
      · simp [Ask.answer, hid, himage]
    | some text =>
      obtain ⟨content, hcontent, s', hrun, hcalm, hshelf⟩ := record_text hstores h.calm h.kept hkey
        hid (htaken hid) hsame (by simp [himage])
      have hkept : Kept (Function.update catalogue ⟨kind, info.containerId⟩ (some info))
          (shelf s') := by
        rw [hshelf]
        refine (h.kept.withDirs kind).update nofun ?_
        rintro _ ⟨⟩
        exact ⟨content, hcontent, rfl⟩
      have hafter : Together registry shelf calm takes
          (Function.update catalogue ⟨kind, info.containerId⟩ (some info), keys) (s', found) :=
        ⟨hcalm, hkept, h.found⟩
      refine .of_eq (.ok none) ?_ ?_ (.ok _) hafter
      · simp only [Ask.perform, Act.run_bind, besideFound_apply, hrun, Act.run_pure, mapError_ok]
      · simp [Ask.answer, hid, himage]
  · exact .of_eq (.error (.record _)) (perform_refused rfl hid _) (by simp [Ask.answer, hid])
      (.record _) h

/-- Finding the record of a container. -/
theorem follows_find {containerId kind : String}
    (hproper : (Ask.find containerId kind).Proper takes) :
    Follows sys registry shelf calm takes (.find containerId kind) (catalogue, keys)
      (s, found) := by
  obtain ⟨hkey, htaken⟩ := hproper ⟨kind, containerId⟩ rfl
  by_cases hid : IsId containerId
  · cases hinfo : catalogue ⟨kind, containerId⟩ with
    | none =>
      obtain ⟨fault, s', hrun, hcalm, hshelf⟩ := find_none hstores h.calm h.kept hkey hid
        (htaken hid) hinfo
      have hafter : Together registry shelf calm takes (catalogue, keys) (s', found) :=
        ⟨hcalm, hshelf ▸ h.kept, h.found⟩
      refine .of_eq (.error (.record fault)) ?_ ?_ (.record _) hafter
      · simp only [Ask.perform, Act.run_bind, besideFound_apply, hrun, mapError_error]
      · simp [Ask.answer, hid, hinfo]
    | some info =>
      obtain ⟨s', hrun, hcalm, hshelf⟩ := find_some hstores h.calm h.kept hkey hid
        (htaken hid) hinfo
      have hafter : Together registry shelf calm takes (catalogue, keys ++ [⟨kind, containerId⟩])
          (s', found ++ [⟨registry.root.down (Key.mk kind containerId).place, info⟩]) :=
        ⟨hcalm, hshelf ▸ h.kept,
          List.rel_append h.found (.cons ⟨rfl, hkey, hid, htaken hid⟩ .nil)⟩
      refine .of_eq (.ok (some info)) ?_ ?_ (.ok _) hafter
      · simp only [Ask.perform, Act.run_bind, besideFound_apply, hrun]
        rfl
      · simp [Ask.answer, hid, hinfo]
  · exact .of_eq (.error (.record _)) (perform_refused rfl hid _) (by simp [Ask.answer, hid])
      (.record _) h

/-- Removing a record through one that was found, be there still a record or not. -/
theorem follows_delete (n : Nat) :
    Follows sys registry shelf calm takes (.delete n) (catalogue, keys) (s, found) := by
  have hnth := rel_getElem? h.found n
  generalize hkeys : keys[n]? = key? at hnth
  generalize hfound : found[n]? = r? at hnth
  cases hnth with
  | none =>
    refine .of_eq (.ok none) ?_ ?_ (.ok _) h
    · rw [perform_delete, hfound]
      rfl
    · simp [Ask.answer, hkeys]
  | @some key r hr =>
    obtain ⟨hpath, hkey, hid, htaken⟩ := hr
    cases hinfo : catalogue key with
    | none =>
      obtain ⟨fault, s', hrun, hcalm, hshelf⟩ := delete_none hstores h.calm h.kept hkey hid htaken
        hpath hinfo
      have hafter : Together registry shelf calm takes (catalogue, keys) (s', found) :=
        ⟨hcalm, hshelf ▸ h.kept, h.found⟩
      refine .of_eq (.error (.record fault)) ?_ ?_ (.record _) hafter
      · simp only [perform_delete, hfound, hrun]
        rfl
      · simp [Ask.answer, hkeys, hinfo]
    | some info =>
      obtain ⟨s', hrun, hcalm, hshelf⟩ := delete_some hstores h.calm h.kept hkey hid htaken hpath
        hinfo
      have hkept : Kept (Function.update catalogue key none) (shelf s') := by
        rw [hshelf]
        exact h.kept.update (fun _ => rfl) nofun
      have hafter : Together registry shelf calm takes (Function.update catalogue key none, keys)
          (s', found) := ⟨hcalm, hkept, h.found⟩
      refine .of_eq (.ok none) ?_ ?_ (.ok _) hafter
      · simp only [perform_delete, hfound, hrun]
        rfl
      · simp [Ask.answer, hkeys, hinfo]

/-- **A registry answers as a catalogue does**, and keeps what becomes of it. -/
theorem perform_agrees {ask : Ask} (hproper : ask.Proper takes) :
    Follows sys registry shelf calm takes ask (catalogue, keys) (s, found) := by
  cases ask with
  | record kind info => exact follows_record hstores h hproper
  | find containerId kind => exact follows_find hstores h hproper
  | delete n => exact follows_delete hstores h n

end Session

/-! ## The law -/

/-- The world after some things were asked of a registry, by which no record was found before. -/
def worldAfter (sys : System σ) (registry : Registry) (s : σ) (asks : List Ask) : σ :=
  (Act.each (Ask.perform sys registry) asks (s, [])).2.1

/-- What becomes of all that is asked of a registry, one thing after the other. -/
structure CatalogueLaw (sys : System σ) (registry : Registry) (shelf : σ → Shelf)
    (catalogue : Catalogue) (s : σ) (asks : List Ask) : Prop where
  /-- Everything is answered as by a catalogue. -/
  answers : ∃ outcomes, (Act.each (Ask.perform sys registry) asks (s, [])).1 = .ok outcomes ∧
    List.Forall₂ Agrees (catalogue.answers asks) outcomes
  /-- What becomes of the catalogue is kept. -/
  kept : Kept (catalogue.after asks).1 (shelf (worldAfter sys registry s asks))
  /-- A record that is kept is read back from its document as it is. -/
  readBack : ∀ key info, key.Ordinary → IsId key.containerId →
    (catalogue.after asks).1 key = some info → ∃ content,
      shelf (worldAfter sys registry s asks) key.place = some (.file content) ∧
        Json.parse InstanceInfo.read content = .ok info
  /-- An id that is not allowed is refused, whatever the world is like, and nothing is done. -/
  refused : ∀ ask ∈ asks, ∀ key, ask.key? = some key → ¬ IsId key.containerId → ∀ world,
    ask.perform sys registry world =
      (.error (.failed (.record (.invalidId key.containerId))), world)
  /-- What is at the place of one record is not affected by what is asked of another. -/
  others : ∀ earlier ask later, asks = earlier ++ ask :: later → ∀ key, key.Ordinary →
    IsId key.containerId → ask.concerned? (catalogue.after earlier).2 ≠ some key →
      shelf (worldAfter sys registry s (earlier ++ [ask])) key.place =
        shelf (worldAfter sys registry s earlier) key.place

section Law

variable {sys : System σ} {registry : Registry} {shelf : σ → Shelf} {calm : σ → Prop}
  {takes : List Bytes → Prop} (hstores : StoresFiles sys registry.root shelf calm takes)
  {catalogue : Catalogue} {s : σ} (hcalm : calm s) (hkept : Kept catalogue (shelf s))
  {asks : List Ask} (hasks : ∀ ask ∈ asks, ask.Proper takes)
include hstores hcalm hkept hasks

/-- All that is asked is answered as by a catalogue, which is kept. -/
theorem session_agrees : ∃ outcomes,
    (Act.each (Ask.perform sys registry) asks (s, [])).1 = .ok outcomes ∧
      List.Forall₂ Agrees (catalogue.answers asks) outcomes ∧
      Kept (catalogue.after asks).1 (shelf (worldAfter sys registry s asks)) := by
  have hbegin : Together registry shelf calm takes (catalogue, []) (s, []) :=
    ⟨hcalm, hkept, .nil⟩
  have hstep : ∀ ask ∈ asks, ∀ state world, Together registry shelf calm takes state world →
      Follows sys registry shelf calm takes ask state world :=
    fun ask hask _ _ h => perform_agrees hstores h (hasks ask hask)
  obtain ⟨outcomes, world, hrun, hagree, htogether⟩ := Act.each_agrees Ask.answer hstep hbegin
  refine ⟨outcomes, by rw [hrun], hagree, ?_⟩
  rw [worldAfter, hrun]
  exact htogether.kept

/-- **A registry is a catalogue**: whatever is asked of it, one thing after the other, is answered
as by the catalogue that its files keep, which they keep ever after.

**Proof sketch.** A single question is answered as by the catalogue, and afterwards the files keep
the catalogue that the question leaves (`perform_agrees`); so by induction on the questions a whole
session is (`session_agrees`). A record that the catalogue holds is in its file as a document, and
reads back from there. A question that is refused because of the name of its container makes no call
(`perform_refused`). As for the other containers, a question changes the catalogue only where it
concerns it, and the catalogue says what is at the place of each record (`Kept.shelf_eq`), so the
files of the others are as they were. -/
theorem catalogue_law : CatalogueLaw sys registry shelf catalogue s asks := by
  obtain ⟨outcomes, hrun, hagree, hkept'⟩ := session_agrees hstores hcalm hkept hasks
  refine ⟨⟨outcomes, hrun, hagree⟩, hkept', ?_, ?_, ?_⟩
  · intro key info hkey hid hinfo
    obtain ⟨content, hcontent, hfile⟩ := hkept'.present key info hkey hid hinfo
    exact ⟨content, hfile, InstanceInfo.parse_document hcontent⟩
  · exact fun ask _ key hask hid world => perform_refused hask hid world
  · rintro earlier ask later rfl key hkey hid hother
    have hproper : ∀ first ∈ earlier, first.Proper takes := fun first hfirst =>
      hasks first (by simp [hfirst])
    have hproper' : ∀ first ∈ earlier ++ [ask], first.Proper takes := by
      intro first hfirst
      rcases List.mem_append.mp hfirst with hfirst | hlast
      · exact hproper first hfirst
      · exact hasks first (by simp [List.mem_singleton.mp hlast])
    obtain ⟨-, -, -, hbefore⟩ := session_agrees hstores hcalm hkept hproper
    obtain ⟨-, -, -, hafter⟩ := session_agrees hstores hcalm hkept hproper'
    rw [hbefore.shelf_eq hkey hid, hafter.shelf_eq hkey hid, catalogue.after_concat,
      Ask.answer_of_not_concerned hother]

end Law

/-- A host with nothing but its top, in which the process works. -/
def bareHost : Host where
  tree := .empty
  view := ⟨[], [], usualMask⟩
  environment := ⟨[]⟩
  output := #[]
  pipes := []
  nextId := 1
  ended? := none

/-- A registry on that host, the root of which is not there yet. -/
def laterRegistry : Registry := ⟨⟨joinSegments [Utf8.bytes "run", Utf8.bytes "instances"]⟩⟩

/-- Nothing is refused below that root. -/
theorem bareHost_unhindered :
    bareHost.Unhindered ⟨[], [], usualMask⟩ [Utf8.bytes "run", Utf8.bytes "instances"] where
  view := rfl
  sound := FileTree.sound_empty
  cwd := FileTree.open_empty
  clear earlier _ := by
    by_cases hne : earlier = []
    · subst hne
      exact .inr FileTree.open_empty
    · exact .inl (FileTree.find?_empty hne)

/-- A container is recorded, and then again. The records that were found are used one after the
other to remove what is there. Some things are refused. -/
def visits : List Ask := [
  .find "web" "shroud",
  .record "shroud" ⟨"web", some 4242, "/images/app.sif"⟩,
  .find "web" "shroud",
  .record "shroud" ⟨"web", none, "/images/new.sif"⟩,
  .record "shroud" ⟨"web", none, ⟨[0xFF]⟩⟩,
  .find "web" "shroud",
  .delete 0,
  .delete 1,
  .record "shroud" ⟨"../web", none, "/images/app.sif"⟩]

/-- On that host such visits are answered as by a catalogue in which there is nothing at first. -/
theorem catalogue_law_visits :
    CatalogueLaw (Host.system .whole) laterRegistry
        (Host.shelf ⟨[], [], usualMask⟩ [Utf8.bytes "run", Utf8.bytes "instances"])
        (fun _ => none) bareHost visits ∧
      Catalogue.answers (fun _ => none) visits = [.error .record, .ok none,
        .ok (some ⟨"web", some 4242, "/images/app.sif"⟩), .ok none, .error .document,
        .ok (some ⟨"web", none, "/images/new.sif"⟩), .ok none, .error .record, .error .record] := by
  refine ⟨catalogue_law (Host.storesFiles ⟨[], [], usualMask⟩ rfl _) bareHost_unhindered ?_ ?_, rfl⟩
  · have hnone : ∀ place, bareHost.shelf ⟨[], [], usualMask⟩
        [Utf8.bytes "run", Utf8.bytes "instances"] place = none := fun place =>
      Host.shelf_eq_none.mpr (FileTree.find?_empty (by simp))
    exact .empty (.inl (hnone [])) fun place _ => hnone place
  · unfold Ask.Proper
    decide +kernel

end Registry
end Container
