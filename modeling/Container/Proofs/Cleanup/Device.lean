import Container.Proofs.Cleanup.Retry
import Container.Proofs.Path.LastName

set_option autoImplicit false

/-!
# Giving one encrypted device back

A device is open under the last name of its path. It is closed under that name and no other, after
the overlay and the root were detached, and the first of these calls that fails is the last one. A
path that ends in no name, or in one that is no text, is found out only when both were detached, and
then nothing is closed.

## Main definitions

* `Cleanup.deviceWork`, `Cleanup.deviceOutcome` — all that is to be done for a device, and what
  comes of it if it goes well.
* `DeviceRelease` — what is known of the work on a device.

## Main results

* `CryptTeardown.deviceName_eq_ok_iff` — the name under which a device is open.
* `Cleanup.Came.deviceRelease` — what is known of the work, however far it comes.
* `CryptTeardown.device_release` — what is known of an attempt to release a device.
-/

namespace Container

variable {σ : Type}

/-! ## The name of a device -/

namespace CryptTeardown

variable {device : Path} {name : String} {fault : CryptFault}

/-- **A device is open under the name that its path ends in**, if that is a text. -/
theorem deviceName_eq_ok_iff : deviceName device = .ok name ↔ device.EndsIn (Utf8.bytes name) := by
  rw [← Path.fileName?_eq_some_iff, deviceName]
  cases hname : device.fileName? with
  | none => simp
  | some n =>
    have htext : Utf8.text? n = some name ↔ Utf8.bytes name = n := Utf8.text?_eq_some_iff
    cases hn : Utf8.text? n with
    | none => simpa [hn, eq_comm] using htext
    | some found => simpa [hn, eq_comm] using htext

/-- A device without a name is said to have none. -/
theorem eq_noDeviceName (h : deviceName device = .error fault) : fault = .noDeviceName device := by
  unfold deviceName at h
  split at h
  · cases h
  · exact (Except.error.inj h).symm

/-- A path that ends in a text does not end in nothing or in a step, and the text has no slash. -/
theorem ordinary_of_endsIn (h : device.EndsIn (Utf8.bytes name)) :
    name ≠ "" ∧ name ≠ "." ∧ name ≠ ".." ∧ '/' ∉ name.toList := by
  obtain ⟨_, _, _, hentry, -, -⟩ := h
  refine ⟨?_, ?_, ?_, ?_⟩
  · rintro rfl
    exact hentry.ne_nil rfl
  · rintro rfl
    exact hentry.isName.1 rfl
  · rintro rfl
    exact hentry.isName.2 rfl
  · intro hslash
    have hbytes : Utf8.bytes name = name.toList.flatMap String.utf8EncodeChar := by
      rw [← Utf8.bytes_ofList, String.ofList_toList]
    refine hentry.slash_notMem ?_
    rw [hbytes, List.mem_flatMap]
    exact ⟨'/', hslash, by decide⟩

end CryptTeardown

namespace Cleanup

/-! ## The work on a device -/

/-- All that is to be done for a device that is open under a name. Without one, it is not closed. -/
def deviceWork (layout : Layout) (name? : Option String) : List Deed :=
  [.detach (layout.sessionDir.join "final"), .detach (layout.sessionDir.join "rootfs")] ++
    name?.toList.map .closeDevice

/-- What comes of it if everything that is done goes well. -/
def deviceOutcome (device : Path) : Option String → Except Stop Unit
  | some _ => .ok ()
  | none => .error (.failed (.crypt (.noDeviceName device)))

end Cleanup

open Cleanup

/-- What is known of the work on a device that is open under a name, or under none. -/
structure DeviceRelease (layout : Layout) (device : Path) (name? : Option String)
    (entries : List Entry) (result : Except Stop Unit) : Prop where
  /-- The calls are those that are to be made, in their order and each once, as far as it comes. -/
  calls : entries.map (·.deed) <+: deviceWork layout name?
  /-- Every call but the last one went well. -/
  earlier : ∀ entry ∈ entries.dropLast, entry.answer = .ok ()
  /-- Where a call fails, its error is the result. -/
  failed : ∀ entry ∈ entries, ∀ stop, entry.answer = .error stop → result = .error stop
  /-- Where none does, all of them are made, and only a missing name is left to complain about. -/
  finished : (∀ entry ∈ entries, entry.answer = .ok ()) →
    entries.map (·.deed) = deviceWork layout name? ∧ result = deviceOutcome device name?
  /-- The device is closed under its name, and only after both paths were detached. -/
  closed : ∀ name answer, ⟨.closeDevice name, answer⟩ ∈ entries → name? = some name ∧
    entries = [⟨.detach (layout.sessionDir.join "final"), .ok ()⟩,
      ⟨.detach (layout.sessionDir.join "rootfs"), .ok ()⟩, ⟨.closeDevice name, answer⟩]

namespace Cleanup

variable {layout : Layout} {device : Path} {entries : List Entry} {result : Except Stop Unit}

/-- What is known of the work on a device, however far it comes. -/
theorem Came.deviceRelease (h : Came layout device entries result) :
    DeviceRelease layout device (CryptTeardown.deviceName device).toOption entries result := by
  cases h with
  | toOverlay stop => exact ⟨⟨_, rfl⟩, by simp, by simp, by simp, by simp⟩
  | toRootfs stop => exact ⟨⟨_, rfl⟩, by simp, by simp, by simp, by simp⟩
  | toName hname =>
    obtain rfl := CryptTeardown.eq_noDeviceName hname
    rw [hname]
    exact ⟨⟨[], rfl⟩, by simp, by simp, fun _ => ⟨rfl, rfl⟩, by simp⟩
  | toClose hname =>
    rw [hname]
    refine ⟨⟨[], rfl⟩, by simp, by simp, fun h => ⟨rfl, ?_⟩, ?_⟩
    · simpa [deviceOutcome, Except.toOption] using h
    · rintro name answer hmem
      obtain ⟨rfl, rfl⟩ : name = _ ∧ answer = _ := by simpa using hmem
      exact ⟨rfl, rfl⟩

end Cleanup

namespace CryptTeardown

/-- **How a device is given back**: whatever the calls come to, the overlay is detached, then the
root, then the device is closed under the name that its path ends in, and the first call that fails
is the last one and gives the result. The name is an ordinary one. Where the path ends in no name
that is a text, the result is an error about that, after both were detached.

**Proof sketch.** An attempt is a section around the work on the device, so what it writes is what
the work writes, inside a section (`bracket_writes`). The work ends in one of four ways
(`cryptSteps_came`), and in each of them the calls are the first ones of those to be made and the
result is that of the last (`Came.deviceRelease`). The name of a device is the last name of its path
if that is a text (`deviceName_eq_ok_iff`), and what a path ends in is an ordinary name
(`ordinary_of_endsIn`). -/
theorem device_release (base : System (Diary σ)) (sys : System σ) (teardown : Teardown σ)
    (layout : Layout) (device : Path) (world : σ) :
    let made := attempt base sys teardown layout device ⟨world, []⟩
    ∃ name? : Option String,
      (∀ name, name? = some name ↔ device.EndsIn (Utf8.bytes name)) ∧
      (∀ name, name? = some name → name ≠ "" ∧ name ≠ "." ∧ name ≠ ".." ∧ '/' ∉ name.toList) ∧
      InSection (DeviceRelease layout device name?) made.2.entries made.1 := by
  intro made
  have hname : ∀ name, (deviceName device).toOption = some name ↔
      device.EndsIn (Utf8.bytes name) := by
    intro name
    rw [← deviceName_eq_ok_iff]
    cases deviceName device <;> simp [Except.toOption]
  have hwrites : Writes (attempt base sys teardown layout device)
      (InSection (DeviceRelease layout device (deviceName device).toOption)) := by
    unfold attempt release
    exact bracket_writes ((cryptSteps_came layout device).mono fun _ _ => Came.deviceRelease)
  obtain ⟨entries, hentries, hsection⟩ := hwrites ⟨world, []⟩
  rw [List.nil_append] at hentries
  exact ⟨_, hname, fun name h => ordinary_of_endsIn ((hname name).mp h), hentries ▸ hsection⟩

end CryptTeardown
end Container
