import Container.Proofs.Path.Names

set_option autoImplicit false

/-!
# What a joined path names

A path that is joined from two names what the first one does, and then what the second one does
from there. So joining names to a directory always leads below it, whatever the directory is
called.

## Main definitions

* `Path.names` — the names among the components of a path, in order.
* `Path.below` — the path that follows some names from a directory.
* `Path.IsBelow` — a path that names what a directory does, and then names of files.

## Main results

* `Path.components_join` — the components of a joined path.
* `Path.components_below` — the components of a path below a directory.
-/

namespace Container.Path

/-- The name that a component is. -/
def Component.name? : Component → Option Bytes
  | .name n => some n
  | .root | .current | .parent => none

/-- The names among the components of a path, in order. -/
def names (p : Path) : List Bytes := p.components.filterMap Component.name?

/-- The path that follows some names from a directory. -/
def below (dir : Path) (names : List Bytes) : Path := dir.join ⟨joinSegments names⟩

/-- A path that names what a directory does, and then only names of files from there. -/
def IsBelow (dir p : Path) : Prop :=
  ∃ names : List Bytes, (∀ n ∈ names, IsEntry n) ∧ p.components = dir.components ++ names.map .name

/-- The names of a path are names that a directory may have for a file. -/
theorem isEntry_of_mem_names {p : Path} {n : Bytes} (h : n ∈ p.names) : IsEntry n := by
  obtain ⟨c, hc, hname⟩ := List.mem_filterMap.mp h
  cases c with
  | name m =>
    obtain rfl : m = n := by simpa [Component.name?] using hname
    exact isEntry_of_mem_components hc
  | _ => cases hname

/-! ## The beginning of a path -/

/-- What a path begins with, if not with a name: the root, or the current directory. -/
def lead (p : Path) : List Component :=
  if p.isAbsolute then [.root]
  else if (segments p.bytes).head? = some [dot] then [.current]
  else []

/-- The components of a path are how it begins, and what its segments stand for. -/
theorem components_eq (p : Path) :
    p.components = p.lead ++ (segments p.bytes).filterMap Component.ofSegment? := by
  unfold components lead
  simp only
  split
  · rfl
  · split <;> rfl

/-- A relative path that does not begin with the current directory is what its segments stand
for. -/
theorem components_of_plain {p : Path} (hrelative : p.isAbsolute = false)
    (hcurrent : .current ∉ p.components) :
    p.components = (segments p.bytes).filterMap Component.ofSegment? := by
  have hlead : p.lead = [] := by
    rw [components_eq] at hcurrent
    unfold lead at hcurrent ⊢
    rw [if_neg (by simp [hrelative])] at hcurrent ⊢
    split
    · rename_i hhead
      simp [hhead] at hcurrent
    · rfl
  rw [components_eq, hlead, List.nil_append]

/-! ## Joining -/

/-- What is joined to a path leaves its beginning as it is. -/
theorem lead_append_slash (init bs : Bytes) (h : init ≠ []) :
    lead ⟨init ++ slash :: bs⟩ = lead ⟨init⟩ := by
  obtain ⟨b, rest, rfl⟩ := List.exists_cons_of_ne_nil h
  obtain ⟨seg, segs, hsegs⟩ := List.exists_cons_of_ne_nil (segments_ne_nil (b :: rest))
  unfold lead isAbsolute
  rw [segments_append_slash, hsegs]
  rfl

/-- **The components of a joined path** are those of the one and then those of the other, unless
that begins with the root or with the current directory.

**Proof sketch.** The segments of the joined path are those of both, but for empty ones, which stand
for nothing. How the path begins is decided by the first of the two, if that is not empty. -/
theorem components_join (p : Path) {q : Path} (hrelative : q.isAbsolute = false)
    (hcurrent : .current ∉ q.components) :
    (p.join q).components = p.components ++ q.components := by
  have hq := components_of_plain hrelative hcurrent
  obtain ⟨bs⟩ := p
  unfold join
  rw [if_neg (by simp [hrelative])]
  cases hlast : bs.getLast? with
  | none =>
    obtain rfl := List.getLast?_eq_none_iff.mp hlast
    have hempty : components ⟨[]⟩ = [] := rfl
    simp only [hempty, List.nil_append]
  | some last =>
    simp only
    split
    · rename_i hslash
      subst hslash
      obtain ⟨init, rfl⟩ := List.getLast?_eq_some_iff.mp hlast
      have hnothing : (segments []).filterMap Component.ofSegment? = [] := rfl
      have hbytes : init ++ [slash] ++ q.bytes = init ++ slash :: q.bytes := by simp
      rw [hbytes, components_eq, components_eq ⟨init ++ [slash]⟩, hq]
      simp only [segments_append_slash, List.filterMap_append, hnothing, List.append_nil]
      rw [← List.append_assoc]
      congr 2
      cases init with
      | nil => rfl
      | cons b init => rw [lead_append_slash _ _ (by simp), lead_append_slash _ _ (by simp)]
    · have hne : bs ≠ [] := by
        rintro rfl
        cases hlast
      rw [components_eq, components_eq ⟨bs⟩, hq, lead_append_slash _ _ hne]
      simp only [segments_append_slash, List.filterMap_append, List.append_assoc]

/-- **The components of a path below a directory** are those of the directory, and then the
names. -/
theorem components_below (dir : Path) {names : List Bytes} (h : ∀ n ∈ names, IsEntry n) :
    (dir.below names).components = dir.components ++ names.map .name := by
  have hnames : components ⟨joinSegments names⟩ = names.map .name := by
    cases names with
    | nil => rfl
    | cons n names => exact components_joinSegments h (by simp)
  have hcurrent : .current ∉ components ⟨joinSegments names⟩ := by simp [hnames]
  rw [below, components_join dir (isAbsolute_joinSegments h) hcurrent, hnames]

example : (ofText "/mnt/final").below (names "./srv//data/.") = "/mnt/final/srv/data" := by decide

theorem isBelow_self (dir : Path) : dir.IsBelow dir := ⟨[], by simp, by simp⟩

theorem isBelow_below (dir : Path) (names : List Bytes) (h : ∀ n ∈ names, IsEntry n) :
    dir.IsBelow (dir.below names) :=
  ⟨names, h, components_below dir h⟩

theorem IsBelow.components_prefix {dir p : Path} (h : dir.IsBelow p) :
    dir.components <+: p.components := by
  obtain ⟨names, -, hp⟩ := h
  exact ⟨names.map .name, hp.symm⟩

/-- A path below one that is below a directory is itself below that directory. -/
theorem IsBelow.trans {dir mid p : Path} (h : dir.IsBelow mid) (h' : mid.IsBelow p) :
    dir.IsBelow p := by
  obtain ⟨names, hnames, hmid⟩ := h
  obtain ⟨names', hnames', hp⟩ := h'
  refine ⟨names ++ names', ?_, by rw [hp, hmid, List.map_append, List.append_assoc]⟩
  intro n hn
  rcases List.mem_append.mp hn with hn | hn
  · exact hnames n hn
  · exact hnames' n hn

end Container.Path
