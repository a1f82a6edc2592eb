import Container.Host.Resolve
import Container.Proofs.Path.Text

set_option autoImplicit false

/-!
# The names in a path

A path is followed by its segments, those that are empty left out. This module says what the steps
of a path are that was joined from two, or made of names, and that the names among the components
of a path can be its segments again.

## Main definitions

* `Path.IsName` — a step that is not one to this or to the parent directory.
* `Path.IsEntry` — a name that a directory may have for a file.

## Main results

* `FileTree.stepsOf_join` — the steps of a joined path.
* `FileTree.stepsOf_ofComponents` — the steps of a path made of names.
* `Path.isEntry_of_mem_components` — the names among the components of a path.
-/

namespace Container

namespace Path

/-- A step that is a name, and none to this or to the parent directory. -/
def IsName (n : Bytes) : Prop := n ≠ [dot] ∧ n ≠ [dot, dot]

/-- A name that a directory may have for a file. -/
structure IsEntry (n : Bytes) : Prop where
  isName : IsName n
  ne_nil : n ≠ []
  slash_notMem : slash ∉ n

instance (n : Bytes) : Decidable (IsName n) := inferInstanceAs (Decidable (_ ∧ _))

instance (n : Bytes) : Decidable (IsEntry n) :=
  decidable_of_iff (IsName n ∧ n ≠ [] ∧ slash ∉ n)
    ⟨fun ⟨isName, ne_nil, notMem⟩ => ⟨isName, ne_nil, notMem⟩,
      fun ⟨isName, ne_nil, notMem⟩ => ⟨isName, ne_nil, notMem⟩⟩

/-! ## Segments -/

/-- A byte other than a slash belongs to the first segment. -/
theorem segments_cons {b : UInt8} (hb : b ≠ slash) {bs seg : Bytes} {segs : List Bytes}
    (h : segments bs = seg :: segs) : segments (b :: bs) = (b :: seg) :: segs := by
  have hxs : slash ∉ [b] := by simpa using Ne.symm hb
  exact segments_append hxs h

/-- A slash separates the segments before it from those after it. -/
theorem segments_append_slash (xs ys : Bytes) :
    segments (xs ++ slash :: ys) = segments xs ++ segments ys := by
  induction xs with
  | nil => simp
  | cons x xs ih =>
    by_cases hx : x = slash
    · subst hx
      rw [List.cons_append, segments_slash, segments_slash, ih, List.cons_append]
    · obtain ⟨seg, segs, hsegs⟩ := List.exists_cons_of_ne_nil (segments_ne_nil xs)
      rw [hsegs, List.cons_append] at ih
      rw [List.cons_append, segments_cons hx ih, segments_cons hx hsegs, List.cons_append]

/-- No segment holds a slash. -/
theorem slash_notMem_of_mem_segments {bs seg : Bytes} (h : seg ∈ segments bs) : slash ∉ seg := by
  induction bs generalizing seg with
  | nil =>
    obtain rfl := List.mem_singleton.mp h
    simp
  | cons b bs ih =>
    by_cases hb : b = slash
    · subst hb
      rw [segments_slash] at h
      rcases List.mem_cons.mp h with rfl | h
      · simp
      · exact ih h
    · obtain ⟨first, segs, hsegs⟩ := List.exists_cons_of_ne_nil (segments_ne_nil bs)
      rw [segments_cons hb hsegs] at h
      rcases List.mem_cons.mp h with rfl | h
      · have hfirst : slash ∉ first := ih (by simp [hsegs])
        simp [Ne.symm hb, hfirst]
      · exact ih (by simp [hsegs, h])

/-- Bytes without a slash are one segment. -/
theorem segments_of_slash_notMem {n : Bytes} (h : slash ∉ n) : segments n = [n] := by
  simpa using segments_append h segments_nil

/-- The segments of some names with slashes between them are the names. -/
theorem segments_joinSegments {names : List Bytes} (hnames : ∀ n ∈ names, IsEntry n)
    (h : names ≠ []) : segments (joinSegments names) = names := by
  induction names with
  | nil => contradiction
  | cons n names ih =>
    have hn := segments_of_slash_notMem (hnames n (by simp)).slash_notMem
    cases names with
    | nil => exact hn
    | cons next names =>
      have hrest := ih (fun n hmem => hnames n (by simp [hmem])) (by simp)
      show segments (n ++ slash :: joinSegments (next :: names)) = _
      rw [segments_append_slash, hn, hrest, List.singleton_append]

/-- Names with slashes between them are not nothing. -/
theorem joinSegments_ne_nil {names : List Bytes} (hnames : ∀ n ∈ names, IsEntry n)
    (h : names ≠ []) : joinSegments names ≠ [] := by
  intro hjoin
  have hsegments := segments_joinSegments hnames h
  rw [hjoin, segments_nil] at hsegments
  exact (hnames [] (by simp [← hsegments])).ne_nil rfl

/-- Names with slashes between them do not end in a slash. -/
theorem getLast?_joinSegments {names : List Bytes} (hnames : ∀ n ∈ names, IsEntry n) :
    (joinSegments names).getLast? ≠ some slash := by
  induction names with
  | nil => simp [joinSegments]
  | cons n names ih =>
    cases names with
    | nil =>
      intro hlast
      exact (hnames n (by simp)).slash_notMem (List.mem_of_getLast? hlast)
    | cons next names =>
      have hnext : ∀ n ∈ next :: names, IsEntry n := fun n hmem => hnames n (by simp [hmem])
      have hrest := ih hnext
      obtain ⟨b, bs, hjoin⟩ := List.exists_cons_of_ne_nil (joinSegments_ne_nil hnext (by simp))
      show (n ++ slash :: joinSegments (next :: names)).getLast? ≠ some slash
      rw [hjoin] at hrest ⊢
      simpa using hrest

/-! ## Components -/

/-- The names among the components of a path are names that a directory may have. -/
theorem isEntry_of_mem_components {p : Path} {n : Bytes} (h : .name n ∈ p.components) :
    IsEntry n := by
  have hnamed : .name n ∈ (segments p.bytes).filterMap Component.ofSegment? := by
    unfold components at h
    simp only at h
    split at h
    · simpa using h
    · split at h <;> simpa using h
  obtain ⟨seg, hseg, hof⟩ := List.mem_filterMap.mp hnamed
  unfold Component.ofSegment? at hof
  split at hof
  · cases hof
  · rename_i hempty
    split at hof
    · cases hof
    · rename_i hparent
      obtain rfl : seg = n := by simpa using hof
      rw [not_or] at hempty
      exact ⟨⟨hempty.2, hparent⟩, hempty.1, slash_notMem_of_mem_segments hseg⟩

/-- Components that are all names of files are made from the names. -/
theorem exists_names {cs : List Component} (h : ∀ c ∈ cs, ∃ n, c = .name n ∧ IsEntry n) :
    ∃ names : List Bytes, cs = names.map .name ∧ ∀ n ∈ names, IsEntry n := by
  induction cs with
  | nil => exact ⟨[], rfl, nofun⟩
  | cons c cs ih =>
    obtain ⟨n, rfl, hn⟩ := h c (by simp)
    obtain ⟨names, rfl, hnames⟩ := ih fun c hmem => h c (by simp [hmem])
    exact ⟨n :: names, rfl, by simpa using ⟨hn, hnames⟩⟩

/-- A path made of names is made of the names with slashes between them. -/
theorem ofComponents_names (names : List Bytes) :
    ofComponents (names.map .name) = ⟨joinSegments names⟩ := by
  have hsegments : (names.map Component.name).map Component.segment = names := by
    rw [List.map_map]
    exact List.map_id names
  unfold ofComponents
  split
  · rename_i steps hroot
    cases names <;> simp at hroot
  · rw [hsegments]

/-- The path above one that ends in a name. -/
theorem parent?_of_components {p : Path} {cs : List Component} {n : Bytes}
    (h : p.components = cs ++ [.name n]) : p.parent? = some (ofComponents cs) := by
  unfold parent?
  rw [h, List.getLast?_concat, List.dropLast_concat]

/-- A path made of names is relative. -/
theorem isAbsolute_joinSegments {names : List Bytes} (hnames : ∀ n ∈ names, IsEntry n) :
    isAbsolute ⟨joinSegments names⟩ = false := by
  cases names with
  | nil => rfl
  | cons n names =>
    obtain ⟨hname, hne, hslash⟩ := hnames n (by simp)
    obtain ⟨b, bs, rfl⟩ := List.exists_cons_of_ne_nil hne
    have hb : b ≠ slash := by
      rintro rfl
      simp at hslash
    cases names <;> simpa [isAbsolute, joinSegments] using hb

/-- The components of a path made of names are the names. -/
theorem components_joinSegments {names : List Bytes} (hnames : ∀ n ∈ names, IsEntry n)
    (h : names ≠ []) : components ⟨joinSegments names⟩ = names.map .name := by
  have hof : ∀ names : List Bytes, (∀ n ∈ names, IsEntry n) →
      names.filterMap Component.ofSegment? = names.map .name := by
    intro names hnames
    induction names with
    | nil => rfl
    | cons n names ih =>
      obtain ⟨⟨hcurrent, hparent⟩, hne, -⟩ := hnames n (by simp)
      have hn : Component.ofSegment? n = some (.name n) := by
        simp [Component.ofSegment?, hcurrent, hparent, hne]
      rw [List.filterMap_cons_some hn, ih fun n hmem => hnames n (by simp [hmem]), List.map_cons]
  have hhead : names.head? ≠ some [dot] := by
    intro hhead
    exact (hnames _ (List.mem_of_head? hhead)).isName.1 rfl
  unfold components
  simp only [isAbsolute_joinSegments hnames, segments_joinSegments hnames h, hof names hnames,
    hhead]
  rfl

end Path

/-! ## Steps -/

namespace FileTree

open Container.Path

/-- A slash separates the steps before it from those after it. -/
theorem stepsOf_append_slash (xs ys : Bytes) :
    stepsOf (xs ++ slash :: ys) = stepsOf xs ++ stepsOf ys := by
  unfold stepsOf
  rw [segments_append_slash, List.filter_append]

@[simp] theorem stepsOf_nil : stepsOf [] = [] := rfl

/-- **The steps of a joined path** are those of the one and then those of the other. -/
theorem stepsOf_join (p : Path) {q : Path} (hq : q.isAbsolute = false) :
    stepsOf (p.join q).bytes = stepsOf p.bytes ++ stepsOf q.bytes := by
  unfold Path.join
  rw [hq]
  simp only [Bool.false_eq_true, if_false]
  cases hlast : p.bytes.getLast? with
  | none =>
    rw [List.getLast?_eq_none_iff.mp hlast]
    simp
  | some last =>
    obtain ⟨init, hinit⟩ := List.getLast?_eq_some_iff.mp hlast
    by_cases hslash : last = slash
    · subst hslash
      simp only [if_true]
      rw [hinit, List.append_assoc, List.singleton_append, stepsOf_append_slash,
        stepsOf_append_slash, stepsOf_nil, List.append_nil]
    · simp only [hslash, if_false]
      exact stepsOf_append_slash _ _

/-- A joined path starts where the first of the two does. -/
theorem startOf_join (root cwd : Location) (p : Path) {q : Path} (hq : q.isAbsolute = false) :
    startOf root cwd (p.join q).bytes = startOf root cwd p.bytes := by
  have hhead : q.bytes.head? ≠ some slash := by simpa [isAbsolute] using hq
  unfold Path.join startOf
  rw [hq]
  simp only [Bool.false_eq_true, if_false]
  cases hp : p.bytes with
  | nil => simp [hhead]
  | cons b bs =>
    obtain ⟨last, hlast⟩ : ∃ last, (b :: bs).getLast? = some last :=
      ⟨_, List.getLast?_eq_some_getLast (by simp)⟩
    rw [hlast]
    simp only
    split <;> simp

/-- A joined path ends as the second of the two does, unless that is empty. -/
theorem getLast?_join (p : Path) {q : Path} (hq : q.isAbsolute = false) (hne : q.bytes ≠ []) :
    (p.join q).bytes.getLast? = q.bytes.getLast? := by
  obtain ⟨b, hb⟩ : ∃ b, q.bytes.getLast? = some b := ⟨_, List.getLast?_eq_some_getLast hne⟩
  unfold Path.join
  rw [hq]
  simp only [Bool.false_eq_true, if_false]
  cases hlast : p.bytes.getLast? with
  | none => rfl
  | some last =>
    simp only
    split <;> simp [hb, List.getLast?_append, List.getLast?_cons]

/-- The steps of a path made of names are the names. -/
theorem stepsOf_joinSegments {names : List Bytes} (hnames : ∀ n ∈ names, IsEntry n) :
    stepsOf (joinSegments names) = names := by
  cases names with
  | nil => rfl
  | cons n names =>
    unfold stepsOf
    rw [segments_joinSegments hnames (by simp)]
    refine List.filter_eq_self.mpr fun n hmem => ?_
    simpa using (hnames n hmem).ne_nil

end FileTree
end Container
