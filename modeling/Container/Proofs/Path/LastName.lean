import Container.Proofs.Path.Components

set_option autoImplicit false

/-!
# The last name of a path

A path ends in a name if nothing follows the name but slashes and steps to the current directory.
That name is then the last component of the path, and a path whose last component is no name, such
as one that ends in a step to the parent directory, ends in none.

## Main definitions

* `Path.Trailing` — what may follow the last name of a path.
* `Path.EndsIn` — a path that ends in a name.

## Main results

* `Path.joinSegments_segments` — a path is made of its segments.
* `Path.fileName?_eq_some_iff` — the last component of a path is the name that it ends in.
-/

namespace Container.Path

/-- What may follow the last name of a path: slashes, and after any slash a dot for the current
directory. -/
inductive Trailing : Bytes → Prop
  | empty : Trailing []
  | slashed {bs : Bytes} (h : Trailing bs) : Trailing (slash :: bs)
  | dotted {bs : Bytes} (h : Trailing bs) : Trailing (slash :: dot :: bs)

/-- A path ends in a name of a file: the name is all of the path or stands after a slash, and is not
followed by another one. -/
def EndsIn (p : Path) (n : Bytes) : Prop :=
  ∃ front tail, p.bytes = front ++ n ++ tail ∧ IsEntry n ∧
    (front = [] ∨ ∃ init, front = init ++ [slash]) ∧ Trailing tail

/-- A segment that stands for no component. -/
def IsBlank (seg : Bytes) : Prop := seg = [] ∨ seg = [dot]

/-- A segment is blank exactly if it stands for no component. -/
theorem ofSegment?_eq_none_iff {seg : Bytes} : Component.ofSegment? seg = none ↔ IsBlank seg := by
  unfold Component.ofSegment? IsBlank
  split
  · rename_i hblank
    exact iff_of_true rfl hblank
  · rename_i hblank
    split
    · exact iff_of_false nofun hblank
    · exact iff_of_false nofun hblank

/-! ## Segments put together -/

/-- Segments with slashes between them are the first one, and then a slash before each. -/
theorem joinSegments_cons (seg : Bytes) (segs : List Bytes) :
    joinSegments (seg :: segs) = seg ++ segs.flatMap (slash :: ·) := by
  induction segs generalizing seg with
  | nil => simp [joinSegments]
  | cons next segs ih =>
    show seg ++ slash :: joinSegments (next :: segs) = _
    rw [ih, List.flatMap_cons, List.cons_append]

/-- **A path is made of its segments**, with slashes between them. -/
theorem joinSegments_segments (bs : Bytes) : joinSegments (segments bs) = bs := by
  induction bs with
  | nil => rfl
  | cons b bs ih =>
    obtain ⟨seg, segs, hsegs⟩ := List.exists_cons_of_ne_nil (segments_ne_nil bs)
    rw [hsegs, joinSegments_cons] at ih
    by_cases hb : b = slash
    · subst hb
      rw [segments_slash, hsegs, joinSegments_cons, List.flatMap_cons, List.cons_append, ih]
      rfl
    · rw [segments_cons hb hsegs, joinSegments_cons, List.cons_append, ih]

/-! ## What follows the last name -/

/-- What may follow a name is made of blank segments. -/
theorem Trailing.segments_eq {tail : Bytes} (h : Trailing tail) :
    ∃ segs, segments tail = [] :: segs ∧ ∀ seg ∈ segs, IsBlank seg := by
  induction h with
  | empty => exact ⟨[], rfl, by simp⟩
  | slashed _ ih =>
    obtain ⟨segs, hsegs, hblank⟩ := ih
    exact ⟨[] :: segs, by rw [segments_slash, hsegs], by simpa [IsBlank] using hblank⟩
  | dotted _ ih =>
    obtain ⟨segs, hsegs, hblank⟩ := ih
    refine ⟨[dot] :: segs, ?_, by simpa [IsBlank] using hblank⟩
    rw [segments_slash, segments_cons (by decide) hsegs]

/-- Blank segments may follow a name. -/
theorem trailing_of_blank {segs : List Bytes} (h : ∀ seg ∈ segs, IsBlank seg) :
    Trailing (segs.flatMap (slash :: ·)) := by
  induction segs with
  | nil => exact .empty
  | cons seg segs ih =>
    have hrest := ih fun seg hseg => h seg (by simp [hseg])
    rcases h seg (by simp) with rfl | rfl
    · exact .slashed hrest
    · exact .dotted hrest

/-! ## The last component -/

/-- The components of a name that is followed by no other one. -/
theorem filterMap_segments {n tail : Bytes} (hn : IsEntry n) (htail : Trailing tail) :
    (segments (n ++ tail)).filterMap Component.ofSegment? = [.name n] := by
  obtain ⟨segs, hsegs, hblank⟩ := htail.segments_eq
  have hname : Component.ofSegment? n = some (.name n) := by
    simp [Component.ofSegment?, hn.ne_nil, hn.isName.1, hn.isName.2]
  have hnone : segs.filterMap Component.ofSegment? = [] :=
    List.filterMap_eq_nil_iff.mpr fun seg hseg => ofSegment?_eq_none_iff.mpr (hblank seg hseg)
  rw [segments_append hn.slash_notMem hsegs, List.append_nil, List.filterMap_cons_some hname, hnone]

/-- A path that ends in a name has it as its last component. -/
theorem EndsIn.getLast?_components {p : Path} {n : Bytes} (h : p.EndsIn n) :
    p.components.getLast? = some (.name n) := by
  obtain ⟨front, tail, hbytes, hn, hfront, htail⟩ := h
  have hlast := filterMap_segments hn htail
  rw [components_eq, hbytes]
  rcases hfront with rfl | ⟨init, rfl⟩
  · rw [List.nil_append, hlast, List.getLast?_concat]
  · have hsplit : init ++ [slash] ++ n ++ tail = init ++ slash :: (n ++ tail) := by simp
    rw [hsplit, segments_append_slash, List.filterMap_append, hlast, ← List.append_assoc,
      List.getLast?_concat]

/-- A path whose last component is a name ends in that name.

**Proof sketch.** The last component comes from a segment, after which all segments are blank. The
path is made of its segments with slashes between them, so the name stands after a slash or at the
beginning, and what follows it is a slash before each blank segment. -/
theorem endsIn_of_getLast?_components {p : Path} {n : Bytes}
    (h : p.components.getLast? = some (.name n)) : p.EndsIn n := by
  have hn := isEntry_of_mem_components (List.mem_of_getLast? h)
  have hnamed : ((segments p.bytes).filterMap Component.ofSegment?).getLast? = some (.name n) := by
    rw [components_eq, List.getLast?_append] at h
    cases hlast : ((segments p.bytes).filterMap Component.ofSegment?).getLast? with
    | some c => rwa [hlast] at h
    | none =>
      -- How a path begins is no name.
      rw [hlast] at h
      unfold lead at h
      split at h
      · cases h
      · split at h <;> cases h
  obtain ⟨earlier, hearlier⟩ := List.getLast?_eq_some_iff.mp hnamed
  obtain ⟨before, rest, hsegments, -, hrest⟩ := List.filterMap_eq_append_iff.mp hearlier
  obtain ⟨blanks, seg, after, rfl, hblanks, hseg, hafter⟩ := List.filterMap_eq_cons_iff.mp hrest
  obtain rfl : seg = n := by
    unfold Component.ofSegment? at hseg
    split at hseg
    · cases hseg
    · split at hseg
      · cases hseg
      · simpa using hseg
  have htail : Trailing (after.flatMap (slash :: ·)) := by
    refine trailing_of_blank fun seg hmem => ?_
    exact ofSegment?_eq_none_iff.mp (List.filterMap_eq_nil_iff.mp hafter seg hmem)
  have hbytes := joinSegments_segments p.bytes
  rw [hsegments, ← List.append_assoc] at hbytes
  cases hfront : before ++ blanks with
  | nil =>
    rw [hfront, List.nil_append, joinSegments_cons] at hbytes
    exact ⟨[], _, hbytes.symm, hn, .inl rfl, htail⟩
  | cons first front =>
    rw [hfront, List.cons_append, joinSegments_cons] at hbytes
    refine ⟨first ++ front.flatMap (slash :: ·) ++ [slash], _, ?_, hn, .inr ⟨_, rfl⟩, htail⟩
    rw [← hbytes]
    simp

/-- **The last component of a path is the name that it ends in.** -/
theorem fileName?_eq_some_iff {p : Path} {n : Bytes} : p.fileName? = some n ↔ p.EndsIn n := by
  refine ⟨fun h => endsIn_of_getLast?_components ?_, fun h => ?_⟩
  · unfold fileName? at h
    split at h
    · rename_i name hlast
      rw [hlast, Option.some.inj h]
    · cases h
  · rw [fileName?, h.getLast?_components]

example : (ofText "/dev/mapper//vault/./").fileName? = some (Utf8.bytes "vault") := by decide

end Container.Path
