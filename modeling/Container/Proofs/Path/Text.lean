import Container.Path

set_option autoImplicit false

/-!
# Paths that are text

A path need not be text, but only one that is can be sent. What is made of paths that are text by
joining them, or by taking them apart at slashes, is text again.

## Main definitions

* `Utf8.IsText`, `Path.IsText` — byte strings and paths that hold a text.

## Main results

* `Path.IsText.join` — joining paths that are text.
* `Path.isText_of_mem_segments` — the segments of a path that is text.
* `Path.isText_ofComponents` — a path made of names that are text.
-/

namespace Container

namespace Utf8

/-- A byte string that holds a text. -/
def IsText (bs : Bytes) : Prop := ∃ s, bs = bytes s

theorem isText_bytes (s : String) : IsText (bytes s) := ⟨s, rfl⟩

theorem isText_nil : IsText [] := ⟨"", rfl⟩

/-- The bytes of two texts, one after the other, are those of a text. -/
theorem IsText.append {xs ys : Bytes} (hx : IsText xs) (hy : IsText ys) : IsText (xs ++ ys) := by
  obtain ⟨s, rfl⟩ := hx
  obtain ⟨t, rfl⟩ := hy
  exact ⟨s ++ t, by simp [bytes, String.toByteArray_append]⟩

/-- The bytes of a text are those of its characters. -/
theorem bytes_ofList (cs : List Char) :
    bytes (String.ofList cs) = cs.flatMap String.utf8EncodeChar := by
  simp [bytes, List.utf8Encode]

/-- The bytes of a character are those of a text. -/
theorem isText_utf8EncodeChar (c : Char) : IsText (String.utf8EncodeChar c) :=
  ⟨String.ofList [c], by rw [bytes_ofList, List.flatMap_singleton]⟩

/-- No two texts have the same bytes. -/
theorem bytes_injective : Function.Injective bytes := by
  intro s t h
  simpa using congrArg text? h

/-- A byte below those of longer characters is a byte of no character but its own. -/
theorem utf8EncodeChar_of_ascii_mem {b : UInt8} (hb : b < 0x80) {c : Char}
    (h : b ∈ String.utf8EncodeChar c) : String.utf8EncodeChar c = [b] := by
  have hhigh : ∀ n, 0x80 ≤ n → n < 0x100 → b ≠ UInt8.ofNat n := by
    rintro n hlow hn rfl
    have htoNat := UInt8.lt_iff_toNat_lt.mp hb
    simp at htoNat
    omega
  unfold String.utf8EncodeChar at h ⊢
  simp only at h ⊢
  split at h
  · rename_i hascii
    rw [if_pos hascii]
    simpa using (List.mem_singleton.mp h).symm
  · exfalso
    split at h
    · simp only [List.mem_cons, List.not_mem_nil, or_false] at h
      rcases h with h | h <;> exact hhigh _ (by omega) (by omega) h
    · split at h
      · simp only [List.mem_cons, List.not_mem_nil, or_false] at h
        rcases h with h | h | h <;> exact hhigh _ (by omega) (by omega) h
      · simp only [List.mem_cons, List.not_mem_nil, or_false] at h
        rcases h with h | h | h | h <;> exact hhigh _ (by omega) (by omega) h

/-- A text with such a byte has the character. -/
theorem mem_toList_of_ascii_mem {c : Char} {b : UInt8} (hb : b < 0x80)
    (hc : String.utf8EncodeChar c = [b]) {s : String} (h : b ∈ bytes s) : c ∈ s.toList := by
  rw [← String.ofList_toList (s := s), bytes_ofList, List.mem_flatMap] at h
  obtain ⟨d, hd, hmem⟩ := h
  have hsame : String.utf8EncodeChar d = String.utf8EncodeChar c := by
    rw [hc, utf8EncodeChar_of_ascii_mem hb hmem]
  have hbytes : bytes (String.ofList [d]) = bytes (String.ofList [c]) := by
    simpa only [bytes_ofList, List.flatMap_singleton] using hsame
  have hlist : [d] = [c] := String.ofList_injective (bytes_injective hbytes)
  rwa [← (List.cons.inj hlist).1]

end Utf8

namespace Path

variable {p q : Path}

/-- A path that is text. -/
def IsText (p : Path) : Prop := Utf8.IsText p.bytes

theorem isText_ofText (s : String) : (ofText s).IsText := Utf8.isText_bytes s

theorem isText_iff : p.IsText ↔ ∃ s, p = ofText s := by
  constructor
  · rintro ⟨s, hs⟩
    refine ⟨s, ?_⟩
    cases p
    simp_all [ofText]
  · rintro ⟨s, rfl⟩
    exact isText_ofText s

/-- A slash is a text. -/
theorem isText_slash : Utf8.IsText [slash] := ⟨"/", rfl⟩

/-- Joining paths that are text makes a path that is text. -/
theorem IsText.join (hp : p.IsText) (hq : q.IsText) : (p.join q).IsText := by
  unfold Path.join
  split
  · exact hq
  · split
    · exact hq
    · split
      · exact Utf8.IsText.append hp hq
      · have hbytes : (⟨p.bytes ++ slash :: q.bytes⟩ : Path).bytes =
            p.bytes ++ ([slash] ++ q.bytes) := by simp
        rw [IsText, hbytes]
        exact Utf8.IsText.append hp (isText_slash.append hq)

/-! ## Segments -/

/-- A slash is a byte of no character but itself. -/
theorem utf8EncodeChar_of_slash_mem {c : Char} (h : slash ∈ String.utf8EncodeChar c) :
    String.utf8EncodeChar c = [slash] :=
  Utf8.utf8EncodeChar_of_ascii_mem (by decide) h

@[simp] theorem segments_nil : segments [] = [[]] := rfl

@[simp] theorem segments_slash (bs : Bytes) : segments (slash :: bs) = [] :: segments bs := by
  simp [segments]

theorem segments_ne_nil (bs : Bytes) : segments bs ≠ [] := by
  unfold segments
  cases bs with
  | nil => simp
  | cons b bs =>
    rw [List.foldr_cons]
    split
    · simp
    · split <;> simp

/-- Bytes without a slash belong to the first segment. -/
theorem segments_append {xs ys seg : Bytes} {segs : List Bytes} (hxs : slash ∉ xs)
    (hys : segments ys = seg :: segs) : segments (xs ++ ys) = (xs ++ seg) :: segs := by
  induction xs with
  | nil => simpa using hys
  | cons x xs ih =>
    simp only [List.mem_cons, not_or] at hxs
    have hrest := ih hxs.2
    unfold segments at hrest ⊢
    rw [List.cons_append, List.foldr_cons, hrest, if_neg fun h => hxs.1 h.symm]
    simp

/-- The segments of a path that is text are text. -/
theorem isText_of_mem_segments (hp : p.IsText) {seg : Bytes} (hseg : seg ∈ segments p.bytes) :
    Utf8.IsText seg := by
  obtain ⟨s, hs⟩ := hp
  obtain ⟨cs, rfl⟩ := s.exists_eq_ofList
  rw [hs, Utf8.bytes_ofList] at hseg
  clear hs
  induction cs generalizing seg with
  | nil =>
    obtain rfl := List.mem_singleton.mp hseg
    exact Utf8.isText_nil
  | cons c cs ih =>
    rw [List.flatMap_cons] at hseg
    by_cases hslash : slash ∈ String.utf8EncodeChar c
    · rw [utf8EncodeChar_of_slash_mem hslash, List.singleton_append, segments_slash] at hseg
      rcases List.mem_cons.mp hseg with rfl | hseg
      · exact Utf8.isText_nil
      · exact ih hseg
    · obtain ⟨first, segs, hsegs⟩ := List.exists_cons_of_ne_nil
        (segments_ne_nil (cs.flatMap String.utf8EncodeChar))
      rw [segments_append hslash hsegs] at hseg
      rcases List.mem_cons.mp hseg with rfl | hseg
      · exact (Utf8.isText_utf8EncodeChar c).append (ih (by simp [hsegs]))
      · exact ih (by simp [hsegs, hseg])

/-! ## Components -/

/-- A component that is text. -/
def Component.IsText : Component → Prop
  | .name n => Utf8.IsText n
  | _ => True

/-- The components of a path that is text are text. -/
theorem isText_of_mem_components (hp : p.IsText) {c : Component} (hc : c ∈ p.components) :
    c.IsText := by
  have hnamed : ∀ c ∈ (segments p.bytes).filterMap Component.ofSegment?, c.IsText := by
    intro c hc
    obtain ⟨seg, hseg, hof⟩ := List.mem_filterMap.mp hc
    unfold Component.ofSegment? at hof
    split at hof
    · cases hof
    · split at hof
      · cases hof
        trivial
      · cases hof
        exact isText_of_mem_segments hp hseg
  unfold components at hc
  simp only at hc
  split at hc
  · rcases List.mem_cons.mp hc with rfl | hc
    · trivial
    · exact hnamed c hc
  · split at hc
    · rcases List.mem_cons.mp hc with rfl | hc
      · trivial
      · exact hnamed c hc
    · exact hnamed c hc

/-- The segment of a component that is text is text. -/
theorem Component.IsText.segment {c : Component} (h : c.IsText) : Utf8.IsText c.segment := by
  cases c with
  | root => exact Utf8.isText_nil
  | current => exact ⟨".", rfl⟩
  | parent => exact ⟨"..", rfl⟩
  | name n => exact h

/-- Segments that are text make a text with slashes between them. -/
theorem isText_joinSegments {segs : List Bytes} (h : ∀ seg ∈ segs, Utf8.IsText seg) :
    Utf8.IsText (joinSegments segs) := by
  induction segs with
  | nil => exact Utf8.isText_nil
  | cons seg segs ih =>
    have hseg := h seg (by simp)
    have hsegs := ih fun seg hmem => h seg (by simp [hmem])
    cases segs with
    | nil => exact hseg
    | cons next segs => exact hseg.append (isText_slash.append hsegs)

/-- A path whose components are text is text. -/
theorem isText_ofComponents {cs : List Component} (h : ∀ c ∈ cs, c.IsText) :
    (ofComponents cs).IsText := by
  have hsegs : ∀ cs : List Component, (∀ c ∈ cs, c.IsText) →
      Utf8.IsText (joinSegments (cs.map Component.segment)) := by
    intro cs h
    refine isText_joinSegments fun seg hseg => ?_
    obtain ⟨c, hc, rfl⟩ := List.mem_map.mp hseg
    exact (h c hc).segment
  unfold ofComponents IsText
  split
  · rename_i steps
    exact isText_slash.append (hsegs steps fun c hc => h c (by simp [hc]))
  · exact hsegs cs h

end Path
end Container
