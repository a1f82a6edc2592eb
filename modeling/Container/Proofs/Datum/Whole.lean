import Container.Datum.Record

set_option autoImplicit false

/-!
# Values that are legible in all their parts

What has no part that is missing or that cannot be told can be passed over unread, and can be held
back until the kind of the record around it is known.

## Main definitions

* `Datum.Whole` — values all of whose parts are legible.

## Main results

* `Datum.Whole.fault?` — they can be passed over.
* `Datum.Whole.exists_hold` — they can be held back.
-/

namespace Container.Datum

/-! ## Passing over -/

/-- Items that can all be passed over. -/
theorem faultOfItems?_eq_none {items : List Datum} (h : ∀ item ∈ items, item.fault? = none) :
    faultOfItems? items = none := by
  induction items with
  | nil => rfl
  | cons item items ih =>
    rw [faultOfItems?, h item List.mem_cons_self]
    exact ih fun item hitem => h item (List.mem_cons_of_mem _ hitem)

/-- Entries that can all be passed over. -/
theorem faultOfEntries?_eq_none {entries : List (Datum × Datum)}
    (hkeys : ∀ e ∈ entries, e.1.fault? = none) (hvalues : ∀ e ∈ entries, e.2.fault? = none) :
    faultOfEntries? entries = none := by
  induction entries with
  | nil => rfl
  | cons e entries ih =>
    rw [faultOfEntries?, hkeys e List.mem_cons_self, hvalues e List.mem_cons_self]
    exact ih (fun e he => hkeys e (List.mem_cons_of_mem _ he))
      fun e he => hvalues e (List.mem_cons_of_mem _ he)

/-! ## Holding back -/

/-- Values all of whose parts are legible. -/
inductive Whole : Datum → Prop
  | null : Whole .null
  | bool (b : Bool) : Whole (.bool b)
  | natural (n : Nat) (width : Width) : Whole (.natural n width)
  | integer (i : Int) : Whole (.integer i)
  | float (bits : UInt64) : Whole (.float bits)
  | text (s : String) : Whole (.text s)
  | garbled (bs : Bytes) : Whole (.garbled bs)
  | bytes (bs : Bytes) : Whole (.bytes bs)
  | sequence {items : List Datum} (hitems : ∀ item ∈ items, Whole item) : Whole (.sequence items)
  | map {entries : List (Datum × Datum)} (hkeys : ∀ entry ∈ entries, Whole entry.1)
      (hvalues : ∀ entry ∈ entries, Whole entry.2) : Whole (.map entries)

namespace Whole

/-- Items that can be held back one by one can be held back together. -/
theorem exists_holdItems {items : List Datum}
    (h : ∀ item ∈ items, ∃ d, item.hold none = .ok d ∧ Whole d) (held : List Datum)
    (hheld : ∀ item ∈ held, Whole item) :
    ∃ items', holdItems none items held = .ok items' ∧ ∀ item ∈ items', Whole item := by
  induction items generalizing held with
  | nil => exact ⟨held.reverse, by rw [holdItems], by simpa using hheld⟩
  | cons item items ih =>
    obtain ⟨d, hhold, hd⟩ := h item List.mem_cons_self
    rw [holdItems, hhold]
    exact ih (fun item hitem => h item (List.mem_cons_of_mem _ hitem)) (d :: held)
      (List.forall_mem_cons.mpr ⟨hd, hheld⟩)

/-- Entries whose keys and values can be held back one by one can be held back together. -/
theorem exists_holdEntries {entries : List (Datum × Datum)}
    (hkeys : ∀ e ∈ entries, ∃ d, e.1.hold none = .ok d ∧ Whole d)
    (hvalues : ∀ e ∈ entries, ∃ d, e.2.hold none = .ok d ∧ Whole d) (held : List (Datum × Datum))
    (hheld : ∀ e ∈ held, Whole e.1 ∧ Whole e.2) :
    ∃ entries', holdEntries none entries held = .ok entries' ∧
      ∀ e ∈ entries', Whole e.1 ∧ Whole e.2 := by
  induction entries generalizing held with
  | nil => exact ⟨held.reverse, by rw [holdEntries], by simpa using hheld⟩
  | cons e entries ih =>
    obtain ⟨k, hk, hkey⟩ := hkeys e List.mem_cons_self
    obtain ⟨v, hv, hvalue⟩ := hvalues e List.mem_cons_self
    rw [holdEntries, hk]
    simp only [bind, Except.bind, hv]
    exact ih (fun e he => hkeys e (List.mem_cons_of_mem _ he))
      (fun e he => hvalues e (List.mem_cons_of_mem _ he)) ((k, v) :: held)
      (List.forall_mem_cons.mpr ⟨⟨hkey, hvalue⟩, hheld⟩)

/-- What is legible in all its parts can be held back, and remains so. -/
theorem exists_hold {d : Datum} (h : Whole d) : ∃ d', d.hold none = .ok d' ∧ Whole d' := by
  induction h with
  | null => exact ⟨_, by rw [hold] <;> simp, .null⟩
  | bool b => exact ⟨_, by rw [hold] <;> simp, .bool b⟩
  | natural n width => exact ⟨_, by rw [hold] <;> simp, .natural n width⟩
  | integer i => exact ⟨_, by rw [hold] <;> simp, .integer i⟩
  | float bits => exact ⟨_, by rw [hold] <;> simp, .float bits⟩
  | text s => exact ⟨_, by rw [hold] <;> simp, .text s⟩
  | garbled bs => exact ⟨_, by rw [hold], .bytes bs⟩
  | bytes bs => exact ⟨_, by rw [hold] <;> simp, .bytes bs⟩
  | sequence hitems ih =>
    obtain ⟨items, hhold, hall⟩ := exists_holdItems ih [] (by simp)
    refine ⟨.sequence items, ?_, .sequence hall⟩
    rw [hold, if_neg (by simp), Option.map_none, hhold]
    rfl
  | map hkeys hvalues ihkeys ihvalues =>
    obtain ⟨entries, hhold, hall⟩ := exists_holdEntries ihkeys ihvalues [] (by simp)
    refine ⟨.map entries, ?_, .map (fun e he => (hall e he).1) fun e he => (hall e he).2⟩
    rw [hold, if_neg (by simp), Option.map_none, hhold]
    rfl

/-- What is legible in all its parts can be passed over. -/
theorem fault? {d : Datum} (h : Whole d) : d.fault? = none := by
  induction h with
  | sequence hitems ih =>
    rw [Datum.fault?]
    exact faultOfItems?_eq_none ih
  | map hkeys hvalues ihkeys ihvalues =>
    rw [Datum.fault?]
    exact faultOfEntries?_eq_none ihkeys ihvalues
  | _ => rfl

end Whole

end Container.Datum
