import Container.System

set_option autoImplicit false

/-!
# What a computation comes to

A computation is a function from a state to an outcome and a state. This module says what that
function is for each way in which computations are put together, so that the rest of the theory
can run a computation without looking at how computations are made.

## Main results

* `Act.run_bind` — one computation after another.
* `Act.run_call`, `Act.run_guarded`, `Act.run_onFailure` — a call, and a computation whose failure
  is caught or reported.
* `Slot.run_eq` — a computation on a part of the state.
-/

namespace Container

variable {σ τ υ α β ε : Type}

/-- What is made of a success when errors are renamed. -/
@[simp] theorem mapError_ok {ε' : Type} (f : ε → ε') (a : α) :
    (.ok a : Except ε α).mapError f = .ok a := rfl

/-- What is made of an error. -/
@[simp] theorem mapError_error {ε' : Type} (f : ε → ε') (e : ε) :
    (.error e : Except ε α).mapError f = .error (f e) := rfl

namespace Act

@[simp] theorem run_pure (a : α) (s : σ) : (pure a : Act σ α) s = (.ok a, s) := rfl

@[simp] theorem pure_apply (a : α) (s : σ) : (pure a : StateM σ α) s = (a, s) := rfl

/-- What changes the state and then does so again. -/
theorem bind_apply (m : StateM σ α) (next : α → StateM σ β) (s : σ) :
    (m >>= next) s = next (m s).1 (m s).2 := rfl

@[simp] theorem run_fail (f : Failure) (s : σ) :
    (Act.fail f : Act σ α) s = (.error (.failed f), s) := rfl

/-- What only changes the state does not fail. -/
@[simp] theorem run_lift (m : StateM σ α) (s : σ) :
    (liftM m : Act σ α) s = (.ok (m s).1, (m s).2) := rfl

/-- One computation after another: the second goes on from the state that the first left, unless
the first stopped. -/
@[simp] theorem run_bind (act : Act σ α) (next : α → Act σ β) (s : σ) :
    (act >>= next) s = match act s with
      | (.ok a, s) => next a s
      | (.error stop, s) => (.error stop, s) := by
  simp only [bind, ExceptT.bind, ExceptT.mk, StateT.bind, ExceptT.bindCont]
  rcases act s with ⟨_ | _, _⟩ <;> rfl

/-- A computation whose result is changed. -/
theorem run_map (f : α → β) (act : Act σ α) (s : σ) :
    (f <$> act) s = ((act s).1.map f, (act s).2) := by
  rw [map_eq_pure_bind, run_bind]
  rcases act s with ⟨_ | _, _⟩ <;> rfl

/-- A call fails with the failure made of its error. -/
@[simp] theorem run_call (m : StateM σ (Except ε α)) (failure : ε → Failure) (s : σ) :
    (Act.call m failure : Act σ α) s =
      ((m s).1.mapError fun e => .failed (failure e), (m s).2) := by
  simp only [Act.call, run_bind, run_lift]
  rcases m s with ⟨_ | _, _⟩ <;> rfl

/-- A computation whose failure is caught. -/
theorem run_guarded (act : Act σ α) (s : σ) :
    act.guarded s = match act s with
      | (.ok a, s) => (.ok (.ok a), s)
      | (.error (.failed f), s) => (.ok (.error f), s)
      | (.error .panicked, s) => (.error .panicked, s) := rfl

/-- A computation whose failure is reported. -/
theorem run_onFailure (act : Act σ α) (report : Failure → StateM σ Unit) (s : σ) :
    act.onFailure report s = match act s with
      | (.error (.failed f), s) => (.error (.failed f), (report f s).2)
      | r => r := rfl

end Act

namespace Slot

/-- The whole of a state. -/
def whole : Slot σ σ where
  get s := s
  set t _ := t

/-- One half of a state in two halves. -/
def first : Slot (σ × τ) σ where
  get s := s.1
  set a s := (a, s.2)

/-- The other half. -/
def second : Slot (σ × τ) τ where
  get s := s.2
  set b s := (s.1, b)

/-- What a computation on a part of the state answers, and what it leaves there. -/
theorem run_eq (slot : Slot σ τ) (act : StateM τ α) (s : σ) :
    slot.run act s = ((act (slot.get s)).1, slot.set (act (slot.get s)).2 s) := rfl

end Slot
end Container
