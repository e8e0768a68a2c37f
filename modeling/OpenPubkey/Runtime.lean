import Mathlib.Logic.Basic

set_option autoImplicit false

/-!
# Go results

A Go call either returns, returns a non-nil `error`, or panics. None of the
modelled functions recovers, so a panic unwinds every caller; `Go` is the
exception monad over the two ways of not returning.
-/

namespace OpenPubkey

inductive Failure where
  | error (message : String)
  | panic (reason : String)
deriving DecidableEq, Repr

abbrev Go := Except Failure

def nilDereference : String := "invalid memory address or nil pointer dereference"

def notString : String := "interface conversion: interface {} is not string"

instance instDecidableEqExcept {ε α : Type} [DecidableEq ε] [DecidableEq α] : DecidableEq (Except ε α)
  | .ok a, .ok b => if same : a = b then isTrue (same ▸ rfl) else isFalse fun h => same (Except.ok.inj h)
  | .error e, .error e' => if same : e = e' then isTrue (same ▸ rfl) else isFalse fun h => same (Except.error.inj h)
  | .ok _, .error _ => isFalse nofun
  | .error _, .ok _ => isFalse nofun

namespace Go

variable {α β : Type}

def fail (message : String) : Go α := .error (.error message)

def crash (reason : String) : Go α := .error (.panic reason)

/-- `fmt.Errorf(prefix + "%w", err)`: a returned error gets the prefix, a panic passes. -/
def wrap (pre : String) : Go α → Go α
  | .error (.error message) => .error (.error (pre ++ message))
  | result => result

def lift : Except String α → Go α
  | .ok a => .ok a
  | .error message => .error (.error message)

/-- The `err` of `if err := f(); err != nil && cond { return err }`, read as a value. -/
def errOf : Go Unit → Go (Option String)
  | .ok () => .ok none
  | .error (.error message) => .ok (some message)
  | .error (.panic reason) => .error (.panic reason)

def failIf (cond : Prop) [Decidable cond] (message : String) : Go Unit :=
  if cond then fail message else pure ()

def expect (message : String) : Option α → Go α
  | some a => .ok a
  | none => fail message

def assert (reason : String) : Option α → Go α
  | some a => .ok a
  | none => crash reason

def Panics (result : Go α) : Prop := ∃ reason, result = .error (.panic reason)

@[simp] theorem exists_unit (p : Unit → Prop) : (∃ u, p u) ↔ p () :=
  ⟨fun ⟨(), h⟩ => h, fun h => ⟨(), h⟩⟩

@[simp] theorem bind_eq_ok (x : Go α) (f : α → Go β) (b : β) :
    (x >>= f) = .ok b ↔ ∃ a, x = .ok a ∧ f a = .ok b := by
  cases x <;> simp [bind, Except.bind]

@[simp] theorem pure_eq (a : α) : (pure a : Go α) = .ok a := rfl

@[simp] theorem ok_bind (a : α) (f : α → Go β) : (Except.ok a >>= f) = f a := rfl

@[simp] theorem fail_bind (message : String) (f : α → Go β) : (fail message >>= f) = fail message := rfl

@[simp] theorem crash_bind (reason : String) (f : α → Go β) : (crash reason >>= f) = crash reason := rfl

@[simp] theorem fail_ne_ok (message : String) (a : α) : (fail message : Go α) ≠ .ok a := by
  simp [fail]

@[simp] theorem crash_ne_ok (reason : String) (a : α) : (crash reason : Go α) ≠ .ok a := by
  simp [crash]

@[simp] theorem throw_ne_ok (e : Failure) (a : α) : (throw e : Go α) ≠ .ok a := by
  simp [throw, throwThe, MonadExceptOf.throw]

@[simp] theorem wrap_eq_ok (pre : String) (x : Go α) (a : α) : wrap pre x = .ok a ↔ x = .ok a := by
  rcases x with (_ | _) | _ <;> simp [wrap]

@[simp] theorem lift_eq_ok (x : Except String α) (a : α) : lift x = .ok a ↔ x = .ok a := by
  cases x <;> simp [lift]

@[simp] theorem assert_eq_ok (reason : String) (x : Option α) (a : α) :
    assert reason x = .ok a ↔ x = some a := by
  cases x <;> simp [assert]

@[simp] theorem failIf_eq_ok (cond : Prop) [Decidable cond] (message : String) (u : Unit) :
    failIf cond message = .ok u ↔ ¬cond := by
  by_cases h : cond <;> simp [failIf, h]

@[simp] theorem expect_eq_ok (message : String) (x : Option α) (a : α) :
    expect message x = .ok a ↔ x = some a := by
  cases x <;> simp [expect]

@[simp] theorem errOf_eq_ok_none (x : Go Unit) : errOf x = .ok none ↔ x = .ok () := by
  rcases x with (_ | _) | _ <;> simp [errOf]

@[simp] theorem errOf_eq_ok_some (x : Go Unit) (message : String) :
    errOf x = .ok (some message) ↔ x = .error (.error message) := by
  rcases x with (_ | _) | _ <;> simp [errOf]

theorem errOf_eq_panic (x : Go Unit) (reason : String) :
    errOf x = .error (.panic reason) ↔ x = .error (.panic reason) := by
  rcases x with (_ | _) | _ <;> simp [errOf]

theorem errOf_panics_iff (x : Go Unit) : Panics (errOf x) ↔ Panics x := by
  rcases x with (_ | _) | _ <;> simp [Panics, errOf]

@[simp] theorem ok_not_panics (a : α) : ¬Panics (.ok a : Go α) := by
  simp [Panics]

@[simp] theorem fail_not_panics (message : String) : ¬Panics (fail message : Go α) := by
  simp [Panics, fail]

@[simp] theorem crash_panics (reason : String) : Panics (crash reason : Go α) := ⟨reason, rfl⟩

@[simp] theorem lift_not_panics (x : Except String α) : ¬Panics (lift x) := by
  cases x <;> simp [lift, Panics]

@[simp] theorem failIf_not_panics (cond : Prop) [Decidable cond] (message : String) :
    ¬Panics (failIf cond message) := by
  by_cases h : cond <;> simp [failIf, h]

@[simp] theorem expect_not_panics (message : String) (x : Option α) : ¬Panics (expect message x) := by
  cases x <;> simp [expect]

@[simp] theorem assert_panics (reason : String) (x : Option α) : Panics (assert reason x) ↔ x = none := by
  cases x <;> simp [assert]

@[simp] theorem bind_panics_iff (x : Go α) (f : α → Go β) :
    Panics (x >>= f) ↔ Panics x ∨ ∃ a, x = .ok a ∧ Panics (f a) := by
  rcases x with (_ | _) | _ <;> simp [Panics, bind, Except.bind]

theorem bind_panics (x : Go α) (f : α → Go β) (panics : Panics x) : Panics (x >>= f) :=
  (bind_panics_iff x f).2 (.inl panics)

@[simp] theorem wrap_panics_iff (pre : String) (x : Go α) : Panics (wrap pre x) ↔ Panics x := by
  rcases x with (_ | _) | _ <;> simp [Panics, wrap]

theorem wrap_panics (pre : String) (x : Go α) (panics : Panics x) : Panics (wrap pre x) :=
  (wrap_panics_iff pre x).2 panics

theorem panics_ne_ok (x : Go α) (panics : Panics x) (a : α) : x ≠ .ok a := by
  obtain ⟨reason, rfl⟩ := panics
  simp

end Go

end OpenPubkey
