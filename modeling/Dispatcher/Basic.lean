import Mathlib.Tactic.Common
import Mathlib.Algebra.Group.Nat.Basic

/-! Words, concerns, abi tokens and the `error_chain` errors the crates share. -/

namespace Dispatcher

instance exceptDecidableEq {ε α : Type} [DecidableEq ε] [DecidableEq α] :
    DecidableEq (Except ε α)
  | .ok a, .ok b => decidable_of_iff (a = b) (by simp)
  | .error a, .error b => decidable_of_iff (a = b) (by simp)
  | .ok _, .error _ => isFalse Except.noConfusion
  | .error _, .ok _ => isFalse Except.noConfusion

abbrev Address := BitVec 160

abbrev H256 := BitVec 256

abbrev U256 := BitVec 256

structure Concern where
  contractAddress : Address
  userAddress : Address
deriving DecidableEq, Hashable, Repr

inductive ErrorKind where
  | msg (text : String)
  | invalidContractState (text : String)
  | invalidConfig (text : String)
deriving DecidableEq, Repr

/-- An `error_chain` error: `Error::from(kind)`, or `chain_err(|| text)` over the error it
wraps. A Rust panic is a failure of its own, so that no caller can mistake it for `Ok`. -/
inductive Error where
  | ofKind (kind : ErrorKind)
  | chain (text : String) (cause : Error)
  | panic (text : String)
deriving DecidableEq, Repr

def chainErr {α : Type} (r : Except Error α) (text : String) : Except Error α :=
  match r with
  | .ok a => .ok a
  | .error e => .error (.chain text e)

def okOr {α : Type} (o : Option α) (e : Error) : Except Error α :=
  match o with
  | some a => .ok a
  | none => .error e

@[simp] theorem chainErr_ok {α : Type} (a : α) (text : String) :
    chainErr (.ok a) text = .ok a := rfl

@[simp] theorem chainErr_error {α : Type} (e : Error) (text : String) :
    chainErr (.error e : Except Error α) text = .error (.chain text e) := rfl

@[simp] theorem okOr_some {α : Type} (a : α) (e : Error) : okOr (some a) e = .ok a := rfl

@[simp] theorem okOr_none {α : Type} (e : Error) : okOr (none : Option α) e = .error e := rfl

@[simp] theorem except_ok_bind {α β : Type} (a : α) (f : α → Except Error β) :
    (Except.ok a >>= f) = f a := rfl

@[simp] theorem except_error_bind {α β : Type} (e : Error) (f : α → Except Error β) :
    (Except.error e >>= f) = .error e := rfl

@[simp] theorem except_pure {α : Type} (a : α) : (pure a : Except Error α) = .ok a := rfl

theorem except_bind_eq_ok {α β : Type} {x : Except Error α} {f : α → Except Error β}
    {b : β} : (x >>= f) = .ok b ↔ ∃ a, x = .ok a ∧ f a = .ok b := by
  cases x <;> simp

theorem except_bind_eq_error {α β : Type} {x : Except Error α} {f : α → Except Error β}
    {e : Error} : (x >>= f) = .error e ↔ x = .error e ∨ ∃ a, x = .ok a ∧ f a = .error e := by
  cases x <;> simp

@[simp] theorem okOr_eq_ok {α : Type} {o : Option α} {e : Error} {a : α} :
    okOr o e = .ok a ↔ o = some a := by
  cases o <;> simp

@[simp] theorem okOr_eq_error {α : Type} {o : Option α} {e' e : Error} :
    okOr o e' = .error e ↔ o = none ∧ e = e' := by
  cases o <;> simp [eq_comm]

@[simp] theorem chainErr_eq_ok {α : Type} {r : Except Error α} {text : String} {a : α} :
    chainErr r text = .ok a ↔ r = .ok a := by
  cases r <;> simp

@[simp] theorem chainErr_eq_error {α : Type} {r : Except Error α} {text : String} {e : Error} :
    chainErr r text = .error e ↔ ∃ cause, r = .error cause ∧ e = .chain text cause := by
  cases r <;> simp [eq_comm]

inductive Token where
  | address (a : Address)
  | fixedBytes (bytes : List UInt8)
  | uint (n : U256)
deriving DecidableEq, Repr

inductive Strategy where
  | simplest
deriving DecidableEq, Repr

end Dispatcher
