import NativeProps.Console.Item
import NativeProps.Outcome

/-!
# Printing

`Printing α` is what a computation that prints comes to: all that it printed, in order, and an
outcome. What is printed stays when the computation fails.

* `Printing.print`: printing items.
* An outcome is a computation that prints nothing. A failure ends a sequence.
-/

namespace NativeProps

/-- What was printed on the way to an outcome. -/
structure Printing (α : Type) where
  printed : List Console.Item
  outcome : Outcome α

namespace Printing

variable {α β : Type}

/-- The answer of a printing computation, or its failure. -/
def result (x : Printing α) : Except Failure α := x.outcome.result

/-- The outcome on the way to which nothing is printed. -/
def ofOutcome (x : Outcome α) : Printing α := ⟨[], x⟩

instance : MonadLift Outcome Printing := ⟨ofOutcome⟩

/-- Goes on with the answer of a printing computation. -/
def bind (x : Printing α) (f : α → Printing β) : Printing β where
  printed := x.printed ++ (match x.result with
    | .ok a => (f a).printed
    | .error _ => [])
  outcome := x.outcome >>= fun a => (f a).outcome

instance : Monad Printing where
  pure a := ofOutcome (pure a)
  bind := bind

/-- Prints items. -/
def print (items : List Console.Item) : Printing Unit := ⟨items, pure ()⟩

/-! ### The parts of a printing computation -/

@[simp] theorem result_pure (a : α) : (Pure.pure a : Printing α).result = .ok a := rfl

@[simp] theorem printed_pure (a : α) : (Pure.pure a : Printing α).printed = [] := rfl

@[simp] theorem result_liftM (x : Outcome α) : (liftM x : Printing α).result = x.result := rfl

theorem result_bind (x : Printing α) (f : α → Printing β) :
    (x >>= f).result = x.result.bind fun a => (f a).result :=
  Outcome.result_bind x.outcome fun a => (f a).outcome

theorem printed_bind_of_ok {x : Printing α} {a : α} (h : x.result = .ok a)
    (f : α → Printing β) : (x >>= f).printed = x.printed ++ (f a).printed := by
  show x.printed ++ _ = _
  rw [h]

theorem printed_bind_of_error {x : Printing α} {e : Failure} (h : x.result = .error e)
    (f : α → Printing β) : (x >>= f).printed = x.printed := by
  show x.printed ++ _ = _
  rw [h, List.append_nil]

end Printing

end NativeProps
