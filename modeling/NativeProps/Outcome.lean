import NativeProps.Failure
import NativeProps.Log.Record

/-!
# Outcomes

`Outcome α` is what a computation comes to: an answer or a failure, and the records written on the
way. Records outlive a failure.

* `Outcome.fault`, `Outcome.misuse`: failing.
* `Outcome.log`: writing a record.
* Outcomes form a lawful monad; a failure ends a sequence and keeps the records before it.
-/

namespace NativeProps

/-- An answer or a failure, with the records written on the way to it. -/
structure Outcome (α : Type) where
  records : List Record
  result : Except Failure α

namespace Outcome

variable {α β : Type}

/-- The answer without records. -/
@[inline] def pure (a : α) : Outcome α := ⟨[], .ok a⟩

/-- Goes on with the answer of an outcome. -/
@[inline] def bind (x : Outcome α) (f : α → Outcome β) : Outcome β :=
  match x.result with
  | .ok a => ⟨x.records ++ (f a).records, (f a).result⟩
  | .error e => ⟨x.records, .error e⟩

instance : Monad Outcome where
  pure := pure
  bind := bind

/-- The failure without records. -/
def fail (e : Failure) : Outcome α := ⟨[], .error e⟩

/-- Reports a fault. -/
def fault (f : Fault) : Outcome α := fail (.fault f)

/-- Ends in a misuse. -/
def misuse (m : Misuse) : Outcome α := fail (.misuse m)

/-- Writes a record. -/
def log (level : Level) (logger : Logger) (message : String) : Outcome Unit :=
  ⟨[⟨level, logger, message⟩], .ok ()⟩

/-- The outcome of a computation that writes no records. -/
def ofExcept (x : Except Failure α) : Outcome α := ⟨[], x⟩

instance : MonadLift (Except Failure) Outcome := ⟨ofExcept⟩

/-! ### The parts of an outcome -/

@[simp] theorem result_pure (a : α) : (Pure.pure a : Outcome α).result = .ok a := rfl

@[simp] theorem result_fault (f : Fault) : (fault f : Outcome α).result = .error (.fault f) := rfl

@[simp] theorem result_misuse (m : Misuse) :
    (misuse m : Outcome α).result = .error (.misuse m) := rfl

@[simp] theorem result_log (level : Level) (logger : Logger) (message : String) :
    (log level logger message).result = .ok () := rfl

@[simp] theorem result_liftM (x : Except Failure α) : (liftM x : Outcome α).result = x := rfl

theorem result_bind (x : Outcome α) (f : α → Outcome β) :
    (x >>= f).result = x.result.bind fun a => (f a).result := by
  obtain ⟨_, _ | _⟩ := x <;> rfl

@[simp] theorem result_map (f : α → β) (x : Outcome α) : (f <$> x).result = x.result.map f := by
  obtain ⟨_, _ | _⟩ := x <;> rfl

theorem bind_of_ok {x : Outcome α} {a : α} (h : x.result = .ok a) (f : α → Outcome β) :
    x >>= f = ⟨x.records ++ (f a).records, (f a).result⟩ := by
  obtain ⟨_, r⟩ := x
  subst h
  rfl

theorem bind_of_error {x : Outcome α} {e : Failure} (h : x.result = .error e)
    (f : α → Outcome β) : x >>= f = ⟨x.records, .error e⟩ := by
  obtain ⟨_, r⟩ := x
  subst h
  rfl

instance : LawfulMonad Outcome := LawfulMonad.mk' Outcome
  (by
    rintro α ⟨r, _ | _⟩
    · rfl
    · exact congrArg (Outcome.mk · _) (List.append_nil r))
  (by intros; rfl)
  (by
    rintro α β γ ⟨r, e | a⟩ f g
    · rfl
    · change bind (bind ⟨r, .ok a⟩ f) g = bind ⟨r, .ok a⟩ fun x => bind (f x) g
      rcases h : f a with ⟨s, _ | _⟩ <;> simp [bind, h])

end Outcome

end NativeProps
