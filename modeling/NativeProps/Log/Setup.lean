import NativeProps.Failure
import NativeProps.Log.Record

/-!
# Setting up the log

* `loggerName`: the name of a logger, placed below the root logger unless it is there already.
* `Threshold`: the least level of records that are kept; a truth value counts as zero or one.
* `Handler`, `LogState`: the handlers of the root logger, and its state.
* `LogState.install`: attaches a handler for the console in place of those that are there.
* `LogState.setup`: installs the handler and sets the threshold. The handler is installed before the
  threshold is looked at.
-/

namespace NativeProps

/-- The name of a logger for the part of a program with a name. -/
def loggerName (name : String) : String :=
  let below := (rootLogger ++ ".").toList
  if name = rootLogger ∨ below.isPrefixOf name.toList then name else rootLogger ++ "." ++ name

/-- The least level of records that are kept. -/
inductive Threshold where
  | number (n : Int)
  | flag (b : Bool)
  deriving DecidableEq, Repr

namespace Threshold

/-- The number of a threshold. -/
def toInt : Threshold → Int
  | .number n => n
  | .flag b => if b then 1 else 0

/-- The thresholds that have a name. -/
def named : List (String × Int) :=
  [("CRITICAL", 50), ("FATAL", 50), ("ERROR", 40), ("WARN", 30), ("WARNING", 30), ("INFO", 20),
    ("DEBUG", 10), ("NOTSET", 0)]

/-- The threshold that a value stands for: a number, or the name of one. -/
def ofValue : Value → Except Failure Threshold
  | .int n => .ok (.number n)
  | .bool b => .ok (.flag b)
  | .string name =>
    match named.lookup name with
    | some n => .ok (.number n)
    | none => .error (.misuse (.unknownLevel name))
  | v => .error (.misuse (.notLevel v))

/-- Whether records of a level are kept. -/
def keeps (t : Threshold) (l : Level) : Bool := decide (t.toInt ≤ l.number)

end Threshold

/-- What the records of the root logger are handed to: they are dropped, or written to the
console. -/
inductive Handler where
  | silent
  | console
  deriving DecidableEq, Repr

/-- The threshold of the root logger and its handlers, in the order in which they were attached. -/
structure LogState where
  threshold : Threshold := .number 0
  attached : List Handler := [.silent]
  deriving DecidableEq, Repr

namespace LogState

/-- The number of handlers that write to the console. -/
def handlers (s : LogState) : Nat := s.attached.count .console

/-- Takes a handler away, if it is there. -/
def detach (s : LogState) (h : Handler) : LogState := { s with attached := s.attached.erase h }

/-- Takes a handler away for each of the given ones that writes to the console. -/
def detachEach (s : LogState) (hs : List Handler) : LogState :=
  hs.foldl (fun s h => if h = .console then s.detach h else s) s

/-- Takes the handlers for the console away and attaches one. What is gone through are the handlers
as they are at the start. -/
def install (s : LogState) : LogState :=
  let bare := s.detachEach s.attached
  { bare with attached := bare.attached ++ [.console] }

theorem filter_attached_of_bare {s : LogState} (h : s.handlers = 0) :
    s.attached.filter (· ≠ .console) = s.attached := by
  have hnone : .console ∉ s.attached := List.count_eq_zero.1 h
  refine List.filter_eq_self.2 fun a ha => ?_
  simpa using fun hconsole : a = .console => hnone (hconsole ▸ ha)

/-- Going through at least as many handlers for the console as there are takes all of them away, and
no other handler. -/
theorem detachEach_eq {s : LogState} {hs : List Handler} (h : s.handlers ≤ hs.count .console) :
    s.detachEach hs = { s with attached := s.attached.filter (· ≠ .console) } := by
  -- the bound carries the induction: a handler for the console is taken from both of its sides
  induction hs generalizing s with
  | nil =>
    rw [filter_attached_of_bare (Nat.le_zero.1 h)]
    rfl
  | cons first rest ih =>
    by_cases hfirst : first = .console
    · subst hfirst
      have hcount : (s.detach .console).handlers ≤ rest.count .console := by
        have herase : (s.detach .console).handlers = s.handlers - 1 := List.count_erase_self
        rw [List.count_cons_self] at h
        omega
      have hkept : (s.attached.erase .console).filter (· ≠ .console) =
          s.attached.filter (· ≠ .console) := by
        rw [← List.erase_filter, List.erase_of_not_mem (by simp)]
      calc s.detachEach (.console :: rest)
          = (s.detach .console).detachEach rest := rfl
        _ = { s with attached := (s.attached.erase .console).filter (· ≠ .console) } := ih hcount
        _ = { s with attached := s.attached.filter (· ≠ .console) } := by rw [hkept]
    · rw [List.count_cons_of_ne hfirst] at h
      rw [← ih h, detachEach, List.foldl_cons, if_neg hfirst]
      rfl

theorem install_eq (s : LogState) :
    s.install = { s with attached := s.attached.filter (· ≠ .console) ++ [.console] } := by
  rw [install, detachEach_eq (Nat.le_refl _)]

@[simp] theorem handlers_install (s : LogState) : s.install.handlers = 1 := by
  simp [install_eq, handlers, List.count_eq_zero]

/-- Sets up the log: the state after it, and whether the threshold was accepted. -/
def setup (s : LogState) (level : Value := .int Level.warning.number) :
    LogState × Except Failure Unit :=
  match Threshold.ofValue level with
  | .ok t => ({ s.install with threshold := t }, .ok ())
  | .error e => (s.install, .error e)

/-- Whatever the threshold, the handler is installed. -/
@[simp] theorem attached_setup (s : LogState) (level : Value) :
    (s.setup level).1.attached = s.install.attached := by
  unfold setup
  split <;> rfl

/-- A threshold that is not accepted leaves the one in force. -/
theorem threshold_setup_of_error {s : LogState} {level : Value} {e : Failure}
    (h : Threshold.ofValue level = .error e) : (s.setup level).1.threshold = s.threshold := by
  simp [setup, h, install_eq]

/-- The state after a sequence of setups. -/
def run (s : LogState) (levels : List Value) : LogState :=
  levels.foldl (fun s level => (s.setup level).1) s

end LogState

end NativeProps
