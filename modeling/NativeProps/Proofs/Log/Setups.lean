import NativeProps.Log.Setup

/-!
# Setting up the log again and again

The log may be set up any number of times, with values that are levels and with values that are
none. Each time the handler for the console is replaced, also where the value is refused afterwards,
so there is never more than one. The threshold in force is that of the last value accepted.

* `Threshold.Accepted`, `Threshold.Refused`: the values that are levels, and those that are none.
* `LogState.setup_cases`: all that a setup can do.
* `LogState.attached_run`: the handlers after any setups.
* `Threshold.InForce`, `LogState.inForce_run`: the threshold after any setups.
* `LogState.handlers_threshold_of_run`: both, from a log without a handler for the console.
-/

namespace NativeProps

/-! ### Levels -/

namespace Threshold

/-- The values that are accepted as a level, each with the threshold that it stands for: a number, a
truth value, or the name of a level. -/
inductive Accepted : Value → Threshold → Prop
  | number (n : Int) : Accepted (.int n) (.number n)
  | flag (b : Bool) : Accepted (.bool b) (.flag b)
  | name {name : String} {n : Int} (known : (name, n) ∈ named) : Accepted (.string name) (.number n)

/-- The values that are refused: texts that name no level, and what is neither a number, a truth
value nor a text. -/
inductive Refused : Value → Misuse → Prop
  | name {name : String} (unknown : ∀ n, (name, n) ∉ named) :
      Refused (.string name) (.unknownLevel name)
  | kind {v : Value} (number : v.kind ≠ .int) (flag : v.kind ≠ .bool) (text : v.kind ≠ .string) :
      Refused v (.notLevel v)

variable {v : Value} {t : Threshold} {m : Misuse} {f : Failure}

/-- No name stands for two thresholds. -/
theorem lookup_named_eq_some_iff {name : String} {n : Int} :
    named.lookup name = some n ↔ (name, n) ∈ named := by
  have first : ∀ e ∈ named, named.lookup e.1 = some e.2 := by decide
  refine ⟨fun h => ?_, fun h => first (name, n) h⟩
  obtain ⟨before, after, hsplit, -⟩ := List.lookup_eq_some_iff.1 h
  rw [hsplit]
  exact List.mem_append_right before List.mem_cons_self

theorem Accepted.ofValue (h : Accepted v t) : Threshold.ofValue v = .ok t := by
  cases h with
  | number n => rfl
  | flag b => rfl
  | name known => rw [Threshold.ofValue, lookup_named_eq_some_iff.2 known]

theorem Refused.ofValue (h : Refused v m) : Threshold.ofValue v = .error (.misuse m) := by
  cases h with
  | @name name unknown =>
    have hnone : named.lookup name = none :=
      Option.eq_none_iff_forall_ne_some.2 fun n hn => unknown n (lookup_named_eq_some_iff.1 hn)
    rw [Threshold.ofValue, hnone]
  | kind number flag text =>
    cases v with
    | int n => exact absurd rfl number
    | bool b => exact absurd rfl flag
    | string s => exact absurd rfl text
    | _ => rfl

theorem accepted_or_refused (v : Value) : (∃ t, Accepted v t) ∨ ∃ m, Refused v m := by
  cases v with
  | int n => exact .inl ⟨_, .number n⟩
  | bool b => exact .inl ⟨_, .flag b⟩
  | string name =>
    by_cases known : ∃ n, (name, n) ∈ named
    · obtain ⟨n, known⟩ := known
      exact .inl ⟨_, .name known⟩
    · exact .inr ⟨_, .name fun n hn => known ⟨n, hn⟩⟩
  | _ => exact .inr ⟨_, .kind nofun nofun nofun⟩

/-- The threshold in force after a sequence of values is that of the last one accepted, or the one
at the start. -/
inductive InForce (start : Threshold) : List Value → Threshold → Prop
  | start {values : List Value} (refused : ∀ v ∈ values, ∃ m, Refused v m) :
      InForce start values start
  | last {before after : List Value} {v : Value} {t : Threshold} (accepted : Accepted v t)
      (refused : ∀ w ∈ after, ∃ m, Refused w m) : InForce start (before ++ v :: after) t

variable {start r : Threshold} {values : List Value}

theorem InForce.cons_of_accepted (h : InForce t values r) (accepted : Accepted v t) :
    InForce start (v :: values) r := by
  cases h with
  | start refused => exact @InForce.last _ [] values v t accepted refused
  | @last before after w _ later refused =>
    exact @InForce.last _ (v :: before) after w r later refused

theorem InForce.cons_of_refused (h : InForce start values t) (refused : Refused v m) :
    InForce start (v :: values) t := by
  cases h with
  | start others => exact .start (List.forall_mem_cons.2 ⟨⟨m, refused⟩, others⟩)
  | @last before after w _ accepted others =>
    exact @InForce.last _ (v :: before) after w t accepted others

end Threshold

/-! ### Setups -/

namespace LogState

open Threshold

variable {s : LogState} {v : Value}

/-- A setup replaces the handler for the console, whether or not it accepts the value, and changes
the threshold only if it does. -/
theorem setup_cases (s : LogState) (v : Value) :
    (∃ t, Accepted v t ∧ s.setup v = ({ s.install with threshold := t }, .ok ())) ∨
      ∃ m, Refused v m ∧ s.setup v = (s.install, .error (.misuse m)) := by
  obtain ⟨t, accepted⟩ | ⟨m, refused⟩ := accepted_or_refused v
  · exact .inl ⟨t, accepted, by rw [setup, accepted.ofValue]⟩
  · exact .inr ⟨m, refused, by rw [setup, refused.ofValue]⟩

theorem setup_eq_ok_iff {t : Threshold} :
    (s.setup v).2 = .ok () ∧ (s.setup v).1.threshold = t ↔ Accepted v t := by
  constructor
  · rintro ⟨hok, rfl⟩
    obtain ⟨t, accepted, h⟩ | ⟨m, -, h⟩ := s.setup_cases v
    · rwa [h]
    · rw [h] at hok
      cases hok
  · intro accepted
    rw [setup, accepted.ofValue]
    exact ⟨rfl, rfl⟩

theorem setup_eq_error_iff {f : Failure} :
    (s.setup v).2 = .error f ↔ ∃ m, f = .misuse m ∧ Refused v m := by
  constructor
  · intro herror
    obtain ⟨t, -, h⟩ | ⟨m, refused, h⟩ := s.setup_cases v
    · rw [h] at herror
      cases herror
    · rw [h] at herror
      cases herror
      exact ⟨m, rfl, refused⟩
  · rintro ⟨m, rfl, refused⟩
    rw [setup, refused.ofValue]

/-- After any setups, but for none, the handlers are those after a single one. The induction is on
the values, with the state general. -/
theorem attached_run (s : LogState) (v : Value) (rest : List Value) :
    (s.run (v :: rest)).attached = s.install.attached := by
  induction rest generalizing s v with
  | nil => exact attached_setup s v
  | cons w rest ih =>
    have hagain : (s.setup v).1.install.attached = s.install.attached := by simp [install_eq]
    exact (ih (s.setup v).1 w).trans hagain

/-- Over any setups the threshold in force is that of the last value accepted. -/
theorem inForce_run (s : LogState) (values : List Value) :
    InForce s.threshold values (s.run values).threshold := by
  induction values generalizing s with
  | nil => exact .start (List.forall_mem_nil _)
  | cons v rest ih =>
    have hrest := ih (s.setup v).1
    show InForce s.threshold (v :: rest) ((s.setup v).1.run rest).threshold
    obtain ⟨t, accepted, h⟩ | ⟨m, refused, h⟩ := s.setup_cases v
    · rw [h] at hrest ⊢
      exact hrest.cons_of_accepted accepted
    · rw [h, install_eq] at hrest ⊢
      exact hrest.cons_of_refused refused

/-- **Handlers do not pile up and the threshold is not lost.** From a log without a handler for the
console and with threshold zero, any sequence of setups leaves one such handler behind the others,
or none if there was no setup. The threshold is that of the last value accepted, or zero. In every
state a setup accepts just the numbers, truth values and names of levels; it fails for a text that
names no level in one way and for any other value in another, and then the threshold stays. -/
theorem handlers_threshold_of_run {s : LogState} (level : s.threshold = .number 0)
    (bare : s.handlers = 0) (values : List Value) :
    (values = [] → (s.run values).handlers = 0) ∧
    (values ≠ [] → (s.run values).handlers = 1) ∧
    (s.run values).attached.filter (· ≠ .console) = s.attached ∧
    InForce (.number 0) values (s.run values).threshold ∧
    ∀ (u : LogState) (v : Value),
      (∀ t, (u.setup v).2 = .ok () ∧ (u.setup v).1.threshold = t ↔ Accepted v t) ∧
      (∀ f, (u.setup v).2 = .error f ↔ ∃ m, f = .misuse m ∧ Refused v m) ∧
      ∀ f, (u.setup v).2 = .error f → (u.setup v).1.threshold = u.threshold := by
  have hothers := filter_attached_of_bare bare
  refine ⟨?none, ?some, ?others, level ▸ inForce_run s values, fun u v => ⟨fun t => setup_eq_ok_iff,
    fun f => setup_eq_error_iff, fun f herror => ?refused⟩⟩
  case none =>
    rintro rfl
    exact bare
  case some =>
    intro hvalues
    obtain ⟨v, rest, rfl⟩ := List.exists_cons_of_ne_nil hvalues
    rw [handlers, attached_run]
    exact handlers_install s
  case others =>
    cases values with
    | nil => exact hothers
    | cons v rest =>
      rw [attached_run, install_eq, hothers, List.filter_append, hothers]
      simp
  case refused =>
    obtain ⟨m, rfl, refused⟩ := setup_eq_error_iff.1 herror
    exact threshold_setup_of_error refused.ofValue

/-- A level by name, a number, a name in lower case and no level at all. -/
theorem handlers_threshold_of_run_refused :
    let s : LogState := {}
    let values : List Value := [.string "DEBUG", .int 25, .string "debug", .null]
    s.threshold = .number 0 ∧ s.handlers = 0 ∧ (s.run values).handlers = 1 ∧
      InForce (.number 0) values (.number 25) ∧
      ((s.run [.string "DEBUG", .int 25]).setup (.string "debug")).2 =
        .error (.misuse (.unknownLevel "debug")) := by
  intro s values
  have level : s.threshold = .number 0 := rfl
  have bare : s.handlers = 0 := rfl
  obtain ⟨-, some, -, inForce, setups⟩ := handlers_threshold_of_run level bare values
  obtain ⟨-, failures, -⟩ := setups (s.run [.string "DEBUG", .int 25]) (.string "debug")
  have unknown : ∀ n, ("debug", n) ∉ named := by simp [named]
  have threshold : (s.run values).threshold = .number 25 := by decide +kernel
  exact ⟨level, bare, some (List.cons_ne_nil _ _), threshold ▸ inForce,
    (failures _).2 ⟨_, rfl, .name unknown⟩⟩

end LogState

end NativeProps
