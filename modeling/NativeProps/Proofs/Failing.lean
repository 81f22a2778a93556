import Mathlib.Data.List.Forall2
import NativeProps.Outcome

/-!
# The ways in which a computation can fail

* `bind_eq_ok_iff`, `bind_eq_error_iff`, `map_eq_ok_iff`, `map_eq_error_iff`: how a sequence ends.
* `mapM_eq_ok_iff`, `mapM_append_of_error`, `exists_first_of_mapM_eq_error`: how it ends for the
  elements of a list.
* `FailsOnly`: a computation fails in no other way than a predicate allows. It passes through
  sequences, so that a bound on the failures of the parts is one on those of the whole.
* `Failure.Unknown`, `Failure.LacksDefault`, `Failure.OfSpelling`: failures for a value that no case
  provides for, for want of a default, and for the spelling of a name or number.
-/

namespace NativeProps

section Sequences

variable {ε α β : Type} {x : Except ε α} {e : ε} {b : β}

theorem bind_eq_ok_iff {g : α → Except ε β} :
    x.bind g = .ok b ↔ ∃ a, x = .ok a ∧ g a = .ok b := by
  cases x <;> simp [Except.bind]

theorem bind_eq_error_iff {g : α → Except ε β} :
    x.bind g = .error e ↔ x = .error e ∨ ∃ a, x = .ok a ∧ g a = .error e := by
  cases x <;> simp [Except.bind]

theorem map_eq_ok_iff {g : α → β} : x.map g = .ok b ↔ ∃ a, x = .ok a ∧ g a = b := by
  cases x <;> simp [Except.map]

theorem map_eq_error_iff {g : α → β} : x.map g = .error e ↔ x = .error e := by
  cases x <;> simp [Except.map]

theorem mapM_eq_ok_iff {g : α → Except ε β} {xs : List α} {ys : List β} :
    xs.mapM g = .ok ys ↔ List.Forall₂ (fun x y => g x = .ok y) xs ys := by
  induction xs generalizing ys with
  | nil => simp [Pure.pure, Except.pure, eq_comm]
  | cons x rest ih =>
    rw [List.mapM_cons, List.forall₂_cons_left_iff]
    refine bind_eq_ok_iff.trans ⟨?_, ?_⟩
    · rintro ⟨y, hy, h⟩
      obtain ⟨more, hmore, ⟨⟩⟩ := bind_eq_ok_iff.1 h
      exact ⟨y, more, hy, ih.1 hmore, rfl⟩
    · rintro ⟨y, more, hy, hmore, rfl⟩
      exact ⟨y, hy, bind_eq_ok_iff.2 ⟨more, ih.2 hmore, rfl⟩⟩

theorem exists_of_forall₂ {R : α → β → Prop} {xs : List α} {ys : List β}
    (h : List.Forall₂ R xs ys) {x : α} (hx : x ∈ xs) : ∃ y ∈ ys, R x y := by
  induction h with
  | nil => cases hx
  | @cons a y rest more hy _ ih =>
    rcases List.mem_cons.1 hx with rfl | hx
    · exact ⟨y, List.mem_cons_self, hy⟩
    · obtain ⟨z, hz, hR⟩ := ih hx
      exact ⟨z, List.mem_cons_of_mem y hz, hR⟩

theorem mapM_append_of_error {g : α → Except ε β} {before after : List α} {x : α}
    (passed : ∀ y ∈ before, ∃ b, g y = .ok b) (h : g x = .error e) :
    (before ++ x :: after).mapM g = .error e := by
  induction before with
  | nil =>
    rw [List.nil_append, List.mapM_cons, h]
    rfl
  | cons y rest ih =>
    obtain ⟨b, hy⟩ := passed y List.mem_cons_self
    have hrest := ih fun z hz => passed z (List.mem_cons_of_mem y hz)
    rw [List.cons_append, List.mapM_cons, hy, hrest]
    rfl

/-- A failure is that of the first element that fails. -/
theorem exists_first_of_mapM_eq_error {g : α → Except ε β} {xs : List α}
    (h : xs.mapM g = .error e) :
    ∃ before x after, xs = before ++ x :: after ∧ (∀ y ∈ before, ∃ b, g y = .ok b) ∧
      g x = .error e := by
  induction xs with
  | nil => cases h
  | cons x rest ih =>
    rw [List.mapM_cons] at h
    rcases bind_eq_error_iff.1 h with hx | ⟨b, hx, h⟩
    · exact ⟨[], x, rest, rfl, List.forall_mem_nil _, hx⟩
    · rcases bind_eq_error_iff.1 h with hrest | ⟨more, -, ⟨⟩⟩
      obtain ⟨before, y, after, rfl, passed, hfail⟩ := ih hrest
      exact ⟨x :: before, y, after, rfl, List.forall_mem_cons.2 ⟨⟨b, hx⟩, passed⟩, hfail⟩

/-- Where all elements that fail do so in one way, it does not matter which of them is the first. -/
theorem mapM_eq_error_iff {g : α → Except ε β} {xs : List α}
    (only : ∀ x e', g x = .error e' → e' = e) :
    xs.mapM g = .error e ↔ ∃ x ∈ xs, g x = .error e := by
  have hmem (e' : ε) (h : xs.mapM g = .error e') : ∃ x ∈ xs, g x = .error e' := by
    obtain ⟨before, x, after, rfl, -, hx⟩ := exists_first_of_mapM_eq_error h
    exact ⟨x, List.mem_append_right before List.mem_cons_self, hx⟩
  refine ⟨hmem e, ?_⟩
  rintro ⟨x, hx, hfail⟩
  cases h : xs.mapM g with
  | error e' =>
    obtain ⟨y, -, hy⟩ := hmem e' h
    rw [only y e' hy]
  | ok ys =>
    -- no element fails where the whole list passes
    obtain ⟨y, -, hy⟩ := exists_of_forall₂ (mapM_eq_ok_iff.1 h) hx
    rw [hfail] at hy
    cases hy

end Sequences

/-- The computation fails in no other way than the predicate allows. -/
def FailsOnly {α : Type} (P : Failure → Prop) (x : Except Failure α) : Prop :=
  ∀ f, x = .error f → P f

namespace FailsOnly

variable {α β : Type} {P Q : Failure → Prop} {x : Except Failure α}

theorem of_ok {a : α} (h : x = .ok a) : FailsOnly P x := by
  intro f hf
  rw [h] at hf
  cases hf

theorem of_error {g : Failure} (h : x = .error g) (hg : P g) : FailsOnly P x := by
  intro f hf
  rw [h] at hf
  cases hf
  exact hg

theorem mono (h : FailsOnly P x) (hPQ : ∀ f, P f → Q f) : FailsOnly Q x :=
  fun f hf => hPQ f (h f hf)

theorem bind {g : α → Except Failure β} (hx : FailsOnly P x)
    (hg : ∀ a, x = .ok a → FailsOnly P (g a)) : FailsOnly P (x.bind g) := by
  cases hx' : x with
  | ok a => exact hg a hx'
  | error f => exact of_error rfl (hx f hx')

theorem map (g : α → β) (hx : FailsOnly P x) : FailsOnly P (x.map g) := by
  cases hx' : x with
  | ok a => exact of_ok rfl
  | error f => exact of_error rfl (hx f hx')

end FailsOnly

namespace Failure

/-- A value was met that no case provides for. -/
inductive Unknown : Failure → Prop
  | type (v : Value) : Unknown (.fault (.unknownType v))
  | primitive (v : Value) : Unknown (.fault (.unknownPrimitive v))

/-- A default is wanting. -/
inductive LacksDefault : Failure → Prop
  | mk (need : Need) (property : Value) : LacksDefault (.fault (.missingDefault need property))

/-- A name or a number cannot be spelled. -/
inductive OfSpelling : Failure → Prop
  | name (s : String) : OfSpelling (.fault (.emptySegment s))
  | misuse (m : Misuse) : OfSpelling (.misuse m)

theorem OfSpelling.not_unknown {f : Failure} (h : f.OfSpelling) : ¬f.Unknown := by
  intro hu
  cases h <;> cases hu

theorem OfSpelling.not_lacksDefault {f : Failure} (h : f.OfSpelling) : ¬f.LacksDefault := by
  intro hd
  cases h <;> cases hd

end Failure

end NativeProps
