/-!
# Halves of surrogate pairs

The code units U+D800 to U+DFFF are halves of pairs and no characters. A document can escape one by
itself, and the text that is read then holds it: it is passed on and compared as characters are, but
it has no bytes. In texts, characters that a run does not otherwise use stand for the halves. Which
ones these are is left open, so that no character is lost: what is proved holds for every choice.
Where texts are quoted or put in order, a half counts as the character that stands for it.

* `Halves`: the characters that stand for halves.
* `Halves.standard`: a choice of characters that Unicode does not assign.
-/

namespace NativeProps

/-- Whether a character is an ASCII character. -/
def isAscii (c : Char) : Bool := decide (c.toNat < 128)

/-- Whether a code unit is half of a pair. -/
def IsHalf (unit : Nat) : Prop := 0xd800 ≤ unit ∧ unit < 0xe000

instance (unit : Nat) : Decidable (IsHalf unit) := instDecidableAnd

/-- The characters that stand for halves of surrogate pairs in texts. None of them is an ASCII
character. -/
structure Halves where
  stand : Nat → Char
  /-- The half that a character stands for. -/
  unit? : Char → Option Nat
  unit?_eq_some_iff : ∀ c unit, unit? c = some unit ↔ IsHalf unit ∧ stand unit = c
  notAscii : ∀ unit, IsHalf unit → 128 ≤ (stand unit).toNat

namespace Halves

/-- Whether a character stands for a half. -/
def isHalf (h : Halves) (c : Char) : Bool := (h.unit? c).isSome

theorem isHalf_of_ascii (h : Halves) {c : Char} (hc : isAscii c = true) :
    h.isHalf c = false := by
  have hlow : c.toNat < 128 := of_decide_eq_true hc
  rw [isHalf, Option.isSome_eq_false_iff, Option.isNone_iff_eq_none]
  cases hunit : h.unit? c with
  | none => rfl
  | some unit =>
    obtain ⟨hu, rfl⟩ := (h.unit?_eq_some_iff c unit).1 hunit
    exact absurd (h.notAscii unit hu) (by omega)

theorem any_isHalf_of_ascii (h : Halves) {s : List Char} (hs : s.all isAscii = true) :
    s.any h.isHalf = false := by
  rw [List.any_eq_false]
  intro c hc
  rw [h.isHalf_of_ascii (List.all_eq_true.1 hs c hc)]
  decide

/-! ### Unassigned characters -/

/-- The character with the code of a half moved to the fourteenth plane. -/
def unassigned (unit : Nat) : Char := Char.ofNat (0xd0000 + unit)

theorem toNat_unassigned {unit : Nat} (hu : IsHalf unit) :
    (unassigned unit).toNat = 0xd0000 + unit := by
  have hvalid : (0xd0000 + unit).isValidChar := .inr ⟨by omega, by have := hu.2; omega⟩
  have hchar : unassigned unit = Char.ofNatAux (0xd0000 + unit) hvalid := dif_pos hvalid
  rw [hchar]
  rfl

/-- Characters that Unicode does not assign stand for the halves. -/
def standard : Halves where
  stand := unassigned
  unit? c := if IsHalf (c.toNat - 0xd0000) then some (c.toNat - 0xd0000) else none
  unit?_eq_some_iff c unit := by
    constructor
    · intro h
      split at h
      · next hu =>
        obtain rfl := Option.some.inj h
        refine ⟨hu, ?_⟩
        have hcode : 0xd0000 + (c.toNat - 0xd0000) = c.toNat := by
          have := hu.1
          omega
        rw [unassigned, hcode, Char.ofNat_toNat]
      · cases h
    · rintro ⟨hu, rfl⟩
      have hcode : (unassigned unit).toNat - 0xd0000 = unit := by
        rw [toNat_unassigned hu]
        omega
      rw [hcode, if_pos hu]
  notAscii unit hu := by
    rw [toNat_unassigned hu]
    omega

instance : Inhabited Halves := ⟨standard⟩

end Halves

end NativeProps
