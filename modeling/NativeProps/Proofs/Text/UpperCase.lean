import NativeProps.Text.Upper

/-!
# The upper case of an upper case

A character may have an upper case of several characters. The first of them is its own upper case,
and a hyphen is none of them unless the character is one. Both hold for all characters because they
hold for the tables: what an entry leads to is the source of no entry.

* `upperCodes_cases`: where an upper case comes from.
* `mapped`: the entries of both tables as runs.
* `bits`, `disjoint_bits`: the sources of all entries and what these lead to, each as the bits of a
  number. They have no bit in common.
* `upperCodes_image`: what an entry leads to is its own upper case.
* `exists_upper_eq_cons`, `hyphen_not_mem_upper`: the characters of an upper case.
-/

namespace NativeProps.Text

variable {n : Nat} {r s : CaseRun}

/-! ### Where an upper case comes from -/

theorem upperCodes_cases (n : Nat) :
    (∃ r ∈ caseRuns, r.holds n = true ∧ upperCodes n = [r.image n]) ∨
    (∃ e ∈ expansions, e.1 = n ∧ upperCodes n = e.2) ∨ upperCodes n = [n] := by
  cases hfind : caseRuns.find? (·.holds n) with
  | some r =>
    have hn : r.holds n = true := by simpa using List.find?_some hfind
    exact .inl ⟨r, List.mem_of_find?_eq_some hfind, hn, by rw [upperCodes, hfind]⟩
  | none =>
    cases hlookup : expansions.lookup n with
    | some codes =>
      obtain ⟨before, after, hsplit, -⟩ := List.lookup_eq_some_iff.1 hlookup
      have hmem : (n, codes) ∈ expansions := by
        rw [hsplit]
        exact List.mem_append_right before List.mem_cons_self
      have hcodes : upperCodes n = codes := by rw [upperCodes, hfind, hlookup, Option.getD_some]
      exact .inr (.inl ⟨(n, codes), hmem, rfl, hcodes⟩)
    | none => exact .inr (.inr (by rw [upperCodes, hfind, hlookup, Option.getD_none]))

/-- The entries of both tables as runs. An expansion is a run of one character, which leads to the
first character of its upper case. -/
def mapped : List CaseRun :=
  caseRuns ++ expansions.map fun e => ⟨e.1, e.1, 1, e.2.headD e.1⟩

theorem expansion_ne_nil : ∀ e ∈ expansions, e.2 ≠ [] := by decide

/-- An upper case begins with what an entry leads to, unless the code point is its own. -/
theorem head?_upperCodes (n : Nat) :
    (∃ r ∈ mapped, r.holds n = true ∧ (upperCodes n).head? = some (r.image n)) ∨
      upperCodes n = [n] := by
  obtain ⟨r, hr, hn, hcodes⟩ | ⟨e, he, rfl, hcodes⟩ | hself := upperCodes_cases n
  · exact .inl ⟨r, List.mem_append_left _ hr, hn, by rw [hcodes, List.head?_cons]⟩
  · obtain ⟨m, more, hm⟩ := List.exists_cons_of_ne_nil (expansion_ne_nil e he)
    refine .inl ⟨_, List.mem_append_right _ (List.mem_map_of_mem he), ?_, ?_⟩
    · simp [CaseRun.holds]
    · simp [CaseRun.image, hcodes, hm]
  · exact .inr hself

theorem upperCodes_of_unmapped (h : ∀ r ∈ mapped, r.holds n = false) : upperCodes n = [n] := by
  obtain ⟨r, hr, hn, -⟩ | hself := head?_upperCodes n
  · rw [h r hr] at hn
    cases hn
  · exact hself

/-! ### Sources and images -/

/-- A number with `k` bits, the lowest at zero and each `stride` above the one before. -/
def spaced (stride : Nat) : Nat → Nat
  | 0 => 0
  | k + 1 => spaced stride k <<< stride ||| 1

theorem testBit_spaced (stride : Nat) {j k : Nat} (h : j < k) :
    (spaced stride k).testBit (j * stride) = true := by
  induction k generalizing j with
  | zero => cases h
  | succ k ih =>
    rw [spaced, Nat.testBit_or, Nat.testBit_shiftLeft]
    cases j with
    | zero => simp
    | succ j => simp [Nat.succ_mul, ih (Nat.lt_of_succ_lt_succ h)]

/-- The members of some runs as the bits of a number, each run moved to a place of its own. -/
def bits (place : CaseRun → Nat) : List CaseRun → Nat
  | [] => 0
  | r :: rest => spaced r.stride ((r.last - r.first) / r.stride + 1) <<< place r ||| bits place rest

theorem testBit_bits {runs : List CaseRun} (place : CaseRun → Nat) (hr : r ∈ runs)
    (hn : r.holds n = true) : (bits place runs).testBit (place r + (n - r.first)) = true := by
  induction runs with
  | nil => cases hr
  | cons first rest ih =>
    rw [bits, Nat.testBit_or, Bool.or_eq_true]
    rcases List.mem_cons.1 hr with rfl | hr
    · obtain ⟨-, hlast, hstride⟩ := CaseRun.holds_iff.1 hn
      have hsteps : (n - r.first) / r.stride * r.stride = n - r.first :=
        Nat.div_mul_cancel (Nat.dvd_of_mod_eq_zero hstride)
      have hlt : (n - r.first) / r.stride < (r.last - r.first) / r.stride + 1 :=
        Nat.lt_succ_of_le (Nat.div_le_div_right (Nat.sub_le_sub_right hlast r.first))
      have hbit := testBit_spaced r.stride hlt
      rw [hsteps] at hbit
      exact .inl (by simp [Nat.testBit_shiftLeft, hbit])
    · exact .inr (ih hr)

/-- No source is an image. -/
theorem disjoint_bits : bits (·.first) mapped &&& bits (·.target) mapped = 0 := by decide +kernel

theorem holds_image (hr : r ∈ mapped) (hs : s ∈ mapped) (hn : r.holds n = true) :
    s.holds (r.image n) = false := by
  -- otherwise the image would be a bit of both sets
  refine Bool.eq_false_iff.2 fun himage => ?_
  have hsource : (bits (·.first) mapped).testBit (r.image n) = true := by
    have hbit := testBit_bits (·.first) hs himage
    rwa [Nat.add_sub_cancel' (CaseRun.holds_iff.1 himage).1] at hbit
  have hboth : (bits (·.first) mapped &&& bits (·.target) mapped).testBit (r.image n) = true := by
    rw [Nat.testBit_and, hsource, Bool.true_and]
    exact testBit_bits (·.target) hr hn
  rw [disjoint_bits, Nat.zero_testBit] at hboth
  cases hboth

theorem upperCodes_image (hr : r ∈ mapped) (hn : r.holds n = true) :
    upperCodes (r.image n) = [r.image n] :=
  upperCodes_of_unmapped fun _ hs => holds_image hr hs hn

/-! ### Characters of an upper case -/

/-- What is no code point stands for the character zero. -/
theorem toNat_ofNat (m : Nat) : (Char.ofNat m).toNat = m ∨ (Char.ofNat m).toNat = 0 := by
  by_cases h : m.isValidChar
  · have hchar : Char.ofNat m = Char.ofNatAux m h := dif_pos h
    rw [hchar]
    exact .inl rfl
  · have hchar : Char.ofNat m = '\x00' := dif_neg h
    rw [hchar]
    exact .inr rfl

/-- The upper case of a character begins with a character that is its own upper case. -/
theorem exists_upper_eq_cons (c : Char) : ∃ d more, upper c = d :: more ∧ upper d = [d] := by
  obtain ⟨m, hhead, hm⟩ : ∃ m, (upperCodes c.toNat).head? = some m ∧ upperCodes m = [m] := by
    obtain ⟨r, hr, hn, hhead⟩ | hself := head?_upperCodes c.toNat
    · exact ⟨_, hhead, upperCodes_image hr hn⟩
    · exact ⟨_, by rw [hself, List.head?_cons], hself⟩
  obtain ⟨more, hcodes⟩ := List.head?_eq_some_iff.1 hhead
  refine ⟨Char.ofNat m, more.map Char.ofNat, by rw [upper, hcodes, List.map_cons], ?_⟩
  have hself : upperCodes (Char.ofNat m).toNat = [(Char.ofNat m).toNat] := by
    rcases toNat_ofNat m with hcode | hcode
    · rw [hcode, hm]
    · rw [hcode]
      decide
  rw [upper, hself, List.map_singleton, Char.ofNat_toNat]

theorem upper_ne_nil (c : Char) : upper c ≠ [] := by
  obtain ⟨d, more, hupper, -⟩ := exists_upper_eq_cons c
  rw [hupper]
  exact List.cons_ne_nil d more

/-- No entry leads to a hyphen. -/
theorem hyphen_not_mem_upper {c : Char} (h : c ≠ '-') : '-' ∉ upper c := by
  have runs : ∀ r ∈ caseRuns, '-'.toNat < r.target := by decide +kernel
  have expanded : ∀ e ∈ expansions, ∀ m ∈ e.2, '-'.toNat < m := by decide +kernel
  intro hmem
  obtain ⟨m, hm, hchar⟩ := List.mem_map.1 hmem
  have hcode : m = '-'.toNat := by
    rcases toNat_ofNat m with hcode | hcode
    · rw [← hcode, hchar]
    · rw [hchar] at hcode
      cases hcode
  subst hcode
  obtain ⟨r, hr, -, hcodes⟩ | ⟨e, he, -, hcodes⟩ | hself := upperCodes_cases c.toNat
  · rw [hcodes, List.mem_singleton] at hm
    have hlt := runs r hr
    rw [hm, CaseRun.image] at hlt
    omega
  · rw [hcodes] at hm
    exact absurd (expanded e he _ hm) (Nat.lt_irrefl _)
  · rw [hself, List.mem_singleton] at hm
    rw [hm, Char.ofNat_toNat] at hchar
    exact h hchar

end NativeProps.Text
