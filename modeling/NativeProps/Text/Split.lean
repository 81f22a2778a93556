/-!
# Splitting

* `splitOn`: the parts of a text between the occurrences of a separator; there is always one part
  more than separators.
* `joinWith`: parts with a separator between neighbours.
-/

namespace NativeProps.Text

/-- The parts of a text between separators. -/
def splitOn (sep : Char) : List Char → List (List Char)
  | [] => [[]]
  | c :: rest =>
    if c = sep then [] :: splitOn sep rest
    else
      match splitOn sep rest with
      | [] => [[c]]
      | part :: parts => (c :: part) :: parts

@[simp] theorem splitOn_nil (sep : Char) : splitOn sep [] = [[]] := rfl

@[simp] theorem splitOn_sep (sep : Char) (rest : List Char) :
    splitOn sep (sep :: rest) = [] :: splitOn sep rest := by
  simp [splitOn]

theorem splitOn_ne_nil (sep : Char) (s : List Char) : splitOn sep s ≠ [] := by
  induction s with
  | nil => simp
  | cons c rest ih =>
    by_cases h : c = sep
    · simp [splitOn, h]
    · cases hs : splitOn sep rest with
      | nil => exact absurd hs ih
      | cons part parts => simp [splitOn, h, hs]

theorem exists_splitOn_cons_of_ne {sep c : Char} (h : c ≠ sep) (s : List Char) :
    ∃ part parts, splitOn sep s = part :: parts ∧ splitOn sep (c :: s) = (c :: part) :: parts := by
  obtain ⟨part, parts, hs⟩ := List.exists_cons_of_ne_nil (splitOn_ne_nil sep s)
  refine ⟨part, parts, hs, ?_⟩
  rw [splitOn, if_neg h, hs]

theorem splitOn_of_not_mem {sep : Char} {s : List Char} (h : sep ∉ s) : splitOn sep s = [s] := by
  induction s with
  | nil => rfl
  | cons c rest ih =>
    rw [List.mem_cons, not_or] at h
    rw [splitOn, if_neg (Ne.symm h.1), ih h.2]

theorem mem_of_mem_splitOn {sep c : Char} {s part : List Char} (h : part ∈ splitOn sep s)
    (hc : c ∈ part) : c ∈ s ∧ c ≠ sep := by
  induction s generalizing part with
  | nil =>
    rw [splitOn_nil, List.mem_singleton] at h
    subst h
    cases hc
  | cons d rest ih =>
    have ih (part) (h : part ∈ splitOn sep rest) (hc : c ∈ part) : c ∈ d :: rest ∧ c ≠ sep :=
      ⟨List.mem_cons_of_mem d (ih h hc).1, (ih h hc).2⟩
    by_cases hd : d = sep
    · rw [hd, splitOn_sep, List.mem_cons] at h
      rcases h with rfl | h
      · cases hc
      · exact ih part h hc
    · obtain ⟨first, parts, hrest, hs⟩ := exists_splitOn_cons_of_ne hd rest
      rw [hrest] at ih
      rw [hs, List.mem_cons] at h
      rcases h with rfl | h
      · rcases List.mem_cons.1 hc with rfl | hc
        · exact ⟨List.mem_cons_self, hd⟩
        · exact ih first List.mem_cons_self hc
      · exact ih part (List.mem_cons_of_mem first h) hc

theorem splitOn_append_sep (sep : Char) (a b : List Char) :
    splitOn sep (a ++ sep :: b) = splitOn sep a ++ splitOn sep b := by
  induction a with
  | nil => simp
  | cons c rest ih =>
    by_cases h : c = sep
    · simp [splitOn, h, ih]
    · cases hs : splitOn sep rest with
      | nil => exact absurd hs (splitOn_ne_nil sep rest)
      | cons part parts => simp [splitOn, h, hs, ih]

/-- Parts with a separator between neighbours. -/
def joinWith (sep : Char) : List (List Char) → List Char
  | [] => []
  | [part] => part
  | part :: parts => part ++ sep :: joinWith sep parts

/-- Splitting loses nothing. -/
theorem joinWith_splitOn (sep : Char) (s : List Char) : joinWith sep (splitOn sep s) = s := by
  induction s with
  | nil => rfl
  | cons c rest ih =>
    cases hs : splitOn sep rest with
    | nil => exact absurd hs (splitOn_ne_nil sep rest)
    | cons part parts =>
      rw [hs] at ih
      by_cases h : c = sep
      · subst h
        simp [splitOn, hs, joinWith, ih]
      · cases parts <;> simp_all [splitOn, joinWith]

end NativeProps.Text
