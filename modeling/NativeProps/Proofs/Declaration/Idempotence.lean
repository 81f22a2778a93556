import NativeProps.Proofs.Declaration.Agreement
import NativeProps.Proofs.Declaration.Fragments

/-!
# Fragments as names

A fragment is a name again: it has no hyphen, so it is a single segment, and it begins with an upper
case, which is its own upper case. Hence its fragment is the fragment itself, and enumerations and
structures are named alike for a property and for the fragment of its name.

* `hyphen_not_mem_spelled`: no fragment has a hyphen.
* `spelled_spelled`: the fragment of a fragment.
* `fragment_idempotent`: fragments as names, and the names of types made from them.
-/

namespace NativeProps

theorem Text.hyphen_not_mem_capitalize {s : List Char} (h : '-' ∉ s) : '-' ∉ capitalize s := by
  cases s with
  | nil => exact h
  | cons c rest =>
    rw [List.mem_cons, not_or] at h
    rw [capitalize_cons, List.mem_append, not_or]
    exact ⟨hyphen_not_mem_upper (Ne.symm h.1), h.2⟩

/-- What begins with an upper case is not changed by writing its first character in upper case. -/
theorem Text.capitalize_upper_append (c : Char) (rest : List Char) :
    capitalize (upper c ++ rest) = upper c ++ rest := by
  obtain ⟨d, more, hupper, hself⟩ := exists_upper_eq_cons c
  rw [hupper, List.cons_append, capitalize_cons, hself, List.singleton_append]

variable {name : String}

theorem hyphen_not_mem_spelled (name : String) : '-' ∉ (spelled name).toList := by
  rw [spelled, String.toList_ofList, List.mem_flatMap]
  rintro ⟨part, hpart, hmem⟩
  have hsegment : '-' ∉ part := fun hhyphen => (Text.mem_of_mem_splitOn hpart hhyphen).2 rfl
  exact Text.hyphen_not_mem_capitalize hsegment hmem

theorem segments_spelled (name : String) :
    segments (spelled name).toList = [(spelled name).toList] :=
  Text.splitOn_of_not_mem (hyphen_not_mem_spelled name)

theorem Spellable.spelled_ne_empty (h : Spellable name) : spelled name ≠ "" :=
  ne_empty_of_fragmentOf (v := .string name) (fragment_of_spellable h)

theorem Spellable.spellable_spelled (h : Spellable name) : Spellable (spelled name) := by
  rw [Spellable, segments_spelled, List.mem_singleton]
  intro hempty
  exact h.spelled_ne_empty (String.toList_eq_nil_iff.1 hempty.symm)

/-- The fragment of a fragment is the fragment itself. -/
theorem Spellable.spelled_spelled (h : Spellable name) : spelled (spelled name) = spelled name := by
  obtain ⟨c, -, rest, -, -, hchars⟩ := h.exists_cons
  have hcapital : Text.capitalize (spelled name).toList = (spelled name).toList := by
    rw [hchars, Text.capitalize_upper_append]
  calc spelled (spelled name)
      = String.ofList ([(spelled name).toList].flatMap Text.capitalize) := by
        rw [← segments_spelled, spelled]
    _ = String.ofList (spelled name).toList := by rw [List.flatMap_singleton, hcapital]
    _ = spelled name := String.ofList_toList

theorem structName_of_fragment {r : String} (component : String) (h : fragment name = .ok r) :
    structName component [.string name] = .ok (component ++ r ++ "Struct") := by
  obtain ⟨spellable, rfl⟩ := fragment_eq_ok_iff.1 h
  have hone : [Value.string name] = [name].map .string := rfl
  rw [hone, structName_eq_ok_iff, List.forall_mem_singleton, List.map_singleton, String.join_cons,
    String.join_nil, String.append_empty]
  exact ⟨spellable, rfl⟩

/-- **Fragments stay as they are.** The fragment of a name is not empty, has no hyphen, and is the
fragment of itself. So a property and the fragment of its name lead to the same enumeration and the
same structure of every component. -/
theorem fragment_idempotent {v r : String} (h : fragment v = .ok r) :
    r ≠ "" ∧ '-' ∉ r.toList ∧ fragment r = .ok r ∧ ∀ component,
      enumName component (.string v) = .ok (component ++ r) ∧
      enumName component (.string r) = .ok (component ++ r) ∧
      structName component [.string v] = .ok (component ++ r ++ "Struct") ∧
      structName component [.string r] = .ok (component ++ r ++ "Struct") := by
  obtain ⟨spellable, rfl⟩ := fragment_eq_ok_iff.1 h
  have again : fragment (spelled v) = .ok (spelled v) :=
    fragment_eq_ok_iff.2 ⟨spellable.spellable_spelled, spellable.spelled_spelled.symm⟩
  exact ⟨spellable.spelled_ne_empty, hyphen_not_mem_spelled v, again, fun component =>
    ⟨enumName_of_fragment component h, enumName_of_fragment component again,
      structName_of_fragment component h, structName_of_fragment component again⟩⟩

/-- A name of three segments, two of them beginning with a character whose upper case takes several
characters, and one that begins with an upper-case letter. -/
theorem fragment_idempotent_expanded :
    fragment "ŉ-ﬃx-Maß" = .ok "ʼNFFIxMaß" ∧ fragment "ʼNFFIxMaß" = .ok "ʼNFFIxMaß" ∧
      enumName "Foo" (.string "ŉ-ﬃx-Maß") = enumName "Foo" (.string "ʼNFFIxMaß") := by
  have hfragment : fragment "ŉ-ﬃx-Maß" = .ok "ʼNFFIxMaß" :=
    fragment_eq_ok_iff.2 (by decide +kernel)
  obtain ⟨-, -, again, names⟩ := fragment_idempotent hfragment
  obtain ⟨enumeration, same, -⟩ := names "Foo"
  exact ⟨hfragment, again, enumeration.trans same.symm⟩

end NativeProps
