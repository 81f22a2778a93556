import NativeProps.Proofs.Declaration.Fragments

/-!
# Which generated names collide

Running segments together loses the hyphens, so in general two names can have one fragment
(`resize-mode`, `resizeMode`). On lower-case names nothing is lost: each segment still begins at an
upper-case letter, and there is no other such letter.

* `Kebab`: the lower-case names.
* `hyphenated`: puts a hyphen in front of each upper-case letter and writes it in lower case.
* `hyphenated_spelled`: this reads a lower-case name back from its fragment.
* `names_of_kebab`: enumerations, their masks and structures of lower-case names have the same name
  just where one name is the other with the word of the kind behind it.
-/

namespace NativeProps

/-- A lower-case name: each segment starts with a lower-case letter and holds no upper-case one.
Letters are those of ASCII; all else is free. -/
def Kebab (name : String) : Prop :=
  name ≠ "" ∧ ∀ s ∈ segments name.toList,
    (∃ c, s.head? = some c ∧ c.isLower = true) ∧ ∀ c ∈ s, c.isUpper = false

instance (name : String) : Decidable (Kebab name) :=
  decidable_of_iff (name ≠ "" ∧ (segments name.toList).all fun s =>
    s.head?.any Char.isLower && s.all fun c => !c.isUpper) (by simp [Kebab, Option.any_eq_true])

/-! ### Reading a name back -/

/-- Puts a hyphen in front of each upper-case letter and writes it in lower case. -/
def hyphenated (cs : List Char) : List Char :=
  cs.flatMap fun c => if c.isUpper then ['-', c.toLower] else [c]

theorem hyphenated_append (a b : List Char) :
    hyphenated (a ++ b) = hyphenated a ++ hyphenated b :=
  List.flatMap_append

theorem hyphenated_of_no_upper {cs : List Char} (h : ∀ c ∈ cs, c.isUpper = false) :
    hyphenated cs = cs := by
  induction cs with
  | nil => rfl
  | cons c rest ih =>
    obtain ⟨hc, hrest⟩ := List.forall_mem_cons.1 h
    show hyphenated ([c] ++ rest) = _
    rw [hyphenated_append, ih hrest]
    simp [hyphenated, hc]

/-- The upper case of a lower-case letter of ASCII is one letter, which leads back to it. -/
theorem hyphenated_upper {c : Char} (h : c.isLower = true) :
    hyphenated (Text.upper c) = ['-', c] := by
  have letters : ∀ k < 26, hyphenated (Text.upper (Char.ofNat (97 + k))) =
      ['-', Char.ofNat (97 + k)] := by decide
  have hrange : 97 ≤ c.toNat ∧ c.toNat ≤ 122 := by
    obtain ⟨hlower, hupper⟩ := Bool.and_eq_true_iff.1 h
    exact ⟨UInt32.le_iff_toNat_le.1 (of_decide_eq_true hlower),
      UInt32.le_iff_toNat_le.1 (of_decide_eq_true hupper)⟩
  have hc : c = Char.ofNat (97 + (c.toNat - 97)) := by
    rw [Nat.add_sub_cancel' hrange.1, Char.ofNat_toNat]
  rw [hc]
  exact letters (c.toNat - 97) (by omega)

theorem hyphenated_capitalize {s : List Char} (first : ∃ c, s.head? = some c ∧ c.isLower = true)
    (lower : ∀ c ∈ s, c.isUpper = false) : hyphenated (Text.capitalize s) = '-' :: s := by
  obtain ⟨c, hhead, hc⟩ := first
  obtain ⟨rest, rfl⟩ := List.head?_eq_some_iff.1 hhead
  rw [Text.capitalize_cons, hyphenated_append, hyphenated_upper hc,
    hyphenated_of_no_upper fun d hd => lower d (List.mem_cons_of_mem c hd)]
  rfl

theorem flatMap_hyphen_eq_joinWith {parts : List (List Char)} (h : parts ≠ []) :
    parts.flatMap ('-' :: ·) = '-' :: Text.joinWith '-' parts := by
  induction parts with
  | nil => exact absurd rfl h
  | cons part rest ih =>
    cases rest with
    | nil => simp [Text.joinWith]
    | cons next more =>
      rw [List.flatMap_cons, ih (List.cons_ne_nil next more)]
      rfl

variable {p q : String}

/-- A lower-case name is read back from its fragment. -/
theorem hyphenated_spelled (h : Kebab p) : hyphenated (spelled p).toList = '-' :: p.toList := by
  have each : ∀ s ∈ segments p.toList, hyphenated (Text.capitalize s) = '-' :: s :=
    fun s hs => hyphenated_capitalize (h.2 s hs).1 (h.2 s hs).2
  calc hyphenated (spelled p).toList
      = (segments p.toList).flatMap fun s => hyphenated (Text.capitalize s) := by
        rw [spelled, String.toList_ofList, hyphenated, List.flatMap_assoc]
        rfl
    _ = (segments p.toList).flatMap ('-' :: ·) := by
        rw [List.flatMap_def, List.flatMap_def, List.map_congr_left each]
    _ = '-' :: Text.joinWith '-' (segments p.toList) :=
        flatMap_hyphen_eq_joinWith (Text.splitOn_ne_nil '-' p.toList)
    _ = '-' :: p.toList := by rw [segments, Text.joinWith_splitOn]

theorem spelled_inj (hp : Kebab p) (hq : Kebab q) : spelled p = spelled q ↔ p = q := by
  refine ⟨fun h => ?_, fun h => congrArg spelled h⟩
  have hread := hyphenated_spelled hp
  rw [h, hyphenated_spelled hq, List.cons.injEq] at hread
  exact String.toList_injective hread.2.symm

theorem spelled_ne_empty (h : Kebab p) : spelled p ≠ "" := by
  intro hempty
  have hread := hyphenated_spelled h
  rw [hempty] at hread
  cases hread

/-! ### Lower-case names -/

theorem Kebab.spellable (h : Kebab p) : Spellable p := by
  intro hmem
  obtain ⟨⟨c, hhead, -⟩, -⟩ := h.2 [] hmem
  cases hhead

theorem Kebab.hyphen (hp : Kebab p) (hq : Kebab q) : Kebab (p ++ "-" ++ q) := by
  refine ⟨fun hempty => ?_, fun s hs => ?_⟩
  · simpa using congrArg String.toList hempty
  · rw [segments_hyphen, List.mem_append] at hs
    exact hs.elim (hp.2 s) (hq.2 s)

theorem Kebab.intercalate {names : List String} (h : names ≠ [])
    (each : ∀ name ∈ names, Kebab name) : Kebab ("-".intercalate names) := by
  induction names with
  | nil => exact absurd rfl h
  | cons name rest ih =>
    obtain ⟨hname, hrest⟩ := List.forall_mem_cons.1 each
    by_cases hnil : rest = []
    · simpa [hnil] using hname
    · rw [String.intercalate_cons_of_ne_nil hnil]
      exact hname.hyphen (ih hnil hrest)

theorem kebab_struct : Kebab "struct" := by decide +kernel

theorem kebab_mask : Kebab "mask" := by decide +kernel

/-! ### Collisions -/

theorem append_struct (q : String) : q ++ "-struct" = q ++ "-" ++ "struct" := by
  rw [String.append_assoc]
  rfl

theorem append_mask (q : String) : q ++ "-mask" = q ++ "-" ++ "mask" := by
  rw [String.append_assoc]
  rfl

theorem spelled_append_struct (q : String) : spelled (q ++ "-struct") = spelled q ++ "Struct" := by
  rw [append_struct, spelled_hyphen]
  rfl

theorem spelled_append_mask (q : String) : spelled (q ++ "-mask") = spelled q ++ "Mask" := by
  rw [append_mask, spelled_hyphen]
  rfl

theorem append_mask_ne_append_struct (a b : String) : a ++ "Mask" ≠ b ++ "Struct" := by
  intro h
  have hlast := congrArg (·.toList.getLast?) h
  simp at hlast

theorem enumName_of_kebab (component : String) (h : Kebab p) :
    enumName component (.string p) = .ok (component ++ spelled p) :=
  enumName_of_fragment component (fragment_of_spellable h.spellable)

theorem structName_of_kebab (component : String) {names : List String} (h : names ≠ [])
    (each : ∀ name ∈ names, Kebab name) :
    structName component (names.map .string) =
      .ok (component ++ spelled ("-".intercalate names) ++ "Struct") := by
  rw [structName_eq_ok_iff, spelled_intercalate h]
  exact ⟨fun name hname => (each name hname).spellable, rfl⟩

/-- **The collisions between generated names.** For lower-case names, two enumerations of a
component have the same name just if the properties have; two structures just if the paths join to
the same name, and neither has the name of the structure of the whole component. An enumeration
collides with a structure or a mask just where its name is that of the other with `-struct` or
`-mask` behind it. A mask and a structure never collide, whatever they are made of. -/
theorem names_of_kebab (component : String) :
    (∀ p q, Kebab p → Kebab q →
      ∃ m n s, enumName component (.string p) = .ok m ∧ enumName component (.string q) = .ok n ∧
        structName component [.string q] = .ok s ∧ (m = n ↔ p = q) ∧
        (m = s ↔ p = q ++ "-struct") ∧ (m = maskName n ↔ p = q ++ "-mask")) ∧
    (∀ ps qs, ps ≠ [] → qs ≠ [] → (∀ p ∈ ps, Kebab p) → (∀ q ∈ qs, Kebab q) →
      ∃ s t u, structName component (ps.map .string) = .ok s ∧
        structName component (qs.map .string) = .ok t ∧ structName component [] = .ok u ∧
        (s = t ↔ "-".intercalate ps = "-".intercalate qs) ∧ s ≠ u ∧ t ≠ u) ∧
    ∀ other parts s, structName component parts = .ok s → maskName other ≠ s := by
  refine ⟨fun p q hp hq => ?_, fun ps qs hps hqs eachP eachQ => ?_, fun other parts s h => ?_⟩
  · have hpath := structName_of_kebab component (List.cons_ne_nil q []) (by simpa using hq)
    rw [String.intercalate_singleton] at hpath
    refine ⟨_, _, _, enumName_of_kebab component hp, enumName_of_kebab component hq, hpath,
      ?_, ?_, ?_⟩
    · rw [String.append_right_inj, spelled_inj hp hq]
    · rw [String.append_assoc, String.append_right_inj, ← spelled_append_struct,
        spelled_inj hp (append_struct q ▸ hq.hyphen kebab_struct)]
    · rw [maskName, String.append_assoc, String.append_right_inj, ← spelled_append_mask,
        spelled_inj hp (append_mask q ▸ hq.hyphen kebab_mask)]
  · have hp := Kebab.intercalate hps eachP
    have hq := Kebab.intercalate hqs eachQ
    have hne {r : String} (hr : Kebab r) :
        component ++ spelled r ++ "Struct" ≠ component ++ "" ++ "Struct" := by
      rw [Ne, String.append_left_inj, String.append_right_inj]
      exact spelled_ne_empty hr
    refine ⟨_, _, _, structName_of_kebab component hps eachP,
      structName_of_kebab component hqs eachQ, rfl, ?_, hne hp, hne hq⟩
    rw [String.append_left_inj, String.append_right_inj, spelled_inj hp hq]
  · obtain ⟨fragments, -, ⟨⟩⟩ := bind_eq_ok_iff.1 h
    exact append_mask_ne_append_struct other _

/-- An enumeration named like the mask of another, two paths that join to one name, and a mask that
ends like no structure. -/
theorem names_of_kebab_joined :
    Kebab "maß-mask" ∧ Kebab "maß" ∧
      (∃ m n, enumName "Foo" (.string "maß-mask") = .ok m ∧ enumName "Foo" (.string "maß") = .ok n ∧
        m = maskName n) ∧
      (∃ s t, structName "Foo" [.string "box", .string "line-cap"] = .ok s ∧
        structName "Foo" [.string "box-line", .string "cap"] = .ok t ∧ s = t) ∧
      structName "Foo" [.string "maß"] = .ok "FooMaßStruct" ∧
      maskName "FooMaß" ≠ "FooMaßStruct" := by
  have hmask : Kebab "maß-mask" := by decide +kernel
  have hname : Kebab "maß" := by decide +kernel
  have hstruct : structName "Foo" (["maß"].map .string) = .ok "FooMaßStruct" :=
    structName_eq_ok_iff.2 (by decide +kernel)
  have hpaths : (∀ p ∈ ["box", "line-cap"], Kebab p) ∧ ∀ q ∈ ["box-line", "cap"], Kebab q := by
    decide +kernel
  obtain ⟨enumerations, paths, masks⟩ := names_of_kebab "Foo"
  obtain ⟨m, n, -, hm, hn, -, -, -, collide⟩ := enumerations "maß-mask" "maß" hmask hname
  obtain ⟨s, t, -, hs, ht, -, joined, -⟩ := paths ["box", "line-cap"] ["box-line", "cap"]
    (by simp) (by simp) hpaths.1 hpaths.2
  exact ⟨hmask, hname, ⟨m, n, hm, hn, collide.2 rfl⟩, ⟨s, t, hs, ht, joined.2 rfl⟩, hstruct,
    masks "FooMaß" _ _ hstruct⟩

end NativeProps
