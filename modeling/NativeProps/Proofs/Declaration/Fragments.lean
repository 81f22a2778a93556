import NativeProps.Proofs.Declaration.Undescribed

/-!
# Fragments of joined names

A name falls into segments at its hyphens, so joining two names by a hyphen appends their segments.
Hence the fragment of the joined name is the two fragments one after the other, and a path of names
gives the same structure as the single name that joins them.

* `Spellable`, `spelled`: the names that have a fragment, and the fragment of each.
* `Text.nil_mem_splitOn_iff`: where splitting leaves an empty part.
* `spelled_intercalate`: the fragment of names that are joined by hyphens.
* `fragment_of_joined`: fragments, their failures and structure names under joining.
-/

namespace NativeProps

/-! ### Empty parts -/

namespace Text

variable {sep : Char} {s : List Char}

/-- The parts behind the first one are those of the text behind the first separator. -/
theorem tail_splitOn_cons_of_ne {c : Char} (h : c ≠ sep) :
    (splitOn sep (c :: s)).tail = (splitOn sep s).tail := by
  obtain ⟨part, parts, hs, hcons⟩ := exists_splitOn_cons_of_ne h s
  rw [hs, hcons, List.tail_cons, List.tail_cons]

theorem head?_splitOn_eq_nil_iff : (splitOn sep s).head? = some [] ↔ s = [] ∨ [sep] <+: s := by
  cases s with
  | nil => simp
  | cons c rest =>
    by_cases h : c = sep
    · simp [h]
    · have hne : ¬[sep] <+: c :: rest := fun hp => h (List.cons_prefix_cons.1 hp).1.symm
      rw [splitOn, if_neg h]
      cases splitOn sep rest <;> simp [hne]

theorem nil_mem_splitOn_iff_head_or_tail :
    [] ∈ splitOn sep s ↔ (splitOn sep s).head? = some [] ∨ [] ∈ (splitOn sep s).tail := by
  cases splitOn sep s with
  | nil => simp
  | cons part parts => simp [eq_comm]

theorem nil_mem_tail_splitOn_iff :
    [] ∈ (splitOn sep s).tail ↔ [sep] <:+ s ∨ [sep, sep] <:+: s := by
  induction s with
  | nil => simp
  | cons c rest ih =>
    by_cases h : c = sep
    · subst h
      rw [splitOn_sep, List.tail_cons, nil_mem_splitOn_iff_head_or_tail, head?_splitOn_eq_nil_iff,
        ih, List.suffix_cons_iff, List.infix_cons_iff, List.cons_prefix_cons]
      simp only [List.cons.injEq, true_and, eq_comm (a := [])]
      tauto
    · have hsep : sep ≠ c := Ne.symm h
      rw [tail_splitOn_cons_of_ne h, ih, List.suffix_cons_iff, List.infix_cons_iff,
        List.cons_prefix_cons]
      simp [hsep]

/-- Splitting leaves an empty part just for the empty text and where a separator stands at an end or
next to another one. -/
theorem nil_mem_splitOn_iff :
    [] ∈ splitOn sep s ↔ s = [] ∨ [sep] <+: s ∨ [sep] <:+ s ∨ [sep, sep] <:+: s := by
  rw [nil_mem_splitOn_iff_head_or_tail, head?_splitOn_eq_nil_iff, nil_mem_tail_splitOn_iff,
    or_assoc]

end Text

/-! ### Spelling -/

/-- A name without an empty segment. -/
def Spellable (name : String) : Prop := [] ∉ segments name.toList

instance (name : String) : Decidable (Spellable name) :=
  inferInstanceAs (Decidable ([] ∉ segments name.toList))

/-- The segments of a name run together, each with its first character in upper case. -/
def spelled (name : String) : String :=
  String.ofList ((segments name.toList).flatMap Text.capitalize)

theorem fragment_of_spellable {name : String} (h : Spellable name) :
    fragment name = .ok (spelled name) := by
  have hall : (segments name.toList).all (· ≠ []) = true := by
    simp only [List.all_eq_true, decide_eq_true_eq]
    intro s hs hnil
    exact h (hnil ▸ hs)
  rw [fragment, pascal?, if_pos hall]
  rfl

theorem fragment_of_not_spellable {name : String} (h : ¬Spellable name) :
    fragment name = .error (.fault (.emptySegment name)) := by
  rw [fragment, pascal?_eq_none_iff.2 (not_not.1 h)]

theorem fragment_eq_ok_iff {name r : String} :
    fragment name = .ok r ↔ Spellable name ∧ r = spelled name := by
  by_cases h : Spellable name
  · simp [fragment_of_spellable h, h, eq_comm]
  · simp [fragment_of_not_spellable h, h]

/-- A fragment begins with the upper case of the first character of its name. -/
theorem Spellable.exists_cons {name : String} (h : Spellable name) : ∃ c rest more,
    name.toList = c :: rest ∧ c ≠ '-' ∧ (spelled name).toList = Text.upper c ++ more := by
  rw [Spellable, segments] at h
  rw [spelled, segments, String.toList_ofList]
  generalize name.toList = cs at h
  cases cs with
  | nil => simp at h
  | cons c rest =>
    have hc : c ≠ '-' := by
      rintro rfl
      simp at h
    obtain ⟨part, parts, -, hs⟩ := Text.exists_splitOn_cons_of_ne hc rest
    rw [hs, List.flatMap_cons, Text.capitalize_cons, List.append_assoc]
    exact ⟨c, rest, _, rfl, hc, rfl⟩

theorem segments_hyphen (a b : String) :
    segments (a ++ "-" ++ b).toList = segments a.toList ++ segments b.toList := by
  have hchars : (a ++ "-" ++ b).toList = a.toList ++ '-' :: b.toList := by simp
  rw [hchars]
  exact Text.splitOn_append_sep '-' a.toList b.toList

theorem spellable_hyphen_iff {a b : String} :
    Spellable (a ++ "-" ++ b) ↔ Spellable a ∧ Spellable b := by
  unfold Spellable
  rw [segments_hyphen, List.mem_append, not_or]

theorem spelled_hyphen (a b : String) : spelled (a ++ "-" ++ b) = spelled a ++ spelled b := by
  unfold spelled
  rw [segments_hyphen, List.flatMap_append, String.ofList_append]

variable {names : List String}

theorem spellable_intercalate_iff (h : names ≠ []) :
    Spellable ("-".intercalate names) ↔ ∀ name ∈ names, Spellable name := by
  induction names with
  | nil => exact absurd rfl h
  | cons name rest ih =>
    by_cases hrest : rest = []
    · simp [hrest]
    · rw [String.intercalate_cons_of_ne_nil hrest, spellable_hyphen_iff, ih hrest,
        List.forall_mem_cons]

theorem spelled_intercalate (h : names ≠ []) :
    spelled ("-".intercalate names) = String.join (names.map spelled) := by
  induction names with
  | nil => exact absurd rfl h
  | cons name rest ih =>
    by_cases hrest : rest = []
    · simp [hrest]
    · rw [String.intercalate_cons_of_ne_nil hrest, spelled_hyphen, ih hrest, List.map_cons,
        String.join_cons]

/-! ### Enumerations -/

theorem enumName_of_fragment {name r : String} (component : String) (h : fragment name = .ok r) :
    enumName component (.string name) = .ok (component ++ r) := by
  rw [result_enumName, fragmentOf_string, h]
  rfl

/-! ### Structures of paths -/

theorem mapM_fragmentOf_eq_ok_iff {fragments : List String} :
    (names.map Value.string).mapM fragmentOf = .ok fragments ↔
      (∀ name ∈ names, Spellable name) ∧ fragments = names.map spelled := by
  rw [mapM_eq_ok_iff, List.forall₂_map_left_iff]
  simp only [fragmentOf_string, fragment_eq_ok_iff]
  induction names generalizing fragments with
  | nil => simp
  | cons name rest ih =>
    cases fragments with
    | nil => simp
    | cons first more =>
      rw [List.forall₂_cons, ih, List.forall_mem_cons, List.map_cons, List.cons.injEq]
      tauto

/-- A path has a structure name if each of its names has a fragment. -/
theorem structName_eq_ok_iff {component r : String} :
    structName component (names.map .string) = .ok r ↔
      (∀ name ∈ names, Spellable name) ∧
        r = component ++ String.join (names.map spelled) ++ "Struct" := by
  have hbind : structName component (names.map .string) =
      ((names.map Value.string).mapM fragmentOf).bind fun fragments =>
        .ok (component ++ String.join fragments ++ "Struct") := rfl
  rw [hbind, bind_eq_ok_iff]
  simp only [mapM_fragmentOf_eq_ok_iff, Except.ok.injEq]
  constructor
  · rintro ⟨fragments, ⟨each, rfl⟩, rfl⟩
    exact ⟨each, rfl⟩
  · rintro ⟨each, rfl⟩
    exact ⟨_, ⟨each, rfl⟩, rfl⟩

/-- **Joining names by hyphens runs their fragments together.** Two names joined by a hyphen have a
fragment just if both have one, and then it is one behind the other. So the names with a fragment
are those in which no hyphen stands at an end or next to another, and every failure is for an empty
segment and quotes the whole name. A path of names gives the same structure name as the single name
that joins them. -/
theorem fragment_of_joined :
    (∀ a b r, fragment (a ++ "-" ++ b) = .ok r ↔
      ∃ x y, fragment a = .ok x ∧ fragment b = .ok y ∧ r = x ++ y) ∧
    (∀ v, (∃ r, fragment v = .ok r) ↔
      v ≠ "" ∧ ¬['-'] <+: v.toList ∧ ¬['-'] <:+ v.toList ∧ ¬['-', '-'] <:+: v.toList) ∧
    (∀ v f, fragment v = .error f → ∃ fault, f = .fault fault ∧ fault = .emptySegment v ∧
      fault.message =
        "Cannot build an identifier from " ++ Text.quoted v ++ ": empty name segment") ∧
    ∀ component names, names ≠ [] → ∀ r, structName component (names.map .string) = .ok r ↔
      structName component [.string ("-".intercalate names)] = .ok r := by
  refine ⟨fun a b r => ?_, fun v => ?_, fun v f h => ?_, fun component names h r => ?_⟩
  · simp only [fragment_eq_ok_iff, spellable_hyphen_iff, spelled_hyphen]
    constructor
    · rintro ⟨⟨ha, hb⟩, rfl⟩
      exact ⟨_, _, ⟨ha, rfl⟩, ⟨hb, rfl⟩, rfl⟩
    · rintro ⟨_, _, ⟨ha, rfl⟩, ⟨hb, rfl⟩, rfl⟩
      exact ⟨⟨ha, hb⟩, rfl⟩
  · simp only [fragment_eq_ok_iff, exists_and_left, exists_eq, and_true]
    unfold Spellable segments
    rw [Text.nil_mem_splitOn_iff, String.toList_eq_nil_iff]
    tauto
  · have hv : ¬Spellable v := fun hv => by cases (fragment_of_spellable hv).symm.trans h
    cases (fragment_of_not_spellable hv).symm.trans h
    exact ⟨_, rfl, rfl, rfl⟩
  · have hone : [Value.string ("-".intercalate names)] = ["-".intercalate names].map .string := rfl
    rw [hone, structName_eq_ok_iff, structName_eq_ok_iff, List.forall_mem_singleton,
      spellable_intercalate_iff h, List.map_singleton, spelled_intercalate h,
      String.join_cons, String.join_nil, String.append_empty]

/-- A path whose second name has two segments, and a name in which two hyphens meet. -/
theorem fragment_of_joined_path :
    structName "Foo" [.string "box", .string "line-cap"] = .ok "FooBoxLineCapStruct" ∧
      structName "Foo" [.string "box-line-cap"] = .ok "FooBoxLineCapStruct" ∧
      ∃ fault, fragment "box--cap" = .error (.fault fault) ∧ fault = .emptySegment "box--cap" := by
  obtain ⟨-, -, failures, paths⟩ := fragment_of_joined
  have hpath :
      structName "Foo" (["box", "line-cap"].map .string) = .ok "FooBoxLineCapStruct" :=
    structName_eq_ok_iff.2 (by decide +kernel)
  have hfails : fragment "box--cap" = .error (.fault (.emptySegment "box--cap")) :=
    fragment_of_not_spellable (by decide +kernel)
  obtain ⟨fault, hf, hsegment, -⟩ := failures "box--cap" _ hfails
  have hjoined := paths "Foo" ["box", "line-cap"] (by simp) "FooBoxLineCapStruct"
  exact ⟨hpath, hjoined.1 hpath, fault, hf ▸ hfails, hsegment⟩

end NativeProps
