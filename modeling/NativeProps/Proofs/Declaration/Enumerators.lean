import NativeProps.Proofs.Declaration.Agreement
import NativeProps.Proofs.Declaration.Describable
import NativeProps.Proofs.Declaration.Fragments

/-!
# Initializers of enumerations as expressions

The fragment of a name of letters, digits, underscores and hyphens is made of the first three. The
name of an enumeration has the component in front of its fragment and so is an identifier; an
enumerator has nothing in front of it, and is one just if its fragment begins with no digit.

* `IdentifierPart`, `Identifier`, `Plain`: runs of word characters, those of them that are
  identifiers, and the names that have such fragments.
* `IsEnumExpression`: an enumerator of an enumeration, alone or in a cast.
* `lastWord`, `IsEnumExpression.lastWord`: the enumerator read back from such an expression.
* `Plain.identifierPart_spelled`, `Plain.identifier_spelled_iff`: the fragments of plain names.
* `initializer_of_plain`: the initializers of enumerations as expressions.
* `initializer_not_expression`: a default that begins with a digit.
-/

namespace NativeProps

/-! ### Identifiers -/

/-- The letters and digits of ASCII, and the underscore. -/
def isWord (c : Char) : Bool := c.isAlphanum || c == '_'

/-- A nonempty run of word characters. -/
structure IdentifierPart (s : String) : Prop where
  ne_empty : s ≠ ""
  word : ∀ c ∈ s.toList, isWord c = true

/-- A run of word characters that begins with no digit. -/
structure Identifier (s : String) : Prop extends IdentifierPart s where
  head : ∀ c ∈ s.toList.head?, c.isDigit = false

/-- A name of word characters and hyphens. -/
def Plain (name : String) : Prop := ∀ c ∈ name.toList, isWord c = true ∨ c = '-'

instance (s : String) : Decidable (Identifier s) :=
  decidable_of_iff (s ≠ "" ∧ s.toList.all isWord ∧ s.toList.head?.all fun c => !c.isDigit)
    ⟨fun h => ⟨⟨h.1, by simpa using h.2.1⟩, by simpa [Option.all_eq_true] using h.2.2⟩,
      fun h => ⟨h.ne_empty, by simpa using h.word, by simpa [Option.all_eq_true] using h.head⟩⟩

instance (name : String) : Decidable (Plain name) :=
  decidable_of_iff (name.toList.all fun c => isWord c || c == '-') (by simp [Plain])

/-- An enumerator behind the identifier of its enumeration, alone or in a cast to the type of an
identifier. What is asked of the enumerator is left open. -/
inductive IsEnumExpression (Member : String → Prop) : String → Prop
  | member {i m : String} (enumeration : Identifier i) (enumerator : Member m) :
      IsEnumExpression Member (i ++ "::" ++ m)
  | cast {k i m : String} (type : Identifier k) (enumeration : Identifier i)
      (enumerator : Member m) :
      IsEnumExpression Member ("static_cast<" ++ k ++ ">(" ++ (i ++ "::" ++ m) ++ ")")

variable {i m s t text : String} {Member : String → Prop}

theorem Identifier.append (h : Identifier s) (ht : ∀ c ∈ t.toList, isWord c = true) :
    Identifier (s ++ t) where
  ne_empty := by simp [h.ne_empty]
  word c hc := by
    rw [String.toList_append, List.mem_append] at hc
    exact hc.elim (h.word c) (ht c)
  head c hc := by
    have hs : s.toList ≠ [] := by simpa using h.ne_empty
    rw [String.toList_append, List.head?_append_of_ne_nil _ hs] at hc
    exact h.head c hc

theorem isEnumExpression_enumExpression (need : Need) (hi : Identifier i) (hm : Member m) :
    IsEnumExpression Member (enumExpression need i m) := by
  cases need with
  | enumArray => exact .cast (hi.append (t := "Mask") (List.all_eq_true.1 (by decide))) hi hm
  | _ => exact .member hi hm

/-! ### Reading an enumerator back -/

/-- The last run of word characters, with closing brackets behind it. -/
def lastWord (cs : List Char) : List Char :=
  ((cs.reverse.dropWhile (· == ')')).takeWhile isWord).reverse

theorem lastWord_append {a w : List Char} {c : Char} (hw : w ≠ [])
    (word : ∀ d ∈ w, isWord d = true) (hc : isWord c = false) (k : ℕ) :
    lastWord (a ++ c :: (w ++ List.replicate k ')')) = w := by
  have hreverse : (a ++ c :: (w ++ List.replicate k ')')).reverse =
      List.replicate k ')' ++ (w.reverse ++ c :: a.reverse) := by simp
  have hbrackets : ∀ d ∈ List.replicate k ')', (d == ')') = true := fun d hd => by
    simp [List.eq_of_mem_replicate hd]
  have hlast : (w.reverse ++ c :: a.reverse).dropWhile (· == ')') =
      w.reverse ++ c :: a.reverse := by
    obtain ⟨d, rest, hd⟩ := List.exists_cons_of_ne_nil (List.reverse_ne_nil_iff.2 hw)
    have hword : isWord d = true := word d (List.mem_reverse.1 (hd ▸ List.mem_cons_self))
    have hother : d ≠ ')' := by
      rintro rfl
      exact absurd hword (by decide)
    rw [hd, List.cons_append, List.dropWhile_cons_of_neg (by simpa using hother)]
  have hrun : ∀ d ∈ w.reverse, isWord d = true := fun d hd => word d (List.mem_reverse.1 hd)
  rw [lastWord, hreverse, List.dropWhile_append_of_pos hbrackets, hlast,
    List.takeWhile_append_of_pos hrun, List.takeWhile_cons_of_neg (by simp [hc]), List.append_nil,
    List.reverse_reverse]

/-- The enumerator of an expression is its last word. -/
theorem IsEnumExpression.lastWord (h : IsEnumExpression Member text)
    (part : ∀ m, Member m → IdentifierPart m) :
    Member (String.ofList (lastWord text.toList)) := by
  have hcolon : isWord ':' = false := rfl
  cases h with
  | @member i m _ enumerator =>
    have hm := part m enumerator
    have htext : (i ++ "::" ++ m).toList =
        (i.toList ++ [':']) ++ ':' :: (m.toList ++ List.replicate 0 ')') := by simp
    rwa [htext, lastWord_append (by simpa using hm.ne_empty) hm.word hcolon, String.ofList_toList]
  | @cast k i m _ _ enumerator =>
    have hm := part m enumerator
    have htext : ("static_cast<" ++ k ++ ">(" ++ (i ++ "::" ++ m) ++ ")").toList =
        (("static_cast<" ++ k ++ ">(" ++ i).toList ++ [':']) ++
          ':' :: (m.toList ++ List.replicate 1 ')') := by simp
    rwa [htext, lastWord_append (by simpa using hm.ne_empty) hm.word hcolon, String.ofList_toList]

/-! ### Fragments of plain names -/

/-- Word characters are of ASCII. -/
theorem toNat_lt_of_isWord {c : Char} (h : isWord c = true) : c.toNat < 128 := by
  have hclass : (((c.isUpper || c.isLower) || c.isDigit) || c == '_') = true := h
  simp only [Bool.or_eq_true, beq_iff_eq] at hclass
  rcases hclass with ((hclass | hclass) | hclass) | rfl
  · have hle : c.toNat ≤ 90 := (of_decide_eq_true hclass).2
    omega
  · have hle : c.toNat ≤ 122 := of_decide_eq_true (Bool.and_eq_true_iff.1 hclass).2
    omega
  · have hle : c.toNat ≤ 57 := of_decide_eq_true (Bool.and_eq_true_iff.1 hclass).2
    omega
  · decide

/-- The upper case of a word character is made of word characters, and of digits just if the
character is one. -/
theorem upper_of_isWord {c u : Char} (h : isWord c = true) (hu : u ∈ Text.upper c) :
    isWord u = true ∧ u.isDigit = c.isDigit := by
  have below : ∀ k < 128, isWord (Char.ofNat k) = true → (Text.upper (Char.ofNat k)).all fun u =>
      isWord u && u.isDigit == (Char.ofNat k).isDigit := by
    decide +kernel
  have hc := below c.toNat (toNat_lt_of_isWord h)
  rw [Char.ofNat_toNat] at hc
  simpa using List.all_eq_true.1 (hc h) u hu

variable {name : String}

theorem Plain.word_spelled (plain : Plain name) : ∀ c ∈ (spelled name).toList, isWord c = true := by
  intro c hc
  rw [spelled, String.toList_ofList, List.mem_flatMap] at hc
  obtain ⟨part, hpart, hc⟩ := hc
  have word : ∀ d ∈ part, isWord d = true := fun d hd =>
    (plain d (Text.mem_of_mem_splitOn hpart hd).1).resolve_right
      (Text.mem_of_mem_splitOn hpart hd).2
  cases part with
  | nil => cases hc
  | cons d rest =>
    rw [Text.capitalize_cons, List.mem_append] at hc
    rcases hc with hc | hc
    · exact (upper_of_isWord (word d List.mem_cons_self) hc).1
    · exact word c (List.mem_cons_of_mem d hc)

theorem Plain.identifierPart_spelled (plain : Plain name) (h : Spellable name) :
    IdentifierPart (spelled name) where
  ne_empty := ne_empty_of_fragmentOf (v := .string name) (fragment_of_spellable h)
  word := plain.word_spelled

/-- Only what begins with a digit has a fragment that is no identifier. -/
theorem Plain.identifier_spelled_iff (plain : Plain name) (h : Spellable name) :
    Identifier (spelled name) ↔ ∀ c ∈ name.toList.head?, c.isDigit = false := by
  obtain ⟨c, rest, more, hname, hc, hspelled⟩ := h.exists_cons
  have hword : isWord c = true := (plain c (hname ▸ List.mem_cons_self)).resolve_right hc
  obtain ⟨u, us, hu⟩ := List.exists_cons_of_ne_nil (Text.upper_ne_nil c)
  have hsame := (upper_of_isWord hword (hu ▸ List.mem_cons_self : u ∈ Text.upper c)).2
  have hhead : (spelled name).toList.head? = some u := by
    rw [hspelled, hu]
    rfl
  rw [hname, List.head?_cons]
  constructor
  · rintro identifier d ⟨⟩
    rw [← hsame]
    exact identifier.head u hhead
  · intro digit
    refine ⟨plain.identifierPart_spelled h, fun d hd => ?_⟩
    rw [hhead] at hd
    cases hd
    rw [hsame]
    exact digit c rfl

/-! ### Initializers -/

variable {component : String} {p : Property}

theorem Annotation.Enumerates.initializer_eq_ok_iff {need : Need} {n d : String}
    (type : p.type.Enumerates need (.string d)) (hname : p.name = .string n) :
    (initializer component p).result = .ok text ↔ Spellable n ∧ Spellable d ∧
      text = enumExpression need (component ++ spelled n) (spelled d) := by
  have hdefault : requireDefault need p.name (.string d) = .ok (.string d) := rfl
  rw [type.result_initializer, hdefault, hname]
  show ((fragment n).bind fun n => (fragment d).map fun m =>
    enumExpression need (component ++ n) m) = .ok text ↔ _
  simp only [bind_eq_ok_iff, map_eq_ok_iff, fragment_eq_ok_iff]
  constructor
  · rintro ⟨_, ⟨spellable, rfl⟩, _, ⟨member, rfl⟩, rfl⟩
    exact ⟨spellable, member, rfl⟩
  · rintro ⟨spellable, member, rfl⟩
    exact ⟨_, ⟨spellable, rfl⟩, _, ⟨member, rfl⟩, rfl⟩

/-- **Enumerations are initialized by expressions but for leading digits.** For a component that is
an identifier, and a name and a default of letters, digits, underscores and hyphens, there is an
initializer just if neither has an empty segment. It names an enumerator in an enumeration, or casts
it to a mask, where the enumeration and the mask are identifiers. The enumerator is made of the same
characters, and is an identifier just if the default does not begin with a digit. -/
theorem initializer_of_plain {component : String} {p : Property} {need : Need} {n d : String}
    (identifier : Identifier component) (hname : p.name = .string n)
    (type : p.type.Enumerates need (.string d)) (plain : Plain n) (member : Plain d) :
    ((∃ text, (initializer component p).result = .ok text) ↔ Spellable n ∧ Spellable d) ∧
    ∀ text, (initializer component p).result = .ok text →
      IsEnumExpression IdentifierPart text ∧
      (IsEnumExpression Identifier text ↔ ∀ c ∈ d.toList.head?, c.isDigit = false) := by
  simp only [type.initializer_eq_ok_iff hname]
  refine ⟨by simp, ?_⟩
  rintro _ ⟨-, spellable, rfl⟩
  have enumeration := identifier.append plain.word_spelled
  have part := member.identifierPart_spelled spellable
  refine ⟨isEnumExpression_enumExpression need enumeration part, ?_⟩
  rw [← member.identifier_spelled_iff spellable]
  constructor
  · intro expression
    -- the last word of the text is that of this enumerator and of the one in the expression
    have same : IsEnumExpression (· = spelled d)
        (enumExpression need (component ++ spelled n) (spelled d)) :=
      isEnumExpression_enumExpression need enumeration rfl
    have hlast := same.lastWord fun m hm => hm ▸ part
    have hidentifier := expression.lastWord fun m hm => hm.toIdentifierPart
    rwa [hlast] at hidentifier
  · exact isEnumExpression_enumExpression need enumeration

/-- An array of an enumeration whose default has a digit behind a hyphen. -/
theorem initializer_of_plain_mask :
    let p : Property := ⟨.string "resize-mode", .array (.stringEnum (.string "x_-2d") []), false⟩
    Identifier "Crop" ∧ Plain "resize-mode" ∧ Plain "x_-2d" ∧
      (∃ text, (initializer "Crop" p).result = .ok text) ∧
      (initializer "Crop" p).result =
        .ok "static_cast<CropResizeModeMask>(CropResizeMode::X_2d)" ∧
      IsEnumExpression Identifier "static_cast<CropResizeModeMask>(CropResizeMode::X_2d)" := by
  intro p
  have identifier : Identifier "Crop" := by decide
  have plain : Plain "resize-mode" := by decide
  have member : Plain "x_-2d" := by decide
  have type : p.type.Enumerates .enumArray (.string "x_-2d") := .mask _ []
  have written : (initializer "Crop" p).result =
      .ok "static_cast<CropResizeModeMask>(CropResizeMode::X_2d)" :=
    (type.initializer_eq_ok_iff (n := "resize-mode") rfl).2 (by decide +kernel)
  obtain ⟨given, expressions⟩ :=
    initializer_of_plain (n := "resize-mode") identifier rfl type plain member
  exact ⟨identifier, plain, member, given.2 (by decide), written,
    (expressions _ written).2.2 (by simp)⟩

/-- Not every initializer of an enumeration is an expression: a default that begins with a digit
gives an enumerator that does so. -/
theorem initializer_not_expression :
    ¬∀ component p need n d text, Identifier component → p.name = .string n →
      p.type.Enumerates need (.string d) → Plain n → Plain d →
      (initializer component p).result = .ok text → IsEnumExpression Identifier text := by
  intro h
  let p : Property := ⟨.string "award", .stringEnum (.string "1st-place") [], false⟩
  have type : p.type.Enumerates .stringEnum (.string "1st-place") := .alone _ []
  have written : (initializer "Crop" p).result = .ok "CropAward::1stPlace" :=
    (type.initializer_eq_ok_iff (n := "award") rfl).2 (by decide +kernel)
  have expression : IsEnumExpression Identifier "CropAward::1stPlace" :=
    h "Crop" p .stringEnum "award" "1st-place" _ (by decide) rfl type (by decide)
      (by decide) written
  have hlast := expression.lastWord fun m hm => hm.toIdentifierPart
  exact absurd (hlast.head '1' (by decide)) (by decide)

end NativeProps
