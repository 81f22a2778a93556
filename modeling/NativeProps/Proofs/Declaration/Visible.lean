import NativeProps.Proofs.Declaration.Influence

/-!
# The primitives that headers are collected for

The search for headers carries what it has found through nested lists of properties. It comes to
the same as looking at the primitives that are visible in the whole tree of properties: those that
annotate a property or the elements of an array property, inside objects at any depth.

* `PrimitiveRef.IsFor`: a reference to a known primitive, by itself or by its name.
* `Annotation.ShowsAt`: the primitive at a place of an annotation. A place lists positions from the
  outside in, and the order of places is the order in which a reader meets them.
* `Annotation.Known`, `Annotation.FirstUnknown`: no visible primitive is unknown, and the first that
  is.
* `Annotation.DiffersUnseen`: two annotations that differ only where nothing is visible, under
  arrays of arrays and arrays of objects.
* `headers_of_visible`: the visible primitives decide what the headers are.
-/

namespace NativeProps

/-! ### References -/

/-- A reference to a known primitive: the primitive itself, or a text that is its name. -/
def PrimitiveRef.IsFor (name : PrimitiveRef) (p : Primitive) : Prop :=
  name = .known p ∨ name = .value (.string p.name)

theorem PrimitiveRef.primitive?_eq_some_iff {name : PrimitiveRef} {p : Primitive} :
    name.primitive? = some p ↔ name.IsFor p := by
  constructor
  · intro h
    rcases name with q | v
    · rw [PrimitiveRef.primitive?_known, Option.some.injEq] at h
      exact .inl (h ▸ rfl)
    · cases v with
      | string s => exact .inr (by rw [Primitive.name_of_ofName? h])
      | _ => cases h
  · rintro (rfl | rfl)
    · rfl
    · exact Primitive.ofName?_name p

theorem PrimitiveRef.IsFor.unique {name : PrimitiveRef} {p q : Primitive} (hp : name.IsFor p)
    (hq : name.IsFor q) : p = q := by
  rw [← primitive?_eq_some_iff] at hp hq
  exact Option.some.inj (hp.symm.trans hq)

theorem PrimitiveRef.primitive?_eq_none_iff {name : PrimitiveRef} :
    name.primitive? = none ↔ ∀ p, ¬name.IsFor p := by
  simp only [← primitive?_eq_some_iff, Option.eq_none_iff_forall_ne_some, ne_eq]

/-! ### Visible primitives -/

namespace Annotation

/-- The primitive that is visible at a place of an annotation. -/
inductive ShowsAt : Annotation → List Nat → PrimitiveRef → Prop
  | self (name : PrimitiveRef) : ShowsAt (.native name) [] name
  | element (name : PrimitiveRef) : ShowsAt (.array (.native name)) [] name
  | property {ps : List Property} {i : Nat} {p : Property} {place : List Nat} {name : PrimitiveRef}
      (position : ps[i]? = some p) (inner : ShowsAt p.type place name) :
      ShowsAt (.object ps) (i :: place) name

/-- All visible primitives are known. -/
def Known (a : Annotation) : Prop :=
  ∀ place name, a.ShowsAt place name → ∃ p, name.IsFor p

/-- The first visible primitive that is unknown. -/
def FirstUnknown (a : Annotation) (name : PrimitiveRef) : Prop :=
  ∃ place, a.ShowsAt place name ∧ (∀ p, ¬name.IsFor p) ∧
    ∀ earlier < place, ∀ other, a.ShowsAt earlier other → ∃ p, other.IsFor p

/-- An image source is visible. -/
def ShowsImageSource (a : Annotation) : Prop :=
  ∃ place name, a.ShowsAt place name ∧ name.IsFor .imageSource

variable {ps before after : List Property} {p : Property} {name : PrimitiveRef}

theorem known_object_iff : (object ps).Known ↔ ∀ p ∈ ps, p.type.Known := by
  constructor
  · intro h p hp place name shown
    obtain ⟨i, position⟩ := List.mem_iff_getElem?.1 hp
    exact h (i :: place) name (.property position shown)
  · intro h _ name shown
    cases shown with
    | property position inner => exact h _ (List.mem_of_getElem? position) _ name inner

theorem showsImageSource_object_iff :
    (object ps).ShowsImageSource ↔ ∃ p ∈ ps, p.type.ShowsImageSource := by
  constructor
  · rintro ⟨_, name, shown, isFor⟩
    cases shown with
    | property position inner =>
      exact ⟨_, List.mem_of_getElem? position, _, name, inner, isFor⟩
  · rintro ⟨p, hp, place, name, inner, isFor⟩
    obtain ⟨i, position⟩ := List.mem_iff_getElem?.1 hp
    exact ⟨i :: place, name, .property position inner, isFor⟩

/-- The first unknown primitive of a list of properties lies in the first property with one. -/
theorem firstUnknown_object_iff : (object ps).FirstUnknown name ↔
    ∃ before p after, ps = before ++ p :: after ∧ (∀ q ∈ before, q.type.Known) ∧
      p.type.FirstUnknown name := by
  constructor
  · rintro ⟨_, shown, unknown, first⟩
    cases shown with | @property _ i p place _ position inner => ?_
    obtain ⟨hi, rfl⟩ := List.getElem?_eq_some_iff.1 position
    refine ⟨ps.take i, ps[i], ps.drop (i + 1), ?_, ?_, place, inner, unknown, ?_⟩
    · rw [List.getElem_cons_drop, List.take_append_drop]
    · intro q hq there other shown
      obtain ⟨j, hj, rfl⟩ := List.mem_take_iff_getElem.1 hq
      exact first (j :: there) (List.cons_lt_cons_iff.2 (.inl (by omega))) other
        (.property (List.getElem?_eq_getElem _) shown)
    · intro earlier hlt other shown
      exact first (i :: earlier) (List.cons_lt_cons_iff.2 (.inr ⟨rfl, hlt⟩)) other
        (.property position shown)
  · rintro ⟨before, p, after, rfl, known, place, inner, unknown, first⟩
    refine ⟨before.length :: place, .property (by simp) inner, unknown, ?_⟩
    intro _ hlt other shown
    cases shown with | @property _ j q there _ position shown => ?_
    rcases List.cons_lt_cons_iff.1 hlt with hj | ⟨rfl, hthere⟩
    · rw [List.getElem?_append_left hj] at position
      exact known q (List.mem_of_getElem? position) there other shown
    · obtain rfl : p = q := by simpa using position
      exact first there hthere other shown

/-- What holds of an object as soon as it holds of the types of its properties. -/
theorem induction_properties {motive : Annotation → Prop}
    (object : ∀ ps : List Property, (∀ p ∈ ps, motive p.type) → motive (.object ps))
    (other : ∀ a : Annotation, (∀ ps, a ≠ .object ps) → motive a) (a : Annotation) : motive a := by
  induction h : sizeOf a using Nat.strongRecOn generalizing a with
  | ind n ih =>
    subst h
    cases a with
    | object ps =>
      refine object ps fun p hp => ih _ ?_ p.type rfl
      have := List.sizeOf_lt_of_mem hp
      cases p
      simp only [Property.mk.sizeOf_spec, Annotation.object.sizeOf_spec] at this ⊢
      omega
    | _ => exact other _ (by simp)

/-- Where not all visible primitives are known, one of them is the first that is not. -/
theorem known_or_firstUnknown (a : Annotation) : a.Known ∨ ∃ name, a.FirstUnknown name := by
  induction a using induction_properties with
  | object ps each =>
    have split : (∀ p ∈ ps, p.type.Known) ∨ ∃ before p after, ps = before ++ p :: after ∧
        (∀ q ∈ before, q.type.Known) ∧ ¬p.type.Known := by
      clear each
      induction ps with
      | nil => exact .inl (List.forall_mem_nil _)
      | cons p rest ih =>
        by_cases hp : p.type.Known
        · rcases ih with h | ⟨before, q, after, rfl, known, hq⟩
          · exact .inl (List.forall_mem_cons.2 ⟨hp, h⟩)
          · exact .inr ⟨p :: before, q, after, rfl, List.forall_mem_cons.2 ⟨hp, known⟩, hq⟩
        · exact .inr ⟨[], p, rest, rfl, List.forall_mem_nil _, hp⟩
    rcases split with h | ⟨before, p, after, rfl, known, hp⟩
    · exact .inl (known_object_iff.2 h)
    · obtain ⟨name, first⟩ := (each p (by simp)).resolve_left hp
      exact .inr ⟨name, firstUnknown_object_iff.2 ⟨before, p, after, rfl, known, first⟩⟩
  | other a plain =>
    by_cases h : a.Known
    · exact .inl h
    · -- outside an object nothing is shown but at the empty place
      unfold Known at h
      push Not at h
      obtain ⟨place, name, shown, unknown⟩ := h
      have hplace : place = [] := by
        cases shown with
        | property => exact absurd rfl (plain _)
        | _ => rfl
      subst hplace
      exact .inr ⟨name, [], shown, unknown, fun earlier hlt => absurd hlt (List.not_lt_nil earlier)⟩

end Annotation

/-! ### The search -/

section Search

open Annotation

variable {c : Config} {name : PrimitiveRef} {ps : List Property} {p : Property}

theorem headerOf_of_isFor {q : Primitive} (h : name.IsFor q) :
    headerOf c name = .ok (q.header? c) := by
  rw [headerOf, PrimitiveRef.primitive?_eq_some_iff.2 h]

theorem headerOf_of_unknown (h : ∀ q, ¬name.IsFor q) :
    headerOf c name = .error (.fault (.unknownPrimitive name.toValue)) := by
  rw [headerOf, PrimitiveRef.primitive?_eq_none_iff.2 h]

/-- The list of headers that stands for whether an image source has been seen. -/
inductive Holds (c : Config) : Prop → List String → Prop
  | none {seen : Prop} (h : ¬seen) : Holds c seen []
  | imageSource {seen : Prop} (h : seen) : Holds c seen [c.imageSourceHeader]

theorem Holds.congr {s t : Prop} {found : List String} (h : Holds c s found) (hst : s ↔ t) :
    Holds c t found :=
  propext hst ▸ h

theorem holds_iff {seen : Prop} {hs : List String} :
    Holds c seen hs ↔ hs = [c.imageSourceHeader] ∧ seen ∨ hs = [] ∧ ¬seen := by
  constructor
  · rintro (h | h)
    · exact .inr ⟨rfl, h⟩
    · exact .inl ⟨rfl, h⟩
  · rintro (⟨rfl, h⟩ | ⟨rfl, h⟩)
    · exact .imageSource h
    · exact .none h

theorem Holds.unique {seen : Prop} {hs ks : List String} (h : Holds c seen hs)
    (k : Holds c seen ks) : hs = ks := by
  rw [holds_iff] at h k
  grind

theorem addHeader_of_isFor {q : Primitive} (hname : name.IsFor q) {seen : Prop}
    {found : List String} (h : Holds c seen found) :
    ∃ hs, (addHeader c name found).result = .ok hs ∧ Holds c (seen ∨ q = .imageSource) hs := by
  rw [result_addHeader, headerOf_of_isFor hname]
  cases q with
  | imageSource =>
    refine ⟨[c.imageSourceHeader], ?_, .imageSource (.inr rfl)⟩
    cases h <;> simp [Primitive.header?, Except.map]
  | color => exact ⟨found, rfl, h.congr (by simp)⟩
  | point => exact ⟨found, rfl, h.congr (by simp)⟩

theorem addHeader_of_unknown (hname : ∀ q, ¬name.IsFor q) (found : List String) :
    (addHeader c name found).result = .error (.fault (.unknownPrimitive name.toValue)) := by
  rw [result_addHeader, headerOf_of_unknown hname]
  rfl

theorem collectAllHeaders_cons (found : List String) :
    collectAllHeaders c found (p :: ps) =
      collectHeaders c found p.type >>= fun hs => collectAllHeaders c hs ps := by
  obtain ⟨_, a, _⟩ := p
  rw [collectAllHeaders, collectPropertyHeaders]

theorem collectAllHeaders_append (before after : List Property) (found : List String) :
    collectAllHeaders c found (before ++ after) =
      collectAllHeaders c found before >>= fun hs => collectAllHeaders c hs after := by
  induction before generalizing found with
  | nil =>
    rw [List.nil_append, collectAllHeaders]
    rfl
  | cons p rest ih =>
    rw [List.cons_append, collectAllHeaders_cons, collectAllHeaders_cons, bind_assoc]
    exact bind_congr fun hs => ih hs

theorem collectAllHeaders_of_known {seen : Prop} {found : List String} (h : Holds c seen found)
    (each : ∀ p ∈ ps, ∀ {seen found}, Holds c seen found →
      ∃ hs, (collectHeaders c found p.type).result = .ok hs ∧
        Holds c (seen ∨ p.type.ShowsImageSource) hs) :
    ∃ hs, (collectAllHeaders c found ps).result = .ok hs ∧
      Holds c (seen ∨ ∃ p ∈ ps, p.type.ShowsImageSource) hs := by
  induction ps generalizing seen found with
  | nil => exact ⟨found, by rw [collectAllHeaders]; rfl, h.congr (by simp)⟩
  | cons p rest ih =>
    obtain ⟨hs, hp, holds⟩ := each p List.mem_cons_self h
    obtain ⟨all, hrest, holds⟩ := ih holds fun q hq => each q (List.mem_cons_of_mem p hq)
    refine ⟨all, ?_, holds.congr (by simp [or_assoc])⟩
    rw [collectAllHeaders_cons, Outcome.result_bind, hp]
    exact hrest

/-- The primitive that an annotation other than an object shows. -/
def Annotation.shown? : Annotation → Option PrimitiveRef
  | .native name => some name
  | .array (.native name) => some name
  | _ => none

theorem Annotation.showsAt_of_plain {a : Annotation} (plain : ∀ ps, a ≠ .object ps)
    {place : List Nat} : a.ShowsAt place name ↔ place = [] ∧ a.shown? = some name := by
  constructor
  · intro h
    cases h with
    | self name => exact ⟨rfl, rfl⟩
    | element name => exact ⟨rfl, rfl⟩
    | property => exact absurd rfl (plain _)
  · rintro ⟨rfl, h⟩
    unfold shown? at h
    split at h
    · exact Option.some.inj h ▸ .self _
    · exact Option.some.inj h ▸ .element _
    · cases h

theorem collectHeaders_of_plain {a : Annotation} (plain : ∀ ps, a ≠ .object ps)
    (found : List String) :
    collectHeaders c found a = match a.shown? with
      | some name => addHeader c name found
      | none => pure found := by
  cases a with
  | object ps => exact absurd rfl (plain ps)
  | array e => cases e <;> rfl
  | _ => rfl

/-- Where all visible primitives are known, the search goes on with what stands for an image source
having been seen by then. -/
theorem Annotation.Known.collectHeaders {a : Annotation} (known : a.Known) {seen : Prop}
    {found : List String} (h : Holds c seen found) :
    ∃ hs, (NativeProps.collectHeaders c found a).result = .ok hs ∧
      Holds c (seen ∨ a.ShowsImageSource) hs := by
  induction a using Annotation.induction_properties generalizing seen found with
  | object ps each =>
    rw [NativeProps.collectHeaders, showsImageSource_object_iff]
    exact collectAllHeaders_of_known h fun p hp _ _ => each p hp (known_object_iff.1 known p hp)
  | other a plain =>
    rw [collectHeaders_of_plain plain]
    unfold ShowsImageSource
    unfold Known at known
    simp only [showsAt_of_plain plain] at known ⊢
    cases hshown : a.shown? with
    | none => exact ⟨found, rfl, h.congr (by simp)⟩
    | some name =>
      obtain ⟨q, hq⟩ := known [] name ⟨rfl, hshown⟩
      obtain ⟨hs, hadd, holds⟩ := addHeader_of_isFor hq h
      refine ⟨hs, hadd, holds.congr (or_congr_right ⟨?_, ?_⟩)⟩
      · rintro rfl
        exact ⟨[], name, ⟨rfl, rfl⟩, hq⟩
      · rintro ⟨_, other, ⟨-, hother⟩, isFor⟩
        cases hother
        exact hq.unique isFor

/-- An unknown primitive ends the search where no unknown one comes before it. -/
theorem Annotation.FirstUnknown.collectHeaders {a : Annotation} (first : a.FirstUnknown name)
    {seen : Prop} {found : List String} (h : Holds c seen found) :
    (NativeProps.collectHeaders c found a).result =
      .error (.fault (.unknownPrimitive name.toValue)) := by
  induction a using Annotation.induction_properties generalizing seen found with
  | object ps each =>
    obtain ⟨before, p, after, rfl, known, first⟩ := firstUnknown_object_iff.1 first
    obtain ⟨hs, hbefore, holds⟩ := (known_object_iff.2 known).collectHeaders h
    rw [NativeProps.collectHeaders] at hbefore ⊢
    rw [collectAllHeaders_append, Outcome.result_bind, hbefore]
    show (collectAllHeaders c hs (p :: after)).result = _
    rw [collectAllHeaders_cons, Outcome.result_bind, each p (by simp) first holds]
    rfl
  | other a plain =>
    obtain ⟨place, shown, unknown, -⟩ := first
    rw [showsAt_of_plain plain] at shown
    rw [collectHeaders_of_plain plain, shown.2]
    exact addHeader_of_unknown unknown found

/-- Annotations whose parts are not looked at where they are the elements of an array. -/
inductive Annotation.Covered : Annotation → Prop
  | array (a : Annotation) : Covered (.array a)
  | object (ps : List Property) : Covered (.object ps)

/-- Two annotations that differ in one place where nothing is visible, under an array of arrays or
of objects. -/
inductive Annotation.DiffersUnseen : Annotation → Annotation → Prop
  | elements {a b : Annotation} (ha : a.Covered) (hb : b.Covered) :
      DiffersUnseen (.array a) (.array b)
  | property {before after : List Property} {p q : Property}
      (inner : DiffersUnseen p.type q.type) :
      DiffersUnseen (.object (before ++ p :: after)) (.object (before ++ q :: after))

theorem Annotation.DiffersUnseen.collectHeaders {a b : Annotation} (h : a.DiffersUnseen b)
    (found : List String) :
    NativeProps.collectHeaders c found b = NativeProps.collectHeaders c found a := by
  induction h generalizing found with
  | elements ha hb => cases ha <;> cases hb <;> rfl
  | property _ ih =>
    simp only [NativeProps.collectHeaders, collectAllHeaders_append, collectAllHeaders_cons, ih]

theorem result_headers_of_known (known : Known (.object ps)) :
    ∃ hs, (headers c ps).result = .ok hs ∧ Holds c (ShowsImageSource (.object ps)) hs := by
  obtain ⟨hs, hok, holds⟩ := known.collectHeaders (.none id : Holds c False [])
  rw [collectHeaders] at hok
  exact ⟨hs, hok, holds.congr (by simp)⟩

theorem result_headers_error_iff {f : Failure} :
    (headers c ps).result = .error f ↔ ∃ name, FirstUnknown (.object ps) name ∧
      f = .fault (.unknownPrimitive name.toValue) := by
  have herror {name : PrimitiveRef} (first : FirstUnknown (.object ps) name) :
      (headers c ps).result = .error (.fault (.unknownPrimitive name.toValue)) := by
    have h := first.collectHeaders (.none id : Holds c False [])
    rwa [collectHeaders] at h
  constructor
  · intro h
    rcases known_or_firstUnknown (.object ps) with known | ⟨name, first⟩
    · obtain ⟨hs, hok, -⟩ := result_headers_of_known (c := c) known
      cases hok.symm.trans h
    · cases (herror first).symm.trans h
      exact ⟨name, first, rfl⟩
  · rintro ⟨name, first, rfl⟩
    exact herror first

theorem result_headers_ok_iff {hs : List String} :
    (headers c ps).result = .ok hs ↔ Known (.object ps) ∧
      Holds c (ShowsImageSource (.object ps)) hs := by
  constructor
  · intro h
    rcases known_or_firstUnknown (.object ps) with known | ⟨name, first⟩
    · obtain ⟨hs, hok, holds⟩ := result_headers_of_known (c := c) known
      cases hok.symm.trans h
      exact ⟨known, holds⟩
    · cases (result_headers_error_iff.2 ⟨name, first, rfl⟩).symm.trans h
  · rintro ⟨known, holds⟩
    obtain ⟨ks, hok, holds'⟩ := result_headers_of_known (c := c) known
    rwa [holds.unique holds']

end Search

/-- **The visible primitives decide what the headers are.** There are none just where an unknown
primitive is visible, and the failure names the first such one. Otherwise they are the header of
image sources if one is visible, once, and nothing if none is. What lies under an array of arrays or
of objects has no part in this. -/
theorem headers_of_visible (c : Config) (ps : List Property) :
    ((∃ f, (headers c ps).result = .error f) ↔
      ∃ place name, Annotation.ShowsAt (.object ps) place name ∧ ∀ p, ¬name.IsFor p) ∧
    (∀ f, (headers c ps).result = .error f ↔
      ∃ name, Annotation.FirstUnknown (.object ps) name ∧
        f = .fault (.unknownPrimitive name.toValue)) ∧
    (∀ hs, (headers c ps).result = .ok hs ↔ Annotation.Known (.object ps) ∧
      (hs = [c.imageSourceHeader] ∧ Annotation.ShowsImageSource (.object ps) ∨
        hs = [] ∧ ¬ Annotation.ShowsImageSource (.object ps))) ∧
    ∀ qs, Annotation.DiffersUnseen (.object ps) (.object qs) → headers c qs = headers c ps := by
  refine ⟨⟨?_, ?_⟩, fun f => result_headers_error_iff, fun hs => ?_, fun qs h => ?_⟩
  · rintro ⟨f, h⟩
    obtain ⟨name, ⟨place, shown, unknown, -⟩, -⟩ := result_headers_error_iff.1 h
    exact ⟨place, name, shown, unknown⟩
  · rintro ⟨place, name, shown, unknown⟩
    rcases Annotation.known_or_firstUnknown (.object ps) with known | ⟨first, h⟩
    · obtain ⟨p, hp⟩ := known place name shown
      exact absurd hp (unknown p)
    · exact ⟨_, result_headers_error_iff.2 ⟨first, h, rfl⟩⟩
  · rw [result_headers_ok_iff, holds_iff]
  · have hcollect := h.collectHeaders (c := c) []
    rwa [collectHeaders, collectHeaders] at hcollect

open Annotation in
/-- An unknown primitive in an array of arrays is not looked at, also inside an object; an image
source that is named by a text is, and the unknown primitive behind it is the first visible one. -/
theorem headers_of_visible_nested :
    let hidden (a : Annotation) : Property := ⟨.string "grid", .array (.array a), false⟩
    let source : Property :=
      ⟨.string "icons", .array (.native (.value (.string "ImageSourcePrimitive"))), false⟩
    let box (a : Annotation) : Property := ⟨.string "box", .object [hidden a, source], false⟩
    let insets : Property := ⟨.string "insets", .native (.value (.string "Insets")), false⟩
    (headers {} [box (.native (.value .null))]).result = .ok [({} : Config).imageSourceHeader] ∧
      headers {} [box (.raw .null)] = headers {} [box (.native (.value .null))] ∧
      ∃ f, (headers {} [box (.raw .null), insets]).result = .error f := by
  intro hidden source box insets
  have differs :
      DiffersUnseen (.object [box (.native (.value .null))]) (.object [box (.raw .null)]) :=
    @DiffersUnseen.property [] [] _ _
      (@DiffersUnseen.property [] [source] _ _ (.elements (.array _) (.array _)))
  obtain ⟨-, -, -, same⟩ := headers_of_visible {} [box (.native (.value .null))]
  obtain ⟨fails, -⟩ := headers_of_visible {} [box (.raw .null), insets]
  refine ⟨rfl, same _ differs, fails.2 ⟨[1], _, .property rfl (.self _), ?_⟩⟩
  rintro p (h | h)
  · cases h
  · cases p <;> simp [Primitive.name] at h

end NativeProps
