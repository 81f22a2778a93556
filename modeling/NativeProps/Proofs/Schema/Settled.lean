import NativeProps.Proofs.Schema.Offence

/-!
# Settled annotations

Reading leaves nothing open: a native primitive is a known one, only a text can be without a
default, and no raw value stands where an annotation belongs. This holds at every level.

* `Annotation.Settled`: the annotations that reading gives.
* `Annotation.Contains`: the properties at any depth of an annotation.
* `settled_of_result`: whatever is read is settled.
* `Settled.of_contains`: the properties inside a settled annotation are settled.
-/

namespace NativeProps

/-- An annotation in which every primitive is known and every scalar but a text has a default. -/
inductive Annotation.Settled : Annotation → Prop
  | scalar {s : Scalar} {d : Value} (null : d = .null → s = .string) : Settled (.scalar s d)
  | native (p : Primitive) : Settled (.native (.known p))
  | stringEnum (d : Value) (options : List Value) : Settled (.stringEnum d options)
  | array {a : Annotation} (element : Settled a) : Settled (.array a)
  | object {ps : List Property} (each : ∀ p ∈ ps, Settled p.type) : Settled (.object ps)

/-- The properties of an annotation at any depth: those of an object, and those of the types of its
properties and of the elements of an array. -/
inductive Annotation.Contains : Annotation → Property → Prop
  | element {a : Annotation} {p : Property} (inner : Contains a p) : Contains (.array a) p
  | property {ps : List Property} {p : Property} (mem : p ∈ ps) : Contains (.object ps) p
  | nested {ps : List Property} {p q : Property} (mem : q ∈ ps) (inner : Contains q.type p) :
      Contains (.object ps) p

theorem Annotation.Settled.of_contains {a : Annotation} {p : Property} (h : a.Settled)
    (hp : a.Contains p) : p.type.Settled := by
  induction hp with
  | element _ ih =>
    cases h with
    | array element => exact ih element
  | property mem =>
    cases h with
    | object each => exact each _ mem
  | nested mem _ ih =>
    cases h with
    | object each => exact ih (each _ mem)

namespace Schema

/-- Of the initial defaults only that of a text is `null`. -/
theorem initial_eq_null {s : Scalar} (h : s.initial = .null) : s = .string := by
  cases s <;> first | rfl | cases h

mutual

theorem DescribesType.settled {v : Value} {a : Annotation} : DescribesType v a → a.Settled
  | .scalar _ _ notNull => .scalar fun h => absurd h notNull
  | .initial _ _ => .scalar initial_eq_null
  | .native _ _ => .native _
  | .stringEnum _ _ => .stringEnum _ _
  | .array _ _ described => .array described.settled
  | .object _ _ described => .object described.settled

theorem DescribesProperty.settled {v : Value} {p : Property} :
    DescribesProperty v p → p.type.Settled
  | .mk _ _ described => described.settled

theorem DescribesEach.settled {items : List Value} {ps : List Property} :
    DescribesEach items ps → ∀ p ∈ ps, p.type.Settled
  | .nil => by simp
  | .cons head tail => by simpa using ⟨head.settled, tail.settled⟩

end

/-- Whatever is read is settled. -/
theorem settled_of_result {data : Value} {ps : List Property}
    (h : (readProperties data).result = .ok ps) : ∀ p ∈ ps, p.type.Settled := by
  cases result_readProperties_ok_iff.mp h with
  | mk each => exact each.settled

end Schema

end NativeProps
