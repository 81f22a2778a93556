import NativeProps.Proofs.Schema.Settled
import NativeProps.Schema.Encoding

/-!
# Encoding and reading

* `Settled.describes`: the JSON form of a settled annotation describes that annotation.
* `readProperties_encode`: reading undoes the encoding of settled properties, and what is read from
  any spelling is settled, so that its JSON form is read as the same properties.
-/

namespace NativeProps

open Schema

theorem describesOptions_encode (options : List Value) :
    DescribesOptions (some (.array (options.map encodeOption))) options := by
  refine .list ?_
  induction options with
  | nil => exact .nil
  | cons o rest ih => exact .cons (.named rfl) ih

/-- The JSON form of properties describes them as soon as their annotations do. -/
theorem describesEach_encodeEach {ps : List Property}
    (each : ∀ p ∈ ps, DescribesType p.type.encode p.type) : DescribesEach (encodeEach ps) ps := by
  induction ps with
  | nil => exact .nil
  | cons p rest ih =>
    obtain ⟨name, a, optional⟩ := p
    have head : DescribesProperty (Property.encode ⟨name, a, optional⟩) ⟨name, a, optional⟩ :=
      .mk rfl rfl (each _ List.mem_cons_self)
    exact .cons head (ih fun q hq => each q (List.mem_cons_of_mem _ hq))

/-- The JSON form of a settled annotation describes that annotation. -/
theorem Annotation.Settled.describes {a : Annotation} (h : a.Settled) :
    DescribesType a.encode a := by
  induction h with
  | @scalar s d null =>
    by_cases hd : d = .null
    · -- Only a text is left without a default, and `null` is its initial one.
      obtain rfl := null hd
      subst hd
      exact .initial rfl rfl
    · exact .scalar rfl rfl hd
  | native p => exact .native rfl rfl
  | stringEnum d options => exact .stringEnum rfl (describesOptions_encode options)
  | array _ ih => exact .array rfl rfl ih
  | object _ ih => exact .object rfl rfl (describesEach_encodeEach ih)

theorem result_readProperties_encodeEach {ps : List Property} (h : ∀ p ∈ ps, p.type.Settled) :
    (readProperties (.array (encodeEach ps))).result = .ok ps :=
  (DescribesList.mk (describesEach_encodeEach fun p hp => (h p hp).describes)).result

/-- **Reading undoes encoding** on settled properties of any depth. What is read, however it is
spelled, is settled, and its JSON form is read as the same properties. -/
theorem readProperties_encode :
    (∀ ps : List Property, (∀ p ∈ ps, p.type.Settled) →
      (readProperties (.array (encodeEach ps))).result = .ok ps) ∧
    ∀ (data : Value) (ps : List Property), (readProperties data).result = .ok ps →
      (∀ p ∈ ps, p.type.Settled) ∧
        (readProperties (.array (encodeEach ps))).result = .ok ps := by
  refine ⟨fun ps h => result_readProperties_encodeEach h, fun data ps h => ?_⟩
  have settled := settled_of_result h
  exact ⟨settled, result_readProperties_encodeEach settled⟩

/-- Options given as a text, a truth value that is no Boolean and a member of no meaning are one
spelling of the properties that the JSON form spells out. -/
theorem readProperties_encode_nested :
    let modes : Value := .object [("hint", .null), ("typeAnnotation", .object
      [("options", .string "xy"), ("type", .string "StringEnumTypeAnnotation")]),
      ("optional", .string "yes"), ("name", .object [])]
    let data : Value := .array [.object [("name", .string "box"), ("typeAnnotation", .object
      [("type", .string "ObjectTypeAnnotation"), ("properties", .array [modes])])]]
    let p : Property := ⟨.object [], .stringEnum .null [.string "x", .string "y"], true⟩
    let ps : List Property := [⟨.string "box", .object [p], false⟩]
    (readProperties data).result = .ok ps ∧ (∀ p ∈ ps, p.type.Settled) ∧
      (readProperties (.array (encodeEach ps))).result = .ok ps := by
  intro modes data p ps
  have inner : DescribesProperty modes p := .mk rfl rfl (.stringEnum rfl (.text "xy"))
  have described : DescribesList data ps :=
    .mk (.cons (.mk rfl rfl (.object rfl rfl (.cons inner .nil))) .nil)
  obtain ⟨settled, -⟩ := readProperties_encode.2 data ps described.result
  exact ⟨described.result, settled, readProperties_encode.1 ps settled⟩

end NativeProps
