import NativeProps.Proofs.Declaration.Influence
import NativeProps.Proofs.Declaration.Undescribed

/-!
# Values of no known type in the log

A computation that fails for a value of no known type says so in the log first: its last record is
an error that shows the value. No other failure has an error in front of it, not even that for a
primitive of no known name.

* `Announces`: an outcome has an error among its records just if it fails for a value of no known
  type, as the last of them. It passes through sequences.
* `announces_of_unknownType`: so do reading, type names, initializers and headers.
* `unannounced_primitive`: a primitive of no known name fails without an error in the log.
-/

namespace NativeProps

/-- A failure for anything but a value of no known type. -/
def Failure.Typed (f : Failure) : Prop := ∀ v, f ≠ .fault (.unknownType v)

theorem Failure.typed_of_not_unknown {f : Failure} (h : ¬f.Unknown) : f.Typed := by
  rintro v rfl
  exact h (.type v)

theorem Failure.typed_unknownPrimitive (v : Value) :
    Failure.Typed (.fault (.unknownPrimitive v)) := by
  intro w h
  cases h

/-- An outcome that fails for a value of no known type ends its records with an error in which the
log `l` shows the value. Any other outcome has no error among its records. -/
structure Announces {α : Type} (l : Logger) (x : Outcome α) : Prop where
  unknownType : ∀ v, x.result = .error (.fault (.unknownType v)) →
    ∃ text, x.records.getLast? = some ⟨.error, l, text ++ v.literal⟩
  typed : FailsOnly Failure.Typed x.result → ∀ r ∈ x.records, r.level ≠ .error

namespace Announces

variable {α β : Type} {l : Logger} {x : Outcome α}

/-- Without a failure for a value of no known type it is enough that no record is an error. -/
theorem of_typed (h : FailsOnly Failure.Typed x.result)
    (records : ∀ r ∈ x.records, r.level ≠ .error) : Announces l x where
  unknownType v hv := absurd rfl (h _ hv v)
  typed _ := records

theorem lift {x : Except Failure α} (h : FailsOnly Failure.Typed x) :
    Announces l (liftM x : Outcome α) :=
  .of_typed h (List.forall_mem_nil _)

theorem pure (a : α) : Announces l (Pure.pure a : Outcome α) :=
  .of_typed (.of_ok rfl) (List.forall_mem_nil _)

theorem fault {f : Fault} (h : Failure.Typed (.fault f)) :
    Announces l (Outcome.fault f : Outcome α) :=
  .of_typed (.of_error rfl h) (List.forall_mem_nil _)

theorem log {level : Level} (h : level ≠ .error) (logger : Logger) (message : String) :
    Announces l (Outcome.log level logger message) :=
  .of_typed (.of_ok rfl) (by simpa [Outcome.log] using h)

/-- An error in the log and the failure that it announces. -/
theorem log_fault (text : String) (v : Value) :
    Announces l ((Outcome.log .error l (text ++ v.literal) >>= fun _ =>
      Outcome.fault (.unknownType v)) : Outcome α) where
  unknownType w hw := by
    cases hw
    exact ⟨text, rfl⟩
  typed h := absurd rfl (h _ rfl v)

theorem bind {f : α → Outcome β} (hx : Announces l x)
    (hf : ∀ a, x.result = .ok a → Announces l (f a)) : Announces l (x >>= f) := by
  cases hresult : x.result with
  | error e =>
    rw [Outcome.bind_of_error hresult]
    have announced := hx.unknownType
    have quiet := hx.typed
    rw [hresult] at announced quiet
    refine ⟨fun v hv => announced v ?_, fun h => quiet fun g hg => h g ?_⟩
    · simpa using hv
    · simpa using hg
  | ok a =>
    rw [Outcome.bind_of_ok hresult]
    refine ⟨fun v hv => ?_, fun h r hr => ?_⟩
    · obtain ⟨text, last⟩ := (hf a hresult).unknownType v hv
      exact ⟨text, by simp [List.getLast?_append, last]⟩
    · rcases List.mem_append.1 hr with before | after
      · exact hx.typed (.of_ok hresult) r before
      · exact (hf a hresult).typed h r after

theorem map (f : α → β) (hx : Announces l x) : Announces l (f <$> x) := by
  rw [← bind_pure_comp]
  exact hx.bind fun a _ => .pure (f a)

end Announces

/-! ### Reading -/

namespace Schema

theorem typed_of_schema (f : SchemaFault) : Failure.Typed (.fault (.schema f)) := nofun

theorem require_failsOnly_typed (key : String) (place : Place) (members : Members) :
    FailsOnly Failure.Typed (require key place members) := by
  cases h : members.lookup key with
  | some v => exact .of_ok (require_of_some place h)
  | none => exact .of_error (require_of_none place h) (typed_of_schema _)

theorem readPrimitive_failsOnly_typed (name : Value) :
    FailsOnly Failure.Typed (readPrimitive name) := by
  unfold readPrimitive
  cases (PrimitiveRef.value name).primitive? with
  | some p => exact .of_ok rfl
  | none => exact .of_error rfl (Failure.typed_unknownPrimitive name)

theorem readOptions_failsOnly_typed (members : Members) :
    FailsOnly Failure.Typed (readOptions members) := by
  intro f hf
  rcases optionsForm_or_offence (members.lookup "options") with form | ⟨g, offence⟩
  · obtain ⟨options, described⟩ := form.describes
    rw [described.readOptions] at hf
    cases hf
  · rw [offence.readOptions] at hf
    cases hf
    generalize members.lookup "options" = options at offence
    cases offence <;> nofun

theorem announces_readTag (members : Members) : Announces .schema (readTag members) := by
  unfold readTag
  refine (Announces.lift (require_failsOnly_typed _ _ members)).bind fun tag _ => ?_
  cases tag with
  | string s =>
    cases hs : Tag.ofName? s with
    | some t => simpa [hs] using Announces.pure t
    | none => simpa [hs] using Announces.log_fault _ (.string s)
  | _ => exact .log_fault _ _

variable {members : Members}

theorem announces_readType_object
    (types : ∀ key v, members.lookup key = some v → Announces .schema (readType v))
    (lists : ∀ key v, members.lookup key = some v → Announces .schema (readProperties v)) :
    Announces .schema (readType (.object members)) := by
  rw [readType]
  refine (announces_readTag members).bind fun t _ => ?_
  cases t with
  | scalar s => exact .pure _
  | native =>
    refine (Announces.lift (require_failsOnly_typed _ _ members)).bind fun name _ => ?_
    exact (Announces.lift (readPrimitive_failsOnly_typed name)).bind fun p _ => .pure _
  | stringEnum =>
    exact (Announces.lift (readOptions_failsOnly_typed members)).bind fun os _ => .pure _
  | array =>
    refine Announces.bind ?_ fun a _ => .pure _
    rw [readElement_eq]
    cases h : members.lookup "elementType" with
    | none => exact .fault (typed_of_schema _)
    | some v => exact types _ v h
  | object =>
    refine Announces.bind ?_ fun ps _ => .pure _
    rw [readNested_eq]
    cases h : members.lookup "properties" with
    | none => exact .fault (typed_of_schema _)
    | some v => exact lists _ v h

theorem announces_readProperty_object
    (types : ∀ key v, members.lookup key = some v → Announces .schema (readType v)) :
    Announces .schema (readProperty (.object members)) := by
  rw [readProperty]
  refine (Announces.lift (require_failsOnly_typed _ _ members)).bind fun name _ => ?_
  refine Announces.bind ?_ fun a _ => .pure _
  rw [readTyped_eq]
  cases h : members.lookup "typeAnnotation" with
  | none => exact .fault (typed_of_schema _)
  | some v => exact types _ v h

theorem announces_readProperties_array {items : List Value}
    (each : ∀ v ∈ items, Announces .schema (readProperty v)) :
    Announces .schema (readProperties (.array items)) := by
  have all : Announces .schema (readEach items) := by
    induction items with
    | nil => exact .pure _
    | cons v rest ih =>
      rw [readEach]
      refine (each v List.mem_cons_self).bind fun p _ => ?_
      exact (ih fun w hw => each w (List.mem_cons_of_mem v hw)).bind fun ps _ => .pure _
  rw [readProperties]
  refine all.bind fun ps _ => ?_
  exact (Announces.log (by decide) _ _).bind fun _ _ => .pure _

theorem announces_readType_of_kind {v : Value} (h : v.kind ≠ .object) :
    Announces .schema (readType v) := by
  rw [readType_of_kind h]
  exact .fault (typed_of_schema _)

theorem announces_readProperty_of_kind {v : Value} (h : v.kind ≠ .object) :
    Announces .schema (readProperty v) := by
  rw [readProperty_of_kind h]
  exact .fault (typed_of_schema _)

theorem announces_readProperties_of_kind {v : Value} (h : v.kind ≠ .array) :
    Announces .schema (readProperties v) := by
  rw [readProperties_of_kind h]
  exact .fault (typed_of_schema _)

/-- Whatever a value is read as, a tag of no known type inside it is announced. -/
theorem announces_read (v : Value) :
    Announces .schema (readType v) ∧ Announces .schema (readProperties v) ∧
      Announces .schema (readProperty v) := by
  induction v using Value.induction_parts with
  | array items ih =>
    have notObject : (Value.array items).kind ≠ .object := by simp [Value.kind]
    exact ⟨announces_readType_of_kind notObject,
      announces_readProperties_array fun v hv => (ih v hv).2.2,
      announces_readProperty_of_kind notObject⟩
  | object members ih =>
    have types := fun key v h => (ih key v h).1
    have lists := fun key v h => (ih key v h).2.1
    exact ⟨announces_readType_object types lists,
      announces_readProperties_of_kind (by simp [Value.kind]), announces_readProperty_object types⟩
  | plain v notArray notObject =>
    exact ⟨announces_readType_of_kind notObject, announces_readProperties_of_kind notArray,
      announces_readProperty_of_kind notObject⟩

end Schema

/-! ### Declarations -/

theorem announces_scalarTypeOf (c : Config) (tag : Value) :
    Announces .types (scalarTypeOf c tag) := by
  unfold scalarTypeOf
  cases scalarOf? tag with
  | some k => exact .pure _
  | none => exact .log_fault _ tag

theorem requireDefault_failsOnly (need : Need) (property d : Value) :
    FailsOnly Failure.LacksDefault (requireDefault need property d) := by
  cases d with
  | null => exact .of_error rfl (.mk need property)
  | _ => exact .of_ok rfl

namespace Failure

theorem OfSpelling.typed {f : Failure} (h : f.OfSpelling) : f.Typed :=
  typed_of_not_unknown h.not_unknown

theorem LacksDefault.typed {f : Failure} (h : f.LacksDefault) : f.Typed := by
  cases h
  exact nofun

end Failure

theorem scalarInitializer_failsOnly_typed (s : Scalar) (property d : Value) :
    FailsOnly Failure.Typed (scalarInitializer s property d) := by
  intro f hf
  rcases scalarInitializer_eq_error_iff.1 hf with ⟨-, -, rfl⟩ | ⟨-, -, m, -, rfl⟩
  · exact nofun
  · exact nofun

theorem announces_initializerOf (component : String) (property : Value) (a : Annotation) :
    Announces .defaults (initializerOf component property a) := by
  have required (need : Need) (d : Value) :
      Announces .defaults (liftM (requireDefault need property d) : Outcome Value) :=
    .lift ((requireDefault_failsOnly need property d).mono fun _ => Failure.LacksDefault.typed)
  have member (d : Value) :
      Announces .defaults (liftM (enumMember component property d) : Outcome String) :=
    .lift ((enumMember_failsOnly component property d).mono fun _ => Failure.OfSpelling.typed)
  cases a with
  | scalar s d => exact .lift (scalarInitializer_failsOnly_typed s property d)
  | native name =>
    rw [initializerOf]
    cases name.primitive? with
    | some p => exact .pure ""
    | none => exact .fault (Failure.typed_unknownPrimitive name.toValue)
  | stringEnum d options => exact (required .stringEnum d).bind fun d _ => member d
  | array e =>
    cases e with
    | stringEnum d options =>
      refine (required .enumArray d).bind fun d _ => ?_
      refine Announces.bind (.lift ?_) fun n _ => (member d).bind fun m _ => .pure _
      exact (enumName_failsOnly component property).mono fun _ => Failure.OfSpelling.typed
    | _ => exact .pure ""
  | object ps => exact .pure ""
  | raw v => exact .log_fault _ v

theorem announces_initializer (component : String) (p : Property) :
    Announces .defaults (initializer component p) :=
  (Announces.log (by decide) _ _).bind fun _ _ => announces_initializerOf component p.name p.type

theorem headerOf_failsOnly (c : Config) (name : PrimitiveRef) :
    FailsOnly (fun f => ∃ v, f = .fault (.unknownPrimitive v)) (headerOf c name) := by
  unfold headerOf
  cases name.primitive? with
  | some p => exact .of_ok rfl
  | none => exact .of_error rfl ⟨name.toValue, rfl⟩

theorem announces_addHeader (c : Config) (name : PrimitiveRef) (found : List String) :
    Announces .headers (addHeader c name found) := by
  unfold addHeader
  refine Announces.bind (.lift ((headerOf_failsOnly c name).mono ?_)) fun header? _ => ?_
  · rintro f ⟨v, rfl⟩
    exact Failure.typed_unknownPrimitive v
  · cases header? with
    | none => exact .pure found
    | some header =>
      by_cases h : header ∈ found
      · simpa [h] using Announces.pure found
      · simpa [h] using (Announces.log (by decide) _ _).bind fun _ _ => .pure _

/-- A search for headers fails only for a primitive of no known name, without announcing it. -/
theorem announces_headers (c : Config) (ps : List Property) :
    Announces .headers (headers c ps) ∧
      FailsOnly (fun f => ∃ v, f = .fault (.unknownPrimitive v)) (headers c ps).result := by
  -- one search is followed, with nothing asked of what has been found
  have couples : Couples c c (fun _ _ => True) fun x _ => Announces .headers x ∧
      FailsOnly (fun f => ∃ v, f = .fault (.unknownPrimitive v)) x.result :=
    { pure := fun {hs _} _ => ⟨.pure hs, .of_ok rfl⟩
      bind := fun hx next => by
        refine ⟨hx.1.bind fun hs _ => (next hs hs trivial).1, ?_⟩
        rw [Outcome.result_bind]
        exact hx.2.bind fun hs _ => (next hs hs trivial).2
      add := fun name {hs _} _ => by
        refine ⟨announces_addHeader c name hs, ?_⟩
        rw [result_addHeader]
        exact (headerOf_failsOnly c name).map _ }
  exact couples.headers trivial ps

/-! ### What is announced and what is not -/

/-- **A failure for a value of no known type is announced** by an error that ends the records and
shows the value, and no other failure is: reading fails for a primitive of no known name without an
error in the log, so does an initializer, and a search for headers fails for nothing else. -/
theorem announces_of_unknownType (c : Config) (data tag : Value) (component : String)
    (p : Property) (ps : List Property) :
    Announces .schema (Schema.readProperties data) ∧
    Announces .types (scalarTypeOf c tag) ∧
    Announces .defaults (initializer component p) ∧
    Announces .headers (headers c ps) ∧
    FailsOnly (fun f => ∃ v, f = .fault (.unknownPrimitive v)) (headers c ps).result :=
  ⟨(Schema.announces_read data).2.1, announces_scalarTypeOf c tag,
    announces_initializer component p, announces_headers c ps⟩

/-- The records of an outcome end with an error. -/
def Outcome.EndsInError {α : Type} (x : Outcome α) : Prop :=
  ∃ r, x.records.getLast? = some r ∧ r.level = .error

/-- Not every failure for an unknown value is announced: neither reading nor an initializer nor a
search for headers does so for a primitive of no known name. -/
theorem unannounced_primitive :
    ¬(∀ data f, (Schema.readProperties data).result = .error f → f.Unknown →
      (Schema.readProperties data).EndsInError) ∧
    ¬(∀ component p f, (initializer component p).result = .error f → f.Unknown →
      (initializer component p).EndsInError) ∧
    ¬∀ c ps f, (headers c ps).result = .error f → f.Unknown → (headers c ps).EndsInError := by
  let annotation : Value := .object [("type", .string "NativePrimitiveTypeAnnotation"),
    ("name", .string "ShadePrimitive")]
  let data : Value := .array [.object [("name", .string "tint"), ("typeAnnotation", annotation)]]
  let p : Property := ⟨.string "tint", .native (.value (.string "ShadePrimitive")), false⟩
  have unknown : (Failure.fault (.unknownPrimitive (.string "ShadePrimitive"))).Unknown :=
    .primitive _
  refine ⟨fun h => ?_, fun h => ?_, fun h => ?_⟩
  · obtain ⟨r, last, -⟩ := h data _ rfl unknown
    cases last
  · obtain ⟨r, last, level⟩ := h "Crop" p _ rfl unknown
    cases last
    cases level
  · obtain ⟨r, last, -⟩ := h {} [p] _ rfl unknown
    cases last

end NativeProps
