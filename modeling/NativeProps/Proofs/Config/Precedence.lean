import Mathlib.Data.List.Sort
import Mathlib.Data.String.Basic
import NativeProps.Proofs.Config.Reload
import NativeProps.Proofs.Failing
import NativeProps.Proofs.Files.Opened

/-!
# Precedence of configuration layers

What a configuration comes to when overrides are laid over a file and the file over the defaults,
said field by field and without going through the layers.

* `FileGives`: the members that a file adds, if there is one.
* `Foreign`: the keys that are no field, in whichever layer they stand.
* `winning`: the value that wins a field.
* `Merges`: foreign keys are refused first, then the first field in order whose winning value does
  not fit; otherwise every field has its winning value.
* `merge_eq_iff`: merging comes to what is said here, and to nothing else.
* `load_precedence`: so does loading from a file under an object of overrides.
* `not_blank_of_load`: whatever is loaded, no field of it is blank.
-/

namespace NativeProps.Config

/-! ### The first exception -/

/-- Where not all elements of a list have a property, there is one without it behind elements that
all have it. -/
theorem exists_first {α : Type} [DecidableEq α] {P : α → Prop} {l : List α}
    (h : ¬∀ x ∈ l, P x) : ∃ x ∈ l, ¬P x ∧ ∀ y ∈ l.takeWhile (· ≠ x), P y := by
  induction l with
  | nil => exact absurd (List.forall_mem_nil P) h
  | cons a rest ih =>
    by_cases ha : P a
    · have hrest : ¬∀ x ∈ rest, P x := fun hall => h (List.forall_mem_cons.2 ⟨ha, hall⟩)
      obtain ⟨x, hx, hnot, hbefore⟩ := ih hrest
      have hne : a ≠ x := by
        rintro rfl
        exact hnot ha
      refine ⟨x, List.mem_cons_of_mem a hx, hnot, ?_⟩
      rw [List.takeWhile_cons_of_pos (by simpa using hne)]
      exact List.forall_mem_cons.2 ⟨ha, hbefore⟩
    · exact ⟨a, List.mem_cons_self, ha, by simp⟩

/-! ### Files -/

/-- The members that the file of a name adds: none without a name, those of its object otherwise. -/
inductive FileGives (files : FileTree) : Option String → Members → Prop
  | absent : FileGives files none []
  | unnamed : FileGives files (some "") []
  | object {name : String} {members : Members} (json : (Path.ofText name).isJson = true)
      (document : files.document (.ofText name) = .ok (.object members)) :
      FileGives files (some name) members

theorem readLayer_of_gives {files : FileTree} {file : Option String} {layer : Members}
    (h : FileGives files file layer) : (readLayer files file).result = .ok layer := by
  cases h with
  | absent => rfl
  | unnamed => rfl
  | @object name _ json document =>
    have found : files.exists? (.ofText name) = .ok true := FileTree.exists?_of_document document
    unfold readLayer
    simp only [isEmpty_of_isJson json, Bool.false_eq_true, if_false]
    unfold readFile
    simp only [found]
    unfold readMembers
    simp only [json, document]
    rfl

/-! ### What is laid on top of each other -/

/-- A key of the file or of the overrides that is no field. -/
def Foreign (file overrides : Members) (key : String) : Prop :=
  (key ∈ overrides.map Prod.fst ∨ key ∈ file.map Prod.fst) ∧ ∀ f : Field, f.key ≠ key

/-- The value that wins a field: that of the overrides, else that of the file, else the default. -/
def winning (defaults : Config) (file overrides : Members) (f : Field) : Value :=
  match overrides.lookup f.key, file.lookup f.key with
  | some v, _ => v
  | none, some v => v
  | none, none => .string (defaults.get f)

/-- A value that a field can have: a text that is not blank. -/
def Fits (v : Value) : Prop := ∃ s, v = .string s ∧ Text.isBlankText s = false

/-- What the layers come to. -/
inductive Merges (defaults : Config) (file overrides : Members) : Except Failure Config → Prop
  | foreign {keys : List String} (nonempty : keys ≠ []) (sorted : keys.Pairwise (· < ·))
      (each : ∀ key, key ∈ keys ↔ Foreign file overrides key) :
      Merges defaults file overrides (.error (.fault (.config (.unknownKeys keys))))
  | invalid {f : Field} (known : ∀ key, ¬Foreign file overrides key)
      (before : ∀ g ∈ Field.all.takeWhile (· ≠ f), Fits (winning defaults file overrides g))
      (first : ¬Fits (winning defaults file overrides f)) :
      Merges defaults file overrides (.error (.fault (.config (.invalidValue f.key))))
  | merged {c : Config} (known : ∀ key, ¬Foreign file overrides key)
      (each : ∀ f, winning defaults file overrides f = .string (c.get f))
      (fits : ∀ f, Fits (winning defaults file overrides f)) :
      Merges defaults file overrides (.ok c)

/-! ### Unknown keys -/

theorem ofKey?_eq_none_iff {key : String} : Field.ofKey? key = none ↔ ∀ f : Field, f.key ≠ key := by
  unfold Field.ofKey?
  rw [List.find?_eq_none]
  constructor
  · intro h f
    simpa using h f f.mem_all
  · intro h f _
    simpa using h f

theorem mem_unknownKeys {file overrides : Members} {key : String} :
    key ∈ unknownKeys [overrides, file] ↔ Foreign file overrides key := by
  simp only [unknownKeys, List.mem_mergeSort, List.mem_eraseDups, List.mem_filter,
    Option.isNone_iff_eq_none, ofKey?_eq_none_iff, Foreign, List.flatMap_cons, List.flatMap_nil,
    List.append_nil, List.mem_append]

theorem nodup_eraseDups (keys : List String) : keys.eraseDups.Nodup := by
  match keys with
  | [] => exact .nil
  | key :: rest =>
    rw [List.eraseDups_cons, List.nodup_cons]
    refine ⟨fun hmem => ?_, nodup_eraseDups _⟩
    have := List.mem_eraseDups.mp hmem
    simp at this
termination_by keys.length
decreasing_by exact Nat.lt_succ_of_le (List.length_filter_le _ _)

theorem sorted_unknownKeys (layers : List Members) : (unknownKeys layers).Pairwise (· < ·) := by
  unfold unknownKeys
  have htrans (a b c : String) (hab : decide (a ≤ b) = true) (hbc : decide (b ≤ c) = true) :
      decide (a ≤ c) = true := by
    simp only [decide_eq_true_eq] at hab hbc ⊢
    exact hab.trans hbc
  have htotal (a b : String) : (decide (a ≤ b) || decide (b ≤ a)) = true := by
    simpa using le_total a b
  -- sorting leaves neighbours in order, and no two of them are equal
  have hle := List.pairwise_mergeSort htrans htotal
    ((layers.flatMap fun layer => layer.map Prod.fst).filter fun key =>
      (Field.ofKey? key).isNone).eraseDups
  have hne := (List.mergeSort_perm _ fun a b : String => decide (a ≤ b)).nodup_iff.mpr
    (nodup_eraseDups ((layers.flatMap fun layer => layer.map Prod.fst).filter fun key =>
      (Field.ofKey? key).isNone))
  refine (hle.and hne).imp fun {a b} h => ?_
  exact lt_of_le_of_ne (by simpa using h.1) h.2

theorem unknownKeys_eq_nil {file overrides : Members} (known : ∀ key, ¬Foreign file overrides key) :
    unknownKeys [overrides, file] = [] :=
  List.eq_nil_iff_forall_not_mem.2 fun key hkey => known key (mem_unknownKeys.1 hkey)

/-! ### Fields -/

variable {defaults : Config} {file overrides : Members}

theorem getD_winner? (f : Field) :
    (winner? [overrides, file] f.key).getD (.string (defaults.get f)) =
      winning defaults file overrides f := by
  rw [winner?_cons, winner?_cons, winner?_nil, Option.or_none]
  unfold winning
  cases overrides.lookup f.key <;> cases file.lookup f.key <;> rfl

theorem settle_of_string {f : Field} {s : String}
    (h : winning defaults file overrides f = .string s) (hs : Text.isBlankText s = false) :
    settle defaults [overrides, file] f = .ok s := by
  have hfield : fieldText? (.string s) = some s := by
    rw [fieldText?, hs]
    rfl
  simp only [settle, getD_winner?, h, hfield]

theorem settle_of_not_fits {f : Field} (h : ¬Fits (winning defaults file overrides f)) :
    settle defaults [overrides, file] f = .error (.fault (.config (.invalidValue f.key))) := by
  have hfield : fieldText? (winning defaults file overrides f) = none := by
    cases hv : winning defaults file overrides f with
    | string s =>
      have hs : Text.isBlankText s = true := by
        by_contra hs
        exact h ⟨s, hv, Bool.eq_false_iff.mpr hs⟩
      rw [fieldText?, hs]
      rfl
    | _ => rfl
  simp only [settle, getD_winner?, hfield]

/-! ### What merging comes to -/

theorem merge_of_foreign {keys : List String} (nonempty : keys ≠ [])
    (sorted : keys.Pairwise (· < ·)) (each : ∀ key, key ∈ keys ↔ Foreign file overrides key) :
    merge defaults file overrides = .error (.fault (.config (.unknownKeys keys))) := by
  have same : unknownKeys [overrides, file] = keys :=
    (sorted_unknownKeys _).eq_of_mem_iff sorted fun key =>
      mem_unknownKeys.trans (each key).symm
  simp only [merge, same]

theorem merge_of_invalid {f : Field} (known : ∀ key, ¬Foreign file overrides key)
    (before : ∀ g ∈ Field.all.takeWhile (· ≠ f), Fits (winning defaults file overrides g))
    (first : ¬Fits (winning defaults file overrides f)) :
    merge defaults file overrides = .error (.fault (.config (.invalidValue f.key))) := by
  have hfirst := settle_of_not_fits first
  have hbefore : ∀ g ∈ Field.all.takeWhile (· ≠ f), ∃ s,
      settle defaults [overrides, file] g = .ok s := by
    intro g hg
    obtain ⟨s, hs, hblank⟩ := before g hg
    exact ⟨s, settle_of_string hs hblank⟩
  choose! text htext using hbefore
  unfold merge
  simp only [unknownKeys_eq_nil known]
  -- the fields are settled in their order, so all in front of the first bad one are passed
  cases f <;> simp (disch := decide) only [htext, hfirst] <;> rfl

theorem merge_of_fits {c : Config} (known : ∀ key, ¬Foreign file overrides key)
    (each : ∀ f, winning defaults file overrides f = .string (c.get f))
    (fits : ∀ f, Fits (winning defaults file overrides f)) :
    merge defaults file overrides = .ok c := by
  have hsettle (f : Field) : settle defaults [overrides, file] f = .ok (c.get f) := by
    obtain ⟨s, hs, hblank⟩ := fits f
    have same : s = c.get f := Value.string.inj (hs.symm.trans (each f))
    exact settle_of_string (each f) (same ▸ hblank)
  unfold merge
  simp only [unknownKeys_eq_nil known, hsettle]
  rfl

theorem Merges.merge_eq {r : Except Failure Config} (h : Merges defaults file overrides r) :
    merge defaults file overrides = r := by
  cases h with
  | foreign nonempty sorted each => exact merge_of_foreign nonempty sorted each
  | invalid known before first => exact merge_of_invalid known before first
  | merged known each fits => exact merge_of_fits known each fits

/-- Layers always come to something. -/
theorem exists_merges (defaults : Config) (file overrides : Members) :
    ∃ r, Merges defaults file overrides r := by
  by_cases known : ∀ key, ¬Foreign file overrides key
  · by_cases fits : ∀ f ∈ Field.all, Fits (winning defaults file overrides f)
    · -- the texts of the fields, one by one
      choose text htext hblank using fun f : Field => fits f f.mem_all
      refine ⟨.ok (ofFields text), .merged known (fun f => ?_) fun f => fits f f.mem_all⟩
      rw [get_ofFields]
      exact htext f
    · obtain ⟨f, -, first, before⟩ := exists_first fits
      exact ⟨_, .invalid known before first⟩
  · have nonempty : unknownKeys [overrides, file] ≠ [] := by
      intro hnil
      refine known fun key hkey => ?_
      rw [← mem_unknownKeys, hnil] at hkey
      cases hkey
    exact ⟨_, .foreign nonempty (sorted_unknownKeys _) fun key => mem_unknownKeys⟩

theorem merge_eq_iff {r : Except Failure Config} :
    merge defaults file overrides = r ↔ Merges defaults file overrides r := by
  constructor
  · rintro rfl
    obtain ⟨r, h⟩ := exists_merges defaults file overrides
    rw [h.merge_eq]
    exact h
  · exact Merges.merge_eq

theorem not_blank_of_merge {c : Config} (h : merge defaults file overrides = .ok c) (f : Field) :
    Text.isBlankText (c.get f) = false := by
  cases merge_eq_iff.1 h with
  | merged known each fits =>
    obtain ⟨s, hs, hblank⟩ := fits f
    have same : s = c.get f := Value.string.inj (hs.symm.trans (each f))
    exact same ▸ hblank

theorem not_blank_of_load {files : FileTree} {name : Option String} {custom : Value} {c : Config}
    (h : (load files defaults name custom).result = .ok c) (f : Field) :
    Text.isBlankText (c.get f) = false := by
  rw [result_load] at h
  obtain ⟨layer, -, h⟩ := bind_eq_ok_iff.1 h
  obtain ⟨upper, -, h⟩ := bind_eq_ok_iff.1 h
  exact not_blank_of_merge h f

theorem overrides_object (members : Members) :
    Config.overrides (.object members) = .ok members := by
  cases members <;> rfl

theorem result_load_object {files : FileTree} {name : Option String} {layer : Members}
    (given : FileGives files name layer) (defaults : Config) (upper : Members) :
    (load files defaults name (.object upper)).result = merge defaults layer upper := by
  rw [result_load, readLayer_of_gives given, overrides_object]
  rfl

/-- Without a file and overrides the initial configuration is loaded. -/
theorem result_load_none (files : FileTree) : (load files {} none .null).result = .ok {} := by
  have fits (f : Field) : Fits (winning {} [] [] f) := by
    cases f <;> exact ⟨_, rfl, by decide⟩
  have merged : Merges {} [] [] (.ok {}) :=
    .merged (fun key h => by simpa using h.1) (fun f => by cases f <;> rfl) fits
  rw [result_load]
  exact merged.merge_eq

end NativeProps.Config
