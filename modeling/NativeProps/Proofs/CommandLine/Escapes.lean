import NativeProps.Proofs.CommandLine.Stages
import NativeProps.Proofs.Declaration.Undescribed

/-!
# Requests without an exit code

A report ends with exit code zero or one, except for the misuses listed here, which end the run
before anything is shown. These are the misuses of a program without limits: documents nest to any
depth, numbers have any number of digits, every file may be read, and every text can be printed.
Where an interpreter or a console draws a line, requests beyond it escape as well.

* `Escapes`: the requests that end in a misuse: a file that cannot be opened or decoded, schema data
  or a property for which an operation is missing, and names that are no text.
* `report_ends`: no other request ends without an exit code; it is one just if a stage reports a
  fault.
* `report_undecodable`: a schema file that is no text is such a request.
-/

namespace NativeProps.CommandLine

variable {files : FileTree} {r : Request} {m : Misuse}

/-- A request that ends in a misuse. The stages in front of the failing one pass. -/
inductive Escapes (files : FileTree) (r : Request) : Misuse → Prop
  /-- The configuration file cannot be opened, or is a JSON file that cannot be decoded. -/
  | config {name : String} {m : Misuse} (given : r.config = some name) (named : name ≠ "")
      (unusable : files.Unusable (.ofText name) m)
      (json : ∀ f, m = .undecodable f → (Path.ofText name).isJson = true) : Escapes files r m
  /-- The schema file cannot be opened or decoded. -/
  | schema {c : Config} {m : Misuse}
      (config : (Config.load files {} r.config .null).result = .ok c)
      (unusable : files.Unusable (.ofText r.schema) m) : Escapes files r m
  /-- The options of an enumeration are no sequence, or one of them has no name. -/
  | options {c : Config} {document : Value} {items : List Value} {m : Misuse}
      (config : (Config.load files {} r.config .null).result = .ok c)
      (schema : (Schema.load files r.schema).result = .ok document)
      (list : Schema.extractProperties document = .ok items)
      (offence : Schema.ListOffence (.array items) (.misuse m)) : Escapes files r m
  /-- A name that makes an identifier is no text, or a default gives no number. -/
  | property {c : Config} {ps : List Property} {m : Misuse} (reads : Reads files r c ps)
      (undescribed : UndescribedIn ps (.misuse m)) : Escapes files r m
  /-- The component is no text. -/
  | title {c : Config} {ps : List Property} {ss : List Summary} {hs : List String}
      (passes : Passes files r c ps ss hs)
      (component : ∀ name, r.component ≠ .string name) : Escapes files r .titleNotText
  /-- A name is no text, and no identifier is made from it. -/
  | name {c : Config} {ps : List Property} {ss : List Summary} {hs : List String}
      {component : String} {p : Property} (passes : Passes files r c ps ss hs)
      (title : r.component = .string component) (mem : p ∈ ps)
      (name : ∀ name, p.name ≠ .string name) : Escapes files r .cellNotText

/-! ### Stages that end in a misuse -/

theorem result_load_misuse_iff :
    (Config.load files {} r.config .null).result = .error (.misuse m) ↔
      ∃ name, r.config = some name ∧ name ≠ "" ∧ files.Unusable (.ofText name) m ∧
        (∀ f, m = .undecodable f → (Path.ofText name).isJson = true) := by
  have onlyFile : (Config.load files {} r.config .null).result = .error (.misuse m) ↔
      (Config.readLayer files r.config).result = .error (.misuse m) := by
    rw [Config.result_load, bind_eq_error_iff]
    refine or_iff_left ?_
    rintro ⟨layer, -, h⟩
    -- without overrides the layers are merged, and merging reports what it finds
    obtain ⟨-⟩ | ⟨-⟩ | ⟨-⟩ := Config.merge_eq_iff.1 (show Config.merge {} layer [] = _ from h)
  rw [onlyFile]
  cases r.config with
  | none => simp [Config.readLayer]
  | some name =>
    by_cases empty : name = ""
    · subst empty
      simp [Config.readLayer]
    · have hname : name.isEmpty = false := by simpa using empty
      simp [Config.readLayer, hname, empty, Config.result_readFile_misuse_iff]

theorem extractProperties_ne_misuse {document : Value} :
    Schema.extractProperties document ≠ .error (.misuse m) := by
  unfold Schema.extractProperties
  split
  · exact nofun
  · split <;> exact nofun

/-- The headers of what was read are found, so that the last stage never fails. -/
theorem Reads.headers {c : Config} {ps : List Property} (h : Reads files r c ps) :
    ∃ hs, (headers c ps).result = .ok hs := by
  obtain ⟨-, -, -, properties⟩ := h
  exact headers_of_settled (Schema.settled_of_result properties) c

theorem escapes_of_firstFailure (h : FirstFailure files r (.misuse m)) : Escapes files r m := by
  cases h with
  | config fails =>
    obtain ⟨name, given, named, unusable, json⟩ := result_load_misuse_iff.1 fails
    exact .config given named unusable json
  | schema config fails => exact .schema config (Schema.result_load_misuse_iff.1 fails)
  | list config schema fails => exact absurd fails extractProperties_ne_misuse
  | properties config schema list fails =>
    exact .options config schema list (Schema.result_readProperties_error_iff.1 fails)
  | summaries reads fails => exact .property reads (result_describe_error_iff.1 fails)
  | headers reads summaries fails =>
    obtain ⟨hs, found⟩ := reads.headers
    rw [found] at fails
    cases fails

/-! ### Reports that end in a misuse -/

theorem printFindings_of_not_string {component : Value} (found : Findings)
    (h : ∀ name, component ≠ .string name) :
    (printFindings component found).result = .error (.misuse .titleNotText) := by
  cases component with
  | string name => exact absurd rfl (h name)
  | _ => rfl

/-- The summary of a property whose name is no text cannot be shown. -/
theorem rows_of_not_string {c : Config} {ps : List Property} {ss : List Summary}
    {hs : List String} {p : Property} (h : Passes files r c ps ss hs) (mem : p ∈ ps)
    (name : ∀ name, p.name ≠ .string name) :
    ss.mapM summaryRow = .error (.misuse .cellNotText) := by
  obtain ⟨s, hs, summarized⟩ := exists_of_forall₂ h.summarized mem
  rw [mapM_eq_error_iff fun s f hs => (summaryRow_eq_error_iff.1 hs).2]
  refine ⟨s, hs, summaryRow_eq_error_iff.2 ⟨?_, rfl⟩⟩
  rw [summarized.agrees.name]
  exact name

theorem Escapes.result (h : Escapes files r m) : (report files r).result = .error (.misuse m) := by
  cases h with
  | config given named unusable json =>
    refine (report_of_misuse (findings_eq_error_iff.2 (.config ?_))).1
    exact result_load_misuse_iff.2 ⟨_, given, named, unusable, json⟩
  | schema config unusable =>
    refine (report_of_misuse (findings_eq_error_iff.2 (.schema config ?_))).1
    exact Schema.result_load_misuse_iff.2 unusable
  | options config schema list offence =>
    have fails := offence.result
    exact (report_of_misuse (findings_eq_error_iff.2 (.properties config schema list fails))).1
  | property reads undescribed =>
    refine (report_of_misuse (findings_eq_error_iff.2 (.summaries reads ?_))).1
    exact result_describe_error_iff.2 undescribed
  | title passes component =>
    rw [(report_of_ok passes.findings).1, printFindings_of_not_string _ component]
    rfl
  | name passes title mem name =>
    have rows := rows_of_not_string passes mem name
    rw [(report_of_ok passes.findings).1, title, (printFindings_of_error rows).1]
    rfl

/-- What has passed and does not escape ends with exit code zero. -/
theorem result_report_of_passes {c : Config} {ps : List Property} {ss : List Summary}
    {hs : List String} (passes : Passes files r c ps ss hs) (never : ∀ m, ¬Escapes files r m) :
    (report files r).result = .ok 0 := by
  by_cases title : ∃ component, r.component = .string component
  · obtain ⟨component, title⟩ := title
    have names : ∀ p ∈ ps, ∃ name, p.name = .string name := by
      intro p hp
      by_contra none
      exact never _ (.name passes title hp fun name h => none ⟨name, h⟩)
    exact (shows_of_passes passes title names).1
  · exact absurd (.title passes fun name h => title ⟨name, h⟩) (never .titleNotText)

/-- A request that does not escape has an exit code, which is one just if a stage fails. -/
theorem exists_code (never : ∀ m, ¬Escapes files r m) :
    ∃ code, (report files r).result = .ok code ∧ (code = 0 ∨ code = 1) ∧
      (code = 1 ↔ ∃ f, FirstFailure files r f) := by
  by_cases fails : ∃ f, FirstFailure files r f
  · obtain ⟨f, first⟩ := fails
    cases f with
    | misuse m => exact absurd (escapes_of_firstFailure first) (never m)
    | fault f =>
      have reported := (report_of_fault (findings_eq_error_iff.2 first)).1
      exact ⟨1, reported, .inr rfl, fun _ => ⟨_, first⟩, fun _ => rfl⟩
  · obtain ⟨c, ps, ss, hs, passes⟩ :=
      exists_passes_iff.2 fun f first => fails ⟨f, first⟩
    exact ⟨0, result_report_of_passes passes never, .inl rfl, nofun,
      fun first => absurd first fails⟩

/-- **Unless it escapes, a report ends with exit code zero or one,** with one just if a stage fails.
The requests that escape end in their misuse. -/
theorem report_ends (files : FileTree) (r : Request) :
    (∀ f, (report files r).result = .error f ↔ ∃ m, f = .misuse m ∧ Escapes files r m) ∧
    ((∀ m, ¬Escapes files r m) →
      ∃ code, (report files r).result = .ok code ∧ (code = 0 ∨ code = 1) ∧
        (code = 1 ↔ ∃ f, FirstFailure files r f)) := by
  refine ⟨fun f => ⟨fun h => ?_, ?_⟩, exists_code⟩
  · by_cases escapes : ∃ m, Escapes files r m
    · obtain ⟨m, escapes⟩ := escapes
      have ends := escapes.result
      rw [h] at ends
      exact ⟨m, Except.error.inj ends, escapes⟩
    · obtain ⟨code, ends, -⟩ := exists_code fun m escape => escapes ⟨m, escape⟩
      rw [h] at ends
      cases ends
  · rintro ⟨m, rfl, escapes⟩
    exact escapes.result

/-- A request for a file that is not there does not escape and ends with exit code one. -/
theorem report_ends_missing :
    let r : Request := ⟨"s.json", .string "Crop", none, 0⟩
    (∀ m, ¬Escapes .empty r m) ∧
      ∃ code, (report .empty r).result = .ok code ∧ (code = 0 ∨ code = 1) ∧
        (code = 1 ↔ ∃ f, FirstFailure .empty r f) := by
  intro r
  have absent : FileTree.empty.exists? (.ofText "s.json") = .ok false := by rfl
  have first : FirstFailure .empty r (.fault (.source (.fileNotFound (.ofText "s.json")))) :=
    .schema (Config.result_load_none _) (Schema.result_load_of_missing absent)
  have never : ∀ m, ¬Escapes .empty r m := by
    intro m escapes
    have ends := escapes.result
    rw [(report_of_fault (findings_eq_error_iff.2 first)).1] at ends
    cases ends
  exact ⟨never, (report_ends .empty r).2 never⟩

/-- Not every report ends with an exit code: a schema file whose bytes are no text has none. -/
theorem report_undecodable :
    ¬∀ (files : FileTree) (r : Request),
      ∃ code, (report files r).result = .ok code ∧ (code = 0 ∨ code = 1) := by
  intro h
  let files : FileTree := { entries := [(["s.json"], .file ⟨#[0xff]⟩)] }
  let r : Request := ⟨"s.json", .string "Foo", none, 0⟩
  have hcontent : files.content (.ofText "s.json") = .ok ⟨#[0xff]⟩ := rfl
  have escapes : Escapes files r (.undecodable (decodeFault ⟨#[0xff]⟩)) :=
    .schema (Config.result_load_none files) (.undecodable hcontent (by decide))
  obtain ⟨code, ends, -⟩ := h files r
  rw [escapes.result] at ends
  cases ends

end NativeProps.CommandLine
