import NativeProps.CommandLine.Run
import NativeProps.Proofs.Config.Precedence
import NativeProps.Proofs.Declaration.Agreement

/-!
# The stages of a report

A report takes six stages: the configuration, the schema file, its property list, the properties,
their summaries and their headers. The first stage that fails decides how the report ends, and
nothing is shown before all of them have passed.

* `Reads`: the first four stages pass.
* `Passes`: all stages pass.
* `FirstFailure`: a stage fails behind stages that pass. Later stages are not mentioned.
* `findings_eq_ok_iff`, `findings_eq_error_iff`, `exists_passes_iff`: what the stages come to
  together.
* `Row`, `HeaderLines`, `Shows`: what is printed once all stages have passed.
* `report_all_or_nothing`: how a report ends.
-/

namespace NativeProps.CommandLine

variable {files : FileTree} {r : Request}

/-! ### Stages -/

/-- The configuration and the properties of a request are read. -/
inductive Reads (files : FileTree) (r : Request) : Config → List Property → Prop
  | mk {c : Config} {document : Value} {items : List Value} {ps : List Property}
      (config : (Config.load files {} r.config .null).result = .ok c)
      (schema : (Schema.load files r.schema).result = .ok document)
      (list : Schema.extractProperties document = .ok items)
      (properties : (Schema.readProperties (.array items)).result = .ok ps) : Reads files r c ps

/-- All stages pass. -/
structure Passes (files : FileTree) (r : Request) (c : Config) (ps : List Property)
    (ss : List Summary) (hs : List String) : Prop where
  reads : Reads files r c ps
  summaries : (describe r.component.text c ps).result = .ok ss
  headers : (headers c ps).result = .ok hs

/-- The first stage that fails and its failure. -/
inductive FirstFailure (files : FileTree) (r : Request) : Failure → Prop
  | config {f : Failure} (fails : (Config.load files {} r.config .null).result = .error f) :
      FirstFailure files r f
  | schema {c : Config} {f : Failure}
      (config : (Config.load files {} r.config .null).result = .ok c)
      (fails : (Schema.load files r.schema).result = .error f) : FirstFailure files r f
  | list {c : Config} {document : Value} {f : Failure}
      (config : (Config.load files {} r.config .null).result = .ok c)
      (schema : (Schema.load files r.schema).result = .ok document)
      (fails : Schema.extractProperties document = .error f) : FirstFailure files r f
  | properties {c : Config} {document : Value} {items : List Value} {f : Failure}
      (config : (Config.load files {} r.config .null).result = .ok c)
      (schema : (Schema.load files r.schema).result = .ok document)
      (list : Schema.extractProperties document = .ok items)
      (fails : (Schema.readProperties (.array items)).result = .error f) : FirstFailure files r f
  | summaries {c : Config} {ps : List Property} {f : Failure} (reads : Reads files r c ps)
      (fails : (describe r.component.text c ps).result = .error f) : FirstFailure files r f
  | headers {c : Config} {ps : List Property} {ss : List Summary} {f : Failure}
      (reads : Reads files r c ps) (summaries : (describe r.component.text c ps).result = .ok ss)
      (fails : (headers c ps).result = .error f) : FirstFailure files r f

/-- The stages one after the other, their records left out. -/
theorem result_findings (files : FileTree) (r : Request) :
    (findings files r).result =
      (Config.load files {} r.config .null).result.bind fun c =>
        (Schema.load files r.schema).result.bind fun document =>
          (Schema.extractProperties document).bind fun items =>
            (Schema.readProperties (.array items)).result.bind fun ps =>
              (describe r.component.text c ps).result.bind fun ss =>
                (headers c ps).result.bind fun hs => .ok ⟨ss, hs⟩ := by
  simp only [findings, Outcome.result_bind, Outcome.result_liftM, Outcome.result_pure]

theorem findings_eq_ok_iff {found : Findings} :
    (findings files r).result = .ok found ↔
      ∃ c ps, Passes files r c ps found.summaries found.headers := by
  simp only [result_findings, bind_eq_ok_iff]
  constructor
  · rintro ⟨c, config, document, schema, items, list, ps, properties, ss, summaries, hs, headers,
      ⟨⟩⟩
    exact ⟨c, ps, .mk config schema list properties, summaries, headers⟩
  · rintro ⟨c, ps, ⟨config, schema, list, properties⟩, summaries, headers⟩
    exact ⟨c, config, _, schema, _, list, ps, properties, _, summaries, _, headers, rfl⟩

theorem findings_eq_error_iff {f : Failure} :
    (findings files r).result = .error f ↔ FirstFailure files r f := by
  simp only [result_findings, bind_eq_error_iff]
  constructor
  · rintro (fails | ⟨c, config, fails | ⟨document, schema, fails | ⟨items, list,
      fails | ⟨ps, properties, fails | ⟨ss, summaries, fails | ⟨hs, -, ⟨⟩⟩⟩⟩⟩⟩⟩)
    · exact .config fails
    · exact .schema config fails
    · exact .list config schema fails
    · exact .properties config schema list fails
    · exact .summaries (.mk config schema list properties) fails
    · exact .headers (.mk config schema list properties) summaries fails
  · rintro (fails | ⟨config, fails⟩ | ⟨config, schema, fails⟩ | ⟨config, schema, list, fails⟩ |
      ⟨⟨config, schema, list, properties⟩, fails⟩ |
      ⟨⟨config, schema, list, properties⟩, summaries, fails⟩)
    · exact .inl fails
    · exact .inr ⟨_, config, .inl fails⟩
    · exact .inr ⟨_, config, .inr ⟨_, schema, .inl fails⟩⟩
    · exact .inr ⟨_, config, .inr ⟨_, schema, .inr ⟨_, list, .inl fails⟩⟩⟩
    · exact .inr ⟨_, config, .inr ⟨_, schema, .inr ⟨_, list, .inr ⟨_, properties, .inl fails⟩⟩⟩⟩
    · exact .inr ⟨_, config, .inr ⟨_, schema, .inr ⟨_, list,
        .inr ⟨_, properties, .inr ⟨_, summaries, .inl fails⟩⟩⟩⟩⟩

theorem Passes.findings {c : Config} {ps : List Property} {ss : List Summary} {hs : List String}
    (h : Passes files r c ps ss hs) : (findings files r).result = .ok ⟨ss, hs⟩ :=
  findings_eq_ok_iff.2 ⟨c, ps, h⟩

/-- Either all stages pass, or there is a first one that fails. -/
theorem exists_passes_iff :
    (∃ c ps ss hs, Passes files r c ps ss hs) ↔ ∀ f, ¬FirstFailure files r f := by
  constructor
  · rintro ⟨c, ps, ss, hs, h⟩ f fails
    have found := h.findings
    rw [findings_eq_error_iff.2 fails] at found
    cases found
  · intro never
    cases found : (CommandLine.findings files r).result with
    | error f => exact absurd (findings_eq_error_iff.1 found) (never f)
    | ok found' =>
      obtain ⟨c, ps, h⟩ := findings_eq_ok_iff.1 found
      exact ⟨c, ps, _, _, h⟩

/-! ### What is printed -/

/-- The row of a summary. A dash stands for a type or an initializer that is not there. -/
inductive Row : Summary → List Console.Cell → Prop
  | mk {s : Summary} {name : String} (named : s.name = .string name) :
      Row s [⟨name, ""⟩, ⟨s.tag.name, ""⟩, (s.type?.map fun type => ⟨type, ""⟩).getD ⟨"—", "dim"⟩,
        if s.initializer = "" then ⟨"—", "dim"⟩ else ⟨s.initializer, ""⟩]

/-- What is printed below the table: the headers line by line, or that there are none. -/
inductive HeaderLines : List String → List Console.Item → Prop
  | none : HeaderLines [] [.markup [.text "\n", .styled "dim" "No includes needed"]]
  | some {hs : List String} (needed : hs ≠ []) :
      HeaderLines hs (.markup [.text "\n", .styled "bold" "Includes:"] ::
        hs.map fun h => .plain ("  " ++ h))

/-- What is printed of a component: after an empty line the table with a row for each summary, in
order, and below it the headers. -/
inductive Shows (component : String) (ss : List Summary) (hs : List String) :
    List Console.Item → Prop
  | mk {rows : List (List Console.Cell)} {below : List Console.Item}
      (row : List.Forall₂ Row ss rows) (headers : HeaderLines hs below) :
      Shows component ss hs (.blank :: .table {
        title := [.text "📋 ", .escaped component, .text " props"]
        titleStyle := "bold cyan"
        columns := [⟨"Prop", "bold green", false⟩, ⟨"Annotation", "dim", true⟩,
          ⟨"C++ type", "cyan", true⟩, ⟨"Default", "blue", true⟩]
        rows } :: below)

theorem headerLines_headerSection (hs : List String) : HeaderLines hs (headerSection hs) := by
  cases hs with
  | nil => exact .none
  | cons h rest => exact .some (List.cons_ne_nil h rest)

/-- A summary whose type is not the empty text is shown in its row. -/
theorem row_of_summaryRow {s : Summary} {row : List Console.Cell} (type : s.type? ≠ some "")
    (h : summaryRow s = .ok row) : Row s row := by
  obtain ⟨name, tag, type?, text⟩ := s
  cases name with
  | string name =>
    cases h
    have hcell : cell (type?.getD "") =
        (type?.map fun type => (⟨type, ""⟩ : Console.Cell)).getD ⟨"—", "dim"⟩ := by
      cases type? with
      | none => rfl
      | some t =>
        have ht : t ≠ "" := fun empty => type (congrArg some empty)
        simp [cell, ht]
    have htext : cell text = if text = "" then ⟨"—", "dim"⟩ else ⟨text, ""⟩ := by simp [cell]
    rw [hcell, htext]
    exact .mk rfl
  | _ => cases h

theorem summaryRow_eq_error_iff {s : Summary} {f : Failure} :
    summaryRow s = .error f ↔ (∀ name, s.name ≠ .string name) ∧ f = .misuse .cellNotText := by
  obtain ⟨name, tag, type?, text⟩ := s
  cases name <;> simp [summaryRow, eq_comm]

theorem exists_rows {ss : List Summary} (types : ∀ s ∈ ss, s.type? ≠ some "")
    (names : ∀ s ∈ ss, ∃ name, s.name = .string name) :
    ∃ rows, ss.mapM summaryRow = .ok rows ∧ List.Forall₂ Row ss rows := by
  cases h : ss.mapM summaryRow with
  | error f =>
    obtain ⟨before, s, after, rfl, -, fails⟩ := exists_first_of_mapM_eq_error h
    obtain ⟨name, hname⟩ := names s (List.mem_append_right before List.mem_cons_self)
    exact absurd hname ((summaryRow_eq_error_iff.1 fails).1 name)
  | ok rows =>
    have each := (List.forall₂_and_left ss rows).2 ⟨types, mapM_eq_ok_iff.1 h⟩
    exact ⟨rows, rfl, each.imp fun s row hs => row_of_summaryRow hs.1 hs.2⟩

/-! ### Summaries that are passed -/

theorem Passes.summarized {c : Config} {ps : List Property} {ss : List Summary}
    {hs : List String} (h : Passes files r c ps ss hs) :
    List.Forall₂ (Summarized r.component.text c) ps ss :=
  result_describe_ok_iff.1 h.summaries

/-- A loaded configuration has no empty names, so no summary has an empty type. -/
theorem Passes.type_ne_empty {c : Config} {ps : List Property} {ss : List Summary}
    {hs : List String} (h : Passes files r c ps ss hs) : ∀ s ∈ ss, s.type? ≠ some "" := by
  obtain ⟨config, -, -, -⟩ := h.reads
  have named (f : Config.Field) : c.get f ≠ "" := by
    intro empty
    have hblank := Config.not_blank_of_load config f
    rw [empty] at hblank
    cases hblank
  intro s hs
  obtain ⟨p, -, summarized⟩ := exists_of_forall₂ h.summarized.flip hs
  exact summarized.type_ne_empty named

/-- There is one summary for each property, in order. -/
theorem Passes.names {c : Config} {ps : List Property} {ss : List Summary} {hs : List String}
    (h : Passes files r c ps ss hs) : ss.map Summary.name = ps.map Property.name := by
  have each : List.Forall₂ (· = ·) (ps.map Property.name) (ss.map Summary.name) := by
    rw [List.forall₂_map_left_iff, List.forall₂_map_right_iff]
    exact h.summarized.imp fun p s summarized => summarized.agrees.name.symm
  rw [List.forall₂_eq_eq_eq] at each
  exact each.symm

/-! ### Reports -/

theorem report_of_fault {f : Fault} (h : (findings files r).result = .error (.fault f)) :
    (report files r).result = .ok 1 ∧ (report files r).printed = [faultLine f] := by
  unfold report
  simp only [h]
  exact ⟨rfl, rfl⟩

theorem report_of_misuse {m : Misuse} (h : (findings files r).result = .error (.misuse m)) :
    (report files r).result = .error (.misuse m) ∧ (report files r).printed = [] := by
  unfold report
  simp only [h]
  constructor
  · rw [Printing.result_bind, Printing.result_liftM, h]
    rfl
  · exact Printing.printed_bind_of_error (x := liftM (findings files r)) h _

theorem report_of_ok {found : Findings} (h : (findings files r).result = .ok found) :
    (report files r).result = (printFindings r.component found).result.map (fun _ => 0) ∧
      (report files r).printed = (printFindings r.component found).printed := by
  unfold report
  simp only [h]
  constructor
  · rw [Printing.result_bind, Printing.result_liftM, h]
    show (printFindings r.component found >>= fun _ => pure 0).result = _
    rw [Printing.result_bind]
    cases (printFindings r.component found).result <;> rfl
  · rw [Printing.printed_bind_of_ok (x := liftM (findings files r)) h]
    show [] ++ (printFindings r.component found >>= fun _ => pure 0).printed = _
    rw [List.nil_append]
    cases hprint : (printFindings r.component found).result with
    | error f => exact Printing.printed_bind_of_error hprint _
    | ok u => rw [Printing.printed_bind_of_ok hprint, Printing.printed_pure, List.append_nil]

/-- Nothing is printed of findings that cannot be shown. -/
theorem printFindings_of_error {component : String} {found : Findings} {f : Failure}
    (h : found.summaries.mapM summaryRow = .error f) :
    (printFindings (.string component) found).result = .error f ∧
      (printFindings (.string component) found).printed = [] := by
  unfold printFindings
  simp only [reportTitle, h]
  exact ⟨rfl, rfl⟩

theorem printFindings_of_rows (component : String) (found : Findings)
    {rows : List (List Console.Cell)} (h : found.summaries.mapM summaryRow = .ok rows) :
    (printFindings (.string component) found).result = .ok () ∧
      (printFindings (.string component) found).printed =
        .blank :: .table (reportTable [.text "📋 ", .escaped component, .text " props"] rows) ::
          headerSection found.headers := by
  unfold printFindings
  simp only [reportTitle, h]
  exact ⟨rfl, rfl⟩

/-- Where all names are texts, what has passed is shown. -/
theorem shows_of_passes {c : Config} {ps : List Property} {ss : List Summary} {hs : List String}
    {component : String} (h : Passes files r c ps ss hs) (title : r.component = .string component)
    (names : ∀ p ∈ ps, ∃ name, p.name = .string name) :
    (report files r).result = .ok 0 ∧ Shows component ss hs (report files r).printed := by
  have summaryNames : ∀ s ∈ ss, ∃ name, s.name = .string name := by
    intro s hs
    obtain ⟨p, hp, summarized⟩ := exists_of_forall₂ h.summarized.flip hs
    rw [(Summarized.agrees summarized).name]
    exact names p hp
  obtain ⟨rows, hrows, each⟩ := exists_rows h.type_ne_empty summaryNames
  obtain ⟨hresult, hprinted⟩ := report_of_ok h.findings
  obtain ⟨hdone, hitems⟩ := printFindings_of_rows component ⟨ss, hs⟩ hrows
  rw [title] at hresult hprinted
  rw [hresult, hdone, hprinted, hitems]
  exact ⟨rfl, .mk each (headerLines_headerSection hs)⟩

end NativeProps.CommandLine
