import NativeProps.Config.Storage
import NativeProps.Files.Document
import NativeProps.Schema.File

/-!
# Files that are opened

What has to be the case for a path to be refused, for a file to have a document and for it to have
none because its bytes are no text; and what it takes for schema and configuration files to end a
run.

* `FileTree.exists?_eq_error_iff`: asking for a path fails just where the path is too long.
* `FileTree.content_of_document`: a document comes from the content of a file.
* `FileTree.document_eq_undecodable_iff`: the files whose bytes are not UTF-8.
* `FileTree.Unusable`: the paths that end a run instead of being reported.
* `Schema.result_load_ok_iff`, `Schema.result_load_misuse_iff`, `Config.result_readFile_misuse_iff`:
  what loading comes to.
-/

namespace NativeProps

namespace FileTree

variable {t : FileTree} {p : Path} {bytes : ByteArray}

theorem find_of_content (h : t.content p = .ok bytes) : t.find p = .ok (.file bytes) := by
  rw [content] at h
  cases hfind : t.find p with
  | error r =>
    rw [hfind] at h
    exact nomatch h
  | ok e =>
    rw [hfind] at h
    cases e with
    | file content => rw [Except.ok.inj h]
    | directory => exact nomatch h

theorem exists?_of_content (h : t.content p = .ok bytes) : t.exists? p = .ok true := by
  rw [exists?, find_of_content h]

theorem content_of_document {v : Value} (h : t.document p = .ok v) :
    ∃ bytes, t.content p = .ok bytes := by
  rw [document] at h
  cases hcontent : t.content p with
  | error r =>
    rw [hcontent] at h
    exact nomatch h
  | ok bytes => exact ⟨bytes, rfl⟩

theorem exists?_of_document {v : Value} (h : t.document p = .ok v) : t.exists? p = .ok true := by
  obtain ⟨bytes, hbytes⟩ := content_of_document h
  exact exists?_of_content hbytes

theorem document_eq_undecodable_iff {f : DecodeFault} :
    t.document p = .error (.undecodable f) ↔
      ∃ bytes, t.content p = .ok bytes ∧ textOf? bytes = none ∧ f = decodeFault bytes := by
  rw [document]
  cases hcontent : t.content p with
  | error r => simp
  | ok bytes =>
    cases htext : textOf? bytes with
    | none => simp [htext, eq_comm]
    | some s =>
      cases hread : Json.read t.halves (String.ofList (unifyNewlines s.toList)) <;>
        simp [htext, hread]

theorem exists?_eq_error_iff {r : Refusal} :
    t.exists? p = .error r ↔ t.find p = .error .nameTooLong ∧ r = .nameTooLong := by
  rw [exists?]
  cases hfind : t.find p with
  | ok e => simp
  | error q => cases q <;> simp [eq_comm]

/-- A path that ends a run: it is too long to be asked for, or leads to bytes that are no text. -/
inductive Unusable (t : FileTree) (p : Path) : Misuse → Prop
  | tooLong (find : t.find p = .error .nameTooLong) :
      Unusable t p (.unopened .nameTooLong p.text)
  | undecodable {bytes : ByteArray} (content : t.content p = .ok bytes)
      (notText : textOf? bytes = none) : Unusable t p (.undecodable (decodeFault bytes))

theorem unusable_of_exists? {r : Refusal} (h : t.exists? p = .error r) :
    t.Unusable p (.unopened r p.text) := by
  obtain ⟨find, rfl⟩ := exists?_eq_error_iff.1 h
  exact .tooLong find

theorem unusable_of_document {f : DecodeFault} (h : t.document p = .error (.undecodable f)) :
    t.Unusable p (.undecodable f) := by
  obtain ⟨bytes, content, notText, rfl⟩ := document_eq_undecodable_iff.1 h
  exact .undecodable content notText

end FileTree

/-! ### Schema files -/

namespace Schema

variable {files : FileTree} {name : String}

/-- Warnings aside, the extension of a schema file does not matter. -/
theorem result_readPath (files : FileTree) (path : Path) :
    (readPath files path).result =
      match files.document path with
      | .error (.refused r) => .error (.fault (.source (.unreadable path ⟨r, path⟩)))
      | .error (.undecodable f) => .error (.misuse (.undecodable f))
      | .error (.invalid f) => .error (.fault (.source (.invalidJson path f)))
      | .ok v => .ok v := by
  unfold readPath
  cases path.isJson <;> rcases files.document path with (r | _ | f) | v <;> rfl

theorem result_load (files : FileTree) (name : String) :
    (load files name).result =
      match files.exists? (.ofText name) with
      | .error r => .error (.misuse (.unopened r (Path.ofText name).text))
      | .ok false => .error (.fault (.source (.fileNotFound (.ofText name))))
      | .ok true => (readPath files (.ofText name)).result := by
  unfold load loadPath
  simp only [Outcome.result_bind]
  rcases files.exists? (.ofText name) with r | _ | _ <;> rfl

theorem result_load_of_missing (h : files.exists? (.ofText name) = .ok false) :
    (load files name).result = .error (.fault (.source (.fileNotFound (.ofText name)))) := by
  rw [result_load, h]

theorem result_load_misuse_iff {m : Misuse} :
    (load files name).result = .error (.misuse m) ↔ files.Unusable (.ofText name) m := by
  rw [result_load]
  constructor
  · intro h
    cases he : files.exists? (.ofText name) with
    | error r =>
      rw [he] at h
      cases h
      exact FileTree.unusable_of_exists? he
    | ok there =>
      rw [he] at h
      cases there with
      | false => cases h
      | true =>
        simp only [result_readPath] at h
        rcases hd : files.document (.ofText name) with (r | _ | f) | w <;> rw [hd] at h <;> cases h
        exact FileTree.unusable_of_document hd
  · rintro (find | ⟨content, notText⟩)
    · simp only [FileTree.exists?_eq_error_iff.2 ⟨find, rfl⟩]
    · have hd := FileTree.document_eq_undecodable_iff.2 ⟨_, content, notText, rfl⟩
      simp only [FileTree.exists?_of_content content, result_readPath, hd]

end Schema

/-! ### Configuration files -/

namespace Config

variable {files : FileTree} {path : Path}

/-- A configuration file without the extension of JSON files is not opened. -/
theorem result_readFile_misuse_iff {m : Misuse} :
    (readFile files path).result = .error (.misuse m) ↔
      files.Unusable path m ∧ (∀ f, m = .undecodable f → path.isJson = true) := by
  unfold readFile readMembers
  constructor
  · intro h
    cases he : files.exists? path with
    | error r =>
      rw [he] at h
      cases h
      exact ⟨FileTree.unusable_of_exists? he, nofun⟩
    | ok there =>
      rw [he] at h
      cases there with
      | false => cases h
      | true =>
        cases json : path.isJson with
        | false =>
          simp only [json] at h
          cases h
        | true =>
          simp only [json] at h
          rcases hd : files.document path with (r | _ | f) | w
          · rw [hd] at h
            cases h
          · rw [hd] at h
            cases h
            exact ⟨FileTree.unusable_of_document hd, fun _ _ => rfl⟩
          · rw [hd] at h
            cases h
          · rw [hd] at h
            cases w <;> cases h
  · rintro ⟨find | ⟨content, notText⟩, json⟩
    · simp only [FileTree.exists?_eq_error_iff.2 ⟨find, rfl⟩]
      rfl
    · have hd := FileTree.document_eq_undecodable_iff.2 ⟨_, content, notText, rfl⟩
      simp only [FileTree.exists?_of_content content, json _ rfl, hd]
      rfl

end Config

end NativeProps
