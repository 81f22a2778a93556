import NativeProps.Files.Document
import NativeProps.Proofs.Json.ReadBack

/-!
# Files after a write

A write replaces or creates one file, and no directory on a way through the tree changes. So a path
that led to a name still leads to it, and the file just written is found with what was written.

* `FileTree.walk_of_keeps`, `FileTree.resolve_of_keeps`: as long as no directory goes, every way
  leads where it led.
* `FileTree.find_of_write`: what is found after a write.
* `FileTree.writeChunks_cases`: what writing chunk by chunk comes to.
* `FileTree.document_of_text`: the document of a file is what its text is read as.
* `FileTree.document_of_write`: an object of strings that is written to a file is its document.
-/

namespace NativeProps

namespace FileTree

variable {t written : FileTree} {p : Path} {bytes : ByteArray}

/-! ### Ways through the tree -/

/-- The program runs in the same place, and every directory of the one tree is one of the other. -/
structure KeepsDirectories (t u : FileTree) : Prop where
  start : u.start = t.start
  lookup : ∀ {name}, t.lookup? name = some .directory → u.lookup? name = some .directory

theorem KeepsDirectories.refl (t : FileTree) : t.KeepsDirectories t := ⟨rfl, id⟩

theorem KeepsDirectories.trans {t u v : FileTree} (h : t.KeepsDirectories u)
    (h' : u.KeepsDirectories v) : t.KeepsDirectories v :=
  ⟨h'.start.trans h.start, fun hdir => h'.lookup (h.lookup hdir)⟩

theorem keepsDirectories_set_file {name : List String} (hname : t.lookup? name ≠ some .directory)
    (bytes : ByteArray) : t.KeepsDirectories (t.set name (.file bytes)) := by
  refine ⟨rfl, fun {other} h => ?_⟩
  have hne : other ≠ name := by
    rintro rfl
    exact hname h
  rwa [lookup?_set_of_ne t (.file bytes) hne]

/-- Where all directories stay, every way that was open stays open. The induction is on the steps,
with the name reached so far general. -/
theorem walk_of_keeps {u : FileTree} (keeps : t.KeepsDirectories u) (steps : List String) :
    ∀ here target, t.walk here steps = .ok target → u.walk here steps = .ok target := by
  induction steps with
  | nil =>
    intro here target h
    rw [walk] at h ⊢
    exact h
  | cons step rest ih =>
    intro here target h
    rw [walk] at h ⊢
    -- only a directory lets a step through
    cases hhere : t.lookup? here with
    | none =>
      rw [hhere] at h
      exact nomatch h
    | some e =>
      cases e with
      | file old =>
        rw [hhere] at h
        exact nomatch h
      | directory =>
        rw [hhere] at h
        rw [keeps.lookup hhere]
        by_cases hlong : 255 < step.utf8ByteSize
        · simp only [if_pos hlong] at h
          exact nomatch h
        · simp only [if_neg hlong] at h ⊢
          exact ih (next here step) target h

theorem resolve_of_keeps {u : FileTree} {target : List String} (keeps : t.KeepsDirectories u)
    (h : t.resolve p = .ok target) : u.resolve p = .ok target := by
  have hbase : u.base p = t.base p := by rw [base, base, keeps.start]
  rw [resolve] at h ⊢
  rw [hbase]
  split_ifs at h ⊢
  exact walk_of_keeps keeps p.steps (t.base p) target h

theorem resolve_set_file {name target : List String} (hname : t.lookup? name ≠ some .directory)
    (bytes : ByteArray) (h : t.resolve p = .ok target) :
    (t.set name (.file bytes)).resolve p = .ok target :=
  resolve_of_keeps (keepsDirectories_set_file hname bytes) h

/-! ### What is found after a write -/

/-- A write that succeeds sets a file under the name that the path leads to, which was no
directory. -/
theorem write_inv (h : t.write p bytes = .ok written) :
    ∃ name, t.resolve p = .ok name ∧ t.lookup? name ≠ some .directory ∧
      written = t.set name (.file bytes) := by
  rw [write] at h
  cases hresolve : t.resolve p with
  | error r =>
    rw [hresolve] at h
    exact nomatch h
  | ok name =>
    simp only [hresolve, bind, Except.bind] at h
    split at h
    · exact nomatch h
    · rename_i hname
      exact ⟨name, rfl, hname, (Except.ok.inj h).symm⟩

/-- Whether a file can be opened for writing does not depend on what is written. -/
theorem write_eq_error {r : Refusal} (h : t.write p bytes = .error r) (other : ByteArray) :
    t.write p other = .error r := by
  rw [write] at h ⊢
  cases hresolve : t.resolve p with
  | error r =>
    rw [hresolve] at h
    exact h
  | ok name =>
    simp only [hresolve, bind, Except.bind] at h ⊢
    split at h
    · exact h
    · exact nomatch h

/-- Chunks are not written where the file cannot be opened. Otherwise the file is set to as much of
them as can be written. -/
theorem writeChunks_cases {chunks : List (List Char)} {text : List Char}
    {fault? : Option EncodeFault} (p : Path) (hwritten : t.halves.written chunks = (text, fault?)) :
    (∃ r, (∀ bytes, t.write p bytes = .error r) ∧
      t.writeChunks p chunks = (t, .error (.refused r))) ∨
    ∃ left, t.write p (String.ofList text).toUTF8 = .ok left ∧
      t.writeChunks p chunks = (left, fault?.elim (.ok ()) fun f => .error (.unencodable f)) := by
  rw [writeChunks, hwritten]
  cases hwrite : t.write p (String.ofList text).toUTF8 with
  | error r => exact .inl ⟨r, write_eq_error hwrite, by simp only [hwrite]⟩
  | ok left =>
    refine .inr ⟨left, rfl, ?_⟩
    simp only [hwrite]
    cases fault? <;> rfl

/-- The directory where the program runs and those above it are no places for a file. -/
theorem isPrefixOf_start_eq_false {name : List String} (h : t.lookup? name ≠ some .directory) :
    name.isPrefixOf t.start = false := by
  rw [Bool.eq_false_iff]
  intro hup
  apply h
  rw [lookup?, if_pos hup]

theorem find_of_write (h : t.write p bytes = .ok written) : written.find p = .ok (.file bytes) := by
  obtain ⟨name, hresolve, hname, rfl⟩ := write_inv h
  have hlookup := lookup?_set_self t (.file bytes) (isPrefixOf_start_eq_false hname)
  rw [find, resolve_set_file hname bytes hresolve]
  simp only [bind, Except.bind, hlookup]
  rfl

theorem exists?_of_write (h : t.write p bytes = .ok written) : written.exists? p = .ok true := by
  rw [exists?, find_of_write h]

theorem content_of_write (h : t.write p bytes = .ok written) : written.content p = .ok bytes := by
  rw [content, find_of_write h]
  rfl

end FileTree

/-! ### Written documents -/

theorem textOf?_toUTF8 (s : String) : textOf? s.toUTF8 = some s := by
  have hvalid : s.toUTF8.IsValidUTF8 := s.isValidUTF8
  rw [textOf?, String.fromUTF8?, dif_pos hvalid]
  rfl

theorem unifyNewlines_of_not_mem {cs : List Char} (h : '\r' ∉ cs) : unifyNewlines cs = cs := by
  induction cs with
  | nil => rfl
  | cons c cs ih =>
    rw [List.mem_cons, not_or] at h
    rw [unifyNewlines, ih h.2]
    · intro _ hc _
      exact h.1 hc.symm
    · intro hc
      exact h.1 hc.symm

/-- The document of a file that holds a text without carriage returns. -/
theorem FileTree.document_of_text {t : FileTree} {p : Path} {s : String} {v : Value}
    (hcontent : t.content p = .ok s.toUTF8) (hs : '\r' ∉ s.toList)
    (hread : Json.read t.halves s = .ok v) : t.document p = .ok v := by
  rw [document, hcontent]
  simp only [textOf?_toUTF8, unifyNewlines_of_not_mem hs, String.ofList_toList, hread]

/-- An object of strings under distinct keys that is written to a file is read from it as it was. -/
theorem FileTree.document_of_write {t written : FileTree} {p : Path}
    {entries : List (String × String)} (hne : entries ≠ [])
    (hkeys : (entries.map Prod.fst).Nodup)
    (h : t.write p (Json.writeObject entries).toUTF8 = .ok written) :
    written.document p = .ok (.object (Json.stringMembers entries)) :=
  document_of_text (content_of_write h) (Json.not_mem_writeObject entries)
    (Json.read_writeObject hne hkeys)

end NativeProps
