import NativeProps.Proofs.Files.Written

/-!
# What stays when a tree changes

A tree changes by a write or by placing an entry. Either sets one file, in place of no directory,
and placing creates directories where nothing was. So every directory stays, every way through the
tree stays open, and every file stays but the one that is set.

* `FileTree.createDirectories_keeps`: what the creation of one directory keeps stays over all of
  them.
* `FileTree.lookup?_write`, `FileTree.lookup?_createDirectories`, `FileTree.lookup?_place`: the
  entries that stay.
* `FileTree.keepsDirectories_write`, `FileTree.keepsDirectories_place`: all directories stay.
* `FileTree.content_of_lookup?`: the content of a file whose name and path are known.
-/

namespace NativeProps.FileTree

variable {t u : FileTree} {p : Path} {bytes : ByteArray} {name : List String}

/-! ### Writes -/

/-- A write leaves every entry but that of the name to which its path leads. -/
theorem lookup?_write (h : t.write p bytes = .ok u) (other : t.resolve p ≠ .ok name) :
    u.lookup? name = t.lookup? name := by
  obtain ⟨target, hresolve, -, rfl⟩ := write_inv h
  have hne : name ≠ target := by
    rintro rfl
    exact other hresolve
  exact lookup?_set_of_ne t (.file bytes) hne

theorem keepsDirectories_write (h : t.write p bytes = .ok u) : t.KeepsDirectories u := by
  obtain ⟨target, -, htarget, rfl⟩ := write_inv h
  exact keepsDirectories_set_file htarget bytes

/-! ### Directories -/

/-- Directories are created only where there is no entry, so what such a creation keeps is kept. The
induction is on the steps, with the tree and the name reached so far general. -/
theorem createDirectories_keeps {P : FileTree → Prop}
    (keeps : ∀ {t : FileTree} {name : List String}, t.lookup? name = none → P t →
      P (t.set name .directory))
    (steps : List String) {here : List String} (h : P t) :
    P (t.createDirectories here steps).1 := by
  induction steps generalizing t here with
  | nil => rwa [createDirectories]
  | cons step rest ih =>
    rw [createDirectories]
    split_ifs
    · exact h
    · cases t.walk here [step] with
      | error r => exact h
      | ok target =>
        cases hlookup : t.lookup? target with
        | none =>
          simp only [hlookup]
          exact ih (keeps hlookup h)
        | some old =>
          cases old <;> cases rest <;> simp only [hlookup]
          all_goals first | exact h | exact ih h

theorem lookup?_createDirectories {e : Entry} (steps : List String) {here : List String}
    (h : t.lookup? name = some e) : (t.createDirectories here steps).1.lookup? name = some e := by
  refine createDirectories_keeps (P := fun u => u.lookup? name = some e) ?_ steps h
  intro u target hnone hu
  have hne : name ≠ target := by
    rintro rfl
    rw [hnone] at hu
    cases hu
  rwa [lookup?_set_of_ne u .directory hne]

theorem start_createDirectories (steps here : List String) :
    (t.createDirectories here steps).1.start = t.start :=
  createDirectories_keeps (P := fun u => u.start = t.start) (fun _ hu => hu) steps rfl

theorem keepsDirectories_createDirectories (steps here : List String) :
    t.KeepsDirectories (t.createDirectories here steps).1 :=
  ⟨start_createDirectories steps here, lookup?_createDirectories steps⟩

/-! ### Placing -/

variable {text : String} {e entry : Entry}

theorem keepsDirectories_placeLast (text : String) (e : Entry) :
    t.KeepsDirectories (t.placeLast text e).1 := by
  cases e with
  | directory => exact keepsDirectories_createDirectories (Path.written text).steps _
  | file bytes =>
    rw [placeLast]
    cases hwrite : t.write (Path.writtenFile text) bytes with
    | error r => exact .refl t
    | ok u => exact keepsDirectories_write hwrite

theorem keepsDirectories_place (text : String) (e : Entry) :
    t.KeepsDirectories (t.place text e).1 := by
  rw [place]
  split_ifs
  · exact .refl t
  · have hcreate := t.keepsDirectories_createDirectories
      (Path.writtenFile text).steps.dropLast (t.base (.writtenFile text))
    split
    · rename_i created _ heq
      rwa [heq] at hcreate
    · rename_i created _ heq
      rw [heq] at hcreate
      exact hcreate.trans (keepsDirectories_placeLast text e)

theorem lookup?_placeLast (h : t.lookup? name = some entry)
    (other : ∀ bytes, e = .file bytes → t.resolve (.writtenFile text) ≠ .ok name) :
    (t.placeLast text e).1.lookup? name = some entry := by
  cases e with
  | directory => exact lookup?_createDirectories (Path.written text).steps h
  | file bytes =>
    rw [placeLast]
    cases hwrite : t.write (Path.writtenFile text) bytes with
    | error r => exact h
    | ok u => exact (lookup?_write hwrite (other bytes rfl)).trans h

/-- Placing an entry leaves all others, except that a file replaces what its text leads to once the
directories in front of it are there. -/
theorem lookup?_place (h : t.lookup? name = some entry)
    (other : ∀ bytes, e = .file bytes →
      (t.place text e).1.resolve (.writtenFile text) ≠ .ok name) :
    (t.place text e).1.lookup? name = some entry := by
  rw [place] at other ⊢
  split_ifs at other ⊢
  · exact h
  · have hcreate : (t.createDirectories (t.base (.writtenFile text))
        (Path.writtenFile text).steps.dropLast).1.lookup? name = some entry :=
      lookup?_createDirectories _ h
    split at other
    · rename_i created _ heq
      rwa [heq] at hcreate
    · rename_i created _ heq
      rw [heq] at hcreate
      -- where the text leads before the entry is there, it leads afterwards
      exact lookup?_placeLast hcreate fun bytes hfile hresolve =>
        other bytes hfile (resolve_of_keeps (keepsDirectories_placeLast text e) hresolve)

/-! ### What is found -/

theorem content_of_lookup? (hresolve : t.resolve p = .ok name)
    (hlookup : t.lookup? name = some (.file bytes)) : t.content p = .ok bytes := by
  rw [content, find, hresolve]
  simp only [bind, Except.bind, hlookup]
  rfl

end NativeProps.FileTree
