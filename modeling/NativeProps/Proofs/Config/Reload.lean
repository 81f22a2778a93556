import NativeProps.Proofs.Config.Saving

/-!
# Saved configurations

A configuration file that was saved gives every field its value, so that nothing of the defaults
shows through: loading it is loading without a file above the saved configuration as the defaults.

* `merge_layer`: the entries of a configuration, as a file, hide all defaults.
* `merge_nil`: a configuration whose fields are not blank is kept when nothing is laid above it.
* `readLayer_of_save`: the layer of a saved file is the entries that were saved.
* `load_of_save`: saving and loading.
-/

namespace NativeProps.Config

/-! ### Layers of entries -/

/-- The members of the file of a configuration. -/
def layer (c : Config) : Members := Json.stringMembers c.entries

theorem entries_ne_nil (c : Config) : c.entries ≠ [] := by
  intro h
  exact nomatch congrArg List.length h

theorem lookup_layer (c : Config) (f : Field) :
    c.layer.lookup f.key = some (.string (c.get f)) := by
  cases f <;> rfl

theorem map_fst_layer (c : Config) : c.layer.map Prod.fst = Field.all.map Field.key := rfl

/-- Entries of fields add no unknown key. -/
theorem unknownKeys_layer (c : Config) (upper : Members) :
    unknownKeys [upper, c.layer] = unknownKeys [upper, []] := by
  have hkeys : ((Field.all.map Field.key).filter fun key => (Field.ofKey? key).isNone) = [] := by
    rw [List.filter_eq_nil_iff]
    intro key hkey
    obtain ⟨f, _, rfl⟩ := List.mem_map.1 hkey
    simp
  have hflat (file : Members) : ([upper, file].flatMap fun l => l.map Prod.fst) =
      upper.map Prod.fst ++ file.map Prod.fst := by
    simp
  simp only [unknownKeys, hflat, map_fst_layer, List.filter_append, hkeys, List.map_nil,
    List.filter_nil]

/-- A field has its value from the entries, or from above them, and never from the defaults. -/
theorem settle_layer (defaults c : Config) (upper : Members) (f : Field) :
    settle defaults [upper, c.layer] f = settle c [upper, []] f := by
  have hlayer : winner? [c.layer] f.key = some (.string (c.get f)) := by
    rw [winner?_cons, lookup_layer, Option.some_or]
  have hnone : winner? [[]] f.key = none := by
    rw [winner?_cons, winner?_nil]
    rfl
  unfold settle
  rw [winner?_cons, hlayer, winner?_cons, hnone]
  cases upper.lookup f.key <;> rfl

theorem merge_congr {defaults defaults' : Config} {file file' upper : Members}
    (hkeys : unknownKeys [upper, file] = unknownKeys [upper, file'])
    (hsettle : ∀ f, settle defaults [upper, file] f = settle defaults' [upper, file'] f) :
    merge defaults file upper = merge defaults' file' upper := by
  unfold merge
  simp only [hkeys, hsettle]

theorem merge_layer (defaults c : Config) (upper : Members) :
    merge defaults c.layer upper = merge c [] upper :=
  merge_congr (unknownKeys_layer c upper) (settle_layer defaults c upper)

/-- With nothing above it a configuration without blank fields stays as it is. -/
theorem merge_nil {c : Config} (htext : ∀ f, Text.isBlankText (c.get f) = false) :
    merge c [] [] = .ok c := by
  have hkeys : unknownKeys [[], []] = [] := by simp [unknownKeys]
  have hsettle (f : Field) : settle c [[], []] f = .ok (c.get f) := by
    have hfield : fieldText? (.string (c.get f)) = some (c.get f) := by
      rw [fieldText?, htext f]
      rfl
    have hwinner : winner? [[], []] f.key = none := rfl
    simp only [settle, hwinner, Option.getD_none, hfield]
  unfold merge
  simp only [hkeys, hsettle]
  rfl

/-! ### Files -/

theorem result_load (files : FileTree) (defaults : Config) (file : Option String)
    (custom : Value) :
    (load files defaults file custom).result =
      (readLayer files file).result.bind fun members =>
        (overrides custom).bind fun upper => merge defaults members upper := by
  unfold load
  rw [Outcome.result_bind]
  congr 1
  funext members
  rw [Outcome.result_bind]
  rfl

theorem nodup_keys : (Field.all.map Field.key).Nodup := by decide

/-- The path of the empty text has no last step, so no extension. -/
theorem isEmpty_of_isJson {name : String} (h : (Path.ofText name).isJson = true) :
    name.isEmpty = false := by
  rw [Bool.eq_false_iff]
  intro hempty
  rw [String.isEmpty_iff] at hempty
  subst hempty
  exact absurd h (by decide)

theorem readLayer_of_save {files saved : FileTree} {c : Config} {name : String}
    (hjson : (Path.ofText name).isJson = true) (hsave : save files c name = (saved, .ok ())) :
    (readLayer saved (some name)).result = .ok c.layer := by
  have hwrite := write_of_save hsave
  have hdocument : saved.document (.ofText name) = .ok (.object c.layer) :=
    FileTree.document_of_write c.entries_ne_nil nodup_keys hwrite
  unfold readLayer
  simp only [isEmpty_of_isJson hjson, Bool.false_eq_true, if_false]
  unfold readFile
  simp only [FileTree.exists?_of_write hwrite]
  unfold readMembers
  simp only [hjson, hdocument]
  rfl

/-- **Saving and loading.** A configuration without blank fields that was saved to a JSON file is
loaded from it as it was, whatever the defaults. Under overrides too the file stands for the saved
configuration: the outcome, failures included, is that of the overrides above this configuration
as the defaults, without any file. -/
theorem load_of_save {files saved : FileTree} {c : Config} {name : String}
    (htext : ∀ f, Text.isBlankText (c.get f) = false)
    (hjson : (Path.ofText name).isJson = true) (hsave : save files c name = (saved, .ok ())) :
    (∀ defaults, (load saved defaults (some name) .null).result = .ok c) ∧
    ∀ (defaults : Config) (other : FileTree) (custom : Value),
      (load saved defaults (some name) custom).result = (load other c none custom).result := by
  have hlayer := readLayer_of_save hjson hsave
  constructor
  · intro defaults
    rw [result_load, hlayer]
    show merge defaults c.layer [] = .ok c
    rw [merge_layer, merge_nil htext]
  · intro defaults other custom
    rw [result_load, hlayer, result_load]
    show ((overrides custom).bind fun upper => merge defaults c.layer upper) =
      (overrides custom).bind fun upper => merge c [] upper
    simp only [merge_layer]

/-- Quotes, backslashes, line ends, control characters and characters of any width survive in a
file below a directory. Other defaults do not show, and a blank override is refused as it is without
the file. -/
theorem load_of_save_escaped :
    let c : Config :=
      { boolType := "\"b\\\r\n\t", stringType := "\x00 \x1f\x7f", intType := "é😀\u2028" }
    let files : FileTree := { entries := [(["conf"], .directory)] }
    let saved : FileTree :=
      { entries := [(["conf", "names.JSON"], .file c.fileText.toUTF8), (["conf"], .directory)] }
    let name := "conf/./names.JSON"
    let defaults : Config := { boolType := "", floatType := "Real" }
    let custom : Value := .object [("float_type", .string "  ")]
    save files c name = (saved, .ok ()) ∧
    (load saved defaults (some name) .null).result = .ok c ∧
    (load saved defaults (some name) custom).result = (load .empty c none custom).result := by
  intro c files saved name defaults custom
  have hpath : Path.ofText name = ⟨.here, ["conf", "names.JSON"]⟩ := by decide
  -- the bytes stay unevaluated while the way to the file is followed
  have hwrite (bytes : ByteArray) : files.write (.ofText name) bytes =
      .ok { entries := [(["conf", "names.JSON"], .file bytes), (["conf"], .directory)] } := by
    rw [hpath]
    rfl
  have plain (f : Field) : c.holdsHalf files.halves f = false := by
    cases f <;> decide
  have hsave : save files c name = (saved, .ok ()) := save_of_plain plain (hwrite _)
  have htext : ∀ f, Text.isBlankText (c.get f) = false := by
    intro f
    cases f <;> decide
  have hreload := load_of_save htext (by decide : (Path.ofText name).isJson = true) hsave
  exact ⟨hsave, hreload.1 defaults, hreload.2 defaults .empty custom⟩

end NativeProps.Config
