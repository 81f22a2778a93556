import NativeProps.Config.Session
import NativeProps.Proofs.Config.Precedence
import NativeProps.Proofs.Files.Kept

/-!
# What holds throughout a configuration session

A session starts with plain defaults and any files. Whatever has been done in it, what it answers
next depends on little: on the defaults in force and on the files as they are.

* `Config.Filled`: no field is blank.
* `Session.step_save`: what saving comes to. A failing save leaves a trace just where a value of the
  configuration has no bytes.
* `Session.Sound`: the invariant of the state. It holds at the start, and every step keeps it.
* `Session.Spares`: steps that leave a file alone, so that it is found as it was.
* `Session.SetsFile`: sessions that differ in one file.
* `Session.Consistent`: what can be relied on at one point of a session.
* `Session.consistent_of_run`: it can be relied on at every point of every session.
* `Session.read_of_unsaved`: what a failing save leaves of a file.
-/

namespace NativeProps

/-! ### Configurations without blank fields -/

namespace Config

/-- No field of the configuration is blank. -/
def Filled (c : Config) : Prop := ∀ f : Field, Text.isBlankText (c.get f) = false

theorem filled_default : Filled {} := by
  intro f
  cases f <;> decide

/-- A false value lays nothing above a configuration, so that it stays as it is. -/
theorem result_load_of_false {c : Config} (hc : c.Filled) (files : FileTree) {custom : Value}
    (hfalse : custom.isTrue = false) : (load files c none custom).result = .ok c := by
  have hnone : overrides custom = .ok [] := by
    unfold overrides
    rw [if_neg (Bool.eq_false_iff.1 hfalse)]
  rw [result_load, hnone]
  exact merge_nil hc

/-- A JSON file that holds the text of a configuration stands for this configuration: what is
loaded from it is what is loaded without a file above the configuration as the defaults. -/
theorem result_load_of_content {files : FileTree} {c : Config} {name : String}
    (json : (Path.ofText name).isJson = true)
    (content : files.content (.ofText name) = .ok c.fileText.toUTF8) (defaults : Config)
    (other : FileTree) (custom : Value) :
    (load files defaults (some name) custom).result = (load other c none custom).result := by
  have hdocument : files.document (.ofText name) = .ok (.object c.layer) :=
    FileTree.document_of_text content (Json.not_mem_writeObject c.entries)
      (Json.read_writeObject c.entries_ne_nil nodup_keys)
  rw [result_load, readLayer_of_gives (.object json hdocument), result_load]
  show ((overrides custom).bind fun upper => merge defaults c.layer upper) =
    (overrides custom).bind fun upper => merge c [] upper
  simp only [merge_layer]

end Config

namespace Session

variable {s : Session} {a : Step} {name : List String}

/-! ### Obtaining a configuration -/

theorem answer_obtain (s : Session) (x : Outcome Config) : (s.obtain x).2 = .config <$> x := by
  unfold obtain
  split <;> rfl

theorem obtain_of_ok {x : Outcome Config} {c : Config} (h : x.result = .ok c) :
    (s.obtain x).1 = { s with current := c } := by
  simp only [obtain, h]

theorem obtain_of_error {x : Outcome Config} {e : Failure} (h : x.result = .error e) :
    (s.obtain x).1 = s := by
  simp only [obtain, h]

theorem files_obtain (s : Session) (x : Outcome Config) : (s.obtain x).1.files = s.files := by
  unfold obtain
  split <;> rfl

theorem files_share (s : Session) : s.share.1.files = s.files := by
  unfold share
  split <;> rfl

theorem current_of_obtain {x : Outcome Config} {c : Config}
    (h : (s.obtain x).2.result = .ok (.config c)) : (s.obtain x).1.current = c := by
  rw [answer_obtain, Outcome.result_map] at h
  obtain ⟨d, hx, ⟨⟩⟩ := map_eq_ok_iff.1 h
  rw [obtain_of_ok hx]

theorem obtain_of_failed {x : Outcome Config} {e : Failure}
    (h : (s.obtain x).2.result = .error e) : (s.obtain x).1 = s := by
  rw [answer_obtain, Outcome.result_map] at h
  exact obtain_of_error (map_eq_error_iff.1 h)

/-! ### What single steps do -/

theorem answer_get (s : Session) (custom : Value) (file : Option String) :
    (s.step (.get custom file)).2 = .config <$> Config.load s.files s.defaults file custom :=
  answer_obtain s _

/-- Saving fails where the file cannot be opened, and nothing happens; or all values have bytes, and
it writes the current configuration; or it fails at a value that holds a half, with the text in
front of it written. -/
theorem step_save (s : Session) (path : String) :
    (∃ r, (∀ bytes, s.files.write (.ofText path) bytes = .error r) ∧
      s.step (.save path) = (s, .fail (Config.saveFailure (.ofText path) (.refused r)))) ∨
    (∃ files, (∀ f, s.current.holdsHalf s.files.halves f = false) ∧
      s.files.write (.ofText path) s.current.fileText.toUTF8 = .ok files ∧
      s.step (.save path) = ({ s with files }, return .done)) ∨
    ∃ (cut : Config.Cut s.files.halves s.current) (files : FileTree) (fault : EncodeFault),
      s.files.write (.ofText path) cut.text.toUTF8 = .ok files ∧
      s.step (.save path) = ({ s with files }, .misuse (.unencodable fault)) := by
  rw [step]
  obtain ⟨r, hrefused, hsave⟩ | ⟨files, plain, hwrite, hsave⟩ |
    ⟨cut, files, fault, hwrite, hsave⟩ := Config.save_cases s.files s.current path
  · exact .inl ⟨r, hrefused, by rw [hsave]; rfl⟩
  · exact .inr (.inl ⟨files, plain, hwrite, by rw [hsave]; rfl⟩)
  · exact .inr (.inr ⟨cut, files, fault, hwrite, by rw [hsave]; rfl⟩)

/-- Saving changes nothing but the files, and these by one write at most. -/
theorem session_of_save (s : Session) (path : String) :
    (s.step (.save path)).1 = s ∨
    ∃ bytes files, s.files.write (.ofText path) bytes = .ok files ∧
      (s.step (.save path)).1 = { s with files } := by
  obtain ⟨r, -, hstep⟩ | ⟨files, -, hwrite, hstep⟩ | ⟨cut, files, fault, hwrite, hstep⟩ :=
    step_save s path
  · exact .inl (by rw [hstep])
  · exact .inr ⟨_, files, hwrite, by rw [hstep]⟩
  · exact .inr ⟨_, files, hwrite, by rw [hstep]⟩

theorem not_config_of_map {α : Type} {x : Outcome α} {g : α → Answer} {c : Config}
    (hg : ∀ v, g v ≠ .config c) : (g <$> x).result ≠ .ok (.config c) := by
  intro h
  rw [Outcome.result_map] at h
  obtain ⟨v, -, hv⟩ := map_eq_ok_iff.1 h
  exact hg v hv

/-- An answer that is a configuration is the current one from then on. -/
theorem current_of_answer {c : Config} (h : (s.step a).2.result = .ok (.config c)) :
    (s.step a).1.current = c := by
  cases a with
  | get custom file => exact current_of_obtain h
  | load custom file => exact current_of_obtain h
  | setDefaults fromCurrent => cases h
  | save path => exact absurd h (not_config_of_map nofun)
  | place path entry => exact absurd h (not_config_of_map nofun)
  | read path => exact absurd h (not_config_of_map nofun)
  | typeName tag => exact absurd h (not_config_of_map nofun)
  | header name => exact absurd h (not_config_of_map nofun)

/-- A step that fails changes nothing but the shared defaults, unless it is to place an entry or to
save. -/
theorem step_of_failed {e : Failure} (hplace : ∀ path entry, a ≠ .place path entry)
    (hsave : ∀ path, a ≠ .save path) (h : (s.step a).2.result = .error e) :
    (s.step a).1 = s ∨ (s.step a).1 = s.share.1 := by
  cases a with
  | get custom file => exact .inl (obtain_of_failed h)
  | load custom file => exact .inr (obtain_of_failed h)
  | setDefaults fromCurrent => cases h
  | save path => exact absurd rfl (hsave path)
  | place path entry => exact absurd rfl (hplace path entry)
  | read path => exact .inl rfl
  | typeName tag => exact .inl rfl
  | header name => exact .inl rfl

/-- The files change only by what is written and by what is placed. -/
theorem files_step (s : Session) (a : Step) :
    (s.step a).1.files = s.files ∨
    (∃ path bytes, a = .save path ∧
      s.files.write (.ofText path) bytes = .ok (s.step a).1.files) ∨
    ∃ path entry, a = .place path entry ∧
      (s.step a).1.files = (s.files.place path entry).1 := by
  cases a with
  | get custom file => exact .inl (files_obtain s _)
  | load custom file => exact .inl ((files_obtain s.share.1 _).trans (files_share s))
  | setDefaults fromCurrent => exact .inl rfl
  | save path =>
    obtain hstep | ⟨bytes, files, hwrite, hstep⟩ := session_of_save s path
    · exact .inl (by rw [hstep])
    · exact .inr (.inl ⟨path, bytes, rfl, by rw [hstep, hwrite]⟩)
  | place path entry => exact .inr (.inr ⟨path, entry, rfl, rfl⟩)
  | read path => exact .inl rfl
  | typeName tag => exact .inl rfl
  | header name => exact .inl rfl

/-! ### The invariant -/

/-- What every step keeps: no configuration in force has a blank field, and the defaults that loads
share are plain. -/
structure Sound (s : Session) : Prop where
  defaults : s.defaults.Filled
  current : s.current.Filled
  shared : ∀ c, s.shared? = some c → c = {}

theorem sound_start (files : FileTree) : Sound { files } where
  defaults := Config.filled_default
  current := Config.filled_default
  shared _ h := nomatch h

namespace Sound

theorem share_eq (h : s.Sound) : s.share = ({ s with shared? := some {} }, {}) := by
  obtain ⟨defaults, shared?, current, files⟩ := s
  cases shared? with
  | none => rfl
  | some c =>
    obtain rfl := h.shared c rfl
    rfl

theorem share (h : s.Sound) : s.share.1.Sound := by
  rw [h.share_eq]
  exact ⟨h.defaults, h.current, fun _ hc => (Option.some.inj hc).symm⟩

theorem withFiles (h : s.Sound) (files : FileTree) : Sound { s with files } :=
  ⟨h.defaults, h.current, h.shared⟩

/-- Loading gives no blank field, from whichever files and defaults. -/
theorem obtain (h : s.Sound) (files : FileTree) (defaults : Config) (file : Option String)
    (custom : Value) : (s.obtain (Config.load files defaults file custom)).1.Sound := by
  cases hload : (Config.load files defaults file custom).result with
  | ok c =>
    rw [obtain_of_ok hload]
    exact ⟨h.defaults, Config.not_blank_of_load hload, h.shared⟩
  | error e => rwa [obtain_of_error hload]

theorem step (h : s.Sound) (a : Step) : (s.step a).1.Sound := by
  cases a with
  | get custom file => exact h.obtain s.files s.defaults file custom
  | load custom file => exact h.share.obtain s.share.1.files s.share.2 file custom
  | setDefaults fromCurrent =>
    cases fromCurrent with
    | true => exact ⟨h.current, h.current, h.shared⟩
    | false => exact ⟨Config.filled_default, h.current, h.shared⟩
  | save path =>
    obtain hstep | ⟨bytes, files, -, hstep⟩ := session_of_save s path
    · rwa [hstep]
    · rw [hstep]
      exact h.withFiles files
  | place path entry => exact h.withFiles (placeEntry s.files path entry).1
  | read path => exact h
  | typeName tag => exact h
  | header name => exact h

/-- Over a whole run the invariant is kept, and no answer has a blank field. The induction is on the
steps, with the session general. -/
theorem run (h : s.Sound) (steps : List Step) :
    (s.run steps).1.Sound ∧
      ∀ x ∈ (s.run steps).2, ∀ c, x.result = .ok (.config c) → c.Filled := by
  induction steps generalizing s with
  | nil => exact ⟨h, fun x hx => by cases hx⟩
  | cons a rest ih =>
    have hstep := h.step a
    obtain ⟨hrest, hanswers⟩ := ih hstep
    refine ⟨hrest, fun x hx c hc => ?_⟩
    rcases List.mem_cons.1 hx with rfl | hx
    · rw [← current_of_answer hc]
      exact hstep.current
    · exact hanswers x hx c hc

/-- Loading answers as getting does above plain defaults. -/
theorem answer_load (h : s.Sound) (custom : Value) (file : Option String) :
    (s.step (.load custom file)).2 = .config <$> Config.load s.files {} file custom := by
  show (s.share.1.obtain (Config.load s.share.1.files s.share.2 file custom)).2 = _
  rw [h.share_eq, answer_obtain]

theorem failed (h : s.Sound) {e : Failure} (hplace : ∀ path entry, a ≠ .place path entry)
    (herror : (s.step a).2.result = .error e) :
    (s.step a).1.defaults = s.defaults ∧ (s.step a).1.current = s.current ∧
      ((∀ path, a ≠ .save path) → (s.step a).1.files = s.files) := by
  by_cases hsave : ∃ path, a = .save path
  · obtain ⟨path, rfl⟩ := hsave
    obtain hstep | ⟨bytes, files, -, hstep⟩ := session_of_save s path
    · rw [hstep]
      exact ⟨rfl, rfl, fun _ => rfl⟩
    · rw [hstep]
      exact ⟨rfl, rfl, fun hother => absurd rfl (hother path)⟩
  · rcases step_of_failed hplace (fun path hpath => hsave ⟨path, hpath⟩) herror with hstep | hstep
    · rw [hstep]
      exact ⟨rfl, rfl, fun _ => rfl⟩
    · rw [hstep, h.share_eq]
      exact ⟨rfl, rfl, fun _ => rfl⟩

end Sound

/-! ### Files that are left alone -/

/-- The path of the file that a step sets. -/
def Step.target? : Step → Option Path
  | .save path => some (.ofText path)
  | .place path (.file _) => some (.writtenFile path)
  | _ => none

/-- No step sets a file at a path that leads to the name. -/
def Spares (name : List String) : Session → List Step → Prop
  | _, [] => True
  | s, a :: rest =>
    (∀ p, a.target? = some p → (s.step a).1.files.resolve p ≠ .ok name) ∧
      Spares name (s.step a).1 rest

theorem keepsDirectories_step (s : Session) (a : Step) :
    s.files.KeepsDirectories (s.step a).1.files := by
  obtain h | ⟨path, bytes, -, h⟩ | ⟨path, entry, -, h⟩ := files_step s a
  · rw [h]
    exact .refl s.files
  · exact FileTree.keepsDirectories_write h
  · rw [h]
    exact FileTree.keepsDirectories_place path entry

theorem lookup?_step {e : Entry} (hlookup : s.files.lookup? name = some e)
    (spared : ∀ p, a.target? = some p → (s.step a).1.files.resolve p ≠ .ok name) :
    (s.step a).1.files.lookup? name = some e := by
  obtain h | ⟨path, bytes, rfl, h⟩ | ⟨path, entry, rfl, h⟩ := files_step s a
  · rwa [h]
  · -- where the path leads before the write, it leads afterwards
    have hother : s.files.resolve (.ofText path) ≠ .ok name := fun hresolve =>
      spared _ rfl (FileTree.resolve_of_keeps (keepsDirectories_step s _) hresolve)
    exact (FileTree.lookup?_write h hother).trans hlookup
  · rw [h] at spared ⊢
    refine FileTree.lookup?_place hlookup fun bytes hentry => spared _ ?_
    rw [hentry]
    rfl

/-- A file that is left alone is found with its content after any steps. -/
theorem content_of_run {p : Path} {bytes : ByteArray} (hresolve : s.files.resolve p = .ok name)
    (hlookup : s.files.lookup? name = some (.file bytes)) {rest : List Step}
    (spared : Spares name s rest) : (s.run rest).1.files.content p = .ok bytes := by
  induction rest generalizing s with
  | nil => exact FileTree.content_of_lookup? hresolve hlookup
  | cons a rest ih =>
    exact ih (FileTree.resolve_of_keeps (keepsDirectories_step s a) hresolve)
      (lookup?_step hlookup spared.1) spared.2

/-! ### Saved configurations -/

/-- Nothing changes from one session to the next but the file that a path leads to, which then holds
the text. -/
def SetsFile (s t : Session) (path text : String) : Prop :=
  ∃ name files, s.files.resolve (.ofText path) = .ok name ∧ t = { s with files } ∧
    files.lookup? name = some (.file text.toUTF8) ∧
    ∀ other ≠ name, files.lookup? other = s.files.lookup? other

theorem setsFile_of_write {files : FileTree} {path text : String}
    (h : s.files.write (.ofText path) text.toUTF8 = .ok files) :
    s.SetsFile { s with files } path text := by
  obtain ⟨name, hresolve, hname, rfl⟩ := FileTree.write_inv h
  have hstart := FileTree.isPrefixOf_start_eq_false hname
  exact ⟨name, _, hresolve, rfl, FileTree.lookup?_set_self s.files _ hstart,
    fun other hne => FileTree.lookup?_set_of_ne s.files _ hne⟩

/-- Saving sets one file, with the text of the current configuration, all of which has bytes. -/
theorem step_of_saved {path : String} {x : Answer} (h : (s.step (.save path)).2.result = .ok x) :
    (∀ f, s.current.holdsHalf s.files.halves f = false) ∧
      s.SetsFile (s.step (.save path)).1 path s.current.fileText := by
  obtain ⟨r, -, hstep⟩ | ⟨files, plain, hwrite, hstep⟩ | ⟨cut, files, fault, -, hstep⟩ :=
    step_save s path
  · rw [hstep] at h
    cases h
  · rw [hstep]
    exact ⟨plain, setsFile_of_write hwrite⟩
  · rw [hstep] at h
    cases h

/-- A save that fails leaves everything as it was, or the text in front of a value that holds a
half. -/
theorem step_of_unsaved {path : String} {e : Failure}
    (h : (s.step (.save path)).2.result = .error e) :
    ((∀ bytes, ∃ r, s.files.write (.ofText path) bytes = .error r) ∧
      (s.step (.save path)).1 = s) ∨
    ∃ (cut : Config.Cut s.files.halves s.current) (fault : EncodeFault) (rest : List Char),
      e = .misuse (.unencodable fault) ∧ s.SetsFile (s.step (.save path)).1 path cut.text ∧
      s.current.fileText.toList =
        cut.text.toList ++ Json.quote (s.current.get cut.field) ++ rest := by
  obtain ⟨r, hrefused, hstep⟩ | ⟨files, -, -, hstep⟩ | ⟨cut, files, fault, hwrite, hstep⟩ :=
    step_save s path
  · rw [hstep]
    exact .inl ⟨fun bytes => ⟨r, hrefused bytes⟩, rfl⟩
  · rw [hstep] at h
    cases h
  · obtain ⟨rest, htext⟩ := cut.fileText_eq
    rw [hstep] at h ⊢
    exact .inr ⟨cut, fault, rest, (Except.error.inj h).symm, setsFile_of_write hwrite, htext⟩

/-- From a saved file that is left alone one obtains what is obtained without a file above the
configuration that was saved. -/
theorem reloaded_of_saved (h : s.Sound) {path : String} {x : Answer}
    (json : (Path.ofText path).isJson = true) (hsave : (s.step (.save path)).2.result = .ok x)
    {rest : List Step}
    (spared : ∀ name, s.files.resolve (.ofText path) = .ok name →
      Spares name (s.step (.save path)).1 rest) (custom : Value) :
    let t := ((s.step (.save path)).1.run rest).1
    let above := (step { defaults := s.current } (.get custom none)).2.result
    (t.step (.get custom (some path))).2.result = above ∧
      (t.step (.load custom (some path))).2.result = above := by
  intro t above
  obtain ⟨-, name, files, hresolve, hstep, hlookup, -⟩ := step_of_saved hsave
  have hkeeps := keepsDirectories_step s (.save path)
  have hcontent : t.files.content (.ofText path) = .ok s.current.fileText.toUTF8 :=
    content_of_run (FileTree.resolve_of_keeps hkeeps hresolve) (by rw [hstep, hlookup])
      (spared name hresolve)
  have hload := Config.result_load_of_content json hcontent
  have habove : above = (Config.load .empty s.current none custom).result.map .config := by
    show (step { defaults := s.current } (.get custom none)).2.result = _
    rw [answer_get, Outcome.result_map]
  have ht : t.Sound := ((h.step (.save path)).run rest).1
  constructor
  · rw [answer_get, Outcome.result_map, hload t.defaults .empty custom, habove]
  · rw [ht.answer_load, Outcome.result_map, hload {} .empty custom, habove]

/-! ### What can be relied on -/

/-- What can be relied on at one point of a session. -/
structure Consistent (s : Session) : Prop where
  /-- No configuration in force has a blank field, and the defaults that loads share are plain. -/
  sound : s.Sound
  /-- A step that fails, unless it is to place an entry, changes neither the defaults nor the
  current configuration, nor any file unless it is to save. -/
  failed : ∀ a e, (∀ path entry, a ≠ .place path entry) → (s.step a).2.result = .error e →
    (s.step a).1.defaults = s.defaults ∧ (s.step a).1.current = s.current ∧
      ((∀ path, a ≠ .save path) → (s.step a).1.files = s.files)
  /-- Saving changes one file only, which then holds the text of the current configuration. No value
  of it holds a half of a surrogate pair. -/
  saved : ∀ path x, (s.step (.save path)).2.result = .ok x →
    (∀ f, s.current.holdsHalf s.files.halves f = false) ∧
      s.SetsFile (s.step (.save path)).1 path s.current.fileText
  /-- A save that fails changes nothing where the file cannot be opened. Elsewhere a value of the
  current configuration holds a half of a surrogate pair, and the file is left with the text in
  front of the first such value. -/
  unsaved : ∀ path e, (s.step (.save path)).2.result = .error e →
    ((∀ bytes, ∃ r, s.files.write (.ofText path) bytes = .error r) ∧
      (s.step (.save path)).1 = s) ∨
    ∃ (cut : Config.Cut s.files.halves s.current) (fault : EncodeFault) (rest : List Char),
      e = .misuse (.unencodable fault) ∧ s.SetsFile (s.step (.save path)).1 path cut.text ∧
      s.current.fileText.toList =
        cut.text.toList ++ Json.quote (s.current.get cut.field) ++ rest
  /-- Loading answers what getting answers in a session that starts with the files as they are. -/
  loaded : ∀ custom file,
    (s.step (.load custom file)).2 = (step { files := s.files } (.get custom file)).2
  /-- After a JSON file is saved and for as long as it is left alone, getting and loading from it
  under overrides answer what these come to without a file above the configuration that was
  saved. Without overrides they give this configuration. -/
  reloaded : ∀ path x rest, (Path.ofText path).isJson = true →
    (s.step (.save path)).2.result = .ok x →
    (∀ name, s.files.resolve (.ofText path) = .ok name →
      Spares name (s.step (.save path)).1 rest) →
    ∀ custom, ∀ a ∈ [Step.get custom (some path), .load custom (some path)],
      (((s.step (.save path)).1.run rest).1.step a).2.result =
        (step { defaults := s.current } (.get custom none)).2.result ∧
      (custom.isTrue = false →
        (((s.step (.save path)).1.run rest).1.step a).2.result = .ok (.config s.current))

theorem consistent_of_sound (h : s.Sound) : s.Consistent where
  sound := h
  failed _ _ hplace herror := h.failed hplace herror
  saved _ _ hsave := step_of_saved hsave
  unsaved _ _ hsave := step_of_unsaved hsave
  loaded custom file := by rw [h.answer_load, answer_get]
  reloaded path x rest json hsave spared custom a ha := by
    obtain ⟨hget, hload⟩ := reloaded_of_saved h json hsave spared custom
    have habove : (((s.step (.save path)).1.run rest).1.step a).2.result =
        (step { defaults := s.current } (.get custom none)).2.result := by
      rcases List.mem_pair.1 ha with rfl | rfl
      · exact hget
      · exact hload
    refine ⟨habove, fun hfalse => ?_⟩
    rw [habove, answer_get, Outcome.result_map, Config.result_load_of_false h.current _ hfalse]
    rfl

/-- **Sessions stay consistent.** From plain defaults and any files, after any steps: no
configuration that was answered has a blank field, and at the point reached everything holds that
can be relied on in a session. -/
theorem consistent_of_run (files : FileTree) (steps : List Step) :
    (∀ x ∈ (run { files } steps).2, ∀ c, x.result = .ok (.config c) → c.Filled) ∧
      (run { files } steps).1.Consistent := by
  obtain ⟨hsound, hanswers⟩ := (sound_start files).run steps
  exact ⟨hanswers, consistent_of_sound hsound⟩

/-- A configuration is obtained, used as the defaults and saved. After plain defaults, a load that
fails and a new directory it is still loaded from the file, and a blank override above the file
comes to what it comes to above this configuration. -/
theorem consistent_of_run_reloaded :
    let c : Config := { intType := "long" }
    let steps : List Step := [.get (.object [("int_type", .string "long")]) none, .setDefaults true]
    let rest : List Step :=
      [.setDefaults false, .load .null (some "missing.json"), .place "conf" .directory]
    let blank : Value := .object [("bool_type", .string " ")]
    let s := (run {} steps).1
    let t := ((s.step (.save "c.json")).1.run rest).1
    (s.step (.save "c.json")).2.result = .ok .done ∧
      (t.step (.load .null (some "c.json"))).2.result = .ok (.config c) ∧
      (t.step (.get blank (some "c.json"))).2.result =
        (step { defaults := c } (.get blank none)).2.result := by
  intro c steps rest blank s t
  have hgiven : Config.FileGives .empty none [] := .absent
  have hload : (Config.load .empty {} none (.object [("int_type", .string "long")])).result =
      .ok c := by
    rw [Config.result_load_object hgiven]
    refine Config.merge_of_fits ?_ ?_ ?_
    · rintro key ⟨hkey, noField⟩
      simp only [List.map_cons, List.map_nil, List.mem_singleton, List.not_mem_nil,
        or_false] at hkey
      exact noField .intType hkey.symm
    · intro f
      cases f <;> rfl
    · intro f
      cases f <;> exact ⟨_, rfl, by decide⟩
  have hs : s = { defaults := c, current := c } := by
    show ((obtain {} (Config.load .empty {} none _)).1.step (.setDefaults true)).1 = _
    rw [obtain_of_ok hload]
    rfl
  have hcurrent : s.current = c := by rw [hs]
  -- the bytes stay unevaluated while the way to the file is followed
  have hwrite (bytes : ByteArray) : FileTree.empty.write (.ofText "c.json") bytes =
      .ok { entries := [(["c.json"], .file bytes)] } := rfl
  have hsave : (s.step (.save "c.json")).2.result = .ok .done := by
    have plain (f : Config.Field) : c.holdsHalf FileTree.empty.halves f = false := by
      cases f <;> decide
    have hsaved : Config.save .empty c "c.json" =
        ({ entries := [(["c.json"], .file c.fileText.toUTF8)] }, .ok ()) :=
      Config.save_of_plain plain (hwrite _)
    rw [hs, step, hsaved]
    rfl
  have hspares (name : List String) : Spares name (s.step (.save "c.json")).1 rest := by
    -- none of the steps sets a file
    refine ⟨?_, ?_, ?_, trivial⟩ <;> intro p hp <;> cases hp
  have hconsistent : s.Consistent := (consistent_of_run .empty steps).2
  have hreload := hconsistent.reloaded "c.json" .done rest (by decide) hsave
    fun name _ => hspares name
  rw [hcurrent] at hreload
  exact ⟨hsave, (hreload .null _ (List.mem_pair.2 (.inr rfl))).2 rfl,
    (hreload blank _ (List.mem_pair.2 (.inl rfl))).1⟩

/-- A value that holds a half is read from a file and saved over another file. The save fails, and
the other file is left with the text in front of that value. -/
theorem read_of_unsaved :
    let bad := "\x7b\"int_type\": \"\\ud800\"\x7d"
    let front :=
      "\x7b\n  \"bool_type\": \"bool\",\n  \"string_type\": \"std::string\",\n  \"int_type\": "
    let files : FileTree :=
      { entries := [(["c.json"], .file "\x7b\x7d".toUTF8), (["bad.json"], .file bad.toUTF8)] }
    let s := (run { files } [.get .null (some "bad.json")]).1
    s.files.read "c.json" = .ok "\x7b\x7d".toUTF8 ∧
      (s.step (.save "c.json")).2.result = .error (.misuse (.unencodable ⟨0xd800, 1, 1⟩)) ∧
      (s.step (.save "c.json")).1.files.read "c.json" = .ok front.toUTF8 := by
  intro bad front files s
  let half : String := String.ofList [Halves.standard.stand 0xd800]
  let c : Config := { intType := half }
  -- the bytes stay unevaluated while the ways to the files are followed
  let tree (b b' : ByteArray) : FileTree :=
    { entries := [(["c.json"], .file b), (["bad.json"], .file b')] }
  have hcontent (b b' : ByteArray) : (tree b b').content (.ofText "bad.json") = .ok b' := rfl
  have hwrite (b b' bytes : ByteArray) :
      (tree b b').write (.ofText "c.json") bytes = .ok (tree bytes b') := rfl
  have hopen (b b' : ByteArray) : (tree b b').read "c.json" = .ok b := rfl
  have hread : Json.read .standard bad = .ok (.object [("int_type", .string half)]) := by
    have hchars : bad.toList = ['\x7b', '"', 'i', 'n', 't', '_', 't', 'y', 'p', 'e', '"', ':', ' ',
        '"', '\\', 'u', 'd', '8', '0', '0', '"', '\x7d'] := by decide
    have hkey : "int_type" = String.ofList ['i', 'n', 't', '_', 't', 'y', 'p', 'e'] := by decide
    rw [Json.read, hchars, hkey]
    rfl
  have hgiven : Config.FileGives files (some "bad.json") [("int_type", .string half)] :=
    .object (by decide) (FileTree.document_of_text (hcontent _ _) (by decide) hread)
  have hload : (Config.load files {} (some "bad.json") .null).result = .ok c := by
    show (Config.load files {} (some "bad.json") (.object [])).result = .ok c
    rw [Config.result_load_object hgiven]
    refine Config.merge_of_fits ?_ ?_ ?_
    · rintro key ⟨hkey, noField⟩
      simp only [List.map_cons, List.map_nil, List.mem_singleton, List.not_mem_nil,
        false_or] at hkey
      exact noField .intType hkey.symm
    · intro f
      cases f <;> rfl
    · intro f
      cases f <;> exact ⟨_, rfl, by decide⟩
  have hs : s = { current := c, files } := by
    show (obtain { files } (Config.load files {} (some "bad.json") .null)).1 = _
    rw [obtain_of_ok hload]
  have hwritten : Halves.standard.written (Json.objectChunks c.entries) =
      (front.toList, some ⟨0xd800, 1, 1⟩) := by decide
  have hsaved : Config.save files c "c.json" =
      (tree front.toUTF8 bad.toUTF8, .error (.misuse (.unencodable ⟨0xd800, 1, 1⟩))) := by
    obtain ⟨r, hrefused, -⟩ | ⟨left, hleft, hchunks⟩ :=
      FileTree.writeChunks_cases (t := files) (.ofText "c.json") hwritten
    · have hopened := (hwrite _ _ .empty).symm.trans (hrefused .empty)
      cases hopened
    · rw [String.ofList_toList] at hleft
      rw [Config.save, hchunks, ← Except.ok.inj ((hwrite _ _ _).symm.trans hleft)]
      rfl
  rw [hs, step, hsaved]
  exact ⟨hopen _ _, rfl, hopen _ _⟩

end Session

end NativeProps
