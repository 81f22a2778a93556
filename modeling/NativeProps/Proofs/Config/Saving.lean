import NativeProps.Config.Storage
import NativeProps.Proofs.Files.Written

/-!
# What saving writes

A configuration is written chunk by chunk, and a chunk that holds a half of a surrogate pair is not
written, nor is any chunk behind it. The keys and all that stands between them are ASCII, so the
writing ends, if it does, in front of a value.

* `Json.any_isHalf_quote`: the quotes and the escapes of a string add no half to it.
* `Config.Cut`: the first field whose value holds a half.
* `Config.Cut.text`: the text of a configuration file in front of that value.
* `Config.save_cases`: all that saving can come to.
* `Config.write_of_save`, `Config.save_of_plain`: what is saved is what is written.
-/

namespace NativeProps

/-! ### Chunks -/

namespace Json

variable (h : Halves)

theorem ascii_escape {c : Char} (hc : isAscii c = true) : (escape c).all isAscii = true := by
  have hcodes : ∀ n < 128, (escape (Char.ofNat n)).all isAscii = true := by decide +kernel
  rw [← Char.ofNat_toNat c]
  exact hcodes c.toNat (of_decide_eq_true hc)

/-- A character that is not ASCII stands for itself in a string. -/
theorem escape_of_not_ascii {c : Char} (hc : ¬isAscii c = true) : escape c = [c] := by
  have hne {d : Char} (hd : isAscii d = true) : c ≠ d := by
    rintro rfl
    exact hc hd
  have hspace : ¬c < ' ' := by
    intro hlt
    have hlow := toNat_lt_of_lt_space hlt
    exact hc (decide_eq_true (by omega))
  unfold escape
  rw [if_neg (hne (by decide)), if_neg (hne (by decide)), if_neg (hne (by decide)),
    if_neg (hne (by decide)), if_neg (hne (by decide)), if_neg (hne (by decide)),
    if_neg (hne (by decide)), if_neg hspace]

theorem any_isHalf_escape (c : Char) : (escape c).any h.isHalf = h.isHalf c := by
  by_cases hc : isAscii c = true
  · rw [h.isHalf_of_ascii hc, h.any_isHalf_of_ascii (ascii_escape hc)]
  · rw [escape_of_not_ascii hc, List.any_cons, List.any_nil, Bool.or_false]

theorem any_isHalf_quote (s : String) : (quote s).any h.isHalf = s.toList.any h.isHalf := by
  have hmark : h.isHalf '"' = false := h.isHalf_of_ascii (by decide)
  rw [quote, List.cons_append, List.any_cons, List.any_append, List.any_flatMap]
  simp only [any_isHalf_escape, hmark, List.any_cons, List.any_nil, Bool.or_false, Bool.false_or]

/-- The chunks of a member that another one follows. -/
def lineChunks (member : String × String) : List (List Char) :=
  [['\n', ' ', ' '], quote member.1, [':', ' '], quote member.2, [',']]

/-- The chunks in front of the value of a key, below members. -/
def chunksBefore (above : List (String × String)) (key : String) : List (List Char) :=
  ['\x7b'] :: above.flatMap lineChunks ++ [['\n', ' ', ' '], quote key, [':', ' ']]

theorem memberChunks_append (above : List (String × String)) (m : String × String)
    (below : List (String × String)) :
    memberChunks (above ++ m :: below) = above.flatMap lineChunks ++ memberChunks (m :: below) := by
  induction above with
  | nil => rfl
  | cons first above ih =>
    obtain ⟨key, v⟩ := first
    have hfollowed : (above ++ m :: below).isEmpty = false := by simp
    rw [List.cons_append, memberChunks, hfollowed, ih]
    rfl

/-- A value among the chunks of an object. -/
theorem objectChunks_append (above : List (String × String)) (key v : String)
    (below : List (String × String)) :
    ∃ rest, objectChunks (above ++ (key, v) :: below) =
      chunksBefore above key ++ quote v :: rest := by
  rw [objectChunks, memberChunks_append, memberChunks]
  exact ⟨_, by simp only [chunksBefore, List.cons_append, List.append_assoc, List.nil_append]; rfl⟩

/-- No key and no value of the members holds a half. -/
def Plain (members : List (String × String)) : Prop :=
  ∀ m ∈ members, m.1.toList.any h.isHalf = false ∧ m.2.toList.any h.isHalf = false

variable {h} {members : List (String × String)}

theorem plain_lineChunks {m : String × String} (hkey : m.1.toList.any h.isHalf = false)
    (hvalue : m.2.toList.any h.isHalf = false) :
    ∀ chunk ∈ lineChunks m, chunk.any h.isHalf = false := by
  simp only [lineChunks, List.forall_mem_cons, any_isHalf_quote]
  exact ⟨h.any_isHalf_of_ascii (by decide), hkey, h.any_isHalf_of_ascii (by decide), hvalue,
    h.any_isHalf_of_ascii (by decide), List.forall_mem_nil _⟩

theorem plain_chunksBefore (plain : Plain h members) {key : String}
    (hkey : key.toList.any h.isHalf = false) :
    ∀ chunk ∈ chunksBefore members key, chunk.any h.isHalf = false := by
  intro chunk hchunk
  rw [chunksBefore, List.mem_append, List.mem_cons, List.mem_flatMap] at hchunk
  obtain (rfl | ⟨m, hm, hline⟩) | hfront := hchunk
  · exact h.any_isHalf_of_ascii (by decide)
  · exact plain_lineChunks (plain m hm).1 (plain m hm).2 chunk hline
  · -- what is in front of the value is in front of it on any line with the key
    have hvalue : "".toList.any h.isHalf = false := rfl
    exact plain_lineChunks (m := (key, "")) hkey hvalue chunk
      (List.mem_append_left [quote "", [',']] hfront)

/-- Members with bytes are chunks with bytes. -/
theorem plain_memberChunks (plain : Plain h members) :
    ∀ chunk ∈ memberChunks members, chunk.any h.isHalf = false := by
  induction members with
  | nil => exact List.forall_mem_nil _
  | cons m rest ih =>
    obtain ⟨⟨hkey, hvalue⟩, hrest⟩ := List.forall_mem_cons.1 plain
    rw [memberChunks]
    simp only [List.forall_mem_cons, any_isHalf_quote]
    refine ⟨h.any_isHalf_of_ascii (by decide), hkey, h.any_isHalf_of_ascii (by decide), hvalue, ?_⟩
    split
    · exact List.forall_mem_singleton.2 (h.any_isHalf_of_ascii (by decide))
    · exact List.forall_mem_cons.2 ⟨h.any_isHalf_of_ascii (by decide), ih hrest⟩

theorem plain_objectChunks (plain : Plain h members) :
    ∀ chunk ∈ objectChunks members, chunk.any h.isHalf = false := by
  simp only [objectChunks, List.cons_append, List.forall_mem_cons, List.forall_mem_append]
  exact ⟨h.any_isHalf_of_ascii (by decide), plain_memberChunks plain,
    h.any_isHalf_of_ascii (by decide), List.forall_mem_nil _⟩

/-- Members without halves are written as a whole. -/
theorem written_of_plain (plain : Plain h members) :
    h.written (objectChunks members) = ((writeObject members).toList, none) := by
  rw [h.written_of_plain fun chunk hchunk =>
    h.encodeFault?_eq_none_iff.2 (plain_objectChunks plain chunk hchunk), flatten_objectChunks]

/-- Of an object nothing is written from the first value on that holds a half. -/
theorem written_of_half (plain : Plain h members) {key v : String}
    (hkey : key.toList.any h.isHalf = false) (half : v.toList.any h.isHalf = true)
    (below : List (String × String)) :
    ∃ fault, h.written (objectChunks (members ++ (key, v) :: below)) =
      ((chunksBefore members key).flatten, some fault) := by
  obtain ⟨rest, hchunks⟩ := objectChunks_append members key v below
  cases hfault : h.encodeFault? (quote v) with
  | none =>
    rw [h.encodeFault?_eq_none_iff, any_isHalf_quote, half] at hfault
    exact nomatch hfault
  | some fault =>
    refine ⟨fault, ?_⟩
    rw [hchunks, h.written_of_half rest _ hfault]
    exact fun chunk hchunk =>
      h.encodeFault?_eq_none_iff.2 (plain_chunksBefore plain hkey chunk hchunk)

end Json

/-! ### Configurations -/

namespace Config

variable {files : FileTree} {h : Halves} {c : Config}

/-- Whether the value of a field holds a half of a surrogate pair. -/
def holdsHalf (h : Halves) (c : Config) (f : Field) : Bool := (c.get f).toList.any h.isHalf

/-- The first field of a configuration whose value holds a half of a surrogate pair, with the
fields above and below it. -/
structure Cut (h : Halves) (c : Config) where
  above : List Field
  field : Field
  below : List Field
  order : Field.all = above ++ field :: below
  plain : ∀ f ∈ above, c.holdsHalf h f = false
  half : c.holdsHalf h field = true

/-- The text of a configuration file in front of the value of the first field that holds a half. -/
def Cut.text (cut : Cut h c) : String :=
  let start (f : Field) := '\n' :: ' ' :: ' ' :: Json.quote f.key ++ [':', ' ']
  String.ofList ('\x7b' :: cut.above.flatMap (fun f => start f ++ Json.quote (c.get f) ++ [',']) ++
    start cut.field)

/-- Unless no field holds a half, there is a first one that does. -/
theorem plain_or_cut (h : Halves) (c : Config) :
    (∀ f, c.holdsHalf h f = false) ∨ Nonempty (Cut h c) := by
  cases hfirst : Field.all.find? (c.holdsHalf h) with
  | none =>
    refine .inl fun f => ?_
    simpa using List.find?_eq_none.1 hfirst f (Field.mem_all f)
  | some field =>
    obtain ⟨half, above, below, order, plain⟩ := List.find?_eq_some_iff_append.1 hfirst
    exact .inr ⟨⟨above, field, below, order, fun f hf => by simpa using plain f hf, half⟩⟩

theorem plain_key (h : Halves) (f : Field) : f.key.toList.any h.isHalf = false :=
  h.any_isHalf_of_ascii (by cases f <;> decide)

/-- Fields without halves are members without halves. -/
theorem plain_map {fields : List Field} (plain : ∀ f ∈ fields, c.holdsHalf h f = false) :
    Json.Plain h (fields.map fun f => (f.key, c.get f)) := by
  intro m hm
  obtain ⟨f, hf, rfl⟩ := List.mem_map.1 hm
  exact ⟨plain_key h f, plain f hf⟩

theorem Cut.toList_text (cut : Cut h c) :
    cut.text.toList =
      (Json.chunksBefore (cut.above.map fun f => (f.key, c.get f)) cut.field.key).flatten := by
  simp [text, Json.chunksBefore, Json.lineChunks, List.flatMap_def, List.flatten_flatten,
    Function.comp_def]

theorem Cut.entries_eq (cut : Cut h c) :
    c.entries = (cut.above.map fun f => (f.key, c.get f)) ++
      (cut.field.key, c.get cut.field) :: cut.below.map fun f => (f.key, c.get f) := by
  rw [entries, cut.order, List.map_append, List.map_cons]

/-- The text of the file goes on with the value that holds a half. -/
theorem Cut.fileText_eq (cut : Cut h c) :
    ∃ rest, c.fileText.toList = cut.text.toList ++ Json.quote (c.get cut.field) ++ rest := by
  obtain ⟨rest, hchunks⟩ := Json.objectChunks_append
    (cut.above.map fun f => (f.key, c.get f)) cut.field.key (c.get cut.field)
    (cut.below.map fun f => (f.key, c.get f))
  refine ⟨rest.flatten, ?_⟩
  rw [fileText, ← Json.flatten_objectChunks, cut.entries_eq, hchunks, cut.toList_text,
    List.flatten_append, List.flatten_cons, List.append_assoc]

theorem written_of_cut (cut : Cut h c) :
    ∃ fault, h.written (Json.objectChunks c.entries) = (cut.text.toList, some fault) := by
  rw [cut.entries_eq, cut.toList_text]
  exact Json.written_of_half (plain_map cut.plain) (plain_key h cut.field) cut.half _

/-- **What saving comes to.** The path cannot be opened, and nothing happens; or all values have
bytes, and the file is the text of the configuration; or a value holds a half, and the file is the
text in front of the first such value. -/
theorem save_cases (files : FileTree) (c : Config) (name : String) :
    (∃ r, (∀ bytes, files.write (.ofText name) bytes = .error r) ∧
      save files c name = (files, .error (saveFailure (.ofText name) (.refused r)))) ∨
    (∃ saved, (∀ f, c.holdsHalf files.halves f = false) ∧
      files.write (.ofText name) c.fileText.toUTF8 = .ok saved ∧
      save files c name = (saved, .ok ())) ∨
    ∃ (cut : Cut files.halves c) (left : FileTree) (fault : EncodeFault),
      files.write (.ofText name) cut.text.toUTF8 = .ok left ∧
      save files c name = (left, .error (.misuse (.unencodable fault))) := by
  obtain plain | ⟨⟨cut⟩⟩ := plain_or_cut files.halves c
  · have hwritten : files.halves.written (Json.objectChunks c.entries) =
        (c.fileText.toList, none) :=
      Json.written_of_plain (plain_map fun f _ => plain f)
    obtain ⟨r, hrefused, hchunks⟩ | ⟨saved, hwrite, hchunks⟩ :=
      FileTree.writeChunks_cases (.ofText name) hwritten
    · exact .inl ⟨r, hrefused, by rw [save, hchunks]; rfl⟩
    · rw [String.ofList_toList] at hwrite
      exact .inr (.inl ⟨saved, plain, hwrite, by rw [save, hchunks]; rfl⟩)
  · obtain ⟨fault, hwritten⟩ := written_of_cut cut
    obtain ⟨r, hrefused, hchunks⟩ | ⟨left, hwrite, hchunks⟩ :=
      FileTree.writeChunks_cases (.ofText name) hwritten
    · exact .inl ⟨r, hrefused, by rw [save, hchunks]; rfl⟩
    · rw [String.ofList_toList] at hwrite
      exact .inr (.inr ⟨cut, left, fault, hwrite, by rw [save, hchunks]; rfl⟩)

/-- A configuration that was saved is in its file as a whole. -/
theorem write_of_save {saved : FileTree} {name : String}
    (h : save files c name = (saved, .ok ())) :
    files.write (.ofText name) c.fileText.toUTF8 = .ok saved := by
  obtain ⟨r, -, hsave⟩ | ⟨left, -, hwrite, hsave⟩ | ⟨cut, left, fault, -, hsave⟩ :=
    save_cases files c name
  · rw [hsave] at h
    exact nomatch h
  · rw [hsave] at h
    obtain rfl : left = saved := congrArg Prod.fst h
    exact hwrite
  · rw [hsave] at h
    exact nomatch h

/-- A configuration without halves is saved wherever its text can be written. -/
theorem save_of_plain {saved : FileTree} {name : String}
    (plain : ∀ f, c.holdsHalf files.halves f = false)
    (h : files.write (.ofText name) c.fileText.toUTF8 = .ok saved) :
    save files c name = (saved, .ok ()) := by
  obtain ⟨r, hrefused, -⟩ | ⟨left, -, hwrite, hsave⟩ | ⟨cut, -⟩ := save_cases files c name
  · rw [hrefused] at h
    exact nomatch h
  · rw [hsave, Except.ok.inj (hwrite.symm.trans h)]
  · have half := cut.half
    rw [plain cut.field] at half
    exact nomatch half

end Config

end NativeProps
