import NativeProps.Json.Reader
import NativeProps.Json.Writer
import Mathlib.Tactic.SplitIfs

/-!
# Written objects read back

An object of strings that is written is read back as it was: every character of a string survives
its escape, and the members are found again in their order.

* `escape_shape`: the three forms that an escape can have.
* `stringBody_flatMap_escape`: the reader of strings undoes the escapes one character at a time.
* `members_writeMembers`: members with distinct keys are read back one line at a time.
* `read_writeObject`: a whole object.
* `not_mem_writeObject`: no carriage return is written, so a reader that unifies line ends leaves
  the text alone.
-/

namespace NativeProps.Json

variable {halves : Halves}

/-! ### Characters -/

/-- The four digits of a code unit below thirty-two. -/
theorem hex_four_of_lt : ∀ n < 32,
    Text.hex 4 n = ['0', '0', Nat.digitChar (n / 16), Nat.digitChar (n % 16)] := by
  decide

theorem codeUnit?_of_lt : ∀ n < 32,
    codeUnit? '0' '0' (Nat.digitChar (n / 16)) (Nat.digitChar (n % 16)) = some n := by
  decide

/-- A code unit below thirty-two is no half of a pair. -/
theorem isHigh_of_lt {n : Nat} (hn : n < 32) : isHigh n = false := by
  simp only [isHigh, Bool.and_eq_false_iff, decide_eq_false_iff_not]
  omega

theorem unitChar_toNat {c : Char} (hc : c.toNat < 32) : unitChar halves c.toNat = c := by
  have hlow : isLow c.toNat = false := by
    simp only [isLow, Bool.and_eq_false_iff, decide_eq_false_iff_not]
    omega
  rw [unitChar, isHigh_of_lt hc, hlow]
  exact Char.ofNat_toNat c

theorem toNat_lt_of_lt_space {c : Char} (hc : c < ' ') : c.toNat < 32 := hc

/-- An escape is a backslash and a letter, a code unit below thirty-two, or the character itself. -/
theorem escape_shape (c : Char) :
    (∃ letter, letter ≠ 'u' ∧ letterEscape? letter = some c ∧ escape c = ['\\', letter]) ∨
    (c.toNat < 32 ∧ escape c = '\\' :: 'u' :: Text.hex 4 c.toNat) ∨
    (c ≠ '"' ∧ c ≠ '\\' ∧ ¬c < ' ' ∧ escape c = [c]) := by
  unfold escape
  split_ifs with hquote hslash hfeed hreturn htab hform hback hcontrol
  · exact .inl ⟨'"', by decide, by rw [hquote]; rfl, rfl⟩
  · exact .inl ⟨'\\', by decide, by rw [hslash]; rfl, rfl⟩
  · exact .inl ⟨'n', by decide, by rw [hfeed]; rfl, rfl⟩
  · exact .inl ⟨'r', by decide, by rw [hreturn]; rfl, rfl⟩
  · exact .inl ⟨'t', by decide, by rw [htab]; rfl, rfl⟩
  · exact .inl ⟨'f', by decide, by rw [hform]; rfl, rfl⟩
  · exact .inl ⟨'b', by decide, by rw [hback]; rfl, rfl⟩
  · exact .inr (.inl ⟨toNat_lt_of_lt_space hcontrol, rfl⟩)
  · exact .inr (.inr ⟨hquote, hslash, hcontrol, rfl⟩)

/-! ### Strings -/

section Steps

variable (start : List Char) (high : Option Nat) (done rest : List Char)

theorem stringBody_close :
    stringBody halves start high done ('"' :: rest) = .ok (String.ofList done.reverse, rest) := by
  rw [stringBody]

theorem stringBody_letter {letter c : Char} (hu : letter ≠ 'u')
    (hletter : letterEscape? letter = some c) :
    stringBody halves start high done ('\\' :: letter :: rest) =
      stringBody halves start none (c :: done) rest := by
  rw [stringBody, hletter]
  · intro _ _ _ _ _ h
    exact absurd h hu
  · exact hu

/-- An escaped code unit below thirty-two is a character of its own. Text has to follow, as it does
inside a string. -/
theorem stringBody_unit {c : Char} (hc : c.toNat < 32) (hrest : rest ≠ []) :
    stringBody halves start none done ('\\' :: 'u' :: (Text.hex 4 c.toNat ++ rest)) =
      stringBody halves start none (c :: done) rest := by
  have hempty : rest.isEmpty = false := by simpa using hrest
  rw [hex_four_of_lt c.toNat hc]
  show stringBody halves start none done ('\\' :: 'u' :: '0' :: '0' :: _ :: _ :: rest) = _
  rw [stringBody, codeUnit?_of_lt c.toNat hc, hempty]
  show stringBody halves start (if isHigh c.toNat = true then some c.toNat else none)
    (unitChar halves c.toNat :: done) rest = _
  rw [isHigh_of_lt hc, unitChar_toNat hc]
  rfl

theorem stringBody_plain {c : Char} (hquote : c ≠ '"') (hslash : c ≠ '\\') (hcontrol : ¬c < ' ') :
    stringBody halves start high done (c :: rest) =
      stringBody halves start none (c :: done) rest := by
  rw [stringBody, if_neg hcontrol] <;> intros <;> contradiction

end Steps

/-- Inside a string the escape of a character is read as that character. -/
theorem stringBody_escape (start done : List Char) (c : Char) {rest : List Char}
    (hrest : rest ≠ []) :
    stringBody halves start none done (escape c ++ rest) =
      stringBody halves start none (c :: done) rest := by
  obtain ⟨letter, hu, hletter, hc⟩ | ⟨hlt, hc⟩ | ⟨hquote, hslash, hcontrol, hc⟩ := escape_shape c
  · rw [hc]
    exact stringBody_letter start none done rest hu hletter
  · rw [hc]
    exact stringBody_unit start done rest hlt hrest
  · rw [hc]
    exact stringBody_plain start none done rest hquote hslash hcontrol

/-- The written characters of a string up to its closing quote. -/
theorem stringBody_flatMap_escape (start done s rest : List Char) :
    stringBody halves start none done (s.flatMap escape ++ '"' :: rest) =
      .ok (String.ofList (done.reverse ++ s), rest) := by
  induction s generalizing done with
  | nil =>
    rw [List.append_nil]
    exact stringBody_close start none done rest
  | cons c s ih =>
    -- the closing quote is still ahead, so text follows the escape of `c`
    have hahead : s.flatMap escape ++ '"' :: rest ≠ [] := by simp
    rw [List.flatMap_cons, List.append_assoc, stringBody_escape start done c hahead, ih,
      List.reverse_cons, List.append_assoc]
    rfl

/-- A written string with the text behind it, as the reader meets it. -/
theorem quote_append (s : String) (rest : List Char) :
    quote s ++ rest = '"' :: (s.toList.flatMap escape ++ '"' :: rest) := by
  simp [quote]

theorem stringBody_quote (start : List Char) (s : String) (rest : List Char) :
    stringBody halves start none [] (s.toList.flatMap escape ++ '"' :: rest) = .ok (s, rest) := by
  rw [stringBody_flatMap_escape]
  simp

theorem value_quote (fuel : Nat) (s : String) (rest : List Char) :
    value halves (fuel + 1) (quote s ++ rest) = .ok (.string s, rest) := by
  rw [quote_append, value, stringBody_quote]
  rfl

/-! ### Members -/

theorem put_of_new {key : String} (v : Value) {found : Members} (h : key ∉ found.map Prod.fst) :
    put key v found = found ++ [(key, v)] := by
  induction found with
  | nil => rfl
  | cons m rest ih =>
    obtain ⟨k, old⟩ := m
    rw [List.map_cons, List.mem_cons, not_or] at h
    rw [put, if_neg (fun hk => h.1 hk.symm), ih h.2]
    rfl

/-- The members that strings under keys are read as. -/
def stringMembers (entries : List (String × String)) : Members :=
  entries.map fun e => (e.1, .string e.2)

theorem members_quote (fuel : Nat) (found : Members) (key v : String) (rest : List Char) :
    members halves (fuel + 2) found (quote key ++ ':' :: ' ' :: (quote v ++ rest)) =
      match skip rest with
      | ',' :: rest => members halves (fuel + 1) (put key (.string v) found) (skip rest)
      | '\x7d' :: rest => .ok (put key (.string v) found, rest)
      | rest => stop .expectedComma rest := by
  rw [quote_append, members, stringBody_quote]
  show (value halves (fuel + 1) (skip (' ' :: (quote v ++ rest))) >>= _) = _
  rw [show skip (' ' :: (quote v ++ rest)) = quote v ++ rest from rfl, value_quote]
  rfl

/-- The front of written members: the gap before the first key is skipped. -/
theorem skip_writeMembers (key v : String) (entries : List (String × String)) (rest : List Char) :
    skip (writeMembers ((key, v) :: entries) ++ rest) =
      quote key ++ ':' :: ' ' :: (quote v ++
        ((if entries.isEmpty then ['\n'] else ',' :: writeMembers entries) ++ rest)) := by
  rw [writeMembers]
  simp only [List.cons_append, List.append_assoc]
  rfl

variable (halves) in
/-- Written members with distinct keys are read back in their order, after the members found. -/
theorem members_writeMembers (entries : List (String × String)) (rest : List Char) :
    ∀ (fuel : Nat) (found : Members), entries ≠ [] → entries.length < fuel →
      (found.map Prod.fst ++ entries.map Prod.fst).Nodup →
      members halves fuel found (skip (writeMembers entries ++ '\x7d' :: rest)) =
        .ok (found ++ stringMembers entries, rest) := by
  induction entries with
  | nil =>
    intro _ _ hne
    exact absurd rfl hne
  | cons e entries ih =>
    intro fuel found _ hfuel hkeys
    obtain ⟨key, v⟩ := e
    obtain ⟨fuel, rfl⟩ : ∃ n, fuel = n + 2 := by
      rw [List.length_cons] at hfuel
      exact ⟨fuel - 2, by omega⟩
    have hnew : key ∉ found.map Prod.fst := by
      intro hmem
      rw [List.map_cons, List.nodup_append] at hkeys
      exact hkeys.2.2 key hmem key (List.mem_cons_self ..) rfl
    have hput : put key (.string v) found = found ++ [(key, .string v)] := put_of_new _ hnew
    rw [skip_writeMembers, members_quote, hput]
    cases entries with
    | nil => rfl
    | cons next entries =>
      show members halves (fuel + 1) (found ++ [(key, .string v)])
        (skip (writeMembers (next :: entries) ++ '\x7d' :: rest)) = _
      rw [ih (fuel + 1) (found ++ [(key, Value.string v)]) (List.cons_ne_nil next entries)]
      · rw [List.append_assoc]
        rfl
      · rw [List.length_cons] at hfuel
        omega
      · rw [List.map_append, List.append_assoc]
        exact hkeys

/-! ### Objects -/

theorem length_writeMembers (entries : List (String × String)) :
    entries.length ≤ (writeMembers entries).length := by
  induction entries with
  | nil => exact Nat.zero_le _
  | cons e entries ih =>
    obtain ⟨key, v⟩ := e
    rw [writeMembers]
    simp only [List.cons_append, List.length_cons, List.length_append]
    cases entries with
    | nil => exact Nat.succ_le_succ (Nat.zero_le _)
    | cons next entries =>
      have htail : ((if (next :: entries).isEmpty then ['\n']
          else ',' :: writeMembers (next :: entries)) : List Char).length =
          (writeMembers (next :: entries)).length + 1 := rfl
      rw [htail]
      rw [List.length_cons] at ih ⊢
      omega

theorem toList_writeObject (entries : List (String × String)) :
    (writeObject entries).toList = '\x7b' :: (writeMembers entries ++ ['\x7d']) := by
  rw [writeObject, String.toList_ofList]
  rfl

variable (halves) in
theorem value_writeMembers {entries : List (String × String)} {fuel : Nat} (rest : List Char)
    (hne : entries ≠ []) (hkeys : (entries.map Prod.fst).Nodup) (hfuel : entries.length < fuel) :
    value halves (fuel + 1) ('\x7b' :: (writeMembers entries ++ '\x7d' :: rest)) =
      .ok (.object (stringMembers entries), rest) := by
  have hmembers := members_writeMembers halves entries rest fuel [] hne hfuel hkeys
  obtain ⟨⟨key, v⟩, tail, rfl⟩ := List.exists_cons_of_ne_nil hne
  -- the first key is in front, so the object is not taken for the empty one
  have hskip := skip_writeMembers key v tail ('\x7d' :: rest)
  rw [quote_append] at hskip
  rw [value]
  rw [hskip] at hmembers ⊢
  show (members halves fuel [] _ >>= _) = _
  rw [hmembers]
  rfl

/-- The characters of a written object are read as the object. -/
theorem document_writeObject {entries : List (String × String)} (hne : entries ≠ [])
    (hkeys : (entries.map Prod.fst).Nodup) :
    document halves (writeObject entries).toList = .ok (.object (stringMembers entries)) := by
  have hlength := length_writeMembers entries
  have hfuel : entries.length < 2 * (writeObject entries).toList.length + 1 := by
    rw [toList_writeObject, List.length_cons, List.length_append]
    omega
  have hvalue := value_writeMembers halves [] hne hkeys hfuel
  rw [toList_writeObject] at hvalue ⊢
  show (value halves _ ('\x7b' :: (writeMembers entries ++ ['\x7d'])) >>= _) = _
  rw [hvalue]
  rfl

theorem read_writeObject {entries : List (String × String)} (hne : entries ≠ [])
    (hkeys : (entries.map Prod.fst).Nodup) :
    read halves (writeObject entries) = .ok (.object (stringMembers entries)) := by
  rw [read]
  simp only [document_writeObject hne hkeys]

/-! ### Line ends -/

theorem not_mem_hex_four {n : Nat} (hn : n < 32) : '\r' ∉ Text.hex 4 n := by
  have hall : ∀ n < 32, '\r' ∉ Text.hex 4 n := by decide
  exact hall n hn

theorem not_mem_escape (c : Char) : '\r' ∉ escape c := by
  obtain ⟨letter, -, hletter, hc⟩ | ⟨hlt, hc⟩ | ⟨-, -, hcontrol, hc⟩ := escape_shape c
  · rw [hc]
    intro hmem
    have hr : letter = '\r' := by simpa [eq_comm] using hmem
    subst hr
    exact nomatch hletter
  · rw [hc]
    have := not_mem_hex_four hlt
    simpa using this
  · rw [hc]
    intro hmem
    rw [List.mem_singleton] at hmem
    subst hmem
    exact hcontrol (by decide)

theorem not_mem_quote (s : String) : '\r' ∉ quote s := by
  simp [quote, not_mem_escape]

theorem not_mem_writeMembers (entries : List (String × String)) :
    '\r' ∉ writeMembers entries := by
  induction entries with
  | nil => exact List.not_mem_nil
  | cons e entries ih =>
    obtain ⟨key, v⟩ := e
    have hkey := not_mem_quote key
    have hv := not_mem_quote v
    rw [writeMembers]
    cases entries with
    | nil => simp [hkey, hv]
    | cons next entries => simp [hkey, hv, ih]

/-- A written object holds no carriage return: its line ends are line feeds, and the carriage
returns of its strings are escaped. -/
theorem not_mem_writeObject (entries : List (String × String)) :
    '\r' ∉ (writeObject entries).toList := by
  have hmembers := not_mem_writeMembers entries
  rw [toList_writeObject]
  simp [hmembers]

end NativeProps.Json
