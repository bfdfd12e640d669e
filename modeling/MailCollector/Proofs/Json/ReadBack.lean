import MailCollector.Json.Value
import Mathlib.Data.List.Forall2
import Mathlib.Tactic.Common
import Mathlib.Tactic.IntervalCases

/-!
# Strings read back from their JSON text

The text of a string is read as this string, whatever follows it (`readString_escaped`).  Each
character is written in one of three ways (`Written`).  A reader takes the text apart into units,
one for each character (`StandsFor`), and joins them again.  With this the text of an object of
strings is read as its members, in their order (`read_stringMembersText`).

Control characters are written by letter or by number, so none of them occurs in the text
(`isShown_of_mem_stringMembersText`).
-/

namespace MailCollector.Json

open MailCollector.Text

/-! ### Escaped characters -/

/-- A hexadecimal digit is read as the value that it was written for. -/
@[simp] lemma hexValue?_hexDigit (d : ℕ) : hexValue? (hexDigit d) = some (d % 16) := by
  have hd : d % 16 < 16 := Nat.mod_lt _ (by decide)
  rw [hexDigit]
  generalize d % 16 = r at hd ⊢
  interval_cases r <;> decide

lemma readHex4_paddedHex {n : ℕ} (hn : n < 0x10000) (rest : List Char) :
    readHex4 (paddedHex 4 n ++ rest) = some (n, rest) := by
  simp only [paddedHex, List.nil_append, List.cons_append, readHex4, hexValue?_hexDigit,
    Option.bind_eq_bind, Option.bind_some, Option.some.injEq, Prod.mk.injEq, and_true]
  omega

/-- A unit of a string that is the character itself, or its number if it is no surrogate. -/
inductive StandsFor : StringUnit → Char → Prop
  | char (c : Char) : StandsFor (.char c) c
  | code {c : Char} (h : c.toNat < 0xD800) : StandsFor (.code c.toNat) c

/-- A character after a backslash is read as what it stands for. -/
lemma readUnits_simpleEscape {letter e : Char} (hletter : letter ≠ 'u')
    (hescape : simpleEscape? letter = some e) (fuel : ℕ) (rest : List Char) :
    readUnits (fuel + 1) ('\\' :: letter :: rest) =
      (readUnits fuel rest).map fun read => (.char e :: read.1, read.2) := by
  rw [readUnits, hescape]
  · simp [Option.map_eq_bind]
  · exact fun h => absurd h hletter

/-- The characters that are not control characters. -/
abbrev IsShown (c : Char) : Prop := 0x20 ≤ c.toNat

/-- How a character is written: by a letter after a backslash, by its number, or as itself. -/
inductive Written (c : Char) : List Char → Prop
  | letter {letter : Char} (hletter : letter ≠ 'u') (hshown : IsShown letter)
      (hescape : simpleEscape? letter = some c) : Written c ['\\', letter]
  | number (hcontrol : c.toNat < 0x20) : Written c ('\\' :: 'u' :: paddedHex 4 c.toNat)
  | itself (hshown : IsShown c) (hquote : c ≠ '"') (hbackslash : c ≠ '\\') : Written c [c]

lemma written_escapeChar (c : Char) : Written c (escapeChar c) := by
  -- Seven characters have a letter of their own.
  by_cases hlettered : c ∈ ['"', '\\', '\x08', '\t', '\n', '\x0c', '\r']
  · simp only [List.mem_cons, List.not_mem_nil, or_false] at hlettered
    rcases hlettered with rfl | rfl | rfl | rfl | rfl | rfl | rfl <;>
      exact .letter (by decide) (by decide) rfl
  · simp only [List.mem_cons, List.not_mem_nil, or_false, not_or] at hlettered
    obtain ⟨hquote, hbackslash, hbell, htab, hfeed, hform, hreturn⟩ := hlettered
    rw [escapeChar, if_neg hquote, if_neg hbackslash, if_neg hbell, if_neg htab, if_neg hfeed,
      if_neg hform, if_neg hreturn]
    by_cases hcontrol : c.toNat < 0x20
    · rw [if_pos hcontrol]
      exact .number hcontrol
    · rw [if_neg hcontrol]
      exact .itself (not_lt.1 hcontrol) hquote hbackslash

/-- The written form of a character is read as a unit that stands for it. -/
lemma Written.readUnits_append {c : Char} {text : List Char} (h : Written c text) :
    ∃ unit, StandsFor unit c ∧ ∀ fuel rest, readUnits (fuel + 1) (text ++ rest) =
      (readUnits fuel rest).map fun read => (unit :: read.1, read.2) := by
  cases h with
  | letter hletter _ hescape =>
    exact ⟨.char c, .char c, readUnits_simpleEscape hletter hescape⟩
  | number hcontrol =>
    refine ⟨.code c.toNat, .code (by omega), fun fuel rest => ?_⟩
    rw [List.cons_append, List.cons_append, readUnits, readHex4_paddedHex (by omega)]
    simp [Option.map_eq_bind]
  | itself _ hquote hbackslash =>
    refine ⟨.char c, .char c, fun fuel rest => ?_⟩
    rw [List.singleton_append, readUnits.eq_def]
    split <;> simp_all [Option.map_eq_bind]

/-! ### Strings -/

/-- The written form of a string is read as units that stand for its characters. -/
lemma readUnits_escaped (cs : List Char) : ∃ units, List.Forall₂ StandsFor units cs ∧
    ∀ fuel rest, cs.length < fuel →
      readUnits fuel (cs.flatMap escapeChar ++ '"' :: rest) = some (units, rest) := by
  induction cs with
  | nil =>
    refine ⟨[], .nil, fun fuel rest hfuel => ?_⟩
    obtain ⟨fuel, rfl⟩ := Nat.exists_eq_add_one.2 hfuel
    rw [List.flatMap_nil, List.nil_append, readUnits]
  | cons c cs ih =>
    obtain ⟨unit, hunit, hread⟩ := (written_escapeChar c).readUnits_append
    obtain ⟨units, hunits, hreads⟩ := ih
    refine ⟨unit :: units, .cons hunit hunits, fun fuel rest hfuel => ?_⟩
    rw [List.length_cons] at hfuel
    obtain ⟨fuel, rfl⟩ := Nat.exists_eq_add_one.2 (Nat.zero_lt_of_lt hfuel)
    rw [List.flatMap_cons, List.append_assoc, hread, hreads fuel rest (by omega), Option.map_some]

/-- A unit that stands for a character needs no other unit beside it. -/
lemma joinUnits_cons {unit : StringUnit} {c : Char} (h : StandsFor unit c)
    (units : List StringUnit) :
    joinUnits (unit :: units) = (joinUnits units).map (c :: ·) := by
  cases h with
  | char => simp [joinUnits, Option.map_eq_bind]
  | code h =>
    -- The number is neither an upper nor a lower half of a pair.
    have hupper : ¬ (0xD800 ≤ c.toNat ∧ c.toNat < 0xDC00) := by omega
    have hlower : ¬ (0xDC00 ≤ c.toNat ∧ c.toNat < 0xE000) := by omega
    have hhalf : ¬ (0xD800 ≤ c.toNat ∧ c.toNat < 0xE000) := by omega
    rw [Option.map_eq_bind, joinUnits.eq_def (.code c.toNat :: units)]
    split
    next hunits => cases hunits
    next hunits => cases hunits
    next hunits =>
      cases hunits
      rw [if_neg hupper, if_neg hlower, Char.ofNat_toNat]
      rfl
    next hunits =>
      cases hunits
      rw [if_neg hhalf, Char.ofNat_toNat]
      rfl

/-- Units that stand for characters are joined to these characters. -/
lemma joinUnits_eq {units : List StringUnit} {cs : List Char}
    (h : List.Forall₂ StandsFor units cs) : joinUnits units = some cs := by
  induction h with
  | nil => rfl
  | cons hunit _ ih => rw [joinUnits_cons hunit, ih, Option.map_some]

/-- No character is written as nothing. -/
lemma Written.one_le_length {c : Char} {text : List Char} (h : Written c text) :
    1 ≤ text.length := by
  cases h <;> exact Nat.le_add_left 1 _

lemma length_le_length_escaped (cs : List Char) :
    cs.length ≤ (cs.flatMap escapeChar).length := by
  induction cs with
  | nil => exact Nat.zero_le _
  | cons c cs ih =>
    rw [List.flatMap_cons, List.length_append, List.length_cons]
    have := (written_escapeChar c).one_le_length
    omega

/-- A string is read back from its written form, whatever follows it. -/
lemma readString_escaped (s : String) (rest : List Char) :
    readString (s.toList.flatMap escapeChar ++ '"' :: rest) = some (some s, rest) := by
  obtain ⟨units, hunits, hread⟩ := readUnits_escaped s.toList
  have hlength := length_le_length_escaped s.toList
  have hfuel : s.toList.length <
      (s.toList.flatMap escapeChar ++ '"' :: rest).length + 1 := by
    rw [List.length_append]
    omega
  rw [readString, hread _ rest hfuel]
  simp [joinUnits_eq hunits]

/-- Nothing is skipped before a character that is not blank. -/
lemma skipBlanks_cons {c : Char} (hc : isJsonBlank c = false) (cs : List Char) :
    skipBlanks (c :: cs) = c :: cs := by
  rw [skipBlanks, List.dropWhile_cons_of_neg (by simp [hc])]

lemma readValue_stringText (fuel : ℕ) (s : String) (rest : List Char) :
    readValue (fuel + 1) (stringText s ++ rest) = (.string (some s), some rest) := by
  have htext : stringText s ++ rest = '"' :: (s.toList.flatMap escapeChar ++ '"' :: rest) := by
    simp [stringText]
  rw [htext]
  simp [readValue, skipBlanks_cons (show isJsonBlank '"' = false by decide), readString_escaped]

/-! ### Objects of strings -/

/-- The text of one member of an object of strings. -/
def memberText (m : String × String) : List Char :=
  stringText m.1 ++ ':' :: stringText m.2

/-- A member as it is read. -/
def memberRead (m : String × String) : Document × Document :=
  (.string (some m.1), .string (some m.2))

/-- Every text but the first has a comma before it. -/
lemma commaSeparated_cons (t : List Char) (ts : List (List Char)) :
    commaSeparated (t :: ts) = t ++ ts.flatMap (',' :: ·) := by
  induction ts generalizing t with
  | nil => rw [commaSeparated, List.flatMap_nil, List.append_nil]
  | cons u ts ih =>
    rw [commaSeparated, ih u, List.flatMap_cons, List.cons_append]
    exact fun h => List.cons_ne_nil _ _ h

/-- A member is read with the members after it. -/
lemma oneMember_memberText (fuel : ℕ) (m : String × String) (rest : List Char) :
    oneMember (fuel + 2) (memberText m ++ rest) =
      (memberRead m :: (readMembers (fuel + 1) false rest).1,
        (readMembers (fuel + 1) false rest).2) := by
  rw [memberText, List.append_assoc, List.cons_append, oneMember, readValue_stringText]
  simp [skipBlanks_cons (show isJsonBlank ':' = false by decide), readValue_stringText,
    memberRead]

/-- The text of a member begins with a quote, so no blank is skipped before it. -/
lemma skipBlanks_memberText (m : String × String) (rest : List Char) :
    skipBlanks (memberText m ++ rest) = memberText m ++ rest := by
  rw [memberText, stringText, List.cons_append, List.cons_append, skipBlanks_cons (by decide)]

/-- The members after the first one are read up to the closing brace. -/
lemma readMembers_rest (ms : List (String × String)) (rest : List Char) :
    ∀ fuel, 2 * ms.length < fuel →
      readMembers fuel false (ms.flatMap (',' :: memberText ·) ++ '\x7d' :: rest) =
        (ms.map memberRead, some rest) := by
  induction ms with
  | nil =>
    intro fuel hfuel
    obtain ⟨fuel, rfl⟩ := Nat.exists_eq_add_one.2 hfuel
    simp [readMembers, skipBlanks, isJsonBlank]
  | cons m ms ih =>
    intro fuel hfuel
    rw [List.length_cons] at hfuel
    obtain ⟨fuel, rfl⟩ := Nat.exists_eq_add_of_le' (show 3 ≤ fuel by omega)
    have hstep : ∀ text, readMembers (fuel + 3) false (',' :: memberText m ++ text) =
        oneMember (fuel + 2) (memberText m ++ text) := fun text => by
      simp [readMembers, skipBlanks_cons (show isJsonBlank ',' = false by decide),
        skipBlanks_memberText]
    rw [List.flatMap_cons, List.append_assoc, hstep, oneMember_memberText,
      ih (fuel + 1) (by omega), List.map_cons]

/-- The text of an object of strings without its first brace. -/
lemma stringMembersText_cons (m : String × String) (ms : List (String × String)) :
    stringMembersText (m :: ms) =
      '\x7b' :: (memberText m ++ (ms.flatMap (',' :: memberText ·) ++ ['\x7d'])) := by
  have hrest : (ms.map memberText).flatMap (',' :: ·) = ms.flatMap (',' :: memberText ·) :=
    List.flatMap_map _ _ _
  rw [stringMembersText, List.map_cons, commaSeparated_cons, List.append_assoc]
  exact congrArg (fun text => '\x7b' :: (memberText m ++ (text ++ ['\x7d']))) hrest

/-- Each of the members after the first one takes a character at least. -/
lemma length_le_length_rest (ms : List (String × String)) :
    ms.length ≤ (ms.flatMap (',' :: memberText ·)).length := by
  induction ms with
  | nil => exact Nat.zero_le _
  | cons m ms ih =>
    rw [List.flatMap_cons, List.length_append, List.length_cons, List.length_cons]
    omega

/-- The text of an object is read as its first member and those that follow. -/
lemma readValue_object (fuel : ℕ) (m : String × String) (rest : List Char) :
    readValue (fuel + 4) ('\x7b' :: (memberText m ++ rest)) =
      (.object (memberRead m :: (readMembers (fuel + 1) false rest).1),
        (readMembers (fuel + 1) false rest).2) := by
  have hfirst : readMembers (fuel + 3) true (memberText m ++ rest) =
      oneMember (fuel + 2) (memberText m ++ rest) := by
    rw [memberText, stringText, List.cons_append, List.cons_append]
    simp [readMembers, skipBlanks_cons (show isJsonBlank '"' = false by decide)]
  simp [readValue, skipBlanks_cons (show isJsonBlank '\x7b' = false by decide), hfirst,
    oneMember_memberText]

/-- An object of strings is read as its members, in their order. -/
theorem read_stringMembersText (ms : List (String × String)) :
    Document.read (stringMembersText ms) = (.object (ms.map memberRead), some []) := by
  cases ms with
  | nil => rfl
  | cons m ms =>
    -- The fuel is three for each character, and a member takes two.
    have hlength : ms.length + 1 ≤ (stringMembersText (m :: ms)).length := by
      have := length_le_length_rest ms
      rw [stringMembersText_cons, List.length_cons, List.length_append, List.length_append]
      omega
    obtain ⟨fuel, hfuel⟩ := Nat.exists_eq_add_of_le'
      (show 4 ≤ 3 * (stringMembersText (m :: ms)).length + 3 by omega)
    rw [Document.read, hfuel, stringMembersText_cons, readValue_object,
      readMembers_rest ms [] (fuel + 1) (by omega), List.map_cons]

/-! ### Decoding -/

/-- A text that is read to its end is decoded as what it was read as. -/
lemma text_eq_of_read {α : Type} (decode : Decoder α) {s : String} {d : Document}
    (h : Document.read s.toList = (d, some [])) : Decode.text decode s = decode d := by
  rw [Decode.text, h]
  dsimp only
  cases decode d <;> rfl

/-- Members with strings as values are decoded in their order. -/
lemma members_memberRead (ms : List (String × String)) :
    Decode.members Decode.string (.object (ms.map memberRead)) = .ok ms := by
  rw [Decode.members]
  induction ms with
  | nil => rfl
  | cons m ms ih =>
    rw [List.map_cons, List.mapM_cons, ih]
    rfl

/-! ### No control characters -/

lemma isShown_hexDigit (d : ℕ) : IsShown (hexDigit d) := by
  have hd : d % 16 < 16 := Nat.mod_lt _ (by decide)
  rw [hexDigit]
  generalize d % 16 = r at hd ⊢
  interval_cases r <;> decide

lemma Written.isShown_of_mem {c : Char} {text : List Char} (h : Written c text) {d : Char}
    (hd : d ∈ text) : IsShown d := by
  cases h with
  | letter _ hshown _ =>
    rcases List.mem_pair.1 hd with rfl | rfl
    · decide
    · exact hshown
  | number _ =>
    simp only [paddedHex, List.nil_append, List.cons_append, List.mem_cons, List.not_mem_nil,
      or_false] at hd
    rcases hd with rfl | rfl | rfl | rfl | rfl | rfl
    · decide
    · decide
    all_goals exact isShown_hexDigit _
  | itself hshown _ _ =>
    rw [List.mem_singleton.1 hd]
    exact hshown

lemma isShown_of_mem_stringText {s : String} {c : Char} (h : c ∈ stringText s) : IsShown c := by
  rw [stringText, List.mem_cons, List.mem_append, List.mem_singleton] at h
  rcases h with rfl | h | rfl
  · decide
  · obtain ⟨d, -, hd⟩ := List.mem_flatMap.1 h
    exact (written_escapeChar _).isShown_of_mem hd
  · decide

lemma isShown_of_mem_memberText {m : String × String} {c : Char} (h : c ∈ memberText m) :
    IsShown c := by
  rw [memberText, List.mem_append, List.mem_cons] at h
  rcases h with h | rfl | h
  · exact isShown_of_mem_stringText h
  · decide
  · exact isShown_of_mem_stringText h

/-- The text of an object of strings has no control character. -/
theorem isShown_of_mem_stringMembersText {ms : List (String × String)} {c : Char}
    (h : c ∈ stringMembersText ms) : IsShown c := by
  cases ms with
  | nil =>
    rcases List.mem_pair.1 h with rfl | rfl <;> decide
  | cons m ms =>
    rw [stringMembersText_cons, List.mem_cons, List.mem_append, List.mem_append,
      List.mem_singleton, List.mem_flatMap] at h
    rcases h with rfl | h | ⟨n, -, h⟩ | rfl
    · decide
    · exact isShown_of_mem_memberText h
    · rcases List.mem_cons.1 h with rfl | h
      · decide
      · exact isShown_of_mem_memberText h
    · decide

end MailCollector.Json
