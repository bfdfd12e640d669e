import MailCollector.Text.Utf8
import Mathlib.Data.List.Basic
import Mathlib.Tactic.Common

/-!
# Texts read back from their bytes

The bytes of a character are read as this character, whatever follows them (`read_encodeChar`), so a
text is read back from its bytes (`decode?_encode`).  A byte of the ASCII range stands for itself
only: no other character has it among its bytes (`eq_of_mem_encodeChar`).  A text can therefore be
cut into lines before it is read.  The bytes are the ones that a string is kept as (`encode_toList`).
-/

namespace MailCollector.Text.Utf8

/-! ### One character -/

lemma toNat_toUInt8 {n : ℕ} (hn : n < 256) : n.toUInt8.toNat = n := by
  rw [Nat.toUInt8, UInt8.toNat_ofNat']
  exact Nat.mod_eq_of_lt hn

/-- The numbers of characters leave out the surrogates. -/
lemma number_bounds (c : Char) : c.toNat < 0x110000 ∧ (c.toNat < 0xD800 ∨ 0xDFFF < c.toNat) := by
  have hvalid : c.toNat < 0xD800 ∨ 0xDFFF < c.toNat ∧ c.toNat < 0x110000 := c.valid
  omega

/-- A byte between its bounds is read, and puts six more bits to the number. -/
lemma follow_cons {following bits low high n : ℕ} {bs : List UInt8} (hn : n < 256)
    (hlow : low ≤ n) (hhigh : n ≤ high) :
    follow (following + 1) bits low high (n.toUInt8 :: bs) =
      follow following (bits * 0x40 + n % 0x40) 0x80 0xBF bs := by
  rw [follow, toNat_toUInt8 hn, if_pos ⟨hlow, hhigh⟩]

/-- The first byte and those that follow it give a character. -/
lemma readChar_eq {n : ℕ} {l : Lead} {c : Char} {bs rest : List UInt8}
    (hlead : lead? n.toUInt8 = some l)
    (hfollow : follow l.following l.bits l.low l.high bs = (some c.toNat, rest)) :
    readChar n.toUInt8 bs = (some c, rest) := by
  rw [readChar, hlead]
  dsimp only
  rw [hfollow, Option.map_some, Char.ofNat_toNat]

/-- The first of two bytes. -/
lemma lead?_two {n : ℕ} (hlow : 0xC2 ≤ n) (hhigh : n < 0xE0) :
    lead? n.toUInt8 = some { bits := n - 0xC0, following := 1 } := by
  have hbyte : n.toUInt8.toNat = n := toNat_toUInt8 (by omega)
  simp only [lead?, hbyte]
  rw [if_neg (by omega), if_neg (by omega), if_pos (by omega)]

/-- The first of three bytes. -/
lemma lead?_three {n : ℕ} (hlow : 0xE0 ≤ n) (hhigh : n < 0xF0) :
    lead? n.toUInt8 = some
      { bits := n - 0xE0
        following := 2
        low := if n = 0xE0 then 0xA0 else 0x80
        high := if n = 0xED then 0x9F else 0xBF } := by
  have hbyte : n.toUInt8.toNat = n := toNat_toUInt8 (by omega)
  simp only [lead?, hbyte]
  rw [if_neg (by omega), if_neg (by omega), if_neg (by omega), if_pos (by omega)]

/-- The first of four bytes. -/
lemma lead?_four {n : ℕ} (hlow : 0xF0 ≤ n) (hhigh : n < 0xF5) :
    lead? n.toUInt8 = some
      { bits := n - 0xF0
        following := 3
        low := if n = 0xF0 then 0x90 else 0x80
        high := if n = 0xF4 then 0x8F else 0xBF } := by
  have hbyte : n.toUInt8.toNat = n := toNat_toUInt8 (by omega)
  simp only [lead?, hbyte]
  rw [if_neg (by omega), if_neg (by omega), if_neg (by omega), if_neg (by omega),
    if_pos (by omega)]

/-- The bytes of a character are read as this character, whatever follows them. -/
lemma readChar_encodeChar (c : Char) (rest : List UInt8) :
    ∃ b bs, encodeChar c = b :: bs ∧ readChar b (bs ++ rest) = (some c, rest) := by
  obtain ⟨hmax, hsurrogate⟩ := number_bounds c
  have hbits : ∀ {n m : ℕ} (bs : List UInt8), n = m → (some n, bs) = (some m, bs) := by
    rintro n m bs rfl
    rfl
  unfold encodeChar
  dsimp only
  split_ifs with hone htwo hthree
  · refine ⟨_, [], rfl, readChar_eq (l := { bits := c.toNat, following := 0 }) ?_ rfl⟩
    rw [lead?, toNat_toUInt8 (by omega)]
    exact if_pos hone
  · refine ⟨_, _, rfl, readChar_eq (lead?_two (by omega) (by omega)) ?_⟩
    simp only [List.cons_append, List.nil_append]
    rw [follow_cons (by omega) (by omega) (by omega), follow]
    exact hbits rest (by omega)
  · -- The bounds on the second byte leave out shorter forms and surrogates.
    refine ⟨_, _, rfl, readChar_eq (lead?_three (by omega) (by omega)) ?_⟩
    have hlow : (if 0xE0 + c.toNat / 0x1000 = 0xE0 then 0xA0 else 0x80) ≤
        0x80 + c.toNat / 0x40 % 0x40 := by split_ifs <;> omega
    have hhigh : 0x80 + c.toNat / 0x40 % 0x40 ≤
        if 0xE0 + c.toNat / 0x1000 = 0xED then 0x9F else 0xBF := by split_ifs <;> omega
    simp only [List.cons_append, List.nil_append]
    rw [follow_cons (by omega) hlow hhigh, follow_cons (by omega) (by omega) (by omega), follow]
    exact hbits rest (by omega)
  · refine ⟨_, _, rfl, readChar_eq (lead?_four (by omega) (by omega)) ?_⟩
    have hlow : (if 0xF0 + c.toNat / 0x40000 = 0xF0 then 0x90 else 0x80) ≤
        0x80 + c.toNat / 0x1000 % 0x40 := by split_ifs <;> omega
    have hhigh : 0x80 + c.toNat / 0x1000 % 0x40 ≤
        if 0xF0 + c.toNat / 0x40000 = 0xF4 then 0x8F else 0xBF := by split_ifs <;> omega
    simp only [List.cons_append, List.nil_append]
    rw [follow_cons (by omega) hlow hhigh, follow_cons (by omega) (by omega) (by omega),
      follow_cons (by omega) (by omega) (by omega), follow]
    exact hbits rest (by omega)

/-- A byte of the ASCII range is the only byte of its character. -/
lemma eq_of_mem_encodeChar {c : Char} {b : UInt8} (hb : b.toNat < 0x80) (h : b ∈ encodeChar c) :
    c.toNat = b.toNat := by
  obtain ⟨hmax, -⟩ := number_bounds c
  -- Every byte of a longer form has its highest bit set.
  have hlong : ∀ n : ℕ, 0x80 ≤ n → n < 256 → b ≠ n.toUInt8 := by
    intro n hlow hhigh heq
    rw [heq, toNat_toUInt8 hhigh] at hb
    omega
  unfold encodeChar at h
  dsimp only at h
  split_ifs at h with hone htwo hthree
  · rw [List.mem_singleton.1 h, toNat_toUInt8 (by omega)]
  · simp only [List.mem_cons, List.not_mem_nil, or_false] at h
    rcases h with h | h
    · exact absurd h (hlong _ (by omega) (by omega))
    · exact absurd h (hlong _ (by omega) (by omega))
  · simp only [List.mem_cons, List.not_mem_nil, or_false] at h
    rcases h with h | h | h
    · exact absurd h (hlong _ (by omega) (by omega))
    · exact absurd h (hlong _ (by omega) (by omega))
    · exact absurd h (hlong _ (by omega) (by omega))
  · simp only [List.mem_cons, List.not_mem_nil, or_false] at h
    rcases h with h | h | h | h
    · exact absurd h (hlong _ (by omega) (by omega))
    · exact absurd h (hlong _ (by omega) (by omega))
    · exact absurd h (hlong _ (by omega) (by omega))
    · exact absurd h (hlong _ (by omega) (by omega))

/-! ### Whole texts -/

/-- Reading goes through the bytes of a character. -/
lemma read_encodeChar (c : Char) (rest : List UInt8) :
    read (encodeChar c ++ rest) = some c :: read rest := by
  obtain ⟨b, bs, hencode, hread⟩ := readChar_encodeChar c rest
  rw [hencode, List.cons_append, read, hread]

lemma read_encode (cs : List Char) : read (encode cs) = cs.map some := by
  induction cs with
  | nil => rw [encode, List.flatMap_nil, read, List.map_nil]
  | cons c cs ih =>
    rw [encode, List.flatMap_cons, read_encodeChar, List.map_cons]
    exact congrArg (some c :: ·) ih

/-- A text is read back from its bytes. -/
theorem decode?_encode (cs : List Char) : decode? (encode cs) = some cs := by
  have hall : (cs.map some).mapM id = some cs := by
    induction cs with
    | nil => rfl
    | cons c cs ih =>
      rw [List.map_cons, List.mapM_cons, ih]
      rfl
  rw [decode?, read_encode, hall]

/-- A byte of the ASCII range is among the bytes of a text only if its character is in the text. -/
lemma exists_of_mem_encode {cs : List Char} {b : UInt8} (hb : b.toNat < 0x80)
    (h : b ∈ encode cs) : ∃ c ∈ cs, c.toNat = b.toNat := by
  obtain ⟨c, hc, hmem⟩ := List.mem_flatMap.1 h
  exact ⟨c, hc, eq_of_mem_encodeChar hb hmem⟩

/-! ### The bytes of a string -/

/-- The bytes of a character are those that it has in a string. -/
lemma encodeChar_eq (c : Char) : encodeChar c = String.utf8EncodeChar c := by
  obtain ⟨hbound, -⟩ := number_bounds c
  have hvalue : c.val.toNat = c.toNat := rfl
  have hlast : 0x80 + c.toNat % 0x40 = c.toNat % 64 + 128 := Nat.add_comm ..
  have hnext : 0x80 + c.toNat / 0x40 % 0x40 = c.toNat / 64 % 64 + 128 := Nat.add_comm ..
  have hthird : 0x80 + c.toNat / 0x1000 % 0x40 = c.toNat / 4096 % 64 + 128 := Nat.add_comm ..
  simp only [encodeChar, String.utf8EncodeChar, hvalue]
  split_ifs
  any_goals omega
  · rfl
  · have hlead : 0xC0 + c.toNat / 0x40 = c.toNat / 64 % 32 + 192 := by omega
    rw [hlead, hlast]
  · have hlead : 0xE0 + c.toNat / 0x1000 = c.toNat / 4096 % 16 + 224 := by omega
    rw [hlead, hnext, hlast]
  · have hlead : 0xF0 + c.toNat / 0x40000 = c.toNat / 262144 % 8 + 240 := by omega
    rw [hlead, hthird, hnext, hlast]

/-- The bytes of the characters of a string are the bytes that it is kept as. -/
theorem encode_toList (s : String) : encode s.toList = s.toUTF8.data.toList := by
  obtain ⟨cs, rfl⟩ : ∃ cs, s = String.ofList cs := ⟨s.toList, String.ofList_toList.symm⟩
  rw [String.toList_ofList, encode, funext encodeChar_eq]
  simp [String.toUTF8, String.toByteArray_ofList, List.utf8Encode]

end MailCollector.Text.Utf8
