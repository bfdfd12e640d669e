import MailCollector.Mail.Stored
import MailCollector.Proofs.Json.ReadBack
import MailCollector.Proofs.Mail.Headers
import MailCollector.Proofs.Text.ReadBack
import MailCollector.Sink.Lines
import Mathlib.Data.List.Basic
import Mathlib.Tactic.Common

/-!
# Stored lines

Records are stored as lines of JSON in a writer that may run full.  What the writer has accepted
then is the beginning of all lines, cut off at its limit, and the records stored are those whose
lines are whole (`storeAll_withRoom`).

No line feed occurs inside a line, so the whole lines are told apart again (`terminated_linesOf`),
and each of them is decoded as its record (`decodeLine?_encode`).  A writer that ran full in the
middle of a line therefore still gives back every record that counts as stored
(`stored_reads_back`).
-/

namespace MailCollector.Sink

open MailCollector.Mail MailCollector.Text

/-! ### One line -/

lemma not_mem_encode_recordText (r : Record) : lineFeed ∉ Utf8.encode (recordText r) := by
  intro h
  obtain ⟨c, hc, hnumber⟩ := Utf8.exists_of_mem_encode (by decide) h
  have hshown : 0x20 ≤ c.toNat := Json.isShown_of_mem_stringMembersText hc
  rw [hnumber] at hshown
  exact absurd hshown (by decide)

/-- Reads a line, without its line feed, as a record. -/
def decodeLine? (line : List UInt8) : Option Record :=
  match Utf8.decode? line with
  | none => none
  | some cs => (Json.Decode.text Record.decode (String.ofList cs)).toOption

/-- The line of a record is decoded as this record. -/
lemma decodeLine?_encode (r : Record) : decodeLine? (Utf8.encode (recordText r)) = some r := by
  have hread : Json.Document.read (String.ofList (recordText r)).toList =
      (.object (r.headers.map Json.memberRead), some []) := by
    rw [String.toList_ofList]
    exact Json.read_stringMembersText r.headers
  rw [decodeLine?, Utf8.decode?_encode]
  dsimp only
  rw [Json.text_eq_of_read Record.decode hread, Record.decode, Json.members_memberRead]
  exact congrArg some (Record.foldl_insert_headers r)

/-! ### Many lines -/

/-- The lines of records, one after another. -/
def linesOf (rs : List Record) : List UInt8 := rs.flatMap lineOf

@[simp] lemma linesOf_nil : linesOf [] = [] := rfl

@[simp] lemma linesOf_cons (r : Record) (rs : List Record) :
    linesOf (r :: rs) = lineOf r ++ linesOf rs := List.flatMap_cons

/-- The pieces of a byte sequence that are ended by a line feed. -/
def terminated (bytes : List UInt8) : List (List UInt8) :=
  (bytes.splitOn lineFeed).dropLast

/-- The whole lines are told apart, and what follows the last line feed is left out. -/
lemma terminated_linesOf (rs : List Record) {rest : List UInt8} (hrest : lineFeed ∉ rest) :
    terminated (linesOf rs ++ rest) = rs.map fun r => Utf8.encode (recordText r) := by
  induction rs with
  | nil =>
    rw [terminated, linesOf_nil, List.nil_append, List.splitOn_eq_singleton hrest]
    rfl
  | cons r rs ih =>
    have hsplit : (linesOf (r :: rs) ++ rest).splitOn lineFeed =
        Utf8.encode (recordText r) :: (linesOf rs ++ rest).splitOn lineFeed := by
      rw [linesOf_cons, lineOf, List.append_assoc, List.append_assoc, List.singleton_append]
      exact List.splitOn_append_cons_self_of_not_mem (not_mem_encode_recordText r) _
    rw [terminated, hsplit, List.dropLast_cons_of_ne_nil, List.map_cons]
    · exact congrArg _ ih
    · exact List.splitOn_ne_nil _ _

/-- The number of records, from the first on, whose lines fit in `room` bytes together. -/
def fitting (room : ℕ) : List Record → ℕ
  | [] => 0
  | r :: rs =>
    if (lineOf r).length ≤ room then fitting (room - (lineOf r).length) rs + 1 else 0

/-- `k` is the length of the longest prefix of the records whose lines fit in `room` bytes. -/
structure IsLongestFitting (room : ℕ) (rs : List Record) (k : ℕ) : Prop where
  le : k ≤ rs.length
  fits : (linesOf (rs.take k)).length ≤ room
  longest : ∀ j, k < j → j ≤ rs.length → room < (linesOf (rs.take j)).length

/-- No line fits in no room. -/
lemma fitting_zero (rs : List Record) : fitting 0 rs = 0 := by
  cases rs with
  | nil => rfl
  | cons r rs =>
    rw [fitting, if_neg]
    rw [lineOf, List.length_append, List.length_singleton]
    omega

lemma isLongestFitting_fitting (room : ℕ) (rs : List Record) :
    IsLongestFitting room rs (fitting room rs) := by
  induction rs generalizing room with
  | nil => exact ⟨le_rfl, Nat.zero_le _, fun j hj hle => absurd hle (Nat.not_le.2 hj)⟩
  | cons r rs ih =>
    by_cases hfits : (lineOf r).length ≤ room
    · obtain ⟨hle, hlines, hlongest⟩ := ih (room - (lineOf r).length)
      rw [fitting, if_pos hfits]
      refine ⟨Nat.succ_le_succ hle, ?_, fun j hj hjle => ?_⟩
      · rw [List.take_succ_cons, linesOf_cons, List.length_append]
        omega
      · obtain ⟨j, rfl⟩ := Nat.exists_eq_add_one.2 (Nat.zero_lt_of_lt hj)
        have := hlongest j (Nat.lt_of_succ_lt_succ hj) (Nat.le_of_succ_le_succ hjle)
        rw [List.take_succ_cons, linesOf_cons, List.length_append]
        omega
    · rw [fitting, if_neg hfits]
      refine ⟨Nat.zero_le _, Nat.zero_le _, fun j hj hjle => ?_⟩
      obtain ⟨j, rfl⟩ := Nat.exists_eq_add_one.2 hj
      rw [List.take_succ_cons, linesOf_cons, List.length_append]
      omega

/-- Lines that are cut off are the lines that fit and the beginning of one more. -/
lemma take_linesOf (room : ℕ) (rs : List Record) : ∃ rest, lineFeed ∉ rest ∧
    (linesOf rs).take room = linesOf (rs.take (fitting room rs)) ++ rest := by
  induction rs generalizing room with
  | nil => exact ⟨[], List.not_mem_nil, by simp⟩
  | cons r rs ih =>
    by_cases hfits : (lineOf r).length ≤ room
    · obtain ⟨rest, hrest, hlines⟩ := ih (room - (lineOf r).length)
      refine ⟨rest, hrest, ?_⟩
      rw [fitting, if_pos hfits, List.take_succ_cons, linesOf_cons, linesOf_cons,
        List.take_append, List.take_of_length_le hfits, hlines, List.append_assoc]
    · -- The cut is in this line, before its line feed.
      have hroom : room ≤ (Utf8.encode (recordText r)).length := by
        rw [lineOf, List.length_append, List.length_singleton] at hfits
        omega
      refine ⟨(Utf8.encode (recordText r)).take room, fun h => ?_, ?_⟩
      · exact not_mem_encode_recordText r (List.mem_of_mem_take h)
      · rw [fitting, if_neg hfits, List.take_zero, linesOf_nil, List.nil_append, linesOf_cons,
          lineOf, List.append_assoc, List.take_append_of_le_length hroom]

/-! ### A writer with a limit -/

/-- The writer accepts `room` bytes more. -/
def Writer.HasRoom (w : Writer) (room : ℕ) : Prop :=
  w.limit = some (w.accepted.length + room)

/-- A writer accepts what fits in its room. -/
lemma Writer.write_withRoom {w : Writer} {room : ℕ} (h : w.HasRoom room) (bytes : List UInt8) :
    ∃ v, w.write bytes = (decide (bytes.length ≤ room), v) ∧
      v.accepted = w.accepted ++ bytes.take room ∧ v.HasRoom (room - bytes.length) := by
  have hfits : ((bytes.take room).length == bytes.length) = decide (bytes.length ≤ room) := by
    rw [List.length_take, Bool.eq_iff_iff, beq_iff_eq, decide_eq_true_iff]
    omega
  refine ⟨{ w with accepted := w.accepted ++ bytes.take room }, ?_, rfl, ?_⟩
  · rw [Writer.write, h]
    dsimp only
    rw [Nat.add_sub_cancel_left, hfits]
  · rw [Writer.HasRoom] at h ⊢
    dsimp only
    rw [h, List.length_append, List.length_take]
    congr 1
    omega

namespace Lines

/-- Stores records one after another, whatever becomes of each. -/
def storeAll (s : Lines) : List Record → List (Except Failure Unit) × Lines
  | [] => ([], s)
  | r :: rs =>
    let (result, s) := s.store r
    let (results, s) := s.storeAll rs
    (result :: results, s)

/-- Storing a record writes its text and then, if all of it fitted, the line feed. -/
lemma store_eq {s : Lines} {r : Record} {written ended : Bool} {w v : Writer}
    (hw : s.writer.write (Utf8.encode (recordText r)) = (written, w))
    (hv : w.write [lineFeed] = (ended, v)) :
    s.store r =
      if written then
        if ended then (.ok (), ⟨v, s.stored + 1⟩)
        else (.error ⟨[.endingRecord], .system⟩, ⟨v, s.stored⟩)
      else (.error ⟨[.writingRecord], .system⟩, ⟨w, s.stored⟩) := by
  have hbody : StateT.run (fun w : Writer => w.write (Utf8.encode (recordText r))) s.writer =
      (pure (written, w) : Id _) := hw
  have hfeed : StateT.run (fun w : Writer => w.write [lineFeed]) w = (pure (ended, v) : Id _) := hv
  rw [store, writeLine, StateT.run_bind, hbody, pure_bind]
  cases written with
  | false => rfl
  | true =>
    rw [if_pos rfl, StateT.run_bind, hfeed, pure_bind]
    cases ended <;> rfl

/-- Storing a record writes as much of its line as fits, and succeeds if the line fits. -/
lemma store_withRoom {s : Lines} {room : ℕ} (h : s.writer.HasRoom room) (r : Record) :
    ∃ result t, s.store r = (result, t) ∧
      result.toBool = decide ((lineOf r).length ≤ room) ∧
      t.writer.accepted = s.writer.accepted ++ (lineOf r).take room ∧
      t.writer.HasRoom (room - (lineOf r).length) ∧
      t.stored = s.stored + if (lineOf r).length ≤ room then 1 else 0 := by
  set text := Utf8.encode (recordText r) with htext
  have hlength : (lineOf r).length = text.length + 1 := by
    rw [lineOf, List.length_append, List.length_singleton]
  obtain ⟨w, hw, haccepted, hroom⟩ := Writer.write_withRoom h text
  obtain ⟨v, hv, hended, hrest⟩ := Writer.write_withRoom hroom [lineFeed]
  rw [store_eq hw hv, hlength, List.length_singleton]
  rw [haccepted, List.append_assoc] at hended
  by_cases hwritten : text.length ≤ room
  · -- The text fits, and the line feed is accepted if one byte is left.
    have htake : v.accepted = s.writer.accepted ++ (lineOf r).take room := by
      rw [hended, lineOf, List.take_append]
    have hfeed : 1 ≤ room - text.length ↔ text.length + 1 ≤ room := by omega
    rw [List.length_singleton, Nat.sub_sub] at hrest
    by_cases hfits : text.length + 1 ≤ room
    · refine ⟨.ok (), ⟨v, s.stored + 1⟩, ?_, ?_, htake, hrest, ?_⟩
      · simp [hwritten, hfeed, hfits]
      · simp [hfits, Except.toBool]
      · rw [if_pos hfits]
    · refine ⟨.error ⟨[.endingRecord], .system⟩, ⟨v, s.stored⟩, ?_, ?_, htake, hrest, ?_⟩
      · simp [hwritten, hfeed, hfits]
      · simp [hfits, Except.toBool]
      · rw [if_neg hfits, Nat.add_zero]
  · have hfits : ¬ text.length + 1 ≤ room := by omega
    have htake : w.accepted = s.writer.accepted ++ (lineOf r).take room := by
      rw [haccepted, lineOf, List.take_append_of_le_length (Nat.le_of_not_le hwritten)]
    have hnone : room - (text.length + 1) = room - text.length := by omega
    refine ⟨.error ⟨[.writingRecord], .system⟩, ⟨w, s.stored⟩, ?_, ?_, htake, hnone ▸ hroom, ?_⟩
    · simp [hwritten]
    · simp [hfits, Except.toBool]
    · rw [if_neg hfits, Nat.add_zero]

/-- After records are stored one by one, the writer has accepted their lines up to its limit, and
the records whose lines are whole count as stored. -/
lemma storeAll_withRoom {s : Lines} {room : ℕ} (h : s.writer.HasRoom room) (rs : List Record) :
    (s.storeAll rs).2.writer.accepted = s.writer.accepted ++ (linesOf rs).take room ∧
      (s.storeAll rs).1.map Except.toBool =
        List.replicate (fitting room rs) true ++
          List.replicate (rs.length - fitting room rs) false ∧
      (s.storeAll rs).2.stored = s.stored + fitting room rs := by
  induction rs generalizing s room with
  | nil => simp [storeAll, fitting]
  | cons r rs ih =>
    obtain ⟨result, t, hstore, hresult, haccepted, hroom, hcount⟩ := store_withRoom h r
    obtain ⟨hlines, hresults, hstored⟩ := ih hroom
    have hall : s.storeAll (r :: rs) = (result :: (t.storeAll rs).1, (t.storeAll rs).2) := by
      rw [storeAll, hstore]
    rw [hall, linesOf_cons, List.take_append, ← List.append_assoc, ← haccepted, List.map_cons,
      hresult, hresults, hstored, hcount]
    refine ⟨hlines, ?_, ?_⟩
    · by_cases hfits : (lineOf r).length ≤ room
      · simp [fitting, hfits, List.replicate_succ]
      · have hroom : room - (lineOf r).length = 0 := by omega
        simp [fitting, hfits, hroom, fitting_zero, List.replicate_succ]
    · by_cases hfits : (lineOf r).length ≤ room
      · rw [fitting, if_pos hfits, if_pos hfits]
        omega
      · have hroom : room - (lineOf r).length = 0 := by omega
        rw [fitting, if_neg hfits, if_neg hfits, hroom, fitting_zero]

/-- A sink whose writer accepts `n` bytes. -/
def limited (n : ℕ) : Lines := { writer := { limit := some n } }

/-- Records that are stored in a writer with a limit are read back from what it has accepted, as
many of them as it has accepted whole lines. -/
theorem stored_reads_back (n : ℕ) (rs : List Record) :
    ∃ k, IsLongestFitting n rs k ∧
      ((limited n).storeAll rs).2.writer.accepted = (linesOf rs).take n ∧
      ((limited n).storeAll rs).1.map Except.toBool =
        List.replicate k true ++ List.replicate (rs.length - k) false ∧
      ((limited n).storeAll rs).2.stored = k ∧
      (terminated ((limited n).storeAll rs).2.writer.accepted).map decodeLine? =
        (rs.take k).map some ∧
      ∀ r, lineFeed ∉ Utf8.encode (recordText r) := by
  have hroom : (limited n).writer.HasRoom n := by
    rw [Writer.HasRoom]
    exact congrArg some (Nat.zero_add n).symm
  obtain ⟨haccepted, hresults, hstored⟩ := storeAll_withRoom hroom rs
  have hempty : (limited n).writer.accepted = [] := rfl
  rw [hempty, List.nil_append] at haccepted
  obtain ⟨rest, hrest, hcut⟩ := take_linesOf n rs
  have hdecoded : (terminated ((linesOf rs).take n)).map decodeLine? =
      (rs.take (fitting n rs)).map some := by
    rw [hcut, terminated_linesOf _ hrest, List.map_map]
    exact List.map_congr_left fun r _ => decodeLine?_encode r
  refine ⟨fitting n rs, isLongestFitting_fitting n rs, haccepted, hresults, ?_, ?_,
    not_mem_encode_recordText⟩
  · rw [hstored]
    exact Nat.zero_add _
  · rw [haccepted, hdecoded]

end Lines

end MailCollector.Sink
