import MailCollector.Proofs.Text.Numerals
import MailCollector.Text.Blank
import Mathlib.Data.List.Basic
import Mathlib.Data.List.TakeWhile

/-!
# Trimming

A text that has lost the blanks of markup at its ends and is then trimmed as a value comes out as if
it had been trimmed as a value at once, since whatever is blank in markup is white space. A text
without blanks at its ends, such as a numeral or one that was trimmed before, comes out as it is.

Blanks that are dropped somewhere inside a text are missed after trimming, unless there is nothing
but blanks on one side of them (`trim_eq_iff`).
-/

namespace MailCollector.Text

variable {p q : Char → Bool} {c : Char} {cs : List Char}

@[simp] lemma trimEnd_nil (p : Char → Bool) : trimEnd p [] = [] := rfl

lemma trimEnd_cons (p : Char → Bool) (c : Char) (cs : List Char) :
    trimEnd p (c :: cs) =
      if trimEnd p cs = [] then if p c then [] else [c] else c :: trimEnd p cs := by
  rw [trimEnd]
  cases trimEnd p cs <;> simp

/-- Something that is not trimmed at the end keeps all that is in front of it. -/
lemma trimEnd_append (p : Char → Bool) (cs ds : List Char) :
    trimEnd p (cs ++ ds) = if trimEnd p ds = [] then trimEnd p cs else cs ++ trimEnd p ds := by
  induction cs with
  | nil => simp
  | cons c cs ih =>
    rw [List.cons_append, trimEnd_cons, ih]
    split_ifs with hds hcs <;> simp_all [trimEnd_cons]

lemma trimEnd_of_forall_not (h : ∀ c ∈ cs, p c = false) : trimEnd p cs = cs := by
  induction cs with
  | nil => rfl
  | cons c cs ih =>
    rw [List.forall_mem_cons] at h
    rw [trimEnd_cons, ih h.2, h.1]
    cases cs <;> simp

lemma trim_of_forall_not (h : ∀ c ∈ cs, p c = false) : trim p cs = cs := by
  have start : cs.dropWhile p = cs := by
    cases cs with
    | nil => rfl
    | cons c cs => rw [List.dropWhile_cons_of_neg (by simp [h c])]
  rw [trim, trimStart, start, trimEnd_of_forall_not h]

/-- Where nothing is kept at the end, nothing was kept at the start. -/
lemma dropWhile_of_trim_eq_nil (h : trim p cs = []) : cs.dropWhile p = [] := by
  rw [trim, trimStart] at h
  cases hcs : cs.dropWhile p with
  | nil => rfl
  | cons c ds =>
    have hc : p c = false := by
      have := List.head_dropWhile_not p (l := cs) (by simp [hcs])
      simpa [hcs] using this
    rw [hcs, trimEnd_cons, hc, if_neg Bool.false_ne_true] at h
    split_ifs at h

/-! ### Texts that were put together -/

lemma trimEnd_eq_nil_iff : trimEnd p cs = [] ↔ ∀ c ∈ cs, p c = true := by
  induction cs with
  | nil => simp
  | cons c cs ih =>
    rw [trimEnd_cons, List.forall_mem_cons, ← ih]
    split_ifs with hcs hc <;> simp_all

section Append

variable {ds bs : List Char}

/-- Blanks in front of a text do not count. -/
lemma trim_append_of_blank (hcs : ∀ c ∈ cs, p c = true) (ds : List Char) :
    trim p (cs ++ ds) = trim p ds := by
  rw [trim, trimStart, List.dropWhile_append_of_pos hcs, trim, trimStart]

/-- Blanks behind a text do not count. -/
lemma trim_append_blank (cs : List Char) (hds : ∀ c ∈ ds, p c = true) :
    trim p (cs ++ ds) = trim p cs := by
  rw [trim, trimStart, trim, trimStart, List.dropWhile_append]
  split_ifs with hcs
  · rw [List.isEmpty_iff.1 hcs, trimEnd, trimEnd_eq_nil_iff]
    exact fun c hc => hds c ((List.dropWhile_suffix p).subset hc)
  · rw [trimEnd_append, if_pos (trimEnd_eq_nil_iff.2 hds)]

/-- Between two texts that are not blank everything is kept. -/
lemma trim_append_append (hcs : ¬ ∀ c ∈ cs, p c = true) (hds : ¬ ∀ c ∈ ds, p c = true)
    (bs : List Char) :
    trim p (cs ++ (bs ++ ds)) = trimStart p cs ++ (bs ++ trimEnd p ds) := by
  have hstart : cs.dropWhile p ≠ [] := by rwa [Ne, List.dropWhile_eq_nil_iff]
  have hend : trimEnd p ds ≠ [] := by rwa [Ne, trimEnd_eq_nil_iff]
  have hkept : trimEnd p (bs ++ ds) = bs ++ trimEnd p ds := by rw [trimEnd_append, if_neg hend]
  rw [trim, trimStart, List.dropWhile_append, if_neg (by simpa using hstart), trimEnd_append,
    hkept, if_neg (List.append_ne_nil_of_right_ne_nil _ hend), trimStart]

/-- What is left after blanks were dropped inside a text is part of what was there. -/
lemma trim_sublist (hbs : ∀ c ∈ bs, p c = true) (cs ds : List Char) :
    (trim p (cs ++ ds)).Sublist (trim p (cs ++ (bs ++ ds))) := by
  by_cases hcs : ∀ c ∈ cs, p c = true
  · rw [trim_append_of_blank hcs, trim_append_of_blank hcs, trim_append_of_blank hbs]
  by_cases hds : ∀ c ∈ ds, p c = true
  · have hbds : ∀ c ∈ bs ++ ds, p c = true := List.forall_mem_append.2 ⟨hbs, hds⟩
    rw [trim_append_blank cs hds, trim_append_blank cs hbds]
  · have hnone := trim_append_append hcs hds []
    rw [List.nil_append, List.nil_append] at hnone
    rw [hnone, trim_append_append hcs hds]
    exact (List.Sublist.refl _).append (List.sublist_append_right _ _)

/-- Dropping blanks inside a text does not count if and only if there are none, or there is nothing
but blanks on one side of them. -/
lemma trim_eq_iff (hbs : ∀ c ∈ bs, p c = true) (cs ds : List Char) :
    trim p (cs ++ ds) = trim p (cs ++ (bs ++ ds)) ↔
      bs = [] ∨ (∀ c ∈ cs, p c = true) ∨ ∀ c ∈ ds, p c = true := by
  by_cases hcs : ∀ c ∈ cs, p c = true
  · rw [trim_append_of_blank hcs, trim_append_of_blank hcs, trim_append_of_blank hbs]
    exact iff_of_true rfl (.inr (.inl hcs))
  by_cases hds : ∀ c ∈ ds, p c = true
  · have hbds : ∀ c ∈ bs ++ ds, p c = true := List.forall_mem_append.2 ⟨hbs, hds⟩
    rw [trim_append_blank cs hds, trim_append_blank cs hbds]
    exact iff_of_true rfl (.inr (.inr hds))
  · have hnone := trim_append_append hcs hds []
    rw [List.nil_append, List.nil_append] at hnone
    rw [hnone, trim_append_append hcs hds, List.append_cancel_left_eq, List.self_eq_append_left]
    simp [hcs, hds]

end Append

/-- What is trimmed at the end does not end in a blank. -/
lemma of_mem_getLast?_trimEnd (hc : c ∈ (trimEnd p cs).getLast?) : p c = false := by
  induction cs with
  | nil => cases hc
  | cons d cs ih =>
    rw [trimEnd_cons] at hc
    split_ifs at hc with hcs hd
    · cases hc
    · cases hc
      exact Bool.eq_false_iff.2 hd
    · obtain ⟨e, es, hes⟩ := List.exists_cons_of_ne_nil hcs
      rw [hes, List.getLast?_cons_cons, ← hes] at hc
      exact ih hc

/-- What is trimmed at the end is followed by blanks. -/
lemma exists_trimEnd_append (p : Char → Bool) (cs : List Char) :
    ∃ rs, (∀ c ∈ rs, p c = true) ∧ cs = trimEnd p cs ++ rs := by
  induction cs with
  | nil => exact ⟨[], by simp, rfl⟩
  | cons c cs ih =>
    obtain ⟨rs, hrs, hcs⟩ := ih
    rw [trimEnd_cons]
    split_ifs with hnil hc
    · rw [hnil, List.nil_append] at hcs
      exact ⟨c :: cs, List.forall_mem_cons.2 ⟨hc, hcs ▸ hrs⟩, rfl⟩
    · rw [hnil, List.nil_append] at hcs
      exact ⟨cs, hcs ▸ hrs, rfl⟩
    · exact ⟨rs, hrs, congrArg (c :: ·) hcs⟩

/-- A text is what is kept of it, between blanks. -/
lemma exists_margins (p : Char → Bool) (cs : List Char) :
    ∃ ls rs, (∀ c ∈ ls, p c = true) ∧ (∀ c ∈ rs, p c = true) ∧ cs = ls ++ (trim p cs ++ rs) ∧
      (ls = [] ↔ ∀ c ∈ cs.head?, p c = false) ∧
      (rs = [] ↔ trim p cs = [] ∨ ∀ c ∈ cs.getLast?, p c = false) := by
  have hhead : cs.takeWhile p = [] ↔ ∀ c ∈ cs.head?, p c = false := by
    cases cs <;> simp [List.takeWhile_cons]
  obtain ⟨rs, hrs, hend⟩ := exists_trimEnd_append p (cs.dropWhile p)
  rw [← trimStart, ← trim] at hend
  have hsplit : cs = cs.takeWhile p ++ (trim p cs ++ rs) := by
    rw [← hend, trimStart, List.takeWhile_append_dropWhile]
  have hall : ∀ c ∈ cs.takeWhile p, p c = true := fun c => List.mem_takeWhile_imp
  by_cases hnil : trim p cs = []
  · -- A text that is all blank has no end of its own.
    have hblank : trimStart p cs = [] := dropWhile_of_trim_eq_nil hnil
    rw [hblank, hnil, List.nil_append] at hend
    refine ⟨cs.takeWhile p, [], hall, by simp, ?_, hhead, iff_of_true rfl (.inl hnil)⟩
    rwa [← hend] at hsplit
  · refine ⟨cs.takeWhile p, rs, hall, hrs, hsplit, hhead, ?_⟩
    rw [or_iff_right hnil]
    constructor
    · rintro rfl c hc
      rw [hsplit, List.append_nil, List.getLast?_append_of_ne_nil _ hnil] at hc
      exact of_mem_getLast?_trimEnd hc
    · intro hlast
      by_contra hne
      have hmem : rs.getLast hne ∈ cs.getLast? := by
        rw [hsplit, ← List.append_assoc, List.getLast?_append_of_ne_nil _ hne]
        exact List.getLast?_eq_getLast_of_ne_nil hne
      have hkept := hlast _ hmem
      rw [hrs _ (List.getLast_mem hne)] at hkept
      cases hkept

/-! ### Two notions of blank -/

lemma dropWhile_dropWhile (hpq : ∀ c, p c = true → q c = true) (cs : List Char) :
    (cs.dropWhile p).dropWhile q = cs.dropWhile q := by
  induction cs with
  | nil => rfl
  | cons c cs ih =>
    by_cases hp : p c = true
    · rw [List.dropWhile_cons_of_pos hp, List.dropWhile_cons_of_pos (hpq c hp), ih]
    · rw [List.dropWhile_cons_of_neg hp]

lemma trimEnd_trimEnd (hpq : ∀ c, p c = true → q c = true) (cs : List Char) :
    trimEnd q (trimEnd p cs) = trimEnd q cs := by
  induction cs with
  | nil => rfl
  | cons c cs ih =>
    rw [trimEnd_cons p]
    split_ifs with hcs hp
    · rw [hcs] at ih
      rw [trimEnd_cons, ← ih, hpq c hp]
      simp
    · rw [hcs] at ih
      rw [trimEnd_cons, trimEnd_cons, ih]
    · rw [trimEnd_cons, trimEnd_cons, ih]

/-- It does not matter at which end one begins. -/
lemma dropWhile_trimEnd (hpq : ∀ c, p c = true → q c = true) (cs : List Char) :
    (trimEnd p cs).dropWhile q = trimEnd p (cs.dropWhile q) := by
  induction cs with
  | nil => rfl
  | cons c cs ih =>
    by_cases hq : q c = true
    · rw [List.dropWhile_cons_of_pos hq, ← ih, trimEnd_cons]
      split_ifs with hcs hp <;> simp [hcs, hq]
    · have hp : p c ≠ true := fun hp => hq (hpq c hp)
      rw [List.dropWhile_cons_of_neg hq, trimEnd_cons, if_neg hp]
      split_ifs <;> rw [List.dropWhile_cons_of_neg hq]

/-- Trimming more removes what trimming less has left. -/
theorem trim_trim (hpq : ∀ c, p c = true → q c = true) (cs : List Char) :
    trim q (trim p cs) = trim q cs := by
  simp only [trim, trimStart]
  rw [dropWhile_trimEnd hpq, trimEnd_trimEnd hpq, dropWhile_dropWhile hpq]

lemma isBlank_of_isMarkupBlank (c : Char) (h : isMarkupBlank c = true) : isBlank c = true := by
  simp only [isMarkupBlank, Bool.or_eq_true, beq_iff_eq] at h
  rcases h with ((rfl | rfl) | rfl) | rfl <;> decide

/-! ### Values -/

/-- What markup drops at the ends of a text is nothing that its value has. -/
@[simp] theorem trimmed?_ofList_trim (cs : List Char) :
    trimmed? (String.ofList (trim isMarkupBlank cs)) = trimmed? (String.ofList cs) := by
  simp only [trimmed?, trimmed, String.toList_ofList, trim_trim isBlank_of_isMarkupBlank]

/-- A text that was trimmed is not empty and has nothing left to trim. -/
lemma trimmed?_eq_some {text kept : String} (h : trimmed? text = some kept) :
    kept ≠ "" ∧ trimmed kept = kept := by
  unfold trimmed? at h
  split at h
  · cases h
  · rename_i hkept
    obtain rfl : trimmed text = kept := Option.some.inj h
    constructor
    · intro hempty
      rw [hempty] at hkept
      exact hkept rfl
    · rw [trimmed, trimmed, String.toList_ofList, trim_trim fun _ => id]

lemma isBlank_of_isDigit (h : IsDigit c) : isBlank c = false := by
  obtain ⟨d, hd, rfl⟩ := h
  interval_cases d <;> decide

/-- A numeral has nothing to be trimmed. -/
@[simp] theorem trimmed?_natText (n : ℕ) : trimmed? (natText n) = some (natText n) := by
  have digits : trim isBlank (decimal n) = decimal n :=
    trim_of_forall_not fun c hc => isBlank_of_isDigit (isDigit_of_mem_decimal hc)
  simp [trimmed?, trimmed, natText, digits, decimal_ne_nil]

end MailCollector.Text
