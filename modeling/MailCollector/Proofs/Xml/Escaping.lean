import MailCollector.Proofs.Text.Trimming
import MailCollector.Xml.Token

/-!
# Escaped text

What is escaped holds no sign by which markup could begin or end, neither an angle bracket nor a
quote (`ne_of_mem_escape`), and resolving its references gives back what was escaped
(`unescape?_escape`). No blank is written as a reference, so it does not matter whether blanks are
dropped before or after (`trim_escape`).
-/

namespace MailCollector.Xml

open MailCollector.Text

@[simp] lemma escape_nil : escape [] = [] := rfl

@[simp] lemma escape_cons (c : Char) (cs : List Char) :
    escape (c :: cs) = escapeChar c ++ escape cs := rfl

/-! ### References -/

/-- Outside of a reference, an ampersand begins one and anything else means itself. -/
lemma unescapeFrom_none_cons (c : Char) (cs : List Char) :
    unescapeFrom none (c :: cs) =
      if c = '&' then unescapeFrom (some []) cs
      else (unescapeFrom none cs).map (c :: ·) := rfl

/-- In a reference, a semicolon ends it, another ampersand spoils it, and anything else is part of
its name. -/
lemma unescapeFrom_some_cons (name : List Char) (c : Char) (cs : List Char) :
    unescapeFrom (some name) (c :: cs) =
      if c = ';' then
        (reference? name.reverse).bind fun meant =>
          (unescapeFrom none cs).bind fun rest => some (meant :: rest)
      else if c = '&' then none
      else unescapeFrom (some (c :: name)) cs := rfl

/-- The written form of a character is read as that character. -/
lemma unescapeFrom_escapeChar (c : Char) (rest : List Char) :
    unescapeFrom none (escapeChar c ++ rest) = (unescapeFrom none rest).map (c :: ·) := by
  unfold escapeChar
  split <;>
    simp_all [unescapeFrom_none_cons, unescapeFrom_some_cons, reference?, Option.map_eq_bind]

/-- Reading undoes escaping. -/
@[simp] theorem unescape?_escape (cs : List Char) : unescape? (escape cs) = some cs := by
  induction cs with
  | nil => rfl
  | cons c cs ih =>
    rw [unescape?] at ih ⊢
    rw [escape_cons, unescapeFrom_escapeChar, ih, Option.map_some]

/-- A character that does not spoil what is read either changes what is pending or completes one
character of the meaning, whatever follows it. -/
lemma unescapeFrom_cons_cases {pending : Option (List Char)} {c : Char} {cs meant : List Char}
    (h : unescapeFrom pending (c :: cs) = some meant) :
    (∃ next, ∀ ds, unescapeFrom pending (c :: ds) = unescapeFrom next ds) ∨
      ∃ d, ∀ ds, unescapeFrom pending (c :: ds) = (unescapeFrom none ds).map (d :: ·) := by
  cases pending with
  | none =>
    by_cases hbegin : c = '&'
    · exact .inl ⟨some [], fun ds => by rw [unescapeFrom_none_cons, if_pos hbegin]⟩
    · exact .inr ⟨c, fun ds => by rw [unescapeFrom_none_cons, if_neg hbegin]⟩
  | some name =>
    rw [unescapeFrom_some_cons] at h
    by_cases hend : c = ';'
    · rw [if_pos hend] at h
      obtain ⟨d, hd, -⟩ := Option.bind_eq_some_iff.1 h
      refine .inr ⟨d, fun ds => ?_⟩
      rw [unescapeFrom_some_cons, if_pos hend, hd, Option.bind_some, Option.map_eq_bind]
      rfl
    · rw [if_neg hend] at h
      by_cases hspoilt : c = '&'
      · rw [if_pos hspoilt] at h
        cases h
      · refine .inl ⟨some (c :: name), fun ds => ?_⟩
        rw [unescapeFrom_some_cons, if_neg hend, if_neg hspoilt]

/-- Resolving references goes on where it has come to an end. -/
lemma unescapeFrom_append {pending : Option (List Char)} {cs meant : List Char}
    (h : unescapeFrom pending cs = some meant) (ds : List Char) :
    unescapeFrom pending (cs ++ ds) = (unescape? ds).map (meant ++ ·) := by
  induction cs generalizing pending meant with
  | nil =>
    cases pending with
    | none =>
      cases h
      simp [unescape?]
    | some name => cases h
  | cons c cs ih =>
    obtain ⟨next, hstep⟩ | ⟨d, hstep⟩ := unescapeFrom_cons_cases h
    · rw [hstep] at h
      rw [List.cons_append, hstep, ih h]
    · rw [hstep] at h
      obtain ⟨others, hothers, rfl⟩ := Option.map_eq_some_iff.1 h
      rw [List.cons_append, hstep, ih hothers, Option.map_map]
      rfl

/-- Blanks are no references. -/
lemma unescape?_of_blank {cs : List Char} (h : ∀ c ∈ cs, isMarkupBlank c = true) :
    unescape? cs = some cs := by
  induction cs with
  | nil => rfl
  | cons c cs ih =>
    rw [List.forall_mem_cons] at h
    have hc : c ≠ '&' := by
      rintro rfl
      cases h.1
    have hcs : unescapeFrom none cs = some cs := ih h.2
    rw [unescape?, unescapeFrom_none_cons, if_neg hc, hcs]
    rfl

/-- A reference that has begun does not end among blanks. -/
lemma unescapeFrom_blank_eq_none {name cs : List Char} (h : ∀ c ∈ cs, isMarkupBlank c = true) :
    unescapeFrom (some name) cs = none := by
  induction cs generalizing name with
  | nil => rfl
  | cons c cs ih =>
    rw [List.forall_mem_cons] at h
    have hc : c ≠ ';' := by
      rintro rfl
      cases h.1
    have hd : c ≠ '&' := by
      rintro rfl
      cases h.1
    rw [unescapeFrom_some_cons, if_neg hc, if_neg hd]
    exact ih h.2

/-- Blanks behind a text do not change what its references mean. -/
lemma unescapeFrom_of_append_blank {pending : Option (List Char)} {cs bs meant : List Char}
    (hbs : ∀ c ∈ bs, isMarkupBlank c = true) (h : unescapeFrom pending (cs ++ bs) = some meant) :
    ∃ kept, unescapeFrom pending cs = some kept := by
  induction cs generalizing pending meant with
  | nil =>
    cases pending with
    | none => exact ⟨[], rfl⟩
    | some name =>
      rw [List.nil_append, unescapeFrom_blank_eq_none hbs] at h
      cases h
  | cons c cs ih =>
    rw [List.cons_append] at h
    obtain ⟨next, hstep⟩ | ⟨d, hstep⟩ := unescapeFrom_cons_cases h
    · rw [hstep] at h ⊢
      exact ih h
    · rw [hstep] at h
      obtain ⟨others, hothers, -⟩ := Option.map_eq_some_iff.1 h
      obtain ⟨kept, hkept⟩ := ih hothers
      rw [hstep, hkept]
      exact ⟨d :: kept, rfl⟩

/-- A reference means a character. -/
lemma unescapeFrom_some_ne_nil (name cs : List Char) : unescapeFrom (some name) cs ≠ some [] := by
  induction cs generalizing name with
  | nil => nofun
  | cons c cs ih =>
    rw [unescapeFrom_some_cons]
    split
    · intro h
      obtain ⟨d, -, h⟩ := Option.bind_eq_some_iff.1 h
      obtain ⟨others, -, h⟩ := Option.bind_eq_some_iff.1 h
      cases h
    · split
      · nofun
      · exact ih _

/-- A text that means nothing is empty. -/
lemma eq_nil_of_unescape? {cs : List Char} (h : unescape? cs = some []) : cs = [] := by
  cases cs with
  | nil => rfl
  | cons c cs =>
    rw [unescape?, unescapeFrom_none_cons] at h
    split at h
    · exact absurd h (unescapeFrom_some_ne_nil [] cs)
    · obtain ⟨others, -, hnil⟩ := Option.map_eq_some_iff.1 h
      cases hnil

/-! ### Signs of markup -/

/-- Signs that are written as references only. -/
def isReserved (c : Char) : Bool :=
  c == '<' || c == '>' || c == '"' || c == '\''

lemma isReserved_of_mem_escapeChar {c d : Char} (h : d ∈ escapeChar c) : isReserved d = false := by
  have plain : (escapeChar c).all (fun d => !isReserved d) = true := by
    unfold escapeChar
    split
    iterate 5
      rfl
    · simp_all [isReserved]
  simpa using List.all_eq_true.1 plain d h

/-- Escaped text cannot end an attribute value, begin a tag or end one. -/
theorem isReserved_of_mem_escape {cs : List Char} {d : Char} (h : d ∈ escape cs) :
    isReserved d = false := by
  obtain ⟨c, -, hd⟩ := List.mem_flatMap.1 h
  exact isReserved_of_mem_escapeChar hd

lemma ne_of_mem_escape {cs : List Char} {d sign : Char} (hsign : isReserved sign = true)
    (h : d ∈ escape cs) : d ≠ sign := by
  rintro rfl
  rw [isReserved_of_mem_escape h] at hsign
  cases hsign

/-! ### Blanks -/

/-- A blank is written as itself, and anything else without blanks. -/
lemma escapeChar_blank (c : Char) :
    (isMarkupBlank c = true ∧ escapeChar c = [c]) ∨
      (isMarkupBlank c = false ∧ escapeChar c ≠ [] ∧
        ∀ d ∈ escapeChar c, isMarkupBlank d = false) := by
  unfold escapeChar
  split
  iterate 5
    exact .inr (by simp [isMarkupBlank])
  · cases hc : isMarkupBlank c <;> simp [hc]

lemma dropWhile_escape (cs : List Char) :
    (escape cs).dropWhile isMarkupBlank = escape (cs.dropWhile isMarkupBlank) := by
  induction cs with
  | nil => rfl
  | cons c cs ih =>
    rw [escape_cons]
    obtain ⟨hc, same⟩ | ⟨hc, nonempty, plain⟩ := escapeChar_blank c
    · rw [same, List.singleton_append, List.dropWhile_cons_of_pos hc, ih,
        List.dropWhile_cons_of_pos hc]
    · obtain ⟨d, ds, hd⟩ := List.exists_cons_of_ne_nil nonempty
      rw [hd, List.cons_append, List.dropWhile_cons_of_neg (by simp [plain d, hd]),
        List.dropWhile_cons_of_neg (by simp [hc]), escape_cons, hd, List.cons_append]

lemma escape_eq_nil {cs : List Char} : escape cs = [] ↔ cs = [] := by
  cases cs with
  | nil => simp
  | cons c cs =>
    obtain ⟨-, same⟩ | ⟨-, nonempty, -⟩ := escapeChar_blank c
    · simp [same]
    · simp [nonempty]

lemma trimEnd_escape (cs : List Char) :
    trimEnd isMarkupBlank (escape cs) = escape (trimEnd isMarkupBlank cs) := by
  induction cs with
  | nil => rfl
  | cons c cs ih =>
    rw [escape_cons, trimEnd_append, trimEnd_cons, ih]
    simp only [escape_eq_nil]
    by_cases rest : trimEnd isMarkupBlank cs = []
    · rw [if_pos rest, if_pos rest]
      obtain ⟨hc, same⟩ | ⟨hc, -, plain⟩ := escapeChar_blank c
      · simp [same, hc, trimEnd_cons]
      · simp [hc, trimEnd_of_forall_not plain]
    · rw [if_neg rest, if_neg rest, escape_cons]

/-- Blanks may be dropped before a text is escaped or after it. -/
theorem trim_escape (cs : List Char) :
    trim isMarkupBlank (escape cs) = escape (trim isMarkupBlank cs) := by
  rw [trim, trimStart, dropWhile_escape, trimEnd_escape, trim, trimStart]

end MailCollector.Xml
