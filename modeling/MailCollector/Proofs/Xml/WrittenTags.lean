import MailCollector.Proofs.Xml.Escaping
import MailCollector.Xml.Markup

/-!
# Written tags

A tag that is written with plain names is taken off the front of a text as one token with the same
name and the same attributes, whatever their values are: `front_opening`, `front_single` and
`front_closing`. A quote or an angle bracket inside a value would end the value or the tag, but
escaped values hold none. Text in front of a tag is one token as well, unless it is all blank
(`front_text`, `front_blank`).
-/

namespace MailCollector.Xml

open MailCollector.Text

variable {cs rest : List Char} {tag : String} {attributes : List (String × String)}

/-- Whether a character would end a name in a tag or make the tag something else. -/
def isTagSign (c : Char) : Bool :=
  isMarkupBlank c || isReserved c || c == '/' || c == '!' || c == '?' || c == '='

/-- A text that may stand in a tag as a name. -/
def IsName (name : String) : Prop :=
  (!name.toList.isEmpty && name.toList.all fun c => !isTagSign c) = true

instance : DecidablePred IsName := fun _ => inferInstanceAs (Decidable (_ = true))

/-- Attributes as a tag may have them: with names, and each name once. -/
def WellNamed (attributes : List (String × String)) : Prop :=
  (∀ a ∈ attributes, IsName a.1) ∧ (attributes.map Prod.fst).Nodup

namespace IsName

lemma ne_nil (h : IsName tag) : tag.toList ≠ [] := by
  intro empty
  simp [IsName, empty] at h

lemma isTagSign_eq {c : Char} (h : IsName tag) (hc : c ∈ tag.toList) : isTagSign c = false := by
  simp only [IsName, Bool.and_eq_true, List.all_eq_true, Bool.not_eq_true'] at h
  exact h.2 c hc

lemma isMarkupBlank_eq {c : Char} (h : IsName tag) (hc : c ∈ tag.toList) :
    isMarkupBlank c = false := by
  have := h.isTagSign_eq hc
  simp only [isTagSign, Bool.or_eq_false_iff] at this
  exact this.1.1.1.1.1

lemma isReserved_eq {c : Char} (h : IsName tag) (hc : c ∈ tag.toList) : isReserved c = false := by
  have := h.isTagSign_eq hc
  simp only [isTagSign, Bool.or_eq_false_iff] at this
  exact this.1.1.1.1.2

lemma ne_of_mem {c sign : Char} (h : IsName tag) (hc : c ∈ tag.toList)
    (hsign : isTagSign sign = true) : c ≠ sign := by
  rintro rfl
  rw [h.isTagSign_eq hc] at hsign
  cases hsign

/-- A name has a first character, which none of the signs is. -/
lemma exists_cons (h : IsName tag) :
    ∃ c cs, tag.toList = c :: cs ∧ ∀ sign, isTagSign sign = true → c ≠ sign := by
  obtain ⟨c, cs, hcs⟩ := List.exists_cons_of_ne_nil h.ne_nil
  exact ⟨c, cs, hcs, fun sign => h.ne_of_mem (by simp [hcs])⟩

end IsName

@[simp] lemma wellNamed_nil : WellNamed [] := by simp [WellNamed]

@[simp] lemma wellNamed_cons {a : String × String} :
    WellNamed (a :: attributes) ↔
      IsName a.1 ∧ a.1 ∉ attributes.map Prod.fst ∧ WellNamed attributes := by
  rw [WellNamed, List.forall_mem_cons, List.map_cons, List.nodup_cons, and_and_and_comm, and_assoc]
  rfl

/-! ### Where a tag ends -/

/-- A piece of a tag that leaves the search for the end of the tag as it was. -/
def Inside (cs : List Char) : Prop :=
  ∀ rest, splitTag? none (cs ++ rest) = (splitTag? none rest).map fun s => (cs ++ s.1, s.2)

namespace Inside

lemma nil : Inside [] := fun rest => by simp

lemma append {ds : List Char} (hcs : Inside cs) (hds : Inside ds) : Inside (cs ++ ds) := by
  intro rest
  rw [List.append_assoc, hcs, hds, Option.map_map]
  simp [Function.comp_def]

lemma of_plain (h : ∀ c ∈ cs, isReserved c = false) : Inside cs := by
  intro rest
  induction cs with
  | nil => simp
  | cons c cs ih =>
    rw [List.forall_mem_cons] at h
    obtain ⟨⟨⟨-, hgt⟩, hquote⟩, happ⟩ : ((c ≠ '<' ∧ c ≠ '>') ∧ c ≠ '"') ∧ c ≠ '\'' := by
      simpa [isReserved] using h.1
    rw [List.cons_append, splitTag?]
    simp [hgt, hquote, happ, ih h.2, Function.comp_def]

lemma quoted {cs : List Char} (h : ∀ c ∈ cs, c ≠ '"') : Inside ('"' :: (cs ++ ['"'])) := by
  -- what is between the quotes only moves the search on to the closing quote
  have closing : ∀ rest, splitTag? (some '"') (cs ++ '"' :: rest) =
      (splitTag? none rest).map fun s => (cs ++ '"' :: s.1, s.2) := by
    intro rest
    induction cs with
    | nil => simp [splitTag?]
    | cons c cs ih =>
      rw [List.forall_mem_cons] at h
      rw [List.cons_append, splitTag?]
      simp [h.1, ih h.2, Function.comp_def]
  intro rest
  simp [splitTag?, closing, Function.comp_def]

lemma name (h : IsName tag) : Inside tag.toList :=
  of_plain fun _ => h.isReserved_eq

lemma splitTag?_eq (h : Inside cs) (rest : List Char) :
    splitTag? none (cs ++ '>' :: rest) = some (cs, rest) := by
  rw [h]
  simp [splitTag?]

end Inside

namespace Markup

@[simp] lemma attributesText_nil : attributesText [] = [] := rfl

lemma attributesText_cons (a : String × String) (attributes : List (String × String)) :
    attributesText (a :: attributes) =
      ' ' :: (a.1.toList ++ '=' :: '"' :: (escape a.2.toList ++ '"' :: attributesText attributes)) := by
  simp [attributesText]

lemma inside_attributesText (h : ∀ a ∈ attributes, IsName a.1) :
    Inside (attributesText attributes) := by
  induction attributes with
  | nil => exact .nil
  | cons a attributes ih =>
    rw [List.forall_mem_cons] at h
    have value : Inside ('"' :: (escape a.2.toList ++ ['"'])) :=
      .quoted fun _ => ne_of_mem_escape (by decide)
    have whole := (((Inside.of_plain (by simp [isReserved] : ∀ c ∈ [' '], _)).append (.name h.1)).append
      (.of_plain (by simp [isReserved] : ∀ c ∈ ['='], _))).append (value.append (ih h.2))
    simpa [attributesText_cons] using whole

end Markup

/-! ### Attributes -/

/-- The attributes of a tag as they are read, by their local names. -/
def localAttributes (attributes : List (String × String)) : List (String × String) :=
  attributes.map fun a => (String.ofList (localName a.1.toList), a.2)

lemma splitAround?_quote (h : ∀ c ∈ cs, c ≠ '"') (rest : List Char) :
    splitAround? ['"'] (cs ++ '"' :: rest) = some (cs, rest) := by
  induction cs with
  | nil => simp [splitAround?]
  | cons c cs ih =>
    rw [List.forall_mem_cons] at h
    rw [List.cons_append, splitAround?, ih h.2]
    simp [h.1.symm]

/-- One written attribute is read with its value, and reading goes on behind it. -/
lemma readAttributes_written {seen : List (List Char)} {fuel : ℕ} {name : String}
    (hname : IsName name) (fresh : name.toList ∉ seen) (value : String) (rest : List Char) :
    readAttributes seen (fuel + 1)
        (' ' :: (name.toList ++ '=' :: '"' :: (escape value.toList ++ '"' :: rest))) =
      (readAttributes (name.toList :: seen) fuel rest).map fun attributes =>
        (String.ofList (localName name.toList), value) :: attributes := by
  obtain ⟨c, cs, hcs, -⟩ := hname.exists_cons
  have blank : isMarkupBlank c = false := hname.isMarkupBlank_eq (by simp [hcs])
  have inName : ∀ d ∈ cs, (!(d == '=' || isMarkupBlank d)) = true := fun d hd => by
    have hd : d ∈ name.toList := by simp [hcs, hd]
    simp [hname.isMarkupBlank_eq hd, hname.ne_of_mem hd (by decide : isTagSign '=' = true)]
  have quote : splitAround? ['"'] (escape value.toList ++ '"' :: rest) =
      some (escape value.toList, rest) :=
    splitAround?_quote (fun _ => ne_of_mem_escape (by decide)) rest
  rw [hcs] at fresh ⊢
  rw [readAttributes]
  have start : (' ' :: (c :: cs ++ '=' :: '"' :: (escape value.toList ++ '"' :: rest))).dropWhile
      isMarkupBlank = c :: (cs ++ '=' :: '"' :: (escape value.toList ++ '"' :: rest)) := by
    simp [show isMarkupBlank ' ' = true by decide, blank]
  simp only [start, List.takeWhile_append_of_pos inName, List.dropWhile_append_of_pos inName]
  simp only [show isMarkupBlank '=' = false by decide, show isMarkupBlank '"' = false by decide,
    List.dropWhile_cons, List.takeWhile_cons, beq_self_eq_true, Bool.true_or, Bool.not_true,
    Bool.false_eq_true, if_false, List.append_nil, if_neg fresh, if_true, true_or, quote,
    unescape?_escape, String.ofList_toList]
  cases readAttributes ((c :: cs) :: seen) fuel rest <;> rfl

/-- All attributes of a tag are read, each with its value, and none besides. -/
theorem readAttributes_attributesText {seen : List (List Char)} {fuel : ℕ}
    (h : WellNamed attributes) (fresh : ∀ a ∈ attributes, a.1.toList ∉ seen)
    (enough : attributes.length ≤ fuel) :
    readAttributes seen fuel (Markup.attributesText attributes) =
      .ok (localAttributes attributes) := by
  induction attributes generalizing seen fuel with
  | nil => cases fuel <;> simp [readAttributes, localAttributes]
  | cons a attributes ih =>
    obtain ⟨names, distinct⟩ := h
    rw [List.forall_mem_cons] at names fresh
    rw [List.map_cons, List.nodup_cons] at distinct
    obtain ⟨fuel, rfl⟩ : ∃ n, fuel = n + 1 :=
      Nat.exists_eq_succ_of_ne_zero (Nat.ne_of_gt (Nat.lt_of_lt_of_le (Nat.succ_pos _) enough))
    have later : ∀ b ∈ attributes, b.1.toList ∉ a.1.toList :: seen := fun b hb => by
      rw [List.mem_cons, not_or, String.toList_inj]
      exact ⟨fun same => distinct.1 (same ▸ List.mem_map_of_mem hb), fresh.2 b hb⟩
    rw [Markup.attributesText_cons, readAttributes_written names.1 fresh.1,
      ih ⟨names.2, distinct.2⟩ later (Nat.le_of_succ_le_succ enough)]
    rfl

lemma length_le_attributesText (attributes : List (String × String)) :
    attributes.length ≤ (Markup.attributesText attributes).length := by
  induction attributes with
  | nil => simp
  | cons a attributes ih =>
    rw [Markup.attributesText_cons]
    simp only [List.length_cons, List.length_append]
    omega

/-! ### Tags -/

/-- What stands between the brackets of a tag falls into its name and its attributes. -/
lemma splitName (hname : IsName tag) (attributes : List (String × String)) :
    (tag.toList ++ Markup.attributesText attributes).takeWhile (fun c => !isMarkupBlank c) =
        tag.toList ∧
      (tag.toList ++ Markup.attributesText attributes).dropWhile (fun c => !isMarkupBlank c) =
        Markup.attributesText attributes := by
  have inName : ∀ c ∈ tag.toList, (!isMarkupBlank c) = true := fun c hc => by
    simp [hname.isMarkupBlank_eq hc]
  rw [List.takeWhile_append_of_pos inName, List.dropWhile_append_of_pos inName]
  cases attributes with
  | nil => simp
  | cons a attributes =>
    simp [Markup.attributesText_cons, show isMarkupBlank ' ' = true by decide]

/-- A tag that ends in its name or in an attribute does not close itself. -/
lemma closesItself_opening (hname : IsName tag) (attributes : List (String × String)) :
    closesItself (tag.toList ++ Markup.attributesText attributes) = false := by
  rcases List.eq_nil_or_concat attributes with rfl | ⟨before, a, rfl⟩
  · obtain ⟨c, hc⟩ := Option.ne_none_iff_exists'.1 (mt List.getLast?_eq_none_iff.1 hname.ne_nil)
    have : c ≠ '/' := hname.ne_of_mem (List.mem_of_getLast? hc) (by decide)
    simp [closesItself, hc, this]
  · simp [closesItself, Markup.attributesText, List.getLast?_append, List.getLast?_cons]

/-- Reading the attributes of a tag is given enough fuel for all of them. -/
lemma readAttributes_tag (h : WellNamed attributes) :
    readAttributes [] ((Markup.attributesText attributes).length + 1)
      (Markup.attributesText attributes) = .ok (localAttributes attributes) :=
  readAttributes_attributesText h (fun _ _ => List.not_mem_nil)
    (Nat.le_succ_of_le (length_le_attributesText attributes))

lemma openingToken_opening (hname : IsName tag) (h : WellNamed attributes) :
    openingToken (tag.toList ++ Markup.attributesText attributes) =
      .ok (.opening tag (localAttributes attributes)) := by
  simp [openingToken, closesItself_opening hname, splitName hname, readAttributes_tag h]

lemma openingToken_single (hname : IsName tag) (h : WellNamed attributes) :
    openingToken (tag.toList ++ Markup.attributesText attributes ++ ['/']) =
      .ok (.single tag (localAttributes attributes)) := by
  have closes : closesItself (tag.toList ++ Markup.attributesText attributes ++ ['/']) = true := by
    simp [closesItself]
  simp only [openingToken, closes, if_true, List.dropLast_concat, splitName hname,
    readAttributes_tag h, String.ofList_toList]

lemma closingName_name (hname : IsName tag) : closingName tag.toList = tag.toList := by
  obtain ⟨c, cs, hcs, -⟩ := hname.exists_cons
  rw [closingName, trimEnd_of_forall_not fun _ => hname.isMarkupBlank_eq, hcs]

/-- What begins with a name behind the bracket is an opening tag. -/
lemma frontOfMarkup_name (hname : IsName tag) {inner : List Char} {t : Token}
    (split : splitTag? none (tag.toList ++ cs) = some (inner, rest))
    (read : openingToken inner = .ok t) : frontOfMarkup (tag.toList ++ cs) = .token t rest := by
  obtain ⟨c, name, hcs, hc⟩ := hname.exists_cons
  have bang := hc '!' (by decide)
  have question := hc '?' (by decide)
  have slash := hc '/' (by decide)
  rw [hcs, List.cons_append] at split ⊢
  unfold frontOfMarkup
  split <;> simp_all

/-! ### The front of a written text -/

lemma front_bracket (rest : List Char) : front ('<' :: rest) = frontOfMarkup rest := rfl

/-- The tag that opens an element. -/
theorem front_opening (hname : IsName tag) (h : WellNamed attributes) (rest : List Char) :
    front ('<' :: (tag.toList ++ Markup.attributesText attributes ++ '>' :: rest)) =
      .token (.opening tag (localAttributes attributes)) rest := by
  have inside := (Inside.name hname).append (Markup.inside_attributesText h.1)
  have split := inside.splitTag?_eq rest
  rw [front_bracket, List.append_assoc] at *
  exact frontOfMarkup_name hname split (openingToken_opening hname h)

/-- The one tag of an element that is written as one tag. -/
theorem front_single (hname : IsName tag) (h : WellNamed attributes) (rest : List Char) :
    front ('<' :: (tag.toList ++ Markup.attributesText attributes ++ '/' :: '>' :: rest)) =
      .token (.single tag (localAttributes attributes)) rest := by
  have inside := ((Inside.name hname).append (Markup.inside_attributesText h.1)).append
    (.of_plain (by simp [isReserved] : ∀ c ∈ ['/'], _))
  have split := inside.splitTag?_eq rest
  rw [front_bracket]
  simp only [List.append_assoc, List.singleton_append] at split ⊢
  refine frontOfMarkup_name hname split ?_
  simpa only [List.append_assoc] using openingToken_single hname h

/-- The tag that closes an element. -/
theorem front_closing (hname : IsName tag) (rest : List Char) :
    front ('<' :: '/' :: (tag.toList ++ '>' :: rest)) = .token (.closing tag) rest := by
  have split := (Inside.name hname).splitTag?_eq rest
  rw [front_bracket]
  simp [frontOfMarkup, split, closingName_name hname]

/-- No character data stands at the front of a text. -/
def TagAhead (rest : List Char) : Prop := ∀ c ∈ rest.head?, c = '<'

lemma TagAhead.stops (h : TagAhead rest) :
    rest.takeWhile (· != '<') = [] ∧ rest.dropWhile (· != '<') = rest := by
  cases rest with
  | nil => simp
  | cons c rest => simp [h c (by simp)]

/-- Blanks are passed over, whatever follows. -/
theorem front_blank (h : trim isMarkupBlank cs = []) (rest : List Char) :
    front (cs ++ rest) = front rest := by
  rw [front, List.dropWhile_append, dropWhile_of_trim_eq_nil h]
  simp [front]

/-- Text in front of a tag, if not all of it is blank. -/
theorem front_text (hcs : '<' ∉ cs) (h : trim isMarkupBlank cs ≠ []) (hrest : TagAhead rest) :
    front (cs ++ rest) = .token (.text (trim isMarkupBlank cs)) rest := by
  have nonempty : cs.dropWhile isMarkupBlank ≠ [] := fun blank =>
    h (by rw [trim, trimStart, blank, trimEnd])
  obtain ⟨d, ds, hds⟩ := List.exists_cons_of_ne_nil nonempty
  have start : (cs ++ rest).dropWhile isMarkupBlank = d :: (ds ++ rest) := by
    rw [List.dropWhile_append, hds]
    simp
  have inText : ∀ c ∈ d :: ds, (c != '<') = true := fun c hc => by
    have hc : c ∈ cs := (List.dropWhile_suffix isMarkupBlank).subset (hds ▸ hc)
    exact bne_iff_ne.2 (ne_of_mem_of_not_mem hc hcs)
  rw [List.forall_mem_cons] at inText
  have hd : d ≠ '<' := by simpa using inText.1
  rw [front, start]
  simp only [List.takeWhile_append_of_pos inText.2, List.dropWhile_append_of_pos inText.2,
    hrest.stops, List.append_nil]
  rw [← hds, ← trimStart, ← trim]

/-- Escaped text is blank where the text is. -/
theorem front_escape_blank (h : trim isMarkupBlank cs = []) (rest : List Char) :
    front (escape cs ++ rest) = front rest :=
  front_blank (by rw [trim_escape, h, escape_nil]) rest

/-- Escaped text in front of a tag, if not all of it is blank. -/
theorem front_escape (h : trim isMarkupBlank cs ≠ []) (hrest : TagAhead rest) :
    front (escape cs ++ rest) = .token (.text (escape (trim isMarkupBlank cs))) rest := by
  have plain : '<' ∉ escape cs := fun hc => ne_of_mem_escape (by decide) hc rfl
  have kept : trim isMarkupBlank (escape cs) ≠ [] := by rwa [trim_escape, Ne, escape_eq_nil]
  rw [front_text plain kept hrest, trim_escape]

end MailCollector.Xml
