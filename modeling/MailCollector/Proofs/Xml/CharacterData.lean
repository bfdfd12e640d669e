import MailCollector.Proofs.Xml.Placing
import Mathlib.Data.List.Chain

/-!
# Pieces of character data

The character data of an element may be written in pieces: texts with references, sections that are
taken as they stand, and between them comments and instructions (`Piece`).  Texts that stand side by
side are one text (`joined`).  Each text loses the blanks at its ends before it is added to what the
element holds, so an element is read with what is kept of its pieces (`Occurrence.read_pieces`).
After trimming that is what the pieces mean, one after the other, if and only if no text has a blank
at one of its ends between two things that are not blank (`text_of_pieces`).  Otherwise the blank is
lost (`inner_space_is_lost`).
-/

namespace MailCollector.Xml

open MailCollector.Text

/-! ### Pieces -/

/-- A piece of the content of an element without children. -/
inductive Piece where
  /-- Character data with its references unresolved. -/
  | text (raw : List Char)
  /-- Character data that is taken as it stands. -/
  | verbatim (content : List Char)
  | comment (content : List Char)
  | instruction (content : List Char)
deriving DecidableEq, Repr

namespace Piece

/-- A piece as written. -/
def chars : Piece → List Char
  | text raw => raw
  | verbatim content => '<' :: '!' :: '[' :: 'C' :: 'D' :: 'A' :: 'T' :: 'A' :: '[' ::
      (content ++ [']', ']', '>'])
  | comment content => '<' :: '!' :: '-' :: '-' :: (content ++ ['-', '-', '>'])
  | instruction content => '<' :: '?' :: (content ++ ['?', '>'])

/-- A text is without angle brackets and has references that mean something, and what is in brackets
does not hold their end. -/
def Sound : Piece → Prop
  | text raw => '<' ∉ raw ∧ (unescape? raw).isSome
  | verbatim content => ¬ [']', ']', '>'] <:+: content
  | comment content => ¬ ['-', '-', '>'] <:+: content
  | instruction content => ¬ ['?', '>'] <:+: content ∧ content.head? ≠ some '>'

instance : DecidablePred Sound
  | text _ | instruction _ => inferInstanceAs (Decidable (_ ∧ _))
  | verbatim _ | comment _ => inferInstanceAs (Decidable (¬ _))

/-- The character data that a piece means. -/
def meaning : Piece → List Char
  | text raw => (unescape? raw).getD []
  | verbatim content => content
  | comment _ | instruction _ => []

/-- The character data that is kept of a piece. -/
def kept : Piece → List Char
  | text raw => (unescape? (trim isMarkupBlank raw)).getD []
  | verbatim content => content
  | comment _ | instruction _ => []

/-- The tokens that a piece falls into. Text that is all blank is no token. -/
def tokens : Piece → List Token
  | text raw =>
    let kept := trim isMarkupBlank raw
    if kept = [] then [] else [.text kept]
  | verbatim content => [.verbatim content]
  | comment _ | instruction _ => [.skipped]

/-- Whether a piece is a text. -/
def isText : Piece → Bool
  | text _ => true
  | verbatim _ | comment _ | instruction _ => false

/-- Whether a piece is a text that begins with a blank of markup. -/
def beginsBlank : Piece → Bool
  | text raw => raw.head?.any isMarkupBlank
  | verbatim _ | comment _ | instruction _ => false

/-- Whether a piece is a text that ends in a blank of markup. -/
def endsBlank : Piece → Bool
  | text raw => raw.getLast?.any isMarkupBlank
  | verbatim _ | comment _ | instruction _ => false

/-- Puts a piece in front of others.  Two texts that meet are one text. -/
def cons : Piece → List Piece → List Piece
  | text raw, text more :: ps => text (raw ++ more) :: ps
  | p, ps => p :: ps

end Piece

/-- Pieces of which no text follows another one, from which it could not be told. -/
def joined (ps : List Piece) : List Piece := ps.foldr Piece.cons []

/-- No text follows another one. -/
def Apart (ps : List Piece) : Prop :=
  ps.IsChain fun p q => p.isText = true → q.isText = false

/-- Character data that trimming removes altogether. -/
def Blank (cs : List Char) : Prop := ∀ c ∈ cs, isBlank c = true

instance (cs : List Char) : Decidable (Blank cs) := List.decidableBAll _ cs

/-- No text has a blank at one of its ends between two things that are not blank, where `before`
stands in front of the pieces. -/
def Tight (before : List Char) : List Piece → Prop
  | [] => True
  | p :: ps =>
    (p.beginsBlank → Blank before ∨ Blank (p.meaning ++ ps.flatMap Piece.meaning)) ∧
      (p.endsBlank → Blank (before ++ p.meaning) ∨ Blank (ps.flatMap Piece.meaning)) ∧
      Tight (before ++ p.meaning) ps

instance : (before : List Char) → (ps : List Piece) → Decidable (Tight before ps)
  | _, [] => isTrue trivial
  | before, p :: ps =>
    have := instDecidableTight (before ++ p.meaning) ps
    inferInstanceAs (Decidable (_ ∧ _ ∧ _))

/-! ### Pieces that meet -/

variable {ps : List Piece} {rest : List Char}

/-- What becomes of two pieces that meet, and of all others as well. -/
lemma Piece.cons_cases (p : Piece) (ps : List Piece) :
    p.cons ps = p :: ps ∧ (p.isText = true → ∀ q ∈ ps.head?, q.isText = false) ∨
      ∃ raw more others, p = .text raw ∧ ps = .text more :: others ∧
        p.cons ps = .text (raw ++ more) :: others := by
  cases p with
  | text raw =>
    cases ps with
    | nil => exact .inl ⟨rfl, by simp⟩
    | cons q others =>
      cases q with
      | text more => exact .inr ⟨raw, more, others, rfl, rfl, rfl⟩
      | _ => exact .inl ⟨rfl, by simp [isText]⟩
  | _ => exact .inl ⟨rfl, nofun⟩

lemma chars_joined (ps : List Piece) : (joined ps).flatMap Piece.chars = ps.flatMap Piece.chars := by
  induction ps with
  | nil => rfl
  | cons p ps ih =>
    rw [List.flatMap_cons, ← ih, joined, List.foldr_cons, ← joined]
    rcases p.cons_cases (joined ps) with ⟨hcons, -⟩ | ⟨raw, more, others, rfl, hjoined, hcons⟩
    · rw [hcons, List.flatMap_cons]
    · rw [hcons, hjoined, List.flatMap_cons, List.flatMap_cons, ← List.append_assoc]
      rfl

lemma apart_joined (ps : List Piece) : Apart (joined ps) := by
  induction ps with
  | nil => exact .nil
  | cons p ps ih =>
    rw [joined, List.foldr_cons, ← joined]
    rcases p.cons_cases (joined ps) with ⟨hcons, hhead⟩ | ⟨raw, more, others, rfl, hjoined, hcons⟩
    · rw [hcons]
      exact List.isChain_cons.2 ⟨fun q hq htext => hhead htext q hq, ih⟩
    · rw [hjoined] at ih
      rw [hcons]
      exact List.isChain_cons.2 (List.isChain_cons.1 ih)

/-- Two sound texts that meet are a sound text, which means what the two mean. -/
lemma Piece.Sound.append {raw more : List Char} (hraw : (text raw).Sound)
    (hmore : (text more).Sound) : (text (raw ++ more)).Sound ∧
      (text (raw ++ more)).meaning = (text raw).meaning ++ (text more).meaning := by
  obtain ⟨hplain, hsome⟩ := hraw
  obtain ⟨hplain', hsome'⟩ := hmore
  obtain ⟨meant, hmeant⟩ := Option.isSome_iff_exists.1 hsome
  obtain ⟨meant', hmeant'⟩ := Option.isSome_iff_exists.1 hsome'
  have hboth : unescape? (raw ++ more) = some (meant ++ meant') := by
    rw [unescape?, unescapeFrom_append hmeant, hmeant', Option.map_some]
  refine ⟨⟨by simp [hplain, hplain'], by simp [hboth]⟩, ?_⟩
  simp only [meaning, hboth, hmeant, hmeant', Option.getD_some]

/-- Joining sound pieces keeps them sound, and it keeps what they mean. -/
lemma sound_joined (hps : ∀ p ∈ ps, p.Sound) :
    (∀ p ∈ joined ps, p.Sound) ∧
      (joined ps).flatMap Piece.meaning = ps.flatMap Piece.meaning := by
  induction ps with
  | nil => exact ⟨hps, rfl⟩
  | cons p ps ih =>
    obtain ⟨hp, hps⟩ := List.forall_mem_cons.1 hps
    obtain ⟨hsound, hmeaning⟩ := ih hps
    rw [List.flatMap_cons, ← hmeaning, joined, List.foldr_cons, ← joined]
    rcases p.cons_cases (joined ps) with ⟨hcons, -⟩ | ⟨raw, more, others, rfl, hjoined, hcons⟩
    · rw [hcons]
      exact ⟨List.forall_mem_cons.2 ⟨hp, hsound⟩, List.flatMap_cons⟩
    · rw [hjoined] at hsound
      obtain ⟨hmore, hothers⟩ := List.forall_mem_cons.1 hsound
      obtain ⟨hboth, hmeant⟩ := hp.append hmore
      rw [hcons, hjoined, List.flatMap_cons, List.flatMap_cons, hmeant, List.append_assoc]
      exact ⟨List.forall_mem_cons.2 ⟨hboth, hothers⟩, rfl⟩

/-! ### Tokens of pieces -/

/-- An end whose last character stands nowhere else in it does not begin inside a text that does
not hold it. -/
lemma not_prefix_of_close {body content rest : List Char} {last c : Char} (hlast : last ∉ body)
    (hcontent : ¬ body ++ [last] <:+: c :: content) :
    ¬ body ++ [last] <+: c :: (content ++ (body ++ [last] ++ rest)) := by
  intro hprefix
  have hfront : c :: content <+: c :: (content ++ (body ++ [last] ++ rest)) :=
    List.prefix_append (c :: content) _
  rcases Nat.lt_or_ge (c :: content).length (body ++ [last]).length with hlong | hshort
  · -- The end reaches beyond the text, so that its last character comes early in the true end.
    obtain ⟨t, ht⟩ := List.prefix_of_prefix_length_le hfront hprefix (Nat.le_of_lt hlong)
    have hlength := congrArg List.length ht
    simp only [List.length_append, List.length_cons, List.length_nil] at hlength hlong
    have hwhole : t <+: body ++ [last] ++ rest := by
      rw [← List.prefix_append_right_inj (c :: content), ht]
      exact hprefix
    have hbody : t <+: body := by
      refine List.prefix_of_prefix_length_le hwhole ?_ (by omega)
      exact (List.prefix_append body [last]).trans (List.prefix_append _ rest)
    have hmem : last ∈ t := by
      have hne : t ≠ [] := by
        rintro rfl
        simp only [List.length_nil] at hlength
        omega
      have hend : last ∈ t.getLast? := by
        rw [← List.getLast?_append_of_ne_nil (c :: content) hne, ht, List.getLast?_concat]
        rfl
      exact List.mem_of_getLast? hend
    exact hlast (hbody.subset hmem)
  · exact hcontent (List.prefix_of_prefix_length_le hprefix hfront hshort).isInfix

/-- The first end is found behind a text that does not hold it, if its last character stands nowhere
else in it. -/
lemma splitAround?_close {body content : List Char} {last : Char} (hlast : last ∉ body)
    (hcontent : ¬ body ++ [last] <:+: content) (rest : List Char) :
    splitAround? (body ++ [last]) (content ++ (body ++ [last]) ++ rest) = some (content, rest) := by
  rw [List.append_assoc]
  induction content with
  | nil =>
    rw [List.nil_append]
    cases hclose : body ++ [last] ++ rest with
    | nil => simp at hclose
    | cons c cs =>
      have hprefix : body ++ [last] <+: c :: cs := hclose ▸ List.prefix_append _ _
      rw [splitAround?, if_pos (List.isPrefixOf_iff_prefix.2 hprefix), ← hclose, List.drop_left]
  | cons c content ih =>
    have hlater : ¬ body ++ [last] <:+: content := fun h => hcontent (List.infix_cons h)
    rw [List.cons_append, splitAround?, if_neg, ih hlater]
    · rfl
    · rw [List.isPrefixOf_iff_prefix]
      exact not_prefix_of_close hlast hcontent

namespace Piece

/-- A sound piece that is no text is taken off the front of a text as its own token. -/
lemma front_of_not_text {p : Piece} (hp : p.Sound) (htext : p.isText = false) (rest : List Char) :
    ∃ t, p.tokens = [t] ∧ front (p.chars ++ rest) = .token t rest := by
  cases p with
  | text raw => cases htext
  | verbatim content =>
    have hcloses : '>' ∉ [']', ']'] := by decide
    have hsplit : splitAround? [']', ']', '>'] (content ++ [']', ']', '>'] ++ rest) =
        some (content, rest) := splitAround?_close hcloses hp rest
    refine ⟨_, rfl, ?_⟩
    change frontOfDeclaration ('[' :: 'C' :: 'D' :: 'A' :: 'T' :: 'A' :: '[' ::
      (content ++ [']', ']', '>'] ++ rest)) = _
    rw [frontOfDeclaration, hsplit]
  | comment content =>
    have hcloses : '>' ∉ ['-', '-'] := by decide
    have hsplit : splitAround? ['-', '-', '>'] (content ++ ['-', '-', '>'] ++ rest) =
        some (content, rest) := splitAround?_close hcloses hp rest
    refine ⟨_, rfl, ?_⟩
    change skippedUpTo (splitAround? ['-', '-', '>'] (content ++ ['-', '-', '>'] ++ rest)) = _
    rw [hsplit]
    rfl
  | instruction content =>
    have hcloses : '>' ∉ ['?'] := by decide
    have hsplit : splitAround? ['?', '>'] (content ++ ['?', '>'] ++ rest) =
        some (content, rest) := splitAround?_close hcloses hp.1 rest
    refine ⟨_, rfl, ?_⟩
    have hskipped : frontOfMarkup ('?' :: (content ++ ['?', '>'] ++ rest)) =
        skippedUpTo (splitAround? ['?', '>'] (content ++ ['?', '>'] ++ rest)) := by
      cases content with
      | nil => rfl
      | cons c content =>
        have hc : c ≠ '>' := fun h => hp.2 (congrArg some h)
        unfold frontOfMarkup
        split <;> simp_all
    exact hskipped.trans (by rw [hsplit]; rfl)

/-- A piece that is no text begins with an angle bracket. -/
lemma tagAhead_chars {p : Piece} (htext : p.isText = false) (rest : List Char) :
    TagAhead (p.chars ++ rest) := by
  cases p with
  | text raw => cases htext
  | _ => simp [TagAhead, chars]

end Piece

/-- Pieces of which no text follows another one fall into their tokens, in front of a tag. -/
lemma tokens_pieces (hps : ∀ p ∈ ps, p.Sound) (hapart : Apart ps) (hrest : TagAhead rest) :
    tokens (ps.flatMap Piece.chars ++ rest) =
      (ps.flatMap Piece.tokens ++ (tokens rest).1, (tokens rest).2) := by
  induction ps with
  | nil => rfl
  | cons p ps ih =>
    obtain ⟨hp, hps⟩ := List.forall_mem_cons.1 hps
    obtain ⟨hhead, hapart⟩ := List.isChain_cons.1 hapart
    have hothers := ih hps hapart
    rw [List.flatMap_cons, List.flatMap_cons, List.append_assoc, List.append_assoc]
    cases htext : p.isText with
    | false =>
      obtain ⟨t, htokens, hfront⟩ := Piece.front_of_not_text hp htext
        (ps.flatMap Piece.chars ++ rest)
      rw [tokens_of_front hfront, hothers, htokens]
      rfl
    | true =>
      cases p with
      | text raw =>
        have hahead : TagAhead (ps.flatMap Piece.chars ++ rest) := by
          cases ps with
          | nil => exact hrest
          | cons q ps =>
            rw [List.flatMap_cons, List.append_assoc]
            exact Piece.tagAhead_chars (hhead q rfl htext) _
        by_cases hblank : trim isMarkupBlank raw = []
        · rw [Piece.chars, tokens_eq, front_blank hblank, ← tokens_eq, hothers, Piece.tokens,
            if_pos hblank, List.nil_append]
        · rw [Piece.chars, tokens_of_front (front_text hp.1 hblank hahead), hothers, Piece.tokens,
            if_neg hblank]
          rfl
      | _ => cases htext

/-! ### What is kept -/

lemma blank_append {cs ds : List Char} : Blank (cs ++ ds) ↔ Blank cs ∧ Blank ds :=
  List.forall_mem_append

lemma blank_of_markup {cs : List Char} (h : ∀ c ∈ cs, isMarkupBlank c = true) : Blank cs :=
  fun c hc => isBlank_of_isMarkupBlank c (h c hc)

/-- What a piece means is what is kept of it, between blanks. -/
structure Piece.Margins (p : Piece) (ls rs : List Char) : Prop where
  left : Blank ls
  right : Blank rs
  meaning : p.meaning = ls ++ (p.kept ++ rs)
  left_eq_nil : ls = [] ↔ p.beginsBlank = false
  right_eq_nil : rs = [] ↔ p.endsBlank = false ∨ p.kept = []
  whole : p.kept = [] → p.endsBlank = true → p.beginsBlank = true

/-- What is kept of a sound text has references that mean something. -/
lemma Piece.Sound.unescape?_trim {raw : List Char} (hp : (text raw).Sound) :
    unescape? (trim isMarkupBlank raw) = some (text raw).kept := by
  obtain ⟨meant, hmeant⟩ := Option.isSome_iff_exists.1 hp.2
  obtain ⟨ls, rs, hls, hrs, hraw, -, -⟩ := exists_margins isMarkupBlank raw
  rw [hraw, unescape?, unescapeFrom_append (unescape?_of_blank hls)] at hmeant
  obtain ⟨inner, hinner, -⟩ := Option.map_eq_some_iff.1 hmeant
  obtain ⟨kept, hkept⟩ := unescapeFrom_of_append_blank hrs hinner
  have hpiece : (text raw).kept = kept := congrArg (Option.getD · []) hkept
  rwa [hpiece]

lemma Piece.Sound.margins {p : Piece} (hp : p.Sound) : ∃ ls rs, p.Margins ls rs := by
  cases p with
  | text raw =>
    have hkept := hp.unescape?_trim
    obtain ⟨ls, rs, hls, hrs, hraw, hleft, hright⟩ := exists_margins isMarkupBlank raw
    have hnil : trim isMarkupBlank raw = [] ↔ (text raw).kept = [] := by
      refine ⟨fun hnil => ?_, fun hnil => eq_nil_of_unescape? (hnil ▸ hkept)⟩
      rw [hnil] at hkept
      exact (Option.some.inj hkept).symm
    refine ⟨ls, rs, blank_of_markup hls, blank_of_markup hrs, ?_, ?_, ?_, ?_⟩
    · have hmeant : unescape? raw = some (ls ++ ((text raw).kept ++ rs)) := by
        conv_lhs => rw [hraw]
        rw [unescape?, unescapeFrom_append (unescape?_of_blank hls), unescape?,
          unescapeFrom_append hkept, unescape?_of_blank hrs]
        rfl
      exact congrArg (Option.getD · []) hmeant
    · rw [hleft, beginsBlank]
      cases raw.head? <;> simp
    · rw [hright, hnil, or_comm, endsBlank]
      cases raw.getLast? <;> simp
    · intro hempty hends
      -- A text that is all blank begins with a blank if there is anything of it.
      have hblank := dropWhile_of_trim_eq_nil (hnil.2 hempty)
      cases raw with
      | nil => cases hends
      | cons c cs => exact List.dropWhile_eq_nil_iff.1 hblank c List.mem_cons_self
  | _ =>
    refine ⟨[], [], List.forall_mem_nil _, List.forall_mem_nil _, (List.append_nil _).symm, ?_, ?_,
      ?_⟩
    · exact iff_of_true rfl rfl
    · exact iff_of_true rfl (.inl rfl)
    · intro _ hends
      cases hends

/-- Of texts that are parts of one another the ends are equal if and only if each step is. -/
lemma sublist_chain_eq_iff {as bs cs ds : List Char} (hab : as.Sublist bs) (hbc : bs.Sublist cs)
    (hcd : cs.Sublist ds) : as = ds ↔ as = bs ∧ bs = cs ∧ cs = ds := by
  constructor
  · rintro rfl
    have hbs : as = bs := hab.antisymm (hbc.trans hcd)
    subst hbs
    exact ⟨rfl, hbc.antisymm hcd, hcd.antisymm hbc⟩
  · rintro ⟨rfl, rfl, rfl⟩
    rfl

lemma trim_kept_sublist (hps : ∀ p ∈ ps, p.Sound) (cs : List Char) :
    (trim isBlank (cs ++ ps.flatMap Piece.kept)).Sublist
      (trim isBlank (cs ++ ps.flatMap Piece.meaning)) := by
  induction ps generalizing cs with
  | nil => exact .refl _
  | cons p ps ih =>
    obtain ⟨hp, hps⟩ := List.forall_mem_cons.1 hps
    obtain ⟨ls, rs, hmargins⟩ := hp.margins
    rw [List.flatMap_cons, List.flatMap_cons, hmargins.meaning]
    have hothers := ih hps (cs ++ p.kept)
    have hright := trim_sublist hmargins.right (cs ++ p.kept) (ps.flatMap Piece.meaning)
    have hleft := trim_sublist hmargins.left cs (p.kept ++ (rs ++ ps.flatMap Piece.meaning))
    simp only [List.append_assoc] at hothers hright hleft ⊢
    exact hothers.trans (hright.trans hleft)

/-- After trimming, what is kept of pieces is what they mean if and only if they are tight. -/
lemma trim_kept_eq_iff (hps : ∀ p ∈ ps, p.Sound) {cs before : List Char}
    (hbefore : Blank cs ↔ Blank before) :
    trim isBlank (cs ++ ps.flatMap Piece.kept) = trim isBlank (cs ++ ps.flatMap Piece.meaning) ↔
      Tight before ps := by
  induction ps generalizing cs before with
  | nil => exact iff_of_true rfl trivial
  | cons p ps ih =>
    obtain ⟨hp, hps⟩ := List.forall_mem_cons.1 hps
    obtain ⟨ls, rs, hmargins⟩ := hp.margins
    have hmeans : Blank p.meaning ↔ Blank p.kept := by
      rw [hmargins.meaning, blank_append, blank_append]
      exact ⟨fun h => h.2.1, fun h => ⟨hmargins.left, h, hmargins.right⟩⟩
    have hthrough : Blank (cs ++ p.kept) ↔ Blank (before ++ p.meaning) := by
      rw [blank_append, blank_append, hbefore, hmeans]
    have hothers := ih hps hthrough
    have hright := trim_eq_iff hmargins.right (cs ++ p.kept) (ps.flatMap Piece.meaning)
    have hleft := trim_eq_iff hmargins.left cs (p.kept ++ (rs ++ ps.flatMap Piece.meaning))
    have hchain := sublist_chain_eq_iff (trim_kept_sublist hps (cs ++ p.kept))
      (trim_sublist hmargins.right (cs ++ p.kept) (ps.flatMap Piece.meaning))
      (List.append_assoc cs _ _ ▸
        trim_sublist hmargins.left cs (p.kept ++ (rs ++ ps.flatMap Piece.meaning)))
    rw [List.flatMap_cons, List.flatMap_cons, ← List.append_assoc, hmargins.meaning,
      List.append_assoc ls, List.append_assoc p.kept, hchain, hothers, hright,
      List.append_assoc cs p.kept, hleft, hmargins.left_eq_nil, hmargins.right_eq_nil, Tight]
    change _ ∧ (_ ∨ Blank (cs ++ p.kept) ∨ Blank _) ∧ (_ ∨ Blank cs ∨ Blank _) ↔ _
    simp only [blank_append, hbefore, hmeans, hmargins.right, true_and]
    constructor
    · rintro ⟨htight, hends, hbegins⟩
      have hbegins : p.beginsBlank = true → _ := fun h => hbegins.resolve_left (by simp [h])
      refine ⟨hbegins, fun h => ?_, htight⟩
      rcases hends with (hnot | hnil) | hends
      · rw [hnot] at h
        cases h
      · have hblank : Blank p.kept := by
          rw [hnil]
          exact List.forall_mem_nil _
        exact (hbegins (hmargins.whole hnil h)).imp (⟨·, hblank⟩) And.right
      · exact hends
    · rintro ⟨hbegins, hends, htight⟩
      refine ⟨htight, ?_, ?_⟩
      · cases h : p.endsBlank with
        | false => exact .inl (.inl rfl)
        | true => exact .inr (hends h)
      · cases h : p.beginsBlank with
        | false => exact .inl rfl
        | true => exact .inr (hbegins h)

/-! ### Readings of pieces -/

namespace Reading

variable {r : Reading}

lemma addText_addText (r : Reading) (content more : List Char) :
    (r.addText content).addText more = r.addText (content ++ more) := by
  obtain ⟨_ | ⟨top, stack⟩, root⟩ := r
  · rfl
  · simp [addText, String.append_assoc]

/-- Inside an open element a sound piece adds what is kept of it. -/
lemma all_piece {p : Piece} (hp : p.Sound) (hstack : r.stack ≠ []) (fault : Option Fault)
    (ts : List Token) : r.all fault (p.tokens ++ ts) = (r.addText p.kept).all fault ts := by
  cases p with
  | text raw =>
    have hkept := hp.unescape?_trim
    rw [Piece.tokens]
    by_cases hblank : trim isMarkupBlank raw = []
    · rw [hblank] at hkept
      rw [if_pos hblank, ← Option.some.inj hkept, addText_nil, List.nil_append]
    · rw [if_neg hblank]
      refine all_cons ?_ fault ts
      obtain ⟨top, stack, hopen⟩ := List.exists_cons_of_ne_nil hstack
      simp only [next, hopen, hkept]
  | verbatim content => exact all_cons rfl fault ts
  | _ =>
    rw [Piece.kept, addText_nil]
    exact all_cons rfl fault ts

/-- Inside an open element sound pieces add what is kept of them. -/
lemma all_pieces (hps : ∀ p ∈ ps, p.Sound) (hstack : r.stack ≠ []) (fault : Option Fault)
    (ts : List Token) :
    r.all fault (ps.flatMap Piece.tokens ++ ts) =
      (r.addText (ps.flatMap Piece.kept)).all fault ts := by
  induction ps generalizing r with
  | nil => rw [List.flatMap_nil, List.flatMap_nil, List.nil_append, addText_nil]
  | cons p ps ih =>
    obtain ⟨hp, hps⟩ := List.forall_mem_cons.1 hps
    have hopen : (r.addText p.kept).stack ≠ [] := by
      rwa [← List.length_pos_iff, length_addText, List.length_pos_iff]
    rw [List.flatMap_cons, List.append_assoc, all_piece hp hstack, ih hps hopen, addText_addText,
      List.flatMap_cons]

end Reading

/-! ### Elements in documents -/

/-- An element in a document that holds nothing but pieces of character data. -/
structure Occurrence where
  text : String
  root : Element
  before : List Char
  opening : List Char
  pieces : List Piece
  closing : List Char
  after : List Char
  name : String
  attributes : List (String × String)
  read : parse text = .ok root
  written : withoutMark text.toList =
    before ++ (opening ++ (pieces.flatMap Piece.chars ++ (closing ++ after)))
  opens : IsTag (.opening name attributes) opening
  closes : IsTag (.closing name) closing
  sound : ∀ p ∈ pieces, p.Sound
  /-- The root of the document has not ended in front of the element. -/
  early : ∃ ts r, tokens before = (ts, none) ∧ Reading.all {} none ts = .ok r ∧ r.root = none

namespace Occurrence

/-- The element that is read. -/
def element (o : Occurrence) : Element :=
  { Reading.opened o.name o.attributes with
    content := String.ofList ((joined o.pieces).flatMap Piece.kept) }

/-- The character data that the pieces mean. -/
def meaning (o : Occurrence) : List Char := o.pieces.flatMap Piece.meaning

/-- The tokens of the document in front of the element, in it and behind it. -/
lemma tokens_written (o : Occurrence) {ts : List Token} (hbefore : tokens o.before = (ts, none)) :
    tokens (withoutMark o.text.toList) =
      (ts ++ .opening o.name o.attributes :: ((joined o.pieces).flatMap Piece.tokens ++
        .closing o.name :: (tokens o.after).1), (tokens o.after).2) := by
  have hclosing := o.closes.tokens nofun o.after
  have hahead : TagAhead (o.closing ++ o.after) := by
    intro c hc
    rw [List.head?_append, o.closes.bracket] at hc
    exact (Option.some.inj hc).symm
  have hpieces := tokens_pieces (sound_joined o.sound).1 (apart_joined o.pieces) hahead
  rw [chars_joined, hclosing] at hpieces
  have hopening := o.opens.tokens nofun
    (o.pieces.flatMap Piece.chars ++ (o.closing ++ o.after))
  rw [hpieces] at hopening
  obtain ⟨tag, htag⟩ := List.head?_eq_some_iff.1 o.opens.bracket
  have hwhole := tokens_append_markup hbefore
    (tag ++ (o.pieces.flatMap Piece.chars ++ (o.closing ++ o.after)))
  rw [← List.cons_append, ← htag, hopening] at hwhole
  rw [o.written, hwhole]

/-- The element is in the document, with what is kept of its pieces. -/
lemma read_pieces (o : Occurrence) : o.element = o.root ∨ Below o.element o.root := by
  obtain ⟨ts, r, hbefore, hall, hroot⟩ := o.early
  obtain ⟨final, hfinal, -, hfinalroot⟩ := parse_eq_ok_iff.1 o.read
  rw [o.tokens_written hbefore] at hfinal
  obtain ⟨middle, hmiddle, hrest⟩ := Reading.all_append_eq_ok hfinal
  obtain rfl : r = middle := Except.ok.inj (hall.symm.trans hmiddle)
  rw [Reading.all_cons rfl, Reading.all_pieces (sound_joined o.sound).1 (List.cons_ne_nil _ _)]
    at hrest
  obtain ⟨r₁, hnext, hothers⟩ := Reading.next_of_all_cons hrest
  have hplaced : r₁ = r.place o.element := by
    simp only [Reading.addText, Reading.next, if_true] at hnext
    cases hnext
    simp [element, Reading.opened]
  have hholds : Reading.Holds o.element final :=
    (Reading.holds_place hroot (.inl rfl)).all (hplaced ▸ hothers)
  rcases hholds with ⟨hnone, -⟩ | ⟨root, hsome, h⟩
  · cases hnone.symm.trans hfinalroot
  · cases hsome.symm.trans hfinalroot
    exact h

end Occurrence

/-! ### The main result -/

/-- Texts have the same value if and only if trimming leaves the same of them. -/
lemma trimmed?_ofList_eq_iff {cs ds : List Char} :
    trimmed? (String.ofList cs) = trimmed? (String.ofList ds) ↔
      trim isBlank cs = trim isBlank ds := by
  have hvalue : ∀ cs, trimmed? (String.ofList cs) =
      if trim isBlank cs = [] then none else some (String.ofList (trim isBlank cs)) := by
    intro cs
    simp [trimmed?, trimmed]
  rw [hvalue, hvalue]
  split_ifs with hcs hds hds
  · simp [hcs, hds]
  · simp [hcs, Ne.symm hds]
  · simp [hds, hcs]
  · rw [Option.some.injEq]
    exact ⟨fun h => by simpa using congrArg String.toList h, congrArg String.ofList⟩

/-- The text of an element that holds nothing but pieces of character data is what is kept of them,
trimmed.  That is what they mean, one after the other and trimmed at both ends, if and only if they
are tight. -/
theorem text_of_pieces (o : Occurrence) :
    (o.element = o.root ∨ Below o.element o.root) ∧
      o.element.text? =
        trimmed? (String.ofList ((joined o.pieces).flatMap Piece.kept)) ∧
      (o.element.text? = trimmed? (String.ofList o.meaning) ↔ Tight [] (joined o.pieces)) := by
  obtain ⟨hsound, hmeaning⟩ := sound_joined o.sound
  refine ⟨o.read_pieces, rfl, ?_⟩
  have hexact := trim_kept_eq_iff hsound (Iff.refl (Blank []))
  rw [List.nil_append, List.nil_append, hmeaning] at hexact
  exact trimmed?_ofList_eq_iff.trans hexact

/-- Blanks inside a section and at the two ends of the whole do no harm. -/
example : Tight [] (joined
    [.text "\n Hello".toList, .comment "to all".toList, .verbatim " World".toList,
      .text " ".toList]) := by
  decide

/-- A greeting in a text and a section. -/
def greeting : Occurrence where
  text := "<s>Hello <![CDATA[World]]></s>"
  root := { name := "s", content := "HelloWorld" }
  before := []
  opening := "<s>".toList
  pieces := [.text "Hello ".toList, .verbatim "World".toList]
  closing := "</s>".toList
  after := []
  name := "s"
  attributes := []
  read := by
    have hread : (parse "<s>Hello <![CDATA[World]]></s>").toOption.map (fun e =>
        (e.name, e.attributes, e.content, e.children.isEmpty)) =
          some ("s", [], "HelloWorld", true) := by decide +kernel
    cases hparse : parse "<s>Hello <![CDATA[World]]></s>" with
    | error fault =>
      rw [hparse] at hread
      cases hread
    | ok e =>
      rw [hparse] at hread
      obtain ⟨name, attributes, content, children⟩ := e
      change some (name, attributes, content, children.isEmpty) = _ at hread
      simp only [Option.some.injEq, Prod.mk.injEq, List.isEmpty_iff] at hread
      obtain ⟨rfl, rfl, rfl, rfl⟩ := hread
      rfl
  written := by decide +kernel
  opens := ⟨by decide +kernel, rfl⟩
  closes := ⟨by decide +kernel, rfl⟩
  sound := by decide +kernel
  early := ⟨[], {}, by decide +kernel, rfl, rfl⟩

/-- The space between the two is lost. -/
theorem inner_space_is_lost :
    greeting.element.text? = some "HelloWorld" ∧
      trimmed? (String.ofList greeting.meaning) = some "Hello World" := by
  decide

end MailCollector.Xml
