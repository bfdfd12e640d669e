import MailCollector.Proofs.Xml.Tokens
import MailCollector.Proofs.Xml.WrittenTags

/-!
# Reading back what was written

A tree of markup is written as a text, the text falls into tokens, and the tokens build elements
again. `Markup.tokens` says which tokens come out of a piece of markup, `Markup.element?` which
element; `tokens_chars` and `all_tokens` are the two halves of the way, each by induction along the
tree, with anything at all behind the piece. Together they give `parse_documentText`: a document
with plain names is read back whole, whatever its texts and attribute values are.
-/

namespace MailCollector.Xml

open MailCollector.Text

namespace Markup

/-- Whether a piece of markup is character data. -/
def isText : Markup → Bool
  | text _ => true
  | _ => false

mutual

/-- Names are plain, and no text follows another one, from which it could not be told. -/
def Sound : Markup → Prop
  | text _ => True
  | single tag attributes => IsName tag ∧ WellNamed attributes
  | element tag attributes content => (IsName tag ∧ WellNamed attributes) ∧ AllSound content

/-- Several pieces of markup that may stand side by side. -/
def AllSound : List Markup → Prop
  | [] => True
  | m :: ms => m.Sound ∧ (m.isText → ∀ n ∈ ms.head?, n.isText = false) ∧ AllSound ms

end

mutual

/-- The tokens that a written piece of markup falls into. Text that is all blank is no token. -/
def tokens : Markup → List Token
  | text content =>
    let kept := trim isMarkupBlank content.toList
    if kept = [] then [] else [.text (escape kept)]
  | single tag attributes => [.single tag (localAttributes attributes)]
  | element tag attributes content =>
    .opening tag (localAttributes attributes) :: (allTokens content ++ [.closing tag])

/-- The tokens of several pieces of markup. -/
def allTokens : List Markup → List Token
  | [] => []
  | m :: ms => m.tokens ++ allTokens ms

end

/-- The character data directly among several pieces of markup, as it is read. -/
def ownText (ms : List Markup) : List Char :=
  ms.flatMap fun
    | text content => trim isMarkupBlank content.toList
    | _ => []

mutual

/-- The element that a piece of markup is read as, if it is not a text. -/
def element? : Markup → Option Element
  | text _ => none
  | single tag attributes => some (Reading.opened tag (localAttributes attributes))
  | element tag attributes content =>
    some { Reading.opened tag (localAttributes attributes) with
      content := String.ofList (ownText content), children := elements content }

/-- The elements that several pieces of markup are read as. -/
def elements : List Markup → List Element
  | [] => []
  | m :: ms => m.element?.toList ++ elements ms

end

end Markup

/-! ### Tokens -/

namespace Markup

variable {rest : List Char}

lemma tagAhead_chars {m : Markup} (h : m.isText = false) (rest : List Char) :
    TagAhead (m.chars ++ rest) := by
  cases m with
  | text content => cases h
  | single tag attributes => simp [TagAhead, chars]
  | element tag attributes content => simp [TagAhead, chars]

/-- Whatever follows a text among sound markup, it is a tag. -/
lemma tagAhead_allChars {ms : List Markup} (h : ∀ n ∈ ms.head?, n.isText = false)
    (hrest : TagAhead rest) : TagAhead (allChars ms ++ rest) := by
  cases ms with
  | nil => simpa [allChars] using hrest
  | cons m ms =>
    rw [allChars, List.append_assoc]
    exact tagAhead_chars (h m rfl) _

lemma tokens_text (content : String) (hrest : TagAhead rest) :
    Xml.tokens ((text content).chars ++ rest) =
      ((text content).tokens ++ (Xml.tokens rest).1, (Xml.tokens rest).2) := by
  by_cases blank : trim isMarkupBlank content.toList = []
  · rw [chars, tokens_eq, front_escape_blank blank, ← tokens_eq, tokens, if_pos blank, List.nil_append]
  · rw [chars, tokens_of_front (front_escape blank hrest), tokens, if_neg blank]
    rfl

mutual

/-- A written piece of markup is taken off the front of a text as its own tokens. -/
theorem tokens_chars (m : Markup) (h : m.Sound) (rest : List Char)
    (hrest : m.isText = true → TagAhead rest) :
    Xml.tokens (m.chars ++ rest) =
      (m.tokens ++ (Xml.tokens rest).1, (Xml.tokens rest).2) := by
  match m with
  | text content => exact tokens_text content (hrest rfl)
  | single tag attributes =>
    have := tokens_of_front (front_single h.1 h.2 rest)
    simpa [chars, tokens] using this
  | element tag attributes content =>
    obtain ⟨⟨hname, hattributes⟩, hcontent⟩ := h
    have opening := tokens_of_front (front_opening hname hattributes
      (allChars content ++ '<' :: '/' :: (tag.toList ++ '>' :: rest)))
    have closing := tokens_of_front (front_closing hname rest)
    have inner := tokens_allChars content hcontent
      ('<' :: '/' :: (tag.toList ++ '>' :: rest)) (by simp [TagAhead])
    rw [closing] at inner
    rw [inner] at opening
    simpa [chars, tokens] using opening

/-- So are several pieces side by side, in front of a tag. -/
theorem tokens_allChars (ms : List Markup) (h : AllSound ms) (rest : List Char) (hrest : TagAhead rest) :
    Xml.tokens (allChars ms ++ rest) =
      (allTokens ms ++ (Xml.tokens rest).1, (Xml.tokens rest).2) := by
  match ms with
  | [] => simp [allChars, allTokens]
  | m :: ms =>
    obtain ⟨hm, apart, hms⟩ := h
    rw [allChars, List.append_assoc,
      tokens_chars m hm _ fun isText => tagAhead_allChars (apart isText) hrest,
      tokens_allChars ms hms rest hrest, allTokens, List.append_assoc]

end

end Markup

/-! ### Elements -/

namespace Reading

open Markup

variable {r : Reading}

/-- The reading behind a piece of markup. -/
def pass (r : Reading) (m : Markup) : Reading :=
  match m.element? with
  | some e => r.place e
  | none => r.addText (ownText [m])

lemma addText_nil (r : Reading) : r.addText [] = r := by
  obtain ⟨_ | ⟨⟨fullName, ⟨_, _, _, _⟩⟩, stack⟩, root⟩ := r <;> simp [addText]

lemma all_cons {t : Token} {r' : Reading} (h : r.next t = .ok r') (fault : Option Fault)
    (ts : List Token) : r.all fault (t :: ts) = r'.all fault ts := by
  rw [all, h]

/-- Inside an open element, markup leaves its text and its elements there. -/
lemma foldl_pass (name : String) (e : Element) (stack : List OpenElement) (root : Option Element)
    (ms : List Markup) :
    ms.foldl pass { stack := ⟨name, e⟩ :: stack, root := root } =
      { stack := ⟨name, { e with
          content := e.content ++ String.ofList (ownText ms),
          children := e.children ++ elements ms }⟩ :: stack,
        root := root } := by
  induction ms generalizing e with
  | nil =>
    cases e
    simp [ownText, elements]
  | cons m ms ih =>
    rw [List.foldl_cons]
    cases m <;>
      simp [pass, element?, place, addText, ih, ownText, elements, String.append_assoc]

mutual

/-- The tokens of a piece of markup are read as that piece, and nothing else changes. -/
theorem all_tokens (m : Markup) (r : Reading) (fault : Option Fault) (ts : List Token) :
    r.all fault (m.tokens ++ ts) = (r.pass m).all fault ts := by
  match m with
  | text content =>
    have pass_eq : r.pass (text content) = r.addText (trim isMarkupBlank content.toList) := by
      simp [pass, element?, ownText]
    rw [pass_eq, Markup.tokens]
    by_cases blank : trim isMarkupBlank content.toList = []
    · rw [if_pos blank, blank, addText_nil, List.nil_append]
    · rw [if_neg blank]
      refine all_cons ?_ fault ts
      obtain ⟨_ | ⟨top, stack⟩, root⟩ := r
      · rfl
      · simp [next]
  | single tag attributes => exact all_cons rfl fault ts
  | element tag attributes content =>
    rw [Markup.tokens, List.cons_append, List.append_assoc, all_cons rfl,
      all_allTokens content, foldl_pass]
    refine (all_cons ?_ fault ts).trans rfl
    simp [next, pass, element?, opened]

theorem all_allTokens (ms : List Markup) (r : Reading) (fault : Option Fault) (ts : List Token) :
    r.all fault (allTokens ms ++ ts) = (ms.foldl pass r).all fault ts := by
  match ms with
  | [] => rfl
  | m :: ms =>
    rw [allTokens, List.append_assoc, all_tokens m, all_allTokens ms, List.foldl_cons]

end

end Reading

/-! ### Documents -/

/-- The declaration in front of a document is skipped with the line break behind it. -/
lemma tokens_declaration (cs : List Char) :
    tokens (declaration ++ cs) = (.skipped :: (tokens cs).1, (tokens cs).2) := by
  have skipped : front (declaration ++ cs) = .token .skipped ('\n' :: cs) := rfl
  have lineBreak : front ('\n' :: cs) = front cs := rfl
  rw [tokens_of_front skipped, tokens_eq ('\n' :: cs), lineBreak, ← tokens_eq]

/-- A document that was written from markup with plain names is read back as the element that the
markup stands for. -/
theorem parse_documentText {root : Markup} {e : Element} (h : root.Sound)
    (he : root.element? = some e) : parse (documentText root) = .ok e := by
  have written : tokens (declaration ++ root.chars) = (.skipped :: root.tokens, none) := by
    have whole := Markup.tokens_chars root h [] (by simp [TagAhead])
    have finished : tokens [] = ([], none) := by
      rw [tokens_eq]
      rfl
    simp only [finished, List.append_nil] at whole
    rw [tokens_declaration, whole]
  have read := Reading.all_tokens root {} none []
  rw [List.append_nil, Reading.pass, he] at read
  have mark : withoutMark (declaration ++ root.chars) = declaration ++ root.chars := rfl
  rw [parse, documentText, String.toList_ofList, mark, written]
  simp [Reading.all, Reading.next, read, Reading.place, Reading.finish]

end MailCollector.Xml
