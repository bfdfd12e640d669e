import MailCollector.Proofs.Xml.ReadBack

/-!
# Outlines

An outline is what a reader sees of an element: names without their prefixes, attribute values as
they are, and a text without the white space at its ends. The outlines of markup are computed piece
by piece, one lemma for each way to build a piece, and `outline_parse_documentText` says that they
are what is seen of the written document.
-/

namespace MailCollector.Xml

open MailCollector.Text

/-- An element as its reader sees it. The text is without white space at its ends, and absent if
nothing remains. -/
structure Outline where
  name : String
  attributes : List (String × String) := []
  text : Option String := none
  children : List Outline := []

namespace Element

mutual

/-- What is seen of an element. -/
def outline : Element → Outline
  | ⟨name, attributes, content, children⟩ =>
    { name, attributes
      text := text? ⟨name, attributes, content, children⟩
      children := outlines children }

/-- What is seen of several elements. -/
def outlines : List Element → List Outline
  | [] => []
  | e :: es => e.outline :: outlines es

end

lemma outlines_append (es fs : List Element) : outlines (es ++ fs) = outlines es ++ outlines fs := by
  induction es with
  | nil => rfl
  | cons e es ih => rw [List.cons_append, outlines, outlines, ih, List.cons_append]

end Element

namespace Markup

variable {tag : String} {attributes : List (String × String)} {content ms : List Markup}

@[simp] lemma isText_text (value : String) : (text value).isText = true := rfl

@[simp] lemma isText_single : (single tag attributes).isText = false := rfl

@[simp] lemma isText_element : (element tag attributes content).isText = false := rfl

@[simp] lemma isText_plain : (plain tag content).isText = false := rfl

@[simp] lemma isText_ofText (value : String) : (ofText tag value).isText = false := rfl

/-! ### Sound markup -/

@[simp] lemma allSound_nil : AllSound [] := trivial

@[simp] lemma allSound_cons (m : Markup) (ms : List Markup) :
    AllSound (m :: ms) ↔
      m.Sound ∧ (m.isText → ∀ n ∈ ms.head?, n.isText = false) ∧ AllSound ms := Iff.rfl

@[simp] lemma sound_text (value : String) : (text value).Sound := trivial

@[simp] lemma sound_single : (single tag attributes).Sound ↔ IsName tag ∧ WellNamed attributes :=
  Iff.rfl

@[simp] lemma sound_element :
    (element tag attributes content).Sound ↔
      (IsName tag ∧ WellNamed attributes) ∧ AllSound content := Iff.rfl

@[simp] lemma sound_plain : (plain tag content).Sound ↔ IsName tag ∧ AllSound content := by
  simp [plain]

@[simp] lemma sound_ofText (value : String) : (ofText tag value).Sound ↔ IsName tag := by
  simp [ofText]

/-- Tags may stand side by side in any number. -/
lemma allSound_of_tags (h : ∀ m ∈ ms, m.isText = false ∧ m.Sound) : AllSound ms := by
  induction ms with
  | nil => trivial
  | cons m ms ih =>
    rw [List.forall_mem_cons] at h
    exact ⟨h.1.2, fun isText => by simp [h.1.1] at isText, ih h.2⟩

/-! ### What is seen of markup -/

/-- What is seen of markup that was written and read back. -/
def outlines (ms : List Markup) : List Outline :=
  Element.outlines (elements ms)

/-- The name of a tag without its prefix. -/
def seenName (tag : String) : String := String.ofList (localName tag.toList)

@[simp] lemma localAttributes_nil : localAttributes [] = [] := rfl

@[simp] lemma localAttributes_cons (a : String × String) (attributes : List (String × String)) :
    localAttributes (a :: attributes) = (seenName a.1, a.2) :: localAttributes attributes := rfl

@[simp] lemma ownText_nil : ownText [] = [] := rfl

lemma ownText_of_tags (h : ∀ m ∈ ms, m.isText = false) : ownText ms = [] := by
  rw [ownText, List.flatMap_eq_nil_iff]
  intro m hm
  cases m with
  | text value => cases h _ hm
  | single tag attributes => rfl
  | element tag attributes content => rfl

@[simp] lemma outlines_nil : outlines [] = [] := rfl

@[simp] lemma outlines_append (ms ns : List Markup) :
    outlines (ms ++ ns) = outlines ms ++ outlines ns := by
  induction ms with
  | nil => rfl
  | cons m ms ih =>
    simp only [outlines, List.cons_append, elements, Element.outlines_append] at ih ⊢
    rw [ih, List.append_assoc]

@[simp] lemma outlines_text_cons (value : String) (ms : List Markup) :
    outlines (text value :: ms) = outlines ms := rfl

@[simp] lemma outlines_single_cons (tag : String) (attributes : List (String × String))
    (ms : List Markup) :
    outlines (single tag attributes :: ms) =
      { name := seenName tag, attributes := localAttributes attributes } :: outlines ms := rfl

lemma outlines_element_cons (tag : String) (attributes : List (String × String))
    (content ms : List Markup) :
    outlines (element tag attributes content :: ms) =
      { name := seenName tag
        attributes := localAttributes attributes
        text := trimmed? (String.ofList (ownText content))
        children := outlines content } :: outlines ms := rfl

/-- An element that holds only elements is seen without a text. -/
@[simp] lemma outlines_element_of_tags (h : ∀ m ∈ content, m.isText = false) (tag : String)
    (attributes : List (String × String)) (ms : List Markup) :
    outlines (element tag attributes content :: ms) =
      { name := seenName tag
        attributes := localAttributes attributes
        children := outlines content } :: outlines ms := by
  rw [outlines_element_cons, ownText_of_tags h]
  rfl

@[simp] lemma outlines_plain_of_tags (h : ∀ m ∈ content, m.isText = false) (tag : String)
    (ms : List Markup) :
    outlines (plain tag content :: ms) =
      { name := seenName tag, children := outlines content } :: outlines ms :=
  outlines_element_of_tags h tag [] ms

/-- The text that is seen is the value without white space at its ends. -/
@[simp] lemma outlines_ofText_cons (tag value : String) (ms : List Markup) :
    outlines (ofText tag value :: ms) =
      { name := seenName tag, text := trimmed? value } :: outlines ms := by
  simp [ofText, plain, outlines_element_cons, ownText]

end Markup

/-! ### Searching outlines -/

namespace Outline

mutual

/-- All outlines of a name below an outline, in the order of the document. -/
def descendantsNamed (name : String) : Outline → List Outline
  | ⟨_, _, _, children⟩ => allNamed name children

/-- All outlines of a name among several outlines and what is below them. -/
def allNamed (name : String) : List Outline → List Outline
  | [] => []
  | o :: os =>
    (if o.name = name then [o] else []) ++ descendantsNamed name o ++ allNamed name os

end

end Outline

namespace Element

lemma outlines_eq_map (es : List Element) : outlines es = es.map outline := by
  induction es with
  | nil => rfl
  | cons e es ih => rw [outlines, ih, List.map_cons]

lemma name_outline (e : Element) : e.outline.name = e.name := by
  obtain ⟨name, attributes, content, children⟩ := e
  rw [outline]

lemma attributes_outline (e : Element) : e.outline.attributes = e.attributes := by
  obtain ⟨name, attributes, content, children⟩ := e
  rw [outline]

mutual

/-- What is seen of the elements of a name below an element is found in its outline. -/
lemma outlines_descendantsNamed (name : String) :
    (e : Element) → outlines (e.descendantsNamed name) = e.outline.descendantsNamed name
  | ⟨own, attributes, content, children⟩ => by
    rw [descendantsNamed, outline, Outline.descendantsNamed, outlines_allNamed name children]

/-- What is seen of the elements of a name among several elements is found in their outlines. -/
lemma outlines_allNamed (name : String) :
    (es : List Element) → outlines (allNamed name es) = Outline.allNamed name (outlines es)
  | [] => rfl
  | e :: es => by
    rw [allNamed, outlines_append, outlines_append, outlines, Outline.allNamed, name_outline,
      outlines_descendantsNamed name e, outlines_allNamed name es]
    split <;> rfl

end

end Element

/-! ### Documents -/

/-- What is seen of a written document. -/
theorem outline_parse_documentText {root : Markup} {o : Outline} (h : root.Sound)
    (ho : Markup.outlines [root] = [o]) :
    (parse (documentText root)).map Element.outline = .ok o := by
  rw [Markup.outlines, Markup.elements] at ho
  cases he : root.element? with
  | none => simp [he, Markup.elements, Element.outlines] at ho
  | some e =>
    rw [parse_documentText h he]
    simpa [he, Markup.elements, Element.outlines, Except.map] using ho

end MailCollector.Xml
