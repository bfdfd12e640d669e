import MailCollector.Ews.Request
import MailCollector.Proofs.Xml.Outlines

/-!
# What a server reads in a request

For each operation there is one arrangement of elements, given here by local names. A reader of the
written request sees exactly that arrangement, with the values of the question in their places
(`text_reads_back`). Addresses, folder ids, item ids and sync states may be any texts: none of them
adds, removes or renames an element or an attribute. A value in an attribute arrives as it is, one
in a text without the white space at its ends.
-/

namespace MailCollector.Ews

open MailCollector.Calendar MailCollector.Mail MailCollector.Text MailCollector.Xml
open MailCollector.Xml.Markup

/-! ### The arrangement of elements -/

/-- What the header says about the mailbox. -/
def Standing.headerOutline : Standing → List Outline
  | impersonating mailbox =>
    [ { name := "ExchangeImpersonation"
        children :=
          [ { name := "ConnectingSID"
              children := [{ name := "PrimarySmtpAddress", text := trimmed? mailbox }] } ] } ]
  | delegate _ => []

/-- A folder as it is named by a caller of a standing. -/
def Standing.referenceOutline (s : Standing) : FolderId → Outline
  | .opaqueId id => { name := "FolderId", attributes := [("Id", id)] }
  | .wellKnown kind =>
    { name := "DistinguishedFolderId"
      attributes := [("Id", kind.name)]
      children :=
        match s with
        | impersonating _ => []
        | delegate mailbox =>
          [ { name := "Mailbox"
              children := [{ name := "EmailAddress", text := trimmed? mailbox }] } ] }

/-- The demand for ids alone. -/
def idsOnlyOutline : Outline := { name := "BaseShape", text := "IdOnly" }

/-- The condition on the time of the last change. -/
def modifiedSinceOutline (instant : Instant) : Outline :=
  { name := "Restriction"
    children :=
      [ { name := "IsGreaterThanOrEqualTo"
          children :=
            [ { name := "FieldURI", attributes := [("FieldURI", "item:LastModifiedTime")] },
              { name := "FieldURIOrConstant"
                children :=
                  [ { name := "Constant"
                      attributes :=
                        [("Value", Rfc3339.format .seconds .letter instant)] } ] } ] } ] }

/-- The element of the operation. -/
def Query.bodyOutline (q : Query) (s : Standing) : Outline :=
  match q with
  | folders parent =>
    { name := "FindFolder"
      attributes := [("Traversal", "Deep")]
      children :=
        [ { name := "FolderShape", children := [idsOnlyOutline] },
          { name := "ParentFolderIds", children := [s.referenceOutline parent] } ] }
  | changes folder syncState limit =>
    { name := "SyncFolderItems"
      children :=
        [ { name := "ItemShape", children := [idsOnlyOutline] },
          { name := "SyncFolderId", children := [s.referenceOutline folder] } ] ++
        (syncState.map fun state => { name := "SyncState", text := trimmed? state }).toList ++
        [{ name := "MaxChangesReturned", text := natText limit }] }
  | page folder offset limit changedSince =>
    { name := "FindItem"
      attributes := [("Traversal", "Shallow")]
      children :=
        [ { name := "ItemShape", children := [idsOnlyOutline] },
          { name := "IndexedPageItemView"
            attributes :=
              [ ("MaxEntriesReturned", natText limit),
                ("Offset", natText offset),
                ("BasePoint", "Beginning") ] } ] ++
        (changedSince.map modifiedSinceOutline).toList ++
        [{ name := "ParentFolderIds", children := [s.referenceOutline folder] }] }
  | items ids =>
    { name := "GetItem"
      children :=
        [ { name := "ItemShape"
            children :=
              [ idsOnlyOutline,
                { name := "AdditionalProperties"
                  children := itemProperties.map fun p =>
                    { name := "FieldURI", attributes := [("FieldURI", p)] } } ] },
          { name := "ItemIds"
            children := ids.map fun id =>
              { name := "ItemId", attributes := [("Id", id.text)] } } ] }

/-- The whole request. -/
def Query.outline (q : Query) (s : Standing) : Outline :=
  { name := "Envelope"
    attributes :=
      [("soap", envelopeNamespace), ("t", typesNamespace), ("m", messagesNamespace)]
    children :=
      [ { name := "Header"
          children :=
            { name := "RequestServerVersion", attributes := [("Version", serverVersion)] } ::
              s.headerOutline },
        { name := "Body", children := [q.bodyOutline s] } ] }

/-! ### The parts of a request -/

lemma Standing.isText_of_mem_header {s : Standing} {m : Markup} (h : m ∈ s.header) :
    m.isText = false := by
  cases s <;> simp_all [header]

lemma Standing.sound_of_mem_header {s : Standing} {m : Markup} (h : m ∈ s.header) : m.Sound := by
  cases s with
  | impersonating mailbox =>
    obtain rfl : m = _ := List.mem_singleton.1 h
    simp +decide
  | delegate mailbox => cases h

lemma Standing.outlines_header (s : Standing) : outlines s.header = s.headerOutline := by
  cases s <;> simp +decide [header, headerOutline]

@[simp] lemma Standing.isText_reference (s : Standing) (folder : FolderId) :
    (s.reference folder).isText = false := by
  cases folder <;> cases s <;> rfl

@[simp] lemma Standing.sound_reference (s : Standing) (folder : FolderId) :
    (s.reference folder).Sound := by
  cases folder <;> cases s <;> simp +decide [reference]

@[simp] lemma Standing.outlines_reference (s : Standing) (folder : FolderId) :
    outlines [s.reference folder] = [s.referenceOutline folder] := by
  cases folder <;> cases s <;>
    simp +decide [reference, referenceOutline]

@[simp] lemma isText_modifiedSince (instant : Instant) : (modifiedSince instant).isText = false :=
  rfl

@[simp] lemma sound_modifiedSince (instant : Instant) : (modifiedSince instant).Sound := by
  simp +decide [modifiedSince]

@[simp] lemma outlines_modifiedSince_cons (instant : Instant) (ms : List Markup) :
    outlines (modifiedSince instant :: ms) = modifiedSinceOutline instant :: outlines ms := by
  simp +decide [modifiedSince, modifiedSinceOutline]

/-- The ids that are asked for stand side by side. -/
lemma outlines_map_single {α : Type} (tag name : String) (value : α → String) (as : List α) :
    outlines (as.map fun a => single tag [(name, value a)]) =
      as.map fun a =>
        { name := seenName tag, attributes := [(seenName name, value a)] } := by
  induction as with
  | nil => rfl
  | cons a as ih => simp [ih]

lemma allSound_map_single {α : Type} {tag name : String} (htag : IsName tag) (hname : IsName name)
    (value : α → String) (as : List α) :
    AllSound (as.map fun a => single tag [(name, value a)]) := by
  refine allSound_of_tags fun m hm => ?_
  obtain ⟨a, -, rfl⟩ := List.mem_map.1 hm
  simp [htag, hname]

/-! ### The body of a request -/

lemma Query.sound_body (q : Query) (s : Standing) : (q.body s).Sound := by
  cases q with
  | folders parent => simp +decide [body, idsOnly]
  | changes folder syncState limit => cases syncState <;> simp +decide [body, idsOnly]
  | page folder offset limit changedSince =>
    cases changedSince <;> simp +decide [body, idsOnly]
  | items ids =>
    have properties := allSound_map_single (by decide : IsName "t:FieldURI")
      (by decide : IsName "FieldURI") id itemProperties
    have tags := allSound_map_single (by decide : IsName "t:ItemId") (by decide : IsName "Id")
      ItemId.text ids
    simp_all +decide [body, idsOnly]

lemma Query.outlines_body (q : Query) (s : Standing) :
    outlines [q.body s] = [q.bodyOutline s] := by
  cases q with
  | folders parent => simp +decide [body, bodyOutline, idsOnly, idsOnlyOutline]
  | changes folder syncState limit =>
    cases syncState <;> simp +decide [body, bodyOutline, idsOnly, idsOnlyOutline]
  | page folder offset limit changedSince =>
    cases changedSince <;> simp +decide [body, bodyOutline, idsOnly, idsOnlyOutline]
  | items ids => simp +decide [body, bodyOutline, idsOnly, idsOnlyOutline, outlines_map_single]

lemma Query.isText_body (q : Query) (s : Standing) : (q.body s).isText = false := by
  cases q <;> rfl

/-! ### The whole request -/

/-- All text that an envelope has of its own is line breaks, and a reader drops these. -/
lemma ownText_envelope (header body : List Markup) :
    ownText [lineBreak, .plain "soap:Header" header, lineBreak, .plain "soap:Body" body,
      lineBreak] = [] := by
  have hbreak : trim isMarkupBlank ['\n'] = [] := rfl
  simp [ownText, lineBreak, plain, hbreak]

lemma Query.sound_envelope (q : Query) (s : Standing) : (q.envelope s).Sound := by
  have header : AllSound (.single "t:RequestServerVersion" [("Version", serverVersion)] ::
      s.header) := by
    refine allSound_of_tags (List.forall_mem_cons.2 ⟨by simp +decide, fun m hm => ?_⟩)
    exact ⟨s.isText_of_mem_header hm, s.sound_of_mem_header hm⟩
  simp_all +decide [envelope, lineBreak, q.sound_body]

lemma Query.outlines_envelope (q : Query) (s : Standing) :
    outlines [q.envelope s] = [q.outline s] := by
  have header : ∀ m ∈ .single "t:RequestServerVersion" [("Version", serverVersion)] :: s.header,
      m.isText = false := List.forall_mem_cons.2 ⟨rfl, fun m => s.isText_of_mem_header⟩
  have body : ∀ m ∈ [q.body s], m.isText = false :=
    List.forall_mem_singleton.2 (q.isText_body s)
  rw [envelope, outlines_element_cons, ownText_envelope, lineBreak, outlines_text_cons,
    outlines_plain_of_tags header, outlines_text_cons, outlines_plain_of_tags body,
    outlines_text_cons, outlines_nil, outlines_single_cons, s.outlines_header, q.outlines_body]
  simp +decide [outline, show trimmed? (String.ofList []) = none from rfl]

/-- A request is read as the arrangement of its operation with the values of the question in it,
and nothing else. -/
theorem text_reads_back (q : Query) (s : Standing) :
    (Xml.parse (q.text s)).map Element.outline = .ok (q.outline s) :=
  outline_parse_documentText (q.sound_envelope s) (q.outlines_envelope s)

end MailCollector.Ews
