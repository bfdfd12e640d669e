import MailCollector.Mail.Record.OfItem
import MailCollector.Text.Blank
import Mathlib.Data.List.Basic
import Mathlib.Tactic.Common

/-!
# The headers of a record

A header that is set is read back, and other headers are left as they are.  So of headers of
different names each reads as it was set, if it was set to a text that is not empty
(`Record.get?_ofHeaders`), and they give the same record as others if and only if they read the same
(`Record.ofHeaders_eq_iff`).  The headers of an item have different names.  The record of an item
therefore names the item: its header `X-Item-Id` is the id of the item, if that is not empty
(`Record.itemId?_ofItem?`).

Headers that come in the order of their names are kept in it, so a record can be collected anew from
its headers (`Record.foldl_insert_headers`).
-/

namespace MailCollector.Mail

open MailCollector.Calendar MailCollector.Text

/-- A text that is not empty is kept. -/
lemma nonEmpty_of_ne {s : Option String} (h : s ≠ some "") : nonEmpty s = s := by
  cases s with
  | none => rfl
  | some text => exact Option.filter_some_pos (by simpa using h)

/-- A header reads as the value that was put under its name. -/
lemma lookup_insertHeader (name value : String) (hs : List (String × String)) :
    (insertHeader name value hs).lookup name = some value := by
  induction hs with
  | nil => simp [insertHeader]
  | cons head rest ih =>
    obtain ⟨n, v⟩ := head
    unfold insertHeader
    split_ifs with hbefore hsame
    · simp
    · simp
    · have hname : (name == n) = false := by simpa using hsame
      simpa [List.lookup_cons, hname] using ih

/-- Headers of other names read as before. -/
lemma lookup_insertHeader_of_ne {name other : String} (hne : other ≠ name) (value : String)
    (hs : List (String × String)) :
    (insertHeader name value hs).lookup other = hs.lookup other := by
  have hother : (other == name) = false := by simpa using hne
  induction hs with
  | nil => simp [insertHeader, List.lookup_cons, hother]
  | cons head rest ih =>
    obtain ⟨n, v⟩ := head
    unfold insertHeader
    split_ifs with hbefore hsame
    · simp [List.lookup_cons, hother]
    · subst hsame
      simp [List.lookup_cons, hother]
    · simp [List.lookup_cons, ih]

/-- A name that comes after all others is put at the end. -/
lemma insertHeader_of_lt {name : String} (value : String) {hs : List (String × String)}
    (hlast : ∀ h ∈ hs, h.1 < name) : insertHeader name value hs = hs ++ [(name, value)] := by
  induction hs with
  | nil => rfl
  | cons head rest ih =>
    have hhead : head.1 < name := hlast head List.mem_cons_self
    have hbefore : ¬ name < head.1 := String.lt_asymm hhead
    have hsame : name ≠ head.1 := fun h => String.lt_irrefl _ (h ▸ hhead)
    rw [insertHeader, if_neg hbefore, if_neg hsame,
      ih fun h hh => hlast h (List.mem_cons_of_mem _ hh), List.cons_append]

namespace Record

/-- Headers that are given in the order of their names are kept as they are. -/
lemma headers_foldl_insert (hs : List (String × String)) (r : Record)
    (hsorted : (r.headers ++ hs).Pairwise fun a b => a.1 < b.1) :
    (hs.foldl (fun r h => r.insert h.1 h.2) r).headers = r.headers ++ hs := by
  induction hs generalizing r with
  | nil => rw [List.foldl_nil, List.append_nil]
  | cons h hs ih =>
    have hlast : ∀ g ∈ r.headers, g.1 < h.1 := fun g hg =>
      (List.pairwise_append.1 hsorted).2.2 g hg h List.mem_cons_self
    have hheaders : (r.insert h.1 h.2).headers = r.headers ++ [h] :=
      insertHeader_of_lt h.2 hlast
    rw [List.foldl_cons, ih, hheaders, List.append_assoc, List.singleton_append]
    rwa [hheaders, List.append_assoc, List.singleton_append]

/-- A record is the record of its headers. -/
lemma foldl_insert_headers (r : Record) :
    r.headers.foldl (fun r h => r.insert h.1 h.2) empty = r := by
  have hext : ∀ {a b : Record}, a.headers = b.headers → a = b := by
    rintro ⟨_, _⟩ ⟨_, _⟩ rfl
    rfl
  exact hext (headers_foldl_insert r.headers empty r.sorted)

/-- Setting a header changes no other one. -/
lemma get?_withHeader?_of_ne (r : Record) {name other : String} (hne : other ≠ name)
    (value : Option String) : (r.withHeader? name value).get? other = r.get? other := by
  cases value with
  | none => rfl
  | some value =>
    rw [withHeader?, withHeader]
    split
    · rfl
    · exact lookup_insertHeader_of_ne hne value r.headers

/-- A header that is set reads as the text it is set to, if there is one and it is not empty;
otherwise as before. -/
lemma get?_withHeader? (r : Record) (name : String) (value : Option String) :
    (r.withHeader? name value).get? name = (nonEmpty value).or (r.get? name) := by
  cases value with
  | none => rfl
  | some value =>
    rw [withHeader?, withHeader]
    by_cases hvalue : value = ""
    · rw [if_pos hvalue, hvalue]
      rfl
    · rw [if_neg hvalue, nonEmpty_of_ne (by simpa using hvalue), Option.some_or]
      exact lookup_insertHeader name value r.headers

/-- An empty text sets a header as an absent one does. -/
lemma withHeader?_nonEmpty (r : Record) (name : String) (value : Option String) :
    r.withHeader? name (nonEmpty value) = r.withHeader? name value := by
  cases value with
  | none => rfl
  | some value =>
    by_cases hvalue : value = ""
    · rw [hvalue, nonEmpty, Option.filter_some_neg rfl, withHeader?, withHeader?, withHeader,
        if_pos rfl]
    · rw [nonEmpty_of_ne (by simpa using hvalue)]

/-- A header that is set has a value that is not empty. -/
lemma headers_withHeader?_ne_empty {r : Record} (hr : ∀ header ∈ r.headers, header.2 ≠ "")
    (name : String) (value : Option String) :
    ∀ header ∈ (r.withHeader? name value).headers, header.2 ≠ "" := by
  cases value with
  | none => exact hr
  | some value =>
    rw [withHeader?, withHeader]
    split_ifs with hvalue
    · exact hr
    · intro header hheader
      rcases mem_insertHeader hheader with rfl | hold
      · exact hvalue
      · exact hr header hold

/-! ### Headers of different names -/

section OfHeaders

variable {headers headers' : List (String × Option String)}

/-- Headers of other names leave a header as it is. -/
lemma get?_foldl_of_ne {name : String} (hheaders : ∀ header ∈ headers, name ≠ header.1)
    (r : Record) :
    (headers.foldl (fun r header => r.withHeader? header.1 header.2) r).get? name =
      r.get? name := by
  induction headers generalizing r with
  | nil => rfl
  | cons header headers ih =>
    rw [List.foldl_cons, ih fun h hh => hheaders h (List.mem_cons_of_mem _ hh),
      get?_withHeader?_of_ne r (hheaders header List.mem_cons_self)]

/-- Of headers of different names, each is there with its value, unless that is empty. -/
lemma get?_ofHeaders (hnames : (headers.map Prod.fst).Nodup) {name : String}
    {value : Option String} (hmem : (name, value) ∈ headers) :
    (ofHeaders headers).get? name = nonEmpty value := by
  obtain ⟨before, after, rfl⟩ := List.append_of_mem hmem
  rw [List.map_append, List.map_cons, List.nodup_append, List.nodup_cons] at hnames
  obtain ⟨-, ⟨hafter, -⟩, hbefore⟩ := hnames
  have hfirst : ∀ header ∈ before, name ≠ header.1 := fun header hheader =>
    (hbefore header.1 (List.mem_map_of_mem hheader) name List.mem_cons_self).symm
  have hlast : ∀ header ∈ after, name ≠ header.1 := by
    intro header hheader hsame
    have hmem : header.1 ∈ after.map Prod.fst := List.mem_map_of_mem hheader
    exact hafter (hsame ▸ hmem)
  rw [ofHeaders, List.foldl_append, List.foldl_cons, get?_foldl_of_ne hlast, get?_withHeader?,
    get?_foldl_of_ne hfirst]
  exact Option.or_none

/-- No header of a record has an empty value. -/
lemma headers_ofHeaders_ne_empty (headers : List (String × Option String)) :
    ∀ header ∈ (ofHeaders headers).headers, header.2 ≠ "" := by
  suffices h : ∀ r : Record, (∀ header ∈ r.headers, header.2 ≠ "") →
      ∀ header ∈ (headers.foldl (fun r header => r.withHeader? header.1 header.2) r).headers,
        header.2 ≠ "" from h empty nofun
  induction headers with
  | nil => exact fun r hr => hr
  | cons header headers ih =>
    exact fun r hr => ih _ (headers_withHeader?_ne_empty hr header.1 header.2)

/-- Headers give the same record if empty values are absent. -/
lemma ofHeaders_nonEmpty (headers : List (String × Option String)) :
    ofHeaders (headers.map fun header => (header.1, nonEmpty header.2)) = ofHeaders headers := by
  simp only [ofHeaders, List.foldl_map, withHeader?_nonEmpty]

/-- Headers of the same different names give the same record if and only if their values are the
same, where an empty value is an absent one. -/
lemma ofHeaders_eq_iff (hsame : headers'.map Prod.fst = headers.map Prod.fst)
    (hnames : (headers.map Prod.fst).Nodup) :
    ofHeaders headers' = ofHeaders headers ↔
      headers'.map (fun header => nonEmpty header.2) =
        headers.map fun header => nonEmpty header.2 := by
  have hvalues : ∀ hs : List (String × Option String), (hs.map Prod.fst).Nodup →
      (hs.map fun header => nonEmpty header.2) = (hs.map Prod.fst).map (ofHeaders hs).get? := by
    intro hs hdistinct
    rw [List.map_map]
    exact List.map_congr_left fun header hheader => (get?_ofHeaders hdistinct hheader).symm
  constructor
  · intro h
    rw [hvalues headers' (hsame ▸ hnames), hvalues headers hnames, h, hsame]
  · intro h
    have hpairs : ∀ hs : List (String × Option String),
        (hs.map fun header => (header.1, nonEmpty header.2)) =
          (hs.map Prod.fst).zip (hs.map fun header => nonEmpty header.2) := fun hs =>
      List.zip_map'.symm
    rw [← ofHeaders_nonEmpty headers', ← ofHeaders_nonEmpty headers, hpairs, hpairs, hsame, h]

end OfHeaders

end Record

/-! ### The headers of an item -/

namespace Item

/-- The date line of an item. -/
def dateLine (item : Item) : List (String × Option String) :=
  item.sentAt.toList.map fun sent => ("Date", Rfc2822.format? sent)

/-- All headers of an item. -/
def lines (item : Item) (mailbox : String) (folder : FolderId) : List (String × Option String) :=
  item.headers mailbox folder ++ item.dateLine

/-- The headers of an item have different names. -/
lemma nodup_names (item : Item) (mailbox : String) (folder : FolderId) :
    ((item.lines mailbox folder).map Prod.fst).Nodup := by
  have hnames : ((item.headers mailbox folder).map Prod.fst ++ ["Date"]).Nodup := by
    change ["X-Mailbox", "X-Folder-Id", "X-Item-Id", "X-Change-Key", "Subject", "From", "To", "Cc",
      "X-Received-Date", "Message-ID", "In-Reply-To", "References", "Importance", "X-Is-Read",
      "X-Has-Attachments", "X-Size", "X-Conversation-Id", "Date"].Nodup
    decide
  rw [lines, List.map_append, dateLine]
  cases item.sentAt with
  | none => exact hnames.sublist (List.sublist_append_left _ _)
  | some sent => exact hnames

end Item

namespace Record

variable {item : Item} {mailbox : String} {folder : FolderId} {record : Record}

/-- An item has a record if it was sent in a year that the date line can write.  The record is that
of its headers. -/
lemma ofItem?_eq_some_iff :
    ofItem? item mailbox folder = some record ↔
      (∀ sent ∈ item.sentAt, sent.hasPlainYear = true) ∧
        ofHeaders (item.lines mailbox folder) = record := by
  unfold ofItem? Item.lines Item.dateLine
  cases item.sentAt with
  | none => simp
  | some sent => cases hyear : sent.hasPlainYear <;> simp [Rfc2822.format?, hyear]

/-- The id of the item of which a record was made. -/
def itemId? (r : Record) : Option String := r.get? "X-Item-Id"

/-- The record of an item names the item. -/
theorem itemId?_ofItem? (hid : item.id.text ≠ "")
    (hrecord : Record.ofItem? item mailbox folder = some record) :
    record.itemId? = some item.id.text := by
  obtain ⟨-, rfl⟩ := ofItem?_eq_some_iff.1 hrecord
  have hmem : ("X-Item-Id", some item.id.text) ∈ item.lines mailbox folder :=
    List.mem_append_left _ (by simp [Item.headers])
  rw [itemId?, get?_ofHeaders (item.nodup_names mailbox folder) hmem]
  exact nonEmpty_of_ne (by simpa using hid)

/-- The records of some items name the items, in their order. -/
lemma map_itemId? {items : List Item} {records : List Record}
    (hids : ∀ item ∈ items, item.id.text ≠ "")
    (hrecords : items.map (Record.ofItem? · mailbox folder) = records.map some) :
    records.map itemId? = items.map fun item => some item.id.text := by
  induction items generalizing records with
  | nil =>
    rw [List.map_nil, List.nil_eq, List.map_eq_nil_iff] at hrecords
    rw [hrecords]
    rfl
  | cons item items ih =>
    cases records with
    | nil => simp at hrecords
    | cons record records =>
      obtain ⟨hrecord, hrecords⟩ := List.cons.inj hrecords
      rw [List.map_cons, List.map_cons,
        ih (fun i hi => hids i (List.mem_cons_of_mem _ hi)) hrecords,
        itemId?_ofItem? (hids item List.mem_cons_self) hrecord]

end Record

end MailCollector.Mail
