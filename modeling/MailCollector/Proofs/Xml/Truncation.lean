import MailCollector.Proofs.Xml.ReadBack

/-!
# Texts that break off

A text that breaks off has the same tokens as the whole text up to the place where it breaks off,
but for a piece of character data that may be cut there (`tokens_append`).  A token that has its end
in the text is the same whatever follows it (`front_append`): a longer text can only go on where the
shorter one has nothing more to say.  The root of a document never changes once it has been read,
and character data outside all elements does not count, so a text that breaks off is read as the
same document as the whole text or not at all (`parse_prefix`).  It is not read at all if it breaks
off before the root element is closed (`closesRoot_of_parse`).
-/

namespace MailCollector.Xml

open MailCollector.Text

variable {p q rest : List Char}

/-! ### Ends that were found stay where they are -/

/-- Where the end of something was found there is room for it. -/
lemma length_le_of_splitAround? {close cs : List Char} {s : List Char × List Char}
    (hsplit : splitAround? close cs = some s) : close.length ≤ cs.length := by
  induction cs generalizing s with
  | nil => cases hsplit
  | cons c cs ih =>
    rw [splitAround?] at hsplit
    split at hsplit
    · rename_i hclose
      exact (List.isPrefixOf_iff_prefix.1 hclose).length_le
    · obtain ⟨s', hsplit', -⟩ := Option.map_eq_some_iff.1 hsplit
      exact Nat.le_succ_of_le (ih hsplit')

/-- A search that goes on behind a character finds what it finds there. -/
lemma map_cons_append {c : Char} {content : List Char}
    {found longer : Option (List Char × List Char)}
    (hfound : found.map (fun s => (c :: s.1, s.2)) = some (content, rest))
    (hlonger : ∀ content, found = some (content, rest) → longer = some (content, rest ++ q)) :
    longer.map (fun s => (c :: s.1, s.2)) = some (content, rest ++ q) := by
  obtain ⟨s, hs, hsame⟩ := Option.map_eq_some_iff.1 hfound
  cases hsame
  rw [hlonger s.1 hs]
  rfl

lemma splitAround?_append {close content : List Char}
    (hsplit : splitAround? close p = some (content, rest)) (q : List Char) :
    splitAround? close (p ++ q) = some (content, rest ++ q) := by
  induction p generalizing content with
  | nil => cases hsplit
  | cons c cs ih =>
    have hroom := length_le_of_splitAround? hsplit
    have hprefix : c :: cs <+: c :: (cs ++ q) := List.prefix_append (c :: cs) q
    rw [List.cons_append, splitAround?]
    rw [splitAround?] at hsplit
    split at hsplit
    · rename_i hclose
      have hlonger : close <+: c :: (cs ++ q) := (List.isPrefixOf_iff_prefix.1 hclose).trans hprefix
      cases hsplit
      rw [if_pos (List.isPrefixOf_iff_prefix.2 hlonger), ← List.cons_append,
        List.drop_append_of_le_length hroom]
    · rename_i hclose
      -- The end is not here with `q` either, because it would have had room without `q`.
      have hlater : ¬ close.isPrefixOf (c :: (cs ++ q)) = true := by
        intro hlonger
        have hshorter := List.prefix_of_prefix_length_le (List.isPrefixOf_iff_prefix.1 hlonger)
          hprefix hroom
        exact hclose (List.isPrefixOf_iff_prefix.2 hshorter)
      rw [if_neg hlater]
      exact map_cons_append hsplit fun _ => ih

lemma splitTag?_append {quote : Option Char} {tag : List Char}
    (hsplit : splitTag? quote p = some (tag, rest)) (q : List Char) :
    splitTag? quote (p ++ q) = some (tag, rest ++ q) := by
  induction p generalizing quote tag with
  | nil => cases hsplit
  | cons c cs ih =>
    cases quote with
    | some sign => exact map_cons_append hsplit fun _ => ih
    | none =>
      simp only [List.cons_append, splitTag?] at hsplit ⊢
      by_cases hend : c = '>'
      · rw [if_pos hend] at hsplit ⊢
        cases hsplit
        rfl
      · rw [if_neg hend] at hsplit ⊢
        exact map_cons_append hsplit fun _ => ih

lemma splitDoctype?_append {depth : ℕ} {content : List Char}
    (hsplit : splitDoctype? depth p = some (content, rest)) (q : List Char) :
    splitDoctype? depth (p ++ q) = some (content, rest ++ q) := by
  induction p generalizing depth content with
  | nil => cases hsplit
  | cons c cs ih =>
    simp only [List.cons_append, splitDoctype?] at hsplit ⊢
    by_cases hopen : c = '<'
    · rw [if_pos hopen] at hsplit ⊢
      exact map_cons_append hsplit fun _ => ih
    · rw [if_neg hopen] at hsplit ⊢
      by_cases hclose : c = '>'
      · rw [if_pos hclose] at hsplit ⊢
        by_cases houter : depth = 0
        · rw [if_pos houter] at hsplit ⊢
          cases hsplit
          rfl
        · rw [if_neg houter] at hsplit ⊢
          exact map_cons_append hsplit fun _ => ih
      · rw [if_neg hclose] at hsplit ⊢
        exact map_cons_append hsplit fun _ => ih

lemma takeLetter?_append {small capital : Char} (htake : takeLetter? small capital p = some rest)
    (q : List Char) : takeLetter? small capital (p ++ q) = some (rest ++ q) := by
  cases p with
  | nil => cases htake
  | cons c cs =>
    rw [takeLetter?] at htake
    rw [List.cons_append, takeLetter?]
    split at htake
    · rename_i hletter
      cases htake
      rw [if_pos hletter]
    · cases htake

lemma takeDoctypeWord?_append (htake : takeDoctypeWord? p = some rest) (q : List Char) :
    takeDoctypeWord? (p ++ q) = some (rest ++ q) := by
  simp only [takeDoctypeWord?, bind, Option.bind_eq_some_iff] at htake ⊢
  obtain ⟨_, hd, _, ho, _, hc, _, ht, _, hy, _, hp, he⟩ := htake
  exact ⟨_, takeLetter?_append hd q, _, takeLetter?_append ho q, _, takeLetter?_append hc q, _,
    takeLetter?_append ht q, _, takeLetter?_append hy q, _, takeLetter?_append hp q,
    takeLetter?_append he q⟩

/-! ### Tokens that have ended -/

lemma skippedUpTo_append {close : List Char} {t : Token}
    (hfront : skippedUpTo (splitAround? close p) = .token t rest) (q : List Char) :
    skippedUpTo (splitAround? close (p ++ q)) = .token t (rest ++ q) := by
  cases hsplit : splitAround? close p with
  | none =>
    rw [hsplit] at hfront
    cases hfront
  | some s =>
    rw [hsplit] at hfront
    cases hfront
    rw [splitAround?_append hsplit]
    rfl

/-- The word that begins a document type begins with its first letter. -/
lemma exists_of_takeDoctypeWord? (htake : takeDoctypeWord? p = some rest) :
    ∃ c cs, p = c :: cs ∧ (c = 'd' ∨ c = 'D') := by
  cases p with
  | nil => cases htake
  | cons c cs =>
    simp only [takeDoctypeWord?, bind, Option.bind_eq_some_iff] at htake
    obtain ⟨_, hletter, -⟩ := htake
    rw [takeLetter?] at hletter
    split at hletter
    · rename_i hc
      exact ⟨c, cs, rfl, hc⟩
    · cases hletter

/-- What begins with that letter is a document type or nothing. -/
lemma frontOfDeclaration_of_letter {c : Char} (hc : c = 'd' ∨ c = 'D') (cs : List Char) :
    frontOfDeclaration (c :: cs) =
      match (takeDoctypeWord? (c :: cs)).bind (splitDoctype? 0) with
      | some (content, rest) =>
        if content.all isMarkupBlank then .fault .malformed else .token .skipped rest
      | none => .fault .malformed := by
  rcases hc with rfl | rfl <;> rfl

lemma frontOfDeclaration_append {t : Token} (hfront : frontOfDeclaration p = .token t rest)
    (q : List Char) : frontOfDeclaration (p ++ q) = .token t (rest ++ q) := by
  have hwhole := hfront
  unfold frontOfDeclaration at hfront
  split at hfront
  · exact skippedUpTo_append hfront q
  · rename_i cs
    cases hsplit : splitAround? [']', ']', '>'] cs with
    | none =>
      rw [hsplit] at hfront
      cases hfront
    | some s =>
      rw [hsplit] at hfront
      cases hfront
      change (match splitAround? [']', ']', '>'] (cs ++ q) with
        | some (content, rest) => Front.token (.verbatim content) rest
        | none => .fault .malformed) = _
      rw [splitAround?_append hsplit]
  · cases hsplit : (takeDoctypeWord? p).bind (splitDoctype? 0) with
    | none =>
      rw [hsplit] at hfront
      cases hfront
    | some s =>
      obtain ⟨content, after⟩ := s
      obtain ⟨cs, hword, hdoctype⟩ := Option.bind_eq_some_iff.1 hsplit
      obtain ⟨c, letters, rfl, hc⟩ := exists_of_takeDoctypeWord? hword
      rw [frontOfDeclaration_of_letter hc, hsplit] at hwhole
      rw [List.cons_append, frontOfDeclaration_of_letter hc, ← List.cons_append,
        takeDoctypeWord?_append hword, Option.bind_some, splitDoctype?_append hdoctype]
      dsimp only at hwhole ⊢
      split at hwhole
      · cases hwhole
      · rename_i hblank
        cases hwhole
        rw [if_neg hblank]

/-- What begins with none of three signs is a tag that opens an element, or nothing. -/
lemma frontOfMarkup_of_ne {c : Char} (hbang : c ≠ '!') (hquestion : c ≠ '?') (hslash : c ≠ '/')
    (cs : List Char) :
    frontOfMarkup (c :: cs) =
      match splitTag? none (c :: cs) with
      | some (tag, rest) =>
        match openingToken tag with
        | .ok t => .token t rest
        | .error fault => .fault fault
      | none => .fault .malformed := by
  unfold frontOfMarkup
  split
  case h_6 => rfl
  all_goals simp_all

lemma frontOfMarkup_append {t : Token} (hfront : frontOfMarkup p = .token t rest)
    (q : List Char) : frontOfMarkup (p ++ q) = .token t (rest ++ q) := by
  cases p with
  | nil => cases hfront
  | cons c cs =>
    by_cases hbang : c = '!'
    · subst hbang
      exact frontOfDeclaration_append hfront q
    by_cases hquestion : c = '?'
    · subst hquestion
      cases cs with
      | nil => cases hfront
      | cons d ds =>
        by_cases hd : d = '>'
        · subst hd
          cases hfront
        · have hskipped : ∀ ds, frontOfMarkup ('?' :: d :: ds) =
              skippedUpTo (splitAround? ['?', '>'] (d :: ds)) := by
            intro ds
            unfold frontOfMarkup
            split <;> simp_all
          rw [hskipped] at hfront
          exact (hskipped _).trans (skippedUpTo_append hfront q)
    by_cases hslash : c = '/'
    · subst hslash
      change (match splitTag? none cs with
        | some (tag, rest) => Front.token (.closing (String.ofList (closingName tag))) rest
        | none => .fault .malformed) = _ at hfront
      change (match splitTag? none (cs ++ q) with
        | some (tag, rest) => Front.token (.closing (String.ofList (closingName tag))) rest
        | none => .fault .malformed) = _
      cases hsplit : splitTag? none cs with
      | none =>
        rw [hsplit] at hfront
        cases hfront
      | some s =>
        rw [hsplit] at hfront
        cases hfront
        rw [splitTag?_append hsplit]
    · rw [frontOfMarkup_of_ne hbang hquestion hslash] at hfront
      rw [List.cons_append, frontOfMarkup_of_ne hbang hquestion hslash]
      cases hsplit : splitTag? none (c :: cs) with
      | none =>
        rw [hsplit] at hfront
        cases hfront
      | some s =>
        rw [hsplit] at hfront
        rw [← List.cons_append, splitTag?_append hsplit]
        dsimp only at hfront ⊢
        cases hopening : openingToken s.1 with
        | error fault =>
          rw [hopening] at hfront
          cases hfront
        | ok opening =>
          rw [hopening] at hfront
          cases hfront
          rfl

/-- What begins with a sign other than an angle bracket is character data. -/
lemma front_of_ne {cs ds : List Char} {c : Char} (hdrop : cs.dropWhile isMarkupBlank = c :: ds)
    (hc : c ≠ '<') :
    front cs = .token (.text (trimEnd isMarkupBlank (c :: ds.takeWhile (· != '<'))))
      (ds.dropWhile (· != '<')) := by
  unfold front
  rw [hdrop]
  split <;> simp_all

/-- A token at the front of a text stays as it is when the text goes on, except character data that
reaches up to the end. -/
theorem front_append {t : Token} (hfront : front p = .token t rest)
    (hended : rest ≠ [] ∨ ∀ raw, t ≠ .text raw) (q : List Char) :
    front (p ++ q) = .token t (rest ++ q) := by
  cases hdrop : p.dropWhile isMarkupBlank with
  | nil =>
    rw [front, hdrop] at hfront
    cases hfront
  | cons c cs =>
    have hdrop' : (p ++ q).dropWhile isMarkupBlank = c :: (cs ++ q) := by
      rw [List.dropWhile_append, hdrop]
      rfl
    by_cases hc : c = '<'
    · subst hc
      rw [front, hdrop] at hfront
      rw [front, hdrop']
      exact frontOfMarkup_append hfront q
    · rw [front_of_ne hdrop hc] at hfront
      rw [front_of_ne hdrop' hc]
      cases hfront
      have hrest : cs.dropWhile (· != '<') ≠ [] :=
        hended.resolve_right fun hother => hother _ rfl
      -- The bracket that ends the character data is in the shorter text.
      have hinside : (cs.takeWhile (· != '<')).length ≠ cs.length := by
        intro hall
        have hsplit : cs.takeWhile (· != '<') ++ cs.dropWhile (· != '<') = cs :=
          List.takeWhile_append_dropWhile
        have hlength := congrArg List.length hsplit
        rw [List.length_append, hall] at hlength
        exact hrest (List.length_eq_zero_iff.1 (by omega))
      rw [List.takeWhile_append, if_neg hinside, List.dropWhile_append,
        if_neg (by simpa using hrest)]

/-- A text that breaks off has the tokens of the whole text, except that character data may be cut
at its end. -/
theorem tokens_append (p q : List Char) :
    ∃ ts cut more fault, (tokens p).1 = ts ++ cut ∧ (cut = [] ∨ ∃ raw, cut = [.text raw]) ∧
      tokens (p ++ q) = (ts ++ more, fault) := by
  induction hlength : p.length using Nat.strongRecOn generalizing p with
  | _ length ih =>
    cases hfront : front p with
    | finished =>
      have htokens : tokens p = ([], none) := by rw [tokens_eq, hfront]
      exact ⟨[], [], _, _, congrArg Prod.fst htokens, .inl rfl, rfl⟩
    | fault f =>
      have htokens : tokens p = ([], some f) := by rw [tokens_eq, hfront]
      exact ⟨[], [], _, _, congrArg Prod.fst htokens, .inl rfl, rfl⟩
    | token t rest =>
      have htokens := tokens_of_front hfront
      by_cases hended : rest ≠ [] ∨ ∀ raw, t ≠ .text raw
      · obtain ⟨ts, cut, more, fault, hrest, hcut, hmore⟩ :=
          ih rest.length (hlength ▸ length_front hfront) rest rfl
        refine ⟨t :: ts, cut, more, fault, ?_, hcut, ?_⟩
        · rw [htokens, hrest, List.cons_append]
        · rw [tokens_of_front (front_append hfront hended q), hmore, List.cons_append]
      · rw [not_or, not_not, not_forall_not] at hended
        obtain ⟨rfl, raw, rfl⟩ := hended
        have hnil : (tokens []).1 = [] := by
          rw [tokens_eq]
          rfl
        refine ⟨[], [.text raw], _, _, ?_, .inr ⟨raw, rfl⟩, rfl⟩
        rw [htokens, hnil]
        rfl

/-! ### Readings -/

namespace Reading

variable {r r' : Reading} {fault : Option Fault} {root : Element} {ts : List Token}

/-- If tokens are read, the first of them is, and then the others. -/
lemma next_of_all_cons {t : Token} (h : r.all fault (t :: ts) = .ok r') :
    ∃ r₁, r.next t = .ok r₁ ∧ r₁.all fault ts = .ok r' := by
  cases hnext : r.next t with
  | error f =>
    rw [all, hnext] at h
    cases h
  | ok r₁ =>
    rw [all_cons hnext] at h
    exact ⟨r₁, rfl, h⟩

/-- Tokens are read one part after the other. -/
lemma all_append_eq_ok {us : List Token} (h : r.all fault (ts ++ us) = .ok r') :
    ∃ middle, r.all none ts = .ok middle ∧ middle.all fault us = .ok r' := by
  induction ts generalizing r with
  | nil => exact ⟨r, rfl, h⟩
  | cons t ts ih =>
    obtain ⟨r₁, hnext, hothers⟩ := next_of_all_cons h
    rw [all_cons hnext]
    exact ih hothers

lemma eq_of_all_nil (h : r.all fault [] = .ok r') : r' = r := by
  cases fault with
  | none =>
    cases h
    rfl
  | some f => cases h

/-- What every token keeps is kept by all tokens together. -/
lemma all_keeps {kept : Reading → Prop}
    (hkeeps : ∀ r t r', kept r → r.next t = .ok r' → kept r') (hr : kept r)
    (h : r.all fault ts = .ok r') : kept r' := by
  induction ts generalizing r with
  | nil =>
    obtain rfl := eq_of_all_nil h
    exact hr
  | cons t ts ih =>
    obtain ⟨r₁, hnext, hothers⟩ := next_of_all_cons h
    exact ih (hkeeps r t r₁ hr hnext) hothers

/-- An element that is placed leaves the root alone if there is one. -/
lemma place_root (e : Element) (hroot : r.root = some root) : (r.place e).root = some root := by
  obtain ⟨stack, _⟩ := r
  obtain rfl : _ = some root := hroot
  cases stack <;> rfl

lemma addText_root (content : List Char) : (r.addText content).root = r.root := by
  obtain ⟨stack, root⟩ := r
  cases stack <;> rfl

/-- Once there is a root it stays the same. -/
lemma next_root {t : Token} (h : r.next t = .ok r') (hroot : r.root = some root) :
    r'.root = some root := by
  cases t with
  | opening name attributes =>
    cases h
    exact hroot
  | single name attributes =>
    cases h
    exact place_root _ hroot
  | closing name =>
    rw [next] at h
    split at h
    · cases h
    · split at h
      · cases h
        exact place_root _ hroot
      · cases h
  | text raw =>
    rw [next] at h
    split at h
    · cases h
      exact hroot
    · split at h
      · cases h
        exact (addText_root _).trans hroot
      · cases h
  | verbatim content =>
    cases h
    exact (addText_root _).trans hroot
  | skipped =>
    cases h
    exact hroot

lemma all_root (h : r.all fault ts = .ok r') (hroot : r.root = some root) :
    r'.root = some root :=
  all_keeps (fun _ _ _ hroot hnext => next_root hnext hroot) hroot h

/-- A document is there if no element is open and there is a root. -/
lemma finish_eq_ok_iff : r.finish = .ok root ↔ r.stack = [] ∧ r.root = some root := by
  obtain ⟨stack, root'⟩ := r
  cases stack with
  | nil => cases root' <;> simp [finish]
  | cons top stack => simp [finish]

/-- Character data before which or after which no element is open does not count. -/
lemma eq_of_next_text {raw : List Char} (h : r.next (.text raw) = .ok r') (hstack : r'.stack = []) :
    r' = r := by
  obtain ⟨_ | ⟨top, stack⟩, root⟩ := r
  · cases h
    rfl
  · rw [next] at h
    split at h
    · cases h
      rfl
    · rename_i hopen
      split at h
      · cases h
        cases hopen
        cases hstack
      · cases h

end Reading

/-! ### Documents -/

/-- How a text is read as a document. -/
lemma parse_eq_ok_iff {text : String} {root : Element} :
    parse text = .ok root ↔ ∃ r, Reading.all {} (tokens (withoutMark text.toList)).2
      (tokens (withoutMark text.toList)).1 = .ok r ∧ r.stack = [] ∧ r.root = some root := by
  simp only [← Reading.finish_eq_ok_iff]
  unfold parse
  dsimp only
  cases Reading.all {} (tokens (withoutMark text.toList)).2
      (tokens (withoutMark text.toList)).1 with
  | error f => simp
  | ok r => simp

/-- A mark in front of a text is in front of what the text begins with, unless that is empty. -/
lemma withoutMark_prefix (part whole : List Char) (hpart : part <+: whole) :
    withoutMark part <+: withoutMark whole := by
  obtain ⟨q, rfl⟩ := hpart
  cases part with
  | nil => exact List.nil_prefix
  | cons c cs =>
    by_cases hc : c = '\uFEFF'
    · subst hc
      exact List.prefix_append cs q
    · have hkept : ∀ cs, withoutMark (c :: cs) = c :: cs := by
        intro cs
        unfold withoutMark
        split <;> simp_all
      rw [List.cons_append, hkept, hkept]
      exact List.prefix_append (c :: cs) q

/-- A text that breaks off is read as the same document as the whole text, or not at all. -/
theorem parse_prefix {part whole : String} {root root' : Element}
    (hpart : part.toList <+: whole.toList) (hwhole : parse whole = .ok root)
    (hread : parse part = .ok root') : root' = root := by
  obtain ⟨q, hq⟩ := withoutMark_prefix _ _ hpart
  obtain ⟨r, hall, -, hroot⟩ := parse_eq_ok_iff.1 hwhole
  obtain ⟨r', hall', hstack', hroot'⟩ := parse_eq_ok_iff.1 hread
  obtain ⟨ts, cut, more, fault, hts, hcut, hmore⟩ := tokens_append (withoutMark part.toList) q
  rw [← hq, hmore] at hall
  rw [hts] at hall'
  obtain ⟨middle, hmiddle, hothers⟩ := Reading.all_append_eq_ok hall
  obtain ⟨middle', hmiddle', hends⟩ := Reading.all_append_eq_ok hall'
  obtain rfl : middle' = middle := Except.ok.inj (hmiddle'.symm.trans hmiddle)
  -- What is cut off at the end of the shorter text changes nothing, so the root was there before.
  have hsame : r' = middle' := by
    rcases hcut with rfl | ⟨raw, rfl⟩
    · exact Reading.eq_of_all_nil hends
    · obtain ⟨r₁, hnext, hnone⟩ := Reading.next_of_all_cons hends
      obtain rfl := Reading.eq_of_all_nil hnone
      exact Reading.eq_of_next_text hnext hstack'
  subst hsame
  have hkept := Reading.all_root hothers hroot'
  exact Option.some.inj (hkept.symm.trans hroot)

/-- Whether tags close an element that is in no other one. `depth` elements are open before. -/
def closesRoot (depth : ℕ) : List Token → Bool
  | [] => false
  | .opening _ _ :: ts => closesRoot (depth + 1) ts
  | .single _ _ :: ts => depth == 0 || closesRoot depth ts
  | .closing _ :: ts => depth ≤ 1 || closesRoot (depth - 1) ts
  | .text _ :: ts | .verbatim _ :: ts | .skipped :: ts => closesRoot depth ts

/-- The root element of a text is closed by a tag that is there in full. -/
def ClosesRoot (text : String) : Prop :=
  closesRoot 0 (tokens (withoutMark text.toList)).1 = true

namespace Reading

variable {r r' : Reading} {fault : Option Fault} {ts : List Token}

/-- An element that is placed inside another one leaves the number of open elements as it is. -/
lemma length_place (e : Element) : (r.place e).stack.length = r.stack.length := by
  obtain ⟨stack, root⟩ := r
  cases stack <;> rfl

lemma length_addText (content : List Char) : (r.addText content).stack.length = r.stack.length := by
  obtain ⟨stack, root⟩ := r
  cases stack <;> rfl

lemma place_root_of_ne_nil (e : Element) (hstack : r.stack ≠ []) : (r.place e).root = r.root := by
  obtain ⟨_ | ⟨top, stack⟩, root⟩ := r
  · exact absurd rfl hstack
  · rfl

/-- A tag that closes no element outside all others leaves a reading without a root, at the depth
that the tags after it expect. -/
lemma next_of_not_closesRoot {t : Token} (hts : closesRoot r.stack.length (t :: ts) = false)
    (hroot : r.root = none) (h : r.next t = .ok r') :
    r'.root = none ∧ closesRoot r'.stack.length ts = false := by
  cases t with
  | opening name attributes =>
    cases h
    exact ⟨hroot, hts⟩
  | single name attributes =>
    cases h
    obtain ⟨houter, hts⟩ := Bool.or_eq_false_iff.1 hts
    have hstack : r.stack ≠ [] := by
      intro hnil
      rw [hnil] at houter
      cases houter
    exact ⟨(place_root_of_ne_nil _ hstack).trans hroot, by rwa [length_place]⟩
  | closing name =>
    obtain ⟨houter, hts⟩ := Bool.or_eq_false_iff.1 hts
    rw [next] at h
    split at h
    · cases h
    · rename_i top stack hopen
      split at h
      · cases h
        rw [hopen, List.length_cons] at houter hts
        have hstack : stack ≠ [] := by
          rintro rfl
          cases houter
        exact ⟨(place_root_of_ne_nil _ hstack).trans hroot, by rwa [length_place]⟩
      · cases h
  | text raw =>
    rw [next] at h
    split at h
    · cases h
      exact ⟨hroot, hts⟩
    · split at h
      · cases h
        exact ⟨(addText_root _).trans hroot, by rwa [length_addText]⟩
      · cases h
  | verbatim content =>
    cases h
    exact ⟨(addText_root _).trans hroot, by rwa [length_addText]⟩
  | skipped =>
    cases h
    exact ⟨hroot, hts⟩

lemma all_of_not_closesRoot (hts : closesRoot r.stack.length ts = false) (hroot : r.root = none)
    (h : r.all fault ts = .ok r') : r'.root = none := by
  induction ts generalizing r with
  | nil =>
    obtain rfl := eq_of_all_nil h
    exact hroot
  | cons t ts ih =>
    obtain ⟨r₁, hnext, hothers⟩ := next_of_all_cons h
    obtain ⟨hroot', hts'⟩ := next_of_not_closesRoot hts hroot hnext
    exact ih hts' hroot' hothers

end Reading

/-- A text that does not close its root element is not read at all. -/
theorem closesRoot_of_parse {text : String} {root : Element} (h : parse text = .ok root) :
    ClosesRoot text := by
  by_contra hopen
  obtain ⟨r, hall, -, hroot⟩ := parse_eq_ok_iff.1 h
  have hts : closesRoot 0 (tokens (withoutMark text.toList)).1 = false := Bool.eq_false_iff.2 hopen
  have hnone := Reading.all_of_not_closesRoot (r := {}) hts rfl hall
  rw [hnone] at hroot
  cases hroot

end MailCollector.Xml
