import XmlBounds.Proofs.Markup.Respelling

/-!
# Where values are

Every character of the value of an attribute that is read of a document is at a place in a value, if
there are no quotes in the names before it in the tag.
-/

namespace XmlBounds.Markup

/-! ## Quotes in a tag -/

/-- There is no quote in a text. -/
def IsUnquoted (s : List Char) : Prop := ∀ d ∈ s, d ≠ '"' ∧ d ≠ '\''

theorem IsUnquoted.append {s t : List Char} (hs : IsUnquoted s) (ht : IsUnquoted t) :
    IsUnquoted (s ++ t) := fun d hd => (List.mem_append.mp hd).elim (hs d) (ht d)

theorem isUnquoted_of_isSpace {s : List Char} (h : ∀ d ∈ s, Text.isSpace d = true) :
    IsUnquoted s := by
  intro d hd
  constructor
  · rintro rfl
    exact absurd (h _ hd) (by decide)
  · rintro rfl
    exact absurd (h _ hd) (by decide)

theorem IsUnquoted.foldl_passQuote {s : List Char} (h : IsUnquoted s) :
    s.foldl passQuote none = none := by
  induction s with
  | nil => rfl
  | cons d s ih =>
      obtain ⟨hd, hs⟩ := List.forall_mem_cons.mp h
      rw [List.foldl_cons, passQuote, if_neg (by simp [hd]), ih hs]

theorem WritesKey.isUnquoted {key : String} {head : List Char} (h : WritesKey key head)
    (hkey : IsUnquoted key.toList) : IsUnquoted head := by
  cases h with
  | @mk first more gap gap' gap'' hgap _ _ hgap' hgap'' =>
      rw [String.toList_ofList] at hkey
      have hequals : IsUnquoted ('=' :: gap'') :=
        List.forall_mem_cons.mpr ⟨by decide, isUnquoted_of_isSpace hgap''⟩
      exact (((isUnquoted_of_isSpace hgap).append hkey).append
        (isUnquoted_of_isSpace hgap')).append hequals

theorem WritesAttribute.foldl_passQuote {a : Attribute} {s : List Char} (h : WritesAttribute a s)
    (hkey : IsUnquoted a.key.toList) : s.foldl passQuote none = none := by
  cases h with
  | @mk key value head quote hhead hquote hvalue =>
      have hopen : passQuote none quote = some quote := if_pos hquote
      have hquoted : (quote :: value).foldl passQuote none = some quote := by
        rw [List.foldl_cons, hopen, Markup.foldl_passQuote hvalue]
      rw [List.foldl_append, List.foldl_append, (hhead.isUnquoted hkey).foldl_passQuote, hquoted]
      simp [passQuote]

theorem WritesAttributes.foldl_passQuote {attributes : List Attribute} {s : List Char}
    (h : WritesAttributes attributes s) (hkeys : ∀ a ∈ attributes, IsUnquoted a.key.toList) :
    s.foldl passQuote none = none := by
  induction h with
  | nil => rfl
  | cons ha _ ih =>
      obtain ⟨hkey, hkeys⟩ := List.forall_mem_cons.mp hkeys
      rw [List.foldl_append, ha.foldl_passQuote hkey, ih hkeys]

/-! ## Attributes that are read were written -/

theorem exists_readsAttribute {known : List (String × Nat)} {c : AttributeCursor} {a : Attribute}
    {later : List Attribute} (h : (attributesFrom known c).attributes = a :: later) :
    ∃ rest p q, ReadsAttribute c.rest a rest ∧ known.lookup a.key = none ∧
      (attributesFrom (known ++ [(a.key, p)]) ⟨rest, q⟩).attributes = later := by
  by_cases hreads : ∃ b rest, ReadsAttribute c.rest b rest ∧ known.lookup b.key = none
  · obtain ⟨b, rest, hreads, hnew⟩ := hreads
    obtain ⟨p, q, hfirst⟩ := hreads.attributesFrom_eq hnew
    rw [hfirst, AttributeList.cons, List.cons.injEq] at h
    obtain ⟨rfl, hlater⟩ := h
    exact ⟨rest, p, q, hreads, hnew, hlater⟩
  · have hnone : (attributesFrom known c).attributes = [] :=
      (attributesFrom_of_not_reads fun b rest hb hnew => hreads ⟨b, rest, hb, hnew⟩).1
    rw [hnone] at h
    cases h

theorem Knows.nodup_concat {known : List (String × Nat)} {keys : List String} {key : String}
    (h : Knows known keys) (hkeys : keys.Nodup) (hnew : known.lookup key = none) :
    (keys ++ [key]).Nodup := by
  have hmem : key ∉ keys := by
    rw [← h, hnew]
    simp
  simp only [List.nodup_append, List.mem_singleton]
  refine ⟨hkeys, by simp, ?_⟩
  rintro other hother _ rfl rfl
  exact hmem hother

/-- Attributes that are read one after the other are written so, and no key comes twice. -/
theorem exists_writesAttributes {first later : List Attribute} {a : Attribute}
    {known : List (String × Nat)} {keys : List String} {c : AttributeCursor}
    (hknown : Knows known keys) (hkeys : keys.Nodup)
    (h : (attributesFrom known c).attributes = first ++ a :: later) :
    ∃ earlier s rest, c.rest = earlier ++ (s ++ rest) ∧ WritesAttributes first earlier ∧
      WritesAttribute a s ∧ (keys ++ (first.map (·.key) ++ [a.key])).Nodup := by
  induction first generalizing known keys c with
  | nil =>
      obtain ⟨rest, _, _, hreads, hnew, -⟩ := exists_readsAttribute h
      obtain ⟨s, hs, hwrites⟩ := hreads.exists_writes
      exact ⟨[], s, rest, hs, .nil, hwrites, hknown.nodup_concat hkeys hnew⟩
  | cons b first ih =>
      obtain ⟨rest, p, q, hreads, hnew, hlater⟩ := exists_readsAttribute h
      obtain ⟨s, hs, hwrites⟩ := hreads.exists_writes
      obtain ⟨earlier, s', rest', hrest, hfirst, ha, hnodup⟩ :=
        ih (hknown.concat b.key p) (hknown.nodup_concat hkeys hnew) hlater
      refine ⟨s ++ earlier, s', rest', ?_, .cons hwrites hfirst, ha, ?_⟩
      · have hrest : rest = earlier ++ (s' ++ rest') := hrest
        rw [hs, hrest, List.append_assoc]
      · rwa [List.append_assoc] at hnodup

/-! ## Tags that are read -/

/-- A tag is read from a text that begins with its content, which may end in a slash of its own. -/
theorem exists_tagContent {names : List String} {s : List Char} {t : Token} {tag : Tag}
    {after : List Token} (h : (readFrom names 0 s).tokens = t :: after)
    (ht : t = .startTag tag ∨ t = .emptyTag tag) : ∃ c rest body last, s = '<' :: c :: rest ∧
      c ∉ ['!', '/', '?'] ∧ tagContent (c :: rest) = body ++ last ∧ tag = tagOf body := by
  unfold readFrom at h
  split at h
  · cases h
  · cases h
  · next c rest =>
      split at h
      · cases h
      · next piece hpiece =>
          obtain ⟨rfl, -⟩ := List.cons.inj h
          cases isRead_of_readMarkup hpiece with
          | ignored => simp at ht
          | doctype => simp at ht
          | endTag => simp at ht
          | tag hstart =>
              have hc : c ∉ ['!', '/', '?'] := hstart c rfl
              unfold tagPiece at ht
              split at ht
              · next hslash =>
                  obtain ⟨body, hbody⟩ := List.getLast?_eq_some_iff.mp hslash
                  refine ⟨c, rest, body, ['/'], rfl, hc, hbody, ?_⟩
                  rw [hbody] at ht
                  simpa [eq_comm] using ht
              · refine ⟨c, rest, _, [], rfl, hc, (List.append_nil _).symm, ?_⟩
                simpa [eq_comm] using ht
  · next c rest _ _ =>
      obtain ⟨rfl, -⟩ := List.cons.inj h
      simp at ht

theorem exists_append_tagContent (s : List Char) : ∃ more, s = tagContent s ++ more :=
  ⟨_, (List.take_append_drop _ s).symm⟩

/-- The reader of a tag has not come to its end within its content. -/
theorem closeIndex?_of_tagContent {s t more : List Char} (h : tagContent s = t ++ more) :
    closeIndex? Option.isNone passQuote none 0 t = none := by
  cases hindex : closeIndex? Option.isNone passQuote none 0 t with
  | none => rfl
  | some n =>
      have hlt := closeIndex?_lt hindex
      obtain ⟨rest, hrest⟩ := exists_append_tagContent s
      rw [h, List.append_assoc] at hrest
      have hwhole : closeIndex? Option.isNone passQuote none 0 s = some n := by
        rw [← List.append_nil t] at hindex
        rw [hrest]
        exact closeIndex?_local hindex hlt _
      have hlength := congrArg List.length h
      simp only [tagContent, hwhole, Option.getD_some, List.length_take, List.length_append]
        at hlength
      omega

theorem exists_withMark {s passed t : List Char} (h : withoutMark s = passed ++ '<' :: t) :
    ∃ passed', s = passed' ++ '<' :: t ∧ withoutMark passed' = passed := by
  unfold withoutMark at h
  split at h
  · exact ⟨'\uFEFF' :: passed, congrArg _ h, rfl⟩
  · next hmark =>
      refine ⟨passed, h, ?_⟩
      unfold withoutMark
      split
      · exact absurd h (hmark _)
      · rfl

/-- What comes before the place opens the quote, if the names there have none. -/
theorem ValuePlace.foldl_passQuote_front (P : ValuePlace) (hname : IsUnquoted P.name)
    (hearlier : WritesAttributes P.attributes P.earlier)
    (hkeys : ∀ a ∈ P.attributes, IsUnquoted a.key.toList) (hhead : IsUnquoted P.head)
    (hquote : P.quote = '"' ∨ P.quote = '\'') (hleft : P.quote ∉ P.left) :
    P.front.foldl passQuote none = some P.quote := by
  have hopen : passQuote none P.quote = some P.quote := if_pos hquote
  rw [front, List.foldl_append, List.foldl_append, List.foldl_append, hname.foldl_passQuote,
    hearlier.foldl_passQuote hkeys, hhead.foldl_passQuote, List.foldl_cons, hopen,
    foldl_passQuote hleft]

/-- Every character of a value that is read of a document is at a place in a value. -/
theorem exists_valuePlace {text : String} {before after : List Token} {t : Token} {tag : Tag}
    {first later : List Attribute} {a : Attribute} {left right : List Char} {c : Char}
    (htokens : (read text).tokens = before ++ t :: after)
    (ht : t = .startTag tag ∨ t = .emptyTag tag)
    (hattributes : tag.attributes.attributes = first ++ a :: later)
    (hvalue : a.value.toList = left ++ c :: right) (hname : IsUnquoted tag.name.toList)
    (hkeys : ∀ b ∈ first ++ [a], IsUnquoted b.key.toList) :
    ∃ P : ValuePlace, P.Holds c ∧ P.text [c] = text ∧ P.tokens = before ∧ P.attributes = first ∧
      P.key = a.key ∧ P.left = left ∧ P.right = right := by
  have hread : read text = readFrom [] 0 (withoutMark text.toList) := by
    rw [← read_ofList, String.ofList_toList]
  rw [hread] at htokens
  obtain ⟨names, s, hreads, hafter⟩ := exists_readsOn htokens
  obtain ⟨d, rest, body, last, rfl, hd, hcontent, rfl⟩ := exists_tagContent hafter ht
  have hnone : Knows [] [] := by simp [Knows]
  obtain ⟨earlier, w, further, hw, hearlier, ha, hdistinct⟩ :=
    exists_writesAttributes hnone List.nodup_nil hattributes
  obtain ⟨hfirst, hkey⟩ := List.forall_mem_append.mp hkeys
  cases ha with
  | @mk key value head quote hhead hquote hunquoted =>
      rw [String.toList_ofList] at hvalue
      subst hvalue
      obtain ⟨hleft, hcharacter, hright⟩ : quote ∉ left ∧ quote ≠ c ∧ quote ∉ right := by
        simpa using hunquoted
      obtain ⟨more, hmore⟩ := exists_append_tagContent (d :: rest)
      obtain ⟨passed, hpassed, hreads'⟩ := hreads.exists_passed
      obtain ⟨passed', htext, hmark⟩ := exists_withMark hpassed
      let P : ValuePlace := {
        passed := passed'
        tokens := before
        names
        name := body.takeWhile (!Text.isSpace ·)
        attributes := first
        earlier
        key
        head
        quote
        left
        right
        rest := further ++ (last ++ more) }
      have hw : body.dropWhile (!Text.isSpace ·) = earlier ++
          (head ++ quote :: (left ++ c :: right) ++ [quote] ++ further) := hw
      have hbody : body = P.front ++ (c :: (right ++ quote :: further)) := by
        rw [← List.takeWhile_append_dropWhile (p := (!Text.isSpace ·)) (l := body), hw]
        simp [P, ValuePlace.front]
      have hinside : P.inside [c] = d :: rest := by
        rw [hmore, hcontent, hbody]
        simp [P, ValuePlace.inside]
      have hopen : closeIndex? Option.isNone passQuote none 0 P.front = none := by
        rw [hbody, List.append_assoc] at hcontent
        exact closeIndex?_of_tagContent hcontent
      rw [tagOf, String.toList_ofList] at hname
      have hquoted : P.front.foldl passQuote none = some quote :=
        P.foldl_passQuote_front hname hearlier hfirst
          (hhead.isUnquoted (hkey _ List.mem_cons_self)) hquote hleft
      have hplace : P.Holds c := by
        refine ⟨?_, ?_, ?_, ?_, hearlier, hhead, hdistinct, hquote, hleft, hcharacter, hright,
          hopen, hquoted⟩
        · rw [hinside, hmark, ← hpassed]
          exact hreads
        · intro e he
          obtain rfl : e = d := by
            cases hfront : P.front with
            | nil => simp [hfront] at he
            | cons e' front =>
                rw [hfront] at he
                cases he
                rw [ValuePlace.inside, hfront, List.cons_append] at hinside
                exact (List.cons.inj hinside).1
          exact hd
        · intro e he
          simpa using List.mem_takeWhile_imp he
        · intro e he
          have hassoc : body.dropWhile (!Text.isSpace ·) =
              (earlier ++ head) ++ (quote :: (left ++ c :: right) ++ [quote] ++ further) := by
            simp [hw]
          simpa using Text.not_of_dropWhile_eq_append hassoc e he
      refine ⟨P, hplace, ?_, rfl, rfl, rfl, rfl, rfl⟩
      rw [ValuePlace.text, hinside, ← String.toList_inj, String.toList_ofList, htext]

end XmlBounds.Markup
