import XmlBounds.Proofs.Markup.Places

/-!
# Spelling a character in another way

Where a character of an attribute's value is written in another way, without quotes, all that
changes in what is read of the document is the value.
-/

namespace XmlBounds.Markup

/-! ## Attributes as they are written -/

/-- A key and its equals sign, with blanks before and around them. -/
inductive WritesKey : String → List Char → Prop where
  | mk {first : Char} {more gap gap' gap'' : List Char} : (∀ c ∈ gap, Text.isSpace c = true) →
      Text.isSpace first = false → (∀ c ∈ more, isKeyChar c = true) →
      (∀ c ∈ gap', Text.isSpace c = true) → (∀ c ∈ gap'', Text.isSpace c = true) →
      WritesKey (String.ofList (first :: more)) (gap ++ first :: more ++ gap' ++ '=' :: gap'')

theorem WritesKey.ne_nil {key : String} {head : List Char} (h : WritesKey key head) :
    head ≠ [] := by
  cases h
  simp

/-- An attribute with its value in quotes. -/
inductive WritesAttribute : Attribute → List Char → Prop where
  | mk {key : String} {value head : List Char} {quote : Char} : WritesKey key head →
      (quote = '"' ∨ quote = '\'') → quote ∉ value →
      WritesAttribute ⟨key, String.ofList value⟩ (head ++ quote :: value ++ [quote])

/-- Attributes, one after the other. -/
inductive WritesAttributes : List Attribute → List Char → Prop where
  | nil : WritesAttributes [] []
  | cons {a : Attribute} {attributes : List Attribute} {s t : List Char} :
      WritesAttribute a s → WritesAttributes attributes t →
      WritesAttributes (a :: attributes) (s ++ t)

/-- The keys that are known, wherever they were read. -/
def Knows (known : List (String × Nat)) (keys : List String) : Prop :=
  ∀ key, (known.lookup key).isSome = true ↔ key ∈ keys

theorem Knows.concat {known : List (String × Nat)} {keys : List String} (h : Knows known keys)
    (key : String) (p : Nat) : Knows (known ++ [(key, p)]) (keys ++ [key]) := by
  intro other
  rw [List.lookup_append, Option.isSome_or, Bool.or_eq_true, h, List.mem_append]
  by_cases heq : other = key
  · simp [heq]
  · have hne : (other == key) = false := beq_eq_false_iff_ne.mpr heq
    simp [List.lookup_cons, hne, heq]

theorem knows_map (keys : List String) : Knows (keys.map (·, 0)) keys := by
  induction keys with
  | nil => simp [Knows]
  | cons key keys ih =>
      intro other
      by_cases heq : other = key
      · simp [heq]
      · have hne : (other == key) = false := beq_eq_false_iff_ne.mpr heq
        have hrest := ih other
        simp [List.lookup_cons, hne, hrest, heq]

theorem Knows.lookup_eq_none {known : List (String × Nat)} {keys : List String} {key : String}
    (h : Knows known keys) (hkey : key ∉ keys) : known.lookup key = none := by
  rw [← Option.not_isSome_iff_eq_none, h]
  exact hkey

/-! ## Readers of attributes, wherever they stand -/

theorem rest_passWhile (test : Char → Bool) (c : AttributeCursor) :
    (c.passWhile test).2.rest = c.rest.dropWhile test := by
  have hsplit := List.takeWhile_append_dropWhile (p := test) (l := c.rest)
  have hdrop :
      (c.rest.takeWhile test ++ c.rest.dropWhile test).drop (c.rest.takeWhile test).length =
        c.rest.dropWhile test := List.drop_left
  rw [hsplit] at hdrop
  exact hdrop

theorem rest_afterSpace (c : AttributeCursor) :
    c.afterSpace.rest = c.rest.dropWhile Text.isSpace := rest_passWhile _ c

theorem readKey_eq_ok {first : Char} {c : AttributeCursor} {key : String} {rest : List Char} :
    (∃ q, readKey first c = .ok (key, ⟨rest, q⟩)) ↔
      key = String.ofList (first :: c.rest.takeWhile isKeyChar) ∧
        (c.rest.dropWhile isKeyChar).dropWhile Text.isSpace = '=' :: rest := by
  have hrest : (c.passWhile isKeyChar).2.afterSpace.rest =
      (c.rest.dropWhile isKeyChar).dropWhile Text.isSpace := by
    rw [rest_afterSpace, rest_passWhile]
  unfold readKey
  rw [← hrest]
  simp only
  split
  · next rest' hequals =>
      rw [hequals]
      simp [AttributeCursor.passWhile, eq_comm]
  · next hequals =>
      constructor
      · rintro ⟨_, hq⟩
        cases hq
      · rintro ⟨-, hq⟩
        exact absurd hq (hequals rest)

theorem readValue_eq_ok {c : AttributeCursor} {value : String} {rest : List Char} :
    (∃ q, readValue c = .ok (value, ⟨rest, q⟩)) ↔
      ∃ quote s, (quote = '"' ∨ quote = '\'') ∧ c.rest.dropWhile Text.isSpace = quote :: s ∧
        value = String.ofList (s.takeWhile (· != quote)) ∧
        s.dropWhile (· != quote) = quote :: rest := by
  have hspace := rest_afterSpace c
  unfold readValue
  simp only
  cases hafter : c.afterSpace.rest with
  | nil =>
      rw [hafter] at hspace
      simp [← hspace]
  | cons quote s =>
      rw [hafter] at hspace
      simp only [← hspace, List.cons.injEq]
      by_cases hquote : quote = '"' ∨ quote = '\''
      · rw [if_pos hquote]
        have hclose := rest_passWhile (· != quote) ⟨s, c.afterSpace.position + 1⟩
        split
        · next hnone =>
            rw [hnone] at hclose
            constructor
            · rintro ⟨_, hq⟩
              cases hq
            · rintro ⟨_, _, -, ⟨rfl, rfl⟩, -, hmore⟩
              rw [← hclose] at hmore
              cases hmore
        · next d rest' hsome =>
            rw [hsome] at hclose
            have hd : d = quote := by simpa using Text.not_of_dropWhile_eq_cons hclose.symm
            constructor
            · rintro ⟨_, hq⟩
              cases hq
              exact ⟨quote, s, hquote, ⟨rfl, rfl⟩, rfl, by rw [← hclose, hd]⟩
            · rintro ⟨_, _, -, ⟨rfl, rfl⟩, rfl, hmore⟩
              rw [← hclose, List.cons.injEq] at hmore
              obtain ⟨-, rfl⟩ := hmore
              exact ⟨_, rfl⟩
      · rw [if_neg hquote]
        constructor
        · rintro ⟨_, hq⟩
          cases hq
        · rintro ⟨_, _, hsome, ⟨rfl, rfl⟩, -⟩
          exact absurd hsome hquote

/-- An attribute is read from a text, and what is left of it. -/
def ReadsAttribute (s : List Char) (a : Attribute) (rest : List Char) : Prop :=
  ∃ first t u, s.dropWhile Text.isSpace = first :: t ∧
    (a.key = String.ofList (first :: t.takeWhile isKeyChar) ∧
      (t.dropWhile isKeyChar).dropWhile Text.isSpace = '=' :: u) ∧
    ∃ quote v, (quote = '"' ∨ quote = '\'') ∧ u.dropWhile Text.isSpace = quote :: v ∧
      a.value = String.ofList (v.takeWhile (· != quote)) ∧ v.dropWhile (· != quote) = quote :: rest

theorem ReadsAttribute.attributesFrom_eq {a : Attribute} {rest : List Char}
    {c : AttributeCursor} {known : List (String × Nat)} (h : ReadsAttribute c.rest a rest)
    (hnew : known.lookup a.key = none) : ∃ p q, attributesFrom known c =
      (attributesFrom (known ++ [(a.key, p)]) ⟨rest, q⟩).cons a := by
  obtain ⟨first, t, u, hstart, hkey, hvalue⟩ := h
  rw [← rest_afterSpace] at hstart
  obtain ⟨q, hkey⟩ := readKey_eq_ok (c := ⟨t, c.afterSpace.position + first.utf8Size⟩).mpr hkey
  obtain ⟨q', hvalue⟩ := readValue_eq_ok (c := ⟨u, q⟩).mpr hvalue
  refine ⟨c.afterSpace.position, q', ?_⟩
  rw [attributesFrom]
  split
  · next hnone =>
      rw [hstart] at hnone
      cases hnone
  · next first' t' hstart' =>
      rw [hstart, List.cons.injEq] at hstart'
      obtain ⟨rfl, rfl⟩ := hstart'
      simp only
      split
      · next hfault =>
          rw [hkey] at hfault
          cases hfault
      · next hkey' =>
          rw [hkey] at hkey'
          cases hkey'
          split
          · next hknown =>
              rw [hnew] at hknown
              cases hknown
          · split
            · next hfault =>
                rw [hvalue] at hfault
                cases hfault
            · next hvalue' =>
                rw [hvalue] at hvalue'
                cases hvalue'
                rfl

/-- Where no new attribute is read, reading stops: at the end, or at a fault. -/
theorem attributesFrom_of_not_reads {c : AttributeCursor} {known : List (String × Nat)}
    (h : ∀ a rest, ReadsAttribute c.rest a rest → known.lookup a.key ≠ none) :
    (attributesFrom known c).attributes = [] ∧
      ((attributesFrom known c).fault = none ↔ c.rest.dropWhile Text.isSpace = []) := by
  rw [attributesFrom]
  split
  · next hstart => simpa [rest_afterSpace] using hstart
  · next first t hstart =>
      rw [rest_afterSpace] at hstart
      simp only [hstart]
      split
      · simp
      · next key c1 hkey =>
          split
          · simp
          · next hnew =>
              split
              · simp
              · next value c2 hvalue =>
                  have hreads : ReadsAttribute c.rest ⟨key, value⟩ c2.rest :=
                    ⟨first, t, c1.rest, hstart, readKey_eq_ok.mp ⟨_, hkey⟩,
                      readValue_eq_ok.mp ⟨_, hvalue⟩⟩
                  exact absurd hnew (h _ _ hreads)

theorem ReadsAttribute.length_lt {s rest : List Char} {a : Attribute}
    (h : ReadsAttribute s a rest) : rest.length < s.length := by
  have hle (p : Char → Bool) (l : List Char) : (l.dropWhile p).length ≤ l.length :=
    (List.dropWhile_sublist p).length_le
  obtain ⟨first, t, u, hstart, ⟨-, hkey⟩, quote, v, -, hopen, -, hclose⟩ := h
  have h1 := hle Text.isSpace s
  have h2 := hle isKeyChar t
  have h3 := hle Text.isSpace (t.dropWhile isKeyChar)
  have h4 := hle Text.isSpace u
  have h5 := hle (· != quote) v
  rw [hstart, List.length_cons] at h1
  rw [hkey, List.length_cons] at h3
  rw [hopen, List.length_cons] at h4
  rw [hclose, List.length_cons] at h5
  omega

/-- Positions are told in faults only. -/
theorem attributesFrom_position {known known' : List (String × Nat)} {keys : List String}
    {s : List Char} (h : Knows known keys) (h' : Knows known' keys) (p p' : Nat) :
    (attributesFrom known ⟨s, p⟩).attributes = (attributesFrom known' ⟨s, p'⟩).attributes ∧
      ((attributesFrom known ⟨s, p⟩).fault = none ↔
        (attributesFrom known' ⟨s, p'⟩).fault = none) := by
  -- Both read on in the same way, and the keys that they know are the same.
  induction hlength : s.length using Nat.strong_induction_on
    generalizing s known known' keys p p' with
  | _ n ih =>
      by_cases hreads : ∃ a rest, ReadsAttribute s a rest ∧ a.key ∉ keys
      · obtain ⟨a, rest, hreads, hkey⟩ := hreads
        obtain ⟨q, q1, hfirst⟩ := hreads.attributesFrom_eq (c := ⟨s, p⟩) (h.lookup_eq_none hkey)
        obtain ⟨q', q1', hsecond⟩ :=
          hreads.attributesFrom_eq (c := ⟨s, p'⟩) (h'.lookup_eq_none hkey)
        rw [hfirst, hsecond]
        have hrest := ih _ (hlength ▸ hreads.length_lt) (h.concat a.key q) (h'.concat a.key q')
          q1 q1' rfl
        exact ⟨congrArg (a :: ·) hrest.1, hrest.2⟩
      · have hknown {l : List (String × Nat)} (hl : Knows l keys) (a : Attribute)
            (rest : List Char) (ha : ReadsAttribute s a rest) : l.lookup a.key ≠ none := by
          intro hnone
          refine hreads ⟨a, rest, ha, fun hmem => ?_⟩
          have hsome := (hl a.key).mpr hmem
          rw [hnone] at hsome
          cases hsome
        have hstops := attributesFrom_of_not_reads (c := ⟨s, p⟩) (hknown h)
        have hstops' := attributesFrom_of_not_reads (c := ⟨s, p'⟩) (hknown h')
        exact ⟨hstops.1.trans hstops'.1.symm, hstops.2.trans hstops'.2.symm⟩

/-! ## Written attributes are read -/

theorem not_isKeyChar_of_isSpace {c : Char} (h : Text.isSpace c = true) : isKeyChar c = false := by
  simp [isKeyChar, h]

theorem WritesAttribute.reads {a : Attribute} {s : List Char} (h : WritesAttribute a s)
    (rest : List Char) : ReadsAttribute (s ++ rest) a rest := by
  cases h with
  | @mk key value head quote hhead hquote hvalue =>
      cases hhead with
      | @mk first more gap gap' gap'' hgap hfirst hmore hgap' hgap'' =>
          let u := gap'' ++ quote :: (value ++ quote :: rest)
          let t := more ++ (gap' ++ '=' :: u)
          have hwhole : gap ++ first :: more ++ gap' ++ '=' :: gap'' ++ quote :: value ++ [quote] ++
              rest = gap ++ first :: t := by simp [t, u]
          have hafterKey : ∀ c ∈ (gap' ++ '=' :: u).head?, isKeyChar c = false := by
            cases gap' with
            | nil => simp [isKeyChar]
            | cons d gap' =>
                intro c hc
                cases hc
                exact not_isKeyChar_of_isSpace (hgap' d List.mem_cons_self)
          have hquoteSpace : Text.isSpace quote = false := by
            rcases hquote with rfl | rfl
            · rfl
            · rfl
          have hunquoted : ∀ c ∈ value, (c != quote) = true := by
            intro c hc
            rw [bne_iff_ne]
            rintro rfl
            exact hvalue hc
          refine ⟨first, t, u, ?_, ⟨?_, ?_⟩, quote, value ++ quote :: rest, hquote, ?_, ?_, ?_⟩
          · rw [hwhole]
            exact Text.dropWhile_append_stop hgap (by simp [hfirst])
          · rw [Text.takeWhile_append_stop hmore hafterKey]
          · rw [Text.dropWhile_append_stop hmore hafterKey]
            exact Text.dropWhile_append_stop hgap' (by simp; rfl)
          · exact Text.dropWhile_append_stop hgap'' (by simp [hquoteSpace])
          · rw [Text.takeWhile_append_stop hunquoted (by simp)]
          · exact Text.dropWhile_append_stop hunquoted (by simp)

theorem ReadsAttribute.exists_writes {a : Attribute} {s rest : List Char}
    (h : ReadsAttribute s a rest) : ∃ w, s = w ++ rest ∧ WritesAttribute a w := by
  obtain ⟨key, value⟩ := a
  obtain ⟨first, t, u, hstart, ⟨hkey, hequals⟩, quote, v, hquote, hopen, hvalue, hclose⟩ := h
  simp only at hkey hvalue
  have hfirst := Text.not_of_dropWhile_eq_cons hstart
  have hspaces (l : List Char) : ∀ c ∈ l.takeWhile Text.isSpace, Text.isSpace c = true :=
    fun c hc => List.mem_takeWhile_imp hc
  have hs := List.takeWhile_append_dropWhile (p := Text.isSpace) (l := s)
  have ht := List.takeWhile_append_dropWhile (p := isKeyChar) (l := t)
  have ht' := List.takeWhile_append_dropWhile (p := Text.isSpace) (l := t.dropWhile isKeyChar)
  have hu := List.takeWhile_append_dropWhile (p := Text.isSpace) (l := u)
  have hv := List.takeWhile_append_dropWhile (p := (· != quote)) (l := v)
  rw [hstart] at hs
  rw [hequals] at ht'
  rw [hopen] at hu
  rw [hclose] at hv
  have hmore : ∀ c ∈ t.takeWhile isKeyChar, isKeyChar c = true :=
    fun c hc => List.mem_takeWhile_imp hc
  have hhead := WritesKey.mk (hspaces s) hfirst hmore (hspaces (t.dropWhile isKeyChar)) (hspaces u)
  have hwritten := WritesAttribute.mk hhead hquote
    (fun hmem => absurd (List.mem_takeWhile_imp (p := (· != quote)) (l := v) hmem) (by simp))
  rw [← hkey, ← hvalue] at hwritten
  refine ⟨_, ?_, hwritten⟩
  simp only [List.append_assoc, List.cons_append, List.nil_append]
  rw [hv, hu, ht', ht, hs]

/-- Written attributes are read in turn, if no key comes twice. -/
theorem WritesAttributes.attributes_eq {attributes : List Attribute} {s : List Char}
    (h : WritesAttributes attributes s) {known : List (String × Nat)} {keys : List String}
    (hknown : Knows known keys) (hdistinct : (keys ++ attributes.map (·.key)).Nodup)
    (rest : List Char) (p : Nat) :
    ∃ known' q, Knows known' (keys ++ attributes.map (·.key)) ∧
      (attributesFrom known ⟨s ++ rest, p⟩).attributes =
        attributes ++ (attributesFrom known' ⟨rest, q⟩).attributes ∧
      (attributesFrom known ⟨s ++ rest, p⟩).fault = (attributesFrom known' ⟨rest, q⟩).fault := by
  induction h generalizing known keys p with
  | nil => exact ⟨known, p, by simpa using hknown, rfl, rfl⟩
  | @cons a attributes s t ha _ ih =>
      rw [List.map_cons, List.append_cons] at hdistinct
      have hnew : a.key ∉ keys := by
        have hfirst := (List.nodup_append.mp hdistinct).1
        exact fun hmem =>
          (List.nodup_append.mp hfirst).2.2 _ hmem _ (List.mem_singleton.mpr rfl) rfl
      obtain ⟨p', q, hread⟩ := (ha.reads (t ++ rest)).attributesFrom_eq (c := ⟨_, p⟩)
        (hknown.lookup_eq_none hnew)
      obtain ⟨known', q', hknown', hrest, hfault⟩ := ih (hknown.concat a.key p') hdistinct q
      refine ⟨known', q', by rwa [List.map_cons, List.append_cons], ?_⟩
      rw [List.append_assoc, hread]
      exact ⟨congrArg (a :: ·) hrest, hfault⟩

/-! ## Places in values -/

/-- A place in the value of an attribute, with what is written around it. -/
structure ValuePlace where
  /-- What comes before the tag, and the tokens that are read of it. -/
  passed : List Char
  tokens : List Token
  /-- The elements that are open there. -/
  names : List String
  name : List Char
  /-- The attributes that come before in the tag, and how they are written. -/
  attributes : List Attribute
  earlier : List Char
  /-- The key of the attribute, and how it is written with the equals sign. -/
  key : String
  head : List Char
  quote : Char
  left : List Char
  right : List Char
  /-- What comes after the attribute. -/
  rest : List Char

/-- The text without a byte order mark in front. -/
def withoutMark : List Char → List Char
  | '\uFEFF' :: rest => rest
  | s => s

namespace ValuePlace

variable (P : ValuePlace)

/-- What comes before the place in the tag. -/
def front : List Char := P.name ++ (P.earlier ++ (P.head ++ P.quote :: P.left))

/-- What follows the opening bracket of the tag, with a spelling at the place. -/
def inside (spelling : List Char) : List Char :=
  P.front ++ (spelling ++ (P.right ++ P.quote :: P.rest))

/-- The document with a spelling at the place. -/
def text (spelling : List Char) : String := String.ofList (P.passed ++ '<' :: P.inside spelling)

/-- In the document with the character at the place, this is the place of a character of a value. -/
structure Holds (c : Char) : Prop where
  reads : ReadsOn [] (withoutMark P.passed ++ '<' :: P.inside [c]) P.tokens P.names
    ('<' :: P.inside [c])
  isTag : ∀ d ∈ P.front.head?, d ∉ ['!', '/', '?']
  name : ∀ d ∈ P.name, Text.isSpace d = false
  gap : ∀ d ∈ (P.earlier ++ P.head).head?, Text.isSpace d = true
  earlier : WritesAttributes P.attributes P.earlier
  head : WritesKey P.key P.head
  distinct : (P.attributes.map (·.key) ++ [P.key]).Nodup
  quote : P.quote = '"' ∨ P.quote = '\''
  left : P.quote ∉ P.left
  character : P.quote ≠ c
  right : P.quote ∉ P.right
  /-- Also to the reader of the tag the place is between these quotes. -/
  isOpen : closeIndex? Option.isNone passQuote none 0 P.front = none
  isQuoted : P.front.foldl passQuote none = some P.quote

/-- What is left of the tag after the attribute. -/
def tail : List Char := tagContent P.rest

def isEmptyTag : Bool := P.tail.getLast? == some '/'

/-- What stands for further attributes. -/
def furtherText : List Char := if P.isEmptyTag then P.tail.dropLast else P.tail

def tag (spelling : List Char) : Tag where
  name := String.ofList P.name
  attributeText := P.earlier ++ (P.head ++ P.quote ::
    (P.left ++ (spelling ++ (P.right ++ P.quote :: P.furtherText))))

def token (spelling : List Char) : Token :=
  if P.isEmptyTag then .emptyTag (P.tag spelling) else .startTag (P.tag spelling)

def value (spelling : List Char) : String := String.ofList (P.left ++ (spelling ++ P.right))

/-- What is read of the tag after the attribute. -/
def furtherList : AttributeList :=
  attributesFrom ((P.attributes.map (·.key) ++ [P.key]).map (·, 0)) ⟨P.furtherText, 0⟩

/-- The attributes that come after in the tag. -/
def further : List Attribute := P.furtherList.attributes

/-- What is read of the document after the tag. -/
def after : List Token :=
  (readFrom (if P.isEmptyTag then P.names else String.ofList P.name :: P.names) 0
    (P.rest.drop (P.tail.length + 1))).tokens

end ValuePlace

section Quoted

variable {quote : Char} {s : List Char}

theorem foldl_passQuote (h : quote ∉ s) : s.foldl passQuote (some quote) = some quote := by
  induction s with
  | nil => rfl
  | cons c s ih =>
      rw [List.mem_cons, not_or] at h
      rw [List.foldl_cons, passQuote, if_neg (Ne.symm h.1), ih h.2]

theorem closeIndex?_quoted (h : quote ∉ s) (n : Nat) :
    closeIndex? Option.isNone passQuote (some quote) n s = none := by
  induction s generalizing n with
  | nil => rfl
  | cons c s ih =>
      rw [List.mem_cons, not_or] at h
      rw [closeIndex?, if_neg (by simp), passQuote, if_neg (Ne.symm h.1), ih h.2]

end Quoted

/-- A tag that is not at its end goes on with what follows. -/
theorem tagContent_append {s t : List Char}
    (hopen : closeIndex? Option.isNone passQuote none 0 s = none)
    (hquote : s.foldl passQuote none = none) : tagContent (s ++ t) = s ++ tagContent t := by
  unfold tagContent
  rw [closeIndex?_append_of_none hopen, hquote, closeIndex?_add]
  cases closeIndex? Option.isNone passQuote none 0 t with
  | none =>
      rw [Option.map_none, Option.getD_none, Option.getD_none, List.length_append,
        List.take_length_add_append]
  | some n =>
      rw [Option.map_some, Option.getD_some, Option.getD_some, Nat.add_comm n,
        List.take_length_add_append]

theorem withoutMark_append (s : List Char) {c : Char} (hc : c ≠ '\uFEFF') (t : List Char) :
    withoutMark (s ++ c :: t) = withoutMark s ++ c :: t := by
  cases s with
  | nil =>
      rw [List.nil_append, withoutMark]
      · rfl
      · rintro rest hrest
        exact hc (List.cons.inj hrest).1
  | cons d s =>
      by_cases hd : d = '\uFEFF'
      · subst hd
        rfl
      · have hkeep (l : List Char) : withoutMark (d :: l) = d :: l := by
          rw [withoutMark]
          rintro rest hrest
          exact hd (List.cons.inj hrest).1
        rw [List.cons_append, hkeep, hkeep, List.cons_append]

theorem read_ofList (s : List Char) : read (String.ofList s) = readFrom [] 0 (withoutMark s) := by
  unfold read
  rw [String.toList_ofList]
  split
  · rfl
  · next hmark =>
      unfold withoutMark
      split
      · exact absurd rfl (hmark _)
      · rfl

namespace ValuePlace

variable {P : ValuePlace} {c : Char} {spelling : List Char}

/-- The tag up to the quote that closes the value. -/
def upToValue (P : ValuePlace) (spelling : List Char) : List Char :=
  P.front ++ (spelling ++ P.right) ++ [P.quote]

theorem inside_eq (P : ValuePlace) (spelling : List Char) :
    P.inside spelling = P.upToValue spelling ++ P.rest := by
  simp [inside, upToValue]

theorem tagContent_inside (h : P.Holds c) (hspelling : P.quote ∉ spelling) :
    tagContent (P.inside spelling) = P.upToValue spelling ++ P.tail := by
  have hquoted : P.quote ∉ spelling ++ P.right := by simp [hspelling, h.right]
  have hinner : (P.front ++ (spelling ++ P.right)).foldl passQuote none = some P.quote := by
    rw [List.foldl_append, h.isQuoted, foldl_passQuote hquoted]
  have hopen : closeIndex? Option.isNone passQuote none 0 (P.front ++ (spelling ++ P.right)) =
      none := by
    rw [closeIndex?_append_of_none h.isOpen, h.isQuoted, closeIndex?_quoted hquoted]
  rw [inside_eq]
  apply tagContent_append
  · rw [upToValue, closeIndex?_append_of_none hopen, hinner, closeIndex?, if_neg (by simp)]
    rfl
  · rw [upToValue, List.foldl_append, hinner]
    simp [passQuote]

theorem tagOf_upToValue (h : P.Holds c) (spelling v : List Char) :
    tagOf (P.upToValue spelling ++ v) = ⟨String.ofList P.name, P.earlier ++ (P.head ++ P.quote ::
      (P.left ++ (spelling ++ (P.right ++ P.quote :: v))))⟩ := by
  have hwhole : P.upToValue spelling ++ v = P.name ++ (P.earlier ++ (P.head ++ P.quote ::
      (P.left ++ (spelling ++ (P.right ++ P.quote :: v))))) := by simp [upToValue, front]
  have hname : ∀ d ∈ P.name, (!Text.isSpace d) = true := fun d hd => by simp [h.name d hd]
  have hgap : ∀ d ∈ (P.earlier ++ (P.head ++ P.quote ::
      (P.left ++ (spelling ++ (P.right ++ P.quote :: v))))).head?, (!Text.isSpace d) = false := by
    intro d hd
    obtain ⟨e, s, hs⟩ := List.exists_cons_of_ne_nil
      (List.append_ne_nil_of_right_ne_nil P.earlier h.head.ne_nil)
    have hspace := h.gap e (by rw [hs]; rfl)
    rw [← List.append_assoc, hs] at hd
    cases hd
    simp [hspace]
  rw [hwhole, tagOf, Text.takeWhile_append_stop hname hgap, Text.dropWhile_append_stop hname hgap]

theorem tagPiece_inside (h : P.Holds c) (spelling : List Char) (names : List String) :
    tagPiece names (P.upToValue spelling ++ P.tail) = ⟨P.token spelling,
      (P.upToValue spelling ++ P.tail).length + 1,
      if P.isEmptyTag then names else String.ofList P.name :: names⟩ := by
  have hslash : P.quote ≠ '/' := by
    rcases h.quote with hquote | hquote
    · rw [hquote]
      decide
    · rw [hquote]
      decide
  have hlast : (P.upToValue spelling ++ P.tail).getLast? = some '/' ↔ P.isEmptyTag = true := by
    have hvalue : (P.upToValue spelling).getLast? = some P.quote := by simp [upToValue]
    rw [isEmptyTag, beq_iff_eq, List.getLast?_append, hvalue]
    cases P.tail.getLast? with
    | none => simpa using hslash
    | some d => simp
  unfold tagPiece
  by_cases hempty : P.isEmptyTag = true
  · have hne : P.tail ≠ [] := by
      rintro hnil
      simp [isEmptyTag, hnil] at hempty
    rw [if_pos (hlast.mpr hempty), if_pos hempty, List.dropLast_append_of_ne_nil hne,
      tagOf_upToValue h, token, if_pos hempty, tag, furtherText, if_pos hempty]
  · rw [if_neg (mt hlast.mp hempty), if_neg hempty, tagOf_upToValue h, token, if_neg hempty, tag,
      furtherText, if_neg hempty]

/-- With another spelling at the place, the same tokens are read before it and after it, and the tag
differs in the value only. -/
theorem tokens_read (h : P.Holds c) (hspelling : P.quote ∉ spelling) :
    (read (P.text spelling)).tokens = P.tokens ++ P.token spelling :: P.after := by
  obtain ⟨passed, hpassed, hreads⟩ := h.reads.exists_passed
  obtain rfl : withoutMark P.passed = passed := List.append_cancel_right hpassed
  have hmark : withoutMark (P.passed ++ '<' :: P.inside spelling) =
      withoutMark P.passed ++ '<' :: P.inside spelling := withoutMark_append _ (by decide) _
  obtain ⟨d, s, hfront⟩ : ∃ d s, P.front = d :: s :=
    List.exists_cons_of_ne_nil (by simp [front])
  have hinside : P.inside spelling = d :: (s ++ (spelling ++ (P.right ++ P.quote :: P.rest))) := by
    rw [inside, hfront, List.cons_append]
  have hd : d ∉ ['!', '/', '?'] := h.isTag d (by rw [hfront]; rfl)
  have hpiece := readMarkup_tag P.names 0 (s ++ (spelling ++ (P.right ++ P.quote :: P.rest))) hd
  rw [← hinside, tagContent_inside h hspelling, tagPiece_inside h] at hpiece
  have hdrop : (P.inside spelling).drop ((P.upToValue spelling ++ P.tail).length + 1) =
      P.rest.drop (P.tail.length + 1) := by
    rw [inside_eq, List.length_append, Nat.add_assoc, List.drop_length_add_append]
  have htag : ReadsOn P.names ('<' :: P.inside spelling) [P.token spelling]
      (if P.isEmptyTag then P.names else String.ofList P.name :: P.names)
      (P.rest.drop (P.tail.length + 1)) := by
    rw [hinside] at hpiece ⊢
    have hmarkup := ReadsOn.markup hpiece .here
    rw [← hinside, hdrop] at hmarkup
    rw [← hinside]
    exact hmarkup
  rw [text, read_ofList, hmark, (hreads _).tokens_eq, htag.tokens_eq]
  rfl

/-- With another spelling at the place, the tag is at fault just if it was before. -/
theorem attributeList_tag (h : P.Holds c) (hspelling : P.quote ∉ spelling) :
    (P.tag spelling).attributes.attributes =
        P.attributes ++ ⟨P.key, P.value spelling⟩ :: P.further ∧
      ((P.tag spelling).attributes.fault = none ↔ P.furtherList.fault = none) := by
  have hvalue : WritesAttribute ⟨P.key, P.value spelling⟩
      (P.head ++ P.quote :: (P.left ++ (spelling ++ P.right)) ++ [P.quote]) :=
    .mk h.head h.quote (by simp [h.left, hspelling, h.right])
  have hnone : Knows [] [] := by simp [Knows]
  have hearlier : (([] : List String) ++ P.attributes.map (·.key)).Nodup :=
    (List.nodup_append.mp h.distinct).1
  have hnew : P.key ∉ P.attributes.map (·.key) :=
    fun hmem => (List.nodup_append.mp h.distinct).2.2 _ hmem _ (List.mem_singleton.mpr rfl) rfl
  obtain ⟨known, q, hknown, hfirst, hfault⟩ := h.earlier.attributes_eq hnone hearlier
    (P.head ++ P.quote :: (P.left ++ (spelling ++ P.right)) ++ [P.quote] ++ P.furtherText)
    (Text.byteLength (P.tag spelling).name.toList)
  obtain ⟨p, q', hsecond⟩ := (hvalue.reads P.furtherText).attributesFrom_eq (c := ⟨_, q⟩)
    (hknown.lookup_eq_none hnew)
  have hfurther := attributesFrom_position (hknown.concat P.key p)
    (knows_map (P.attributes.map (·.key) ++ [P.key])) q' 0 (s := P.furtherText)
  have htext : (P.tag spelling).attributeText = P.earlier ++ (P.head ++ P.quote ::
      (P.left ++ (spelling ++ P.right)) ++ [P.quote] ++ P.furtherText) := by simp [tag]
  rw [Tag.attributes, htext, hfirst, hfault, hsecond, further, furtherList, ← hfurther.1,
    ← hfurther.2]
  exact ⟨rfl, Iff.rfl⟩

theorem attributes_tag (h : P.Holds c) (hspelling : P.quote ∉ spelling) :
    (P.tag spelling).attributes.attributes =
      P.attributes ++ ⟨P.key, P.value spelling⟩ :: P.further := (attributeList_tag h hspelling).1

end ValuePlace

end XmlBounds.Markup
