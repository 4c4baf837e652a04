import Mathlib.Data.List.TakeWhile
import XmlBounds.Access

/-!
# What an allow-list permits

A list that is not the wildcard permits an identifier if the identifier's protocol stands in it
between commas, whatever the case of its letters and the blanks around it. Only the protocol without
any letters is different: it stands in every list that has an entry of nothing but blanks, and so
in the empty list too. A `jar:` identifier whose path begins with a colon has that protocol.
-/

namespace XmlBounds

/-! ## The entries of a list -/

namespace Text

variable {α : Type} {sep : α} {piece s : List α}

/-- The piece stands in the text between two separators, or between one and an end of the text. -/
def IsPiece (sep : α) (piece s : List α) : Prop :=
  sep ∉ piece ∧ ∃ before after, s = before ++ piece ++ after ∧
    (before = [] ∨ [sep] <:+ before) ∧ (after = [] ∨ [sep] <+: after)

theorem IsPiece.subset (h : IsPiece sep piece s) : piece ⊆ s := by
  obtain ⟨_, before, after, rfl, _⟩ := h
  intro c hc
  exact List.mem_append_left after (List.mem_append_right before hc)

theorem IsPiece.after_separator (before : List α) (h : IsPiece sep piece s) :
    IsPiece sep piece (before ++ sep :: s) := by
  obtain ⟨hsep, front, after, rfl, hfront, hafter⟩ := h
  refine ⟨hsep, before ++ sep :: front, after, by simp, .inr ?_, hafter⟩
  rcases hfront with rfl | hfront
  · exact List.suffix_append before [sep]
  · exact hfront.trans ((List.suffix_cons sep front).trans (List.suffix_append before _))

variable [DecidableEq α]

theorem isPiece_of_mem_splitOn (h : piece ∈ splitOn sep s) : IsPiece sep piece s := by
  -- The text up to the first separator is the first piece; the others are pieces of what follows.
  induction hn : s.length using Nat.strongRecOn generalizing s with
  | _ n ih =>
      by_cases hsep : sep ∈ s
      · obtain ⟨first, rest, rfl, hfirst⟩ := List.eq_append_cons_of_mem hsep
        rw [splitOn_append_cons, splitOn_of_notMem hfirst] at h
        rcases List.mem_append.mp h with hpiece | hpiece
        · obtain rfl := List.mem_singleton.mp hpiece
          exact ⟨hfirst, [], sep :: rest, rfl, .inl rfl, .inr ⟨rest, rfl⟩⟩
        · have hshorter : rest.length < n := by
            rw [← hn, List.length_append, List.length_cons]
            omega
          exact (ih rest.length hshorter hpiece rfl).after_separator first
      · rw [splitOn_of_notMem hsep] at h
        obtain rfl := List.mem_singleton.mp h
        exact ⟨hsep, [], [], by simp, .inl rfl, .inl rfl⟩

theorem mem_splitOn_iff : piece ∈ splitOn sep s ↔ IsPiece sep piece s := by
  refine ⟨isPiece_of_mem_splitOn, ?_⟩
  rintro ⟨hsep, before, after, rfl, hbefore, hafter⟩
  have hmem : piece ∈ splitOn sep (piece ++ after) := by
    rcases hafter with rfl | ⟨rest, rfl⟩
    · rw [List.append_nil, splitOn_of_notMem hsep]
      exact List.mem_cons_self
    · rw [List.singleton_append, splitOn_append_cons, splitOn_of_notMem hsep]
      exact List.mem_cons_self
  rcases hbefore with rfl | ⟨front, rfl⟩
  · exact hmem
  · have hsame : front ++ [sep] ++ piece ++ after = front ++ sep :: (piece ++ after) := by simp
    rw [hsame, splitOn_append_cons]
    exact List.mem_append_right _ hmem

theorem toLower_toLower (c : Char) : c.toLower.toLower = c.toLower := by
  unfold Char.toLower
  grind

theorem lowered_map_toLower (s : List Char) :
    lowered (String.ofList (s.map Char.toLower)) = lowered (String.ofList s) := by
  simp only [lowered, String.toList_ofList, List.map_map, Function.comp_def, toLower_toLower]

theorem lowered_eq_empty_iff {s : String} : lowered s = "" ↔ s = "" := by
  simp [lowered, String.ofList_eq_empty_iff]

end Text

namespace AllowList

variable {allowed : Option String} {wildcard protocol : String}

def IsWildcard (allowed : Option String) (wildcard : String) : Prop :=
  ∃ list, allowed = some list ∧ Text.lowered list = Text.lowered wildcard

/-- The protocol is an entry of the list that is more than blanks. The case of letters does not
count, nor do blanks around the entry. -/
def Names (allowed : Option String) (protocol : String) : Prop :=
  ∃ list piece, allowed = some list ∧ Text.IsPiece ',' piece list.toList ∧
    Text.trim piece ≠ [] ∧ Text.lowered (String.ofList (Text.trim piece)) = Text.lowered protocol

/-- An entry of the list is nothing but blanks. -/
def HasBlankEntry (allowed : Option String) : Prop :=
  ∃ list piece, allowed = some list ∧ Text.IsPiece ',' piece list.toList ∧ Text.trim piece = []

/-- The list is absent, or has nothing but commas and blanks. -/
def IsBlank (allowed : Option String) : Prop :=
  ∀ list, allowed = some list → ∀ c ∈ list.toList, c = ',' ∨ Text.isBlank c = true

theorem permits_parse_iff (h : ¬ IsWildcard allowed wildcard) :
    (parse allowed wildcard).permits protocol = true ↔
      Names allowed protocol ∨ protocol = "" ∧ HasBlankEntry allowed := by
  cases allowed with
  | none => simp [parse, permits, Names, HasBlankEntry]
  | some list =>
      have hlist : Text.sameIgnoringCase list wildcard = false := by
        rw [Bool.eq_false_iff]
        exact fun hsame => h ⟨list, rfl, Text.sameIgnoringCase_iff.mp hsame⟩
      have hentry : (parse (some list) wildcard).permits protocol = true ↔
          ∃ piece, Text.IsPiece ',' piece list.toList ∧
            Text.lowered (String.ofList (Text.trim piece)) = Text.lowered protocol := by
        simp only [parse, hlist]
        rw [if_neg Bool.false_ne_true, permits_only_iff]
        simp only [List.mem_map, Text.mem_splitOn_iff]
        constructor
        · rintro ⟨_, ⟨piece, hpiece, rfl⟩, hsame⟩
          exact ⟨piece, hpiece, (Text.lowered_map_toLower _).symm.trans hsame⟩
        · rintro ⟨piece, hpiece, hsame⟩
          exact ⟨_, ⟨piece, hpiece, rfl⟩, (Text.lowered_map_toLower _).trans hsame⟩
      rw [hentry]
      constructor
      · rintro ⟨piece, hpiece, hsame⟩
        by_cases hblank : Text.trim piece = []
        · rw [hblank] at hsame
          exact .inr ⟨Text.lowered_eq_empty_iff.mp hsame.symm, list, piece, rfl, hpiece, hblank⟩
        · exact .inl ⟨list, piece, rfl, hpiece, hblank, hsame⟩
      · rintro (⟨_, piece, ⟨⟩, hpiece, _, hsame⟩ | ⟨rfl, _, piece, ⟨⟩, hpiece, hblank⟩)
        · exact ⟨piece, hpiece, hsame⟩
        · exact ⟨piece, hpiece, by rw [hblank]⟩

/-- Where there are only commas and blanks, no protocol is named. -/
theorem IsBlank.not_names (h : IsBlank allowed) : ¬ Names allowed protocol := by
  rintro ⟨list, piece, rfl, hpiece, hne, -⟩
  refine hne ?_
  have hblank : ∀ c ∈ piece, Text.isBlank c = true := by
    intro c hc
    refine (h list rfl c (hpiece.subset hc)).resolve_left ?_
    rintro rfl
    exact hpiece.1 hc
  have hstart : Text.trimStart piece = [] := List.dropWhile_eq_nil_iff.mpr hblank
  rw [Text.trim, hstart, Text.trimEnd_nil]

end AllowList

/-! ## Protocols -/

namespace Url

variable {α : Type} {scheme : String}

/-- What is read, if it is, is a URL of the scheme. -/
def Reads (scheme : String) (x : Except Fault Url) : Prop :=
  ∀ url, x = .ok url → url.scheme = scheme

namespace Reads

theorem ok {url : Url} (h : url.scheme = scheme) : Reads scheme (.ok url) := by
  rintro _ ⟨⟩
  exact h

theorem bind {x : Except Fault α} {f : α → Except Fault Url} (h : ∀ a, Reads scheme (f a)) :
    Reads scheme (x >>= f) := by
  intro url hurl
  cases x with
  | error fault => cases hurl
  | ok a => exact h a url hurl

theorem throw_bind {fault : Fault} {f : α → Except Fault Url} :
    Reads scheme (throw fault >>= f) := by
  rintro _ ⟨⟩

end Reads

@[simp] theorem scheme_withTail (u : Url) (s : List Char) : (u.withTail s).scheme = u.scheme := by
  unfold withTail
  dsimp only
  split
  · split <;> rfl
  · rfl
  · rfl

theorem reads_readAuthority (s : List Char) : Reads scheme (readAuthority scheme s) := by
  unfold readAuthority
  dsimp only
  split
  · exact .throw_bind
  · split
    · exact .throw_bind
    · refine .bind fun host => ?_
      split
      · exact .throw_bind
      · refine .bind fun port => ?_
        split
        · exact .throw_bind
        · exact .ok (scheme_withTail _ _)

theorem reads_readFileHost (s : List Char) : Reads "file" (readFileHost s) := by
  unfold readFileHost
  dsimp only
  split
  · exact .ok (scheme_withTail _ _)
  · split
    · exact .ok (scheme_withTail _ _)
    · refine .bind fun host => ?_
      split
      · exact .ok (scheme_withTail _ _)
      · exact .ok (scheme_withTail _ _)

theorem reads_readFile (s : List Char) : Reads "file" (readFile none s) := by
  unfold readFile
  split
  · split
    · split
      · split
        · exact reads_readFileHost _
        · exact .ok (scheme_withTail _ _)
      · exact .ok (scheme_withTail _ _)
    · exact .ok (scheme_withTail _ _)
  · exact .ok (by simp [readFilePath, file])

theorem reads_readAfterScheme (s : List Char) :
    Reads scheme (readAfterScheme none scheme s) := by
  unfold readAfterScheme
  split
  · next hfile =>
      rw [hfile]
      exact reads_readFile s
  · split
    · exact reads_readAuthority _
    · dsimp only
      split
      · exact reads_readAuthority _
      · exact .ok (scheme_withTail _ _)
      · exact .ok (scheme_withTail _ _)

theorem splitScheme?_eq_some {s rest : List Char} (h : splitScheme? s = some (scheme, rest)) :
    scheme ≠ "" ∧ ':' ∈ s := by
  cases s with
  | nil => cases h
  | cons c s =>
      simp only [splitScheme?] at h
      split at h
      · next hletter =>
          split at h
          · next hcolon =>
              cases h
              have hc : isSchemeChar c = true := by
                simp [isSchemeChar, Char.isAlphanum, hletter]
              refine ⟨by simp [String.ofList_eq_empty_iff, hc], ?_⟩
              refine (List.dropWhile_sublist (p := isSchemeChar)).subset ?_
              rw [hcolon]
              exact List.mem_cons_self
          · cases h
      · cases h

theorem mem_of_mem_significant {text : String} {c : Char} (h : c ∈ significant text) :
    c ∈ text.toList := by
  have hinner := List.mem_reverse.mp (List.mem_filter.mp h).1
  exact (List.dropWhile_sublist _).subset
    (List.mem_reverse.mp ((List.dropWhile_sublist _).subset hinner))

theorem of_parse {text : String} {url : Url} (h : parse text = .ok url) :
    url.scheme ≠ "" ∧ ':' ∈ text.toList := by
  unfold parse read at h
  dsimp only at h
  split at h
  · next scheme rest hscheme =>
      obtain ⟨hne, hcolon⟩ := splitScheme?_eq_some hscheme
      rw [reads_readAfterScheme rest url h]
      exact ⟨hne, mem_of_mem_significant hcolon⟩
  · cases h

end Url

/-- The identifier embeds another one that has no scheme: its own scheme is `jar`, and its path
begins with a colon. -/
def EmbedsNoScheme (systemId : String) : Prop :=
  ∃ url, Url.parse systemId = .ok url ∧ url.scheme = "jar" ∧
    url.path.text.toList.head? = some ':'

theorem protocolOf_eq_empty_iff {systemId : String} :
    protocolOf systemId = .ok "" ↔ EmbedsNoScheme systemId := by
  constructor
  · intro h
    unfold protocolOf at h
    split at h
    · exact absurd (Except.ok.inj h) (by decide)
    · split at h
      · cases h
      · next url hurl =>
          split at h
          · next hjar =>
              refine ⟨url, hurl, hjar, ?_⟩
              dsimp only at h
              split at h
              · next hcolon =>
                  have hbefore : url.path.text.toList.takeWhile (· != ':') = [] := by
                    simpa only [String.ofList_eq_empty_iff, List.map_eq_nil_iff] using
                      Except.ok.inj h
                  obtain ⟨c, rest, hpath⟩ := List.exists_cons_of_ne_nil (List.ne_nil_of_mem hcolon)
                  rw [hpath] at hbefore ⊢
                  simpa using hbefore
              · cases h
          · exact absurd (Except.ok.inj h) (Url.of_parse hurl).1
  · rintro ⟨url, hurl, hjar, hpath⟩
    obtain ⟨rest, hrest⟩ := List.head?_eq_some_iff.mp hpath
    unfold protocolOf
    rw [if_neg (not_not_intro (Url.of_parse hurl).2), hurl]
    simp [hjar, hrest]

/-! ## Refusals -/

section Refusals

variable {allowed : Option String} {wildcard : String}

theorem refusedProtocol_eq (h : ¬ AllowList.IsWildcard allowed wildcard) (systemId : String) :
    refusedProtocol (some systemId) allowed wildcard = (do
      let protocol ← protocolOf systemId
      return if (AllowList.parse allowed wildcard).permits protocol then none
        else some protocol) := by
  cases hparse : AllowList.parse allowed wildcard with
  | any =>
      cases allowed with
      | none => cases hparse
      | some list =>
          simp only [AllowList.parse] at hparse
          split at hparse
          · next hsame => exact absurd ⟨list, rfl, Text.sameIgnoringCase_iff.mp hsame⟩ h
          · cases hparse
  | only tokens => simp only [refusedProtocol, hparse]

/-- A list that is not the wildcard lets an identifier pass if it names the identifier's protocol,
and besides, if it has a blank entry, the identifiers that embed one without a scheme. Any other is
refused by its protocol, and one without a protocol is at fault. So where there are only commas and
blanks nothing passes, again but for what embeds an identifier without a scheme. -/
theorem permitted_iff_named (h : ¬ AllowList.IsWildcard allowed wildcard) (systemId : String) :
    (refusedProtocol (some systemId) allowed wildcard = .ok none ↔
      (∃ protocol, protocolOf systemId = .ok protocol ∧ AllowList.Names allowed protocol) ∨
        EmbedsNoScheme systemId ∧ AllowList.HasBlankEntry allowed) ∧
    (∀ protocol, protocolOf systemId = .ok protocol →
      refusedProtocol (some systemId) allowed wildcard ≠ .ok none →
        refusedProtocol (some systemId) allowed wildcard = .ok (some protocol)) ∧
    (∀ fault, protocolOf systemId = .error fault →
      refusedProtocol (some systemId) allowed wildcard = .error fault) ∧
    (AllowList.IsBlank allowed → ¬ EmbedsNoScheme systemId →
      refusedProtocol (some systemId) allowed wildcard ≠ .ok none) := by
  have hrefused {protocol : String} (hprotocol : protocolOf systemId = .ok protocol) :
      refusedProtocol (some systemId) allowed wildcard =
        .ok (if (AllowList.parse allowed wildcard).permits protocol then none
          else some protocol) := by
    rw [refusedProtocol_eq h, hprotocol]
    rfl
  have hfault {fault : ProtocolFault} (hprotocol : protocolOf systemId = .error fault) :
      refusedProtocol (some systemId) allowed wildcard = .error fault := by
    rw [refusedProtocol_eq h, hprotocol]
    rfl
  have hpermitted : refusedProtocol (some systemId) allowed wildcard = .ok none ↔
      (∃ protocol, protocolOf systemId = .ok protocol ∧ AllowList.Names allowed protocol) ∨
        EmbedsNoScheme systemId ∧ AllowList.HasBlankEntry allowed := by
    rw [← protocolOf_eq_empty_iff]
    cases hprotocol : protocolOf systemId with
    | error fault => simp [hfault hprotocol]
    | ok protocol =>
        have hpermits : refusedProtocol (some systemId) allowed wildcard = .ok none ↔
            (AllowList.parse allowed wildcard).permits protocol = true := by
          simp [hrefused hprotocol]
        rw [hpermits, AllowList.permits_parse_iff h]
        simp
  refine ⟨hpermitted, ?_, fun fault => hfault, ?_⟩
  · intro protocol hprotocol hnot
    rw [hrefused hprotocol] at hnot ⊢
    split at hnot
    · exact absurd rfl hnot
    · next hpermits => rw [if_neg hpermits]
  · intro hblank hscheme hnone
    rcases hpermitted.mp hnone with ⟨protocol, -, hnames⟩ | ⟨hembeds, -⟩
    · exact hblank.not_names hnames
    · exact hscheme hembeds

/-- A file inside an archive passes if files may. -/
theorem permitted_embedded_file :
    refusedProtocol (some "jar:File:/a.jar!/b.dtd") (some " http ,, FILE ") accessAll =
      .ok none := by
  have hlist : ¬ AllowList.IsWildcard (some " http ,, FILE ") accessAll := by
    rintro ⟨_, ⟨⟩, hsame⟩
    exact absurd hsame (by decide +kernel)
  have hprotocol : (protocolOf "jar:File:/a.jar!/b.dtd").toOption = some "file" := by
    decide +kernel
  have hpiece : Text.IsPiece ',' " FILE ".toList " http ,, FILE ".toList :=
    Text.mem_splitOn_iff.mp (by decide +kernel)
  refine (permitted_iff_named hlist "jar:File:/a.jar!/b.dtd").1.mpr (.inl ⟨"file", ?_, ?_⟩)
  · cases hread : protocolOf "jar:File:/a.jar!/b.dtd" with
    | error fault =>
        rw [hread] at hprotocol
        cases hprotocol
    | ok protocol =>
        rw [hread] at hprotocol
        exact congrArg Except.ok (Option.some.inj hprotocol)
  · exact ⟨_, _, rfl, hpiece, by decide +kernel, by decide +kernel⟩

/-- But the list that is there to let nothing pass lets an identifier pass that embeds one without
a scheme. -/
theorem not_forall_permitted_named :
    ¬ ∀ (systemId : String) (allowed : Option String) (wildcard : String),
      ¬ AllowList.IsWildcard allowed wildcard →
        refusedProtocol (some systemId) allowed wildcard = .ok none →
          ∃ protocol, protocolOf systemId = .ok protocol ∧ AllowList.Names allowed protocol := by
  intro hall
  have hlist : ¬ AllowList.IsWildcard (some accessNone) accessAll := by
    rintro ⟨_, ⟨⟩, hsame⟩
    exact absurd hsame (by decide +kernel)
  have hpasses : refusedProtocol (some "jar::x") (some accessNone) accessAll = .ok none := by
    decide +kernel
  obtain ⟨protocol, -, hnames⟩ := hall _ _ _ hlist hpasses
  have hblank : AllowList.IsBlank (some accessNone) := by
    rintro _ ⟨⟩ c hc
    cases hc
  exact hblank.not_names hnames

end Refusals

end XmlBounds
