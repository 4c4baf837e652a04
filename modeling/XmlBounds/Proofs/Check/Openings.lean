import XmlBounds.Proofs.Check.Gating

/-!
# What is opened

A file is opened right after a resolver was asked, and the gate has let pass the identifier that the
request expands to. That is the identifier that is opened, and the list that lets it pass permits
local files; but the installed resolver may name another one, and nobody asks the gate about that.
-/

namespace XmlBounds

/-! ## Entries and the whole journal before them -/

/-- Each entry that is added stands in the relation to all that is in the journal before it. -/
def Ledger.Extends (P : Entry → List Entry → Prop) (l l' : Ledger) : Prop :=
  ∃ new, l'.journal = new ++ l.journal ∧ Follows (fun e older => P e (older ++ l.journal)) new

def Contract.extends (P : Entry → List Entry → Prop) : Contract Ledger where
  success := Ledger.Extends P
  failure := Ledger.Extends P

section Extends

variable {P : Entry → List Entry → Prop} {l l' l'' : Ledger}

theorem Ledger.Extends.of_eq (h : l'.journal = l.journal) : l.Extends P l' := ⟨[], h, trivial⟩

theorem Ledger.Extends.trans (h : l.Extends P l') (h' : l'.Extends P l'') : l.Extends P l'' := by
  obtain ⟨older, hold, hfollows⟩ := h
  obtain ⟨newer, hnew, hfollows'⟩ := h'
  refine ⟨newer ++ older, by rw [hnew, hold, List.append_assoc], ?_⟩
  clear hnew
  induction newer with
  | nil => exact hfollows
  | cons e newer ih =>
      refine ⟨?_, ih hfollows'.2⟩
      have hhead : P e (newer ++ l'.journal) := hfollows'.1
      rwa [hold, ← List.append_assoc] at hhead

instance : (Contract.extends P).Composes where
  refl _ := .of_eq rfl
  trans := .trans
  stop _ := .of_eq rfl
  after := .trans

theorem extends_of_writes {α : Type} {G F : List Entry → Prop} {x : Accounted α}
    (hx : (Contract.writes G F).Holds x) (hG : ∀ {new}, G new → Entry.All (∀ older, P · older) new)
    (hF : ∀ {new}, F new → Entry.All (∀ older, P · older) new) :
    (Contract.extends P).Holds x where
  of_ok h := by
    obtain ⟨new, hgrows, hnew⟩ := hx.of_ok h
    exact ⟨new, hgrows.journal, follows_of_all fun e he older => hG hnew e he _⟩
  of_error h := by
    obtain ⟨new, hgrows, hnew⟩ := hx.of_error h
    exact ⟨new, hgrows.journal, follows_of_all fun e he older => hF hnew e he _⟩

theorem extends_note {e : Entry} (he : ∀ older, P e older) :
    (Contract.extends P).Holds (Accounted.note e) where
  of_ok h := by
    cases h
    exact ⟨[e], rfl, he _, trivial⟩
  of_error h := by cases h

end Extends

/-! ## Files -/

/-- The installed resolver, asked for the resource after what is in the journal, has named the
system identifier in a source that has no stream. -/
def CheckContext.Renames (ctx : CheckContext) (journal : List Entry) (id : ResourceId)
    (systemId : String) : Prop :=
  ∃ resolve source, ctx.resolver = some resolve ∧ resolve journal id = .ok (some source) ∧
    source.charStream = none ∧ source.byteStream = none ∧ source.systemId = some systemId

/-- A file is opened at the path of the identifier that the last request expands to, or of the one
that the installed resolver has named for it. -/
def CheckContext.OpensAsked (ctx : CheckContext) : Entry → List Entry → Prop
  | .opened systemId path, older => localPath systemId = .ok path ∧
      ∃ id rest, older = .asked id :: rest ∧
        (id.expanded ctx.files.directory = some systemId ∨ ctx.Renames older id systemId)
  | _, _ => True

namespace OpensAsked

variable {ctx : CheckContext} {id : ResourceId} {l : Ledger} {rest : List Entry}

theorem extends_openFile (path : LocalPath) :
    (Contract.extends ctx.OpensAsked).Holds (openFile ctx.files path) := by
  unfold openFile
  split
  · exact Contract.holds_pure _
  · exact Contract.holds_throw _

/-- A source is opened under the name that it has, or else under the one that it was asked for. -/
theorem applies_openSource {source : InputSource ByteStream} (hl : l.journal = .asked id :: rest)
    (hsource : ∀ systemId, source.charStream = none → source.byteStream = none →
      source.systemId = some systemId →
        id.expanded ctx.files.directory = some systemId ∨ ctx.Renames l.journal id systemId) :
    (Contract.extends ctx.OpensAsked).outcomes.judgement.Applies
      (openSource ctx.files id source) l := by
  unfold openSource
  split
  · exact Outcomes.applies_pure _ _
  · next hstreams =>
      obtain ⟨hchars, hbytes⟩ : source.charStream = none ∧ source.byteStream = none := by
        simpa using hstreams
      split
      · exact Outcomes.applies_throw (.of_eq rfl)
      · next systemId hid =>
          split
          · exact Outcomes.applies_throw (.of_eq rfl)
          · next path hpath =>
              have hopened : id.expanded ctx.files.directory = some systemId ∨
                  ctx.Renames l.journal id systemId := by
                cases hown : source.systemId with
                | none => exact .inl (by simpa [hown] using hid)
                | some own =>
                    rw [hown, Option.some_or] at hid
                    exact hsource systemId hchars hbytes (hown.trans hid)
              have hnote : (Contract.extends ctx.OpensAsked).outcomes.judgement.Applies
                  (Accounted.note (.opened systemId path)) l := by
                constructor
                · intro done l' h
                  cases h
                  exact ⟨[.opened systemId path], rfl, ⟨hpath, id, rest, hl, hopened⟩, trivial⟩
                · intro fault l' h
                  cases h
              refine Judgement.Composes.bind hnote fun _ => ?_
              exact Contract.always_iff.mpr ((extends_openFile path).thenPure _) _

/-- What a resolver is asked for is opened under the name that it gives, if that is one to go by. -/
theorem extends_resolveMonitored {resolve : EntityResolver}
    (hresolve : ∀ journal source systemId, resolve journal id = .ok (some source) →
      source.charStream = none → source.byteStream = none → source.systemId = some systemId →
        id.expanded ctx.files.directory = some systemId ∨ ctx.Renames journal id systemId) :
    (Contract.extends ctx.OpensAsked).Holds (resolveMonitored (some resolve) ctx.files id) := by
  refine Contract.always_iff.mp fun l => ?_
  have hasked : (Contract.extends ctx.OpensAsked).outcomes.judgement.Applies
      (Accounted.note (.asked id)) l := Contract.always_iff.mpr (extends_note fun _ => trivial) l
  refine Judgement.Composes.bind hasked ?_
  rintro _ _ ⟨⟩
  refine Judgement.Composes.read (fun l' hsame => by rw [hsame]) ?_
  cases hanswer : resolve (.asked id :: l.journal) id with
  | error fault => exact Outcomes.applies_throw (.of_eq rfl)
  | ok answer =>
      cases answer with
      | none => exact Outcomes.applies_pure _ _
      | some source =>
          refine Judgement.Composes.bind (applies_openSource rfl ?_) fun _ =>
            Outcomes.applies_pure _ _
          intro systemId hchars hbytes hown
          exact hresolve _ source systemId hanswer hchars hbytes hown

theorem extends_resolveResource :
    (Contract.extends ctx.OpensAsked).Holds (resolveResource ctx id) := by
  refine keeps_resolveResource ?_ (extends_resolveMonitored ?_)
  · cases hresolver : ctx.resolver with
    | none => exact Contract.holds_pure _
    | some resolve =>
        refine extends_resolveMonitored ?_
        intro journal source systemId hanswer hchars hbytes hown
        exact .inr ⟨resolve, source, hresolver, hanswer, hchars, hbytes, hown⟩
  · rintro journal source systemId ⟨⟩ _ _ hown
    exact .inl hown

theorem extends_fetch (kind : ResourceKind) :
    (Contract.extends ctx.OpensAsked).Holds (fetch ctx kind id) := by
  have haccess : (Contract.extends ctx.OpensAsked).Holds
      (checkAccess ctx.policy ctx.reporter kind (id.expanded ctx.files.directory)) := by
    refine extends_of_writes (holds_checkAccess kind _) ?_ ?_
    · rintro new ⟨rfl, _⟩
      exact Entry.all_singleton fun _ => trivial
    · rintro new ⟨rfl, _⟩
      exact Entry.all_singleton fun _ => trivial
  have hreads {label : Option String} {new : List Entry}
      (hnew : Entry.All (Entry.Reads ctx.policy label) new) :
      Entry.All (∀ older, ctx.OpensAsked · older) new := by
    intro e he older
    obtain ⟨name, _, ⟨amount, rfl⟩ | ⟨units, rfl, _⟩⟩ := hnew e he <;> trivial
  refine haccess.bind fun _ => extends_resolveResource.bind fun source => ?_
  exact (extends_of_writes (holds_readText source) (fun h => hreads h.1) hreads).thenPure _

theorem coversLedger (ctx : CheckContext) :
    (Contract.extends ctx.OpensAsked).CoversLedger ctx where
  raise d := extends_of_writes (Contract.holds_raise _ d rfl) (G := fun _ => False) False.elim
    (by rintro new rfl; exact Entry.all_nil)
  monitor e := by
    have hdeclares {new : List Entry} (hnew : Declares new) :
        Entry.All (∀ older, ctx.OpensAsked · older) new := by
      cases hnew with
      | nothing => exact Entry.all_nil
      | entity =>
          exact Entry.all_append (Entry.all_singleton fun _ => trivial)
            (Entry.all_singleton fun _ => trivial)
    exact extends_of_writes (holds_sizeMonitor e) (fun h => hdeclares h.1) hdeclares
  expansion _ _ := extends_note fun _ => trivial
  entity _ _ _ _ _ := (extends_note fun _ => trivial).bind fun _ => extends_fetch _
  subset _ _ _ := extends_fetch _

end OpensAsked

/-! ## Local files and their protocol -/

/-- What can be opened as a local file has no other protocol than that of files. -/
theorem protocol_of_localPath {systemId protocol : String} {path : LocalPath}
    (hpath : localPath systemId = .ok path) (hprotocol : protocolOf systemId = .ok protocol) :
    protocol = "file" := by
  unfold protocolOf at hprotocol
  split at hprotocol
  · cases hprotocol
    rfl
  · unfold localPath at hpath
    cases hurl : Url.parse systemId with
    | error why =>
        rw [hurl] at hprotocol
        cases hprotocol
    | ok url =>
        simp only [hurl] at hpath hprotocol
        split at hpath
        · next hfile =>
            rw [if_neg (by rw [hfile]; decide)] at hprotocol
            cases hprotocol
            exact hfile
        · cases hpath

/-- The gate and the opening of files agree about what a file is. -/
theorem Policy.Admits.permits_file {policy : Policy} {kind : ResourceKind} {systemId : String}
    {path : LocalPath} (h : policy.Admits kind (some systemId))
    (hpath : localPath systemId = .ok path) :
    (AllowList.parse (policy.access kind.accessList) accessAll).permits "file" = true := by
  by_cases hany : AllowList.parse (policy.access kind.accessList) accessAll = .any
  · rw [hany, AllowList.permits_any]
  · obtain ⟨protocol, hprotocol, hpermits⟩ := h.protocol hany
    cases protocol_of_localPath hpath hprotocol
    exact hpermits

/-! ## The check -/

theorem DocumentReader.extends_of_checkText {P : Entry → List Entry → Prop} {files : Files}
    {r : DocumentReader} (hcovers : (Contract.extends P).CoversLedger (r.context files))
    (text : String) : r.configuration.startParse.ledger.Extends P
      (checkText files text r).2.configuration.ledger := by
  have hholds := hcovers.covers.checkDocument (Markup.read text)
  rw [checkText_eq]
  cases hrun : Checked.checkDocument (r.context files) (Markup.read text)
    (.start r.configuration.startParse.ledger) with
  | ok done pass => exact hholds.of_ok hrun
  | error fault pass => exact hholds.of_error hrun

/-- In every check, each file is opened for the resource that a resolver was asked for last, the
identifier of which the gate had let pass. It is opened under that very identifier, which the list
lets pass, and the list permits local files; or else under another that the installed resolver has
named in its answer to that request. -/
theorem opened_of_checkText (files : Files) (text : String) (r : DocumentReader) :
    ∃ new, (DocumentReader.checkText files text r).2.configuration.ledger.journal =
        new ++ r.configuration.ledger.journal ∧
      ∀ newer systemId path older, new = newer ++ .opened systemId path :: older →
        ∃ id rest, older = .asked id :: rest ∧
          r.configuration.policy.Admits .dtd (id.expanded files.directory) ∧
          (id.expanded files.directory = some systemId ∧
              r.configuration.policy.Admits .dtd (some systemId) ∧
              (AllowList.parse (r.configuration.policy.access .externalDtd) accessAll).permits
                "file" = true ∨
            (r.context files).Renames (older ++ r.configuration.ledger.journal) id systemId) := by
  obtain ⟨new, hgrows, hgated⟩ := DocumentReader.exists_allowed_of_checkText
    (Gated.coversEntries (r.context files)) (rfl : DocumentReader.checkText files text r = (_, _))
  obtain ⟨new', hnew', hopens⟩ :=
    DocumentReader.extends_of_checkText (OpensAsked.coversLedger (r.context files)) text
  have hsame : new' = new := List.append_cancel_right (hnew'.symm.trans hgrows.journal)
  subst hsame
  refine ⟨new', hnew', ?_⟩
  rintro newer systemId path older rfl
  -- The request stands before the file among the new entries, since it does so by the gate's rule.
  obtain ⟨id, rest, rfl⟩ := hgated.split
  obtain ⟨hpath, asked, rest', hrest, hopened⟩ := hopens.split
  cases hrest
  have hasked : .asked id ∈ newer ++ .opened systemId path :: .asked id :: rest := by simp
  obtain ⟨kind, hkind, hadmits⟩ := Gated.admits_of_asked hgated hasked
  have hdtd : r.configuration.policy.Admits .dtd (id.expanded files.directory) :=
    (Policy.admits_congr hkind).mp hadmits
  refine ⟨id, rest, rfl, hdtd, ?_⟩
  rcases hopened with hexpanded | hrenames
  · have hown : r.configuration.policy.Admits .dtd (some systemId) := by
      rw [← hexpanded]
      exact hdtd
    exact .inl ⟨hexpanded, hown, hown.permits_file hpath⟩
  · exact .inr hrenames

/-- A reader that loads external DTDs by their names only, from a resolver that has local files for
them. -/
def DocumentReader.forwarded : DocumentReader where
  systemId := none
  configuration := {
    (DocumentReader.plain (fun f => f = .loadExternalDtd)
      (some fun _ _ => .ok (some ⟨none, some "d.dtd", none, none, none⟩))).configuration with
    policy := Policy.initial.setAccess .externalDtd (some "urn") }

/-- So a file is opened although the list lets no file pass. -/
theorem not_forall_opened_admitted :
    ¬ ∀ (files : Files) (text : String) (r : DocumentReader) (new : List Entry),
      (DocumentReader.checkText files text r).2.configuration.ledger.journal =
          new ++ r.configuration.ledger.journal →
        ∀ systemId path, .opened systemId path ∈ new →
          r.configuration.policy.Admits .dtd (some systemId) := by
  intro hall
  -- The file is no text, so the check does not go on once it is read.
  have hjournal : (DocumentReader.checkText ⟨"/", [([Text.bytes "d.dtd"], [0xFF])], []⟩
      "<!DOCTYPE a SYSTEM \"urn:d\"><a/>" .forwarded).2.configuration.ledger.journal =
        [.opened "d.dtd" (.ofText "d.dtd"), .asked ⟨none, some "urn:d", none, none⟩,
          .permitted .dtd (some "urn:d")] ++ [] := by decide +kernel
  have hadmits := hall _ _ _ _ hjournal "d.dtd" (.ofText "d.dtd") List.mem_cons_self
  have hrefused : (refusedProtocol (some "d.dtd") (some "urn") accessAll).toOption =
      some (some "file") := by decide +kernel
  have hpermitted : refusedProtocol (some "d.dtd") (some "urn") accessAll = .ok none := hadmits
  rw [hpermitted] at hrefused
  cases hrefused

end XmlBounds
