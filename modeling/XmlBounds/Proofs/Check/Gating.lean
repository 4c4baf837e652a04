import XmlBounds.Proofs.Check.Licences

/-!
# The gate comes first

Nothing is asked of a resolver, and no file is opened, unless the gate has just let pass the system
identifier of the resource that it is for. After a refusal nothing is done at all. Where each
resource is wanted only if some feature is on, none is wanted with all of them off.
-/

namespace XmlBounds

/-- The entry is an answer of the gate. -/
def Entry.isVerdict : Entry → Bool
  | permitted .. | refused .. => true
  | _ => false

/-- The entry is that the gate turned an identifier away. -/
def Entry.isRefusal : Entry → Bool
  | refused .. => true
  | _ => false

/-- The entry is that something outside was called on. -/
def Entry.isConsultation : Entry → Bool
  | asked .. | opened .. => true
  | _ => false

/-- The gate goes by the list for DTDs and entities. A resolver is asked for the resource whose
system identifier the gate let pass last, and a file is opened only on a resolver's answer. -/
def Gated (policy : Policy) (directory : String) : Entry → List Entry → Prop
  | .permitted kind systemId, _ =>
      kind.accessList = .externalDtd ∧ policy.Admits kind systemId
  | .refused kind systemId, _ =>
      kind.accessList = .externalDtd ∧ ¬ policy.Admits kind systemId
  | .asked id, older =>
      ∃ kind, Newest (·.isVerdict) (.permitted kind (id.expanded directory)) older
  | .opened _ _, older => ∃ id rest, older = .asked id :: rest
  | _, _ => True

theorem Policy.admits_congr {policy : Policy} {kind kind' : ResourceKind}
    {systemId : Option String} (h : kind.accessList = kind'.accessList) :
    policy.Admits kind systemId ↔ policy.Admits kind' systemId := by
  rw [Admits, Admits, h]

/-- A list other than the wildcard lets pass what has a protocol that the list permits. -/
theorem Policy.Admits.protocol {policy : Policy} {kind : ResourceKind} {systemId : String}
    (h : policy.Admits kind (some systemId))
    (hlist : AllowList.parse (policy.access kind.accessList) accessAll ≠ .any) :
    ∃ protocol, protocolOf systemId = .ok protocol ∧
      (AllowList.parse (policy.access kind.accessList) accessAll).permits protocol = true := by
  unfold Admits refusedProtocol at h
  cases hallow : AllowList.parse (policy.access kind.accessList) accessAll with
  | any => exact absurd hallow hlist
  | only tokens =>
      simp only [hallow] at h
      cases hprotocol : protocolOf systemId with
      | error fault =>
          rw [hprotocol] at h
          cases h
      | ok protocol =>
          rw [hprotocol] at h
          have hnone : (if (AllowList.only tokens).permits protocol then none
              else some protocol) = none := Except.ok.inj h
          refine ⟨protocol, rfl, ?_⟩
          cases hpermits : (AllowList.only tokens).permits protocol with
          | true => rfl
          | false =>
              rw [hpermits] at hnone
              cases hnone

namespace Gated

variable {policy : Policy} {directory : String} {new : List Entry}

instance : Lasting (Gated policy directory) where
  append {e older} more h := by
    cases e with
    | asked id =>
        obtain ⟨kind, hnewest⟩ := h
        exact ⟨kind, hnewest.append more⟩
    | opened systemId path =>
        obtain ⟨id, rest, rfl⟩ := h
        exact ⟨id, rest ++ more, rfl⟩
    | permitted kind systemId => exact h
    | refused kind systemId => exact h
    | _ => trivial

/-- All that a fetch does is done after the gate has let its identifier pass, and the gate is not
passed again. -/
theorem follows_of_fetched {kind : ResourceKind} {id : ResourceId}
    (hkind : kind.accessList = .externalDtd) (h : Fetched policy directory kind id new) :
    Follows (Gated policy directory) new ∧
      Newest (·.isVerdict) (.permitted kind (id.expanded directory)) new := by
  -- No step of a fetch is another verdict, so the permission stays the newest one.
  induction h with
  | permitted hadmits => exact ⟨⟨⟨hkind, hadmits⟩, trivial⟩, newest_cons []⟩
  | consulted _ hconsults ih =>
      obtain ⟨hfollows, hnewest⟩ := ih
      rcases hconsults with rfl | rfl | ⟨systemId, path, rfl⟩
      · exact ⟨hfollows, hnewest⟩
      · exact ⟨⟨⟨kind, hnewest⟩, hfollows⟩, hnewest.cons rfl⟩
      · exact ⟨⟨⟨id, _, rfl⟩, ⟨kind, hnewest⟩, hfollows⟩, (hnewest.cons rfl).cons rfl⟩
  | read _ hread ih =>
      obtain ⟨hfollows, hnewest⟩ := ih
      obtain ⟨name, _, ⟨amount, rfl⟩ | ⟨units, rfl, _⟩⟩ := hread
      · exact ⟨⟨trivial, hfollows⟩, hnewest.cons rfl⟩
      · exact ⟨⟨trivial, hfollows⟩, hnewest.cons rfl⟩

theorem follows_of_fails {ctx : CheckContext} {kind : ResourceKind} {id : ResourceId}
    (hkind : kind.accessList = .externalDtd) (h : FailsToFetch ctx kind id new) :
    Follows (Gated ctx.policy ctx.files.directory) new := by
  rcases h with h | ⟨rfl, hrefused⟩
  · exact (follows_of_fetched hkind h).1
  · exact ⟨⟨hkind, hrefused⟩, trivial⟩

theorem follows_declares (h : Declares new) : Follows (Gated policy directory) new := by
  cases h with
  | nothing => trivial
  | entity => exact ⟨trivial, trivial, trivial⟩

theorem follows_expanded (kind : ReferenceKind) (name : String) (entity : Dtd.EntityDecl) :
    Follows (Gated policy directory) [.expanded kind name entity] := ⟨trivial, trivial⟩

theorem accessList_resource (kind : ReferenceKind) :
    kind.resource.accessList = .externalDtd := by cases kind <;> rfl

theorem coversEntries (ctx : CheckContext) :
    Contract.CoversEntries (Follows (Gated ctx.policy ctx.files.directory))
      (Follows (Gated ctx.policy ctx.files.directory)) ctx where
  declared hnew _ := follows_declares hnew
  undeclared hnew := follows_declares hnew
  expanded _ _ := follows_expanded _ _ _
  entity _ _ _ hfetched _ :=
    (follows_expanded _ _ _).append (follows_of_fetched (accessList_resource _) hfetched).1
  entityFailing _ _ _ hfails :=
    (follows_expanded _ _ _).append (follows_of_fails (accessList_resource _) hfails)
  subset _ _ hfetched := (follows_of_fetched rfl hfetched).1
  subsetFailing _ _ hfails := follows_of_fails rfl hfails

/-- Whatever a resolver was asked for, the gate lets pass. -/
theorem admits_of_asked {id : ResourceId} (h : Follows (Gated policy directory) new)
    (hasked : .asked id ∈ new) :
    ∃ kind : ResourceKind, kind.accessList = .externalDtd ∧
      policy.Admits kind (id.expanded directory) := by
  obtain ⟨newer, older, rfl⟩ := List.append_of_mem hasked
  obtain ⟨kind, hnewest⟩ := h.split
  obtain ⟨between, rest, rfl⟩ := List.append_of_mem hnewest.mem
  have hsame : newer ++ .asked id :: (between ++ .permitted kind (id.expanded directory) :: rest) =
      (newer ++ .asked id :: between) ++ .permitted kind (id.expanded directory) :: rest := by simp
  rw [hsame] at h
  exact ⟨kind, h.split⟩

theorem of_refused {kind : ResourceKind} {systemId : Option String}
    (h : Follows (Gated policy directory) new) (hrefused : .refused kind systemId ∈ new) :
    kind.accessList = .externalDtd ∧ ¬ policy.Admits kind systemId := by
  obtain ⟨newer, older, rfl⟩ := List.append_of_mem hrefused
  exact h.split

theorem protocol_of_asked {id : ResourceId} {systemId : String}
    (h : Follows (Gated policy directory) new) (hasked : .asked id ∈ new)
    (hexpanded : id.expanded directory = some systemId)
    (hlist : AllowList.parse (policy.access .externalDtd) accessAll ≠ .any) :
    ∃ protocol, protocolOf systemId = .ok protocol ∧
      (AllowList.parse (policy.access .externalDtd) accessAll).permits protocol = true := by
  obtain ⟨kind, hkind, hadmits⟩ := admits_of_asked h hasked
  rw [hexpanded] at hadmits
  rw [← hkind] at hlist ⊢
  exact hadmits.protocol hlist

/-- What a resolver was asked for is admitted, and the gate has no other answer for it. -/
theorem expanded_ne_of_refused {kind : ResourceKind} {systemId : Option String} {id : ResourceId}
    (h : Follows (Gated policy directory) new) (hrefused : .refused kind systemId ∈ new)
    (hasked : .asked id ∈ new) : id.expanded directory ≠ systemId := by
  obtain ⟨hkind, hnot⟩ := of_refused h hrefused
  obtain ⟨kind', hkind', hadmits⟩ := admits_of_asked h hasked
  rintro rfl
  rw [Policy.admits_congr (hkind'.trans hkind.symm)] at hadmits
  exact hnot hadmits

/-- What is opened is opened for a resource that the gate has let pass. -/
theorem opened_for {kind : ResourceKind} {systemId : Option String} {newer older : List Entry}
    {location : String} {path : LocalPath}
    (h : Follows (Gated policy directory) (newer ++ .opened location path :: older))
    (hrefused : .refused kind systemId ∈ newer ++ .opened location path :: older) :
    ∃ id rest, older = .asked id :: rest ∧ id.expanded directory ≠ systemId := by
  obtain ⟨id, rest, rfl⟩ := h.split
  exact ⟨id, rest, rfl, expanded_ne_of_refused h hrefused (by simp)⟩

theorem asked_of_opened {systemId : String} {path : LocalPath}
    (h : Follows (Gated policy directory) new) (hopened : .opened systemId path ∈ new) :
    ∃ id, .asked id ∈ new := by
  obtain ⟨newer, older, rfl⟩ := List.append_of_mem hopened
  obtain ⟨id, rest, rfl⟩ := h.split
  exact ⟨id, by simp⟩

theorem not_isConsultation {e : Entry} (h : Follows (Gated policy directory) new)
    (hnone : ∀ id, .asked id ∉ new) (he : e ∈ new) : e.isConsultation = false := by
  cases e with
  | asked id => exact absurd he (hnone id)
  | opened systemId path =>
      obtain ⟨id, hasked⟩ := asked_of_opened h he
      exact absurd hasked (hnone id)
  | _ => rfl

end Gated

/-! ## Refusals -/

def Unrefused : List Entry → Prop := Entry.All (·.isRefusal = false)

namespace Unrefused

variable {new : List Entry}

theorem tail (h : Unrefused new) : Unrefused new.tail :=
  fun e he => h e (List.mem_of_mem_tail he)

theorem tail_append {older : List Entry} (h : Unrefused older) (h' : Unrefused new.tail) :
    Unrefused (new ++ older).tail := by
  cases new with
  | nil => exact h.tail
  | cons e new => exact Entry.all_append h h'

instance : Additive Unrefused fun new => Unrefused new.tail where
  nil := Entry.all_nil
  append h h' := Entry.all_append h h'
  stop := Entry.all_nil
  appendFailure h h' := h.tail_append h'

theorem eq_cons_of_tail {e : Entry} (h : Unrefused new.tail) (he : e ∈ new)
    (hrefusal : e.isRefusal = true) : ∃ older, new = e :: older := by
  cases new with
  | nil => cases he
  | cons d older =>
      rcases List.mem_cons.mp he with rfl | he
      · exact ⟨older, rfl⟩
      · have hnot : e.isRefusal = false := h e he
        rw [hrefusal] at hnot
        cases hnot

theorem of_fetched {policy : Policy} {directory : String} {kind : ResourceKind}
    {id : ResourceId} (h : Fetched policy directory kind id new) : Unrefused new :=
  h.all rfl rfl (fun _ _ => rfl) (fun _ _ => rfl) fun _ _ _ => rfl

theorem of_declares (h : Declares new) : Unrefused new := by
  cases h with
  | nothing => exact Entry.all_nil
  | entity => simp [Unrefused, Entry.All, Entry.isRefusal]

theorem expanded (kind : ReferenceKind) (name : String) (entity : Dtd.EntityDecl) :
    Unrefused [.expanded kind name entity] := by simp [Unrefused, Entry.All, Entry.isRefusal]

theorem tail_of_fails {ctx : CheckContext} {kind : ResourceKind} {id : ResourceId}
    (h : FailsToFetch ctx kind id new) : Unrefused new.tail := by
  rcases h with h | ⟨rfl, _⟩
  · exact (of_fetched h).tail
  · exact Entry.all_nil

/-- A fetch may be refused, but that is the end of the check. -/
theorem coversEntries (ctx : CheckContext) :
    Contract.CoversEntries Unrefused (fun new => Unrefused new.tail) ctx where
  declared hnew _ := of_declares hnew
  undeclared hnew := (of_declares hnew).tail
  expanded _ _ := expanded _ _ _
  entity _ _ _ hfetched _ := Entry.all_append (expanded _ _ _) (of_fetched hfetched)
  entityFailing _ _ _ hfails := (expanded _ _ _).tail_append (tail_of_fails hfails)
  subset _ _ hfetched := of_fetched hfetched
  subsetFailing _ _ hfails := tail_of_fails hfails

end Unrefused

/-! ## The check -/

/-- In every check, a resolver is asked, and a file opened, only for a resource whose system
identifier the gate has just let pass; under a list other than the wildcard, only if it has a
protocol that the list permits. An identifier that is refused is never asked for, no file is opened
for it, it adds nothing to the total, and it makes the check fail, which does nothing more. With the
features off that want external resources, nothing is asked or opened at all. -/
theorem gated_of_checkText {files : Files} {text : String} {r r' : DocumentReader}
    {result : Except Fault CheckReport}
    (h : DocumentReader.checkText files text r = (result, r')) :
    ∃ new, r'.configuration.ledger.journal = new ++ r.configuration.ledger.journal ∧
      Follows (Gated r.configuration.policy files.directory) new ∧
      (AllowList.parse (r.configuration.policy.access .externalDtd) accessAll ≠ .any →
        ∀ id systemId, .asked id ∈ new → id.expanded files.directory = some systemId →
          ∃ protocol, protocolOf systemId = .ok protocol ∧
            (AllowList.parse (r.configuration.policy.access .externalDtd) accessAll).permits
              protocol = true) ∧
      (∀ kind systemId, .refused kind systemId ∈ new →
        (∀ id, .asked id ∈ new → id.expanded files.directory ≠ systemId) ∧
        (∀ newer location path older, new = newer ++ .opened location path :: older →
          ∃ id rest, older = .asked id :: rest ∧ id.expanded files.directory ≠ systemId) ∧
        (∃ fault, result = .error fault) ∧
        ∃ older, new = .refused kind systemId :: older ∧
          r'.configuration.ledger.total = .ofNat (Entry.amounts older)) ∧
      (r.configuration.isEnabled .loadExternalDtd = false →
        r.configuration.isEnabled .externalGeneralEntities = false →
          r.configuration.isEnabled .externalParameterEntities = false →
            ∀ e ∈ new, e.isConsultation = false) := by
  obtain ⟨new, hgrows, hrule⟩ :=
    DocumentReader.exists_allowed_of_checkText (Gated.coversEntries (r.context files)) h
  obtain ⟨new', hgrows', hok, herror⟩ :=
    DocumentReader.exists_entries_of_checkText (Unrefused.coversEntries (r.context files)) h
  obtain ⟨new'', hgrows'', hlicensed⟩ := Licensed.exists_of_checkText h
  -- All three speak of the entries by which the journal has grown, which are the same.
  cases hgrows.unique hgrows'
  cases hgrows.unique hgrows''
  have hgated : Follows (Gated r.configuration.policy files.directory) new := hrule
  refine ⟨new, hgrows.journal, hgated, ?_, ?_, ?_⟩
  · intro hlist id systemId hasked hexpanded
    exact Gated.protocol_of_asked hgated hasked hexpanded hlist
  · intro kind systemId hrefused
    refine ⟨fun id hasked => Gated.expanded_ne_of_refused hgated hrefused hasked, ?_, ?_⟩
    · rintro newer location path older rfl
      exact Gated.opened_for hgated hrefused
    cases result with
    | ok report => exact absurd (hok report rfl _ hrefused) (by simp [Entry.isRefusal])
    | error fault =>
        obtain ⟨older, rfl⟩ := Unrefused.eq_cons_of_tail (herror fault rfl) hrefused rfl
        have htotal : r'.configuration.ledger.total = (0 : Counter).add (0 + Entry.amounts older) :=
          hgrows.total
        rw [Nat.zero_add, Counter.zero_add] at htotal
        exact ⟨⟨fault, rfl⟩, older, rfl, htotal⟩
  · intro hsubset hgeneral hparameter e he
    have hnone := Licensed.not_asked hlicensed hsubset hgeneral hparameter
    exact Gated.not_isConsultation hgated hnone he

/-! ## The wildcard -/

namespace Wildcard

open Checked Plain

/-- A resource whose system identifier is a URL without a host, which cannot be read. -/
def hostless : ResourceId := ⟨none, some "http://", none, none⟩

/-- A check that loads external subsets, all of which are empty. -/
def online : DocumentReader :=
  .plain (· == .loadExternalDtd) (some fun _ _ => .ok (some (.ofText "http://" "")))

/-- How a check stands once it has loaded the external subset. -/
def loadedPass : Pass :=
  { Pass.start ⟨0, [], [.asked hostless, .permitted .dtd (some "http://")]⟩ with
    doctype := some "a" }

theorem fetch_hostless : fetch (online.context noFiles) .dtd hostless .empty =
    .ok ("", some "http://") loadedPass.ledger := by
  have hexpanded : hostless.expanded (online.context noFiles).files.directory =
      some "http://" := by decide +kernel
  have haccess : checkAccess (online.context noFiles).policy (online.context noFiles).reporter
      .dtd (some "http://") .empty = .ok () ⟨0, [], [.permitted .dtd (some "http://")]⟩ := rfl
  unfold fetch
  rw [hexpanded]
  exact (bind_of_ok haccess).trans rfl

theorem checkDocument_hostless {content : String} {tag : Markup.Tag}
    (hsplit : Dtd.Doctype.split content = .ok ⟨"a", none, some "http://", none⟩)
    (hscan : Dtd.scan "" (some "http://") = .ok []) (htag : tag.attributes = ⟨[], none⟩) :
    checkDocument (online.context noFiles) ⟨[.doctype content, .emptyTag tag], none⟩
      (.start .empty) = .ok () { loadedPass with elements := 1, maxDepth := 1 } := by
  have hfetch : accounted (fetch (online.context noFiles) .dtd hostless)
      { Pass.start .empty with doctype := some "a" } =
        .ok ("", some "http://") loadedPass := by
    simp only [accounted, Accounted.within, Pass.start, fetch_hostless]
    rfl
  have hscanned : scanned "" (some "http://") loadedPass = .ok [] loadedPass := by
    simp only [scanned, hscan]
    rfl
  have hrun : runDtd (online.context noFiles) [] loadedPass = .ok () loadedPass :=
    congrFun (runFrames_plain none (by simp)) loadedPass
  have hexternal : runExternalSubset (online.context noFiles) none (some "http://")
      { Pass.start .empty with doctype := some "a" } = .ok () loadedPass :=
    (bind_of_ok hfetch).trans ((bind_of_ok hscanned).trans hrun)
  have hdoctype : checkDoctype (online.context noFiles) content (.start .empty) =
      .ok () loadedPass := by
    have hoff : (online.context noFiles).isEnabled .disallowDoctype = false := rfl
    have hroot : (modify fun pass => { pass with doctype := some "a" } : Checked PUnit)
        (.start .empty) = .ok () { Pass.start .empty with doctype := some "a" } := rfl
    have hstart : dispatch (online.context noFiles) (.startDtd "a" none (some "http://"))
        { Pass.start .empty with doctype := some "a" } =
          .ok () { Pass.start .empty with doctype := some "a" } := rfl
    simp only [checkDoctype, hoff, hsplit]
    exact (bind_of_ok hroot).trans ((bind_of_ok hstart).trans ((bind_of_ok hexternal).trans rfl))
  have hempty : emptyElement (online.context noFiles) tag loadedPass =
      .ok () { loadedPass with elements := 1, maxDepth := 1 } := by
    simp only [emptyElement, startElement, htag]
    rfl
  exact (bind_of_ok ((bind_of_ok hdoctype).trans ((bind_of_ok hempty).trans rfl))).trans rfl

/-- Under the wildcard a resolver is asked for it, and the document passes. -/
theorem exists_check_hostless : ∃ report r',
    DocumentReader.checkText noFiles "<!DOCTYPE a SYSTEM \"http://\"><a/>" online =
      (.ok report, r') ∧
    r'.configuration.ledger.journal = [.asked hostless, .permitted .dtd (some "http://")] := by
  have hread : Markup.read "<!DOCTYPE a SYSTEM \"http://\"><a/>" =
      ⟨[.doctype "a SYSTEM \"http://\"", .emptyTag ⟨"a", []⟩], none⟩ := by decide +kernel
  have hsplit : (Dtd.Doctype.split "a SYSTEM \"http://\"").toOption =
      some ⟨"a", none, some "http://", none⟩ := by decide +kernel
  have hscan : (Dtd.scan "" (some "http://")).toOption = some [] := by decide +kernel
  have hrun : checkDocument (online.context noFiles)
      (Markup.read "<!DOCTYPE a SYSTEM \"http://\"><a/>") (.start .empty) =
        .ok () { loadedPass with elements := 1, maxDepth := 1 } := by
    rw [hread]
    exact checkDocument_hostless (eq_ok_of_toOption hsplit) (eq_ok_of_toOption hscan)
      (by decide +kernel)
  have hcheck := DocumentReader.checkText_eq noFiles
    "<!DOCTYPE a SYSTEM \"http://\"><a/>" online
  have hstart : online.configuration.startParse.ledger = .empty := rfl
  rw [hstart, hrun] at hcheck
  exact ⟨_, _, hcheck, rfl⟩

end Wildcard

/-- The check asks for that resource behind the gate. -/
theorem gated_hostless :
    ∃ report r', DocumentReader.checkText Plain.noFiles "<!DOCTYPE a SYSTEM \"http://\"><a/>"
        Wildcard.online = (.ok report, r') ∧
      ∃ new, r'.configuration.ledger.journal = new ++ [] ∧ .asked Wildcard.hostless ∈ new ∧
        Follows (Gated .initial "/") new := by
  obtain ⟨report, r', hcheck, hjournal⟩ := Wildcard.exists_check_hostless
  obtain ⟨new, hnew, hgated, _⟩ := gated_of_checkText hcheck
  refine ⟨report, r', hcheck, new, hnew, ?_, hgated⟩
  have hsame := hjournal.symm.trans (hnew.trans (List.append_nil new))
  rw [← hsame]
  exact List.mem_cons_self

/-! ## A file by another name -/

namespace Forwarding

/-- A reader that loads parameter entities by their names only, from a resolver that has one local
file for all of them. -/
def reader : DocumentReader where
  systemId := none
  configuration := {
    (DocumentReader.plain (· == .externalParameterEntities)
      (some fun _ _ =>
        .ok (some ⟨none, some "file:///d.dtd", none, none, none⟩))).configuration with
    policy := Policy.initial.setExternalDtd (some "urn") }

def files : Files := ⟨"/", [([Text.bytes "d.dtd"], [])], []⟩

/-- The second entity is the file itself. -/
def text : String :=
  "<!DOCTYPE a [<!ENTITY % p SYSTEM 'urn:p'><!ENTITY % q SYSTEM 'file:///d.dtd'>%p;%q;]><a/>"

def journal : List Entry :=
  [.refused .dtd (some "file:///d.dtd"),
    .expanded .parameter "%q" ⟨"%q", .external none "file:///d.dtd" none⟩,
    .delivered "%p" 0,
    .opened "file:///d.dtd" (.ofText "/d.dtd"),
    .asked ⟨none, some "urn:p", none, some "%p"⟩,
    .permitted .dtd (some "urn:p"),
    .expanded .parameter "%p" ⟨"%p", .external none "urn:p" none⟩]

/-- The file is opened for the first entity, and refused as the second. -/
theorem journal_checkText :
    (DocumentReader.checkText files text reader).2.configuration.ledger.journal = journal := by
  have hrun : (Machine.resultWithin (reader.context files) 30
      (.start (Markup.read text) .empty)).map
        (fun result => (Machine.passOf result).ledger.journal) = some journal := by decide +kernel
  obtain ⟨result, hresult, hjournal⟩ := Option.map_eq_some_iff.mp hrun
  rw [(DocumentReader.checkText_of_resultWithin hresult).2, hjournal]

end Forwarding

/-- An identifier without a protocol may well be asked for, and a file may be opened whose own
identifier is refused. -/
theorem not_forall_gated :
    (¬ ∀ (files : Files) (text : String) (r r' : DocumentReader)
        (result : Except Fault CheckReport) (new : List Entry),
      DocumentReader.checkText files text r = (result, r') →
        r'.configuration.ledger.journal = new ++ r.configuration.ledger.journal →
          ∀ id systemId fault, id.expanded files.directory = some systemId →
            protocolOf systemId = .error fault → .asked id ∉ new) ∧
    ¬ ∀ (files : Files) (text : String) (r r' : DocumentReader)
        (result : Except Fault CheckReport) (new : List Entry),
      DocumentReader.checkText files text r = (result, r') →
        r'.configuration.ledger.journal = new ++ r.configuration.ledger.journal →
          ∀ kind systemId path, .refused kind (some systemId) ∈ new →
            .opened systemId path ∉ new := by
  constructor
  · intro h
    obtain ⟨report, r', hcheck, hjournal⟩ := Wildcard.exists_check_hostless
    have hnew : r'.configuration.ledger.journal =
        [.asked Wildcard.hostless, .permitted .dtd (some "http://")] ++ [] := hjournal
    have hexpanded : Wildcard.hostless.expanded Plain.noFiles.directory = some "http://" := by
      decide +kernel
    have hnone : (protocolOf "http://").toOption = none := by decide +kernel
    cases hprotocol : protocolOf "http://" with
    | error fault =>
        exact h _ _ _ _ _ _ hcheck hnew _ _ _ hexpanded hprotocol List.mem_cons_self
    | ok protocol =>
        rw [hprotocol] at hnone
        cases hnone
  · intro h
    have hopened : .opened "file:///d.dtd" (.ofText "/d.dtd") ∈ Forwarding.journal := by
      simp [Forwarding.journal]
    have hnew := Forwarding.journal_checkText.trans (List.append_nil _).symm
    exact h _ _ _ _ _ _ (Prod.eta _).symm hnew .dtd "file:///d.dtd" _ List.mem_cons_self hopened

end XmlBounds
