import XmlBounds.Check.Pass
import XmlBounds.Proofs.Entity.Delivery

/-!
# Fetching a resource

A fetch passes the gate before anything else is done for it. Then it asks resolvers, opens at most
a file for each answer, and reads; and what it reads of a named entity is counted.
-/

namespace XmlBounds

/-- The gate lets the system identifier pass. -/
def Policy.Admits (policy : Policy) (kind : ResourceKind) (systemId : Option String) : Prop :=
  refusedProtocol systemId (policy.access kind.accessList) accessAll = .ok none

/-- What asking a resolver adds to the journal: a resolver may be absent, and what it answers with
may have to be opened. -/
def Consults (id : ResourceId) (new : List Entry) : Prop :=
  new = [] ∨ new = [.asked id] ∨ ∃ systemId path, new = [.opened systemId path, .asked id]

/-- What a fetch adds to the journal once it has passed the gate. -/
inductive Fetched (policy : Policy) (directory : String) (kind : ResourceKind) (id : ResourceId) :
    List Entry → Prop where
  | permitted : policy.Admits kind (id.expanded directory) →
      Fetched policy directory kind id [.permitted kind (id.expanded directory)]
  | consulted {older new : List Entry} : Fetched policy directory kind id older →
      Consults id new → Fetched policy directory kind id (new ++ older)
  | read {older : List Entry} {e : Entry} : Fetched policy directory kind id older →
      e.Reads policy id.entityName → Fetched policy directory kind id (e :: older)

theorem Fetched.reads {policy : Policy} {directory : String} {kind : ResourceKind}
    {id : ResourceId} {older new : List Entry} (h : Fetched policy directory kind id older)
    (hnew : Entry.All (Entry.Reads policy id.entityName) new) :
    Fetched policy directory kind id (new ++ older) := by
  induction new with
  | nil => exact h
  | cons e new ih =>
      have hrest := ih fun d hd => hnew d (List.mem_cons_of_mem e hd)
      exact hrest.read (hnew e List.mem_cons_self)

/-- Entries that a fetch makes have a property if those of each kind have it. -/
theorem Fetched.all {policy : Policy} {directory : String} {kind : ResourceKind}
    {id : ResourceId} {new : List Entry} {P : Entry → Prop}
    (h : Fetched policy directory kind id new)
    (hpermitted : P (.permitted kind (id.expanded directory))) (hasked : P (.asked id))
    (hopened : ∀ systemId path, P (.opened systemId path))
    (hcounted : ∀ name amount, P (.counted name amount))
    (hdelivered : ∀ name units, units ≤ policy.sizeLimit name → P (.delivered name units)) :
    Entry.All P new := by
  induction h with
  | permitted _ => exact Entry.all_singleton hpermitted
  | consulted _ hconsults ih =>
      refine Entry.all_append ih ?_
      rcases hconsults with rfl | rfl | ⟨systemId, path, rfl⟩
      · exact Entry.all_nil
      · exact Entry.all_singleton hasked
      · exact Entry.all_append (Entry.all_singleton hasked)
          (Entry.all_singleton (hopened systemId path))
  | read _ hread ih =>
      intro e he
      rcases List.mem_cons.mp he with rfl | he
      · obtain ⟨name, _, ⟨amount, rfl⟩ | ⟨units, rfl, hunits⟩⟩ := hread
        · exact hcounted name amount
        · exact hdelivered name units hunits
      · exact ih e he

section Steps

variable {policy : Policy} {reporter : Reporter} {files : Files} {id : ResourceId}
  {l l' : Ledger}

theorem holds_checkAccess (kind : ResourceKind) (systemId : Option String) :
    (Contract.writes
      (fun new => new = [.permitted kind systemId] ∧ policy.Admits kind systemId)
      (fun new => new = [.refused kind systemId] ∧ ¬ policy.Admits kind systemId)).Holds
        (checkAccess policy reporter kind systemId) := by
  unfold checkAccess
  split
  · next fault hfault =>
      have hnot : ¬ policy.Admits kind systemId := by simp [Policy.Admits, hfault]
      exact (Contract.holds_note_fails rfl (Contract.writes_throw _ rfl)).mono
        False.elim fun h => ⟨h, hnot⟩
  · next hok => exact Contract.holds_note rfl ⟨rfl, hok⟩
  · next protocol hrefused =>
      have hnot : ¬ policy.Admits kind systemId := by simp [Policy.Admits, hrefused]
      exact (Contract.holds_note_fails rfl (Contract.holds_raise _ _ rfl)).mono
        False.elim fun h => ⟨h, hnot⟩

/-- Opening a source adds at most that a file was opened. -/
def Opens (new : List Entry) : Prop := new = [] ∨ ∃ systemId path, new = [.opened systemId path]

theorem holds_openFile (path : LocalPath) :
    (Contract.writes (· = []) (· = [])).Holds (openFile files path) := by
  unfold openFile
  split
  · exact Contract.writes_pure _ rfl
  · exact Contract.writes_throw _ rfl

theorem holds_openSource (source : InputSource ByteStream) :
    (Contract.writes Opens Opens).Holds (openSource files id source) := by
  unfold openSource
  split
  · exact Contract.writes_pure _ (.inl rfl)
  · split
    · exact Contract.writes_throw _ (.inl rfl)
    · next systemId _ =>
        split
        · exact Contract.writes_throw _ (.inl rfl)
        · next path _ =>
            have hnote : (Contract.writes (· = [.opened systemId path]) fun _ => False).Holds
                (Accounted.note (.opened systemId path)) := Contract.holds_note rfl rfl
            have hopens : ∀ {older newer : List Entry}, older = [.opened systemId path] →
                newer = [] → Opens (newer ++ older) := by
              rintro older newer rfl rfl
              exact .inr ⟨systemId, path, rfl⟩
            exact hnote.next (fun _ => (holds_openFile path).thenPure _) hopens False.elim hopens

theorem holds_acceptAnswer (answer : Except Fault (Option (InputSource ByteStream))) :
    (Contract.writes Opens Opens).Holds (acceptAnswer files id answer) := by
  match answer with
  | .error fault => exact Contract.writes_throw _ (.inl rfl)
  | .ok none => exact Contract.writes_pure _ (.inl rfl)
  | .ok (some source) => exact (holds_openSource source).thenPure _

theorem holds_resolveMonitored (resolver : Option EntityResolver) :
    (Contract.writes (Consults id) (Consults id)).Holds (resolveMonitored resolver files id) := by
  cases resolver with
  | none => exact Contract.writes_pure _ (.inl rfl)
  | some resolve =>
      have hnote : (Contract.writes (· = [.asked id]) fun _ => False).Holds
          (Accounted.note (.asked id)) := Contract.holds_note rfl rfl
      have hanswer : (Contract.writes Opens Opens).Holds
          (get >>= fun ledger => acceptAnswer files id (resolve ledger.journal id)) :=
        ⟨fun h => (holds_acceptAnswer _).of_ok h, fun h => (holds_acceptAnswer _).of_error h⟩
      have hconsults : ∀ {older newer : List Entry}, older = [.asked id] → Opens newer →
          Consults id (newer ++ older) := by
        rintro older newer rfl (rfl | ⟨systemId, path, rfl⟩)
        · exact .inr (.inl rfl)
        · exact .inr (.inr ⟨systemId, path, rfl⟩)
      exact hnote.next (fun _ => hanswer) hconsults False.elim hconsults

/-- A source is left as it is, or its file is opened to be its one stream. -/
theorem cases_of_openSource {source source' : InputSource ByteStream}
    (h : openSource files id source l = .ok source' l') :
    (source' = source ∧ (source.charStream.isSome ∨ source.byteStream.isSome)) ∨
      source.charStream = none ∧ source.byteStream = none ∧
        ∃ file, source' = { source with byteStream := some file } := by
  unfold openSource at h
  split at h
  · next hsome =>
      cases h
      exact .inl ⟨rfl, hsome⟩
  · next hnone =>
      rw [not_or, Option.not_isSome_iff_eq_none, Option.not_isSome_iff_eq_none] at hnone
      cases hid : source.systemId.or (id.expanded files.directory) with
      | none =>
          rw [hid] at h
          cases h
      | some systemId =>
          cases hpath : localPath systemId with
          | error fault =>
              simp only [hid, hpath] at h
              cases h
          | ok path =>
              simp only [hid, hpath] at h
              obtain ⟨_, _, _, h⟩ := ok_of_bind h
              obtain ⟨stream, _, _, hpure⟩ := ok_of_bind h
              cases hpure
              exact .inr ⟨hnone.1, hnone.2, stream, rfl⟩

theorem isSome_of_openSource {source source' : InputSource ByteStream}
    (h : openSource files id source l = .ok source' l') :
    source'.charStream.isSome ∨ source'.byteStream.isSome := by
  rcases cases_of_openSource h with ⟨rfl, hsome⟩ | ⟨_, _, file, rfl⟩
  · exact hsome
  · exact .inr rfl

theorem label_countedFor {source : InputSource ByteStream} (name : Option String)
    (h : source.charStream.isSome ∨ source.byteStream.isSome) :
    (source.countedFor name).label = name := by
  obtain ⟨publicId, systemId, base, byteStream, charStream⟩ := source
  cases name with
  | none => cases charStream <;> cases byteStream <;> rfl
  | some name =>
      cases charStream with
      | some stream => rfl
      | none =>
          cases byteStream with
          | some stream => rfl
          | none => simp at h

/-- A source that is handed out is the answer of a resolver, opened and counted. -/
theorem source_of_resolveMonitored {resolver : Option EntityResolver}
    {source : InputSource Stream}
    (h : resolveMonitored resolver files id l = .ok (some source) l') :
    ∃ resolve answer opened mid, resolver = some resolve ∧
      resolve (.asked id :: l.journal) id = .ok (some answer) ∧
        openSource files id answer mid = .ok opened l' ∧
          source = opened.countedFor id.entityName := by
  cases resolver with
  | none => cases h
  | some resolve =>
      obtain ⟨_, noted, hnote, h⟩ := ok_of_bind h
      cases hnote
      obtain ⟨ledger, asked, hget, h⟩ := ok_of_bind h
      cases hget
      cases hanswer : resolve (.asked id :: l.journal) id with
      | error fault =>
          rw [hanswer] at h
          cases h
      | ok found =>
          rw [hanswer] at h
          cases found with
          | none => cases h
          | some answer =>
              obtain ⟨opened, _, hopen, hpure⟩ := ok_of_bind h
              cases hpure
              exact ⟨resolve, answer, opened, _, rfl, hanswer, hopen, rfl⟩

/-- What a resolver gives for a named entity is counted for it. -/
theorem label_of_resolveMonitored {resolver : Option EntityResolver}
    {source : InputSource Stream}
    (h : resolveMonitored resolver files id l = .ok (some source) l') :
    source.label = id.entityName := by
  obtain ⟨_, _, opened, _, _, _, hopen, rfl⟩ := source_of_resolveMonitored h
  exact label_countedFor _ (isSome_of_openSource hopen)

end Steps

section Fetch

variable {ctx : CheckContext} {kind : ResourceKind} {id : ResourceId} {l l' : Ledger}

theorem label_of_resolveResource {source : InputSource Stream}
    (h : resolveResource ctx id l = .ok source l') : source.label = id.entityName := by
  obtain ⟨answer, mid, hfirst, h⟩ := ok_of_bind h
  cases answer with
  | some found =>
      cases h
      exact label_of_resolveMonitored hfirst
  | none =>
      obtain ⟨answer, last, hsecond, h⟩ := ok_of_bind h
      cases answer with
      | some found =>
          cases h
          exact label_of_resolveMonitored hsecond
      | none => cases h

theorem keeps_resolveResource {C : Contract Ledger} [C.Composes]
    (hinstalled : C.Holds (resolveMonitored ctx.resolver ctx.files id))
    (hfallback : C.Holds
      (resolveMonitored (some (systemIdResolver ctx.files.directory)) ctx.files id)) :
    C.Holds (resolveResource ctx id) := by
  refine hinstalled.bind fun answer => ?_
  cases answer with
  | some source => exact Contract.holds_pure _
  | none =>
      refine hfallback.bind fun answer => ?_
      cases answer with
      | some source => exact Contract.holds_pure _
      | none => exact Contract.holds_throw _

/-- The entries go on with a fetch that has passed the gate. -/
def Continues (ctx : CheckContext) (kind : ResourceKind) (id : ResourceId) (new : List Entry) :
    Prop :=
  ∀ older, Fetched ctx.policy ctx.files.directory kind id older →
    Fetched ctx.policy ctx.files.directory kind id (new ++ older)

instance : Additive (Continues ctx kind id) (Continues ctx kind id) where
  nil _ h := h
  append hold hnew older h := by
    rw [List.append_assoc]
    exact hnew _ (hold older h)
  stop _ h := h
  appendFailure hold hnew older h := by
    rw [List.append_assoc]
    exact hnew _ (hold older h)

theorem holds_resolveResource :
    (Contract.writes (Continues ctx kind id) (Continues ctx kind id)).Holds
      (resolveResource ctx id) := by
  have hask : ∀ resolver,
      (Contract.writes (Continues ctx kind id) (Continues ctx kind id)).Holds
        (resolveMonitored resolver ctx.files id) := fun resolver =>
    (holds_resolveMonitored resolver).mono (fun h _ hold => hold.consulted h)
      fun h _ hold => hold.consulted h
  exact keeps_resolveResource (hask _) (hask _)

/-- A fetch that fails has been refused, or has failed after the gate. -/
def FailsToFetch (ctx : CheckContext) (kind : ResourceKind) (id : ResourceId)
    (new : List Entry) : Prop :=
  Fetched ctx.policy ctx.files.directory kind id new ∨
    new = [.refused kind (id.expanded ctx.files.directory)] ∧
      ¬ ctx.policy.Admits kind (id.expanded ctx.files.directory)

/-- The newest of the entries is that the text of the entity was delivered. -/
def EndsDelivered (id : ResourceId) (new : List Entry) : Prop :=
  ∀ name, id.entityName = some name → ∃ units rest, new = .delivered name units :: rest

theorem EndsDelivered.append {older newer : List Entry} (h : EndsDelivered id newer) :
    EndsDelivered id (newer ++ older) := by
  intro name hname
  obtain ⟨units, rest, rfl⟩ := h name hname
  exact ⟨units, rest ++ older, rfl⟩

theorem holds_resolvedText (kind : ResourceKind) :
    (Contract.writes (fun new => Continues ctx kind id new ∧ EndsDelivered id new)
      (Continues ctx kind id)).Holds
        (resolveResource ctx id >>= fun source =>
          source.readText ctx.policy ctx.reporter >>= fun text =>
            pure (text, source.systemId.or (id.expanded ctx.files.directory))) := by
  have hread : ∀ {l source l'}, resolveResource ctx id l = .ok source l' →
      (Contract.writes (Delivered ctx.policy id.entityName)
        (Entry.All (Entry.Reads ctx.policy id.entityName))).Holds
          (source.readText ctx.policy ctx.reporter >>= fun text =>
            pure (text, source.systemId.or (id.expanded ctx.files.directory))) := by
    intro l source l' h
    rw [← label_of_resolveResource h]
    exact (holds_readText source).thenPure _
  have hcontinues : ∀ {older newer : List Entry}, Continues ctx kind id older →
      Entry.All (Entry.Reads ctx.policy id.entityName) newer →
      Continues ctx kind id (newer ++ older) := by
    intro older newer hold hnew past hpast
    rw [List.append_assoc]
    exact (hold past hpast).reads hnew
  refine holds_resolveResource.next hread ?_ (fun h => h) hcontinues
  intro older newer hold hnew
  have hends : EndsDelivered id newer := hnew.2
  exact ⟨hcontinues hold hnew.1, hends.append⟩

/-- A fetch passes the gate first; one that succeeds has delivered the text of a named entity, and
has done nothing after that. -/
theorem holds_fetch :
    (Contract.writes
      (fun new => Fetched ctx.policy ctx.files.directory kind id new ∧ EndsDelivered id new)
      (FailsToFetch ctx kind id)).Holds (fetch ctx kind id) := by
  refine (holds_checkAccess kind (id.expanded ctx.files.directory)).next
    (fun _ => holds_resolvedText kind) ?_ ?_ ?_
  · rintro older newer ⟨rfl, hadmits⟩ ⟨hcontinues, hends⟩
    exact ⟨hcontinues _ (.permitted hadmits), hends.append⟩
  · intro new hrefused
    exact .inr hrefused
  · rintro older newer ⟨rfl, hadmits⟩ hcontinues
    exact .inl (hcontinues _ (.permitted hadmits))

/-- While a resource is fetched, only reading it adds to the total, which stays within its limit. -/
theorem bounds_fetch (hreporter : ctx.reporter.NeverInterrupts) :
    (Contract.bounds (ctx.policy.limit .totalEntitySize).toNat).Holds (fetch ctx kind id) := by
  have haccess : (Contract.bounds (ctx.policy.limit .totalEntitySize).toNat).Holds
      (checkAccess ctx.policy ctx.reporter kind (id.expanded ctx.files.directory)) := by
    refine Contract.bounds_of_writes (holds_checkAccess _ _) ?_
    rintro new ⟨rfl, _⟩
    rfl
  have hask : ∀ resolver, (Contract.bounds (ctx.policy.limit .totalEntitySize).toNat).Holds
      (resolveMonitored resolver ctx.files id) := by
    intro resolver
    refine Contract.bounds_of_writes (holds_resolveMonitored resolver) ?_
    rintro new (rfl | rfl | ⟨systemId, path, rfl⟩) <;> rfl
  refine haccess.bind fun _ => (keeps_resolveResource (hask _) (hask _)).bind fun source => ?_
  exact (bounds_readText hreporter source).thenPure _

end Fetch

end XmlBounds
