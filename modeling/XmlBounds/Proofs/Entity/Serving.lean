import XmlBounds.Proofs.Entity.Fetching

/-!
# What a fetch is for

The gate judges the identifier that a request expands to, relative to the base of the request, and
resolvers are asked for nothing else. What is opened in the end is what the request expands to,
unless the installed resolver names something else.
-/

namespace XmlBounds

/-- The installed resolver may answer the request with the system identifier. -/
def CheckContext.Redirects (ctx : CheckContext) (id : ResourceId) (systemId : String) : Prop :=
  ∃ resolve journal source, ctx.resolver = some resolve ∧
    resolve journal id = .ok (some source) ∧ source.systemId = some systemId

/-- What is done about a resource is done for one that is wanted. -/
def Entry.Serves (ctx : CheckContext) (wanted : ResourceId → Prop) : Entry → Prop
  | .permitted _ systemId | .refused _ systemId =>
      ∃ id, wanted id ∧ systemId = id.expanded ctx.files.directory
  | .asked id => wanted id
  | .opened systemId _ =>
      ∃ id, wanted id ∧
        (id.expanded ctx.files.directory = some systemId ∨ ctx.Redirects id systemId)
  | _ => True

variable {ctx : CheckContext}

theorem Entry.Serves.mono {wanted wanted' : ResourceId → Prop} {e : Entry}
    (h : e.Serves ctx wanted) (hmore : ∀ id, wanted id → wanted' id) : e.Serves ctx wanted' := by
  cases e with
  | permitted kind systemId =>
      obtain ⟨id, hid, hexpanded⟩ := h
      exact ⟨id, hmore id hid, hexpanded⟩
  | refused kind systemId =>
      obtain ⟨id, hid, hexpanded⟩ := h
      exact ⟨id, hmore id hid, hexpanded⟩
  | asked id => exact hmore id h
  | opened systemId path =>
      obtain ⟨id, hid, hopened⟩ := h
      exact ⟨id, hmore id hid, hopened⟩
  | _ => trivial

/-- To do nothing but for the resource. -/
def serving (ctx : CheckContext) (id : ResourceId) : Contract Ledger :=
  .writes (Entry.All (Entry.Serves ctx (· = id))) (Entry.All (Entry.Serves ctx (· = id)))

section Serving

variable {id : ResourceId}

instance : (serving ctx id).Composes :=
  inferInstanceAs (Contract.writes (Entry.All _) (Entry.All _)).Composes

theorem serving_note {e : Entry} (hamount : e.amount = 0) (he : e.Serves ctx (· = id)) :
    (serving ctx id).Holds (Accounted.note e) :=
  Contract.holds_note hamount (Entry.all_singleton he)

theorem serving_checkAccess (kind : ResourceKind) : (serving ctx id).Holds
    (checkAccess ctx.policy ctx.reporter kind (id.expanded ctx.files.directory)) := by
  refine (holds_checkAccess kind _).mono ?_ ?_
  · rintro new ⟨rfl, _⟩
    exact Entry.all_singleton ⟨id, rfl, rfl⟩
  · rintro new ⟨rfl, _⟩
    exact Entry.all_singleton ⟨id, rfl, rfl⟩

theorem serving_asked : (serving ctx id).Holds (Accounted.note (.asked id)) := serving_note rfl rfl

theorem serving_openFile (path : LocalPath) :
    (serving ctx id).Holds (openFile ctx.files path) := by
  unfold openFile
  split
  · exact Contract.holds_pure _
  · exact Contract.holds_throw _

theorem serving_openSource {source : InputSource ByteStream}
    (hsource : ∀ systemId, source.systemId = some systemId →
      id.expanded ctx.files.directory = some systemId ∨ ctx.Redirects id systemId) :
    (serving ctx id).Holds (openSource ctx.files id source) := by
  unfold openSource
  split
  · exact Contract.holds_pure _
  · split
    · exact Contract.holds_throw _
    · next systemId hid =>
        have hopened : id.expanded ctx.files.directory = some systemId ∨
            ctx.Redirects id systemId := by
          cases hown : source.systemId with
          | none => exact .inl (by simpa [hown] using hid)
          | some own => exact hsource systemId (hown.trans (by simpa [hown] using hid))
        split
        · exact Contract.holds_throw _
        · next path _ =>
            have hnote : (serving ctx id).Holds (Accounted.note (.opened systemId path)) :=
              serving_note rfl ⟨id, rfl, hopened⟩
            exact hnote.bind fun _ => (serving_openFile path).thenPure _

theorem serving_resolveInstalled :
    (serving ctx id).Holds (resolveMonitored ctx.resolver ctx.files id) := by
  cases hresolver : ctx.resolver with
  | none => exact Contract.holds_pure _
  | some resolve =>
      refine serving_asked.bind fun _ => Contract.holds_get.bind fun ledger => ?_
      cases hanswer : resolve ledger.journal id with
      | error fault => exact Contract.holds_throw _
      | ok answer =>
          cases answer with
          | none => exact Contract.holds_pure _
          | some source =>
              have hopen : (serving ctx id).Holds (openSource ctx.files id source) :=
                serving_openSource fun systemId hown =>
                  .inr ⟨resolve, ledger.journal, source, hresolver, hanswer, hown⟩
              exact hopen.thenPure _

theorem serving_resolveFallback : (serving ctx id).Holds
    (resolveMonitored (some (systemIdResolver ctx.files.directory)) ctx.files id) := by
  have hopen : (serving ctx id).Holds
      (openSource ctx.files id (.ofId ctx.files.directory id)) :=
    serving_openSource fun _ hown => .inl hown
  exact serving_asked.bind fun _ => Contract.holds_get.bind fun _ => hopen.thenPure _

theorem serving_readText (source : InputSource Stream) :
    (serving ctx id).Holds (source.readText ctx.policy ctx.reporter) := by
  have hreads : ∀ {new}, Entry.All (Entry.Reads ctx.policy source.label) new →
      Entry.All (Entry.Serves ctx (· = id)) new := by
    intro new hnew e he
    obtain ⟨name, _, ⟨amount, rfl⟩ | ⟨units, rfl, _⟩⟩ := hnew e he <;> trivial
  exact (holds_readText source).mono (fun h => hreads h.1) hreads

/-- All that a fetch does about resources it does for the one that it is asked for. -/
theorem serving_fetch (kind : ResourceKind) : (serving ctx id).Holds (fetch ctx kind id) :=
  (serving_checkAccess kind).bind fun _ =>
    (keeps_resolveResource serving_resolveInstalled serving_resolveFallback).bind fun source =>
      (serving_readText source).thenPure _

end Serving

end XmlBounds
