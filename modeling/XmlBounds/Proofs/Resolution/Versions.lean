import Mathlib.Data.List.Basic
import XmlBounds.Properties.Deployment
import XmlBounds.Resolution.Basic

/-!
# Versions of the properties file

The file is looked at anew for every property that it is asked for. If it is replaced while a
resolution goes on, each property is answered by the version that is in force at its turn: what is
resolved belongs to one version of the file only if that version agrees with the others wherever
they were asked.
-/

namespace XmlBounds

/-- A version of the properties file, which was written at the time. -/
structure FileVersion where
  time : Nat
  text : String

namespace FileVersion

def properties (v : FileVersion) : Properties := .parse v.text

def watched (v : FileVersion) : WatchedFile := ⟨.modifiedAt v.time, some v.text⟩

/-- The second version is still the first one, or has replaced it later. -/
def Succeeds (v w : FileVersion) : Prop := w = v ∨ v.time < w.time

/-- The version in force after so many look-ups, each of which finds the next one of the list. -/
def inForce (v : FileVersion) : List FileVersion → Nat → FileVersion
  | [], _ => v
  | _ :: _, 0 => v
  | w :: versions, n + 1 => inForce w versions n

variable {v w : FileVersion} {versions : List FileVersion}

@[simp] theorem inForce_zero (v : FileVersion) (versions : List FileVersion) :
    inForce v versions 0 = v := by
  cases versions <;> rfl

@[simp] theorem inForce_nil (v : FileVersion) (n : Nat) : inForce v [] n = v := by
  cases n <;> rfl

theorem inForce_one (v : FileVersion) (versions : List FileVersion) :
    inForce v versions 1 = versions.headD v := by
  cases versions with
  | nil => rfl
  | cons w versions => exact inForce_zero w versions

theorem inForce_add (v : FileVersion) (versions : List FileVersion) (m n : Nat) :
    inForce v versions (m + n) = inForce (inForce v versions m) (versions.drop m) n := by
  induction versions generalizing v m with
  | nil => simp
  | cons w versions ih =>
      cases m with
      | zero => simp
      | succ m =>
          rw [Nat.succ_add]
          exact ih w m

end FileVersion

/-- The sources that answer so and never otherwise. -/
def Sources.answering {m : Type → Type} [Monad m] (file process : String → Option String) :
    Sources m where
  deployment name := pure (file name)
  process name := pure (process name)

namespace Deployment

/-- The version is in force, and those of the list are coming. Of the file no more is known than has
been read of it, now or before. -/
structure Stands (v : FileVersion) (versions : List FileVersion) (d : Deployment) : Prop where
  path : d.cache.path ≠ none
  known : ∀ time, d.cache.lastModified = some time →
    time < v.time ∨ time = v.time ∧ d.cache.properties = some v.properties
  file : d.file = v.watched
  coming : d.coming = versions.map FileVersion.watched
  advancing : (v :: versions).IsChain FileVersion.Succeeds

variable {v w : FileVersion} {versions : List FileVersion} {d : Deployment}

theorem isStale_of_stands (h : d.Stands v versions) (hlater : v.time < w.time) :
    d.cache.isStale w.time = true := by
  unfold PropertiesCache.isStale
  cases hseen : d.cache.lastModified with
  | none => rfl
  | some seen =>
      have hbefore := h.known seen hseen
      simp only [decide_eq_true_eq]
      omega

theorem refresh_of_stands (h : d.Stands v versions) (hw : v.Succeeds w) :
    d.cache.refresh w.watched = ⟨d.cache.path, some w.properties, some w.time⟩ := by
  obtain ⟨path, hpath⟩ := Option.ne_none_iff_exists'.mp h.path
  by_cases hstale : d.cache.isStale w.time = true
  · simp [PropertiesCache.refresh, FileVersion.watched, FileVersion.properties, hpath, hstale]
  · -- Only the version that was read already need not be read again.
    have hsame : w = v := hw.resolve_right fun hlater => hstale (isStale_of_stands h hlater)
    subst hsame
    have hkept : d.cache.refresh w.watched = d.cache := by
      simp [PropertiesCache.refresh, FileVersion.watched, hpath, hstale]
    obtain ⟨seen, hseen⟩ : ∃ seen, d.cache.lastModified = some seen := by
      apply Option.ne_none_iff_exists'.mp
      intro hnone
      simp [PropertiesCache.isStale, hnone] at hstale
    have hold : ¬ seen < w.time := by simpa [PropertiesCache.isStale, hseen] using hstale
    obtain ⟨htime, hproperties⟩ := (h.known seen hseen).resolve_left hold
    rw [hkept, ← hproperties, ← htime, ← hseen]

theorem find?_of_stands (h : d.Stands v versions) (name : String) :
    (find? name d).1 = (v.inForce versions 1).properties.find? name ∧
      (find? name d).2.Stands (v.inForce versions 1) (versions.drop 1) := by
  obtain ⟨cache, file, coming⟩ := d
  obtain ⟨hpath, hknown, rfl, rfl, hadvancing⟩ := h
  have hstands : Stands v versions ⟨cache, v.watched, versions.map FileVersion.watched⟩ :=
    ⟨hpath, hknown, rfl, rfl, hadvancing⟩
  have hnext (w : FileVersion) (rest : List FileVersion) (hw : v.Succeeds w)
      (hrest : (w :: rest).IsChain FileVersion.Succeeds) :
      (cache.refresh w.watched).properties.bind (·.find? name) = w.properties.find? name ∧
        Stands w rest ⟨cache.refresh w.watched, w.watched, rest.map FileVersion.watched⟩ := by
    rw [refresh_of_stands hstands hw]
    refine ⟨rfl, hpath, ?_, rfl, rfl, hrest⟩
    rintro _ ⟨⟩
    exact .inr ⟨rfl, rfl⟩
  cases versions with
  | nil => exact hnext v [] (.inl rfl) hadvancing
  | cons w rest =>
      rw [FileVersion.inForce_one]
      obtain ⟨hw, hrest⟩ := List.isChain_cons_cons.mp hadvancing
      exact hnext w rest hw hrest

/-! ## What is read of the versions -/

section Mirrors

variable {answers : String → Option String} {names names' : List String} {α β ε : Type}

/-- Each name is answered as the version says that is in force when its turn comes. -/
def Splices (v : FileVersion) (versions : List FileVersion) (names : List String)
    (answers : String → Option String) : Prop :=
  ∀ i name, names[i]? = some name →
    answers name = (v.inForce versions (i + 1)).properties.find? name

theorem Splices.left (h : Splices v versions (names ++ names') answers) :
    Splices v versions names answers := by
  intro i name hname
  apply h i name
  rw [List.getElem?_append_left (List.getElem?_eq_some_iff.mp hname).1, hname]

theorem Splices.right (h : Splices v versions (names ++ names') answers) :
    Splices (v.inForce versions names.length) (versions.drop names.length) names' answers := by
  intro i name hname
  rw [← FileVersion.inForce_add, ← Nat.add_assoc]
  apply h (names.length + i) name
  rw [List.getElem?_append_right (Nat.le_add_right _ i), Nat.add_sub_cancel_left, hname]

/-- The computation looks the names up in turn, and gives what it gives where the file always
answers so. -/
def Mirrors (answers : String → Option String) (names : List String) (x : StateM Deployment α)
    (y : Id α) : Prop :=
  ∀ v versions d, d.Stands v versions → Splices v versions names answers →
    (x d).1 = y ∧ (x d).2.Stands (v.inForce versions names.length) (versions.drop names.length)

/-- The same of a computation that can fail, and looks nothing up any more once it has failed. -/
def MirrorsOk (answers : String → Option String) (names : List String)
    (x : ExceptT ε (StateM Deployment) α) (y : ExceptT ε Id α) : Prop :=
  ∀ v versions d, d.Stands v versions → Splices v versions names answers →
    (x d).1 = y ∧ ∀ a, y = Except.ok a →
      (x d).2.Stands (v.inForce versions names.length) (versions.drop names.length)

theorem mirrors_pure (a : α) : Mirrors answers [] (pure a) (pure a) := by
  intro v versions d hd _
  refine ⟨rfl, ?_⟩
  rw [List.length_nil, FileVersion.inForce_zero, List.drop_zero]
  exact hd

theorem mirrors_find? (name : String) : Mirrors answers [name] (find? name) (answers name) := by
  intro v versions d hd hsplices
  obtain ⟨hanswer, hnext⟩ := find?_of_stands hd name
  exact ⟨hanswer.trans (hsplices 0 name rfl).symm, hnext⟩

theorem Mirrors.bind {x : StateM Deployment α} {y : Id α} {f : α → StateM Deployment β}
    {g : α → Id β} (hx : Mirrors answers names x y) (hf : ∀ a, Mirrors answers names' (f a) (g a)) :
    Mirrors answers (names ++ names') (x >>= f) (y >>= g) := by
  intro v versions d hd hsplices
  obtain ⟨hvalue, hstands⟩ := hx v versions d hd hsplices.left
  have hrest := hf y _ _ _ hstands hsplices.right
  have hbind : (x >>= f) d = f (x d).1 (x d).2 := rfl
  rw [hbind, hvalue, List.length_append, FileVersion.inForce_add, ← List.drop_drop]
  exact hrest

theorem MirrorsOk.bind {x : ExceptT ε (StateM Deployment) α} {y : ExceptT ε Id α}
    {f : α → ExceptT ε (StateM Deployment) β} {g : α → ExceptT ε Id β}
    (hx : MirrorsOk answers names x y) (hf : ∀ a, MirrorsOk answers names' (f a) (g a)) :
    MirrorsOk answers (names ++ names') (x >>= f) (y >>= g) := by
  intro v versions d hd hsplices
  obtain ⟨hvalue, hstands⟩ := hx v versions d hd hsplices.left
  have hbind : (x >>= f) d = ExceptT.bindCont f (x d).1 (x d).2 := rfl
  have hbind' : (y >>= g) = ExceptT.bindCont g y := rfl
  rw [hbind, hbind', hvalue]
  rcases hy : y.run with fault | a
  · have hfailed : y = Except.error fault := hy
    subst hfailed
    refine ⟨rfl, ?_⟩
    intro b hb
    cases hb
  · have hdone : y = Except.ok a := hy
    subst hdone
    rw [List.length_append, FileVersion.inForce_add, ← List.drop_drop]
    exact hf a _ _ _ (hstands a rfl) hsplices.right

theorem mirrorsOk_result (result : Except ε α) :
    MirrorsOk answers [] (ExceptT.mk (pure result) : ExceptT ε (StateM Deployment) α)
      (ExceptT.mk (pure result)) := by
  have hpure : Mirrors answers [] (pure result) (pure result) := mirrors_pure result
  intro v versions d hd hsplices
  obtain ⟨_, hstands⟩ := hpure v versions d hd hsplices
  exact ⟨rfl, fun _ _ => hstands⟩

theorem mirrorsOk_pure (a : α) :
    MirrorsOk answers [] (pure a : ExceptT ε (StateM Deployment) α) (pure a) :=
  mirrorsOk_result (.ok a)

theorem Mirrors.lift {x : StateM Deployment α} {y : Id α} (h : Mirrors answers names x y) :
    MirrorsOk answers names (liftM x : ExceptT ε (StateM Deployment) α) (liftM y) := by
  intro v versions d hd hsplices
  obtain ⟨hvalue, hstands⟩ := h v versions d hd hsplices
  refine ⟨?_, fun _ _ => hstands⟩
  have hlift : (liftM x : ExceptT ε (StateM Deployment) α) d = (Except.ok (x d).1, (x d).2) := rfl
  rw [hlift, hvalue]
  rfl

theorem MirrorsOk.limits {f : LimitKind → ExceptT ε (StateM Deployment) α}
    {g : LimitKind → ExceptT ε Id α} {names : LimitKind → List String}
    (h : ∀ k, MirrorsOk answers (names k) (f k) (g k)) :
    MirrorsOk answers (LimitKind.all.flatMap names) (LimitKind.tabulateM f)
      (LimitKind.tabulateM g) := by
  unfold LimitKind.tabulateM
  iterate 7
    refine (h _).bind ?_
    intro _
  exact mirrorsOk_pure _

theorem Mirrors.lists {f : AccessList → StateM Deployment α} {g : AccessList → Id α}
    {names : AccessList → List String} (h : ∀ a, Mirrors answers (names a) (f a) (g a)) :
    Mirrors answers (AccessList.all.flatMap names) (AccessList.tabulateM f)
      (AccessList.tabulateM g) := by
  unfold AccessList.tabulateM
  iterate 2
    refine (h _).bind ?_
    intro _
  exact mirrors_pure _

end Mirrors

/-! ## What is asked for -/

/-- The caller has said nothing of the setting. -/
def isSought (o : Overrides) (p : Policy) (t : Setting) : Bool :=
  !p.isOwned t && (o.settings t).isNone

/-- The name under which the setting is looked up, if it is. -/
def soughtName (o : Overrides) (p : Policy) (t : Setting) : List String :=
  if isSought o p t then [t.propertyName] else []

/-- The names that a resolution looks up, in order. -/
def asked (o : Overrides) (p : Policy) : List String :=
  LimitKind.all.flatMap (fun k => soughtName o p (.limit k)) ++
    if o.isSecure then
      resolveExternalEntities :: AccessList.all.flatMap (fun a => soughtName o p (.access a))
    else []

section Resolving

variable {answers : String → Option String}

theorem mirrors_candidates (answers : String → Option String) (process : Properties)
    (name : String) :
    Mirrors answers [name] ((sources process).candidates name)
      ((Sources.answering answers process.find?).candidates name) := by
  refine (mirrors_find? name).bind fun _ => ?_
  exact (mirrors_pure (process.find? name)).bind fun _ => mirrors_pure _

theorem mirrors_limit (answers : String → Option String) (process : Properties) (o : Overrides)
    (p : Policy) (k : LimitKind) :
    MirrorsOk answers (soughtName o p (.limit k)) (Resolve.limit (sources process) o p k)
      (Resolve.limit (Sources.answering answers process.find?) o p k) := by
  unfold Resolve.limit
  have howner : p.isOwned (.limit k) = (p.limitEntry k).isOwned := rfl
  cases howned : (p.limitEntry k).isOwned with
  | true =>
      have hnames : soughtName o p (.limit k) = [] := by simp [soughtName, isSought, howner, howned]
      rw [hnames]
      exact mirrorsOk_pure _
  | false =>
      cases hset : o.settings (.limit k) with
      | some v =>
          have hnames : soughtName o p (.limit k) = [] := by simp [soughtName, isSought, hset]
          rw [hnames]
          exact (mirrorsOk_result v.asLimit).bind fun _ => mirrorsOk_pure _
      | none =>
          have hnames : soughtName o p (.limit k) = [k.propertyName] := by
            simp [soughtName, isSought, howner, howned, hset, Setting.propertyName]
          have hfound := (mirrors_candidates answers process k.propertyName).bind fun found =>
            mirrors_pure (Sources.firstLimit (defaultLimit k) found)
          rw [hnames]
          exact hfound.lift.bind fun _ => mirrorsOk_pure _

theorem mirrors_gate (answers : String → Option String) (process : Properties) (isSecure : Bool) :
    Mirrors answers (if isSecure then [resolveExternalEntities] else [])
      (Resolve.gate (sources process) isSecure)
      (Resolve.gate (Sources.answering answers process.find?) isSecure) := by
  cases isSecure with
  | false => exact mirrors_pure _
  | true =>
      have hswitch := (mirrors_candidates answers process resolveExternalEntities).bind fun found =>
        mirrors_pure (Sources.firstSwitch false found)
      exact hswitch.bind fun _ => mirrors_pure _

theorem mirrors_access (answers : String → Option String) (process : Properties) (o : Overrides)
    (p : Policy) (gate : Resolved Bool) (a : AccessList) :
    Mirrors answers (if o.isSecure then soughtName o p (.access a) else [])
      (Resolve.access (sources process) o p gate a)
      (Resolve.access (Sources.answering answers process.find?) o p gate a) := by
  unfold Resolve.access
  have howner : p.isOwned (.access a) = (p.accessEntry a).isOwned := rfl
  cases howned : (p.accessEntry a).isOwned with
  | true =>
      have hnames : soughtName o p (.access a) = [] := by
        simp [soughtName, isSought, howner, howned]
      rw [hnames, ite_self]
      exact mirrors_pure _
  | false =>
      cases hset : o.settings (.access a) with
      | some v =>
          have hnames : soughtName o p (.access a) = [] := by simp [soughtName, isSought, hset]
          rw [hnames, ite_self]
          exact mirrors_pure _
      | none =>
          have hnames : soughtName o p (.access a) = [a.propertyName] := by
            simp [soughtName, isSought, howner, howned, hset, Setting.propertyName]
          rw [hnames]
          cases o.isSecure with
          | false => exact mirrors_pure _
          | true =>
              have hfound := (mirrors_candidates answers process a.propertyName).bind fun found =>
                mirrors_pure (Sources.firstText (Resolve.listOfGate gate.value) found)
              exact hfound.bind fun _ => mirrors_pure _

theorem asked_eq (o : Overrides) (p : Policy) :
    asked o p = LimitKind.all.flatMap (fun k => soughtName o p (.limit k)) ++
      ((if o.isSecure then [resolveExternalEntities] else []) ++
        ((AccessList.all.flatMap fun a => if o.isSecure then soughtName o p (.access a) else []) ++
          [])) := by
  unfold asked
  cases o.isSecure <;> simp

theorem mirrors_resolve (answers : String → Option String) (process : Properties) (o : Overrides)
    (p : Policy) :
    MirrorsOk answers (asked o p) (resolve (sources process) o p)
      (resolve (Sources.answering answers process.find?) o p) := by
  rw [asked_eq]
  unfold resolve
  refine (MirrorsOk.limits (mirrors_limit answers process o p)).bind fun _ => ?_
  refine (mirrors_gate answers process o.isSecure).lift.bind fun gate => ?_
  have hlists := Mirrors.lists (mirrors_access answers process o p gate)
  exact hlists.lift.bind fun _ => mirrorsOk_pure _

theorem sublist_soughtName (o : Overrides) (p : Policy) (t : Setting) :
    (soughtName o p t).Sublist [t.propertyName] := by
  unfold soughtName
  split
  · exact .refl _
  · exact List.nil_sublist _

theorem flatMap_sublist_map {α β : Type} {f : α → List β} {g : α → β}
    (h : ∀ a, (f a).Sublist [g a]) (l : List α) : (l.flatMap f).Sublist (l.map g) := by
  induction l with
  | nil => exact .refl _
  | cons a l ih => exact (h a).append ih

/-- No name is looked up twice. -/
theorem nodup_asked (o : Overrides) (p : Policy) : (asked o p).Nodup := by
  have hlimits := flatMap_sublist_map (fun k => sublist_soughtName o p (.limit k)) LimitKind.all
  have hlists := flatMap_sublist_map (fun a => sublist_soughtName o p (.access a)) AccessList.all
  have hgated : (if o.isSecure then
      resolveExternalEntities :: AccessList.all.flatMap (fun a => soughtName o p (.access a))
      else []).Sublist
        (resolveExternalEntities ::
          AccessList.all.map fun a => (Setting.access a).propertyName) := by
    split
    · exact hlists.cons_cons _
    · exact List.nil_sublist _
  refine (hlimits.append hgated).nodup ?_
  decide

end Resolving

/-! ## Resolutions of several versions -/

/-- What a resolution gives while the file may change. -/
def resolved (d : Deployment) (process : Properties) (o : Overrides) (p : Policy) :
    Except ValueFault Resolution :=
  ((resolve (sources process) o p).run d).1

/-- What a resolution gives where the file always answers so. -/
def resolvedAgainst (file : String → Option String) (process : Properties) (o : Overrides)
    (p : Policy) : Except ValueFault Resolution :=
  (resolve (m := Id) (.answering file process.find?) o p).run

/-- What a file says of the names that is put together from the versions in force at their turns. -/
def spliced (v : FileVersion) (versions : List FileVersion) (names : List String)
    (name : String) : Option String :=
  (v.inForce versions (names.idxOf name + 1)).properties.find? name

theorem splices_spliced {names : List String} (h : names.Nodup) (v : FileVersion)
    (versions : List FileVersion) : Splices v versions names (spliced v versions names) := by
  intro i name hname
  obtain ⟨hi, rfl⟩ := List.getElem?_eq_some_iff.mp hname
  rw [spliced, h.idxOf_getElem]

/-- What is resolved while the file is replaced mixes the versions: each property is answered as the
version has it that is in force when its turn comes. It is what one version gives if that version
has the same answers. -/
theorem resolved_of_stands (hd : d.Stands v versions) (process : Properties) (o : Overrides)
    (p : Policy) :
    (∀ r, d.resolved process o p = .ok r →
      ((resolve (sources process) o p).run d).2.coming =
        (versions.drop (asked o p).length).map FileVersion.watched) ∧
      d.resolved process o p =
        resolvedAgainst (spliced v versions (asked o p)) process o p ∧
      ∀ w : FileVersion, (∀ i name, (asked o p)[i]? = some name →
          w.properties.find? name = (v.inForce versions (i + 1)).properties.find? name) →
        d.resolved process o p = resolvedAgainst w.properties.find? process o p := by
  have hresolved {answers : String → Option String}
      (h : Splices v versions (asked o p) answers) :=
    mirrors_resolve answers process o p v versions d hd h
  obtain ⟨hmixed, hstands⟩ := hresolved (splices_spliced (nodup_asked o p) v versions)
  refine ⟨?_, hmixed, fun w hw => (hresolved hw).1⟩
  intro r hr
  exact (hstands r (hmixed.symm.trans hr)).coming

namespace Torn

def old : FileVersion :=
  ⟨1, "jdk.xml.resolveExternalEntities=true\njavax.xml.accessExternalDTD=file"⟩

def new : FileVersion :=
  ⟨2, "jdk.xml.resolveExternalEntities=false\njavax.xml.accessExternalDTD=all"⟩

/-- The file is replaced once the switch has been looked up. -/
def schedule : List FileVersion := List.replicate 8 old ++ [new]

def deployment : Deployment where
  cache := .ofPath (some "xmlguard.properties")
  file := old.watched
  coming := schedule.map FileVersion.watched

theorem stands : deployment.Stands old schedule where
  path := Option.some_ne_none _
  known _ h := nomatch h
  file := rfl
  coming := rfl
  advancing := by
    have hsame : old.Succeeds old := .inl rfl
    have hlater : old.Succeeds new := .inr (by decide)
    simp [schedule, List.replicate, hsame, hlater]

/-- Whether external DTDs are loaded, and from where. -/
def summary (result : Except ValueFault Resolution) : Option (Bool × PropertyValue) :=
  result.toOption.map fun r =>
    (r.isEnabled .loadExternalDtd, (r.setting (.access .externalDtd)).value)

theorem resolved_torn :
    deployment.Stands old schedule ∧
      deployment.resolved .empty .none .initial =
        resolvedAgainst (spliced old schedule (asked .none .initial)) .empty .none .initial :=
  ⟨stands, (resolved_of_stands stands .empty .none .initial).2.1⟩

/-- With the old version DTDs are loaded from files only, with the new one not at all. A resolution
in between has them loaded from anywhere. -/
theorem not_forall_resolved_against :
    ¬ ∀ (v : FileVersion) (versions : List FileVersion) (d : Deployment), d.Stands v versions →
      ∀ (process : Properties) (o : Overrides) (p : Policy), ∃ w ∈ v :: versions,
        d.resolved process o p = resolvedAgainst w.properties.find? process o p := by
  intro h
  obtain ⟨w, hw, hsame⟩ := h old schedule deployment stands .empty .none .initial
  have hmixed : summary (deployment.resolved .empty .none .initial) = some (true, .text "all") := by
    decide +kernel
  have hold : summary (resolvedAgainst old.properties.find? .empty .none .initial) =
      some (true, .text "file") := by decide +kernel
  have hnew : summary (resolvedAgainst new.properties.find? .empty .none .initial) =
      some (false, .text "all") := by decide +kernel
  have hversion : w = old ∨ w = new := by
    simpa [schedule, List.replicate] using hw
  rw [hsame] at hmixed
  rcases hversion with rfl | rfl
  · exact absurd (hold.symm.trans hmixed) (by decide)
  · exact absurd (hnew.symm.trans hmixed) (by decide)

end Torn

end Deployment

end XmlBounds
