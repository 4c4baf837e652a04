import XmlBounds.Proofs.Check.Occurrences
import XmlBounds.Proofs.Check.Provenance

/-!
# The ban on DOCTYPE declarations

While DOCTYPE declarations are not allowed, the table of entities stays empty and no external
content is ever left out, so there is no way for a reference to be good, other than to a character
or a predefined entity. Of resources, a check then has nothing to do with any.
-/

namespace XmlBounds

/-- The references in a token that a check comes to. -/
def Markup.Token.references : Token → List Reference
  | .text content => XmlBounds.references content
  | .startTag tag | .emptyTag tag =>
      tag.attributes.attributes.flatMap fun a => XmlBounds.references a.value
  | .doctype _ | .endTag | .ignored => []

/-- The reference is to a predefined entity or to a character. -/
def Reference.IsBuiltIn (r : Reference) : Prop := ∃ name, r = .named name ∧ isBuiltIn name = true

/-- What is wrong with references, if no entity is declared. -/
def referenceFault? : List Reference → Option Markup.Fault
  | [] => none
  | .unterminated text :: _ => some (.unterminatedReference text)
  | .named name :: rest =>
      if isBuiltIn name then referenceFault? rest else some (.undeclaredEntity name)

theorem referenceFault?_eq_none_iff {refs : List Reference} :
    referenceFault? refs = none ↔ ∀ r ∈ refs, r.IsBuiltIn := by
  induction refs with
  | nil => simp [referenceFault?]
  | cons r rest ih =>
      cases r with
      | unterminated text => simp [referenceFault?, Reference.IsBuiltIn]
      | named name =>
          by_cases hname : isBuiltIn name = true <;>
            simp [referenceFault?, Reference.IsBuiltIn, hname, ih]

namespace Pass

/-- No entity is declared, and no external content was left out. -/
structure IsBare (p : Pass) : Prop where
  entities : p.table.entities = []
  skippedExternal : p.skippedExternal = false

/-- From one state to the other nothing was declared or expanded, nothing was counted or asked for,
and no external content was left out. -/
structure Untouched (p q : Pass) : Prop where
  table : q.table = p.table
  doctype : q.doctype = p.doctype
  expansions : q.expansions = p.expansions
  skippedExternal : q.skippedExternal = p.skippedExternal
  total : q.ledger.total = p.ledger.total
  journal : q.ledger.journal = p.ledger.journal

variable {p q r : Pass}

theorem Untouched.refl (p : Pass) : p.Untouched p := ⟨rfl, rfl, rfl, rfl, rfl, rfl⟩

theorem Untouched.trans (h : p.Untouched q) (h' : q.Untouched r) : p.Untouched r where
  table := h'.table.trans h.table
  doctype := h'.doctype.trans h.doctype
  expansions := h'.expansions.trans h.expansions
  skippedExternal := h'.skippedExternal.trans h.skippedExternal
  total := h'.total.trans h.total
  journal := h'.journal.trans h.journal

theorem IsBare.untouched (h : p.IsBare) (hq : p.Untouched q) : q.IsBare where
  entities := by rw [hq.table, h.entities]
  skippedExternal := hq.skippedExternal.trans h.skippedExternal

theorem isBare_start (ledger : Ledger) : (Pass.start ledger).IsBare := ⟨rfl, rfl⟩

end Pass

/-- From a bare state, all is left as it is that a DTD could change. -/
def banned : Contract Pass where
  success p q := p.IsBare → p.Untouched q
  failure p q := p.IsBare → p.Untouched q

instance : banned.Composes where
  refl p _ := .refl p
  trans h h' hp := (h hp).trans (h' (hp.untouched (h hp)))
  stop p _ := .refl p
  after h h' hp := (h hp).trans (h' (hp.untouched (h hp)))

namespace Checked

variable {ctx : CheckContext} {pass pass' : Pass}

/-- From a bare state, references are checked without regard to anything else. -/
theorem expandText_of_bare (ctx : CheckContext) (hpass : pass.IsBare) (text : String) :
    expandText ctx text pass =
      match referenceFault? (references text) with
      | none => .ok () pass
      | some fault => .error (.markup fault) pass := by
  have hnone (name : String) : pass.table.general? name = none := by
    rw [Dtd.EntityTable.general?, Dtd.EntityTable.find?, hpass.entities]
    rfl
  have hundeclared (name : String) :
      undeclared name pass = .error (.markup (.undeclaredEntity name)) pass := by
    rw [undeclared_apply, hpass.skippedExternal]
    rfl
  have hall (refs : List Reference) : expandAll ctx pass.table [] refs pass =
      match referenceFault? refs with
      | none => .ok () pass
      | some fault => .error (.markup fault) pass := by
    induction refs with
    | nil =>
        rw [expandAll]
        rfl
    | cons r rest ih =>
        cases r with
        | unterminated text =>
            rw [expandAll]
            rfl
        | named name =>
            rw [expandAll_named, expandReference, hnone, referenceFault?]
            by_cases hname : isBuiltIn name = true
            · rw [if_pos hname, if_pos hname]
              exact ih
            · rw [if_neg hname, if_neg hname]
              exact bind_of_error (hundeclared name)
  exact hall (references text)

theorem banned_modify {f : Pass → Pass} (hf : ∀ p : Pass, p.Untouched (f p)) :
    banned.Holds (modify f : Checked PUnit) :=
  Contract.holds_modify fun p _ => hf p

theorem banned_raise {α : Type} (d : Diagnostic) : banned.Holds (raise ctx d : Checked α) where
  of_ok h := absurd h not_ok_raise
  of_error h _ := by
    rw [raise_apply] at h
    cases h
    exact ⟨rfl, rfl, rfl, rfl, rfl, rfl⟩

theorem banned_raiseIf (found : Option Diagnostic) : banned.Holds (raiseIf ctx found) := by
  cases found with
  | none => exact Contract.holds_pure ()
  | some d => exact banned_raise d

theorem banned_expandText (text : String) : banned.Holds (expandText ctx text) where
  of_ok h hpass := by
    rw [expandText_of_bare ctx hpass] at h
    split at h <;> cases h
    exact .refl _
  of_error h hpass := by
    rw [expandText_of_bare ctx hpass] at h
    split at h <;> cases h
    exact .refl _

theorem banned_expandValues (attributes : List Markup.Attribute) :
    banned.Holds (expandValues ctx attributes) := by
  induction attributes with
  | nil => exact Contract.holds_pure ()
  | cons a rest ih => exact (banned_expandText a.value).bind fun _ => ih

theorem banned_checkOccurs (name : String) (attributes : List Markup.Attribute) :
    banned.Holds (checkOccurs ctx name attributes) := by
  unfold checkOccurs
  split
  · exact Contract.holds_pure ()
  · refine Contract.holds_get.bind fun pass => ?_
    split
    · exact banned_raiseIf _
    · exact Contract.holds_pure ()

theorem banned_countElement (name : String) (depth : Nat) :
    banned.Holds (countElement ctx name depth) :=
  Contract.Holds.bind (banned_modify fun _ => ⟨rfl, rfl, rfl, rfl, rfl, rfl⟩) fun _ =>
    banned_raiseIf _

theorem banned_startElement (tag : Markup.Tag) (depth : Nat) :
    banned.Holds (startElement ctx tag depth) :=
  (banned_countElement _ _).bind fun _ =>
    (banned_expandValues _).bind fun _ =>
    (Contract.holds_refuse _ _).bind fun _ =>
    (banned_raiseIf _).bind fun _ =>
    Contract.Holds.bind (banned_modify fun _ => ⟨rfl, rfl, rfl, rfl, rfl, rfl⟩) fun _ =>
      banned_checkOccurs _ _

theorem banned_closeScope : banned.Holds closeScope :=
  banned_modify fun _ => ⟨rfl, rfl, rfl, rfl, rfl, rfl⟩

theorem checkDoctype_of_ban (hban : ctx.isEnabled .disallowDoctype = true) (content : String) :
    checkDoctype ctx content = raise ctx (.fatal .doctypeNotAllowed []) :=
  if_pos hban

theorem banned_checkToken (hban : ctx.isEnabled .disallowDoctype = true) (t : Markup.Token) :
    banned.Holds (checkToken ctx t) := by
  cases t with
  | text content => exact banned_expandText content
  | doctype content =>
      have hraise : banned.Holds (raise ctx (.fatal .doctypeNotAllowed []) : Checked Unit) :=
        banned_raise _
      rwa [← checkDoctype_of_ban hban content] at hraise
  | startTag tag =>
      exact Contract.Holds.bind (banned_modify fun _ => ⟨rfl, rfl, rfl, rfl, rfl, rfl⟩) fun _ =>
        Contract.holds_get.bind fun _ => banned_startElement _ _
  | emptyTag tag =>
      exact Contract.holds_get.bind fun _ => (banned_startElement _ _).bind fun _ =>
        banned_closeScope
  | endTag =>
      exact Contract.Holds.bind (banned_modify fun _ => ⟨rfl, rfl, rfl, rfl, rfl, rfl⟩) fun _ =>
        banned_closeScope
  | ignored => exact Contract.holds_pure ()

theorem banned_checkTokens (hban : ctx.isEnabled .disallowDoctype = true)
    (tokens : List Markup.Token) : banned.Holds (checkTokens ctx tokens) := by
  induction tokens with
  | nil => exact Contract.holds_pure ()
  | cons t rest ih => exact (banned_checkToken hban t).bind fun _ => ih

theorem banned_checkDocument (hban : ctx.isEnabled .disallowDoctype = true)
    (document : Markup.Document) : banned.Holds (checkDocument ctx document) := by
  refine (banned_checkTokens hban _).bind fun _ => ?_
  split
  · exact Contract.holds_pure ()
  · exact Contract.holds_throw _

/-! ## What goes through -/

theorem builtIn_of_expandText (hpass : pass.IsBare) {text : String}
    (h : expandText ctx text pass = .ok () pass') : ∀ r ∈ references text, r.IsBuiltIn := by
  rw [expandText_of_bare ctx hpass] at h
  rw [← referenceFault?_eq_none_iff]
  cases hfault : referenceFault? (references text) with
  | none => rfl
  | some fault =>
      rw [hfault] at h
      cases h

theorem builtIn_of_expandValues (hpass : pass.IsBare) {attributes : List Markup.Attribute}
    (h : expandValues ctx attributes pass = .ok () pass') :
    ∀ r ∈ attributes.flatMap fun a => references a.value, r.IsBuiltIn := by
  induction attributes generalizing pass with
  | nil => simp
  | cons a rest ih =>
      obtain ⟨_, mid, hvalue, hrest⟩ := ok_of_bind h
      have hmid : mid.IsBare := hpass.untouched ((banned_expandText _).of_ok hvalue hpass)
      intro r hr
      rw [List.flatMap_cons, List.mem_append] at hr
      rcases hr with hr | hr
      · exact builtIn_of_expandText hpass hvalue r hr
      · exact ih hmid hrest r hr

theorem builtIn_of_startElement (hpass : pass.IsBare) {tag : Markup.Tag} {depth : Nat}
    (h : startElement ctx tag depth pass = .ok () pass') :
    ∀ r ∈ tag.attributes.attributes.flatMap fun a => references a.value, r.IsBuiltIn := by
  obtain ⟨_, mid, hcount, hrest⟩ := ok_of_bind h
  obtain ⟨_, _, hvalues, _⟩ := ok_of_bind hrest
  exact builtIn_of_expandValues (hpass.untouched ((banned_countElement _ _).of_ok hcount hpass))
    hvalues

/-- A token that goes through is no DOCTYPE declaration, and its references are built in. -/
theorem of_checkToken_of_ban (hban : ctx.isEnabled .disallowDoctype = true) (hpass : pass.IsBare)
    {t : Markup.Token} (h : checkToken ctx t pass = .ok () pass') :
    (∀ content, t ≠ .doctype content) ∧ ∀ r ∈ t.references, r.IsBuiltIn := by
  refine ⟨?_, ?_⟩
  · rintro content rfl
    rw [checkToken, checkDoctype_of_ban hban] at h
    exact absurd h not_ok_raise
  cases t with
  | text content => exact builtIn_of_expandText hpass h
  | doctype content => simp [Markup.Token.references]
  | startTag tag =>
      obtain ⟨_, mid, hdepth, hrest⟩ := ok_of_bind h
      cases hdepth
      have hdeeper : Pass.IsBare { pass with depth := pass.depth + 1 } :=
        ⟨hpass.entities, hpass.skippedExternal⟩
      exact builtIn_of_startElement hdeeper hrest
  | emptyTag tag =>
      rw [checkToken, emptyElement, bind_get] at h
      obtain ⟨_, _, hstart, _⟩ := ok_of_bind h
      exact builtIn_of_startElement hpass hstart
  | endTag => simp [Markup.Token.references]
  | ignored => simp [Markup.Token.references]

theorem of_checkTokens_of_ban (hban : ctx.isEnabled .disallowDoctype = true) (hpass : pass.IsBare)
    {tokens : List Markup.Token} (h : checkTokens ctx tokens pass = .ok () pass') :
    ∀ t ∈ tokens, (∀ content, t ≠ .doctype content) ∧ ∀ r ∈ t.references, r.IsBuiltIn := by
  induction tokens generalizing pass with
  | nil => simp
  | cons t rest ih =>
      obtain ⟨_, mid, ht, hrest⟩ := ok_of_bind h
      have hmid : mid.IsBare := hpass.untouched ((banned_checkToken hban t).of_ok ht hpass)
      intro t' ht'
      rcases List.mem_cons.mp ht' with rfl | ht'
      · exact of_checkToken_of_ban hban hpass ht
      · exact ih hmid hrest t' ht'

theorem of_checkDocument_of_ban (hban : ctx.isEnabled .disallowDoctype = true)
    (hpass : pass.IsBare) {document : Markup.Document}
    (h : checkDocument ctx document pass = .ok () pass') :
    ∀ t ∈ document.tokens, (∀ content, t ≠ .doctype content) ∧ ∀ r ∈ t.references, r.IsBuiltIn := by
  obtain ⟨_, _, htokens, _⟩ := ok_of_bind h
  exact of_checkTokens_of_ban hban hpass htokens

/-- A check that has come to a DOCTYPE declaration fails. -/
theorem checkDocument_of_ban (hban : ctx.isEnabled .disallowDoctype = true)
    {document : Markup.Document} {before rest : List Markup.Token} {content : String}
    (htokens : document.tokens = before ++ .doctype content :: rest)
    (hbefore : checkTokens ctx before pass = .ok () pass') :
    checkDocument ctx document pass =
      .error (ctx.reporter.verdict (.fatal .doctypeNotAllowed [])) { pass' with
        ledger := { pass'.ledger with
          reports := pass'.ledger.reports ++
            [⟨.fatal .doctypeNotAllowed [], ctx.reporter.records⟩] } } := by
  have hraise : checkToken ctx (.doctype content) = raise ctx (.fatal .doctypeNotAllowed []) :=
    checkDoctype_of_ban hban content
  rw [checkDocument, htokens, checkTokens_append, checkTokens, hraise]
  exact bind_of_error ((bind_of_ok hbefore).trans (bind_of_error (raise_apply _ _ _)))

theorem fails_of_doctype (hban : ctx.isEnabled .disallowDoctype = true) (hpass : pass.IsBare)
    {document : Markup.Document} {before rest : List Markup.Token} {content : String}
    (htokens : document.tokens = before ++ .doctype content :: rest) :
    ∃ fault, Machine.answer (checkDocument ctx document pass) = .error fault := by
  cases hresult : checkDocument ctx document pass with
  | ok done pass' =>
      have hmem : .doctype content ∈ document.tokens := by simp [htokens]
      exact absurd rfl ((of_checkDocument_of_ban hban hpass hresult _ hmem).1 content)
  | error fault pass' => exact ⟨fault, rfl⟩

/-! ## Resources do not matter -/

section Resources

variable (resolver : Option EntityResolver) (files : Files)

theorem bind_congr_of_ok {α β : Type} {x y : Checked α} {f g : α → Checked β} (hx : x pass = y pass)
    (hf : ∀ a mid, y pass = .ok a mid → f a mid = g a mid) : (x >>= f) pass = (y >>= g) pass := by
  simp only [Bind.bind, EStateM.bind, hx]
  cases h : y pass with
  | error fault mid => rfl
  | ok a mid => exact hf a mid h

theorem expandText_resources (hpass : pass.IsBare) (text : String) :
    expandText { ctx with resolver, files } text pass = expandText ctx text pass := by
  rw [expandText_of_bare _ hpass, expandText_of_bare _ hpass]

theorem expandValues_resources (hpass : pass.IsBare) (attributes : List Markup.Attribute) :
    expandValues { ctx with resolver, files } attributes pass =
      expandValues ctx attributes pass := by
  induction attributes generalizing pass with
  | nil => rfl
  | cons a rest ih =>
      refine bind_congr_of_ok (expandText_resources resolver files hpass _) fun _ mid hmid => ih ?_
      exact hpass.untouched ((banned_expandText _).of_ok hmid hpass)

theorem startElement_resources (hpass : pass.IsBare) (tag : Markup.Tag) (depth : Nat) :
    startElement { ctx with resolver, files } tag depth pass = startElement ctx tag depth pass := by
  refine bind_congr_of_ok rfl fun _ mid hmid => ?_
  have hmid : mid.IsBare := hpass.untouched ((banned_countElement _ _).of_ok hmid hpass)
  exact bind_congr_of_ok (expandValues_resources resolver files hmid _) fun _ _ _ => rfl

theorem checkToken_resources (hban : ctx.isEnabled .disallowDoctype = true) (hpass : pass.IsBare)
    (t : Markup.Token) :
    checkToken { ctx with resolver, files } t pass = checkToken ctx t pass := by
  cases t with
  | text content => exact expandText_resources resolver files hpass content
  | doctype content =>
      have haway : checkDoctype { ctx with resolver, files } content =
          raise { ctx with resolver, files } (.fatal .doctypeNotAllowed []) := if_pos hban
      exact (congrFun haway pass).trans (congrFun (checkDoctype_of_ban hban content) pass).symm
  | startTag tag =>
      have hdeeper : Pass.IsBare { pass with depth := pass.depth + 1 } :=
        ⟨hpass.entities, hpass.skippedExternal⟩
      exact startElement_resources resolver files hdeeper tag _
  | emptyTag tag =>
      refine bind_congr_of_ok rfl fun _ mid hget => ?_
      cases hget
      exact bind_congr_of_ok (startElement_resources resolver files hpass tag _) fun _ _ _ => rfl
  | endTag => rfl
  | ignored => rfl

theorem checkTokens_resources (hban : ctx.isEnabled .disallowDoctype = true) (hpass : pass.IsBare)
    (tokens : List Markup.Token) :
    checkTokens { ctx with resolver, files } tokens pass = checkTokens ctx tokens pass := by
  induction tokens generalizing pass with
  | nil => rfl
  | cons t rest ih =>
      refine bind_congr_of_ok (checkToken_resources resolver files hban hpass t)
        fun _ mid hmid => ih ?_
      exact hpass.untouched ((banned_checkToken hban t).of_ok hmid hpass)

/-- With another resolver and other files a check comes to the same. -/
theorem checkDocument_resources (hban : ctx.isEnabled .disallowDoctype = true)
    (hpass : pass.IsBare) (document : Markup.Document) :
    checkDocument { ctx with resolver, files } document pass = checkDocument ctx document pass :=
  bind_congr_of_ok (checkTokens_resources resolver files hban hpass _) fun _ _ _ => rfl

end Resources

end Checked

theorem banned.untouched {x : Checked Unit} (h : banned.Holds x) {pass : Pass}
    (hpass : pass.IsBare) :
    pass.Untouched (Machine.passOf (x pass)) := by
  cases hx : x pass with
  | ok done pass' => exact h.of_ok hx hpass
  | error fault pass' => exact h.of_error hx hpass

theorem Machine.ok_of_answer {result : EStateM.Result Fault Pass Unit} {report : CheckReport}
    (h : answer result = .ok report) : ∃ pass, result = .ok () pass ∧ report = pass.report := by
  cases result with
  | ok done pass =>
      cases h
      exact ⟨pass, rfl, rfl⟩
  | error fault pass => cases h

/-- A report of a pass in which nothing came of a DTD. -/
structure CheckReport.IsPlain (report : CheckReport) : Prop where
  doctype : report.doctype = none
  entitiesDeclared : report.entitiesDeclared = 0
  expansions : report.expansions = 0
  entityText : report.entityText = 0
  skippedExternal : report.skippedExternal = false

theorem Pass.Untouched.isPlain {ledger : Ledger} {pass : Pass}
    (h : (Pass.start ledger).Untouched pass) (hledger : ledger.total = 0) :
    pass.report.IsPlain where
  doctype := h.doctype
  entitiesDeclared := congrArg Dtd.EntityTable.size h.table
  expansions := h.expansions
  entityText := congrArg Counter.toNat (h.total.trans hledger)
  skippedExternal := h.skippedExternal

/-- While DOCTYPE declarations are not allowed, a check of any document declares, expands and
counts nothing and asks nobody for anything, however it ends, and another resolver and other files
make no difference to it. It fails if there is a DOCTYPE declaration, and where it comes to one it
fails with the verdict on that; and if it succeeds, all references are to characters and
predefined entities. -/
theorem DocumentReader.ban_of_checkText {r : DocumentReader}
    (hban : r.configuration.isEnabled .disallowDoctype = true) (files : Files) (text : String) :
    let ctx := r.context files
    let document := Markup.read text
    let start := Pass.start r.configuration.startParse.ledger
    let result := Checked.checkDocument ctx document start
    let answer := (checkText files text r).1
    answer = Machine.answer result ∧
    (checkText files text r).2.configuration.ledger = (Machine.passOf result).ledger ∧
    start.Untouched (Machine.passOf result) ∧
    (∀ resolver files',
      Checked.checkDocument { ctx with resolver, files := files' } document start = result) ∧
    (∀ before content rest, document.tokens = before ++ .doctype content :: rest →
      start.Untouched (Machine.passOf (Checked.checkTokens ctx before start)) ∧
      (∃ fault, answer = .error fault) ∧
      ∀ mid, Checked.checkTokens ctx before start = .ok () mid →
        answer = .error (r.configuration.reporter.verdict (.fatal .doctypeNotAllowed []))) ∧
    ∀ report, answer = .ok report → report.IsPlain ∧
      ∀ t ∈ document.tokens,
        (∀ content, t ≠ .doctype content) ∧ ∀ ref ∈ t.references, ref.IsBuiltIn := by
  intro ctx document start result answer
  have hon : ctx.isEnabled .disallowDoctype = true := hban
  have hstart : start.IsBare := Pass.isBare_start _
  have huntouched : start.Untouched (Machine.passOf result) :=
    banned.untouched (Checked.banned_checkDocument hon document) hstart
  obtain ⟨hanswer, hledger⟩ : answer = Machine.answer result ∧ _ := answer_of_checkText files text r
  refine ⟨hanswer, hledger, huntouched,
    fun resolver files' => Checked.checkDocument_resources resolver files' hon hstart document,
    ?_, ?_⟩
  · intro before content rest htokens
    refine ⟨banned.untouched (Checked.banned_checkTokens hon before) hstart, ?_, ?_⟩
    · obtain ⟨fault, hfault⟩ := Checked.fails_of_doctype hon hstart htokens
      exact ⟨fault, hanswer.trans hfault⟩
    · intro mid hmid
      have hfails := Checked.checkDocument_of_ban hon htokens hmid
      exact hanswer.trans (congrArg Machine.answer hfails)
  · intro report hreport
    obtain ⟨pass, hresult, rfl⟩ := Machine.ok_of_answer (hanswer.symm.trans hreport)
    have hplain : pass.report.IsPlain := by
      rw [hresult] at huntouched
      exact huntouched.isPlain rfl
    exact ⟨hplain, Checked.of_checkDocument_of_ban hon hstart hresult⟩

/-- A reader that allows no DOCTYPE declarations. -/
def DocumentReader.banning : DocumentReader := .plain (fun f => f = .disallowDoctype) none

/-- The entity that the document declares and refers to is not so much as looked at. -/
theorem DocumentReader.ban_of_banning :
    banning.configuration.isEnabled .disallowDoctype = true ∧
    ∃ r', checkText Plain.noFiles "<!DOCTYPE a [<!ENTITY x SYSTEM \"x.ent\">]><a>&x;</a>" banning =
        (.error (.fatal (.fatal .doctypeNotAllowed [])), r') ∧
      r'.configuration.ledger.total = 0 ∧ r'.configuration.ledger.journal = [] := by
  have hban : banning.configuration.isEnabled .disallowDoctype = true := rfl
  obtain ⟨_, hledger, huntouched, _, hdoctype, _⟩ := ban_of_checkText hban Plain.noFiles
    "<!DOCTYPE a [<!ENTITY x SYSTEM \"x.ent\">]><a>&x;</a>"
  have htokens : (Markup.read "<!DOCTYPE a [<!ENTITY x SYSTEM \"x.ent\">]><a>&x;</a>").tokens =
      [] ++ .doctype "a [<!ENTITY x SYSTEM \"x.ent\">]" ::
        [.startTag ⟨"a", []⟩, .text "&x;", .endTag] := by decide +kernel
  have hanswer := (hdoctype _ _ _ htokens).2.2 _ rfl
  refine ⟨hban, _, Prod.ext hanswer rfl, ?_, ?_⟩
  · exact (congrArg Ledger.total hledger).trans huntouched.total
  · exact (congrArg Ledger.journal hledger).trans huntouched.journal

end XmlBounds
