import XmlBounds.Proofs.Dtd.Recognition
import XmlBounds.Proofs.Text.Trimming

/-!
# Characters in literals only

Whether the characters of a class stand in literals only can be seen by going through the text with
the quote that is open. So it does not depend on blanks, and can be told of a body from what is kept
of it.
-/

namespace XmlBounds.Dtd

section Quoting

variable {p : Char → Prop} {s t : List Char}

theorem QuotesAll.append (hs : QuotesAll p s) (ht : QuotesAll p t) : QuotesAll p (s ++ t) := by
  induction hs with
  | nil => exact ht
  | plain hquote hc _ ih => exact .plain hquote hc ih
  | literal hliteral _ ih =>
      rw [List.append_assoc]
      exact .literal hliteral ih

theorem QuotesAll.of_plain (h : ∀ c ∈ s, Scan.isQuote c = false ∧ ¬ p c) : QuotesAll p s := by
  induction s with
  | nil => exact .nil
  | cons c s ih =>
      obtain ⟨hquote, hc⟩ := h c List.mem_cons_self
      exact .plain hquote hc (ih fun d hd => h d (List.mem_cons_of_mem c hd))

theorem WritesLiteral.quotesAll {text : String} (h : WritesLiteral text s) : QuotesAll p s := by
  have hall := QuotesAll.literal (p := p) h .nil
  rwa [List.append_nil] at hall

/-- What is left of such a text, where a literal may be open in front. -/
def QuotesAllFrom (p : Char → Prop) : Option Char → List Char → Prop
  | none, [] => True
  | some _, [] => False
  | none, c :: s =>
      if Scan.isQuote c = true then QuotesAllFrom p (some c) s else ¬ p c ∧ QuotesAllFrom p none s
  | some quote, c :: s => QuotesAllFrom p (if c = quote then none else some quote) s

theorem quotesAllFrom_literal {quote : Char} {text : List Char} (h : quote ∉ text) :
    QuotesAllFrom p (some quote) (text ++ quote :: s) ↔ QuotesAllFrom p none s := by
  induction text with
  | nil => simp [QuotesAllFrom]
  | cons c text ih =>
      have hc : c ≠ quote := fun heq => h (heq ▸ List.mem_cons_self)
      have hlater : quote ∉ text := fun hmem => h (List.mem_cons_of_mem c hmem)
      rw [List.cons_append, QuotesAllFrom, if_neg hc, ih hlater]

theorem QuotesAll.quotesAllFrom (h : QuotesAll p s) : QuotesAllFrom p none s := by
  induction h with
  | nil => trivial
  | plain hquote hc _ ih =>
      rw [QuotesAllFrom, if_neg (by simp [hquote])]
      exact ⟨hc, ih⟩
  | literal hliteral _ ih =>
      cases hliteral with
      | mk hquote hnot =>
          rw [List.append_assoc, List.singleton_append, List.cons_append, QuotesAllFrom,
            if_pos hquote, quotesAllFrom_literal hnot]
          exact ih

/-- Where a literal is open, its end comes first. -/
theorem quotesAll_of_quotesAllFrom {state : Option Char} (h : QuotesAllFrom p state s) :
    (state = none → QuotesAll p s) ∧ ∀ quote, state = some quote →
      ∃ inside outside, s = inside ++ quote :: outside ∧ quote ∉ inside ∧ QuotesAll p outside := by
  fun_induction QuotesAllFrom p state s with
  | case1 => exact ⟨fun _ => .nil, fun _ => (nomatch ·)⟩
  | case2 => cases h
  | case3 c s hquote ih =>
      obtain ⟨inside, outside, rfl, hnot, houtside⟩ := (ih h).2 c rfl
      refine ⟨fun _ => ?_, fun _ => (nomatch ·)⟩
      have hliteral := QuotesAll.literal (Scan.writesLiteral_ofList hquote hnot) houtside
      rwa [List.append_assoc] at hliteral
  | case4 c s hquote ih =>
      exact ⟨fun _ => .plain (by simpa using hquote) h.1 ((ih h.2).1 rfl), fun _ => (nomatch ·)⟩
  | case5 quote c s ih =>
      refine ⟨(nomatch ·), ?_⟩
      rintro _ ⟨⟩
      by_cases hc : c = quote
      · rw [if_pos hc] at ih h
        exact ⟨[], s, by rw [hc]; rfl, by simp, (ih h).1 rfl⟩
      · rw [if_neg hc] at ih h
        obtain ⟨inside, outside, rfl, hnot, houtside⟩ := (ih h).2 quote rfl
        refine ⟨c :: inside, outside, rfl, ?_, houtside⟩
        rw [List.mem_cons, not_or]
        exact ⟨Ne.symm hc, hnot⟩

theorem quotesAll_iff : QuotesAll p s ↔ QuotesAllFrom p none s :=
  ⟨QuotesAll.quotesAllFrom, fun h => (quotesAll_of_quotesAllFrom h).1 rfl⟩

/-- A character that is no quote makes no difference, neither inside a literal nor outside. -/
theorem quotesAllFrom_insert {c : Char} (hquote : Scan.isQuote c = false) (hc : ¬ p c)
    (s t : List Char) {state : Option Char} (hstate : ∀ q ∈ state, Scan.isQuote q = true) :
    QuotesAllFrom p state (s ++ c :: t) ↔ QuotesAllFrom p state (s ++ t) := by
  induction s generalizing state with
  | nil =>
      cases state with
      | none => simp [QuotesAllFrom, hquote, hc]
      | some q =>
          have hne : c ≠ q := by
            rintro rfl
            simp [hstate c rfl] at hquote
          simp [QuotesAllFrom, hne]
  | cons d s ih =>
      cases state with
      | none =>
          simp only [List.cons_append, QuotesAllFrom]
          split
          · next hd => exact ih (by simpa using hd)
          · rw [ih (by simp)]
      | some q =>
          simp only [List.cons_append, QuotesAllFrom]
          refine ih ?_
          split
          · simp
          · exact hstate

theorem quotesAll_insert {gap : List Char} (hgap : ∀ c ∈ gap, Scan.isQuote c = false ∧ ¬ p c)
    (s t : List Char) : QuotesAll p (s ++ (gap ++ t)) ↔ QuotesAll p (s ++ t) := by
  induction gap with
  | nil => rfl
  | cons c gap ih =>
      obtain ⟨hquote, hc⟩ := hgap c List.mem_cons_self
      rw [← ih fun d hd => hgap d (List.mem_cons_of_mem c hd)]
      simp only [quotesAll_iff]
      exact quotesAllFrom_insert hquote hc s (gap ++ t) (by simp)

end Quoting

/-! ## Bodies as they are kept -/

/-- The characters of a class are in literals only, if the event is an instruction. -/
def Event.QuotesInstruction (p : Char → Prop) : Event → Prop
  | .instruction target data => QuotesAll p (target.toList ++ ' ' :: data.toList)
  | _ => True

/-- An instruction is kept without the blanks around its data. -/
theorem WritesInstruction.quotesAll_iff {p : Char → Prop} {target data : String} {body : List Char}
    (h : WritesInstruction target data body)
    (hp : ∀ c, Text.isBlank c = true → Scan.isQuote c = false ∧ ¬ p c) :
    QuotesAll p body ↔ (Event.instruction target data).QuotesInstruction p := by
  have hspace : ∀ c ∈ [' '], Scan.isQuote c = false ∧ ¬ p c := by
    simpa using hp ' ' (by decide)
  rw [Event.QuotesInstruction]
  cases h with
  | bare =>
      have hbare := quotesAll_insert hspace body []
      simpa using hbare.symm
  | @withData target data blank _ hblank =>
      obtain ⟨front, back, hdata, hfront, hback⟩ := Text.exists_trim data
      have hgap : ∀ c ∈ blank :: front, Scan.isQuote c = false ∧ ¬ p c :=
        List.forall_mem_cons.mpr ⟨hp blank hblank, fun c hc => hp c (hfront c hc)⟩
      have hend : ∀ c ∈ back, Scan.isQuote c = false ∧ ¬ p c := fun c hc => hp c (hback c hc)
      calc QuotesAll p (target ++ blank :: data)
          ↔ QuotesAll p (target ++ ((blank :: front) ++ (Text.trim data ++ back))) := by
            rw [List.cons_append, ← hdata]
        _ ↔ QuotesAll p (target ++ (Text.trim data ++ back)) := quotesAll_insert hgap _ _
        _ ↔ QuotesAll p (target ++ Text.trim data) := by
            have hbare := quotesAll_insert hend (target ++ Text.trim data) []
            simpa using hbare
        _ ↔ QuotesAll p (target ++ ([' '] ++ Text.trim data)) :=
            (quotesAll_insert hspace _ _).symm
        _ ↔ _ := by simp

end XmlBounds.Dtd
