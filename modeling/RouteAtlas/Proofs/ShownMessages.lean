import RouteAtlas.Proofs.BuildSteps
import RouteAtlas.Proofs.Transcripts

/-!
Which messages can be shown. Where colours are off, all of them; elsewhere what stands in brackets
in the text of a message is taken for a tag, and tags that cannot be read keep it from being shown.
-/

namespace RouteAtlas

variable {host : Host} {w : String}

/-- What should be an expression and is none keeps a handler from being read. -/
theorem Handler.fault?_of_problem {said part problem : String}
    (hpart : expression (Text.trim said) = part) (h : problem? part = some problem) :
    fault? host said = some (.noExpression part said problem) := by
  unfold fault?
  simp only [hpart, h, Option.some_or]

namespace Markup

variable {cs pending chars body : List Char} {n : Nat} {s : String} {d : Reading}
  {spans : List Span} {t : OpenTag} {stack ts : List OpenTag}

theorem tag?_of_not_mem (h : '[' ∉ cs) : tag? cs = none := by
  unfold tag?
  split
  next => simp at h
  next => rfl

theorem scan_of_not_mem (h : '[' ∉ cs) : scan n 0 pending cs = flush (cs.reverse ++ pending) := by
  induction cs generalizing n pending with
  | nil => rfl
  | cons c cs ih =>
    have hdrop : tag? ((c :: cs).drop ((c :: cs).takeWhile (· = '\\')).length) = none :=
      tag?_of_not_mem fun hmem => h (List.mem_of_mem_drop hmem)
    rw [scan, if_neg (Nat.lt_irrefl 0), List.reverse_cons, List.append_assoc]
    simp only [hdrop]
    exact ih fun hmem => h (List.mem_cons_of_mem c hmem)

/-- Text without a bracket has no tags to go wrong. -/
theorem exists_ofMarkup_of_not_mem (h : '[' ∉ s.toList) : ∃ x, Marked.ofMarkup host s = .ok x := by
  rw [Marked.ofMarkup, tokens, scan_of_not_mem h, flush]
  split
  next => exact ⟨_, rfl⟩
  next => exact ⟨_, rfl⟩

/-- Text leaves the tags as they are. -/
theorem exists_of_token_text (h : Reading.token host ⟨chars, spans, stack⟩ (.text cs) = .ok d) :
    ∃ chars, d = ⟨chars, spans, stack⟩ := by
  cases h
  exact ⟨_, rfl⟩

/-- A tag opens under the normal form of its name. -/
theorem token_of_open (w : String) (value : Option String)
    (hbody : (match Text.cut '=' (String.ofList body) with
      | some (w, v) => (w, some v)
      | none => (String.ofList body, none)) = (w, value))
    (hopen : Text.dropStart? "/" w = none) :
    Reading.token host ⟨chars, spans, stack⟩ (.tag body n) =
      (normalName w).map fun name => ⟨chars, spans, ⟨chars.length, name, value⟩ :: stack⟩ := by
  rw [Reading.token, Reading.tag]
  cases hcut : Text.cut '=' (String.ofList body) with
  | none =>
    rw [hcut] at hbody
    cases hbody
    simp only [hopen]
    cases normalName (String.ofList body) <;> rfl
  | some parts =>
    rw [hcut] at hbody
    cases hbody
    simp only [hopen]
    cases normalName parts.1 <;> rfl

/-- A closing tag with a name closes the innermost tag that is open under that name. -/
theorem token_of_close (word : String) {name : String}
    (hcut : Text.cut '=' (String.ofList body) = none)
    (hclose : Text.dropStart? "/" (String.ofList body) = some word) (hword : Text.trim word ≠ "")
    (hname : normalName (Text.trim word) = .ok name) (hstack : close name stack = some (t, ts)) :
    Reading.token host ⟨chars, spans, stack⟩ (.tag body n) =
      (t.span host chars.length).map fun s => ⟨chars, s :: spans, ts⟩ := by
  rw [Reading.token, Reading.tag]
  simp only [hcut, hclose, if_neg hword, hname, bind, Except.bind, hstack]
  cases t.span host chars.length <;> rfl

/-- A closing tag without a name closes the innermost of all. -/
theorem token_of_closeLast (word : String) (hcut : Text.cut '=' (String.ofList body) = none)
    (hclose : Text.dropStart? "/" (String.ofList body) = some word) (hword : Text.trim word = "") :
    Reading.token host ⟨chars, spans, t :: ts⟩ (.tag body n) =
      (t.span host chars.length).map fun s => ⟨chars, s :: spans, ts⟩ := by
  rw [Reading.token, Reading.tag]
  simp only [hcut, hclose, if_pos hword]
  cases t.span host chars.length <;> rfl

end Markup

namespace Style

theorem ofText_of_words (hwords : Text.words w = [w]) (hw : w ≠ "none") :
    ofText w = readWords plain [w] := by
  unfold ofText
  rw [hwords]
  split
  next heq => cases heq
  next heq => exact absurd (List.cons.inj heq).1 hw
  next => rfl

theorem readWords_singleton (h : Emphasis.ofWord? (Text.lower w) = none) : readWords plain [w] =
    (Colour.ofWord (Text.lower w)).map fun x => ⟨[], some x, none⟩ := by
  rw [readWords]
  · simp only [h]
    cases Colour.ofWord (Text.lower w) <;> rfl
  · intro c r _ hr
    cases hr
  · intro e r _ hr
    cases hr

/-- A small word that stands for nothing, or for a colour, is its own normal form. -/
theorem normalName_of_word (hwords : Text.words w = [w]) (hlower : Text.lower w = w)
    (htrim : Text.trim w = w) (hw : w ≠ "none") (h : Emphasis.ofWord? w = none)
    (hcolour : Colour.ofWord w = .error .meaningless ∨ ∃ x, Colour.ofWord w = .ok ⟨w, x⟩) :
    normalName w = .ok w := by
  rw [normalName, ofText_of_words hwords hw, readWords_singleton (hlower.symm ▸ h), hlower]
  rcases hcolour with hcolour | ⟨x, hcolour⟩
  · simp only [hcolour, Except.map, htrim, hlower]
  · have htext : text ⟨[], some ⟨w, x⟩, none⟩ = Text.join " " [w] := rfl
    simp only [hcolour, Except.map, htext]
    simp [Text.join]

/-- Whether a colour has this name need not be looked up. -/
theorem normalName_click : normalName "@click" = .ok "@click" := by
  have hlower : Text.lower "@click" = "@click" := by decide
  refine normalName_of_word (by decide) hlower (by decide) (by decide) (by decide) ?_
  unfold Colour.ofWord
  simp only [hlower, if_neg (by decide : ("@click" : String) ≠ "default")]
  cases Colour.names.lookup "@click" with
  | some n => exact .inr ⟨_, rfl⟩
  | none => exact .inl rfl

end Style

namespace Markup

/-- The tokens of an error whose text asks for a call on a click and leaves that without an end. -/
def clickTokens (before middle after : List Char) (first last : Nat) : List Token := [
  .tag "bold red".toList 0, .text "Error:".toList, .tag "/bold red".toList 16, .text before,
  .tag "@click=foo(".toList first, .text middle, .tag ['/'] last, .text after]

theorem span_click (start stop : Nat) : OpenTag.span host ⟨start, "@click", some "foo("⟩ stop =
    .error (.badHandler (.noExpression "foo(" "foo(" "'(' was never closed")) := by
  have hat : Text.startsWith "@" "@click" = true := by decide
  have hvalue : (some "foo(").filter (· ≠ "") = some "foo(" := rfl
  have hfault : Handler.fault? host "foo(" =
      some (.noExpression "foo(" "foo(" "'(' was never closed") :=
    Handler.fault?_of_problem (by decide +kernel) (by decide +kernel)
  rw [OpenTag.span]
  simp only [hat, hvalue, Option.bind_some, hfault]
  rfl

/-- The title opens and closes, in whatever style. What a click does is read only where its tag is
closed. -/
theorem foldlM_clickTokens (before middle after : List Char) (first last : Nat) (d : Reading) :
    (clickTokens before middle after first last).foldlM (Reading.token host) ⟨[], [], []⟩ ≠
      .ok d := by
  intro h
  obtain ⟨d₀, h₀, h⟩ := exists_of_foldlM_cons h
  rw [token_of_open "bold red" none (by decide) (by decide)] at h₀
  obtain ⟨name, hname, rfl⟩ := exists_of_map_ok h₀
  obtain ⟨d₁, h₁, h⟩ := exists_of_foldlM_cons h
  obtain ⟨chars₁, rfl⟩ := exists_of_token_text h₁
  obtain ⟨d₂, h₂, h⟩ := exists_of_foldlM_cons h
  have hstack (start : Nat) : close name [⟨start, name, none⟩] =
      some (⟨start, name, none⟩, []) := if_pos rfl
  have htrim : Text.trim "bold red" = "bold red" := by decide
  rw [token_of_close "bold red" (by decide) (by decide) (by decide)
    (htrim.symm ▸ hname) (hstack _)] at h₂
  obtain ⟨s, -, rfl⟩ := exists_of_map_ok h₂
  obtain ⟨d₃, h₃, h⟩ := exists_of_foldlM_cons h
  obtain ⟨chars₃, rfl⟩ := exists_of_token_text h₃
  obtain ⟨d₄, h₄, h⟩ := exists_of_foldlM_cons h
  rw [token_of_open "@click" (some "foo(") (by decide) (by decide), normalName,
    Style.normalName_click] at h₄
  obtain ⟨_, hclick, rfl⟩ := exists_of_map_ok h₄
  cases hclick
  obtain ⟨d₅, h₅, h⟩ := exists_of_foldlM_cons h
  obtain ⟨chars₅, rfl⟩ := exists_of_token_text h₅
  obtain ⟨d₆, h₆, -⟩ := exists_of_foldlM_cons h
  rw [token_of_closeLast "" (by decide) (by decide) (by decide), span_click] at h₆
  cases h₆

end Markup

namespace Console

variable {c : Console} {m : Message} {es : List Effect}

/-- A message that nobody sees can always be shown, and so can all where colours are off. -/
theorem shows_iff : c.Shows m ↔
    c.isMuted m.kind = true ∨ c.colourless = true ∨
      ∃ x, Marked.ofMarkup c.host m.markup = .ok x := by
  unfold Shows messageText
  split
  next h => exact iff_of_true ⟨_, rfl⟩ (.inl h)
  next hmuted =>
    split
    next h => exact iff_of_true ⟨_, rfl⟩ (.inr (.inl h))
    next hcolour =>
      rw [or_iff_right hmuted, or_iff_right hcolour]
      cases Marked.ofMarkup c.host m.markup with
      | error f => exact iff_of_false nofun nofun
      | ok x =>
        refine iff_of_true ?_ ⟨x, rfl⟩
        show ∃ s, (if c.width = 0 then _ else _) = Except.ok s
        split
        next => exact ⟨_, rfl⟩
        next => exact ⟨_, rfl⟩

theorem shows_of_colourless (h : c.colourless = true) (m : Message) : c.Shows m :=
  shows_iff.mpr (.inr (.inl h))

theorem shows_info_of_not_mem {text : String} (h : '[' ∉ text.toList) : c.Shows ⟨.info, text⟩ :=
  shows_iff.mpr (.inr (.inr (Markup.exists_ofMarkup_of_not_mem h)))

/-- Asides are only for those who want to hear of everything. -/
theorem showsAll_of_isAside (hv : c.verbose = false) (h : ∀ e ∈ es, e.isAside = true) :
    c.ShowsAll es := by
  intro m hm
  have hkind : m.kind = .debug := of_decide_eq_true (h _ hm)
  refine shows_iff.mpr (.inl ?_)
  rw [hkind, isMuted, hv]
  rfl

theorem not_shows_click (before middle after : List Char) (first last : Nat)
    (herror : m.kind = .error) (hcolour : c.colourless = false)
    (h : Markup.tokens m.markup = Markup.clickTokens before middle after first last) :
    ¬c.Shows m := by
  intro hshows
  rcases shows_iff.mp hshows with hmuted | hnone | ⟨x, hx⟩
  · rw [herror] at hmuted
    cases hmuted
  · cases hcolour.symm.trans hnone
  · rw [Marked.ofMarkup, h] at hx
    obtain ⟨d, hd, -⟩ := exists_of_bind_ok hx
    exact Markup.foldlM_clickTokens before middle after first last d hd

end Console

end RouteAtlas
