import ModuleBundler.Proofs.Productions.ExpressionSpans
import ModuleBundler.Proofs.Syntax.ImportExport

/-!
# Texts of modules

* `extent` : from the first of some tokens to the last;
* `ItemOutlined`, `Itemized` : an item and all items of a module are those of outlines in a row;
* `ModuleOutlined` : what was read of a module so far, which `moduleItem` adds to;
* `RecordOutlined`, `parseModule_outlined` : the record of a module is that of an outline of its
  text.
-/

namespace ModuleBundler

open Phrase

/-! ## Where a text stands -/

/-- From where the first token begins to where the last one ends. -/
def extent (tokens : List BufferedToken) : Span :=
  ⟨(tokens.head?.map fun b => b.token.span.start).getD 0,
    (tokens.getLast?.map fun b => b.token.span.stop).getD 0⟩

/-- What goes from one of some tokens to another lies within their extent. -/
theorem ReadFrom.within_extent {place : Cursor} {tokens : List BufferedToken}
    (h : ReadFrom place tokens) {b : BufferedToken} (hb : b ∈ tokens) :
    (extent tokens).start ≤ b.token.span.start ∧ b.token.span.stop ≤ (extent tokens).stop := by
  have hne : tokens ≠ [] := List.ne_nil_of_mem hb
  constructor
  · obtain ⟨first, rest, rfl⟩ := List.exists_cons_of_ne_nil hne
    change first.token.span.start ≤ b.token.span.start
    rcases List.mem_cons.mp hb with rfl | hrest
    · exact Nat.le_refl _
    · exact List.rel_of_pairwise_cons h.sorted hrest
  · obtain ⟨init, last, rfl⟩ : ∃ init last, tokens = init ++ [last] :=
      ⟨_, _, (List.dropLast_append_getLast hne).symm⟩
    have hstop : (extent (init ++ [last])).stop = last.token.span.stop := by
      unfold extent
      rw [List.getLast?_concat]
      rfl
    rw [hstop]
    obtain ⟨hinit, hlast⟩ := readFrom_append.mp h
    obtain ⟨start, hstart, hafter, hspan⟩ := hlast.start
    rcases List.mem_append.mp hb with hb | hb
    · rw [hspan]
      exact Nat.le_trans (hinit.between b hb).stop_le (hstart.trans hafter).offset_le
    · obtain rfl := List.mem_singleton.mp hb
      exact Nat.le_refl _

theorem ReadFrom.edge_within {place : Cursor} {tokens : List BufferedToken}
    (h : ReadFrom place tokens) {offset : Nat} (hedge : TokenEdge tokens offset) :
    (extent tokens).start ≤ offset ∧ offset ≤ (extent tokens).stop := by
  obtain ⟨b, hb, hoffset⟩ := hedge
  obtain ⟨hstart, hstop⟩ := h.within_extent hb
  have hle := h.start_le_stop hb
  rcases hoffset with rfl | rfl
  · exact ⟨hstart, Nat.le_trans hle hstop⟩
  · exact ⟨Nat.le_trans hstart hle, hstop⟩

/-! ## Items -/

/-- The item of a text, after the text of the items before it. -/
structure ItemOutlined (before o : Outline) (item : ModuleItem) : Prop where
  derives : Derives syntaxRules Phrase.moduleItem o
  /-- What has no name is declared at the edge of a token. -/
  placeholders : ∀ offset ∈ o.placeholders, TokenEdge o.tokens offset
  span : item.span = extent o.tokens
  head : item.kind.HeadOf item.span.start o
  hasSideEffects : item.hasSideEffects = o.isNoted
  declarations : item.declarations = ⟨(before.declarations moduleScope 1).length,
    ((before ++ o).declarations moduleScope 1).length⟩
  references : item.references = ⟨(before.references moduleScope 1).length,
    ((before ++ o).references moduleScope 1).length⟩

/-- Items of texts in a row. -/
inductive Itemized : Outline → List ModuleItem → Prop where
  | none : Itemized .nil []
  | more {before o : Outline} {items : List ModuleItem} {item : ModuleItem}
      (itemized : Itemized before items) (outlined : ItemOutlined before o item) :
      Itemized (before ++ o) (items ++ [item])

/-- An item in a row stands between those before and after it. -/
theorem Itemized.split {o : Outline} {items : List ModuleItem} (h : Itemized o items)
    {item : ModuleItem} (hitem : item ∈ items) :
    ∃ before own after, o = before ++ (own ++ after) ∧ ItemOutlined before own item := by
  induction h with
  | none => cases hitem
  | @more before o items last itemized outlined ih =>
    rcases List.mem_append.mp hitem with hitem | hitem
    · obtain ⟨before', own, after, rfl, hown⟩ := ih hitem
      refine ⟨before', own, after ++ o, ?_, hown⟩
      simp only [Outline.append_assoc]
    · obtain rfl := List.mem_singleton.mp hitem
      exact ⟨before, o, .nil, by rw [Outline.append_nil], outlined⟩

/-- No token of the items is the end of the text, or none at all. -/
theorem Itemized.isProper {o : Outline} {items : List ModuleItem} (h : Itemized o items) :
    ∀ b ∈ o.tokens, b.token.type.IsProper := by
  induction h with
  | none => exact fun _ hb => nomatch hb
  | more itemized outlined ih =>
    rw [Outline.tokens_append, List.forall_mem_append]
    exact ⟨ih, outlined.derives.all_tokens syntaxRules_isProper rfl⟩

theorem ItemOutlined.tokens_ne_nil {before o : Outline} {item : ModuleItem}
    (h : ItemOutlined before o item) : o.tokens ≠ [] :=
  h.derives.tokens_ne_nil syntaxRules_not_nullable rfl

/-! ## Modules -/

/-- What was read of a module so far. -/
structure ModuleOutlined (source : String) (s : ParserState) (o : Outline) : Prop where
  text : TextRead Context.module.setting o (.ofString source) { s with sideEffects := o.isNoted }
  items : Itemized o s.items.toList
  dynamicImports : ∀ d ∈ s.dynamicImports, ∃ item ∈ s.items,
    item.span.start ≤ d.span.start ∧ d.span.stop ≤ item.span.stop
  values : ∀ item ∈ s.items, item.kind.ValueRead s.tokens.behind

theorem moduleOutlined_ofString (source : String) :
    ModuleOutlined source (.ofString source) .nil where
  text := (Unread.refl ⟨TokenStream.chained_ofString source, fun _ h =>
    (List.not_mem_nil h).elim⟩).textRead _
  items := .none
  dynamicImports _ h := (Array.not_mem_empty _ h).elim
  values _ h := (Array.not_mem_empty _ h).elim

/-- What was done before makes no difference to a text. -/
theorem TextRead.withEffects {c : Setting} {o : Outline} {s s' : ParserState}
    (h : TextRead c o s s') (before : Bool) :
    TextRead c o { s with sideEffects := before }
      { s' with sideEffects := before || (!c.isDeferred && o.isNoted) } :=
  { h with
    steady := ⟨h.steady.chained, h.steady.ahead⟩
    sideEffects := rfl
    placed := fun hplaced => { h.placed { hplaced with } with } }

/-- A text begins at the next token and ends where the parser is. -/
theorem TextRead.extent_eq {c : Setting} {o : Outline} {s s' : ParserState} (h : TextRead c o s s')
    (hne : o.tokens ≠ []) {mode : LexMode} (hmode : mode ≠ .templateContinue) :
    extent o.tokens = ⟨(s.next mode).token.span.start, s'.tokens.lastEnd⟩ := by
  unfold extent
  congr 1
  · obtain ⟨first, rest, htokens⟩ := List.exists_cons_of_ne_nil hne
    have hfirst : o.tokens.head? = some first := by rw [htokens]; rfl
    rw [hfirst, Option.map_some, Option.getD_some, h.head_start hfirst, s.next_start hmode]
  · obtain ⟨init, last, htokens⟩ : ∃ init last, o.tokens = init ++ [last] :=
      ⟨_, _, (List.dropLast_append_getLast hne).symm⟩
    unfold TokenStream.lastEnd
    rw [h.behind, htokens, List.getLast?_concat, List.reverse_append]
    rfl

theorem ModuleOutlined.unread {source : String} {s s' : ParserState} {o : Outline}
    (h : ModuleOutlined source s o) (hunread : Unread s s') (hitems : s'.items = s.items) :
    ModuleOutlined source s' o where
  text := by
    have hafter := h.text.trans ((hunread.textRead Context.module.setting).withEffects o.isNoted)
    simpa [Outline.isNoted, Outline.effects] using hafter
  items := hitems ▸ h.items
  dynamicImports := by
    rw [hunread.dynamicImports, hitems]
    exact h.dynamicImports
  values := by
    rw [hunread.behind, hitems]
    exact h.values

/-- What was recorded of imports and exports stands where tokens do. -/
theorem ModuleOutlined.placed {source : String} {s : ParserState} {o : Outline}
    (h : ModuleOutlined source s o) : s.Placed := by
  have hplaced := h.text.placed {
    requests _ h := (Array.not_mem_empty _ h).elim
    imports _ h := (Array.not_mem_empty _ h).elim
    exports _ h := (Array.not_mem_empty _ h).elim
    dynamicImports _ h := (Array.not_mem_empty _ h).elim }
  exact { hplaced with }

theorem ModuleOutlined.steady {source : String} {s : ParserState} {o : Outline}
    (h : ModuleOutlined source s o) : s.Steady := ⟨h.text.steady.chained, h.text.steady.ahead⟩

/-- One more item was read. -/
theorem ModuleOutlined.push {source : String} {s s' : ParserState} {o o' : Outline}
    (h : ModuleOutlined source s o) {item : ModuleItem}
    (htext : TextRead Context.module.setting o' { s with sideEffects := false } s')
    (hitems : s'.items = s.items) (hitem : ItemOutlined o o' item)
    (hvalue : item.kind.ValueRead s'.tokens.behind) :
    ModuleOutlined source { s' with items := s'.items.push item } (o ++ o') where
  text := by
    have hall := h.text.trans (htext.withEffects o.isNoted)
    rw [Outline.isNoted_append]
    exact { hall with
      steady := ⟨hall.steady.chained, hall.steady.ahead⟩
      placed := fun hplaced => { hall.placed hplaced with } }
  items := by
    rw [Array.toList_push, hitems]
    exact .more h.items hitem
  dynamicImports d hd := by
    rcases htext.dynamicImports.mem_or hd with hbefore | hnew
    · obtain ⟨other, hother, hwithin⟩ := h.dynamicImports d hbefore
      exact ⟨other, Array.mem_push_of_mem _ (hitems ▸ hother), hwithin⟩
    · refine ⟨item, Array.mem_push_self, ?_⟩
      rw [hitem.span]
      exact ⟨(htext.chain.edge_within hnew.edges.1).1, (htext.chain.edge_within hnew.edges.2).2⟩
  values := by
    refine Array.forall_mem_push.mpr ⟨hvalue, fun other hother => ?_⟩
    refine (h.values other (hitems ▸ hother)).mono ?_
    change s.tokens.behind ⊆ s'.tokens.behind
    rw [htext.behind]
    exact List.subset_append_right _ _

/-- The numbers of declarations and references are those of the outline. -/
theorem TextRead.sizes {source : String} {c : Setting} {o : Outline} {s : ParserState}
    (h : TextRead c o (.ofString source) s) :
    s.declarations.size = (o.declarations c.scope 1).length ∧
      s.references.size = (o.references c.scope 1).length :=
  ⟨congrArg List.length h.declarations, congrArg List.length h.references⟩

/-- An item is what is read from its first token on, which was looked at before. -/
theorem ParserState.Steady.answers_moduleItem {g : Grammar} {ctx : Context} {s : ParserState} (hs : s.Steady)
    {Q : ParserState → Prop}
    (h : ∀ s₁, Unread s s₁ → s₁ = { s with tokens := s₁.tokens } →
      Answers { s₁ with sideEffects := false }
        (moduleItemBody g ctx (s.next .slashIsRegex).token) fun read s₂ =>
          Q { s₂ with items := s₂.items.push {
            span := ⟨(s.next .slashIsRegex).token.span.start, s₂.tokens.lastEnd⟩
            kind := read.1
            missingSemicolon := read.2
            hasSideEffects := s₂.sideEffects
            declarations := ⟨s.declarations.size, s₂.declarations.size⟩
            references := ⟨s.references.size, s₂.references.size⟩ } }) :
    Answers s (moduleItem g ctx) fun _ s' => Q s' := by
  have hpeek : Answers s (peekIn .slashIsRegex) fun _ s₁ => s₁ = { s with tokens := s₁.tokens } := by
    intro _ s₁ heq
    cases heq
    rfl
  refine Answers.bind ((hs.unread_peekIn (by decide)).and hpeek)
    fun first s₁ ⟨⟨hunread, hfirst⟩, hs₁⟩ => ?_
  subst hfirst
  refine answers_modify.bind fun _ s₂ hs₂ => ?_
  subst hs₂
  refine answers_declarationCount.bind fun _ _ ⟨hd, hs'⟩ => ?_
  subst hd hs'
  refine answers_referenceCount.bind fun _ _ ⟨hr, hs'⟩ => ?_
  subst hr hs'
  refine Answers.bind (h s₁ hunread hs₁) fun read s₃ h => ?_
  refine answers_modify.mono fun _ s₄ hs₄ => ?_
  subst hs₄
  dsimp only
  rw [hunread.declarations, hunread.references]
  exact h

/-- One more item is read. -/
theorem outlined_moduleItem {source : String} {s : ParserState} {o : Outline}
    (h : ModuleOutlined source s o) :
    Answers s (moduleItem moduleGrammar .module) fun _ s' => ∃ o', ModuleOutlined source s' o' := by
  have hmode : LexMode.slashIsRegex ≠ .templateContinue := by decide
  refine h.steady.answers_moduleItem fun s₁ hunread hs₁ => ?_
  have h := h.unread hunread (by rw [hs₁])
  rw [← hunread.next, ← hunread.declarations, ← hunread.references]
  have hsteady : ParserState.Steady { s₁ with sideEffects := false } :=
    ⟨h.steady.chained, h.steady.ahead⟩
  have hbody := fun first =>
    (itemParsed_moduleItemBody moduleGrammar_conforms .module first hsteady).and
      ((answers_moduleItemBody (Grammar.steps_ofDepth _) rfl first hsteady.chained).and
        (answers_moduleItemBody_value (Grammar.spanned_ofDepth _) .module first hsteady.chained))
  refine (hbody _).mono fun (kind, missing) s₃ ⟨hparsed, hbody, hvalue⟩ => ?_
  obtain ⟨o', hderives, htext, hplaceholders, hhead⟩ := hparsed
  have hne := hderives.tokens_ne_nil syntaxRules_not_nullable rfl
  have hall := h.text.trans (htext.withEffects o.isNoted)
  refine ⟨o ++ o', h.push htext hbody.step.items
    ⟨hderives, hplaceholders, ?_, ?_, ?_, ?_, ?_⟩ hvalue⟩
  · rw [htext.extent_eq hne hmode]
    rfl
  · rw [ParserState.next_start _ (by decide)] at hhead
    rw [ParserState.next_start _ hmode]
    exact hhead
  · exact htext.sideEffects
  · exact congrArg₂ IndexRange.mk h.text.sizes.1 hall.sizes.1
  · exact congrArg₂ IndexRange.mk h.text.sizes.2 hall.sizes.2

/-- The record of a module is that of an outline of its text. -/
structure RecordOutlined (source : String) (record : ModuleRecord) (o : Outline) : Prop where
  /-- The tokens are those of the text, one after the other. -/
  chain : ReadFrom (.ofString source) o.tokens
  tokenStarts : record.tokenStarts = o.tokens.map fun b => b.token.span.start
  scopes : record.scopes.scopes.toList = ⟨none, .module⟩ :: o.scopes moduleScope 1
  declarations : record.scopes.declarations.toList = o.declarations moduleScope 1
  references : record.scopes.references.toList = o.references moduleScope 1
  /-- All names are bound in the scopes. -/
  built : ScopeTree.build record.scopes.scopes record.scopes.declarations
    record.scopes.references = .ok record.scopes
  items : Itemized o record.items.toList
  dynamicImports : ∀ d ∈ record.dynamicImports, TokenEdges o.tokens d.request.span ∧
    ∃ item ∈ record.items, item.span.start ≤ d.span.start ∧ d.span.stop ≤ item.span.stop
  /-- Dynamic imports are recorded one after the other, and inside of each other. -/
  calls : CallsRecorded o.tokens #[] record.dynamicImports
  requests : ∀ request ∈ record.requests, TokenEdges o.tokens request.span
  imports : ∀ d ∈ record.imports, ∀ specifier ∈ d.specifiers, TokenEdges o.tokens specifier.span
  exports : ∀ e ∈ record.exports, TokenEdges o.tokens e.span
  values : ∀ item ∈ record.items, item.kind.ValueRead o.tokens

/-- After the end of a text nothing but its end is looked at. -/
theorem eof_of_readFrom {place : Cursor} {tokens : List BufferedToken}
    (h : ReadFrom place tokens) (hplace : place.rest = [])
    (hmodes : ∀ b ∈ tokens, b.mode ≠ .templateContinue) :
    ∀ b ∈ tokens, b.token.type = .eof := by
  induction tokens generalizing place with
  | nil => exact fun _ hb => nomatch hb
  | cons next rest ih =>
    obtain ⟨hmode, hmodes⟩ := List.forall_mem_cons.mp hmodes
    obtain ⟨heof, hafter⟩ := nextToken_of_rest_eq_nil (c := place) hmode hplace
    have hnext := h.1
    refine List.forall_mem_cons.mpr ⟨by rw [hnext]; exact heof, ih h.2 ?_ hmodes⟩
    rw [hnext]
    exact hafter

/-- The tokens of a text that was read to its end. -/
theorem ModuleOutlined.tokenStarts {source : String} {s s' : ParserState} {o : Outline}
    (h : ModuleOutlined source s o) (htaken : Taken (s.next .standard) s s')
    (heof : (s.next .standard).token.type = .eof) :
    s'.tokens.tokenStarts = o.tokens.map fun b => b.token.span.start := by
  have hbehind : s.tokens.behind = o.tokens.reverse := h.text.behind.trans (List.append_nil _)
  have hplace : s'.tokens.position.rest = [] := by
    have hrest : (s.place.tokenStartIn .standard).rest = [] := nextToken_eof heof
    obtain ⟨passed, hpassed, -⟩ := (nextToken_span .standard s.place).1
    rw [hrest] at hpassed
    unfold TokenStream.position
    rw [htaken.behind]
    exact (List.append_eq_nil_iff.mp hpassed.symm).2
  have hahead := eof_of_readFrom htaken.steady.chained.ahead hplace htaken.steady.ahead
  have hown : o.tokens.filter (fun b => b.token.type ≠ .eof) = o.tokens :=
    List.filter_eq_self.mpr fun b hb => decide_eq_true (h.items.isProper b hb).1
  have hnone : s'.tokens.ahead.filter (fun b => b.token.type ≠ .eof) = [] :=
    List.filter_eq_nil_iff.mpr fun b hb => by simp [hahead b hb]
  unfold TokenStream.tokenStarts
  rw [htaken.behind, List.reverse_cons, hbehind, List.reverse_reverse, List.filter_append,
    List.filter_append, hown, hnone, List.filter_cons_of_neg (by simp [heof]), List.filter_nil,
    List.append_nil, List.append_nil]

/-- A token that is asked for changes nothing but the tokens. -/
theorem answers_require_eq (s : ParserState) (type : TokenType) :
    Answers s (require type) fun _ s' => s' = { s with tokens := s'.tokens } := by
  have hconsume : Answers s (consumeIn .standard) fun _ s' =>
      s' = { s with tokens := s'.tokens } := by
    intro _ s' heq
    cases heq
    rfl
  exact hconsume.bind fun t _ h => answers_ite (fun _ => answers_pure h) fun _ => answers_fail t _

theorem outlined_moduleRest {source : String} {s : ParserState} {o : Outline}
    (h : ModuleOutlined source s o) :
    Answers s (moduleRest moduleGrammar .module) fun record _ =>
      ∃ o', RecordOutlined source record o' := by
  refine (@answers_loopWhile _ (fun s => ∃ o, ModuleOutlined source s o) (fun s ⟨o, h⟩ => ?_) s
    ⟨o, h⟩).bind fun _ s₁ ⟨o', h'⟩ => ?_
  · have hpeek := (h.steady.unread_peekIn (by decide)).and
      (answers_peekIn NoKind moduleScope .standard h.steady.chained)
    refine Answers.bind hpeek fun t s₁ ⟨⟨hunread, _⟩, hstep⟩ => ?_
    have hnext := h.unread hunread hstep.step.items
    refine answers_ite (fun _ => answers_pure ⟨o, hnext⟩) fun _ => ?_
    exact (outlined_moduleItem hnext).bind fun _ s₂ h => answers_pure h
  · have hend := (h'.steady.taken_requireIn (by decide) .eof).and (answers_require_eq s₁ .eof)
    refine Answers.bind hend fun t s₂ ⟨⟨ht, heof, htaken⟩, hs₂⟩ => ?_
    intro record s' heq
    obtain ⟨_, _, hget, heq⟩ := stateBind_eq_ok.mp heq
    cases hget
    obtain ⟨tree, hbuild, heq⟩ := bind_eq_ok.mp ((liftBind_run _ _ _).symm.trans heq)
    cases heq
    obtain ⟨hscopes, hdeclarations, hreferences⟩ := records_of_build hbuild
    have hsub : s₁.tokens.behind ⊆ o'.tokens := fun b hb => by
      rw [h'.text.behind] at hb
      exact (List.mem_append.mp hb).elim List.mem_reverse.mp fun h => nomatch h
    have htokenStarts := h'.tokenStarts htaken (ht ▸ heof)
    rw [hs₂] at hscopes hdeclarations hreferences hbuild
    rw [hs₂]
    exact ⟨o', {
      chain := h'.text.chain
      tokenStarts := htokenStarts
      scopes := hscopes ▸ h'.text.scopes
      declarations := hdeclarations ▸ h'.text.declarations
      references := hreferences ▸ h'.text.references
      built := by
        dsimp only
        rw [hscopes, hdeclarations, hreferences]
        exact hbuild
      items := h'.items
      dynamicImports := fun d hd =>
        ⟨(h'.placed.dynamicImports d hd).mono hsub, h'.dynamicImports d hd⟩
      calls := h'.text.dynamicImports
      requests := fun request hrequest => (h'.placed.requests request hrequest).mono hsub
      imports := fun d hd specifier hspecifier =>
        (h'.placed.imports d hd specifier hspecifier).mono hsub
      exports := fun e he => (h'.placed.exports e he).mono hsub
      values := fun item hitem => (h'.values item hitem).mono hsub }⟩

theorem parseModule_outlined {source : String} {record : ModuleRecord}
    (h : parseModule source = .ok record) : ∃ o, RecordOutlined source record o := by
  obtain ⟨⟨record, s'⟩, hrest, rfl⟩ := map_eq_ok.mp h
  exact outlined_moduleRest (moduleOutlined_ofString source) hrest

end ModuleBundler
