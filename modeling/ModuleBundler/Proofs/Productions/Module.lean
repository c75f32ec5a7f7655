import ModuleBundler.Grammar.Module
import ModuleBundler.Proofs.Productions.ImportExport

/-!
# What the grammar reads: modules

* `EntriesRead` : what is known of all that was recorded so far, which every step keeps;
* `ItemRead` : what is known of an item with the text and the record of its module;
* `ModuleRead` : what is known of all items read so far, which `moduleItem` keeps;
* `parseModule_read` : what is known of the record of a module text.
-/

namespace ModuleBundler

open Cursor (Leads)

variable {g : Grammar}

/-! ## The body of an item -/

/-- Looking ahead before an item is read makes no difference. -/
theorem BodyRead.after {scope : ScopeId} {s s₁ s' : ParserState} {kind : ItemKind}
    (h : BodyRead scope s₁ kind s') (hstep : Step NoKind scope s s₁) :
    BodyRead scope s kind s' where
  step := (hstep.weaken fun _ h => h.elim).trans h.step
  reads := hstep.readsOn h.step.later h.reads
  kind := h.kind.mono (List.suffix_refl _) hstep.leads (fun _ _ h => h)
    hstep.declarations.size_le (Nat.le_refl _)
  imports := (hstep.importsTied id).trans h.imports

/-- One item is read. -/
theorem answers_moduleItemBody (hg : g.Steps) {ctx : Context} (hscope : ctx.scope = moduleScope)
    (first : Token) {s : ParserState} (hs : s.tokens.Chained) :
    Answers s (moduleItemBody g ctx first) fun read s' => BodyRead ctx.scope s read.1 s' := by
  have hahead : Step NoKind ctx.scope s s := .refl hs
  have hrest : ∀ (isImport : Bool) s₁, Step NoKind ctx.scope s s₁ → Answers s₁ (do
      if isImport then importDeclaration ctx
      else if first.type = .keywordExport then exportDeclaration g ctx
      else
        let isDeclaration ← declarationAhead
        let missing ← g.statement ctx
        pure (if isDeclaration then ItemKind.declaration else .statement, missing))
      fun read s' => BodyRead ctx.scope s read.1 s' := by
    intro isImport s₁ hstep
    refine answers_ite (fun _ => ?_) fun _ => answers_ite (fun _ => ?_) fun _ => ?_
    · refine (answers_importDeclaration ctx hstep.chained).mono ?_
      rintro ⟨_, missing⟩ s₂ ⟨hread, rfl⟩
      have hbody : BodyRead ctx.scope s₁ .importDeclaration s₂ :=
        hread.step.bodyRead_of_isModuleSyntax hread.reads hread.importsTied rfl
      exact hbody.after hstep
    · exact (answers_exportDeclaration hg hscope hstep.chained).mono fun _ _ h => h.after hstep
    · have hstatement : Step OwnKind ctx.scope s s₁ := hstep.weaken fun _ h => h.elim
      refine (hstatement.answers keeps_declarationAhead).bind fun isDeclaration s₂ hahead => ?_
      refine (hahead.answers_reads (hg.statement ctx)).bind fun missing s₃ ⟨hread, hreads⟩ => ?_
      refine answers_pure ⟨hread.weaken ?_, hreads, ?_, hread.importsTied (by decide)⟩
      · intro _ _ h
        split at h
        · cases h
        · cases h
      · dsimp only
        split
        · trivial
        · trivial
  refine answers_ite (fun _ => ?_) fun _ => hrest false _ hahead
  refine (hahead.answers keeps_peek2).bind fun (_, next) s₁ hstep => ?_
  exact hrest _ _ hstep

/-! ## Records -/

/-- Every scope has a parent before it, but for the first one, which has none. -/
structure NestedScopes (scopes : Array Scope) : Prop where
  nonempty : 0 < scopes.size
  outermost : (scopes[0]?).bind Scope.parent = none
  parent : ∀ i, 0 < i → i < scopes.size →
    ∃ parent, (scopes[i]?).bind Scope.parent = some parent ∧ parent < i

/-- Scopes that are opened nest in those before. -/
theorem NestedScopes.opened {scope : ScopeId} {before after : Array Scope} (h : NestedScopes before)
    (hscope : scope < before.size) (hopened : Opened scope before after) : NestedScopes after where
  nonempty := Nat.lt_of_lt_of_le h.nonempty hopened.size_le
  outermost := by rw [hopened.getElem? h.nonempty, h.outermost]
  parent i hi hlt := by
    rcases Nat.lt_or_ge i before.size with hbefore | hge
    · rw [hopened.getElem? hbefore]
      exact h.parent i hi hbefore
    · obtain ⟨parent, hparent, rfl | hbetween⟩ := hopened.2 i hge hlt
      · exact ⟨parent, hparent, Nat.lt_of_lt_of_le hscope hge⟩
      · exact ⟨parent, hparent, hbetween.2⟩

/-- What is known of all that was recorded so far of a module with a text: its places are those of
tokens, and its indices lead to scopes and requests. -/
structure EntriesRead (source : Cursor) (s : ParserState) : Prop where
  chained : s.tokens.Chained
  text : s.tokens.source = source
  scopes : NestedScopes s.scopes
  declarations : ∀ d ∈ s.declarations, SpelledOrDefault s.tokens.behind d.name d.span ∧
    d.scope < s.scopes.size
  references : ∀ r ∈ s.references, Spelled s.tokens.behind r.name r.span ∧ r.scope < s.scopes.size
  dynamicImports : ∀ d ∈ s.dynamicImports, d.span.Between source s.place ∧
    TokenEdges s.tokens.behind d.span ∧ d.scope < s.scopes.size
  imports : ∀ d ∈ s.imports, d.request < s.requests.size
  exports : ∀ e ∈ s.exports, e.target.Requested s.requests.size
  starExports : ∀ request ∈ s.starExports, request < s.requests.size

namespace EntriesRead

variable {source : Cursor} {s s' : ParserState}

theorem leads_place (h : EntriesRead source s) : source.Leads s.place :=
  h.text ▸ h.chained.leads_position

/-- A scope that is given or opened is one of a later state. -/
theorem lt_of_inScope {scope own : ScopeId} (hown : InScope scope s s' own)
    (hscope : scope < s.scopes.size) (later : Later s s') : own < s'.scopes.size := by
  rcases hown with rfl | h
  · exact Nat.lt_of_lt_of_le hscope later.scopes
  · exact h.2

/-- What a step records is such, too. -/
theorem step {kinds : DeclarationKind → Prop} {scope : ScopeId} (h : EntriesRead source s)
    (hscope : scope < s.scopes.size) (hstep : Step kinds scope s s') : EntriesRead source s' where
  chained := hstep.chained
  text := hstep.source.trans h.text
  scopes := h.scopes.opened hscope hstep.scopes
  declarations d hd := by
    rcases hstep.declarations.mem_or hd with hbefore | hnew
    · obtain ⟨hspelled, hlt⟩ := h.declarations d hbefore
      exact ⟨hspelled.mono hstep.behind.subset, Nat.lt_of_lt_of_le hlt hstep.scopes.size_le⟩
    · exact ⟨hnew.2.2, lt_of_inScope hnew.2.1.2.2 hscope hstep.later⟩
  references r hr := by
    rcases hstep.references.mem_or hr with hbefore | hnew
    · obtain ⟨hspelled, hlt⟩ := h.references r hbefore
      exact ⟨hspelled.mono hstep.behind.subset, Nat.lt_of_lt_of_le hlt hstep.scopes.size_le⟩
    · exact ⟨hnew.2, lt_of_inScope hnew.1.2.2 hscope hstep.later⟩
  dynamicImports d hd := by
    rcases hstep.dynamicImports.mem_or hd with hbefore | hnew
    · obtain ⟨hbetween, hedges, hlt⟩ := h.dynamicImports d hbefore
      exact ⟨hbetween.mono (.refl _) hstep.leads, hedges.mono hstep.behind.subset,
        Nat.lt_of_lt_of_le hlt hstep.scopes.size_le⟩
    · exact ⟨hnew.1.mono h.leads_place (.refl _), hnew.2.1,
        lt_of_inScope hnew.2.2 hscope hstep.later⟩
  imports d hd := by
    rcases hstep.imports.mem_or hd with hbefore | hnew
    · exact Nat.lt_of_lt_of_le (h.imports d hbefore) hstep.requests.size_le
    · exact hnew.2
  exports e he := by
    rcases hstep.exports.mem_or he with hbefore | hnew
    · exact (h.exports e hbefore).mono hstep.requests.size_le
    · exact hnew
  starExports request hrequest := by
    rcases hstep.starExports.mem_or hrequest with hbefore | hnew
    · exact Nat.lt_of_lt_of_le (h.starExports request hbefore) hstep.requests.size_le
    · exact hnew

end EntriesRead

/-- The declarations that are imports are those of the specifiers of import declarations, in the
same order. -/
structure ImportsDeclared (declarations : Array Declaration) (imports : Array ImportDeclaration) :
    Prop where
  names : importedNames declarations = specifiedNames imports
  scope : ∀ d ∈ declarations, d.kind = .imported → d.scope = moduleScope

namespace ImportsDeclared

theorem tied {s s' : ParserState} (h : ImportsDeclared s.declarations s.imports)
    (htied : ImportsTied moduleScope s s') : ImportsDeclared s'.declarations s'.imports where
  names := by
    obtain ⟨added, hdeclared, hspecified⟩ := htied.names
    rw [hdeclared, hspecified, h.names]
  scope d hd hkind := by
    rcases htied.declared d hd hkind with hbefore | hnew
    · exact h.scope d hbefore hkind
    · exact hnew

variable {declarations : Array Declaration} {imports : Array ImportDeclaration}

/-- Every import that is declared is one of the import declarations. -/
theorem specifier (h : ImportsDeclared declarations imports) {d : Declaration}
    (hd : d ∈ declarations) (hkind : d.kind = .imported) :
    ∃ decl ∈ imports, ∃ specifier ∈ decl.specifiers, specifier.localName = d.name :=
  mem_specifiedNames.mp (h.names ▸ mem_importedNames.mpr ⟨d, hd, hkind, rfl⟩)

/-- Every name that a specifier binds is declared as an import. -/
theorem declared (h : ImportsDeclared declarations imports) {decl : ImportDeclaration}
    (hdecl : decl ∈ imports) {specifier : ImportSpecifier}
    (hspecifier : specifier ∈ decl.specifiers) : ∃ d ∈ declarations,
      d.name = specifier.localName ∧ d.scope = moduleScope ∧ d.kind = .imported := by
  have hname := mem_specifiedNames.mpr ⟨decl, hdecl, specifier, hspecifier, rfl⟩
  rw [← h.names] at hname
  obtain ⟨d, hd, hkind, hname⟩ := mem_importedNames.mp hname
  exact ⟨d, hd, hname, h.scope d hd hkind, hkind⟩

end ImportsDeclared

/-! ## Items -/

/-- What is known of an item that ends at the place `last` of a text, with the tokens and what is
recorded of its module. -/
structure ItemRead (source last : Cursor) (tokens : List BufferedToken)
    (declarations : Array Declaration) (references : Array Reference)
    (dynamicImports : Array DynamicImport) (item : ModuleItem) : Prop where
  span : ∃ first : Cursor, source.Leads first ∧ first.Leads last ∧
    item.span = ⟨first.offset, last.offset⟩
  edges : TokenEdges tokens item.span
  declaration : ∀ d, item.declarations.start ≤ d → d < item.declarations.stop →
    ∃ declaration, declarations[d]? = some declaration ∧ declaration.span.Between source last ∧
      (item.kind.isModuleSyntax = true → declaration.kind = .imported)
  reference : ∀ r, item.references.start ≤ r → r < item.references.stop →
    ∃ reference, references[r]? = some reference ∧ reference.span.Between source last
  dynamicImport : ∀ dynamic ∈ dynamicImports, item.span.contains dynamic.span.start = true →
    dynamic.span.Between source last
  kind : KindRead tokens source last declarations item.declarations item.kind

/-- What is known of all that was read so far of a module with a text. -/
structure ModuleRead (source : Cursor) (s : ParserState) : Prop where
  entries : EntriesRead source s
  imports : ImportsDeclared s.declarations s.imports
  items : ∀ item ∈ s.items, ∃ last : Cursor, last.Leads s.place ∧
    ItemRead source last s.tokens.behind s.declarations s.references s.dynamicImports item
  declared : ∀ d < s.declarations.size, ∃ item ∈ s.items,
    item.declarations.start ≤ d ∧ d < item.declarations.stop

/-- What is recorded later makes no difference to an item. -/
theorem ItemRead.later {kinds : DeclarationKind → Prop} {scope : ScopeId} {source last : Cursor}
    {s s' : ParserState} {item : ModuleItem}
    (h : ItemRead source last s.tokens.behind s.declarations s.references s.dynamicImports item)
    (hlast : last.Leads s.place) (hstep : Step kinds scope s s') :
    ItemRead source last s'.tokens.behind s'.declarations s'.references s'.dynamicImports
      item := by
  have hbehind := hstep.behind.subset
  refine ⟨h.span, h.edges.mono hbehind, fun d hd hd' => ?_, fun r hr hr' => ?_,
    fun dynamic hdynamic hin => ?_, ?_⟩
  · obtain ⟨declaration, hget, hdeclaration⟩ := h.declaration d hd hd'
    exact ⟨declaration, hstep.declarations.getElem? hget, hdeclaration⟩
  · obtain ⟨reference, hget, hreference⟩ := h.reference r hr hr'
    exact ⟨reference, hstep.references.getElem? hget, hreference⟩
  · rcases hstep.dynamicImports.mem_or hdynamic with hbefore | hnew
    · exact h.dynamicImport dynamic hbefore hin
    · -- A later import begins after the item.
      obtain ⟨first, -, -, hspan⟩ := h.span
      have hstart := hnew.1.le_start
      have hle := hlast.offset_le
      rw [hspan, Span.contains] at hin
      simp only [Bool.and_eq_true, decide_eq_true_eq] at hin
      omega
  · exact h.kind.mono hstep.behind (.refl _) (fun _ _ => hstep.declarations.getElem?) (Nat.le_refl _)
      (Nat.le_refl _)

/-- Looking ahead makes no difference to what was read. -/
theorem ModuleRead.after {source : Cursor} {s s' : ParserState} (h : ModuleRead source s)
    (hstep : Step NoKind moduleScope s s') : ModuleRead source s' where
  entries := h.entries.step h.entries.scopes.nonempty hstep
  imports := h.imports.tied (hstep.importsTied id)
  items item hitem := by
    rw [hstep.items] at hitem
    obtain ⟨last, hlast, hread⟩ := h.items item hitem
    exact ⟨last, hlast.trans hstep.leads, hread.later hlast hstep⟩
  declared d hd := by
    rw [hstep.items]
    rcases Nat.lt_or_ge d s.declarations.size with hlt | hge
    · exact h.declared d hlt
    · obtain ⟨_, -, hnone, -⟩ := hstep.declarations.getElem?_of_le hge hd
      exact hnone.elim

/-- The place after the tokens read is an edge of the last of them. -/
theorem ReadsOn.edge_place {s s' : ParserState} (h : ReadsOn s s') (hs : s'.tokens.Chained) :
    TokenEdge s'.tokens.behind s'.place.offset := by
  obtain ⟨-, b, hb, -⟩ := h
  unfold ParserState.place
  rw [← hs.lastEnd_eq]
  cases hbehind : s'.tokens.behind with
  | nil =>
    rw [hbehind] at hb
    cases hb
  | cons last before =>
    refine ⟨last, List.mem_cons_self, .inr ?_⟩
    unfold TokenStream.lastEnd
    rw [hbehind]

/-- What is known of an item after its body was read. -/
theorem BodyRead.itemRead {scope : ScopeId} {source : Cursor} {s s' : ParserState}
    {item : ModuleItem} (h : BodyRead scope s item.kind s') (hs : EntriesRead source s)
    (hspan : item.span = ⟨s.place.tokenStart.offset, s'.place.offset⟩)
    (hdeclarations : item.declarations = declaredSince s s')
    (hreferences : item.references = ⟨s.references.size, s'.references.size⟩) :
    ItemRead source s'.place s'.tokens.behind s'.declarations s'.references s'.dynamicImports
      item := by
  have hsource := hs.leads_place
  refine ⟨⟨_, hsource.trans (leads_tokenStart _), h.reads.1, hspan⟩, ?_, fun d hd hd' => ?_,
    fun r hr hr' => ?_, fun dynamic hdynamic _ => ?_, ?_⟩
  · rw [hspan]
    exact ⟨h.reads.edge, h.reads.edge_place h.step.chained⟩
  · rw [hdeclarations] at hd hd'
    obtain ⟨declaration, hget, hkind, hnoted, -⟩ := h.step.declarations.getElem?_of_le hd hd'
    exact ⟨declaration, hget, hnoted.1.mono hsource (.refl _), hkind⟩
  · rw [hreferences] at hr hr'
    obtain ⟨reference, hget, hnoted, -⟩ := h.step.references.getElem?_of_le hr hr'
    exact ⟨reference, hget, hnoted.1.mono hsource (.refl _)⟩
  · rcases h.step.dynamicImports.mem_or hdynamic with hbefore | hnew
    · exact (hs.dynamicImports dynamic hbefore).1.mono (.refl _) h.step.leads
    · exact hnew.1.mono hsource (.refl _)
  · rw [hdeclarations]
    exact h.kind.mono (List.suffix_refl _) hsource (fun _ _ h => h) (Nat.le_refl _) (Nat.le_refl _)

/-- An item adds to what was read. -/
theorem BodyRead.moduleRead {source : Cursor} {s s' : ParserState} {item : ModuleItem}
    (h : BodyRead moduleScope s item.kind s') (hs : ModuleRead source s)
    (hspan : item.span = ⟨s.place.tokenStart.offset, s'.place.offset⟩)
    (hdeclarations : item.declarations = declaredSince s s')
    (hreferences : item.references = ⟨s.references.size, s'.references.size⟩) :
    ModuleRead source { s' with items := s'.items.push item } where
  entries := { hs.entries.step hs.entries.scopes.nonempty h.step with }
  imports := by
    have himports := hs.imports.tied h.imports
    exact himports
  items other hother := by
    rcases Array.mem_push.mp hother with hbefore | rfl
    · rw [h.step.items] at hbefore
      obtain ⟨last, hlast, hread⟩ := hs.items other hbefore
      have hlater := hread.later hlast h.step
      exact ⟨last, hlast.trans h.step.leads, hlater⟩
    · exact ⟨_, .refl _, h.itemRead hs.entries hspan hdeclarations hreferences⟩
  declared d hd := by
    rcases Nat.lt_or_ge d s.declarations.size with hlt | hge
    · obtain ⟨other, hother, hrange⟩ := hs.declared d hlt
      rw [← h.step.items] at hother
      exact ⟨other, Array.mem_push_of_mem _ hother, hrange⟩
    · refine ⟨item, Array.mem_push_self, ?_⟩
      rw [hdeclarations]
      exact ⟨hge, hd⟩

/-- Reading one more item keeps what is known of those before. -/
theorem answers_moduleItem (hg : g.Steps) {ctx : Context} (hscope : ctx.scope = moduleScope)
    {source : Cursor} {s : ParserState} (hs : ModuleRead source s) :
    Answers s (moduleItem g ctx) fun _ s' => ModuleRead source s' := by
  refine (answers_peekIn NoKind moduleScope _ hs.entries.chained).bind fun first s₁ hfirst => ?_
  refine answers_modify.bind fun _ s₂ hs₂ => ?_
  have hquiet : Step NoKind moduleScope s₁ s₂ := hs₂ ▸ .withSideEffects hfirst.step.chained false
  have hplace : s₂.place = s₁.place := hs₂ ▸ rfl
  have hread := hs.after (hfirst.step.trans hquiet)
  refine answers_declarationCount.bind fun _ _ ⟨hd, hs'⟩ => ?_
  subst hd hs'
  refine answers_referenceCount.bind fun _ _ ⟨hr, hs'⟩ => ?_
  subst hr hs'
  refine (answers_moduleItemBody hg hscope first hread.entries.chained).bind
    fun (kind, missing) s₃ hbody => ?_
  rw [hscope] at hbody
  refine answers_modify.mono fun _ s₄ hs₄ => ?_
  rw [hs₄]
  refine hbody.moduleRead hread ?_ rfl rfl
  rw [hfirst.start (by decide), hplace, hbody.step.chained.lastEnd_eq]
  rfl

/-! ## Modules -/

theorem moduleRead_ofString (source : String) :
    ModuleRead (.ofString source) (.ofString source) where
  entries := {
    chained := TokenStream.chained_ofString source
    text := rfl
    scopes := ⟨Nat.zero_lt_one, rfl, fun _ hi hlt => absurd hlt (Nat.not_lt_of_le hi)⟩
    declarations _ h := (Array.not_mem_empty _ h).elim
    references _ h := (Array.not_mem_empty _ h).elim
    dynamicImports _ h := (Array.not_mem_empty _ h).elim
    imports _ h := (Array.not_mem_empty _ h).elim
    exports _ h := (Array.not_mem_empty _ h).elim
    starExports _ h := (Array.not_mem_empty _ h).elim }
  imports := ⟨rfl, fun _ h => (Array.not_mem_empty _ h).elim⟩
  items _ h := (Array.not_mem_empty _ h).elim
  declared _ h := absurd h (Nat.not_lt_zero _)

/-- What is known of the record of a module with a text and its tokens, the latest first. -/
structure RecordRead (source : Cursor) (tokens : List BufferedToken) (record : ModuleRecord) :
    Prop where
  chain : ReadFrom source tokens.reverse
  templates : ContinuesTemplates tokens
  items : ∀ item ∈ record.items, ∃ last, ItemRead source last tokens record.scopes.declarations
    record.scopes.references record.dynamicImports item
  declared : ∀ d < record.scopes.declarations.size, ∃ item ∈ record.items,
    item.declarations.start ≤ d ∧ d < item.declarations.stop
  scopes : ∃ declarations references,
    ScopeTree.build record.scopes.scopes declarations references = .ok record.scopes
  nested : NestedScopes record.scopes.scopes
  declarations : ∀ d ∈ record.scopes.declarations, SpelledOrDefault tokens d.name d.span ∧
    d.scope < record.scopes.scopes.size
  references : ∀ r ∈ record.scopes.references, Spelled tokens r.name r.span ∧
    r.scope < record.scopes.scopes.size
  dynamicImports : ∀ d ∈ record.dynamicImports, (∃ last, d.span.Between source last) ∧
    TokenEdges tokens d.span ∧ d.scope < record.scopes.scopes.size
  importRequests : ∀ d ∈ record.imports, d.request < record.requests.size
  exportRequests : ∀ e ∈ record.exports, e.target.Requested record.requests.size
  starRequests : ∀ request ∈ record.starExports, request < record.requests.size
  imports : ImportsDeclared record.scopes.declarations record.imports
  sortedTokens : record.tokenStarts.Pairwise (· ≤ ·)
  starts : ∀ offset ∈ record.tokenStarts, ∃ place, source.Leads place ∧ offset = place.offset
  tokenStarts : ∃ more, (∀ offset ∈ more, (placeAfter source tokens.reverse).offset ≤ offset) ∧
    record.tokenStarts = (tokens.reverse.filter fun b => b.token.type ≠ .eof).map
      (fun b => b.token.span.start) ++ more

theorem records_of_build {scopes : Array Scope} {declarations : Array Declaration}
    {references : Array Reference} {tree : ScopeTree}
    (h : ScopeTree.build scopes declarations references = .ok tree) :
    tree.scopes = scopes ∧ tree.declarations = declarations ∧ tree.references = references := by
  obtain ⟨tables, -, h⟩ := bind_eq_ok.mp h
  split at h
  · cases h
  · cases h
    exact ⟨rfl, rfl, rfl⟩

/-- What is known of all that was read of a module is known of its record. -/
theorem ModuleRead.recordRead {source : Cursor} {s : ParserState} {tree : ScopeTree}
    (h : ModuleRead source s)
    (hbuild : ScopeTree.build s.scopes s.declarations s.references = .ok tree) :
    RecordRead source s.tokens.behind {
      items := s.items
      requests := s.requests
      imports := s.imports
      exports := s.exports
      starExports := s.starExports
      dynamicImports := s.dynamicImports
      scopes := tree
      tokenStarts := s.tokens.tokenStarts } := by
  obtain ⟨hscopes, hdeclarations, hreferences⟩ := records_of_build hbuild
  have hchained := h.entries.chained
  have htext := h.entries.text
  have htokens := readFrom_append.mp hchained.tokens
  rw [htext] at htokens
  exact {
    chain := htokens.1
    templates := hchained.templates
    items item hitem := by
      obtain ⟨last, -, hread⟩ := h.items item hitem
      dsimp only
      rw [hdeclarations, hreferences]
      exact ⟨last, hread⟩
    declared := by
      dsimp only
      rw [hdeclarations]
      exact h.declared
    scopes := by
      dsimp only
      rw [hscopes]
      exact ⟨_, _, hbuild⟩
    nested := hscopes ▸ h.entries.scopes
    declarations := by
      dsimp only
      rw [hscopes, hdeclarations]
      exact h.entries.declarations
    references := by
      dsimp only
      rw [hscopes, hreferences]
      exact h.entries.references
    dynamicImports := by
      dsimp only
      rw [hscopes]
      intro d hd
      obtain ⟨hbetween, hrest⟩ := h.entries.dynamicImports d hd
      exact ⟨⟨_, hbetween⟩, hrest⟩
    importRequests := h.entries.imports
    exportRequests := h.entries.exports
    starRequests := h.entries.starExports
    imports := by
      dsimp only
      rw [hdeclarations]
      exact h.imports
    sortedTokens := hchained.sorted_tokenStarts
    starts offset hoffset := by
      obtain ⟨place, hplace, heq⟩ := hchained.leads_tokenStart hoffset
      exact ⟨place, htext ▸ hplace, heq⟩
    tokenStarts := by
      refine ⟨(s.tokens.ahead.filter fun b => b.token.type ≠ .eof).map fun b =>
        b.token.span.start, fun offset hoffset => ?_, ?_⟩
      rotate_left
      · dsimp only
        rw [TokenStream.tokenStarts, List.filter_append, List.map_append]
      obtain ⟨b, hb, rfl⟩ := List.mem_map.mp hoffset
      obtain ⟨place, hplace, heq⟩ := htokens.2.leads (List.mem_filter.mp hb).1
      rw [heq]
      exact hplace.offset_le }

/-- The items that are read up to the end of a text make its record. -/
theorem answers_moduleRest (hg : g.Steps) {ctx : Context} (hscope : ctx.scope = moduleScope)
    {source : Cursor} {s : ParserState} (hs : ModuleRead source s) :
    Answers s (moduleRest g ctx) fun record _ => ∃ tokens, RecordRead source tokens record := by
  refine (answers_loopWhile (fun s hs => ?_) hs).bind fun _ s₁ hs₁ => ?_
  · refine (answers_peekIn NoKind moduleScope _ hs.entries.chained).bind fun t s₁ ht => ?_
    refine answers_ite (fun _ => answers_pure (hs.after ht.step)) fun _ => ?_
    exact (answers_moduleItem hg hscope (hs.after ht.step)).bind fun _ s₂ h => answers_pure h
  refine (answers_require NoKind moduleScope _ hs₁.entries.chained).bind fun _ s₂ ⟨hs₂, _⟩ => ?_
  intro record s' h
  obtain ⟨_, _, hget, h⟩ := stateBind_eq_ok.mp h
  cases hget
  obtain ⟨tree, htree, h⟩ := bind_eq_ok.mp ((liftBind_run _ _ _).symm.trans h)
  cases h
  exact ⟨_, (hs₁.after hs₂.step).recordRead htree⟩

/-- What is known of the record of a module that was read. -/
theorem parseModule_read {source : String} {record : ModuleRecord}
    (h : parseModule source = .ok record) :
    ∃ tokens, RecordRead (.ofString source) tokens record := by
  obtain ⟨⟨record, s'⟩, hrest, rfl⟩ := map_eq_ok.mp h
  exact answers_moduleRest (Grammar.steps_ofDepth _) rfl (moduleRead_ofString source) hrest

end ModuleBundler
