import ModuleBundler.Grammar.ImportExport
import ModuleBundler.Proofs.Productions.Statement

/-!
# What the grammar reads: imports and exports

* `reads_importDeclaration`, `reads_exportStar`, `reads_exportList` : what ties modules together
  declares nothing but imports;
* `ImportsTied` : the names that specifiers bind are declared as imports, in the same order;
* `KindRead` : what is known of the exporting part of an item;
* `answers_exportDefault`, `answers_exportedDeclaration` : that part ends where what it exports
  begins, and a default export without a name of its own is declared.
-/

namespace ModuleBundler

open Cursor (Leads)

variable {kinds : DeclarationKind → Prop} {scope : ScopeId} {g : Grammar}

/-! ## Names and requests -/

/-- A name in a list of imports or exports is read with its span. -/
theorem answers_moduleExportName (kinds : DeclarationKind → Prop) (scope : ScopeId)
    {s : ParserState} (hs : s.tokens.Chained) :
    Answers s moduleExportName fun name s' => Step kinds scope s s' ∧ ReadsOn s s' ∧
      (name.isIdentifier = true → NameRead kinds scope s (name.name, name.span) s') := by
  refine (answers_token kinds scope (by decide) hs).bind fun t s₁ ht => ?_
  refine answers_ite (fun _ => ?_) fun _ => answers_ite (fun _ => ?_) fun _ => answers_fail t _
  · split
    · exact answers_pure ⟨ht.step, ht.reads, fun h => nomatch h⟩
    · exact answers_fail t _
  · exact answers_pure ⟨ht.step, ht.reads, fun _ => ht.nameRead⟩

theorem reads_moduleExportName : Reads kinds moduleExportName scope := by
  intro s name s' hs h
  obtain ⟨hstep, hreads, -⟩ := answers_moduleExportName kinds scope hs h
  exact ⟨hstep, hreads⟩

theorem reads_importAttribute : Reads kinds importAttribute scope := by
  refine reads_moduleExportName.bind fun _ => (reads_require _).keeps.bind fun _ => ?_
  exact (reads_require _).keeps.bind fun _ => keeps_pure _

/-- A request is read and recorded. -/
structure RequestRead (kinds : DeclarationKind → Prop) (scope : ScopeId) (s : ParserState)
    (request : Nat) (s' : ParserState) : Prop where
  step : Step kinds scope s s'
  reads : ReadsOn s s'
  index : request < s'.requests.size

theorem answers_moduleRequest (kinds : DeclarationKind → Prop) (scope : ScopeId)
    {s : ParserState} (hs : s.tokens.Chained) :
    Answers s moduleRequest (RequestRead kinds scope s) := by
  refine (answers_require kinds scope _ hs).bind fun t s₁ ⟨ht, _⟩ => ?_
  split
  · exact answers_fail t _
  have hstep : Step kinds scope s₁ s₁ := .refl ht.step.chained
  refine (hstep.answers keeps_peek2).bind fun (a, b) s₂ hstep => ?_
  have hrecord : ∀ s', Step kinds scope s₁ s' → ∀ request : ModuleRequest, Answers s' (do
      let s ← get
      set { s with requests := s.requests.push request }
      pure s.requests.size) (RequestRead kinds scope s) := by
    intro s' hstep request
    refine (hstep.answers_recordRequest request).mono fun index s'' ⟨hrecord, _, hindex⟩ => ?_
    exact ⟨ht.step.trans hrecord, hrecord.later.readsOn ht.reads, hindex⟩
  refine answers_ite (fun _ => ?_) fun _ => hrecord s₂ hstep _
  refine (hstep.answers reads_consume.keeps).bind fun _ s₃ hstep => ?_
  refine (hstep.answers reads_consume.keeps).bind fun _ s₄ hstep => ?_
  refine (hstep.answers (keeps_separatedList _ _ reads_importAttribute.keeps)).bind
    fun _ s₅ hstep => hrecord s₅ hstep _

/-! ## Imports -/

/-- Nothing is declared. -/
def NoKind (_ : DeclarationKind) : Prop := False

/-- A declaration that is an import. -/
def ImportKind (kind : DeclarationKind) : Prop := kind = .imported

/-- What is declared from one state to another are the names that specifiers import, in order. -/
def Binds (scope : ScopeId) (s : ParserState) (specifiers : List ImportSpecifier)
    (s' : ParserState) : Prop :=
  ∃ added : List Declaration, s'.declarations.toList = s.declarations.toList ++ added ∧
    added.map Declaration.name = specifiers.map ImportSpecifier.localName ∧
    ∀ d ∈ added, d.scope = scope ∧ d.kind = .imported

/-- Specifiers of imports are read, and the names in them declared. -/
structure SpecifiersRead (scope : ScopeId) (s : ParserState) (specifiers : List ImportSpecifier)
    (s' : ParserState) : Prop where
  step : Step ImportKind scope s s'
  binds : Binds scope s specifiers s'
  imports : s'.imports = s.imports

/-- Where nothing is declared no specifier is read. -/
theorem Step.specifiersRead {s s' : ParserState} (h : Step NoKind scope s s') :
    SpecifiersRead scope s [] s' := by
  obtain ⟨added, heq, hnone⟩ := h.declarations
  obtain ⟨imports, heq', hnone'⟩ := h.imports
  have hadded : added = [] := List.eq_nil_iff_forall_not_mem.mpr fun d hd => (hnone d hd).1
  have himports : imports = [] := List.eq_nil_iff_forall_not_mem.mpr fun d hd => (hnone' d hd).1
  refine ⟨h.weaken fun _ h => h.elim, ⟨added, heq, by rw [hadded]; rfl, ?_⟩, ?_⟩
  · exact fun d hd => (hnone d hd).1.elim
  · rw [himports, List.append_nil] at heq'
    exact Array.toList_inj.mp heq'

namespace SpecifiersRead

variable {s s' s'' : ParserState} {read more : List ImportSpecifier}

theorem trans (h : SpecifiersRead scope s read s') (h' : SpecifiersRead scope s' more s'') :
    SpecifiersRead scope s (read ++ more) s'' := by
  obtain ⟨added, heq, hnames, hall⟩ := h.binds
  obtain ⟨added', heq', hnames', hall'⟩ := h'.binds
  refine ⟨h.step.trans h'.step, ⟨added ++ added', ?_, ?_, ?_⟩, h'.imports.trans h.imports⟩
  · rw [heq', heq, List.append_assoc]
  · rw [List.map_append, List.map_append, hnames, hnames']
  · rw [List.forall_mem_append]
    exact ⟨hall, hall'⟩

/-- What declares nothing is read after specifiers. -/
theorem answers (h : SpecifiersRead scope s read s') {α : Type} {p : Parse α}
    (hp : Keeps NoKind p scope) : Answers s' p fun _ s'' => SpecifiersRead scope s read s'' := by
  intro _ s'' heq
  have hmore := h.trans (hp h.step.chained heq).specifiersRead
  rwa [List.append_nil] at hmore

end SpecifiersRead

/-- A name that was read is declared as an import. -/
theorem NameRead.answers_import {ctx : Context} {s s' : ParserState} {name : String × Span}
    (h : NameRead NoKind ctx.scope s name s') :
    Answers s' (declare ctx name.1 name.2 .imported false) fun _ s'' =>
      ∀ imported, SpecifiersRead ctx.scope s [⟨imported, name.1, name.2⟩] s'' := by
  have hname : NameRead ImportKind ctx.scope s name s' :=
    ⟨h.step.weaken fun _ h => h.elim, h.reads, h.between, h.spelled⟩
  intro _ s'' heq
  obtain ⟨hdeclared, -⟩ := hname.answers_declared rfl false heq
  obtain ⟨added, hadded, hnames, hall⟩ := h.step.specifiersRead.binds
  cases heq
  have hnone := List.map_eq_nil_iff.mp hnames
  rw [hnone, List.append_nil] at hadded
  refine fun imported => ⟨hdeclared.step,
    ⟨[⟨name.1, name.2, ctx.scope, .imported, false⟩], ?_, rfl, ?_⟩, h.step.specifiersRead.imports⟩
  · rw [← hadded]
    exact Array.toList_push
  · rw [List.forall_mem_singleton]
    exact ⟨rfl, rfl⟩

theorem answers_importBinding (ctx : Context) (imported : Imported) {s : ParserState}
    (hs : s.tokens.Chained) : Answers s (importBinding ctx imported) fun specifier s' =>
      SpecifiersRead ctx.scope s [specifier] s' := by
  refine (answers_bindingIdentifier NoKind ctx.scope hs).bind fun name s₁ hname => ?_
  exact hname.answers_import.bind fun _ s₂ hread => answers_pure (hread imported)

theorem answers_importSpecifier (ctx : Context) {s : ParserState} (hs : s.tokens.Chained) :
    Answers s (importSpecifier ctx) fun specifier s' =>
      SpecifiersRead ctx.scope s [specifier] s' := by
  refine (answers_moduleExportName NoKind ctx.scope hs).bind
    fun imported s₁ ⟨hstep, _, hname⟩ => ?_
  have hrest : Step NoKind ctx.scope s₁ s₁ := .refl hstep.chained
  refine (hrest.answers (keeps_consumeIf _)).bind fun renamed s₂ hrest => ?_
  refine answers_ite (fun _ => ?_) fun _ => answers_ite (fun hidentifier => ?_) fun _ => ?_
  · refine (answers_importBinding ctx _ hrest.chained).mono fun _ s₃ h => ?_
    exact (hstep.trans hrest).specifiersRead.trans h
  · have hname := hname hidentifier
    have hname : NameRead NoKind ctx.scope s (imported.name, imported.span) s₂ :=
      ⟨hname.step.trans hrest, hrest.later.readsOn hname.reads,
        hname.between.mono (.refl _) hrest.leads, hname.spelled.mono hrest.behind.subset⟩
    exact hname.answers_import.bind fun _ s₃ hread => answers_pure (hread _)
  · exact fun _ _ h => nomatch h

/-- The specifiers in braces are read. -/
theorem answers_importList (ctx : Context) {s : ParserState} (hs : s.tokens.Chained) :
    Answers s (bracedList (importSpecifier ctx)) (SpecifiersRead ctx.scope s) := by
  have hstart : SpecifiersRead ctx.scope s [] s := (Step.refl hs).specifiersRead
  refine answers_loop (fun read s' => SpecifiersRead ctx.scope s read s') ?_ [] hstart
  intro read s₁ hread
  refine (hread.answers (keeps_consumeIf _)).bind fun _ s₂ hread => ?_
  refine answers_ite (fun _ => answers_pure hread) fun _ => ?_
  refine (answers_importSpecifier ctx hread.step.chained).bind fun next s₃ hnext => ?_
  have hread := hread.trans hnext
  refine (hread.answers (keeps_consumeIf _)).bind fun _ s₄ hread => ?_
  refine answers_ite (fun _ => answers_pure hread) fun _ => ?_
  exact (hread.answers (reads_require _).keeps).bind fun _ s₅ hread => answers_pure hread

theorem answers_importClause (ctx : Context) {s : ParserState} (hs : s.tokens.Chained) :
    Answers s (importClause ctx) (SpecifiersRead ctx.scope s) := by
  have hstep : Step NoKind ctx.scope s s := .refl hs
  refine (hstep.answers (keeps_consumeIf _)).bind fun _ s₁ hstep => ?_
  refine answers_ite (fun _ => ?_) fun _ => ?_
  · refine (hstep.answers (reads_require _).keeps).bind fun _ s₂ hstep => ?_
    refine (answers_importBinding ctx _ hstep.chained).bind fun specifier s₃ h => answers_pure ?_
    exact hstep.specifiersRead.trans h
  · refine (hstep.answers (reads_require _).keeps).bind fun _ s₂ hstep => ?_
    exact (answers_importList ctx hstep.chained).mono fun _ s₃ h => hstep.specifiersRead.trans h

theorem answers_importClauses (ctx : Context) {s : ParserState} (hs : s.tokens.Chained) :
    Answers s (importClauses ctx) (SpecifiersRead ctx.scope s) := by
  have hfrom : ∀ {read : List ImportSpecifier} {s'}, SpecifiersRead ctx.scope s read s' →
      Answers s' (do
        let _ ← require .keywordFrom
        pure read) (SpecifiersRead ctx.scope s) := fun h =>
    (h.answers (reads_require _).keeps).bind fun _ _ h => answers_pure h
  have hstep : Step NoKind ctx.scope s s := .refl hs
  refine (hstep.answers keeps_peek).bind fun t s₁ hstep => ?_
  refine answers_ite (fun _ => ?_) fun _ => ?_
  · refine (answers_importBinding ctx _ hstep.chained).bind fun first s₂ hfirst => ?_
    have hread := hstep.specifiersRead.trans hfirst
    refine (hread.answers (keeps_consumeIf _)).bind fun _ s₃ hread => ?_
    refine answers_ite (fun _ => ?_) fun _ => hfrom hread
    refine (answers_importClause ctx hread.step.chained).bind fun rest s₄ hrest => ?_
    exact hfrom (hread.trans hrest)
  · refine (answers_importClause ctx hstep.chained).bind fun specifiers s₂ hrest => ?_
    exact hfrom (hstep.specifiersRead.trans hrest)

/-- An import declaration is read and recorded. -/
structure ImportRead (scope : ScopeId) (s s' : ParserState) : Prop where
  step : Step ImportKind scope s s'
  reads : ReadsOn s s'
  binds : ∃ decl, s'.imports = s.imports.push decl ∧ Binds scope s decl.specifiers s'

/-- The request of an import declaration is read after its specifiers, and all is recorded. -/
theorem SpecifiersRead.answers_importRequest {s₀ s s' : ParserState}
    {specifiers : List ImportSpecifier} (hreads : ReadsOn s₀ s)
    (hbefore : Step NoKind scope s₀ s) (h : SpecifiersRead scope s specifiers s') :
    Answers s' (do
      let request ← moduleRequest
      let missing ← requireSemicolon
      modify fun s => { s with imports := s.imports.push ⟨request, specifiers⟩ }
      pure (ItemKind.importDeclaration, missing)) fun read s'' =>
        ImportRead scope s₀ s'' ∧ read.1 = .importDeclaration := by
  have hread := hbefore.specifiersRead.trans h
  refine (answers_moduleRequest NoKind scope h.step.chained).bind fun request s₁ hrequest => ?_
  have hrest : Step NoKind scope s₁ s₁ := .refl hrequest.step.chained
  refine (hrest.answers keeps_requireSemicolon).bind fun missing s₂ hrest => ?_
  have hrequested := hrequest.step.trans hrest
  have hread := hread.trans hrequested.specifiersRead
  have hindex := Nat.lt_of_lt_of_le hrequest.index hrest.later.requests
  have hreads := hrequested.later.readsOn (h.step.later.readsOn hreads)
  rw [List.nil_append, List.append_nil] at hread
  refine answers_modify.bind fun _ s₃ hs₃ => answers_pure ?_
  subst hs₃
  refine ⟨⟨{ hread.step with imports := hread.step.imports.push ⟨rfl, hindex⟩ }, hreads, ?_⟩, rfl⟩
  exact ⟨⟨request, specifiers⟩, by rw [← hread.imports], hread.binds⟩

theorem answers_importDeclaration (ctx : Context) {s : ParserState} (hs : s.tokens.Chained) :
    Answers s (importDeclaration ctx) fun read s' =>
      ImportRead ctx.scope s s' ∧ read.1 = .importDeclaration := by
  refine (answers_require NoKind ctx.scope _ hs).bind fun _ s₁ ⟨hkeyword, _⟩ => ?_
  have hstep : Step NoKind ctx.scope s₁ s₁ := .refl hkeyword.step.chained
  refine (hstep.answers keeps_peek).bind fun t s₂ hstep => ?_
  have hbefore := hkeyword.step.trans hstep
  have hreads := hstep.later.readsOn hkeyword.reads
  have hnone : Answers s₂ (pure []) (SpecifiersRead ctx.scope s₂) :=
    answers_pure (Step.refl hstep.chained).specifiersRead
  refine answers_choice hnone (answers_importClauses ctx hstep.chained) fun specifiers s₃ h => ?_
  exact h.answers_importRequest hreads hbefore

/-! ## Exports of other modules and lists of exports -/

/-- An export is recorded after a step. -/
theorem Step.answers_addExport {s s' : ParserState} (h : Step kinds scope s s')
    (specifier : ExportSpecifier) (htarget : specifier.target.Requested s'.requests.size) :
    Answers s' (addExport specifier) fun _ s'' => Step kinds scope s s'' ∧ Later s' s'' := by
  intro _ s'' heq
  cases heq
  exact ⟨{ h with exports := h.exports.push htarget }, .ofTokens rfl rfl rfl⟩

/-- An export of a variable of the module is recorded. -/
theorem keeps_addBinding (exported : String) (span : Span) (name : String) :
    Keeps kinds (addExport ⟨exported, span, .binding name⟩) scope := by
  refine keeps_of_answers fun s hs => ?_
  have hstep : Step kinds scope s s := .refl hs
  exact (hstep.answers_addExport ⟨exported, span, .binding name⟩ trivial).mono fun _ _ h => h.1

/-- An export of everything from another module is recorded after its request. -/
theorem RequestRead.answers_star {s s' : ParserState} {request : Nat}
    (h : RequestRead kinds scope s request s') :
    Answers s' (modify fun s => { s with starExports := s.starExports.push request })
      fun _ s'' => Step kinds scope s s'' := by
  intro _ s'' heq
  cases heq
  exact { h.step with starExports := h.step.starExports.push h.index }

theorem reads_exportStar : Reads kinds exportStar scope := by
  refine reads_consume.bind fun _ => (keeps_consumeIf _).bind fun _ => keeps_ite ?_ ?_
  · refine reads_moduleExportName.keeps.bind fun exported => ?_
    refine (reads_require _).keeps.bind fun _ => keeps_of_answers fun s hs => ?_
    refine (answers_moduleRequest kinds scope hs).bind fun request s₁ hrequest => ?_
    have hexport := hrequest.step.answers_addExport
      ⟨exported.name, exported.span, .reexport request .all⟩ hrequest.index
    refine hexport.bind fun _ s₂ ⟨hstep, _⟩ => ?_
    exact hstep.answers (keeps_requireSemicolon.bind fun _ => keeps_pure _)
  · refine (reads_require _).keeps.bind fun _ => keeps_of_answers fun s hs => ?_
    refine (answers_moduleRequest kinds scope hs).bind fun request s₁ hrequest => ?_
    refine hrequest.answers_star.bind fun _ s₂ hstep => ?_
    exact hstep.answers (keeps_requireSemicolon.bind fun _ => keeps_pure _)

theorem answers_exportStar_kind (s : ParserState) :
    Answers s exportStar fun read _ => read.1 = .exportFrom := by
  refine .after fun _ _ => .after fun _ _ => answers_ite (fun _ => ?_) fun _ => ?_
  · refine .after fun _ _ => .after fun _ _ => .after fun _ _ => .after fun _ _ => ?_
    exact .after fun _ _ => answers_pure rfl
  · refine .after fun _ _ => .after fun _ _ => .after fun _ _ => ?_
    exact .after fun _ _ => answers_pure rfl

theorem keeps_exportListItem : Keeps kinds exportListItem scope := by
  refine reads_moduleExportName.keeps.bind fun name => (keeps_consumeIf _).bind fun _ => ?_
  exact keeps_ite (reads_moduleExportName.keeps.bind fun _ => keeps_pure _) (keeps_pure _)

theorem keeps_bracedList {α : Type} {item : Parse α} (h : Keeps kinds item scope) :
    Keeps kinds (bracedList item) scope := by
  refine keeps_loop (fun read => (keeps_consumeIf _).bind fun _ => keeps_ite (keeps_pure _) ?_) []
  refine h.bind fun next => (keeps_consumeIf _).bind fun _ => keeps_ite (keeps_pure _) ?_
  exact (reads_require _).keeps.bind fun _ => keeps_pure _

theorem keeps_addOwnExports (names : List (ModuleExportName × ModuleExportName)) :
    Keeps kinds (addOwnExports names) scope := by
  induction names with
  | nil => exact keeps_pure _
  | cons entry rest ih =>
    refine keeps_ite ((keeps_addBinding _ _ _).bind fun _ => ih) ?_
    exact fun _ _ _ _ h => nomatch h

/-- Exports of another module are recorded after the request for it. -/
theorem Step.answers_addReexports {s s' : ParserState} (h : Step kinds scope s s') {request : Nat}
    (hindex : request < s'.requests.size) (names : List (ModuleExportName × ModuleExportName)) :
    Answers s' (addReexports request names) fun _ s'' => Step kinds scope s s'' := by
  induction names generalizing s' with
  | nil => exact answers_pure h
  | cons entry rest ih =>
    have hexport := h.answers_addExport
      ⟨entry.2.name, entry.2.span, .reexport request (.name entry.1.name)⟩ hindex
    refine hexport.bind fun _ s₁ ⟨hstep, hlater⟩ => ?_
    exact ih hstep (Nat.lt_of_lt_of_le hindex hlater.requests)

theorem reads_exportList : Reads kinds exportList scope := by
  refine reads_consume.bind fun _ => (keeps_bracedList keeps_exportListItem).bind fun names => ?_
  refine (keeps_consumeIf _).bind fun _ => keeps_ite ?_ ?_
  · refine keeps_of_answers fun s hs => ?_
    refine (answers_moduleRequest kinds scope hs).bind fun request s₁ hrequest => ?_
    refine (hrequest.step.answers_addReexports hrequest.index names).bind fun _ s₂ hstep => ?_
    exact hstep.answers (keeps_requireSemicolon.bind fun _ => keeps_pure _)
  · refine (keeps_addOwnExports _).bind fun _ => ?_
    exact keeps_requireSemicolon.bind fun _ => keeps_pure _

theorem answers_exportList_kind (s : ParserState) :
    Answers s exportList fun read _ => read.1 = .exportFrom ∨ read.1 = .exportList := by
  refine .after fun _ _ => .after fun _ _ => .after fun _ _ => ?_
  refine answers_ite (fun _ => ?_) fun _ => ?_
  · exact .after fun _ _ => .after fun _ _ => .after fun _ _ => answers_pure (.inl rfl)
  · exact .after fun _ _ => .after fun _ _ => answers_pure (.inr rfl)

/-! ## Exports of declarations -/

/-- The binding of default exports is declared in the module scope by one of a range of
declarations. -/
def DefaultDeclared (declarations : Array Declaration) (range : IndexRange) : Prop :=
  ∃ d declaration, range.start ≤ d ∧ d < range.stop ∧ declarations[d]? = some declaration ∧
    declaration.name = defaultBinding ∧ declaration.scope = moduleScope ∧
    declaration.kind.hoists = false ∧ OwnKind declaration.kind

theorem DefaultDeclared.mono {declarations declarations' : Array Declaration}
    {range range' : IndexRange} (h : DefaultDeclared declarations range)
    (hkept : ∀ (i : Nat) d, declarations[i]? = some d → declarations'[i]? = some d)
    (hstart : range'.start ≤ range.start) (hstop : range.stop ≤ range'.stop) :
    DefaultDeclared declarations' range' := by
  obtain ⟨d, declaration, hd, hd', hget, hdeclaration⟩ := h
  exact ⟨d, declaration, Nat.le_trans hstart hd, Nat.lt_of_lt_of_le hd' hstop, hkept d _ hget,
    hdeclaration⟩

/-- What is known of the exporting part of an item between two places, with the tokens read and the
declarations of the item. -/
def KindRead (tokens : List BufferedToken) (first last : Cursor) (declarations : Array Declaration)
    (range : IndexRange) : ItemKind → Prop
  | .exportDeclaration strip => strip.Between first last ∧ TokenEdges tokens strip
  | .exportDefaultDeclaration strip nameAt =>
    strip.Between first last ∧ TokenEdges tokens strip ∧ ∀ offset, nameAt = some offset →
      TokenFollows tokens first last offset ∧ DefaultDeclared declarations range
  | .exportDefaultExpression strip _ =>
    strip.Between first last ∧ TokenEdges tokens strip ∧ DefaultDeclared declarations range
  | .importDeclaration | .exportList | .exportFrom | .declaration | .statement => True

theorem KindRead.mono {tokens tokens' : List BufferedToken} {first first' last : Cursor}
    {declarations declarations' : Array Declaration} {range range' : IndexRange} {kind : ItemKind}
    (h : KindRead tokens first last declarations range kind) (hbehind : tokens <:+ tokens')
    (hfirst : first'.Leads first)
    (hkept : ∀ (i : Nat) d, declarations[i]? = some d → declarations'[i]? = some d)
    (hstart : range'.start ≤ range.start) (hstop : range.stop ≤ range'.stop) :
    KindRead tokens' first' last declarations' range' kind := by
  cases kind with
  | exportDeclaration strip => exact ⟨h.1.mono hfirst (.refl _), h.2.mono hbehind.subset⟩
  | exportDefaultDeclaration strip nameAt =>
    refine ⟨h.1.mono hfirst (.refl _), h.2.1.mono hbehind.subset, fun offset hoffset => ?_⟩
    obtain ⟨hfollows, hdeclared⟩ := h.2.2 offset hoffset
    exact ⟨hfollows.mono hfirst (.refl _) hbehind, hdeclared.mono hkept hstart hstop⟩
  | exportDefaultExpression strip expr =>
    exact ⟨h.1.mono hfirst (.refl _), h.2.1.mono hbehind.subset, h.2.2.mono hkept hstart hstop⟩
  | importDeclaration | exportList | exportFrom | declaration | statement => trivial

/-- The declarations recorded from one state to another. -/
def declaredSince (s s' : ParserState) : IndexRange := ⟨s.declarations.size, s'.declarations.size⟩

/-- The names of the declarations that are imports, in order. -/
def importedNames (declarations : Array Declaration) : List String :=
  (declarations.toList.filter fun d => d.kind = .imported).map Declaration.name

/-- The names that the specifiers of import declarations bind, in order. -/
def specifiedNames (imports : Array ImportDeclaration) : List String :=
  (imports.toList.flatMap ImportDeclaration.specifiers).map ImportSpecifier.localName

theorem mem_importedNames {declarations : Array Declaration} {name : String} :
    name ∈ importedNames declarations ↔
      ∃ d ∈ declarations, d.kind = .imported ∧ d.name = name := by
  simp [importedNames, and_assoc]

theorem mem_specifiedNames {imports : Array ImportDeclaration} {name : String} :
    name ∈ specifiedNames imports ↔
      ∃ decl ∈ imports, ∃ specifier ∈ decl.specifiers, specifier.localName = name := by
  simp only [specifiedNames, List.mem_map, List.mem_flatMap, Array.mem_toList_iff]
  constructor
  · rintro ⟨specifier, ⟨decl, hdecl, hspecifier⟩, hname⟩
    exact ⟨decl, hdecl, specifier, hspecifier, hname⟩
  · rintro ⟨decl, hdecl, specifier, hspecifier, hname⟩
    exact ⟨specifier, ⟨decl, hdecl, hspecifier⟩, hname⟩

/-- From one state to another the names that specifiers bind are declared as imports, in the same
order, and no others are. -/
structure ImportsTied (scope : ScopeId) (s s' : ParserState) : Prop where
  names : ∃ added, importedNames s'.declarations = importedNames s.declarations ++ added ∧
    specifiedNames s'.imports = specifiedNames s.imports ++ added
  declared : ∀ d ∈ s'.declarations, d.kind = .imported → d ∈ s.declarations ∨ d.scope = scope

theorem ImportsTied.trans {s s₁ s' : ParserState} (h : ImportsTied scope s s₁)
    (h' : ImportsTied scope s₁ s') : ImportsTied scope s s' where
  names := by
    obtain ⟨added, hdeclared, hspecified⟩ := h.names
    obtain ⟨added', hdeclared', hspecified'⟩ := h'.names
    refine ⟨added ++ added', ?_, ?_⟩
    · rw [hdeclared', hdeclared, List.append_assoc]
    · rw [hspecified', hspecified, List.append_assoc]
  declared d hd hkind := by
    rcases h'.declared d hd hkind with hmid | hnew
    · exact h.declared d hmid hkind
    · exact .inr hnew

/-- Where no import is declared none is recorded. -/
theorem Step.importsTied {s s' : ParserState} (h : Step kinds scope s s')
    (hkinds : ¬ kinds .imported) : ImportsTied scope s s' where
  names := by
    obtain ⟨declarations, hdeclared, hkind⟩ := h.declarations
    obtain ⟨imports, himports, hrecorded⟩ := h.imports
    have hnone : (declarations.filter fun d => d.kind = .imported) = [] :=
      List.filter_eq_nil_iff.mpr fun d hd himported =>
        hkinds (of_decide_eq_true himported ▸ (hkind d hd).1)
    have hnone' : imports = [] := List.eq_nil_iff_forall_not_mem.mpr fun decl hdecl =>
      hkinds (hrecorded decl hdecl).1
    refine ⟨[], ?_, ?_⟩
    · rw [importedNames, hdeclared, List.filter_append, hnone, List.append_nil, List.append_nil]
      rfl
    · rw [specifiedNames, himports, hnone', List.append_nil, List.append_nil]
      rfl
  declared d hd hkind := by
    refine (h.declarations.mem_or hd).imp_right fun hnew => ?_
    rw [← hkind] at hkinds
    exact absurd hnew.1 hkinds

theorem ImportRead.importsTied {s s' : ParserState} (h : ImportRead scope s s') :
    ImportsTied scope s s' := by
  obtain ⟨decl, himports, added, hadded, hnames, hall⟩ := h.binds
  have himported : (added.filter fun d => d.kind = .imported) = added :=
    List.filter_eq_self.mpr fun d hd => decide_eq_true (hall d hd).2
  refine ⟨⟨decl.specifiers.map ImportSpecifier.localName, ?_, ?_⟩, fun d hd _ => ?_⟩
  · rw [importedNames, hadded, List.filter_append, himported, List.map_append, hnames]
    rfl
  · rw [specifiedNames, himports, Array.toList_push, List.flatMap_append, List.map_append,
      List.flatMap_singleton]
    rfl
  · rw [← Array.mem_toList_iff, hadded, List.mem_append, Array.mem_toList_iff] at hd
    exact hd.imp_right fun hd => (hall d hd).1

/-- What is known of an item that was read. What ties modules together declares imports only. -/
structure BodyRead (scope : ScopeId) (s : ParserState) (kind : ItemKind) (s' : ParserState) :
    Prop where
  step : Step (fun declared => kind.isModuleSyntax = true → ImportKind declared) scope s s'
  reads : ReadsOn s s'
  kind : KindRead s'.tokens.behind s.place s'.place s'.declarations (declaredSince s s') kind
  imports : ImportsTied scope s s'

/-- What ties modules together is read if it declares imports only. -/
theorem Step.bodyRead_of_isModuleSyntax {s s' : ParserState} {kind : ItemKind}
    (h : Step ImportKind scope s s') (hreads : ReadsOn s s') (himports : ImportsTied scope s s')
    (hkind : kind.isModuleSyntax = true) : BodyRead scope s kind s' := by
  refine ⟨h.weaken fun _ h _ => h, hreads, ?_, himports⟩
  cases kind with
  | importDeclaration | exportList | exportFrom => trivial
  | exportDeclaration | exportDefaultDeclaration | exportDefaultExpression | declaration
  | statement => cases hkind

/-- What declares nothing and ties modules together is read. -/
theorem Step.bodyRead_of_noKind {s s' : ParserState} {kind : ItemKind}
    (h : Step NoKind scope s s') (hreads : ReadsOn s s') (hkind : kind.isModuleSyntax = true) :
    BodyRead scope s kind s' :=
  (h.weaken fun _ h => h.elim).bodyRead_of_isModuleSyntax hreads (h.importsTied id) hkind

theorem reads_exportedDeclaration (hg : g.Steps) (ctx : Context) (strip : Span) :
    Reads OwnKind (exportedDeclaration g ctx strip) ctx.scope := by
  refine keeps_declarationCount.bindReads fun start => (hg.statement ctx).bind fun _ => ?_
  refine keeps_of_answers fun s hs => ?_
  refine answers_modify.bind fun _ s₁ hs₁ => answers_pure ?_
  subst hs₁
  refine { Step.refl hs with exports := (Recorded.refl _).append fun e he => ?_ }
  obtain ⟨d, -, rfl⟩ := List.mem_map.mp he
  trivial

theorem answers_exportedDeclaration_kind (ctx : Context) (strip : Span) (s : ParserState) :
    Answers s (exportedDeclaration g ctx strip) fun read _ => read.1 = .exportDeclaration strip :=
  .after fun _ _ => .after fun _ _ => .after fun _ _ => answers_pure rfl

/-- A function or class is read, and the binding of default exports declared if it has no name. -/
theorem answers_defaultDefinition (hg : g.Steps) {ctx : Context} (hscope : ctx.scope = moduleScope)
    (isFunction : Bool) {s : ParserState} (hs : s.tokens.Chained) :
    Answers s (defaultDefinition g ctx isFunction) fun definition s' =>
      DefinitionRead ctx.scope s definition s' ∧ (definition.name = none →
        DefaultDeclared s'.declarations (declaredSince s s')) := by
  refine answers_choice (answers_function hg ctx _ hs) (answers_classDefinition hg ctx _ hs) ?_
  intro definition s₁ h
  refine answers_ite (fun hnone => ?_) fun hsome => answers_pure ⟨h, fun hnone => ?_⟩
  · have hedge := h.nameAt.edge
    obtain ⟨place, hplace, hoffset, hfollows, -⟩ := h.nameAt
    have hspan := Span.Between.point hplace ((leads_tokenStart place).trans hfollows)
    rw [hoffset] at hspan
    have hkind : OwnKind (if isFunction then .function else .classDecl) := by
      cases isFunction <;> decide
    have hname : SpelledOrDefault s₁.tokens.behind defaultBinding (.point definition.nameAt) :=
      .inr ⟨rfl, hedge, hedge⟩
    refine (h.step.answers_declare hkind (.inl rfl) hspan hname).bind
      fun _ s₂ ⟨hstep, hlater, hpush⟩ => answers_pure ⟨?_, fun _ => ?_⟩
    · refine ⟨hstep, hlater.readsOn h.reads, ?_⟩
      exact h.nameAt.mono (.refl _) hlater.leads hlater.behind
    · have hget : s₂.declarations[s₁.declarations.size]? = _ :=
        hpush ▸ Array.getElem?_push_size
      have hhoists : (if isFunction then .function else .classDecl : DeclarationKind).hoists =
          false := by cases isFunction <;> rfl
      have hlt := (Array.getElem?_eq_some_iff.mp hget).1
      exact ⟨_, _, h.step.declarations.size_le, hlt, hget, rfl, hscope, hhoists, hkind⟩
  · exact absurd (Option.isNone_iff_eq_none.mpr hnone) hsome

theorem keeps_functionAhead (next : Token) : Keeps kinds (functionAhead next) scope :=
  keeps_ite (keeps_pure _) (keeps_ite keeps_declarationAhead (keeps_pure _))

/-- The span from the next token of a state to that of a later one belongs to a state in which both
are read. -/
theorem ReadsOn.strip {s s' s'' : ParserState} (h : ReadsOn s s') (h' : ReadsOn s' s'')
    (later : Later s' s'') {strip : Span} (hstart : strip.start = s.place.tokenStart.offset)
    (hstop : strip.stop = s'.place.tokenStart.offset) :
    strip.Between s.place s''.place ∧ TokenEdges s''.tokens.behind strip := by
  refine ⟨⟨_, _, leads_tokenStart _, h.1.trans (leads_tokenStart _), h'.1, ?_⟩, ?_, ?_⟩
  · rw [← hstart, ← hstop]
  · rw [hstart]
    exact h.edge.mono later.behind.subset
  · rw [hstop]
    exact h'.edge

/-- The default export of a function or class is recorded after that is read. -/
theorem answers_exportDefinition (hg : g.Steps) {ctx : Context} (hscope : ctx.scope = moduleScope)
    (isFunction : Bool) (exported : Span) (strip : Span) {s s' : ParserState}
    (hstep : Step OwnKind ctx.scope s s') (hreads : ReadsOn s s')
    (hstrip : ∀ s'', Later s' s'' → ReadsOn s' s'' →
      strip.Between s.place s''.place ∧ TokenEdges s''.tokens.behind strip) :
    Answers s' (do
      let definition ← defaultDefinition g ctx isFunction
      let name := (definition.name.map Prod.fst).getD defaultBinding
      addExport ⟨"default", exported, .binding name⟩
      let nameAt := if definition.name.isNone then some definition.nameAt else none
      pure (ItemKind.exportDefaultDeclaration strip nameAt, false))
      fun read s'' => BodyRead ctx.scope s read.1 s'' := by
  refine (answers_defaultDefinition hg hscope isFunction hstep.chained).bind
    fun definition s₁ ⟨hread, hname⟩ => ?_
  have hexport : Step OwnKind ctx.scope s₁ s₁ := .refl hread.step.chained
  refine (hexport.answers (keeps_addBinding _ _ _)).bind fun _ s₂ hexport => answers_pure ?_
  have hrest := hread.step.trans hexport
  have hall := hstep.trans hrest
  have hstrip := hstrip _ hrest.later (hexport.later.readsOn hread.reads)
  refine ⟨hall.weaken fun _ _ h => (nomatch h), hrest.later.readsOn hreads,
    ⟨hstrip.1, hstrip.2, fun offset hoffset => ?_⟩, hall.importsTied (by decide)⟩
  split at hoffset
  · rename_i hnone
    cases hoffset
    refine ⟨hread.nameAt.mono hstep.leads hexport.leads hexport.behind,
      (hname (Option.isNone_iff_eq_none.mp hnone)).mono ?_ ?_ ?_⟩
    · exact fun _ _ => hexport.declarations.getElem?
    · exact hstep.declarations.size_le
    · exact hexport.declarations.size_le
  · cases hoffset

/-- The default export of an expression is recorded after that is read. The binding is declared
where the expression begins, which is not read by then. -/
theorem answers_exportExpression (hg : g.Steps) {ctx : Context} (hscope : ctx.scope = moduleScope)
    (exported : Span) (strip : Span) {s s' : ParserState} (hstep : Step OwnKind ctx.scope s s')
    (hreads : ReadsOn s s')
    (hstrip : ∀ s'', Later s' s'' → ReadsOn s' s'' →
      strip.Between s.place s''.place ∧ TokenEdges s''.tokens.behind strip) :
    Answers s' (do
      declare ctx defaultBinding (.point strip.stop) .const false
      let e ← g.assignExpr (ctx.withIn true)
      let missing ← requireSemicolon
      addExport ⟨"default", exported, .binding defaultBinding⟩
      pure (ItemKind.exportDefaultExpression strip e.span, missing))
      fun read s'' => BodyRead ctx.scope s read.1 s'' := by
  refine answers_declare.bind fun _ s₁ hs₁ => ?_
  have hvalue : Step OwnKind ctx.scope s₁ s₁ := .refl (hs₁ ▸ hstep.chained)
  refine (hvalue.answers_reads (hg.assignExpr (ctx.withIn true))).bind
    fun e s₂ ⟨hvalue, hreads'⟩ => ?_
  have hend : Step OwnKind ctx.scope s₂ s₂ := .refl hvalue.chained
  refine (hend.answers keeps_requireSemicolon).bind fun missing s₃ hend => ?_
  refine (hend.answers (keeps_addBinding _ _ _)).bind fun _ s₄ hend => answers_pure ?_
  have hvalue := hvalue.trans hend
  have hreads' := hend.later.readsOn hreads'
  subst hs₁
  have hlater : Later s' s₄ := ⟨hvalue.leads, hvalue.behind, hvalue.scopes.size_le,
    hvalue.requests.size_le⟩
  have hstrip := hstrip _ hlater hreads'
  have hedges : TokenEdges s₄.tokens.behind (.point strip.stop) := ⟨hstrip.2.2, hstrip.2.2⟩
  have hkind : OwnKind .const := by decide
  have hall := hstep.declareAhead hvalue ⟨hkind,
    ⟨hstrip.1.pointAtStop, hedges, .inl rfl⟩, .inr ⟨rfl, hedges⟩⟩
  have hget := hvalue.declarations.getElem? Array.getElem?_push_size
  have hlt := (Array.getElem?_eq_some_iff.mp hget).1
  refine ⟨hall.weaken fun _ _ h => (nomatch h), hlater.readsOn hreads,
    ⟨hstrip.1, hstrip.2, ?_⟩, hall.importsTied (by decide)⟩
  exact ⟨_, _, hstep.declarations.size_le, hlt, hget, rfl, hscope, rfl, hkind⟩

/-- A default export is read whose keyword was read before. -/
theorem answers_exportDefault (hg : g.Steps) {ctx : Context} (hscope : ctx.scope = moduleScope)
    {s s₁ : ParserState} (hstep : Step OwnKind ctx.scope s s₁) (hreads : ReadsOn s s₁)
    {keyword : Span} (hkeyword : keyword.start = s.place.tokenStart.offset) :
    Answers s₁ (exportDefault g ctx keyword) fun read s' => BodyRead ctx.scope s read.1 s' := by
  have hrest : Step OwnKind ctx.scope s₁ s₁ := .refl hstep.chained
  refine (hrest.answers reads_consume.keeps).bind fun word s₂ hword => ?_
  refine (answers_peekIn OwnKind ctx.scope _ hword.chained).bind fun next s₃ hnext => ?_
  have hahead : Step OwnKind ctx.scope s₃ s₃ := .refl hnext.step.chained
  refine (hahead.answers (keeps_functionAhead next)).bind fun isFunction s₄ hahead => ?_
  have hword := hword.trans hnext.step
  have hreads := hword.later.readsOn hreads
  have hstrip : ∀ s', Later s₄ s' → ReadsOn s₄ s' →
      Span.Between s.place s'.place ⟨keyword.start, next.span.start⟩ ∧
        TokenEdges s'.tokens.behind ⟨keyword.start, next.span.start⟩ := by
    intro s' hlater hreads'
    have hreads' := hahead.readsOn hlater hreads'
    exact hreads.strip hreads' (hahead.later.trans hlater) hkeyword (hnext.start (by decide))
  have hstep := hstep.trans (hword.trans hahead)
  have hreads := hahead.later.readsOn hreads
  refine answers_ite (fun _ => ?_) fun _ => ?_
  · exact answers_exportDefinition hg hscope isFunction word.span _ hstep hreads hstrip
  · exact answers_exportExpression hg hscope word.span _ hstep hreads hstrip

/-- An export declaration is read. -/
theorem answers_exportDeclaration (hg : g.Steps) {ctx : Context}
    (hscope : ctx.scope = moduleScope) {s : ParserState} (hs : s.tokens.Chained) :
    Answers s (exportDeclaration g ctx) fun read s' => BodyRead ctx.scope s read.1 s' := by
  -- Before the kind of export is known nothing is declared.
  refine (answers_require NoKind ctx.scope _ hs).bind fun keyword s₁ ⟨hkeyword, _⟩ => ?_
  refine (answers_peekIn NoKind ctx.scope _ hkeyword.step.chained).bind fun t s₂ ht => ?_
  have hstart : keyword.span.start = s.place.tokenStart.offset := by rw [hkeyword.span]
  have hreads := ht.step.later.readsOn hkeyword.reads
  have hstep := hkeyword.step.trans ht.step
  have hrest : Step NoKind ctx.scope s₂ s₂ := .refl hstep.chained
  have hown : Step OwnKind ctx.scope s s₂ := hstep.weaken fun _ h => h.elim
  split
  · exact answers_exportDefault hg hscope hown hreads hstart
  · refine ((hrest.answers reads_exportStar.keeps).and (answers_exportStar_kind s₂)).mono ?_
    rintro ⟨_, missing⟩ s₃ ⟨hstar, rfl⟩
    exact (hstep.trans hstar).bodyRead_of_noKind (hstar.later.readsOn hreads) rfl
  · refine ((hrest.answers reads_exportList.keeps).and (answers_exportList_kind s₂)).mono ?_
    rintro ⟨_, missing⟩ s₃ ⟨hlist, rfl | rfl⟩
    · exact (hstep.trans hlist).bodyRead_of_noKind (hlist.later.readsOn hreads) rfl
    · exact (hstep.trans hlist).bodyRead_of_noKind (hlist.later.readsOn hreads) rfl
  · have hahead : Step OwnKind ctx.scope s₂ s₂ := .refl hown.chained
    refine (hahead.answers keeps_declarationAhead).bind fun ahead s₃ hahead => ?_
    refine answers_ite (fun _ => ?_) fun _ => answers_fail t _
    have hread := hahead.answers_reads (reads_exportedDeclaration hg ctx
      ⟨keyword.span.start, t.span.start⟩)
    refine (hread.and (answers_exportedDeclaration_kind ctx _ s₃)).mono ?_
    rintro ⟨_, missing⟩ s₄ ⟨⟨hread, hreads'⟩, rfl⟩
    have hall := hown.trans hread
    refine ⟨hall.weaken fun _ _ h => (nomatch h), hread.later.readsOn hreads, ?_,
      hall.importsTied (by decide)⟩
    exact hreads.strip hreads' hread.later hstart (ht.start (by decide))

end ModuleBundler
