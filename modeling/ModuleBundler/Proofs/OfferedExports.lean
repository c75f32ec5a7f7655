import ModuleBundler.Proofs.Machine.AbandonedArrow
import ModuleBundler.Proofs.Syntax.Declarations

/-!
# Exports that items add

* `Program.moduleExportName`, `Program.importClauses`, … : what is read of imports and exports
  without being recorded as such;
* `ReadSince` : a token was read after some others;
* `Offers` : from one state to another tokens are read, and what is exported stands at such;
* `offers_exportStar`, `offers_exportList`, `offers_exportDefault`, … : each form of item offers;
* `ExportsDeclared`, `declared_exportedDeclaration` : a declaration after `export` exports what it
  declares in the module scope, and declares directly;
* `offers_moduleItemBody` : any item.
-/

namespace ModuleBundler

open Phrase

/-! ## Names in lists -/

namespace Program

variable {around : Surroundings} {ctx : Context}

def moduleExportName : Routine around moduleExportName := by
  refine .bind .consume fun t => .ite (fun _ => ?_) fun _ =>
    .ite (fun _ => .pure _) fun _ => .fail _
  generalize decodeString t.text = decoded
  cases decoded with
  | none => exact .fail _
  | some name => exact .pure _

def importAttribute : Routine around importAttribute :=
  .bind .moduleExportName fun _ => .bind (.require _) fun _ => .bind (.require _) fun _ => .pure _

def exportListItem : Routine around exportListItem :=
  .bind .moduleExportName fun _ => .bind (.consumeIf _) fun _ =>
    .ite (fun _ => .bind .moduleExportName fun _ => .pure _) fun _ => .pure _

def bracedList {α : Type} {item : Parse α} (program : Routine around item) :
    Routine around (bracedList item) := by
  refine .loop (fun read => .bind (.consumeIf _) fun _ => .ite (fun _ => .pure _) fun _ => ?_) []
  refine .bind program fun next => .bind (.consumeIf _) fun _ => .ite (fun _ => .pure _) fun _ => ?_
  exact .bind (.require _) fun _ => .pure _

def functionAhead (next : Token) : Routine around (functionAhead next) :=
  .ite (fun _ => .pure _) fun _ => .ite (fun _ => .declarationAhead) fun _ => .pure _

section
variable (h : around.scope = ctx.scope)
include h

def importBinding (imported : Imported) : Routine around (importBinding ctx imported) :=
  .bind .bindingIdentifier fun (name, span) => .bind (.declare h name span .imported false) fun _ =>
    .pure _

def importSpecifier : Routine around (importSpecifier ctx) := by
  refine .bind .moduleExportName fun imported => .bind (.consumeIf _) fun _ => ?_
  refine .ite (fun _ => .importBinding h _) fun _ => .ite (fun _ => ?_) fun _ => .fail _
  exact .bind (.declare h _ _ _ _) fun _ => .pure _

def importClause : Routine around (importClause ctx) := by
  refine .bind (.consumeIf _) fun _ => .ite (fun _ => ?_) fun _ => ?_
  · exact .bind (.require _) fun _ => .bind (.importBinding h _) fun _ => .pure _
  · exact .bind (.require _) fun _ => .bracedList (.importSpecifier h)

def importClauses : Routine around (importClauses ctx) := by
  have hfrom : ∀ specifiers : List ImportSpecifier, Routine around (do
      let _ ← ModuleBundler.require .keywordFrom
      Pure.pure specifiers) := fun specifiers => .bind (.require _) fun _ => .pure _
  refine .bind .peek fun t => .ite (fun _ => ?_) fun _ => .bind (.importClause h) hfrom
  refine .bind (.importBinding h _) fun first => .bind (.consumeIf _) fun _ => .ite ?_ ?_
  · exact fun _ => .bind (.importClause h) fun rest => hfrom _
  · exact fun _ => hfrom _

end

def defaultDefinition {g : Grammar} {depth : Nat} (hg : g.Programs depth)
    (h : around.Fit depth ctx) (isFunction : Bool) :
    Routine around (defaultDefinition g ctx isFunction) :=
  .choice (fun _ => .function hg h _) (fun _ => .classDefinition hg h _) fun _ =>
    .optional (fun _ => .declare h.scope _ _ _ _) (.pure _)

end Program

/-- The programs for what nests in the items of a module. -/
def moduleGrammarPrograms : moduleGrammar.Programs 0 :=
  .ofDepth maxNesting (Nat.zero_add maxNesting)

/-! ## Reading on -/

/-- A token with the span was read after some others, the latest of them first. -/
def ReadSince (earlier later : List BufferedToken) (span : Span) : Prop :=
  ∃ b before, (b :: before) <:+ later ∧ earlier <:+ before ∧ b.token.span = span

theorem ReadSince.mono {earlier earlier' later later' : List BufferedToken} {span : Span}
    (h : ReadSince earlier later span) (hearlier : earlier' <:+ earlier)
    (hlater : later <:+ later') : ReadSince earlier' later' span := by
  obtain ⟨b, before, hb, hbefore, hspan⟩ := h
  exact ⟨b, before, hb.trans hlater, hearlier.trans hbefore, hspan⟩

/-- From one state to another tokens are read, and nothing is exported. -/
structure Quiet (source : String) (s s' : ParserState) : Prop where
  text : s'.tokens.OfText source
  behind : s.tokens.behind <:+ s'.tokens.behind
  exports : s'.exports = s.exports

theorem Quiet.refl {source : String} {s : ParserState} (hs : s.tokens.OfText source) :
    Quiet source s s := ⟨hs, List.suffix_refl _, rfl⟩

theorem Quiet.trans {source : String} {s s' s'' : ParserState} (h : Quiet source s s')
    (h' : Quiet source s' s'') : Quiet source s s'' :=
  ⟨h'.text, h.behind.trans h'.behind, h'.exports.trans h.exports⟩

/-- A program of the machine exports nothing. -/
theorem Program.quiet {α : Type} {reading : Parse α} (program : Routine .top reading)
    {source : String} {s : ParserState} (hs : s.tokens.OfText source) :
    Answers s reading fun _ s' => Quiet source s s' := by
  intro a s' hread
  have hat : Machine.At source ⟨s, .top⟩ s .top := ⟨rfl, hs, s.tokens.ahead, rfl⟩
  obtain ⟨-, hshows⟩ := program.does source ⟨s, .top⟩ s hs hat.shows
  obtain ⟨-, htext, ahead, hstate⟩ := hshows a s' hread .top rfl
  have hgrown := program.grows source ⟨s, .top⟩ hs
  have hbehind := hgrown.behind
  have hexports := hgrown.exports
  rw [hstate] at hbehind hexports
  exact ⟨htext, hbehind, hexports⟩

/-- From one state to another tokens are read, and what is exported stands at such. So do the spans
that are kept in mind. -/
structure Offers (source : String) (s : ParserState) (kept : List Span) (s' : ParserState) :
    Prop where
  text : s'.tokens.OfText source
  behind : s.tokens.behind <:+ s'.tokens.behind
  exports : ∃ added, s'.exports.toList = s.exports.toList ++ added ∧
    ∀ e ∈ added, ReadSince s.tokens.behind s'.tokens.behind e.span
  kept : ∀ span ∈ kept, ReadSince s.tokens.behind s'.tokens.behind span

namespace Offers

variable {source : String} {s s' s'' : ParserState} {kept : List Span} {α : Type}

theorem refl (hs : s.tokens.OfText source) : Offers source s [] s where
  text := hs
  behind := List.suffix_refl _
  exports := ⟨[], (List.append_nil _).symm, fun _ h => nomatch h⟩
  kept _ h := nomatch h

/-- More tokens are read, and nothing is exported. -/
theorem goesOn (h : Offers source s kept s') (hquiet : Quiet source s' s'') :
    Offers source s kept s'' := by
  obtain ⟨added, heq, hadded⟩ := h.exports
  refine ⟨hquiet.text, h.behind.trans hquiet.behind, ⟨added, hquiet.exports ▸ heq, fun e he => ?_⟩,
    fun span hspan => ?_⟩
  · exact (hadded e he).mono (List.suffix_refl _) hquiet.behind
  · exact (h.kept span hspan).mono (List.suffix_refl _) hquiet.behind

/-- Before, more tokens were read, and nothing was exported. -/
theorem after {s₀ : ParserState} (h : Offers source s kept s') (hquiet : Quiet source s₀ s) :
    Offers source s₀ kept s' := by
  obtain ⟨added, heq, hadded⟩ := h.exports
  refine ⟨h.text, hquiet.behind.trans h.behind, ⟨added, hquiet.exports ▸ heq, fun e he => ?_⟩,
    fun span hspan => ?_⟩
  · exact (hadded e he).mono hquiet.behind (List.suffix_refl _)
  · exact (h.kept span hspan).mono hquiet.behind (List.suffix_refl _)

/-- One more span is kept in mind. -/
theorem keep (h : Offers source s kept s') {span : Span}
    (hspan : ReadSince s.tokens.behind s'.tokens.behind span) : Offers source s (span :: kept) s' :=
  { h with kept := List.forall_mem_cons.mpr ⟨hspan, h.kept⟩ }

/-- Some of the spans are not needed any more. -/
theorem mono (h : Offers source s kept s') {kept' : List Span} (hsub : kept' ⊆ kept) :
    Offers source s kept' s' := { h with kept := fun span hspan => h.kept span (hsub hspan) }

theorem answers (h : Offers source s kept s') {reading : Parse α}
    (program : Routine .top reading) :
    Answers s' reading fun _ s'' => Offers source s kept s'' :=
  (program.quiet h.text).mono fun _ _ => h.goesOn

/-- The next token is read and kept in mind. -/
theorem answers_consume (h : Offers source s kept s') :
    Answers s' consume fun t s'' => Offers source s (t.span :: kept) s'' := by
  intro t s'' hread
  have hoffers := h.answers .consume hread
  obtain ⟨ahead, hadvance, -⟩ := h.text.advance_eq .standard
  obtain ⟨ht, hbehind⟩ : t = (TokenStream.readAt .standard s'.tokens.position).token ∧
      s''.tokens.behind = TokenStream.readAt .standard s'.tokens.position :: s'.tokens.behind := by
    cases hread
    exact ⟨congrArg Prod.fst hadvance, congrArg (·.2.behind) hadvance⟩
  exact hoffers.keep ⟨_, _, hbehind ▸ List.suffix_refl _, h.behind, congrArg Token.span ht.symm⟩

/-- A name in a list is read and kept in mind. -/
theorem answers_moduleExportName (h : Offers source s kept s') :
    Answers s' moduleExportName fun name s'' => Offers source s (name.span :: kept) s'' := by
  refine h.answers_consume.bind fun t s₁ h => answers_ite (fun _ => ?_) fun _ => ?_
  · cases decodeString t.text with
    | none => exact answers_fail t _
    | some name => exact answers_pure h
  · exact answers_ite (fun _ => answers_pure h) fun _ => answers_fail t _

/-- What was kept in mind is exported. -/
theorem answers_addExport (h : Offers source s kept s') {specifier : ExportSpecifier}
    (hspan : specifier.span ∈ kept) :
    Answers s' (addExport specifier) fun _ s'' => Offers source s kept s'' := by
  obtain ⟨added, heq, hadded⟩ := h.exports
  refine answers_modify.mono fun _ s'' hs'' => ?_
  rw [hs'']
  refine { h with exports := ⟨added ++ [specifier], ?_, ?_⟩ }
  · rw [Array.toList_push, heq, List.append_assoc]
  · exact List.forall_mem_append.mpr ⟨hadded, List.forall_mem_singleton.mpr (h.kept _ hspan)⟩

/-- Another module is asked for. -/
theorem answers_moduleRequest (h : Offers source s kept s') :
    Answers s' moduleRequest fun _ s'' => Offers source s kept s'' := by
  have hrecord : ∀ {s₁ : ParserState} (request : ModuleRequest), Offers source s kept s₁ →
      Answers s₁ (do
        let s ← get
        set { s with requests := s.requests.push request }
        pure s.requests.size) fun _ s'' => Offers source s kept s'' := by
    intro s₁ request h _ s'' heq
    cases heq
    exact { h with }
  refine (h.answers (.require _)).bind fun t s₁ h => ?_
  split
  · exact answers_fail t _
  · refine (h.answers .peek2).bind fun (a, b) s₂ h => answers_ite (fun _ => ?_) fun _ => hrecord _ h
    refine (h.answers .consume).bind fun _ s₃ h => (h.answers .consume).bind fun _ s₄ h => ?_
    refine (h.answers (.separatedList _ _ .importAttribute)).bind fun _ s₅ h => hrecord _ h

/-- The end of a statement is read, and what was kept in mind is not needed any more. -/
theorem answers_end (h : Offers source s kept s') {kind : ItemKind} :
    Answers s' (do
      let missing ← requireSemicolon
      pure (kind, missing)) fun read s'' => read.1 = kind ∧ Offers source s [] s'' :=
  (h.answers .requireSemicolon).bind fun _ _ h => answers_pure ⟨rfl, h.mono (List.nil_subset _)⟩

end Offers

/-! ## Exports of other modules and lists of exports -/

section
variable {source : String} {s s' : ParserState}

theorem offers_exportStar (h : Offers source s [] s') :
    Answers s' exportStar fun read s'' =>
      read.1 = .exportFrom ∧ Offers source s [] s'' := by
  refine (h.answers .consume).bind fun _ s₁ h => (h.answers (.consumeIf _)).bind fun _ s₂ h => ?_
  refine answers_ite (fun _ => ?_) fun _ => ?_
  · refine h.answers_moduleExportName.bind fun exported s₃ h => ?_
    refine (h.answers (.require _)).bind fun _ s₄ h => ?_
    refine h.answers_moduleRequest.bind fun request s₅ h => ?_
    refine (h.answers_addExport List.mem_cons_self).bind fun _ s₆ h => h.answers_end
  · refine (h.answers (.require _)).bind fun _ s₃ h => ?_
    refine h.answers_moduleRequest.bind fun request s₄ h => ?_
    refine answers_modify.bind fun _ s₅ hs₅ => ?_
    have h : Offers source s [] s₅ := by
      rw [hs₅]
      exact { h with }
    exact h.answers_end

/-- The name of an export is kept in mind, and so are those before it. -/
theorem offers_exportListItem {kept : List Span} (h : Offers source s kept s') :
    Answers s' exportListItem fun names s'' => Offers source s (names.2.span :: kept) s'' := by
  refine h.answers_moduleExportName.bind fun name s₁ hname => ?_
  refine (hname.answers (.consumeIf _)).bind fun _ s₂ hname => answers_ite (fun _ => ?_) fun _ => ?_
  · refine hname.answers_moduleExportName.bind fun exported s₃ h => answers_pure ?_
    exact h.mono (List.cons_subset_cons _ (List.subset_cons_self _ _))
  · exact answers_pure hname

/-- Names in braces are read and kept in mind. -/
theorem offers_exportNames (h : Offers source s [] s') :
    Answers s' (bracedList exportListItem) fun names s'' =>
      Offers source s (names.map fun name => name.2.span) s'' := by
  refine answers_loop (fun read s₁ => Offers source s (read.map fun name => name.2.span) s₁)
    (fun read s₁ h => ?_) [] h
  refine (h.answers (.consumeIf _)).bind fun _ s₂ h =>
    answers_ite (fun _ => answers_pure h) fun _ => ?_
  refine (offers_exportListItem h).bind fun next s₃ h => ?_
  have hsub : ((read ++ [next]).map fun name => name.2.span) ⊆
      next.2.span :: read.map fun name => name.2.span := by
    rw [List.map_append]
    exact (List.perm_append_singleton _ _).subset
  have h := h.mono hsub
  refine (h.answers (.consumeIf _)).bind fun _ s₄ h =>
    answers_ite (fun _ => answers_pure h) fun _ => ?_
  exact (h.answers (.require _)).bind fun _ s₅ h => answers_pure h

theorem offers_addOwnExports {kept : List Span} (h : Offers source s kept s')
    (names : List (ModuleExportName × ModuleExportName))
    (hnames : ∀ name ∈ names, name.2.span ∈ kept) :
    Answers s' (addOwnExports names) fun _ s'' => Offers source s kept s'' := by
  induction names generalizing s' with
  | nil => exact answers_pure h
  | cons name rest ih =>
    obtain ⟨hname, hrest⟩ := List.forall_mem_cons.mp hnames
    refine answers_ite (fun _ => ?_) fun _ => nofun
    exact (h.answers_addExport hname).bind fun _ s₁ h => ih h hrest

theorem offers_addReexports {kept : List Span} (h : Offers source s kept s') (request : Nat)
    (names : List (ModuleExportName × ModuleExportName))
    (hnames : ∀ name ∈ names, name.2.span ∈ kept) :
    Answers s' (addReexports request names) fun _ s'' => Offers source s kept s'' := by
  induction names generalizing s' with
  | nil => exact answers_pure h
  | cons name rest ih =>
    obtain ⟨hname, hrest⟩ := List.forall_mem_cons.mp hnames
    exact (h.answers_addExport hname).bind fun _ s₁ h => ih h hrest

theorem offers_exportList (h : Offers source s [] s') :
    Answers s' exportList fun read s'' =>
      (read.1 = .exportFrom ∨ read.1 = .exportList) ∧ Offers source s [] s'' := by
  refine (h.answers .consume).bind fun _ s₁ h => (offers_exportNames h).bind fun names s₂ h => ?_
  have hnames : ∀ name ∈ names, name.2.span ∈ names.map fun name => name.2.span := fun _ h =>
    List.mem_map_of_mem h
  refine (h.answers (.consumeIf _)).bind fun _ s₃ h => answers_ite (fun _ => ?_) fun _ => ?_
  · refine h.answers_moduleRequest.bind fun request s₄ h => ?_
    refine (offers_addReexports h request names hnames).bind fun _ s₅ h => ?_
    exact h.answers_end.mono fun _ _ h => ⟨.inl h.1, h.2⟩
  · refine (offers_addOwnExports h names hnames).bind fun _ s₄ h => ?_
    exact h.answers_end.mono fun _ _ h => ⟨.inr h.1, h.2⟩

/-! ## Imports and default exports -/

theorem offers_importDeclaration (h : Offers source s [] s') :
    Answers s' (importDeclaration .module) fun read s'' =>
      read.1 = .importDeclaration ∧ Offers source s [] s'' := by
  have hrequest : ∀ (specifiers : List ImportSpecifier) (s₁ : ParserState), Offers source s [] s₁ →
      Answers s₁ (do
        let request ← moduleRequest
        let missing ← requireSemicolon
        modify fun s => { s with imports := s.imports.push ⟨request, specifiers⟩ }
        pure (ItemKind.importDeclaration, missing)) fun read s'' =>
          read.1 = .importDeclaration ∧ Offers source s [] s'' := by
    intro specifiers s₁ h
    refine h.answers_moduleRequest.bind fun request s₂ h => ?_
    refine (h.answers .requireSemicolon).bind fun missing s₃ h => ?_
    refine answers_modify.bind fun _ s₄ hs₄ => answers_pure ⟨rfl, ?_⟩
    rw [hs₄]
    exact { h with }
  refine (h.answers (.require _)).bind fun _ s₁ h => (h.answers .peek).bind fun t s₂ h => ?_
  refine answers_ite (fun _ => hrequest [] s₂ h) fun _ => ?_
  exact (h.answers (.importClauses Surroundings.fit_top.scope)).bind hrequest

theorem offers_exportDefault (h : Offers source s [] s') (keyword : Span) :
    Answers s' (exportDefault moduleGrammar .module keyword) fun read s'' =>
      (∀ strip, read.1 ≠ .exportDeclaration strip) ∧ Offers source s [] s'' := by
  refine h.answers_consume.bind fun word s₁ h => ?_
  refine (h.answers (.peekIn _)).bind fun next s₂ h => ?_
  refine (h.answers (.functionAhead next)).bind fun isFunction s₃ h => ?_
  refine answers_ite (fun _ => ?_) fun _ => ?_
  · refine (h.answers (.defaultDefinition moduleGrammarPrograms Surroundings.fit_top _)).bind
      fun definition s₄ h => ?_
    refine (h.answers_addExport List.mem_cons_self).bind fun _ s₅ h => answers_pure ⟨nofun, ?_⟩
    exact h.mono (List.nil_subset _)
  · refine (h.answers (.declare rfl ..)).bind fun _ s₄ h => ?_
    refine (h.answers (moduleGrammarPrograms.assignExpr Surroundings.fit_top)).bind fun e s₅ h => ?_
    refine (h.answers .requireSemicolon).bind fun missing s₆ h => ?_
    refine (h.answers_addExport List.mem_cons_self).bind fun _ s₇ h => answers_pure ⟨nofun, ?_⟩
    exact h.mono (List.nil_subset _)

end

/-! ## Declarations -/

/-- A declaration is read after `export`. It declares directly, and exports are added for what it
declares in the module scope, in order. -/
structure ExportsDeclared (s s' : ParserState) : Prop where
  text : ∃ o : Outline, o.DeclaresDirectly ∧ o.placeholders = [] ∧
    TextRead Context.module.setting o s s'
  exports : s'.exports.toList =
    s.exports.toList ++ declaredExports (s'.declarations.toList.drop s.declarations.size)

section
variable {source : String} {s s' : ParserState}

/-- What a declaration exports stands at the tokens of the declaration. -/
theorem ExportsDeclared.offers (h : ExportsDeclared s s') (hs' : s'.tokens.OfText source) :
    Offers source s [] s' := by
  obtain ⟨o, -, hnone, htext⟩ := h.text
  have hbehind := htext.behind
  have hsuffix : s.tokens.behind <:+ s'.tokens.behind := hbehind ▸ List.suffix_append _ _
  refine ⟨hs', hsuffix, ⟨_, h.exports, fun e he => ?_⟩, fun _ h => nomatch h⟩
  obtain ⟨d, hd, rfl⟩ := List.mem_map.mp he
  have hd := (List.mem_filter.mp hd).1
  rw [htext.declarations, ← Array.length_toList, List.drop_left] at hd
  rcases Outline.spelled_of_mem_declarations hd with ⟨b, hb, hspan, -⟩ | ⟨offset, hoffset, -⟩
  · obtain ⟨before, after, htokens⟩ := List.append_of_mem (List.mem_reverse.mpr hb)
    refine ⟨b, after ++ s.tokens.behind, ⟨before, ?_⟩, List.suffix_append _ _, hspan.symm⟩
    rw [hbehind, htokens, List.append_assoc, List.cons_append]
  · rw [hnone] at hoffset
    exact absurd hoffset List.not_mem_nil

theorem moduleGrammar_statement : moduleGrammar.statement = statementLevel (.ofDepth 999) := rfl

/-- The declaration that stands where the parser is gets read, and is exported. -/
theorem declared_exportedDeclaration (hs : s.Steady) (hsource : s.tokens.OfText source)
    (hahead : s.AtDeclaration) (strip : Span) :
    Answers s (exportedDeclaration moduleGrammar .module strip) fun _ s' =>
      Parsed declarationText Context.module.setting s s' ∧ s'.tokens.OfText source ∧
        s'.exports.toList = s.exports.toList ++
          declaredExports (s'.declarations.toList.drop s.declarations.size) := by
  have hparses := parses_declaration (Grammar.conforms_ofDepth 999) .module hs hahead
  rw [← moduleGrammar_statement] at hparses
  refine (parses_exportedDeclaration .module strip rfl hparses).and ?_
  refine Answers.bind answers_declarationCount fun start s₁ ⟨hstart, hs₁⟩ => ?_
  rw [hs₁, hstart]
  refine ((moduleGrammarPrograms.statement Surroundings.fit_top).quiet hsource).bind
    fun missing s₂ hquiet => answers_modify.bind fun _ s₃ hs₃ => answers_pure ?_
  rw [hs₃]
  refine ⟨hquiet.text, ?_⟩
  rw [← hquiet.exports, Array.toList_append]

/-- What is read from the word `export` on offers, and a declaration after it is exported. -/
theorem offers_exportDeclaration (hs : s.Steady) (hsource : s.tokens.OfText source) :
    Answers s (exportDeclaration moduleGrammar .module) fun read s' => Offers source s [] s' ∧
      ∀ strip, read.1 = .exportDeclaration strip → ExportsDeclared s s' := by
  have hmode : LexMode.standard ≠ .templateContinue := by decide
  have hkeyword := (hs.taken_requireIn hmode .keywordExport).and
    ((Program.require .keywordExport).quiet hsource)
  refine Answers.bind hkeyword fun keyword s₁ ⟨⟨ht, htype, htaken⟩, hquiet⟩ => ?_
  have hpeek := (htaken.steady.unread_peekIn hmode).and
    (Program.peek.quiet hquiet.text)
  refine Answers.bind hpeek fun t s₂ ⟨⟨hunread, _⟩, hquiet'⟩ => ?_
  have hoffers := (Offers.refl hsource).goesOn (hquiet.trans hquiet')
  split
  · refine (offers_exportDefault hoffers _).mono fun _ _ ⟨hkind, h⟩ => ⟨h, fun strip heq => ?_⟩
    exact absurd heq (hkind strip)
  · refine (offers_exportStar hoffers).mono fun _ _ ⟨hkind, h⟩ => ⟨h, fun strip heq => ?_⟩
    exact nomatch hkind.symm.trans heq
  · refine (offers_exportList hoffers).mono fun _ _ ⟨hkind, h⟩ => ⟨h, fun strip heq => ?_⟩
    rcases hkind with hkind | hkind
    · exact nomatch hkind.symm.trans heq
    · exact nomatch hkind.symm.trans heq
  · have hlook := (answers_declarationAhead hunread.steady).and
      (Program.declarationAhead.quiet hquiet'.text)
    refine Answers.bind hlook fun ahead s₃ ⟨⟨hunread', hahead⟩, hquiet''⟩ => ?_
    refine answers_ite (fun htrue => ?_) fun _ => answers_fail t _
    have hunread := hunread.trans hunread'
    refine (declared_exportedDeclaration hunread'.steady hquiet''.text
      (hunread'.atDeclaration (hahead.mp htrue)) _).mono fun _ s₄ ⟨hparsed, htext, hexports⟩ => ?_
    have hword := htaken.tok nofun (ht ▸ htype) Context.module.setting
    obtain ⟨o, hderives, hread⟩ := hword.cons (hparsed.after hunread).single
    have hdeclared : ExportsDeclared s s₄ := by
      refine ⟨⟨o, hderives.declaresDirectly syntaxRules_keepsVars syntaxRules_declaresDirectly rfl,
        hderives.placeholders_eq_nil syntaxRules_isNamed rfl, hread⟩, ?_⟩
      rw [hexports, (hquiet.trans (hquiet'.trans hquiet'')).exports, hunread.declarations,
        htaken.declarations]
    exact ⟨hdeclared.offers htext, fun _ _ => hdeclared⟩

/-- What was looked at before makes no difference. -/
theorem ExportsDeclared.after {s₀ : ParserState} (h : ExportsDeclared s s') (hunread : Unread s₀ s)
    (hexports : s.exports = s₀.exports) : ExportsDeclared s₀ s' := by
  obtain ⟨o, ho, hnone, htext⟩ := h.text
  refine ⟨⟨o, ho, hnone, (hunread.textRead _).trans htext⟩, ?_⟩
  rw [← hexports, ← hunread.declarations]
  exact h.exports

/-- Any item offers, and a declaration after `export` is exported. -/
theorem offers_moduleItemBody (hs : s.Steady) (hsource : s.tokens.OfText source) (first : Token) :
    Answers s (moduleItemBody moduleGrammar .module first) fun read s' => Offers source s [] s' ∧
      ∀ strip, read.1 = .exportDeclaration strip → ExportsDeclared s s' := by
  have hrest : ∀ (isImport : Bool) (s₁ : ParserState), Unread s s₁ → Quiet source s s₁ →
      Answers s₁ (do
        if isImport then importDeclaration .module
        else if first.type = .keywordExport then exportDeclaration moduleGrammar .module
        else
          let isDeclaration ← declarationAhead
          let missing ← moduleGrammar.statement .module
          pure (if isDeclaration then ItemKind.declaration else .statement, missing))
        fun read s' => Offers source s [] s' ∧
          ∀ strip, read.1 = .exportDeclaration strip → ExportsDeclared s s' := by
    intro isImport s₁ hunread hquiet
    have hoffers := (Offers.refl hsource).goesOn hquiet
    refine answers_ite (fun _ => ?_) fun _ => answers_ite (fun _ => ?_) fun _ => ?_
    · refine (offers_importDeclaration hoffers).mono fun _ _ ⟨hkind, h⟩ => ⟨h, fun strip heq => ?_⟩
      exact nomatch hkind.symm.trans heq
    · refine (offers_exportDeclaration hunread.steady hquiet.text).mono
        fun _ s₂ ⟨h, hdeclared⟩ => ?_
      refine ⟨h.after hquiet, fun strip heq => ?_⟩
      exact (hdeclared strip heq).after hunread hquiet.exports
    · refine (hoffers.answers .declarationAhead).bind fun isDeclaration s₂ h => ?_
      refine (h.answers (moduleGrammarPrograms.statement Surroundings.fit_top)).bind
        fun missing s₃ h => answers_pure ⟨h, fun strip heq => ?_⟩
      cases isDeclaration <;> cases heq
  refine answers_ite (fun _ => ?_) fun _ => hrest false s (.refl hs) (.refl hsource)
  refine Answers.bind (hs.unread_peek2.and (Program.peek2.quiet hsource))
    fun _ s₁ ⟨⟨hunread, _⟩, hquiet⟩ => hrest _ s₁ hunread hquiet

end

end ModuleBundler
