import ModuleBundler.Proofs.BuiltScopes
import ModuleBundler.Proofs.Ending.Statement

/-!
# The loops of module items end

* `ends_bracedList`, `ends_moduleRequest`, `ends_importDeclaration`, … : one lemma for each reader
  of imports and exports;
* `ends_moduleItem`, `ends_moduleRest` : items of a module, and all of them.
-/

namespace ModuleBundler

variable {source : String} {g : Grammar}

/-! ## Imports -/

theorem ends_moduleExportName : Ends source moduleExportName := by
  refine ends_consume.bind fun t => ends_ite ?_ (ends_ite (ends_pure _) (ends_fail t _))
  split
  · exact ends_pure _
  · exact ends_fail t _

theorem ends_importAttribute : Ends source importAttribute := by
  refine ends_moduleExportName.bind fun _ => (ends_require _).bind fun _ => ?_
  exact (ends_require _).bind fun _ => ends_pure _

theorem ends_moduleRequest : Ends source moduleRequest := by
  refine (ends_require _).bind fun t => ?_
  split
  · exact ends_fail t _
  · rename_i specifier _
    have hrequest : Ends source (do
        let s ← get
        set { s with requests := s.requests.push ⟨specifier, t.span⟩ }
        pure s.requests.size) := ends_record fun s => ⟨_, _, rfl, rfl⟩
    have hattributes : Ends source (separatedList .comma .braceClose importAttribute) :=
      ends_separatedList isProper_comma .braceClose ends_importAttribute
    refine Ends.peek2.bind fun (a, b) => ?_
    refine ends_ite (ends_consume.bind fun _ => ends_consume.bind fun _ => ?_) hrequest
    exact hattributes.bind fun _ => hrequest

theorem ends_importBinding (ctx : Context) (imported : Imported) :
    Ends source (importBinding ctx imported) :=
  ends_bindingIdentifier.bind fun (_, _) => (ends_declare ..).bind fun _ => ends_pure _

theorem ends_spanFail {α : Type} (span : Span) {cause : SyntaxError.Cause}
    (h : cause ≠ .unexpectedEnd) : Ends source (span.fail cause : Parse α) :=
  ends_throw fun hstall => h hstall.1

theorem ends_importSpecifier (ctx : Context) : Ends source (importSpecifier ctx) := by
  refine ends_moduleExportName.bind fun imported => (ends_consumeIf _).bind fun _ => ?_
  refine ends_ite (ends_importBinding ..) (ends_ite ?_ (ends_spanFail _ nofun))
  exact (ends_declare ..).bind fun _ => ends_pure _

/-- Another item comes after a comma alone. -/
theorem ends_bracedList {α : Type} {item : Parse α} (h : Ends source item) :
    Ends source (bracedList item) := by
  refine ends_loop (fun read => ?_) (fun read => ?_) []
  · refine (ends_consumeIf _).bind fun _ => ends_ite (ends_pure _) (h.bind fun next => ?_)
    refine (ends_consumeIf _).bind fun _ => ends_ite (ends_pure _) ?_
    exact (ends_require _).bind fun _ => ends_pure _
  · refine (ends_consumeIf _).bindAdvancing fun _ => advancing_ite (advancing_pure id) ?_
    refine h.bindAdvancing fun next => ?_
    refine advancing_consumeIfElse isProper_comma (fun _ => ends_pure _) fun _ => ?_
    exact (ends_require _).bindAdvancing fun _ => advancing_pure id

theorem ends_importClause (ctx : Context) : Ends source (importClause ctx) := by
  refine (ends_consumeIf _).bind fun _ => ends_ite ((ends_require _).bind fun _ => ?_) ?_
  · exact (ends_importBinding ..).bind fun _ => ends_pure _
  · exact (ends_require _).bind fun _ => ends_bracedList (ends_importSpecifier ctx)

theorem ends_importClauses (ctx : Context) : Ends source (importClauses ctx) := by
  have hfrom : ∀ specifiers : List ImportSpecifier, Ends source (do
      let _ ← require .keywordFrom
      pure specifiers) := fun _ => (ends_require _).bind fun _ => ends_pure _
  refine ends_peek.bind fun t => ends_ite ?_ ((ends_importClause ctx).bind hfrom)
  refine (ends_importBinding ..).bind fun first => (ends_consumeIf _).bind fun _ => ?_
  refine ends_ite ((ends_importClause ctx).bind fun _ => ?_) ((ends_pure _).bind hfrom)
  exact (ends_pure _).bind hfrom

theorem ends_importDeclaration (ctx : Context) : Ends source (importDeclaration ctx) := by
  have hrest : ∀ specifiers : List ImportSpecifier, Ends source (do
      let request ← moduleRequest
      let missing ← requireSemicolon
      modify fun s => { s with imports := s.imports.push ⟨request, specifiers⟩ }
      pure (ItemKind.importDeclaration, missing)) := by
    intro specifiers
    refine ends_moduleRequest.bind fun _ => ends_requireSemicolon.bind fun _ => ?_
    exact (ends_modify fun _ => by rfl).bind fun _ => ends_pure _
  refine (ends_require _).bind fun _ => ends_peek.bind fun t => ?_
  exact ends_choice (ends_pure _) (ends_importClauses ctx) hrest

/-! ## Exports -/

theorem ends_addExport (specifier : ExportSpecifier) : Ends source (addExport specifier) :=
  ends_modify fun _ => rfl

theorem ends_exportStar : Ends source exportStar := by
  have hend : ∀ _ : Unit, Ends source (do
      let missing ← requireSemicolon
      pure (ItemKind.exportFrom, missing)) :=
    fun _ => ends_requireSemicolon.bind fun _ => ends_pure _
  refine ends_consume.bind fun _ => (ends_consumeIf _).bind fun _ => ends_ite ?_ ?_
  · refine ends_moduleExportName.bind fun _ => (ends_require _).bind fun _ => ?_
    exact ends_moduleRequest.bind fun _ => (ends_addExport _).bind hend
  · refine (ends_require _).bind fun _ => ends_moduleRequest.bind fun _ => ?_
    exact (ends_modify fun _ => by rfl).bind hend

theorem ends_exportListItem : Ends source exportListItem := by
  refine ends_moduleExportName.bind fun _ => (ends_consumeIf _).bind fun _ => ?_
  exact ends_ite (ends_moduleExportName.bind fun _ => ends_pure _) (ends_pure _)

theorem ends_addOwnExports (names : List (ModuleExportName × ModuleExportName)) :
    Ends source (addOwnExports names) := by
  induction names with
  | nil => exact ends_pure _
  | cons name rest ih =>
    exact ends_ite ((ends_addExport _).bind fun _ => ih) (ends_spanFail _ nofun)

theorem ends_addReexports (request : Nat) (names : List (ModuleExportName × ModuleExportName)) :
    Ends source (addReexports request names) := by
  induction names with
  | nil => exact ends_pure _
  | cons name rest ih => exact (ends_addExport _).bind fun _ => ih

theorem ends_exportList : Ends source exportList := by
  refine ends_consume.bind fun _ => (ends_bracedList ends_exportListItem).bind fun names => ?_
  refine (ends_consumeIf _).bind fun _ => ends_ite ?_ ?_
  · refine ends_moduleRequest.bind fun _ => (ends_addReexports ..).bind fun _ => ?_
    exact ends_requireSemicolon.bind fun _ => ends_pure _
  · exact (ends_addOwnExports names).bind fun _ => ends_requireSemicolon.bind fun _ => ends_pure _

theorem ends_declarationCount : Ends source declarationCount :=
  ends_record fun s => ⟨_, s, rfl, rfl⟩

theorem ends_referenceCount : Ends source referenceCount := ends_record fun s => ⟨_, s, rfl, rfl⟩

theorem ends_functionAhead (next : Token) : Ends source (functionAhead next) :=
  ends_ite (ends_pure _) (ends_ite ends_declarationAhead (ends_pure _))

section
variable (hg : g.Ending source)
include hg

theorem ends_exportedDeclaration (ctx : Context) (strip : Span) :
    Ends source (exportedDeclaration g ctx strip) := by
  refine ends_declarationCount.bind fun start => (hg.statement ctx).bind fun _ => ?_
  exact (ends_modify fun _ => by rfl).bind fun _ => ends_pure _

theorem ends_defaultDefinition (ctx : Context) (isFunction : Bool) :
    Ends source (defaultDefinition g ctx isFunction) := by
  refine ends_choice (ends_function hg ctx _) (ends_classDefinition hg ctx _) fun _ => ?_
  exact ends_optional (ends_declare ..) (ends_pure _)

theorem ends_exportDefault (ctx : Context) (keyword : Span) :
    Ends source (exportDefault g ctx keyword) := by
  refine ends_consume.bind fun word => (Ends.peekIn (by decide)).bind fun next => ?_
  refine (ends_functionAhead next).bind fun isFunction => ends_ite ?_ ?_
  · refine (ends_defaultDefinition hg ctx _).bind fun definition => ?_
    exact (ends_modify fun _ => by rfl).bind fun _ => ends_pure _
  · refine (ends_declare ..).bind fun _ => (hg.assignExpr _).bind fun e => ?_
    refine ends_requireSemicolon.bind fun missing => ?_
    exact (ends_modify fun _ => by rfl).bind fun _ => ends_pure _

theorem ends_exportDeclaration (ctx : Context) :
    Ends source (exportDeclaration g ctx) := by
  refine (ends_require _).bind fun keyword => ends_peek.bind fun t => ?_
  split
  · exact ends_exportDefault hg ctx _
  · exact ends_exportStar
  · exact ends_exportList
  · refine ends_declarationAhead.bind fun _ => ?_
    exact ends_ite (ends_exportedDeclaration hg ctx _) (ends_fail t _)

theorem ends_moduleItemBody (ctx : Context) (first : Token) :
    Ends source (moduleItemBody g ctx first) := by
  have hrest : ∀ isImport : Bool, Ends source (do
      if isImport then importDeclaration ctx
      else if first.type = .keywordExport then exportDeclaration g ctx
      else
        let isDeclaration ← declarationAhead
        let missing ← g.statement ctx
        pure (if isDeclaration then ItemKind.declaration else .statement, missing)) := by
    intro isImport
    refine ends_ite (ends_importDeclaration ctx) (ends_ite (ends_exportDeclaration hg ctx) ?_)
    exact ends_declarationAhead.bind fun _ => (hg.statement ctx).bind fun _ => ends_pure _
  exact ends_ite (Ends.peek2.bind fun (_, next) => hrest _) ((ends_pure _).bind hrest)

theorem ends_moduleItem (ctx : Context) : Ends source (moduleItem g ctx) := by
  refine (Ends.peekIn (by decide)).bind fun first => (ends_modify fun _ => by rfl).bind fun _ => ?_
  refine ends_declarationCount.bind fun declarations => ?_
  refine ends_referenceCount.bind fun references => ?_
  refine (ends_moduleItemBody hg ctx first).bind fun (kind, missing) => ?_
  exact ends_modify fun _ => rfl

theorem advancing_moduleItem (ctx : Context) :
    Advancing source (moduleItem g ctx) fun _ => True := by
  refine (Ends.peekIn (by decide)).bindAdvancing fun first => ?_
  refine (ends_modify fun _ => by rfl).bindAdvancing fun _ => ?_
  refine ends_declarationCount.bindAdvancing fun _ => ends_referenceCount.bindAdvancing fun _ => ?_
  have hbody : Advancing source (moduleItemBody g ctx first) fun _ => True :=
    advancing_of_parses (fun s hs => (itemParsed_moduleItemBody hg.conforms ctx first hs).mono
      fun _ _ h => h.parsed) fun _ => ⟨rfl, rfl⟩
  exact hbody.bind (ends_moduleItemBody hg ctx first) fun (_, _) => ends_modify fun _ => rfl

theorem ends_moduleRest (ctx : Context) : Ends source (moduleRest g ctx) := by
  have hnext : ∀ _ : Unit, Ends source (pure true : Parse Bool) := fun _ => ends_pure _
  refine Ends.bind (ends_loopWhile ?_ ?_) fun _ => (ends_require .eof).bind fun _ => ?_
  · refine ends_peek.bind fun t => ends_ite (ends_pure _) ?_
    exact (ends_moduleItem hg ctx).bind hnext
  · refine ends_peek.bindAdvancing fun t => advancing_ite (advancing_pure nofun) ?_
    exact (advancing_moduleItem hg ctx).bind (ends_moduleItem hg ctx) hnext
  · refine Ends.bind (ends_record fun s => ⟨s, s, rfl, rfl⟩) fun s => ?_
    refine (ends_liftM fun e he hstall => ?_).bind fun _ => ends_pure _
    exact nomatch hstall.1.symm.trans (ScopeTree.cause_of_build he)

end

end ModuleBundler
