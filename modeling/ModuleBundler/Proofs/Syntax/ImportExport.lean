import ModuleBundler.Grammar.Module
import ModuleBundler.Proofs.Productions.ImportExport
import ModuleBundler.Proofs.Syntax.Statement

/-!
# Texts of module items

* `parses_moduleRequest`, `parses_importDeclaration`, `parses_exportList`, … : imports and exports;
* `ItemKind.HeadOf` : before what an item declares and uses stands the part that is taken away;
* `ItemParsed` : an item was read, and what it declares under no name of the text is by a token;
* `itemParsed_exportDefault`, `itemParsed_moduleItemBody` : any item.
-/

namespace ModuleBundler

open Phrase

variable {g : Grammar} {s : ParserState} {c : Setting}

/-! ## Names in lists -/

/-- A text is read, and the spans go from tokens that were read to such. -/
structure NamesParsed (p : Phrase) (c : Setting) (s : ParserState) (spans : List Span)
    (s' : ParserState) : Prop where
  parsed : Parsed p c s s'
  edges : ∀ span ∈ spans, TokenEdges s'.tokens.behind span

namespace NamesParsed

variable {p q : Phrase} {spans more : List Span} {s₁ s' : ParserState}

theorem steady (h : NamesParsed p c s spans s') : s'.Steady := h.parsed.steady

/-- What was read before and after is a text together. -/
theorem within (h : NamesParsed p c s₁ spans s') (hall : Parsed q c s s') :
    NamesParsed q c s spans s' := ⟨hall, h.edges⟩

/-- More is read. -/
theorem goesOn (h : NamesParsed p c s spans s₁) (hmore : Parsed q c s₁ s') {r : Phrase}
    (hall : Parsed r c s s') : NamesParsed r c s spans s' :=
  ⟨hall, fun span hspan => hmore.edges (h.edges span hspan)⟩

/-- More names are read. -/
theorem append (h : NamesParsed p c s spans s₁) (hmore : NamesParsed q c s₁ more s') {r : Phrase}
    (hall : Parsed r c s s') : NamesParsed r c s (spans ++ more) s' :=
  ⟨hall, List.forall_mem_append.mpr ⟨(h.goesOn hmore.parsed hall).edges, hmore.edges⟩⟩

end NamesParsed

theorem ParserState.Steady.taken_moduleExportName (hs : s.Steady) :
    Answers s moduleExportName fun name s' => Taken (s.next .standard) s s' ∧
      isExportName (s.next .standard).token.type = true ∧
        name.span = (s.next .standard).token.span ∧
          (name.isIdentifier = true → (s.next .standard).token.type.isIdentifier = true ∧
            name.name = decodeName (s.next .standard).token.text) := by
  refine Answers.bind (hs.taken_consume (by decide)) fun t s₁ ⟨ht, htaken⟩ => ?_
  rw [← ht]
  refine answers_ite (fun htype => ?_) fun htype => answers_ite (fun hname => ?_) fun _ => ?_
  · cases decodeString t.text with
    | none => exact answers_fail t _
    | some name => exact answers_pure ⟨htaken, by simp [isExportName, htype], rfl, nofun⟩
  · exact answers_pure ⟨htaken, by simp [isExportName, hname], rfl, fun h => ⟨h, rfl⟩⟩
  · exact answers_fail t _

theorem parses_moduleExportName (hs : s.Steady) (c : Setting) :
    Parses s c moduleExportName fun _ => word isExportName :=
  hs.taken_moduleExportName.mono fun _ _ ⟨htaken, hname, _⟩ => htaken.word nofun hname c

theorem names_moduleExportName (hs : s.Steady) (c : Setting) :
    Answers s moduleExportName fun name => NamesParsed (word isExportName) c s [name.span] :=
  hs.taken_moduleExportName.mono fun _ _ ⟨htaken, hname, hspan, _⟩ =>
    ⟨htaken.word nofun hname c, List.forall_mem_singleton.mpr (hspan ▸ htaken.edges_own)⟩

/-- A list of names in braces. -/
theorem names_bracedList {α : Type} {item : Parse α} {p : Phrase} {span : α → Span}
    (h : ∀ s : ParserState, s.Steady →
      Answers s item fun a => NamesParsed p c s [span a]) (hs : s.Steady) :
    Answers s (bracedList item) fun read =>
      NamesParsed (list .comma .braceClose p) c s (read.map span) := by
  refine answers_loop (fun read s₁ =>
    NamesParsed (many (row [p, tok .comma])) c s (read.map span) s₁) (fun read s₁ hread => ?_) []
    ⟨parsed_many hs _ c, fun _ h => nomatch h⟩
  have hmap : ∀ next, (read ++ [next]).map span = read.map span ++ [span next] := fun next =>
    List.map_append
  refine Answers.bind (hread.steady.answers_consumeIf .braceClose c) fun taken s₂ hclose => ?_
  cases taken with
  | true =>
    have hlast : Parsed (oneOf [tok .braceClose, row [p, tok .braceClose]]) c s₁ s₂ :=
      Parsed.oneOf hclose (by simp)
    exact answers_pure (hread.goesOn hlast (hread.parsed.cons hlast.single))
  | false =>
    obtain ⟨hunread, -⟩ := hclose
    refine Answers.bind (h s₂ hunread.steady) fun next s₃ hnext => ?_
    have hitem := hnext.within (hnext.parsed.after hunread)
    refine Answers.bind (hitem.steady.answers_consumeIf .comma c) fun taken s₄ hcomma => ?_
    cases taken with
    | true =>
      have hround := hitem.parsed.cons (Parsed.single hcomma)
      have hnames := hread.append (hitem.goesOn hcomma hround) (hread.parsed.more hround)
      rw [← hmap] at hnames
      exact answers_pure hnames
    | false =>
      refine Answers.bind (parses_require (c := c) hcomma.1.steady _) fun _ s₅ hclose => ?_
      have hclose := hclose.after hcomma.1
      have hlast : Parsed (oneOf [tok .braceClose, row [p, tok .braceClose]]) c s₁ s₅ :=
        (hitem.parsed.cons hclose.single).oneOf (by simp)
      have hnames := hread.append (hitem.goesOn hclose hlast) (hread.parsed.cons hlast.single)
      rw [← hmap] at hnames
      exact answers_pure hnames

/-! ## Requests -/

theorem parses_importAttribute (hs : s.Steady) (c : Setting) :
    Parses s c importAttribute fun _ => Phrase.importAttribute := by
  refine (parses_moduleExportName hs c).andThen fun _ s₁ hs₁ => ?_
  refine (parses_require hs₁ _).andThen fun _ s₂ hs₂ => ?_
  exact (parses_require hs₂ _).andThen fun _ s₃ hs₃ => parses_done hs₃ _

/-- What changes nothing but the items of a module and what it asks for and offers reads nothing. -/
theorem unread_modify (hs : s.Steady) {f : ParserState → ParserState}
    (hf : ∀ s, (f s).tokens = s.tokens ∧ (f s).scopes = s.scopes ∧
      (f s).declarations = s.declarations ∧ (f s).references = s.references ∧
        (f s).dynamicImports = s.dynamicImports ∧ (f s).sideEffects = s.sideEffects)
    (hplaced : s.Placed → (f s).Placed) : Answers s (modify f) fun _ s' => Unread s s' := by
  refine answers_modify.mono fun _ s' heq => ?_
  obtain ⟨htokens, hscopes, hdeclarations, hreferences, himports, heffects⟩ := hf s
  rw [heq]
  refine ⟨⟨?_, ?_⟩, ?_, ?_, hscopes, hdeclarations, hreferences, himports, heffects, hplaced⟩
  · rw [htokens]
    exact hs.chained
  · rw [htokens]
    exact hs.ahead
  · rw [htokens]
  · rw [htokens]

theorem unread_addExport (hs : s.Steady) {specifier : ExportSpecifier}
    (hspan : TokenEdges s.tokens.behind specifier.span) :
    Answers s (addExport specifier) fun _ s' => Unread s s' :=
  unread_modify hs (fun _ => ⟨rfl, rfl, rfl, rfl, rfl, rfl⟩) fun hplaced =>
    { hplaced with exports := Array.forall_mem_push.mpr ⟨hspan, hplaced.exports⟩ }

theorem parses_moduleRequest (hs : s.Steady) (c : Setting) :
    Parses s c moduleRequest fun _ => Phrase.moduleRequest := by
  refine Answers.bind (hs.taken_requireIn (by decide) _) fun t s₁ ⟨ht, htype, htaken⟩ => ?_
  have hstring : Parsed (tok .literalString) c s s₁ := htaken.tok nofun (ht ▸ htype) c
  -- The request is recorded after the attributes, under the string before them.
  have hrecord : ∀ (specifier : String) {s₂ : ParserState} {p : Phrase}, Parsed p c s₁ s₂ →
      Answers s₂ (do
        let s ← get
        set { s with requests := s.requests.push ⟨specifier, t.span⟩ }
        pure s.requests.size) fun _ s' => Parsed (row [tok .literalString, p]) c s s' := by
    intro specifier s₂ p h _ s' heq
    have hspan : TokenEdges s₂.tokens.behind t.span := h.edges (ht ▸ htaken.edges_own)
    cases heq
    refine (hstring.cons h.single).before ⟨⟨h.steady.chained, h.steady.ahead⟩, rfl, rfl, rfl, rfl,
      rfl, rfl, rfl, fun hplaced => ?_⟩
    exact { hplaced with requests := Array.forall_mem_push.mpr ⟨hspan, hplaced.requests⟩ }
  split
  · exact answers_fail t _
  · rename_i specifier _
    refine Answers.bind htaken.steady.unread_peek2 fun (a, b) s₂ ⟨hunread, hpair⟩ => ?_
    obtain ⟨rfl, rfl⟩ := Prod.mk.inj hpair
    refine answers_ite (fun hattributes => ?_) fun _ => ?_
    · simp only [Bool.and_eq_true, Bool.or_eq_true, decide_eq_true_eq] at hattributes
      have hword : beginsAttributes (s₂.next .standard).token.type = true := by
        rw [hunread.next, beginsAttributes, Bool.or_eq_true, decide_eq_true_eq, decide_eq_true_eq]
        exact hattributes.2.imp_right And.left
      refine Answers.bind (hunread.steady.taken_consume (by decide)) fun _ s₃ ⟨_, htaken⟩ => ?_
      have hopen : (s₃.next .standard).token.type = .braceOpen := by
        rw [htaken.next_eq, ParserState.afterNext, hunread.next]
        exact hattributes.1.2
      refine Answers.bind (parses_tok (c := c) htaken.steady (by decide) hopen) fun _ s₄ hopen => ?_
      refine Answers.bind (parses_separatedList (c := c)
        (fun s hs => parses_importAttribute hs c) hopen.steady) fun _ s₅ hlist => ?_
      have hwith := (htaken.word nofun hword c).cons (hopen.cons hlist.single)
      exact hrecord specifier (hwith.after hunread).some
    · exact hrecord specifier ((parsed_none hunread.steady _ c).after hunread)

/-! ## Imports -/

/-- The name that was read is declared as an import. -/
theorem Taken.names_declare {b : BufferedToken} {s₁ s₂ : ParserState} (h : Taken b s₁ s₂)
    (hb : b.mode ≠ .templateContinue) (hname : b.token.type.isIdentifier = true)
    (hunread : Unread s s₁) (ctx : Context) :
    Answers s₂ (declare ctx (decodeName b.token.text) b.token.span .imported false) fun _ =>
      NamesParsed Phrase.importBinding ctx.setting s [b.token.span] := by
  refine (h.answers_declare hb ctx .imported false).mono fun _ s₃ htext => ?_
  have hparsed : Parsed Phrase.importBinding ctx.setting s₁ s₃ := ⟨_, .token hname, htext⟩
  refine ⟨hparsed.after hunread, List.forall_mem_singleton.mpr (tokenEdges_of_mem ?_)⟩
  rw [htext.behind]
  exact List.mem_cons_self

theorem names_importBinding (ctx : Context) (imported : Imported) (hs : s.Steady) :
    Answers s (importBinding ctx imported) fun specifier =>
      NamesParsed Phrase.importBinding ctx.setting s [specifier.span] := by
  refine Answers.bind hs.taken_bindingIdentifier fun named s₂ hnamed => ?_
  obtain ⟨b, s₁, hunread, htaken, hmode, hname, rfl⟩ := hnamed
  exact (htaken.names_declare hmode hname hunread ctx).bind fun _ s₃ h => answers_pure h

theorem names_importSpecifier (ctx : Context) (hs : s.Steady) :
    Answers s (importSpecifier ctx) fun specifier =>
      NamesParsed Phrase.importSpecifier ctx.setting s [specifier.span] := by
  refine Answers.bind hs.taken_moduleExportName fun name s₁ ⟨htaken, hword, hspan, hname⟩ => ?_
  refine Answers.bind (htaken.steady.answers_consumeIf .keywordAs ctx.setting)
    fun taken s₂ has => ?_
  cases taken with
  | true =>
    refine Answers.mono (names_importBinding ctx _ (Parsed.steady has)) fun _ s₃ hbinding => ?_
    have hname := htaken.word nofun hword ctx.setting
    exact hbinding.within
      ((hname.cons (Parsed.cons has hbinding.parsed.single)).oneOf (by simp))
  | false =>
    refine answers_ite nofun fun _ => answers_ite (fun hidentifier => ?_) fun _ => nofun
    obtain ⟨htype, hname⟩ := hname hidentifier
    rw [hname, hspan]
    have hdeclare := (htaken.after has.1).names_declare nofun htype (.refl hs) ctx
    exact hdeclare.bind fun _ s₃ h =>
      answers_pure (h.within (h.parsed.oneOf (by simp [Phrase.importBinding])))

theorem names_importClause (ctx : Context) (hs : s.Steady) :
    Answers s (importClause ctx) fun specifiers =>
      NamesParsed Phrase.importClause ctx.setting s (specifiers.map ImportSpecifier.span) := by
  refine Answers.bind (hs.answers_consumeIf .asterisk ctx.setting) fun taken s₁ hstar => ?_
  cases taken with
  | true =>
    have hstar : Parsed (tok .asterisk) ctx.setting s s₁ := hstar
    refine Answers.bind (parses_require (c := ctx.setting) hstar.steady _) fun _ s₂ has => ?_
    refine Answers.bind (names_importBinding ctx _ has.steady) fun _ s₃ hbinding => ?_
    exact answers_pure (hbinding.within
      ((hstar.cons (has.cons hbinding.parsed.single)).oneOf (by simp)))
  | false =>
    obtain ⟨hunread, -⟩ := hstar
    refine Answers.bind (parses_require (c := ctx.setting) hunread.steady _) fun _ s₂ hopen => ?_
    have hlist := names_bracedList (c := ctx.setting)
      (fun s hs => names_importSpecifier ctx hs) hopen.steady
    refine hlist.mono fun _ s₃ h => h.within ?_
    exact (((hopen.after hunread).cons h.parsed.single).oneOf (by simp))

theorem names_importClauses (ctx : Context) (hs : s.Steady) :
    Answers s (importClauses ctx) fun specifiers =>
      NamesParsed Phrase.importClauses ctx.setting s (specifiers.map ImportSpecifier.span) := by
  have hfrom : ∀ {p : Phrase} {s₁ s₂ : ParserState} {specifiers : List ImportSpecifier},
      NamesParsed p ctx.setting s₁ (specifiers.map ImportSpecifier.span) s₂ →
        p ∈ [row [Phrase.importBinding, optional (row [tok .comma, Phrase.importClause])],
          Phrase.importClause] →
          Answers s₂ (require .keywordFrom >>= fun _ => pure specifiers) fun specifiers =>
            NamesParsed Phrase.importClauses ctx.setting s₁
              (specifiers.map ImportSpecifier.span) := by
    intro p s₁ s₂ specifiers h hp
    refine Answers.bind (parses_require (c := ctx.setting) h.steady _) fun _ s₃ hword => ?_
    exact answers_pure (h.goesOn hword ((h.parsed.oneOf hp).cons hword.single))
  refine Answers.bind (hs.unread_peekIn (by decide)) fun t s₁ ⟨hunread, _⟩ => ?_
  refine answers_ite (fun _ => ?_) fun _ => ?_
  · refine Answers.bind (names_importBinding ctx _ hunread.steady) fun first s₂ hbinding => ?_
    have hbinding := hbinding.within (hbinding.parsed.after hunread)
    refine Answers.bind (hbinding.steady.answers_consumeIf .comma ctx.setting)
      fun taken s₃ hcomma => ?_
    cases taken with
    | true =>
      refine Answers.bind (names_importClause ctx (Parsed.steady hcomma)) fun rest s₄ hclause => ?_
      have hrest := hclause.within (Parsed.cons hcomma hclause.parsed.single)
      exact hfrom (hbinding.append hrest (hbinding.parsed.cons hrest.parsed.some.single)) (by simp)
    | false =>
      have hnone := (parsed_none hcomma.1.steady (row [tok .comma, Phrase.importClause])
        ctx.setting).after hcomma.1
      exact hfrom (hbinding.goesOn hnone (hbinding.parsed.cons hnone.single)) (by simp)
  · refine Answers.bind (names_importClause ctx hunread.steady) fun _ s₂ hclause => ?_
    exact hfrom (hclause.within (hclause.parsed.after hunread)) (by simp)

/-- After what an import declaration binds its request is read, and all is recorded. -/
theorem NamesParsed.answers_importRequest {p : Phrase} {s₁ : ParserState}
    {specifiers : List ImportSpecifier}
    (h : NamesParsed p c s (specifiers.map ImportSpecifier.span) s₁) : Answers s₁ (do
      let request ← moduleRequest
      let missing ← requireSemicolon
      modify fun s => { s with imports := s.imports.push ⟨request, specifiers⟩ }
      pure (ItemKind.importDeclaration, missing)) fun _ s' =>
        Parsed (row [p, Phrase.moduleRequest, semicolon]) c s s' := by
  refine Answers.bind (parses_moduleRequest h.steady c) fun request s₂ hrequest => ?_
  refine Answers.bind (parses_requireSemicolon (c := c) hrequest.steady) fun _ s₃ hsemicolon => ?_
  have hall := h.parsed.cons (hrequest.cons hsemicolon.single)
  have hedges := ((h.goesOn hrequest (h.parsed.cons hrequest.single)).goesOn hsemicolon hall).edges
  have hmodify := unread_modify hsemicolon.steady (f := fun s =>
    { s with imports := s.imports.push ⟨request, specifiers⟩ })
    (fun _ => ⟨rfl, rfl, rfl, rfl, rfl, rfl⟩) fun hplaced => { hplaced with
      imports := Array.forall_mem_push.mpr ⟨List.forall_mem_map.mp hedges, hplaced.imports⟩ }
  exact hmodify.bind fun _ s₄ hunread => answers_pure (hall.before hunread)

theorem parses_importDeclaration (ctx : Context) (hs : s.Steady) :
    Parses s ctx.setting (importDeclaration ctx) fun _ => Phrase.importDeclaration := by
  refine (parses_require hs _).andThen fun _ s₁ hs₁ => ?_
  refine parses_peek hs₁ fun s hs => parses_ite (fun _ => ?_) fun _ => ?_
  · have hnone : NamesParsed (optional Phrase.importClauses) ctx.setting s
        (([] : List ImportSpecifier).map ImportSpecifier.span) s :=
      ⟨parsed_none hs _ _, fun _ h => nomatch h⟩
    exact hnone.answers_importRequest
  · refine Answers.bind (names_importClauses ctx hs) fun specifiers s₂ hclauses => ?_
    exact (hclauses.within hclauses.parsed.some).answers_importRequest

/-! ## Exports -/

/-- After `from` another module is asked for, and something is recorded. -/
theorem Parsed.answers_exportRequest {p : Phrase} {s₁ : ParserState} (h : Parsed p c s s₁)
    {record : Nat → Parse Unit}
    (hrecord : ∀ (request : Nat) {q : Phrase} {s₂ : ParserState}, Parsed q c s₁ s₂ →
      Answers s₂ (record request) fun _ s' => Unread s₂ s') : Answers s₁ (do
      let _ ← require .keywordFrom
      let request ← moduleRequest
      record request
      let missing ← requireSemicolon
      pure (ItemKind.exportFrom, missing)) fun _ s' =>
        Parsed (row [p, tok .keywordFrom, Phrase.moduleRequest, semicolon]) c s s' := by
  refine Answers.bind (parses_require (c := c) h.steady _) fun _ s₂ hfrom => ?_
  refine Answers.bind (parses_moduleRequest hfrom.steady c) fun request s₃ hrequest => ?_
  have hread := hfrom.cons hrequest.single
  refine (hrecord request hread).bind fun _ s₄ hunread => ?_
  refine Answers.bind (parses_requireSemicolon (c := c) hunread.steady) fun _ s₅ hend => ?_
  exact answers_pure (h.cons (hfrom.cons (hrequest.cons (hend.after hunread).single)))

theorem parses_exportStar (hs : s.Steady) (c : Setting)
    (htype : (s.next .standard).token.type = .asterisk) :
    Parses s c exportStar fun _ => Phrase.exportStar := by
  refine (parses_tok hs (by decide) htype).andThen fun _ s₁ hs₁ => ?_
  refine Answers.bind (hs₁.answers_consumeIf .keywordAs c) fun taken s₂ has => ?_
  cases taken with
  | true =>
    have has : Parsed (tok .keywordAs) c s₁ s₂ := has
    refine Answers.bind (names_moduleExportName has.steady c) fun exported s₃ hname => ?_
    have hnamed := hname.within (has.cons hname.parsed.single).some
    have hexport : ∀ (request : Nat) {q : Phrase} {s₄ : ParserState}, Parsed q c s₃ s₄ →
        Answers s₄ (addExport ⟨exported.name, exported.span, .reexport request .all⟩)
          fun _ s' => Unread s₄ s' := fun request _ s₄ hread =>
      unread_addExport hread.steady (hread.edges (hname.edges _ List.mem_cons_self))
    exact hnamed.parsed.answers_exportRequest hexport
  | false =>
    have hnone := (parsed_none has.1.steady (row [tok .keywordAs, word isExportName]) c).after has.1
    refine hnone.answers_exportRequest fun request _ s₃ hread => ?_
    exact unread_modify hread.steady (fun _ => ⟨rfl, rfl, rfl, rfl, rfl, rfl⟩) fun hplaced =>
      { hplaced with }

theorem names_exportListItem (hs : s.Steady) (c : Setting) :
    Answers s exportListItem fun names =>
      NamesParsed Phrase.exportListItem c s [names.2.span] := by
  refine Answers.bind (names_moduleExportName hs c) fun name s₁ hname => ?_
  refine Answers.bind (hname.steady.answers_consumeIf .keywordAs c) fun taken s₂ has => ?_
  cases taken with
  | true =>
    refine Answers.bind (names_moduleExportName (Parsed.steady has) c) fun exported s₃ h => ?_
    exact answers_pure
      (h.within (hname.parsed.cons (Parsed.cons has h.parsed.single).some.single))
  | false =>
    have hnone := (parsed_none has.1.steady (row [tok .keywordAs, word isExportName]) c).after has.1
    exact answers_pure (hname.goesOn hnone (hname.parsed.cons hnone.single))

theorem unread_addOwnExports (names : List (ModuleExportName × ModuleExportName)) (hs : s.Steady)
    (hspans : ∀ name ∈ names, TokenEdges s.tokens.behind name.2.span) :
    Answers s (addOwnExports names) fun _ s' => Unread s s' := by
  induction names generalizing s with
  | nil => exact answers_pure (.refl hs)
  | cons name rest ih =>
    obtain ⟨hspan, hspans⟩ := List.forall_mem_cons.mp hspans
    refine answers_ite (fun _ => ?_) fun _ => nofun
    refine Answers.bind (unread_addExport hs hspan) fun _ s₁ hunread => ?_
    have hrest := ih hunread.steady fun other hother => hunread.behind ▸ hspans other hother
    exact hrest.mono fun _ _ h => hunread.trans h

theorem unread_addReexports (request : Nat) (names : List (ModuleExportName × ModuleExportName))
    (hs : s.Steady) (hspans : ∀ name ∈ names, TokenEdges s.tokens.behind name.2.span) :
    Answers s (addReexports request names) fun _ s' => Unread s s' := by
  induction names generalizing s with
  | nil => exact answers_pure (.refl hs)
  | cons name rest ih =>
    obtain ⟨hspan, hspans⟩ := List.forall_mem_cons.mp hspans
    refine Answers.bind (unread_addExport hs hspan) fun _ s₁ hunread => ?_
    have hrest := ih hunread.steady fun other hother => hunread.behind ▸ hspans other hother
    exact hrest.mono fun _ _ h => hunread.trans h

theorem parses_exportList (hs : s.Steady) (c : Setting)
    (htype : (s.next .standard).token.type = .braceOpen) :
    Parses s c exportList fun _ => Phrase.exportList := by
  refine Answers.bind (parses_tok (c := c) hs (by decide) htype) fun _ s₁ hopen => ?_
  refine Answers.bind (names_bracedList (c := c) (fun s hs => names_exportListItem hs c)
    hopen.steady) fun names s₂ hnames => ?_
  have hend : ∀ {p : Phrase} {s₃ : ParserState} (kind : ItemKind) {record : Parse Unit},
      Parsed p c s₂ s₃ → (Answers s₃ record fun _ s' => Unread s₃ s') → Answers s₃ (do
        record
        let missing ← requireSemicolon
        pure (kind, missing)) fun _ s' => Parsed (row [tok .braceOpen, list .comma .braceClose
          Phrase.exportListItem, p, semicolon]) c s s' := by
    intro p s₃ kind record h hrecord
    refine hrecord.bind fun _ s₄ hunread => ?_
    refine Answers.bind (parses_requireSemicolon (c := c) hunread.steady) fun _ s₅ hend => ?_
    have hrest := h.cons (hend.after hunread).single
    exact answers_pure (hopen.cons (hnames.parsed.cons hrest))
  refine Answers.bind (hnames.steady.answers_consumeIf .keywordFrom c) fun taken s₃ hfrom => ?_
  cases taken with
  | true =>
    have hfrom : Parsed (tok .keywordFrom) c s₂ s₃ := hfrom
    refine Answers.bind (parses_moduleRequest hfrom.steady c) fun request s₄ hrequest => ?_
    have hread := hfrom.cons hrequest.single
    exact hend .exportFrom hread.some (unread_addReexports request names hrequest.steady
      fun name hname => hread.edges (hnames.edges _ (List.mem_map_of_mem hname)))
  | false =>
    have hnone := (parsed_none hfrom.1.steady (row [tok .keywordFrom, Phrase.moduleRequest])
      c).after hfrom.1
    exact hend .exportList hnone (unread_addOwnExports names hfrom.1.steady
      fun name hname => hnone.edges (hnames.edges _ (List.mem_map_of_mem hname)))

/-- Whatever a declaration is read as, all that it declares is named in it. -/
theorem parses_exportedDeclaration (ctx : Context) (strip : Span) {p : Phrase}
    (hp : p.isNamed = true) (h : Parses s ctx.setting (g.statement ctx) fun _ => p) :
    Parses s ctx.setting (exportedDeclaration g ctx strip) fun _ => p := by
  refine Answers.bind answers_declarationCount fun start s₁ ⟨hstart, hs₁⟩ => ?_
  rw [hs₁, hstart]
  refine Answers.bind h fun missing s₂ ⟨o, hderives, htext⟩ => ?_
  have hnone := hderives.placeholders_eq_nil syntaxRules_isNamed hp
  have hmodify := unread_modify htext.steady (f := fun s' => { s' with
    exports := s'.exports ++
      (declaredExports (s'.declarations.toList.drop s.declarations.size)).toArray })
    (fun _ => ⟨rfl, rfl, rfl, rfl, rfl, rfl⟩) fun hplaced => { hplaced with
      exports := fun e he => ?_ }
  · exact Answers.bind hmodify fun _ s₃ hunread =>
      answers_pure (Parsed.before ⟨o, hderives, htext⟩ hunread)
  · rcases Array.mem_append.mp he with he | he
    · exact hplaced.exports e he
    · obtain ⟨d, hd, rfl⟩ := List.mem_map.mp (List.mem_toArray.mp he)
      have hd := (List.mem_filter.mp hd).1
      rw [htext.declarations, ← Array.length_toList, List.drop_left] at hd
      have hedges := Outline.edges_of_mem_declarations hnone hd
      rw [htext.behind]
      exact hedges.mono fun b hb => List.mem_append_left _ (List.mem_reverse.mpr hb)

/-! ## What stands before names -/

/-- A bare part of a text goes up to a token that begins at the offset. -/
def Outline.BareBefore (o : Outline) (offset : Nat) : Prop :=
  ∃ head rest, o = head ++ rest ∧ head.Bare ∧ rest.StartsAt offset

/-- The part of an item that is taken away stands at its beginning, and after it the part up to where
a name is put in. Nothing is declared, used or imported in either. -/
def ItemKind.HeadOf (start : Nat) (o : Outline) : ItemKind → Prop
  | .exportDeclaration strip | .exportDefaultExpression strip _ =>
    strip.start = start ∧ o.BareBefore strip.stop
  | .exportDefaultDeclaration strip nameAt =>
    strip.start = start ∧ o.BareBefore strip.stop ∧
      ∀ offset, nameAt = some offset → strip.stop ≤ offset ∧ o.BareUpTo offset
  | .importDeclaration | .exportList | .exportFrom | .declaration | .statement => True

section
variable {first o : Outline} {offset start : Nat} {kind : ItemKind}

theorem Outline.BareBefore.cons (hfirst : first.Bare) (h : o.BareBefore offset) :
    (first ++ o).BareBefore offset := by
  obtain ⟨head, rest, rfl, hbare, hrest⟩ := h
  exact ⟨first ++ head, rest, (Outline.append_assoc ..).symm, hfirst.append hbare, hrest⟩

theorem Outline.BareUpTo.cons (hfirst : first.Bare) (h : o.BareUpTo offset) :
    (first ++ o).BareUpTo offset := by
  obtain ⟨head, rest, rfl, hbare, last, hlast, hrest⟩ := h
  refine ⟨first ++ head, rest, (Outline.append_assoc ..).symm, hfirst.append hbare, last, ?_, hrest⟩
  rw [Outline.tokens_append, List.getLast?_append, hlast]
  rfl

/-- A word before an item belongs to the part that is taken away. -/
theorem ItemKind.HeadOf.cons (hfirst : first.Bare) (h : kind.HeadOf start o) :
    kind.HeadOf start (first ++ o) := by
  cases kind with
  | exportDeclaration | exportDefaultExpression => exact ⟨h.1, h.2.cons hfirst⟩
  | exportDefaultDeclaration strip nameAt =>
    refine ⟨h.1, h.2.1.cons hfirst, fun offset hoffset => ?_⟩
    exact (h.2.2 offset hoffset).imp_right fun h => h.cons hfirst
  | importDeclaration | exportList | exportFrom | declaration | statement => trivial

/-- Nothing is taken away of what ties modules together. -/
theorem ItemKind.headOf_of_isModuleSyntax (hkind : kind.isModuleSyntax = true) :
    kind.HeadOf start o := by
  cases kind with
  | importDeclaration | exportList | exportFrom => trivial
  | exportDeclaration | exportDefaultDeclaration | exportDefaultExpression | declaration
  | statement => cases hkind

/-- The place for a name comes after the beginning of a text. -/
theorem TextRead.startsAt_le {s' : ParserState} {offset' : Nat} (h : TextRead c o s s')
    (hstart : o.StartsAt offset) (hbare : o.BareUpTo offset') : offset ≤ offset' := by
  obtain ⟨b, hb, rfl⟩ := hstart
  obtain ⟨head, rest, rfl, -, last, hlast, rfl, -⟩ := hbare
  have hread := h.chain
  rw [Outline.tokens_append] at hb hread
  obtain ⟨hread, -⟩ := readFrom_append.mp hread
  have hmem := List.mem_of_getLast? hlast
  obtain ⟨a, tokens, htokens⟩ := List.exists_cons_of_ne_nil (List.ne_nil_of_mem hmem)
  rw [htokens] at hb hread hmem
  obtain rfl : a = b := Option.some.inj hb
  have hle := hread.start_le_stop hmem
  rcases List.mem_cons.mp hmem with rfl | hmem
  · exact hle
  · exact Nat.le_trans ((List.pairwise_cons.mp hread.sorted).1 last hmem) hle

end

/-! ## Default exports -/

/-- An item was read, with something that is known of its text. What is declared in it under a name
that is not in the text is so at the edge of a token. -/
def ItemParsed (p : Phrase) (c : Setting) (known : Outline → Prop) (s s' : ParserState) : Prop :=
  ∃ o, Derives syntaxRules p o ∧ TextRead c o s s' ∧
    (∀ offset ∈ o.placeholders, TokenEdge o.tokens offset) ∧ known o

theorem Parsed.item {p : Phrase} {s' : ParserState} (h : Parsed p c s s')
    (hp : p.isNamed = true) : ItemParsed p c (fun _ => True) s s' := by
  obtain ⟨o, hderives, htext⟩ := h
  refine ⟨o, hderives, htext, ?_, trivial⟩
  rw [hderives.placeholders_eq_nil syntaxRules_isNamed hp]
  exact fun _ h => nomatch h

namespace ItemParsed

variable {p q : Phrase} {s₁ s' : ParserState} {known known' : Outline → Prop}

theorem parsed (h : ItemParsed p c known s s') : Parsed p c s s' := by
  obtain ⟨o, hderives, htext, -⟩ := h
  exact ⟨o, hderives, htext⟩

theorem steady (h : ItemParsed p c known s s') : s'.Steady := by
  obtain ⟨o, -, htext, -⟩ := h
  exact htext.steady

/-- What goes from a token that was read to such does so later on. -/
theorem edges (h : ItemParsed p c known s s') {span : Span}
    (hspan : TokenEdges s.tokens.behind span) : TokenEdges s'.tokens.behind span := by
  obtain ⟨o, hderives, htext, -⟩ := h
  exact Parsed.edges ⟨o, hderives, htext⟩ hspan

theorem mono (h : ItemParsed p c known s s')
    (hpq : ∀ o, Derives syntaxRules p o → Derives syntaxRules q o) :
    ItemParsed q c known s s' := by
  obtain ⟨o, hderives, hrest⟩ := h
  exact ⟨o, hpq o hderives, hrest⟩

theorem oneOf {phrases : List Phrase} (h : ItemParsed p c known s s') (hp : p ∈ phrases) :
    ItemParsed (.oneOf phrases) c known s s' := h.mono fun _ => .oneOf hp

/-- Something else is known of the text, which has a token. -/
theorem know (h : ItemParsed p c known s s') (hp : p.isNullable = false)
    (hknown : ∀ o, TextRead c o s s' → o.StartsAt s.place.tokenStart.offset → known o → known' o) :
    ItemParsed p c known' s s' := by
  obtain ⟨o, hderives, htext, hplaceholders, ho⟩ := h
  have hstart := htext.startsAt (hderives.tokens_ne_nil syntaxRules_not_nullable hp)
  exact ⟨o, hderives, htext, hplaceholders, hknown o htext hstart ho⟩

theorem after (h : ItemParsed p c known s₁ s') (hunread : Unread s s₁) :
    ItemParsed p c known s s' := by
  obtain ⟨o, hderives, htext, hrest⟩ := h
  exact ⟨o, hderives, (hunread.textRead c).trans htext, hrest⟩

theorem before (h : ItemParsed p c known s s₁) (hunread : Unread s₁ s') :
    ItemParsed p c known s s' := by
  obtain ⟨o, hderives, htext, hrest⟩ := h
  refine ⟨o, hderives, ?_, hrest⟩
  rw [← Outline.append_nil o]
  exact htext.trans (hunread.textRead c)

/-- A word comes before the item. -/
theorem cons {first : Phrase} (hfirst : Parsed first c s s₁) (hnamed : first.isNamed = true)
    (hbare : first.isBare = true) (h : ItemParsed p c known s₁ s')
    (hknown : ∀ {o o' : Outline}, o.Bare → known o' → known' (o ++ o')) :
    ItemParsed (row [first, p]) c known' s s' := by
  obtain ⟨o, hderives, htext⟩ := hfirst
  have hnone := hderives.placeholders_eq_nil syntaxRules_isNamed hnamed
  obtain ⟨o', hderives', htext', hplaceholders', ho'⟩ := h
  refine ⟨o ++ (o' ++ .nil), .seq hderives (.seq hderives' .empty), ?_, ?_, ?_⟩
  · rw [Outline.append_nil]
    exact htext.trans htext'
  · rw [Outline.append_nil, Outline.placeholders_append, hnone, List.nil_append,
      Outline.tokens_append]
    exact fun offset h => (hplaceholders' offset h).mono (List.subset_append_right _ _)
  · rw [Outline.append_nil]
    exact hknown (hderives.bare hbare) ho'

end ItemParsed

/-- A function or class without a name is declared where a name can be put. -/
theorem DefinitionParsed.answers_defaultName {ctx : Context}
    {form : DefinitionKind → Bool → Phrase} {definition : Definition} {s₁ : ParserState}
    (h : DefinitionParsed .defaultExport form ctx.setting s definition s₁) (kind : DeclarationKind)
    {phrases : List Phrase} (hform : ∀ isNamed, (form .defaultExport isNamed).isNamed = true)
    (hnamed : form .defaultExport true ∈ phrases)
    (hunnamed : row [form .defaultExport false, placeholder kind] ∈ phrases) :
    Answers s₁ (do
      if definition.name.isNone then
        declare ctx defaultBinding (.point definition.nameAt) kind false
      pure definition) fun definition s' => ItemParsed (.oneOf phrases) ctx.setting
        (fun o => o.BareUpTo definition.nameAt) s s' := by
  obtain ⟨-, o, hderives, htext, hbare⟩ := h
  have hedge := hbare.edge
  have hnone := hderives.placeholders_eq_nil syntaxRules_isNamed (hform _)
  cases hname : definition.name with
  | none =>
    rw [hname] at hderives
    refine Answers.bind (answers_declarePlaceholder htext.steady ctx definition.nameAt kind)
      fun _ s₂ hplaceholder => answers_pure ?_
    refine ⟨o ++ (.leaf (.placeholder definition.nameAt kind) .nil ++ .nil),
      .oneOf hunnamed (.seq hderives (.seq (.placeholder _ _) .empty)), ?_,
      fun offset hoffset => ?_, hbare.append _⟩
    · rw [Outline.append_nil]
      exact htext.trans hplaceholder
    · rw [Outline.append_nil, Outline.placeholders_append, hnone] at hoffset
      obtain rfl := List.mem_singleton.mp hoffset
      rw [Outline.tokens_append]
      exact hedge.mono (List.subset_append_left _ _)
  | some named =>
    rw [hname] at hderives
    refine answers_pure ⟨o, .oneOf hnamed hderives, htext, ?_, hbare⟩
    rw [hnone]
    exact fun _ h => nomatch h

theorem itemParsed_defaultDefinition (hg : g.Conforms) (ctx : Context) (isFunction : Bool)
    (hs : s.Steady) :
    Answers s (defaultDefinition g ctx isFunction) fun definition s' =>
      ItemParsed Phrase.defaultDefinition ctx.setting (fun o => o.BareUpTo definition.nameAt)
        s s' := by
  cases isFunction with
  | true =>
    refine Answers.bind (answers_functionParsed hg ctx .defaultExport hs) fun definition s₁ h => ?_
    exact h.answers_defaultName .function (by decide) (by simp) (by simp)
  | false =>
    refine Answers.bind (answers_classParsed hg ctx .defaultExport hs) fun definition s₁ h => ?_
    exact h.answers_defaultName .classDecl (by decide) (by simp) (by simp)

/-- The value of a default export is declared where it begins. -/
theorem itemParsed_defaultValue (hg : g.Conforms) (ctx : Context) {α : Type}
    {rest : Expr → Bool → Parse α}
    (hrest : ∀ (e : Expr) (missing : Bool) {o : Outline} {s' : ParserState},
      TextRead ctx.setting o s s' →
        Answers s' (rest e missing) fun _ s'' => Unread s' s'') (hs : s.Steady) :
    Answers s (do
      declare ctx defaultBinding (.point (s.next .slashIsRegex).token.span.start) .const false
      let e ← g.assignExpr (ctx.withIn true)
      let missing ← requireSemicolon
      rest e missing) fun _ s' => ItemParsed defaultValue ctx.setting (fun _ => True) s s' := by
  refine Answers.bind (answers_declarePlaceholder hs ctx _ _) fun _ s₁ hplaceholder => ?_
  refine Answers.bind (hg.assignExpr (ctx.withIn true) hplaceholder.steady)
    fun e s₂ ⟨o, hderives, htext⟩ => ?_
  refine Answers.bind (parses_requireSemicolon (c := ctx.setting) htext.steady)
    fun missing s₃ ⟨o', hderives', htext'⟩ => ?_
  have hread := hplaceholder.trans (htext.trans htext')
  refine (hrest e missing hread).mono fun _ s₄ hunread => ?_
  have hall : Derives syntaxRules defaultValue _ :=
    .seq (.placeholder (s.next .slashIsRegex).token.span.start .const)
      (.seq hderives (.seq hderives' .empty))
  refine ItemParsed.before ⟨_, hall, ?_, fun offset hoffset => ?_, trivial⟩ hunread
  · rw [Outline.append_nil]
    exact hread
  · rw [Outline.placeholders_append, Outline.placeholders_append, Outline.placeholders_append,
      hderives.placeholders_eq_nil syntaxRules_isNamed rfl,
      hderives'.placeholders_eq_nil syntaxRules_isNamed rfl] at hoffset
    obtain rfl := List.mem_singleton.mp hoffset
    have hne := hderives.tokens_ne_nil syntaxRules_not_nullable rfl
    obtain ⟨first, tokens, htokens⟩ := List.exists_cons_of_ne_nil hne
    have hstart := (hplaceholder.trans htext).head_start (b := first) (by simp [htokens])
    refine ⟨first, by simp [htokens], .inl ?_⟩
    rw [hstart, ParserState.next_start s (by decide)]

theorem unread_functionAhead (next : Token) (hs : s.Steady) :
    Answers s (functionAhead next) fun _ s' => Unread s s' :=
  answers_ite (fun _ => answers_pure (.refl hs)) fun _ =>
    answers_ite (fun _ => unread_declarationAhead hs) fun _ => answers_pure (.refl hs)

/-- What is read of a default export after its words is known with the part that is taken away. -/
theorem answers_exportExpression_kind (ctx : Context) (strip exported : Span) (s : ParserState) :
    Answers s (do
      declare ctx defaultBinding (.point strip.stop) .const false
      let e ← g.assignExpr (ctx.withIn true)
      let missing ← requireSemicolon
      addExport ⟨"default", exported, .binding defaultBinding⟩
      pure (ItemKind.exportDefaultExpression strip e.span, missing))
      fun read _ => ∃ value, read.1 = .exportDefaultExpression strip value :=
  .after fun _ _ => .after fun _ _ => .after fun _ _ => .after fun _ _ => answers_pure ⟨_, rfl⟩

theorem itemParsed_exportDefault (hg : g.Conforms) (ctx : Context) (keyword : Span) (hs : s.Steady)
    (htype : (s.next .standard).token.type = .keywordDefault) :
    Answers s (exportDefault g ctx keyword) fun read s' =>
      ItemParsed Phrase.exportDefault ctx.setting (read.1.HeadOf keyword.start) s s' := by
  refine Answers.bind (hs.taken_consume (by decide)) fun word s₁ ⟨hspan, htaken⟩ => ?_
  have hword : Parsed (tok .keywordDefault) ctx.setting s s₁ := htaken.tok nofun htype _
  have hspan : TokenEdges s₁.tokens.behind word.span := hspan ▸ htaken.edges_own
  refine Answers.bind (hword.steady.unread_peekIn (by decide)) fun next s₂ ⟨hunread, hnext⟩ => ?_
  refine Answers.bind (unread_functionAhead next hunread.steady) fun isFunction s₃ hahead => ?_
  have hunread := hunread.trans hahead
  rw [hnext, ← hunread.next]
  have hstop : s₃.place.tokenStart.offset = (s₃.next .slashIsRegex).token.span.start :=
    (s₃.next_start (by decide)).symm
  have hitem : ∀ {p : Phrase} {known : Outline → Prop} {kind : ItemKind} {s' : ParserState},
      ItemParsed p ctx.setting known s₃ s' → p ∈ [Phrase.defaultDefinition, defaultValue] →
        p.isNullable = false →
          (∀ o o', TextRead ctx.setting o' s₃ s' → o.Bare →
            o'.StartsAt (s₃.next .slashIsRegex).token.span.start → known o' →
              kind.HeadOf keyword.start (o ++ o')) →
            ItemParsed Phrase.exportDefault ctx.setting (kind.HeadOf keyword.start) s s' := by
    intro p known kind s' h hp hne hknown
    have hrest : ItemParsed p ctx.setting
        (fun o' => ∀ o, o.Bare → kind.HeadOf keyword.start (o ++ o')) s₃ s' :=
      h.know hne fun o' htext hstart ho' o hbare => hknown o o' htext hbare (hstop ▸ hstart) ho'
    exact ItemParsed.cons hword rfl rfl ((hrest.oneOf hp).after hunread) fun hbare h => h _ hbare
  refine answers_ite (fun _ => ?_) fun _ => ?_
  · refine Answers.bind (itemParsed_defaultDefinition hg ctx isFunction hunread.steady)
      fun definition s₄ hdefinition => ?_
    have hspan := hdefinition.edges (hunread.behind ▸ hspan)
    refine Answers.bind (unread_addExport hdefinition.steady hspan)
      fun _ s₅ hexport => answers_pure ?_
    refine hitem (hdefinition.before hexport) (by simp) rfl fun o o' htext hbare hstart hname => ?_
    refine ⟨rfl, ⟨o, o', rfl, hbare, hstart⟩, fun offset hoffset => ?_⟩
    split at hoffset
    · cases hoffset
      exact ⟨htext.startsAt_le hstart hname, hname.cons hbare⟩
    · cases hoffset
  · have hvalue := (itemParsed_defaultValue hg ctx (fun e missing o s' htext => ?_)
      hunread.steady).and (answers_exportExpression_kind ctx ⟨keyword.start, _⟩ word.span s₃)
    · refine hvalue.mono fun (kind, _) s' ⟨h, _, hkind⟩ => ?_
      obtain rfl : kind = _ := hkind
      refine hitem h (by simp) rfl fun o o' _ hbare hstart _ => ?_
      exact ⟨rfl, o, o', rfl, hbare, hstart⟩
    · have hspan := htext.edges (hunread.behind ▸ hspan)
      exact Answers.bind (unread_addExport htext.steady hspan) fun _ _ h => answers_pure h

/-! ## Items -/

theorem itemParsed_exportDeclaration (hg : g.Conforms) (ctx : Context) (hs : s.Steady) :
    Answers s (exportDeclaration g ctx) fun read s' =>
      ItemParsed Phrase.exportDeclaration ctx.setting
        (read.1.HeadOf (s.next .standard).token.span.start) s s' := by
  refine Answers.bind ((parses_require (c := ctx.setting) hs _).and
    (hs.taken_requireIn (by decide) _)) fun keyword s₁ ⟨hkeyword, hspan, _⟩ => ?_
  refine Answers.bind (hkeyword.steady.unread_peekIn (by decide)) fun t s₂ ⟨hunread, ht⟩ => ?_
  rw [ht, ← hunread.next, hspan]
  have hs₂ := hunread.steady
  have hitem : ∀ {p : Phrase} {known known' : Outline → Prop} {s' : ParserState},
      ItemParsed p ctx.setting known s₂ s' →
        p ∈ [Phrase.exportDefault, Phrase.exportStar, Phrase.exportList, rule .statement] →
          (∀ {o o' : Outline}, o.Bare → known o' → known' (o ++ o')) →
            ItemParsed Phrase.exportDeclaration ctx.setting known' s s' := fun h hp hknown =>
    ItemParsed.cons hkeyword rfl rfl ((h.oneOf hp).after hunread) hknown
  have hmodule : ∀ {p : Phrase} {kind : ItemKind} {s' : ParserState},
      Parsed p ctx.setting s₂ s' → p.isNamed = true → kind.isModuleSyntax = true →
        p ∈ [Phrase.exportDefault, Phrase.exportStar, Phrase.exportList, rule .statement] →
          ItemParsed Phrase.exportDeclaration ctx.setting
            (kind.HeadOf (s.next .standard).token.span.start) s s' := fun h hp hkind hmem =>
    hitem (h.item hp) hmem fun _ _ => ItemKind.headOf_of_isModuleSyntax hkind
  split <;> rename_i htype
  · exact (itemParsed_exportDefault hg ctx _ hs₂ htype).mono fun _ _ h =>
      hitem h (by simp) fun hbare h => h.cons hbare
  · refine ((parses_exportStar hs₂ ctx.setting htype).and (answers_exportStar_kind s₂)).mono ?_
    rintro ⟨_, _⟩ s₃ ⟨h, rfl⟩
    exact hmodule h rfl rfl (by simp)
  · refine ((parses_exportList hs₂ ctx.setting htype).and (answers_exportList_kind s₂)).mono ?_
    rintro ⟨_, _⟩ s₃ ⟨h, rfl | rfl⟩
    · exact hmodule h rfl rfl (by simp)
    · exact hmodule h rfl rfl (by simp)
  · refine Answers.bind (unread_declarationAhead hs₂) fun _ s₃ hahead => ?_
    refine answers_ite (fun _ => ?_) fun _ => answers_fail _ _
    refine ((parses_exportedDeclaration ctx _ rfl (hg.statement ctx hahead.steady)).and
      (answers_exportedDeclaration_kind ctx _ s₃)).mono ?_
    rintro ⟨_, _⟩ s₄ ⟨h, rfl⟩
    have hread := (Parsed.item (h.after hahead) rfl).know rfl fun o _ hstart _ => hstart
    rw [← s₂.next_start (show LexMode.standard ≠ .templateContinue by decide)] at hread
    exact hitem hread (by simp) fun {o o'} hbare hstart => ⟨rfl, o, o', rfl, hbare, hstart⟩

theorem answers_importDeclaration_kind (ctx : Context) (s : ParserState) :
    Answers s (importDeclaration ctx) fun read _ => read.1 = .importDeclaration := by
  refine .after fun _ _ => .after fun t s => ?_
  have hend : ∀ (specifiers : List ImportSpecifier) (s : ParserState), Answers s (do
      let request ← moduleRequest
      let missing ← requireSemicolon
      modify fun s => { s with imports := s.imports.push ⟨request, specifiers⟩ }
      pure (ItemKind.importDeclaration, missing)) fun read _ => read.1 = .importDeclaration :=
    fun _ _ => .after fun _ _ => .after fun _ _ => .after fun _ _ => answers_pure rfl
  exact answers_ite (fun _ => .after hend) fun _ => .after hend

theorem itemParsed_moduleItemBody (hg : g.Conforms) (ctx : Context) (first : Token)
    (hs : s.Steady) :
    Answers s (moduleItemBody g ctx first) fun read s' =>
      ItemParsed Phrase.moduleItem ctx.setting
        (read.1.HeadOf (s.next .standard).token.span.start) s s' := by
  have hitem : ∀ {p : Phrase} {known : Outline → Prop} {s₁ s' : ParserState}, Unread s s₁ →
      ItemParsed p ctx.setting known s₁ s' →
        p ∈ [Phrase.importDeclaration, Phrase.exportDeclaration, rule .statement] →
          ItemParsed Phrase.moduleItem ctx.setting known s s' := fun hunread h hp =>
    (h.oneOf hp).after hunread
  have hrest : ∀ (isImport : Bool) (s₁ : ParserState), Unread s s₁ → Answers s₁ (do
      if isImport then importDeclaration ctx
      else if first.type = .keywordExport then exportDeclaration g ctx
      else
        let isDeclaration ← declarationAhead
        let missing ← g.statement ctx
        pure (if isDeclaration then ItemKind.declaration else .statement, missing)) fun read s' =>
          ItemParsed Phrase.moduleItem ctx.setting
            (read.1.HeadOf (s.next .standard).token.span.start) s s' := by
    intro isImport s₁ hunread
    have hs₁ := hunread.steady
    refine answers_ite (fun _ => ?_) fun _ => answers_ite (fun _ => ?_) fun _ => ?_
    · refine ((parses_importDeclaration ctx hs₁).and
        (answers_importDeclaration_kind ctx s₁)).mono ?_
      rintro ⟨_, _⟩ s₂ ⟨h, rfl⟩
      exact hitem hunread (h.item rfl) (by simp)
    · refine (itemParsed_exportDeclaration hg ctx hs₁).mono fun _ _ h => ?_
      rw [hunread.next] at h
      exact hitem hunread h (by simp)
    · refine Answers.bind (unread_declarationAhead hs₁) fun isDeclaration s₂ hahead => ?_
      refine Answers.bind (hg.statement ctx hahead.steady) fun _ s₃ h => answers_pure ?_
      have hkind : ((if isDeclaration then ItemKind.declaration else .statement).HeadOf
          (s.next .standard).token.span.start) = fun _ => True := by cases isDeclaration <;> rfl
      rw [hkind]
      exact hitem (hunread.trans hahead) (Parsed.item h rfl) (by simp)
  refine answers_ite (fun _ => ?_) fun _ => hrest false s (.refl hs)
  exact Answers.bind hs.unread_peek2 fun _ s₁ ⟨hunread, _⟩ => hrest _ s₁ hunread

end ModuleBundler
