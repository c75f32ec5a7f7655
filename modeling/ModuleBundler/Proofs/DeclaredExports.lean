import ModuleBundler.Proofs.OfferedExports
import ModuleBundler.Proofs.RecordStructure
import ModuleBundler.Proofs.ResolvedNames

/-!
# Exports of declarations

* `exportsWithin` : the exports that stand in a span;
* `ExportsDeclaration`, `ItemExports` : what an item exports stands in it, and what a declaration
  after `export` exports is what it declares directly in the module;
* `ExportsInRow` : items in a row with what they export, and `ExportsInRow.split` : the exports that
  stand in an item are its own;
* `parseModule_exportsInRow` : so it is with the items of every module;
* `ExportsDeclaration.itemBindings_eq` : the variables that such a declaration declares are those
  of the names that it exports;
* `exportedDeclaration_exports` : a declaration after `export` exports what it binds.
-/

namespace ModuleBundler

variable {source : String} {scopes scopes' : Array Scope}
  {declarations declarations' : Array Declaration} {items : List ModuleItem} {item : ModuleItem}
  {exports own : List ExportSpecifier}

/-! ## Exports of items -/

/-- The exports that stand in a span. -/
def exportsWithin (span : Span) (exports : List ExportSpecifier) : List ExportSpecifier :=
  exports.filter fun e => span.contains e.span.start

/-- The declarations of a range are those of a text that declares directly, and all of them that are
in the module scope are exported. -/
structure ExportsDeclaration (scopes : Array Scope) (declarations : Array Declaration)
    (range : IndexRange) (own : List ExportSpecifier) (o : Outline) (next : ScopeId)
    (before after : List Declaration) : Prop where
  direct : o.DeclaresDirectly
  scopes : ScopesFrom scopes next (o.scopes moduleScope next)
  declarations : declarations.toList = before ++ (o.declarations moduleScope next ++ after)
  range : range = ⟨before.length, (before ++ o.declarations moduleScope next).length⟩
  exports : own = declaredExports (o.declarations moduleScope next)

/-- What an item exports stands in it. If it is a declaration after `export`, that is what it
declares in the module. -/
structure ItemExports (scopes : Array Scope) (declarations : Array Declaration) (item : ModuleItem)
    (own : List ExportSpecifier) : Prop where
  within : ∀ e ∈ own, item.span.contains e.span.start = true
  declared : ∀ strip, item.kind = .exportDeclaration strip → ∃ o next before after,
    ExportsDeclaration scopes declarations item.declarations own o next before after

/-- Items in a row, and what they export. -/
inductive ExportsInRow (scopes : Array Scope) (declarations : Array Declaration) :
    List ModuleItem → List ExportSpecifier → Prop where
  | none : ExportsInRow scopes declarations [] []
  | more {items : List ModuleItem} {item : ModuleItem} {exports own : List ExportSpecifier}
      (inRow : ExportsInRow scopes declarations items exports)
      (last : ItemExports scopes declarations item own) :
      ExportsInRow scopes declarations (items ++ [item]) (exports ++ own)

/-! ## Items in a row -/

/-- More scopes and declarations after those that are there make no difference. -/
theorem ItemExports.mono (h : ItemExports scopes declarations item own)
    (hscopes : scopes.toList <+: scopes'.toList)
    (hdeclarations : declarations.toList <+: declarations'.toList) :
    ItemExports scopes' declarations' item own where
  within := h.within
  declared strip hkind := by
    obtain ⟨o, next, before, after, h⟩ := h.declared strip hkind
    obtain ⟨moreScopes, hscopes⟩ := hscopes
    obtain ⟨more, hmore⟩ := hdeclarations
    refine ⟨o, next, before, after ++ more,
      { h with scopes := fun i scope hi => ?_, declarations := ?_ }⟩
    · have hscope := h.scopes i scope hi
      rw [← Array.getElem?_toList] at hscope ⊢
      rw [← hscopes, List.getElem?_append_left (List.getElem?_eq_some_iff.mp hscope).1]
      exact hscope
    · rw [← hmore, h.declarations, List.append_assoc, List.append_assoc]

theorem ExportsInRow.mono (h : ExportsInRow scopes declarations items exports)
    (hscopes : scopes.toList <+: scopes'.toList)
    (hdeclarations : declarations.toList <+: declarations'.toList) :
    ExportsInRow scopes' declarations' items exports := by
  induction h with
  | none => exact .none
  | more inRow last ih => exact .more ih (last.mono hscopes hdeclarations)

/-- Each export stands in one of the items. -/
theorem ExportsInRow.exists_item (h : ExportsInRow scopes declarations items exports)
    {e : ExportSpecifier} (he : e ∈ exports) :
    ∃ item ∈ items, item.span.contains e.span.start = true := by
  induction h with
  | none => cases he
  | @more items last exports own inRow hlast ih =>
    rcases List.mem_append.mp he with he | he
    · obtain ⟨item, hitem, hwithin⟩ := ih he
      exact ⟨item, List.mem_append_left _ hitem, hwithin⟩
    · exact ⟨last, List.mem_append_right _ List.mem_cons_self, hlast.within e he⟩

theorem Span.not_contains_both {a b : Span} (hapart : a.stop ≤ b.start) {offset : Nat}
    (ha : a.contains offset = true) : ¬ b.contains offset = true := by
  unfold Span.contains at ha ⊢
  rw [Bool.and_eq_true, decide_eq_true_eq, decide_eq_true_eq] at ha ⊢
  omega

/-- Of items that do not overlap each has its own exports, and together they have all. -/
theorem ExportsInRow.split (h : ExportsInRow scopes declarations items exports)
    (hapart : items.Pairwise fun a b => a.span.stop ≤ b.span.start) :
    (∀ item ∈ items, ItemExports scopes declarations item (exportsWithin item.span exports)) ∧
      (items.flatMap fun item => exportsWithin item.span exports) = exports := by
  induction h with
  | none => exact ⟨fun _ hitem => absurd hitem List.not_mem_nil, rfl⟩
  | @more items last exports own inRow hlast ih =>
    obtain ⟨hitems, -, hbefore⟩ := List.pairwise_append.mp hapart
    have hbefore : ∀ item ∈ items, item.span.stop ≤ last.span.start := fun item hitem =>
      hbefore item hitem last List.mem_cons_self
    have hearlier : ∀ item ∈ items,
        exportsWithin item.span (exports ++ own) = exportsWithin item.span exports := by
      intro item hitem
      have hnone : exportsWithin item.span own = [] := List.filter_eq_nil_iff.mpr fun e he hitem' =>
        Span.not_contains_both (hbefore item hitem) hitem' (hlast.within e he)
      unfold exportsWithin at hnone ⊢
      rw [List.filter_append, hnone, List.append_nil]
    have hown : exportsWithin last.span (exports ++ own) = own := by
      have hnone : exportsWithin last.span exports = [] := List.filter_eq_nil_iff.mpr fun e he => by
        obtain ⟨item, hitem, hwithin⟩ := inRow.exists_item he
        exact Span.not_contains_both (hbefore item hitem) hwithin
      have hall : exportsWithin last.span own = own := List.filter_eq_self.mpr hlast.within
      unfold exportsWithin at hnone hall ⊢
      rw [List.filter_append, hnone, hall, List.nil_append]
    obtain ⟨hsplit, hflat⟩ := ih hitems
    constructor
    · refine List.forall_mem_append.mpr ⟨fun item hitem => ?_, List.forall_mem_singleton.mpr ?_⟩
      · rw [hearlier item hitem]
        exact hsplit item hitem
      · rw [hown]
        exact hlast
    · rw [List.flatMap_append, List.flatMap_singleton, hown]
      refine congrArg (· ++ own) (Eq.trans ?_ hflat)
      exact List.flatMap_congr hearlier

/-! ## Reading items -/

/-- What was exported so far is what the items so far export. -/
structure ExportsRead (source : String) (s : ParserState) : Prop where
  text : s.tokens.OfText source
  inRow : ExportsInRow s.scopes s.declarations s.items.toList s.exports.toList

/-- A token that was read after others is none of them. -/
theorem ReadSince.exists_mem {tokens earlier : List BufferedToken} {span : Span}
    (h : ReadSince earlier (tokens.reverse ++ earlier) span) :
    ∃ b ∈ tokens, b.token.span = span := by
  obtain ⟨b, _, ⟨later, hlater⟩, ⟨between, rfl⟩, hspan⟩ := h
  rw [← List.cons_append, ← List.append_assoc] at hlater
  have hmem : b ∈ tokens.reverse := by
    rw [← List.append_cancel_right hlater]
    exact List.mem_append_right _ List.mem_cons_self
  exact ⟨b, List.mem_reverse.mp hmem, hspan⟩

/-- A declaration that was read is exported. -/
theorem ExportsDeclared.exportsDeclaration {s s' : ParserState} (h : ExportsDeclared s s') :
    ∃ own, s'.exports.toList = s.exports.toList ++ own ∧ ∃ o next before after,
      ExportsDeclaration s'.scopes s'.declarations ⟨s.declarations.size, s'.declarations.size⟩
        own o next before after := by
  obtain ⟨o, hdirect, -, htext⟩ := h.text
  refine ⟨_, h.exports, o, s.scopes.size, s.declarations.toList, [], hdirect,
    fun i scope hi => ?_, ?_, ?_, ?_⟩
  · rw [← Array.getElem?_toList, htext.scopes, ← Array.length_toList,
      List.getElem?_append_right (Nat.le_add_right _ _), Nat.add_sub_cancel_left]
    exact hi
  · rw [List.append_nil]
    exact htext.declarations
  · rw [← Array.length_toList, ← Array.length_toList, htext.declarations]
    rfl
  · rw [htext.declarations, ← Array.length_toList, List.drop_left]
    rfl

/-- One more item is read. -/
theorem exportsRead_moduleItem {s : ParserState} (hs : s.Steady) (h : ExportsRead source s) :
    Answers s (moduleItem moduleGrammar .module) fun _ s' => ExportsRead source s' := by
  have hmode : LexMode.slashIsRegex ≠ .templateContinue := by decide
  refine hs.answers_moduleItem fun s₁ hunread hs₁ => ?_
  rw [← hunread.next, ← hunread.declarations, ← hunread.references]
  have hsteady : ParserState.Steady { s₁ with sideEffects := false } :=
    ⟨hunread.steady.chained, hunread.steady.ahead⟩
  have hsource : s₁.tokens.OfText source :=
    ⟨hunread.source.trans h.text.source, hunread.steady.chained.tokens⟩
  have hbody := fun first =>
    (itemParsed_moduleItemBody moduleGrammar_conforms .module first hsteady).and
      ((answers_moduleItemBody (Grammar.steps_ofDepth _) rfl first hsteady.chained).and
        (offers_moduleItemBody hsteady hsource first))
  refine (hbody _).mono fun (kind, missing) s₂ ⟨hparsed, hbody, hoffers, hdeclared⟩ => ?_
  obtain ⟨o, hderives, htext, -, -⟩ := hparsed
  obtain ⟨own, hown, hsince⟩ := hoffers.exports
  have hinRow : ExportsInRow s₂.scopes s₂.declarations s₁.items.toList s₁.exports.toList := by
    rw [hs₁]
    refine h.inRow.mono ?_ ?_
    · rw [htext.scopes, hunread.scopes]
      exact List.prefix_append _ _
    · rw [htext.declarations, hunread.declarations]
      exact List.prefix_append _ _
  refine ⟨hoffers.text, ?_⟩
  rw [Array.toList_push, hbody.step.items, hown]
  refine hinRow.more ⟨fun e he => ?_, fun strip hkind => ?_⟩
  · have hspan := htext.extent_eq (hderives.tokens_ne_nil syntaxRules_not_nullable rfl) hmode
    have hread := hsince e he
    rw [htext.behind] at hread
    obtain ⟨b, hb, heq⟩ := hread.exists_mem
    have hlt := htext.chain.start_lt_stop hb (hderives.all_tokens syntaxRules_isProper rfl b hb)
    obtain ⟨hstart, hstop⟩ := htext.chain.within_extent hb
    rw [hspan] at hstart hstop
    rw [heq] at hlt hstart hstop
    exact Bool.and_eq_true_iff.mpr ⟨decide_eq_true hstart, decide_eq_true (hlt.trans_le hstop)⟩
  · obtain ⟨own', hown', hexports⟩ := (hdeclared strip hkind).exportsDeclaration
    cases List.append_cancel_left (hown.symm.trans hown')
    exact hexports

theorem exportsInRow_moduleRest {s : ParserState} {o : Outline} (ho : ModuleOutlined source s o)
    (h : ExportsRead source s) :
    Answers s (moduleRest moduleGrammar .module) fun record _ =>
      ExportsInRow record.scopes.scopes record.scopes.declarations record.items.toList
        record.exports.toList := by
  refine (@answers_loopWhile _ (fun s => (∃ o, ModuleOutlined source s o) ∧ ExportsRead source s)
    (fun s ⟨⟨o, ho⟩, h⟩ => ?_) s ⟨⟨o, ho⟩, h⟩).bind fun _ s₁ ⟨_, h⟩ => ?_
  · have hpeek := (ho.steady.unread_peekIn (by decide)).and
      ((answers_peekIn NoKind moduleScope .standard ho.steady.chained).and
        (Program.peek.quiet h.text))
    refine Answers.bind hpeek fun t s₁ ⟨⟨hunread, _⟩, hstep, hquiet⟩ => ?_
    have ho := ho.unread hunread hstep.step.items
    have h : ExportsRead source s₁ := ⟨hquiet.text, by
      rw [hunread.scopes, hunread.declarations, hstep.step.items, hquiet.exports]
      exact h.inRow⟩
    refine answers_ite (fun _ => answers_pure ⟨⟨o, ho⟩, h⟩) fun _ => ?_
    exact ((outlined_moduleItem ho).and (exportsRead_moduleItem ho.steady h)).bind
      fun _ s₂ h => answers_pure h
  · refine Answers.bind (answers_require_eq s₁ .eof) fun t s₂ hs₂ => ?_
    intro record s' heq
    obtain ⟨_, _, hget, heq⟩ := stateBind_eq_ok.mp heq
    cases hget
    obtain ⟨tree, hbuild, heq⟩ := bind_eq_ok.mp ((liftBind_run _ _ _).symm.trans heq)
    cases heq
    obtain ⟨hscopes, hdeclarations, -⟩ := records_of_build hbuild
    rw [hs₂] at hscopes hdeclarations
    rw [hs₂]
    dsimp only
    rw [hscopes, hdeclarations]
    exact h.inRow

/-- In every module the items and what they export stand in a row. -/
theorem parseModule_exportsInRow {record : ModuleRecord} (h : parseModule source = .ok record) :
    ExportsInRow record.scopes.scopes record.scopes.declarations record.items.toList
      record.exports.toList := by
  obtain ⟨⟨record, s'⟩, hrest, rfl⟩ := map_eq_ok.mp h
  refine exportsInRow_moduleRest (moduleOutlined_ofString source) ⟨?_, .none⟩ hrest
  exact TokenStream.ofText_ofString source

/-! ## Variables of the module -/

/-- Of names that stand for something each, what they stand for is met again with the name. -/
theorem map_eraseDups_filterMap {α β : Type} [DecidableEq α] [DecidableEq β] {f : α → Option β}
    {g : β → Option α} : ∀ as : List α, (∀ a ∈ as, ∃ b, f a = some b ∧ g b = some a) →
      ((as.filterMap f).eraseDups).map g = as.eraseDups.map some
  | [], _ => rfl
  | a :: as, h => by
    obtain ⟨⟨b, hf, hg⟩, has⟩ := List.forall_mem_cons.mp h
    have hothers : (as.filterMap f).filter (fun b' => !b' == b) =
        (as.filter fun a' => !a' == a).filterMap f := by
      rw [List.filter_filterMap, List.filterMap_filter]
      refine List.filterMap_congr fun a' ha' => ?_
      obtain ⟨b', hf', hg'⟩ := has a' ha'
      have hiff : b' = b ↔ a' = a := by
        constructor
        · rintro rfl
          exact Option.some.inj (hg'.symm.trans hg)
        · rintro rfl
          exact Option.some.inj (hf'.symm.trans hf)
      simp [hf', Option.filter_some, hiff]
    rw [List.filterMap_cons_some hf, List.eraseDups_cons, List.eraseDups_cons, List.map_cons,
      List.map_cons, hg, hothers]
    exact congrArg _ (map_eraseDups_filterMap _ fun a' ha' => has a' (List.mem_filter.mp ha').1)
termination_by as => as.length
decreasing_by
  simpa using Nat.lt_succ_of_le (List.length_filter_le _ as)

theorem filterMap_range' {α β : Type} {f : Nat → Option β} {g : α → Option β} {as : List α}
    {start : Nat} (h : ∀ (i : Nat) a, as[i]? = some a → f (start + i) = g a) :
    (List.range' start as.length).filterMap f = as.filterMap g := by
  induction as generalizing start with
  | nil => rfl
  | cons a as ih =>
    have hfirst : f start = g a := h 0 a rfl
    have hrest : (List.range' (start + 1) as.length).filterMap f = as.filterMap g :=
      ih fun i b hb => by
        rw [Nat.add_right_comm]
        exact h (i + 1) b hb
    rw [List.length_cons, List.range'_succ, List.filterMap_cons, List.filterMap_cons, hfirst, hrest]

/-- Scopes nest in the first one. -/
theorem NestedScopes.rooted (h : NestedScopes scopes) (hroot : scopes[0]? = some ⟨none, .module⟩) :
    RootedScopes scopes := by
  intro id hid
  refine ⟨0, ?_, hroot⟩
  induction id using Nat.strongRecOn with
  | ind id ih =>
    rcases Nat.eq_zero_or_pos id with rfl | hpos
    · exact .refl
    · obtain ⟨parent, hparent, hlt⟩ := h.parent id hpos hid
      exact .head hparent (ih parent hlt (hlt.trans hid))

namespace ScopeTree

variable {tree : ScopeTree}

/-- The name of a variable. -/
def bindingName? (tree : ScopeTree) (id : BindingId) : Option String :=
  (tree.bindings[id]?).map Binding.name

theorem Indexed.bindingName?_eq (h : tree.Indexed) {name : String} {id : BindingId}
    (hid : tree.moduleBinding? name = some id) : tree.bindingName? id = some name := by
  obtain ⟨b, hb, hname⟩ := h.name moduleScope name id hid
  unfold bindingName?
  rw [hb, Option.map_some, hname]

/-- What is declared in the module scope, and gets there from nowhere else, is a variable of the
module. -/
theorem exists_moduleBinding (h : tree.Indexed)
    (hold : TablesHold tree.scopes tree.declarations.toList tree.tables)
    (hroot : RootedScopes tree.scopes) {i : Nat} {d : Declaration}
    (hd : tree.declarations.toList[i]? = some d)
    (hdirect : BelongsTo tree.scopes d moduleScope ↔ d.scope = moduleScope) :
    ∃ id, tree.ofDeclaration[i]? = some id ∧
      (d.scope = moduleScope → tree.moduleBinding? d.name = some id) ∧
      ((tree.isModuleBinding id = true ∧ tree.bindingKind? id ≠ some .imported) ↔
        d.scope = moduleScope ∧ d.kind ≠ .imported) := by
  have hscope := h.declarationScope d (Array.mem_toList_iff.mp (List.mem_of_getElem? hd))
  rw [belongsTo_iff hroot hscope] at hdirect
  obtain ⟨id, b, hid, hb, hkind⟩ := hold.binding i d hd
  have hlookup := (hold.found i d hd (h.nested.targetScope_lt d.kind hscope)).trans hid
  obtain ⟨b', hb', htarget⟩ := hold.scope _ _ _ hlookup
  cases hb.symm.trans hb'
  refine ⟨id, hid, fun hmodule => ?_, ?_⟩
  · rw [← hdirect.mpr hmodule] at hlookup
    exact hlookup
  · have hb : tree.bindings[id]? = some b := hb
    unfold isModuleBinding bindingKind?
    rw [hb, Option.any_some, Option.map_some, htarget, decide_eq_true_eq, ← hdirect, Ne, Ne,
      Option.some_inj, hkind, eq_comm]

end ScopeTree

/-- The variables that an item declares directly in the module are those of what it exports. -/
theorem ExportsDeclaration.itemBindings_eq {record : ModuleRecord} {o : Outline} {next : ScopeId}
    {before after : List Declaration}
    (h : ExportsDeclaration record.scopes.scopes record.scopes.declarations item.declarations
      own o next before after)
    (hindexed : record.scopes.Indexed)
    (hold : TablesHold record.scopes.scopes record.scopes.declarations.toList record.scopes.tables)
    (hmodule : record.scopes.scopes[0]? = some ⟨none, .module⟩) :
    (∀ e ∈ own, ∃ id, record.scopes.moduleBinding? e.exported = some id) ∧
      record.itemBindings item =
        ((own.map ExportSpecifier.exported).filterMap record.scopes.moduleBinding?).eraseDups := by
  have hroot := hindexed.nested.rooted hmodule
  have hbound : ∀ (i : Nat) d, (o.declarations moduleScope next)[i]? = some d →
      ∃ id, record.scopes.ofDeclaration[before.length + i]? = some id ∧
        (d.scope = moduleScope → record.scopes.moduleBinding? d.name = some id) ∧
        ((record.scopes.isModuleBinding id = true ∧
          record.scopes.bindingKind? id ≠ some .imported) ↔
            d.scope = moduleScope ∧ d.kind ≠ .imported) := by
    intro i d hd
    refine ScopeTree.exists_moduleBinding hindexed hold hroot ?_
      (h.direct.belongsTo_iff hroot ⟨_, hmodule, .inr rfl⟩ h.scopes (List.mem_of_getElem? hd))
    rw [h.declarations, List.getElem?_append_right (Nat.le_add_right _ _), Nat.add_sub_cancel_left,
      List.getElem?_append_left (List.getElem?_eq_some_iff.mp hd).1]
    exact hd
  have hrange : item.declarations.toList =
      List.range' before.length (o.declarations moduleScope next).length := by
    rw [h.range, IndexRange.toList, List.length_append, Nat.add_sub_cancel_left]
  constructor
  · intro e he
    rw [h.exports] at he
    obtain ⟨d, hd, rfl⟩ := List.mem_map.mp he
    obtain ⟨hd, hown⟩ := List.mem_filter.mp hd
    obtain ⟨i, hi⟩ := List.getElem?_of_mem hd
    obtain ⟨id, -, hid, -⟩ := hbound i d hi
    exact ⟨id, hid (of_decide_eq_true (Bool.and_eq_true_iff.mp hown).1)⟩
  · unfold ModuleRecord.itemBindings
    rw [hrange, h.exports, declaredExports, List.map_map, List.filterMap_map, List.filterMap_filter]
    congr 1
    refine filterMap_range' fun i d hd => ?_
    obtain ⟨id, hid, hname, hiff⟩ := hbound i d hd
    rw [hid]
    dsimp only
    by_cases hown : d.scope = moduleScope ∧ d.kind ≠ .imported
    · rw [if_pos (hiff.mpr hown), if_pos (by simpa using hown)]
      exact (hname hown.1).symm
    · rw [if_neg (mt hiff.mp hown), if_neg (by simpa using hown)]

/-- **A declaration after `export` exports what it binds.** The exports of a module are those of
its items, one item after the other. A declaration after `export` exports the variables of the
module that it declares, each under its own name, and nothing else. -/
theorem exportedDeclaration_exports {record : ModuleRecord} (h : parseModule source = .ok record) :
    (record.items.toList.flatMap fun item => exportsWithin item.span record.exports.toList) =
        record.exports.toList ∧
      ∀ item ∈ record.items, ∀ strip, item.kind = .exportDeclaration strip →
        (record.itemBindings item).map record.scopes.bindingName? =
            ((exportsWithin item.span record.exports.toList).map
              ExportSpecifier.exported).eraseDups.map some ∧
          ∀ e ∈ exportsWithin item.span record.exports.toList,
            e.target = .binding e.exported ∧ ∃ id ∈ record.itemBindings item,
              record.scopes.bindingName? id = some e.exported ∧
                record.scopes.moduleBinding? e.exported = some id := by
  obtain ⟨tokens, hstructured⟩ := parseModule_structured h
  obtain ⟨o, ho⟩ := parseModule_outlined h
  obtain ⟨hitems, hall⟩ := (parseModule_exportsInRow h).split hstructured.items_sorted
  refine ⟨hall, fun item hitem strip hkind => ?_⟩
  have hindexed := ScopeTree.indexed_of_build hstructured.scopes hstructured.declarationScopes
    hstructured.referenceScopes ho.built
  have hmodule : record.scopes.scopes[0]? = some ⟨none, .module⟩ := by
    rw [← Array.getElem?_toList, ho.scopes]
    rfl
  obtain ⟨o', next, before, after, hexports⟩ :=
    (hitems item (Array.mem_toList_iff.mpr hitem)).declared strip hkind
  obtain ⟨hbound, hbindings⟩ := hexports.itemBindings_eq hindexed
    (ScopeTree.tablesHold_of_build ho.built) hmodule
  rw [hbindings]
  constructor
  · refine map_eraseDups_filterMap _ fun name hname => ?_
    obtain ⟨e, he, rfl⟩ := List.mem_map.mp hname
    obtain ⟨id, hid⟩ := hbound e he
    exact ⟨id, hid, hindexed.bindingName?_eq hid⟩
  · intro e he
    obtain ⟨id, hid⟩ := hbound e he
    have hmem : id ∈ (((exportsWithin item.span record.exports.toList).map
        ExportSpecifier.exported).filterMap record.scopes.moduleBinding?).eraseDups :=
      List.mem_eraseDups.mpr (List.mem_filterMap.mpr ⟨_, List.mem_map_of_mem he, hid⟩)
    refine ⟨?_, id, hmem, hindexed.bindingName?_eq hid, hid⟩
    rw [hexports.exports] at he
    obtain ⟨d, -, rfl⟩ := List.mem_map.mp he
    rfl

/-- A module text in which functions and classes in a declaration declare variables of their own. -/
def nestedDeclarations : String :=
  "export var {a, b: [c] = (() => { var h; return [1] })()} = {}, " ++
    "K = class { static { var s } m(p) { var u } }"

theorem nestedDeclarations_exports : ∃ record item strip,
    parseModule nestedDeclarations = .ok record ∧ item ∈ record.items ∧
      item.kind = .exportDeclaration strip ∧
        ((exportsWithin item.span record.exports.toList).map
          ExportSpecifier.exported).eraseDups.map some = [some "a", some "c", some "K"] := by
  have hread : ((parseModule nestedDeclarations).toOption.map fun record =>
      record.items.toList.map fun item =>
        (item.kind, (record.itemBindings item).map record.scopes.bindingName?)) =
          some [(.exportDeclaration ⟨0, 7⟩, [some "a", some "c", some "K"])] := by decide +kernel
  cases hrecord : parseModule nestedDeclarations with
  | error e =>
    rw [hrecord] at hread
    cases hread
  | ok record =>
    rw [hrecord] at hread
    obtain ⟨item, hitems, hitem⟩ := List.map_eq_singleton_iff.mp (Option.some.inj hread)
    obtain ⟨hkind, hnames⟩ := Prod.mk.inj hitem
    have hmem : item ∈ record.items := by
      rw [← Array.mem_toList_iff, hitems]
      exact List.mem_cons_self
    refine ⟨record, item, ⟨0, 7⟩, rfl, hmem, hkind, ?_⟩
    rw [← ((exportedDeclaration_exports hrecord).2 item hmem _ hkind).1, hnames]

end ModuleBundler
