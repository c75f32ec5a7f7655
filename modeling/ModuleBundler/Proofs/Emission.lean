import ModuleBundler.Emit
import ModuleBundler.Proofs.Needs
import ModuleBundler.Proofs.Productions.Module

/-!
# The code of items is written without failure

* `Cursor.split_eq` : a text can be cut at each place of it;
* `gives_copyFragments`, `gives_editFragments` : a piece of a text is copied with the edits in it,
  whatever they are, if they begin and end at places of the text;
* `leads_gap` : a name that is put in takes the place of trivia only;
* `GivesWith` : work that succeeds and to which the names of some slots only make a difference;
* `givesWith_itemEdits` : for the edits of an item these are the slots that `ItemWrites` tells.
-/

namespace ModuleBundler

open Cursor (Leads)

/-! ## Places -/

/-- A text can be cut at a later place. -/
theorem Cursor.split_eq {c c' : Cursor} (h : c.Leads c') :
    c.split c'.offset = .ok (c.textUpTo c'.offset, c') := by
  rw [Cursor.split, advanceTo_eq h]
  exact if_pos ⟨h.offset_le, rfl⟩

theorem gives_split {c c' : Cursor} (h : c.Leads c') :
    Gives (c.split c'.offset) fun cut => cut.2 = c' := ⟨_, c.split_eq h, rfl⟩

/-- The text at a span can be read. -/
theorem gives_textAt {m : SourceModule} {last : Cursor} {span : Span}
    (h : span.Between (.ofString m.source) last) : Gives (m.textAt span) fun _ => True := by
  obtain ⟨start, stop, hstart, hspan, -, rfl⟩ := h
  refine (gives_split hstart).bind fun (_, place) hplace => ?_
  cases hplace
  exact (gives_split hspan).bind fun (text, _) _ => gives_ok trivial

theorem leads_skipTrivia_blanks (lineBreak : Bool) (offset : Nat) (cs : List Char) :
    Leads ⟨offset + byteLength (cs.takeWhile isBlank), cs.dropWhile isBlank⟩
      (skipTrivia .blank lineBreak offset cs).2 := by
  induction cs generalizing offset with
  | nil => exact leads_skipTrivia ..
  | cons c cs ih =>
    by_cases hc : isBlank c = true
    · rw [List.takeWhile_cons_of_pos hc, List.dropWhile_cons_of_pos hc, byteLength_cons,
        ← Nat.add_assoc]
      unfold isBlank at hc
      have hstep : skipTrivia .blank lineBreak offset (c :: cs) =
          skipTrivia .blank lineBreak (offset + c.utf8Size) cs := by
        rcases (by simpa using hc : c = ' ' ∨ c = '\t') with rfl | rfl
        · rfl
        · rfl
      rw [hstep]
      exact ih _
    · rw [List.takeWhile_cons_of_neg hc, List.dropWhile_cons_of_neg hc]
      exact leads_skipTrivia ..

/-- Blanks at a place stand before the next token. -/
theorem leads_gap (c : Cursor) :
    Leads ⟨c.offset + byteLength (c.rest.takeWhile isBlank), c.rest.dropWhile isBlank⟩
      c.tokenStart := by
  obtain ⟨offset, rest⟩ := c
  unfold Cursor.tokenStart Cursor.skipTrivia
  dsimp only
  split
  · exact leads_skipTrivia ..
  · exact leads_skipTrivia_blanks ..

/-! ## Copying -/

/-- Where tokens begin: in order, at places of a text, and not before an offset. -/
structure TokensFrom (source : Cursor) (offset : Nat) (tokens : List Nat) : Prop where
  sorted : tokens.Pairwise (· ≤ ·)
  places : ∀ t ∈ tokens, ∃ place, source.Leads place ∧ t = place.offset
  le : ∀ t ∈ tokens, offset ≤ t

theorem le_of_mem_dropWhile {tokens : List Nat} (h : tokens.Pairwise (· ≤ ·)) {offset : Nat} :
    ∀ t ∈ tokens.dropWhile (· < offset), offset ≤ t := by
  induction tokens with
  | nil => exact fun _ h => nomatch h
  | cons token rest ih =>
    obtain ⟨hle, hrest⟩ := List.pairwise_cons.mp h
    rw [List.dropWhile_cons]
    split
    · exact ih hrest
    · rename_i hge
      have hge := Nat.le_of_not_lt fun hlt => hge (decide_eq_true hlt)
      exact List.forall_mem_cons.mpr ⟨hge, fun t ht => Nat.le_trans hge (hle t ht)⟩

/-- The tokens from a later offset on. -/
theorem TokensFrom.dropWhile {source : Cursor} {offset : Nat} {tokens : List Nat}
    (h : TokensFrom source offset tokens) (later : Nat) :
    TokensFrom source later (tokens.dropWhile (· < later)) := by
  have hsub := List.dropWhile_sublist (l := tokens) (fun t => decide (t < later))
  exact ⟨h.sorted.sublist hsub, fun t ht => h.places t (hsub.subset ht),
    le_of_mem_dropWhile h.sorted⟩

/-- A piece of a text up to a place is copied with its tokens. -/
theorem gives_copyFragments {source c stop : Cursor} {tokens : List Nat} (hsource : source.Leads c)
    (hstop : c.Leads stop) (htokens : TokensFrom source c.offset tokens) :
    Gives (copyFragments stop.offset c tokens) fun _ => True := by
  induction tokens generalizing c with
  | nil => exact (gives_split hstop).bind fun (text, _) _ => gives_ok trivial
  | cons token tokens ih =>
    unfold copyFragments
    split
    · rename_i hlt
      obtain ⟨place, hplace, rfl⟩ := htokens.places token List.mem_cons_self
      have hc := hsource.total hplace (htokens.le _ List.mem_cons_self)
      have hrest : TokensFrom source place.offset tokens := by
        obtain ⟨hle, hsorted⟩ := List.pairwise_cons.mp htokens.sorted
        exact ⟨hsorted, fun t ht => htokens.places t (List.mem_cons_of_mem _ ht), hle⟩
      refine (gives_split hc).bind fun (text, next) hnext => ?_
      cases hnext
      have hle := Nat.le_of_lt hlt
      refine (ih hplace (hplace.total (hsource.trans hstop) hle) hrest).bind fun others _ => ?_
      exact gives_ok trivial
    · exact (gives_split hstop).bind fun (text, _) _ => gives_ok trivial

/-- A piece of a text up to a place is written with edits in it. -/
theorem gives_editFragments {source c stop : Cursor} {tokens : List Nat} {edits : List Edit}
    (hsource : source.Leads c) (hstop : c.Leads stop)
    (htokens : TokensFrom source c.offset tokens)
    (hedits : ∀ edit ∈ edits, edit.span.Between source stop) :
    Gives (editFragments stop.offset c tokens edits) fun _ => True := by
  induction edits generalizing c tokens with
  | nil => exact gives_copyFragments hsource hstop htokens
  | cons edit edits ih =>
    obtain ⟨hedit, hrest⟩ := List.forall_mem_cons.mp hedits
    unfold editFragments
    split
    · exact ih hsource hstop htokens hrest
    · rename_i hge
      obtain ⟨first, last, hfirst, hlast, hend, heq⟩ := hedit
      rw [heq] at hge ⊢
      have hc := hsource.total hfirst (Nat.le_of_not_lt hge)
      refine (gives_copyFragments hsource hc htokens).bind fun copied _ => ?_
      refine (gives_split (hc.trans hlast)).bind fun (_, next) hnext => ?_
      cases hnext
      refine (ih (hfirst.trans hlast) hend (htokens.dropWhile _) hrest).bind fun others _ => ?_
      exact gives_ok trivial

/-! ## Work with names -/

/-- The same imports from outside, and the same names for certain slots. -/
structure Names.SameFor (slots : Slot → Prop) (n other : Names) : Prop where
  names : ∀ slot, slots slot → other.get? slot = n.get? slot
  externals : other.externals = n.externals

/-- The work gives something with the property, and gives the same under all other names that are
the same for certain slots. -/
def GivesWith {α : Type} (n : Names) (slots : Slot → Prop) (work : Names → Except CompileError α)
    (property : α → Prop) : Prop :=
  ∃ a, property a ∧ ∀ other : Names, n.SameFor slots other → work other = .ok a

section
variable {α β : Type} {n : Names} {slots : Slot → Prop}

/-- Work without names. -/
theorem Gives.givesWith {x : Except CompileError α} {property : α → Prop} (h : Gives x property) :
    GivesWith n slots (fun _ => x) property := by
  obtain ⟨a, hx, ha⟩ := h
  exact ⟨a, ha, fun _ _ => hx⟩

theorem GivesWith.bind {work : Names → Except CompileError α}
    {next : Names → α → Except CompileError β} {first : α → Prop} {property : β → Prop}
    (hwork : GivesWith n slots work first)
    (hnext : ∀ a, first a → GivesWith n slots (fun other => next other a) property) :
    GivesWith n slots (fun other => work other >>= next other) property := by
  obtain ⟨a, ha, hwork⟩ := hwork
  obtain ⟨b, hb, hnext⟩ := hnext a ha
  refine ⟨b, hb, fun other hother => ?_⟩
  change work other >>= next other = .ok b
  rw [hwork other hother]
  exact hnext other hother

theorem GivesWith.mono {work : Names → Except CompileError α} {first property : α → Prop}
    (hwork : GivesWith n slots work first) (h : ∀ a, first a → property a) :
    GivesWith n slots work property := by
  obtain ⟨a, ha, hwork⟩ := hwork
  exact ⟨a, h a ha, hwork⟩

/-- Work may be written in another way for names that are the same for the slots. -/
theorem GivesWith.congr {work work' : Names → Except CompileError α} {property : α → Prop}
    (h : ∀ other, n.SameFor slots other → work other = work' other)
    (hwork : GivesWith n slots work' property) : GivesWith n slots work property := by
  obtain ⟨a, ha, hwork⟩ := hwork
  refine ⟨a, ha, fun other hother => ?_⟩
  rw [h other hother]
  exact hwork other hother

theorem givesWith_mapM {work : Names → α → Except CompileError β} {property : β → Prop}
    {as : List α} (h : ∀ a ∈ as, GivesWith n slots (fun other => work other a) property) :
    GivesWith n slots (fun other => as.mapM (work other)) fun bs => ∀ b ∈ bs, property b := by
  induction as with
  | nil => exact ⟨[], fun _ h => (nomatch h), fun _ _ => rfl⟩
  | cons a as ih =>
    obtain ⟨hfirst, hrest⟩ := List.forall_mem_cons.mp h
    simp only [List.mapM_cons]
    refine hfirst.bind fun b hb => (ih hrest).bind fun bs hbs => ?_
    exact (gives_ok (List.forall_mem_cons.mpr ⟨hb, hbs⟩)).givesWith

/-- Work on each entry of a list, whatever it gives. -/
theorem givesWith_each {work : Names → α → Except CompileError β} {as : List α}
    (h : ∀ a ∈ as, GivesWith n slots (fun other => work other a) fun _ => True) :
    GivesWith n slots (fun other => as.mapM (work other)) fun _ => True :=
  (givesWith_mapM h).mono fun _ _ => trivial

theorem givesWith_foldlM {work : Names → β → α → Except CompileError β} {as : List α}
    (h : ∀ b, ∀ a ∈ as, GivesWith n slots (fun other => work other b a) fun _ => True) (b : β) :
    GivesWith n slots (fun other => as.foldlM (work other) b) fun _ => True := by
  induction as generalizing b with
  | nil => exact ⟨b, trivial, fun _ _ => rfl⟩
  | cons a as ih =>
    simp only [List.foldlM_cons]
    refine (h b a List.mem_cons_self).bind fun mid _ => ih (fun b a ha => ?_) mid
    exact h b a (List.mem_cons_of_mem _ ha)

/-- The name of a slot is one of those that count. -/
theorem givesWith_nameOf {slot : Slot} (hslot : slots slot)
    (hname : ∃ name, n.get? slot = some name) :
    GivesWith n slots (fun other => other.nameOf slot) fun _ => True := by
  obtain ⟨name, hname⟩ := hname
  refine ⟨name, trivial, fun other hother => ?_⟩
  change other.nameOf slot = .ok name
  unfold Names.nameOf
  rw [hother.names slot hslot, hname]

end

/-! ## Edits -/

/-- The name of the slot is written in the code of an item: for a reference, for a variable that the
item declares, or for a dynamic import. -/
inductive SourceModule.ItemWrites (m : SourceModule) (l : Linkage) (index : Nat)
    (item : ModuleItem) : Slot → Prop where
  | reference {r : Nat} {slot : Slot} (hstart : item.references.start ≤ r)
      (hstop : r < item.references.stop) (h : l.referenceSlot m index r = some slot) :
      ItemWrites m l index item slot
  | declaration {binding : BindingId} (h : binding ∈ m.record.itemBindings item) :
      ItemWrites m l index item (.declared index binding)
  | dynamicImport {dynamic : DynamicImport} {slot : Slot} (h : (dynamic, slot) ∈ m.dynamicSlots)
      (hin : item.span.contains dynamic.span.start = true) : ItemWrites m l index item slot

/-- The edits lie between the beginning of the text of a module and a place of it. -/
def EditsUpTo (m : SourceModule) (last : Cursor) (edits : List Edit) : Prop :=
  ∀ edit ∈ edits, edit.span.Between (.ofString m.source) last

variable {l : Linkage} {n : Names} {slots : Slot → Prop} {m : SourceModule} {index : Nat}
  {item : ModuleItem} {last : Cursor}

theorem editsUpTo_nil : EditsUpTo m last [] := fun _ h => nomatch h

theorem editsUpTo_singleton {edit : Edit} :
    EditsUpTo m last [edit] ↔ edit.span.Between (.ofString m.source) last :=
  List.forall_mem_singleton

theorem EditsUpTo.append {edits edits' : List Edit} (h : EditsUpTo m last edits)
    (h' : EditsUpTo m last edits') : EditsUpTo m last (edits ++ edits') :=
  List.forall_mem_append.mpr ⟨h, h'⟩

theorem editsUpTo_filterMap {edits : List (Option Edit)}
    (h : ∀ edit? ∈ edits, EditsUpTo m last edit?.toList) :
    EditsUpTo m last (edits.filterMap id) := by
  intro edit hedit
  obtain ⟨edit?, hmem, heq⟩ := List.mem_filterMap.mp hedit
  exact h edit? hmem edit (Option.mem_toList.mpr heq)

/-- A name is written in the place of another one, or left as it is. -/
theorem gives_rename {span : Span} (h : span.Between (.ofString m.source) last) (shorthand : Bool)
    (old new : String) :
    Gives (m.rename span shorthand old new) fun edit? => EditsUpTo m last edit?.toList := by
  refine (gives_textAt h).bind fun written _ => ?_
  split
  · exact gives_ok editsUpTo_nil
  · exact gives_ok (editsUpTo_singleton.mpr h)

/-- A name is put in before the token that follows. -/
theorem insertName_between {tokens : List BufferedToken} {offset : Nat}
    (h : TokenFollows tokens (.ofString m.source) last offset) (name : String) :
    (insertName m offset name).span.Between (.ofString m.source) last := by
  obtain ⟨place, hplace, rfl, hfollows, -⟩ := h
  unfold insertName
  rw [Cursor.advanceTo_eq hplace]
  refine ⟨place, ⟨place.offset + byteLength (place.rest.takeWhile isBlank),
    place.rest.dropWhile isBlank⟩, hplace, ?_, (leads_gap place).trans hfollows, rfl⟩
  exact ⟨_, List.takeWhile_append_dropWhile.symm, rfl⟩

/-- The exporting part of an item is taken away. -/
theorem givesWith_exportEdits {tokens : List BufferedToken} {declarations : Array Declaration}
    {range : IndexRange} {kind : ItemKind}
    (hkind : KindRead tokens (.ofString m.source) last declarations range kind)
    (hdefault : DefaultDeclared declarations range →
      GivesWith n slots (fun other => defaultName other m index) fun _ => True) :
    GivesWith n slots (fun other => exportEdits other m index kind) (EditsUpTo m last) := by
  cases kind with
  | exportDeclaration strip =>
    exact ⟨[.delete strip], editsUpTo_singleton.mpr hkind.1, fun _ _ => rfl⟩
  | exportDefaultDeclaration strip nameAt =>
    cases nameAt with
    | none => exact ⟨[.delete strip], editsUpTo_singleton.mpr hkind.1, fun _ _ => rfl⟩
    | some offset =>
      obtain ⟨hfollows, hdeclared⟩ := hkind.2.2 offset rfl
      refine (hdefault hdeclared).bind fun name _ => (gives_ok ?_).givesWith
      refine List.forall_mem_cons.mpr ⟨hkind.1, editsUpTo_singleton.mpr ?_⟩
      exact insertName_between hfollows name
  | exportDefaultExpression strip expr =>
    refine (hdefault hkind.2.2).bind fun name _ => (gives_ok ?_).givesWith
    exact editsUpTo_singleton.mpr hkind.1
  | importDeclaration | exportList | exportFrom | declaration | statement =>
    exact ⟨[], editsUpTo_nil, fun _ _ => rfl⟩

section
variable (hnamed : ∀ slot, slots slot → ∃ name, n.get? slot = some name)
include hnamed

/-- A reference in an item is renamed. -/
theorem givesWith_referenceEdit {r : Nat} {reference : Reference}
    (hget : m.record.scopes.references[r]? = some reference)
    (hspan : reference.span.Between (.ofString m.source) last)
    (hslots : ∀ slot, l.referenceSlot m index r = some slot → slots slot) :
    GivesWith n slots (fun other => referenceEdit? l other m index r)
      fun edit? => EditsUpTo m last edit?.toList := by
  cases hslot : l.referenceSlot m index r with
  | none =>
    simp only [referenceEdit?, hslot]
    exact ⟨none, editsUpTo_nil, fun _ _ => rfl⟩
  | some slot =>
    simp only [referenceEdit?, hslot, hget]
    have hcounts := hslots slot hslot
    refine (givesWith_nameOf hcounts (hnamed slot hcounts)).bind fun name _ => ?_
    exact (gives_rename hspan _ _ _).givesWith

/-- A declaration in an item is renamed. -/
theorem givesWith_declarationEdit {d : Nat} {declaration : Declaration} {binding : BindingId}
    (hget : m.record.scopes.declarations[d]? = some declaration)
    (hbinding : m.record.scopes.ofDeclaration[d]? = some binding)
    (hspan : declaration.span.Between (.ofString m.source) last)
    (hslots : m.record.scopes.isModuleBinding binding = true → declaration.kind ≠ .imported →
      slots (.declared index binding)) :
    GivesWith n slots (fun other => declarationEdit? other m index d)
      fun edit? => EditsUpTo m last edit?.toList := by
  by_cases hrenamed : (m.record.scopes.isModuleBinding binding &&
      decide (declaration.kind ≠ .imported) && decide (declaration.name ≠ defaultBinding)) = true
  · simp only [declarationEdit?, hget, hbinding, if_pos hrenamed]
    simp only [Bool.and_eq_true, decide_eq_true_eq] at hrenamed
    have hcounts := hslots hrenamed.1.1 hrenamed.1.2
    refine (givesWith_nameOf hcounts (hnamed _ hcounts)).bind fun name _ => ?_
    exact (gives_rename hspan _ _ _).givesWith
  · simp only [declarationEdit?, hget, hbinding, if_neg hrenamed]
    exact ⟨none, editsUpTo_nil, fun _ _ => rfl⟩

/-- What an item exports as the default of its module has the name of a variable of the item. -/
theorem givesWith_defaultName (hbound : m.record.scopes.Bound)
    (hslots : ∀ binding ∈ m.record.itemBindings item, slots (.declared index binding))
    (hdeclared : DefaultDeclared m.record.scopes.declarations item.declarations) :
    GivesWith n slots (fun other => defaultName other m index) fun _ => True := by
  obtain ⟨d, declaration, hd, hd', hget, hname, hscope, hhoists, hown⟩ := hdeclared
  obtain ⟨binding, -, hbinding, -⟩ := hbound.binding d declaration hget
  have hfound := hbound.moduleBinding d declaration hget hscope hhoists
  rw [hname, hbinding] at hfound
  have hmodule := hbound.isModuleBinding _ _ hfound
  have hcounts := hslots _ (hbound.mem_itemBindings hd hd' hget hbinding hmodule hown)
  simp only [defaultName, hfound]
  exact givesWith_nameOf hcounts (hnamed _ hcounts)

/-! ## The edits of an item -/

variable {tokens : List BufferedToken} (hbound : m.record.scopes.Bound)
  (hitem : ItemRead (.ofString m.source) last tokens m.record.scopes.declarations
    m.record.scopes.references m.record.dynamicImports item)
  (hslots : ∀ slot, m.ItemWrites l index item slot → slots slot)
include hitem hslots

theorem givesWith_referenceEdits :
    GivesWith n slots (fun other => item.references.toList.mapM (referenceEdit? l other m index))
      fun edits => ∀ edit? ∈ edits, EditsUpTo m last edit?.toList := by
  refine givesWith_mapM fun r hr => ?_
  obtain ⟨hstart, hstop⟩ := IndexRange.mem_toList.mp hr
  obtain ⟨reference, hget, hspan⟩ := hitem.reference r hstart hstop
  refine givesWith_referenceEdit hnamed hget hspan fun slot h => ?_
  exact hslots slot (.reference hstart hstop h)

theorem givesWith_dynamicEdits :
    GivesWith n slots (fun other => (m.dynamicSlots.filter fun entry =>
        item.span.contains entry.1.span.start).mapM fun entry =>
          dynamicEdit other entry.1 entry.2) (EditsUpTo m last) := by
  refine givesWith_mapM fun (dynamic, slot) hentry => ?_
  obtain ⟨hmem, hin⟩ := List.mem_filter.mp hentry
  obtain ⟨d, -, hd, -⟩ := SourceModule.mem_dynamicSlots.mp hmem
  have hcounts := hslots slot (.dynamicImport hmem hin)
  refine (givesWith_nameOf hcounts (hnamed slot hcounts)).bind fun name _ =>
    (gives_ok ?_).givesWith
  exact hitem.dynamicImport dynamic (Array.mem_of_getElem? hd) hin

include hbound

theorem givesWith_declarationEdits :
    GivesWith n slots (fun other => item.declarations.toList.mapM (declarationEdit? other m index))
      fun edits => ∀ edit? ∈ edits, EditsUpTo m last edit?.toList := by
  refine givesWith_mapM fun d hd => ?_
  obtain ⟨hstart, hstop⟩ := IndexRange.mem_toList.mp hd
  obtain ⟨declaration, hget, hspan, -⟩ := hitem.declaration d hstart hstop
  obtain ⟨binding, -, hbinding, -⟩ := hbound.binding d declaration hget
  refine givesWith_declarationEdit hnamed hget hbinding hspan fun hmodule hkind => hslots _ ?_
  exact .declaration (hbound.mem_itemBindings hstart hstop hget hbinding hmodule hkind)

/-- The edits of an item lie in the text up to its end. -/
theorem givesWith_itemEdits :
    GivesWith n slots (fun other => itemEdits l other m index item) (EditsUpTo m last) := by
  have hdefault : DefaultDeclared m.record.scopes.declarations item.declarations →
      GivesWith n slots (fun other => defaultName other m index) fun _ => True :=
    givesWith_defaultName hnamed hbound fun binding h => hslots _ (.declaration h)
  refine (givesWith_referenceEdits hnamed hitem hslots).bind fun references hreferences => ?_
  refine (givesWith_declarationEdits hnamed hbound hitem hslots).bind
    fun declarations hdeclarations => ?_
  refine (givesWith_exportEdits hitem.kind hdefault).bind fun exports hexports => ?_
  refine (givesWith_dynamicEdits hnamed hitem hslots).bind fun dynamic hdynamic =>
    (gives_ok ?_).givesWith
  have hnames := (editsUpTo_filterMap hreferences).append (editsUpTo_filterMap hdeclarations)
  exact (hnames.append hexports).append hdynamic

end

/-- The code of an item is written. -/
theorem gives_itemFragments {tokens : List BufferedToken}
    (hrecord : RecordRead (.ofString m.source) tokens m.record)
    (hitem : ItemRead (.ofString m.source) last tokens m.record.scopes.declarations
      m.record.scopes.references m.record.dynamicImports item) {edits : List Edit}
    (hedits : EditsUpTo m last edits) :
    Gives (itemFragments m item edits) fun _ => True := by
  obtain ⟨first, hfirst, hlast, heq⟩ := hitem.span
  unfold itemFragments
  rw [heq]
  refine (gives_split hfirst).bind fun (_, start) hstart => ?_
  cases hstart
  have htokens : TokensFrom (.ofString m.source) 0 m.record.tokenStarts :=
    ⟨hrecord.sortedTokens, hrecord.starts, fun _ _ => Nat.zero_le _⟩
  refine (gives_editFragments hfirst hlast (htokens.dropWhile _) fun edit hedit => ?_).bind
    fun body _ => gives_ok trivial
  exact hedits edit (List.mem_mergeSort.mp hedit)

end ModuleBundler
