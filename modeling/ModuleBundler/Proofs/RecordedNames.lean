import ModuleBundler.Proofs.RecordStructure
import ModuleBundler.Proofs.WrittenNames

/-!
# Names in the records of modules

* `Derives.all_names` : the tokens of a text that declare or use something can name a variable, as
  the rules ask for such;
* `WrittenName.StandsAt` : where a name stands in a text, and how it is written there;
* `NamedAt`, `recordedNames_namedAt` : every name in the record of a module stands in its text, but
  for that of a default export without a name, and a variable may have it as long as the escapes in
  it are allowed;
* `isBindingName_of_noEscapes` : if there are none, it may.

A word is compared with those that are reserved as it is written, and a character that is written as
an escape may be any one.
-/

namespace ModuleBundler

open TokenStream (readAt)

/-! ## Tokens that are names -/

theorem TokenType.mem_all (type : TokenType) : type ∈ all := by
  cases type <;> decide

/-- Whether every token of the phrase that declares or uses something can name a variable. -/
def Phrase.isSpelled : Phrase → Bool
  | token accepts role =>
    role = .plain || TokenType.all.all fun type => !accepts type || type.isIdentifier
  | empty | placeholder _ | effect _ | rule _ => true
  | node _ inner => inner.isSpelled
  | seq first rest => first.isSpelled && rest.isSpelled
  | or left right => left.isSpelled && right.isSpelled
  | many item => item.isSpelled

theorem syntaxRules_isSpelled (n : Nonterminal) : (syntaxRules n).isSpelled = true := by
  cases n with
  | pattern kind => cases kind <;> rfl
  | assignment | unary | leftHandSide | new | statement => rfl

/-- What a text declares and uses can name a variable, if the rules ask for that. -/
theorem Derives.all_names {rules : Rules} {p : Phrase} {o : Outline}
    (hrules : ∀ n, (rules n).isSpelled = true) (h : Derives rules p o) (hp : p.isSpelled = true) :
    ∀ b ∈ o.names, b.token.type.isIdentifier = true := by
  induction h with
  | empty | placeholder | effect | none => exact fun _ hb => nomatch hb
  | @token accepts role b accepted =>
    intro b' hb'
    cases role with
    | plain => cases hb'
    | declares | uses =>
      obtain rfl := List.mem_singleton.mp hb'
      simpa [accepted] using List.all_eq_true.mp hp _ (TokenType.mem_all b'.token.type)
  | @rule n _ _ ih => exact ih (hrules n)
  | node _ ih => exact List.forall_mem_append.mpr ⟨ih hp, fun _ hb => nomatch hb⟩
  | seq _ _ ih ih' =>
    rw [Outline.names_append, List.forall_mem_append]
    obtain ⟨hp, hp'⟩ := Bool.and_eq_true_iff.mp hp
    exact ⟨ih hp, ih' hp'⟩
  | left _ ih => exact ih (Bool.and_eq_true_iff.mp hp).1
  | right _ ih => exact ih (Bool.and_eq_true_iff.mp hp).2
  | more _ _ ih ih' =>
    rw [Outline.names_append, List.forall_mem_append]
    exact ⟨ih hp, ih' hp⟩

theorem Itemized.all_names {o : Outline} {items : List ModuleItem} (h : Itemized o items) :
    ∀ b ∈ o.names, b.token.type.isIdentifier = true := by
  induction h with
  | none => exact fun _ hb => nomatch hb
  | more itemized outlined ih =>
    rw [Outline.names_append, List.forall_mem_append]
    exact ⟨ih, outlined.derives.all_names syntaxRules_isSpelled rfl⟩

/-! ## Names in a text -/

/-- The name stands in a text, written so, in a word that is not reserved. -/
structure WrittenName.StandsAt (w : WrittenName) (source : String) (span : Span) : Prop where
  text : ∃ before after, source.toList = before ++ (w.text ++ after) ∧
    span = ⟨byteLength before, byteLength before + byteLength w.text⟩
  unreserved : (wordType (String.ofList w.text)).isIdentifier = true

/-- A token of a text that can name a variable is a name that stands there. -/
theorem ReadFrom.exists_standsAt {source : String} {tokens : List BufferedToken}
    (h : ReadFrom (.ofString source) tokens) {b : BufferedToken} (hb : b ∈ tokens)
    (hname : b.token.type.isIdentifier = true) :
    ∃ w : WrittenName, w.StandsAt source b.token.span ∧ w.name = decodeName b.token.text := by
  obtain ⟨place, hplace, hread⟩ := h.exists_readAt hb
  rw [hread] at hname ⊢
  obtain ⟨w, hw, hunreserved⟩ := exists_writtenName hname
  obtain ⟨before, hbefore, hstart⟩ := hplace.trans (leads_tokenStartIn b.mode place)
  obtain ⟨htext, hstop⟩ := nextToken_text b.mode place
  have hspan := (nextToken_span b.mode place).2
  rw [hw, String.toList_ofList] at htext hstop
  have hstart : (place.tokenStartIn b.mode).offset = byteLength before :=
    hstart.trans (Nat.zero_add _)
  refine ⟨w, ⟨⟨before, _, hbefore.trans (congrArg (before ++ ·) htext), ?_⟩, hw ▸ hunreserved⟩, ?_⟩
  · rw [← hstart, ← hstop]
    exact hspan
  · exact congrArg decodeName hw.symm

/-- In a text without backslashes no name is written with escapes. -/
theorem WrittenName.StandsAt.escapesAllowed {w : WrittenName} {source : String} {span : Span}
    (h : w.StandsAt source span) (hsource : '\\' ∉ source.toList) : w.EscapesAllowed := by
  obtain ⟨⟨before, after, htext, -⟩, -⟩ := h
  refine WrittenName.escapesAllowed_of_plain (WrittenName.isEscape_of_noBackslash fun hmem => ?_)
  rw [htext] at hsource
  exact hsource (List.mem_append_right _ (List.mem_append_left _ hmem))

/-- A recorded name stands at its span, and whether a variable may have it is up to its escapes. -/
def NamedAt (source name : String) (span : Span) : Prop :=
  ∃ w : WrittenName, w.StandsAt source span ∧ w.name = name ∧
    (isBindingName name = true ↔ w.EscapesAllowed)

theorem NamedAt.isBindingName {source name : String} {span : Span} (h : NamedAt source name span)
    (hsource : '\\' ∉ source.toList) : isBindingName name = true := by
  obtain ⟨w, hw, -, hiff⟩ := h
  exact hiff.mpr (hw.escapesAllowed hsource)

/-- The declaration of a default export without a name. It takes up nothing of the text. -/
def Declaration.IsPlaceholder (d : Declaration) : Prop :=
  d.name = defaultBinding ∧ d.span.start = d.span.stop

/-! ## Names in a record -/

namespace RecordOutlined

variable {source : String} {record : ModuleRecord} {o : Outline}

theorem namedAt_of_mem_names (h : RecordOutlined source record o) {b : BufferedToken}
    (hb : b ∈ o.names) : NamedAt source (decodeName b.token.text) b.token.span := by
  obtain ⟨w, hw, hname⟩ :=
    h.chain.exists_standsAt (Outline.mem_tokens_of_mem_names hb) (h.items.all_names b hb)
  exact ⟨w, hw, hname, hname ▸ WrittenName.isBindingName_iff hw.unreserved⟩

theorem namedAt_reference (h : RecordOutlined source record o) {r : Reference}
    (hr : r ∈ record.scopes.references) : NamedAt source r.name r.span := by
  rw [← Array.mem_toList_iff, h.references] at hr
  obtain ⟨⟨own, l⟩, hl, hr⟩ := List.mem_filterMap.mp hr
  obtain ⟨b, _, rfl, rfl⟩ := Leaf.eq_of_reference? hr
  exact h.namedAt_of_mem_names (Outline.mem_names_of_mem_leaves hl rfl)

theorem namedAt_declaration (h : RecordOutlined source record o) {d : Declaration}
    (hd : d ∈ record.scopes.declarations) (hplaceholder : ¬ d.IsPlaceholder) :
    NamedAt source d.name d.span := by
  rw [← Array.mem_toList_iff, h.declarations] at hd
  obtain ⟨⟨own, l⟩, hl, hd⟩ := List.mem_filterMap.mp hd
  rcases Leaf.eq_of_declaration? hd with ⟨b, _, _, rfl, rfl⟩ | ⟨offset, _, rfl, rfl⟩
  · exact h.namedAt_of_mem_names (Outline.mem_names_of_mem_leaves hl rfl)
  · exact absurd ⟨rfl, rfl⟩ hplaceholder

end RecordOutlined

/-- **What a module declares and uses is named in its text, in a word that is not reserved there.**
The name is one that a variable may have as long as the escapes in it are allowed. -/
theorem recordedNames_namedAt {source : String} {record : ModuleRecord}
    (h : parseModule source = .ok record) :
    (∀ r ∈ record.scopes.references, NamedAt source r.name r.span) ∧
      ∀ d ∈ record.scopes.declarations, ¬ d.IsPlaceholder → NamedAt source d.name d.span := by
  obtain ⟨o, ho⟩ := parseModule_outlined h
  exact ⟨fun r hr => ho.namedAt_reference hr, fun d hd => ho.namedAt_declaration hd⟩

/-- A module in which a name is declared and used with escapes in it. -/
def escapedName : String := "let \\u0061b = 1;\nexport default f(\\u\x7b61\x7db);\n"

theorem escapedName_namedAt : ∃ record, parseModule escapedName = .ok record ∧
    (record.scopes.references.map Reference.name).toList = ["f", "ab"] ∧
    (record.scopes.declarations.map Declaration.name).toList = ["ab", defaultBinding] ∧
    (∀ r ∈ record.scopes.references, NamedAt escapedName r.name r.span) ∧
    ∀ d ∈ record.scopes.declarations, ¬ d.IsPlaceholder → NamedAt escapedName d.name d.span := by
  have hread : ((parseModule escapedName).toOption.map fun record =>
      ((record.scopes.references.map Reference.name).toList,
        (record.scopes.declarations.map Declaration.name).toList)) =
      some (["f", "ab"], ["ab", defaultBinding]) := by decide +kernel
  cases hrecord : parseModule escapedName with
  | error e =>
    rw [hrecord] at hread
    cases hread
  | ok record =>
    rw [hrecord] at hread
    obtain ⟨hreferences, hdeclarations⟩ := Prod.mk.inj (Option.some.inj hread)
    exact ⟨record, rfl, hreferences, hdeclarations, recordedNames_namedAt hrecord⟩

/-- A module in which the name that stands for a default export is declared and a reserved word is
used, both written with escapes. -/
def escapedReserved : String := "let \\u\x7b2a\x7ddefault\\u\x7b2a\x7d = \\u0063lass;"

theorem escapedReserved_recorded : ∃ record, parseModule escapedReserved = .ok record ∧
    (∃ d ∈ record.scopes.declarations, ¬ d.IsPlaceholder ∧ d.name = defaultBinding ∧
      isBindingName d.name = false) ∧
    ∃ r ∈ record.scopes.references, r.name = "class" ∧ isBindingName r.name = false := by
  have hread : ((parseModule escapedReserved).toOption.map fun record =>
      ((record.scopes.declarations.map fun d => (d.name, d.span)).toList,
        (record.scopes.references.map Reference.name).toList)) =
      some ([(defaultBinding, ⟨4, 23⟩)], ["class"]) := by decide +kernel
  cases hrecord : parseModule escapedReserved with
  | error e =>
    rw [hrecord] at hread
    cases hread
  | ok record =>
    rw [hrecord] at hread
    obtain ⟨hdeclarations, hreferences⟩ := Prod.mk.inj (Option.some.inj hread)
    rw [Array.toList_map] at hdeclarations hreferences
    refine ⟨record, rfl, ?_, ?_⟩
    · obtain ⟨d, hd, heq⟩ := List.mem_map.mp (hdeclarations ▸ List.mem_singleton_self _)
      obtain ⟨hname, hspan⟩ := Prod.mk.inj heq
      refine ⟨d, Array.mem_toList_iff.mp hd, fun hplaceholder => ?_, hname, ?_⟩
      · have hpoint := hplaceholder.2
        rw [hspan] at hpoint
        revert hpoint
        decide
      · rw [hname]
        decide +kernel
    · obtain ⟨r, hr, hname⟩ := List.mem_map.mp (hreferences ▸ List.mem_singleton_self _)
      refine ⟨r, Array.mem_toList_iff.mp hr, hname, ?_⟩
      rw [hname]
      decide +kernel

/-- All names in a text without backslashes are names that variables may have. -/
theorem isBindingName_of_noEscapes {source : String} {record : ModuleRecord}
    (h : parseModule source = .ok record) (hsource : '\\' ∉ source.toList) :
    (∀ r ∈ record.scopes.references, isBindingName r.name = true) ∧
      ∀ d ∈ record.scopes.declarations, ¬ d.IsPlaceholder → isBindingName d.name = true := by
  obtain ⟨o, ho⟩ := parseModule_outlined h
  exact ⟨fun r hr => (ho.namedAt_reference hr).isBindingName hsource,
    fun d hd hplaceholder => (ho.namedAt_declaration hd hplaceholder).isBindingName hsource⟩

end ModuleBundler
