import ModuleBundler.Proofs.WrittenSlots

/-!
# Names that are made up

* `isIdentifierName_append`, `wordType_of_mem` : what makes a text a name, and no reserved word;
* `isIdentifierName_identifierStem` : a path gives the start of a name;
* `isBindingName_numberedName` : a number makes a name one that nothing is reserved for;
* `Slot.MadeUp` : a variable has no name in any module;
* `madeUpName_illegal_iff` : the name that is made up for a variable can be written as it stands,
  unless it is a reserved word that the path of a module outside gives.
-/

namespace ModuleBundler

/-! ## Texts that are names -/

/-- A name that goes on as a name may is a name. -/
theorem isIdentifierName_append {name more : List Char} (h : isIdentifierName name = true)
    (hmore : more.all isIdentifierContinue = true) :
    isIdentifierName (name ++ more) = true := by
  cases name with
  | nil => cases h
  | cons c rest =>
    obtain ⟨hstart, hrest⟩ := Bool.and_eq_true_iff.mp h
    rw [List.cons_append, isIdentifierName, hstart, Bool.true_and, List.all_append, hrest,
      Bool.true_and, hmore]

/-- No reserved word has an underscore or a dollar sign. -/
theorem wordType_of_mem {text : String} {c : Char} (hmem : c ∈ text.toList)
    (hc : c = '_' ∨ c = '$') : wordType text = .identifier := by
  have hnone : keywords.lookup text = none := by
    refine List.lookup_eq_none_iff.mpr fun entry hentry => bne_iff_ne.mpr ?_
    have hwords : ∀ entry ∈ keywords, '_' ∉ entry.1.toList ∧ '$' ∉ entry.1.toList := by decide
    rintro rfl
    rcases hc with rfl | rfl
    · exact (hwords entry hentry).1 hmem
    · exact (hwords entry hentry).2 hmem
  rw [wordType, hnone, Option.getD_none]

theorem isBindingName_of_mem {text : String} {c : Char} (h : isIdentifierName text.toList = true)
    (hmem : c ∈ text.toList) (hc : c = '_' ∨ c = '$') : isBindingName text = true := by
  rw [isBindingName, h, wordType_of_mem hmem hc]
  rfl

/-- Names with a number. -/
theorem isBindingName_numberedName {base : String} (h : isIdentifierName base.toList = true)
    (n : Nat) : isBindingName (numberedName base n) = true ↔ n ≠ 0 ∨ isBindingName base = true := by
  unfold numberedName
  split
  · rename_i hzero
    simp [hzero]
  · rename_i hpos
    have hdigits : ("$".toList ++ (toString n).toList).all isIdentifierContinue = true := by
      rw [Nat.toString_eq_repr, Nat.toList_repr, List.all_append, Bool.and_eq_true]
      refine ⟨by decide, List.all_eq_true.mpr fun c hc => ?_⟩
      have hdigit := Nat.isDigit_of_mem_toDigits (by decide) (Nat.le_refl 10) hc
      simp [isIdentifierContinue, Char.isAlphanum, hdigit]
    refine ⟨fun _ => .inl hpos, fun _ => isBindingName_of_mem (c := '$') ?_ ?_ (.inr rfl)⟩
    · rw [String.toList_append, String.toList_append, List.append_assoc]
      exact isIdentifierName_append h hdigits
    · simp

/-! ## Paths -/

/-- A path gives the start of a name, whatever is in it. -/
theorem isIdentifierName_identifierStem (path : String) :
    isIdentifierName (identifierStem path).toList = true := by
  unfold identifierStem
  dsimp only
  rw [String.toList_ofList]
  generalize hname : (fileStem path).map _ = name
  have hstem : ∀ c ∈ name, c.isAlphanum = true ∨ c = '$' ∨ c = '_' := by
    rw [← hname]
    refine List.forall_mem_map.mpr fun c _ => ?_
    split
    · rename_i h
      simp only [Bool.or_eq_true, decide_eq_true_eq] at h
      tauto
    · exact .inr (.inr rfl)
  have hcontinue : ∀ c ∈ name, isIdentifierContinue c = true := by
    intro c hc
    rcases hstem c hc with h | rfl | rfl
    · simp [isIdentifierContinue, h]
    · rfl
    · rfl
  cases name with
  | nil => rfl
  | cons first rest =>
    obtain ⟨hfirst, hrest⟩ := List.forall_mem_cons.mp hcontinue
    cases hdigit : first.isDigit with
    | true =>
      simp only [List.head?_cons, Option.all_some, hdigit, if_true]
      exact isIdentifierName_append (show isIdentifierName ['_'] = true from rfl)
        (List.all_eq_true.mpr hcontinue)
    | false =>
      -- What is no digit may stand in front.
      simp only [List.head?_cons, Option.all_some, hdigit, Bool.false_eq_true, if_false]
      have hstart : isIdentifierStart first = true := by
        rcases hstem first List.mem_cons_self with h | rfl | rfl
        · rw [Char.isAlphanum, hdigit, Bool.or_false] at h
          simp [isIdentifierStart, h]
        · rfl
        · rfl
      rw [isIdentifierName, hstart, Bool.true_and]
      exact List.all_eq_true.mpr hrest

/-! ## Variables -/

/-- A variable has no name in any module: it is the default export of a module that gives it none, or
no import has it. -/
def Slot.MadeUp (g : ModuleGraph) (l : Linkage) : Slot → Prop
  | .declared index binding => ∀ m b, g.modules[index]? = some m →
    m.record.scopes.bindings[binding]? = some b → b.name = defaultBinding
  | .namespaceOf index => ∀ name, (.namespaceOf index, name) ∉ importAliases g l
  | .external specifier imported => ∀ name, (.external specifier imported, name) ∉ importAliases g l

/-- A path outside of the bundle gives a reserved word for a variable whose own name is no name. -/
def Slot.StemReserved : Slot → Prop
  | .external specifier (.name imported) => isBindingName imported = false ∧
    (wordType (identifierStem specifier)).isIdentifier = false
  | .declared .. | .namespaceOf _ | .external _ .all => False

variable {g : ModuleGraph} {l : Linkage}

theorem isIdentifierName_stem (index : Nat) :
    isIdentifierName (((g.modules[index]?).map fun m => m.id.stem).getD "_").toList = true := by
  cases g.modules[index]? with
  | none => rfl
  | some m =>
    rw [Option.map_some, Option.getD_some]
    cases m.id with
    | file path => exact isIdentifierName_identifierStem path
    | remote url => exact isIdentifierName_identifierStem url.pathname

/-- A name with an ending is one that nothing is reserved for. -/
theorem isBindingName_append {stem : String} (h : isIdentifierName stem.toList = true)
    (ending : String) (hending : ending.toList.all isIdentifierContinue = true)
    (hmem : '_' ∈ ending.toList) : isBindingName (stem ++ ending) = true := by
  refine isBindingName_of_mem (c := '_') ?_ ?_ (.inl rfl)
  · rw [String.toList_append]
    exact isIdentifierName_append h hending
  · rw [String.toList_append]
    exact List.mem_append_right _ hmem

/-- The name that a variable without one is to have. It is reserved only if a path outside gives a
reserved word. -/
theorem desiredName_madeUp {slot : Slot} (h : slot.MadeUp g l) :
    isIdentifierName (desiredName g (importAliases g l) slot).toList = true ∧
      (isBindingName (desiredName g (importAliases g l) slot) = false ↔ slot.StemReserved) ∧
      (slot.StemReserved → ∃ specifier imported, slot = .external specifier imported ∧
        desiredName g (importAliases g l) slot = identifierStem specifier) := by
  have hlegal : ∀ {name : String}, isBindingName name = true →
      isIdentifierName name.toList = true := fun hname => (Bool.and_eq_true_iff.mp hname).1
  have hnone : ((importAliases g l).filter fun entry => !entry.1.isDeclared).lookup slot = none := by
    refine List.lookup_eq_none_iff.mpr fun entry hentry => bne_iff_ne.mpr ?_
    obtain ⟨hentry, hkind⟩ := List.mem_filter.mp hentry
    rintro rfl
    obtain ⟨slot, name⟩ := entry
    cases slot with
    | declared => cases hkind
    | namespaceOf => exact h name hentry
    | external => exact h name hentry
  unfold desiredName
  dsimp only
  rw [hnone]
  cases slot with
  | declared index binding =>
    have hname : (do
        let m ← g.modules[index]?
        let b ← m.record.scopes.bindings[binding]?
        pure b.name).getD defaultBinding = defaultBinding := by
      cases hm : g.modules[index]? with
      | none => rfl
      | some m =>
        cases hb : m.record.scopes.bindings[binding]? with
        | none => simp [hb]
        | some b => simp [hb, h m b hm hb]
    dsimp only
    rw [hname, if_pos rfl]
    have hname := isBindingName_append (isIdentifierName_stem (g := g) index) "_default"
      (by decide) (by decide)
    exact ⟨hlegal hname, ⟨fun h => absurd hname (by simp [h]), False.elim⟩, False.elim⟩
  | namespaceOf index =>
    have hname := isBindingName_append (isIdentifierName_stem (g := g) index) "_ns"
      (by decide) (by decide)
    exact ⟨hlegal hname, ⟨fun h => absurd hname (by simp [h]), False.elim⟩, False.elim⟩
  | external specifier imported =>
    cases imported with
    | all =>
      have hname := isBindingName_append (isIdentifierName_identifierStem specifier) "_ns"
        (by decide) (by decide)
      exact ⟨hlegal hname, ⟨fun h => absurd hname (by simp [h]), False.elim⟩, False.elim⟩
    | name imported =>
      dsimp only
      split
      · rename_i hname
        exact ⟨hlegal hname, by simp [Slot.StemReserved, hname], fun h => by
          simp [Slot.StemReserved, hname] at h⟩
      · rename_i hname
        rw [Bool.not_eq_true] at hname
        have hstem := isIdentifierName_identifierStem specifier
        refine ⟨hstem, ?_, fun _ => ⟨specifier, _, rfl, rfl⟩⟩
        rw [isBindingName, hstem, Bool.true_and]
        exact ⟨fun h => ⟨hname, h⟩, And.right⟩

/-- The first name that is free is one of the numbered ones. -/
theorem freeName_eq_numberedName (taken : List String) (base : String) :
    ∃ n, freeName taken base = numberedName base n := by
  unfold freeName
  dsimp only
  cases hfind : ((List.range (taken.length + 1)).map (numberedName base)).find?
      fun name => !taken.contains name with
  | none => exact ⟨0, rfl⟩
  | some name =>
    obtain ⟨n, -, rfl⟩ := List.mem_map.mp (List.mem_of_find?_eq_some hfind)
    exact ⟨n, rfl⟩

theorem nameSlots_eq_numberedName {desired : Slot → String} {uses : List SlotUse}
    {used : List String} {slots : List Slot} {slot : Slot} {name : String}
    (h : (slot, name) ∈ nameSlots desired uses used slots) :
    ∃ n, name = numberedName (desired slot) n := by
  induction slots generalizing used with
  | nil => cases h
  | cons first rest ih =>
    rcases List.mem_cons.mp h with heq | hrest
    · obtain ⟨rfl, rfl⟩ := Prod.mk.inj heq
      exact freeName_eq_numberedName _ _
    · exact ih hrest

/-- **Made-up names** can be written as they stand, with one exception. Every variable that is named
has a name. If it has none in any module, its name is no reserved word and has no characters but
those of names, unless it is that of something outside with a name that cannot be written so, of
which the path gives a reserved word that no other name has taken. -/
theorem madeUpName_illegal_iff {needs : Needs} {slot : Slot} (hslot : slot ∈ namedSlots g l needs)
    (hmade : slot.MadeUp g l) : ∃ name, (assignNames g l needs).get? slot = some name ∧
      (isBindingName name = false ↔ slot.StemReserved ∧
        ∃ specifier imported, slot = .external specifier imported ∧
          name = identifierStem specifier) := by
  obtain ⟨name, hname⟩ := exists_name hslot
  refine ⟨name, hname, ?_⟩
  obtain ⟨hword, hreserved, hstem⟩ := desiredName_madeUp hmade
  obtain ⟨n, rfl⟩ := nameSlots_eq_numberedName (Names.mem_of_get?_eq_some hname)
  have hbinding := isBindingName_numberedName hword n
  rw [← Bool.not_eq_true, hbinding, not_or, Bool.not_eq_true, hreserved, not_not, and_comm]
  refine and_congr_right fun hslot => ?_
  obtain ⟨specifier, imported, rfl, hdesired⟩ := hstem hslot
  rw [hdesired]
  constructor
  · rintro rfl
    exact ⟨specifier, imported, rfl, rfl⟩
  · rintro ⟨specifier', imported', heq, hnumber⟩
    cases heq
    exact numberedName_injective (identifierStem specifier) hnumber

/-- An entry that only hands on the default exports of two modules outside. -/
def handedOn : ModuleProvider where
  resolve _ _ := .ok .external
  load
    | .file "/index.js" => .text
      "export { default as x } from \"class\";\nexport { default as y } from \"./my-lib.js\";\n"
    | id => .failed (.missing id.text)

/-- The graph of the entry and what is linked in it. -/
def handedOnGraph : Option (ModuleGraph × Linkage) := do
  let logged ← discover handedOn (fun _ => false) 2
  let g ← logged.result.toOption
  let l ← (link g).toOption
  pure (g, l)

theorem madeUp_external {specifier : String} {imported : Imported}
    (h : .external specifier imported ∉ (importAliases g l).map Prod.fst) :
    (Slot.external specifier imported).MadeUp g l :=
  fun _ hmem => h (List.mem_map_of_mem hmem)

/-- The name for the one from `./my-lib.js` can be written as it stands. -/
theorem handedOnGraph_name_legal : ∃ g l, handedOnGraph = some (g, l) ∧
    ∃ name, (assignNames g l (shake g l true)).get? (.external "./my-lib.js" (.name "default")) =
      some name ∧ isBindingName name = true := by
  have hgraph : (handedOnGraph.any fun (g, l) =>
      .external "./my-lib.js" (.name "default") ∈ namedSlots g l (shake g l true) ∧
        .external "./my-lib.js" (.name "default") ∉ (importAliases g l).map Prod.fst) = true := by
    decide +kernel
  obtain ⟨⟨g, l⟩, hlinked, h⟩ := (Option.any_eq_true _ _).mp hgraph
  obtain ⟨hslot, halias⟩ := of_decide_eq_true h
  obtain ⟨name, hname, hillegal⟩ := madeUpName_illegal_iff hslot (madeUp_external halias)
  refine ⟨g, l, hlinked, name, hname, ?_⟩
  rw [← Bool.not_eq_false, hillegal]
  rintro ⟨⟨-, hreserved⟩, -⟩
  revert hreserved
  decide +kernel

/-- The name for the one from `class` is a word under which no variable can be declared. -/
theorem handedOnGraph_name_reserved : ∃ g l, handedOnGraph = some (g, l) ∧
    .external "class" (.name "default") ∈ namedSlots g l (shake g l true) ∧
    (Slot.external "class" (.name "default")).MadeUp g l ∧
    (assignNames g l (shake g l true)).get? (.external "class" (.name "default")) = some "class" ∧
    isBindingName "class" = false := by
  have hgraph : (handedOnGraph.any fun (g, l) =>
      .external "class" (.name "default") ∈ namedSlots g l (shake g l true) ∧
        .external "class" (.name "default") ∉ (importAliases g l).map Prod.fst ∧
        (assignNames g l (shake g l true)).get? (.external "class" (.name "default")) =
          some "class") = true := by
    decide +kernel
  obtain ⟨⟨g, l⟩, hlinked, h⟩ := (Option.any_eq_true _ _).mp hgraph
  obtain ⟨hslot, halias, hname⟩ := of_decide_eq_true h
  exact ⟨g, l, hlinked, hslot, madeUp_external halias, hname, by decide +kernel⟩

end ModuleBundler
