import Mathlib.Data.List.Count
import ModuleBundler.Proofs.Emission

/-!
# The pieces of a bundle

* `Piece` : imports from outside, an object with exports, an item, or the exports of the entry;
* `Piece.Writes`, `Piece.Declares` : the slots whose names are in a piece, and those that it
  declares;
* `bundlePieces` : the pieces of a bundle in their order;
* `emit_sections` : a bundle has imports, objects with exports, items and its own exports in this order;
* `emit_code` : the code of a bundle is that of its pieces, one after another.
-/

namespace ModuleBundler

variable {g : ModuleGraph} {l : Linkage} {needs : Needs} {n : Names}

/-- A piece of the code of a bundle. -/
inductive Piece where
  | imports (specifier : String)
  | namespaceObject (module : Nat) (exports : ExportList)
  | item (module : Nat) (code : ModuleItem)
  | entryExports
  deriving DecidableEq

/-- The code of a piece. -/
def Piece.text (g : ModuleGraph) (l : Linkage) (n : Names) : Piece → Except CompileError String
  | .imports specifier => importStatements l n specifier
  | .namespaceObject module exports => namespaceText n module exports
  | .item module code => do
    let m ← g.getModule module
    let edits ← itemEdits l n m module code
    let fragments ← itemFragments m code edits
    pure (String.join (fragments.map Fragment.toText))
  | .entryExports => exportStatements l n

/-- The piece declares the slot. -/
def Piece.Declares (g : ModuleGraph) (n : Names) : Piece → Slot → Prop
  | .imports specifier, slot => slot ∈ n.externals ∧ ∃ imported, slot = .external specifier imported
  | .namespaceObject module _, slot => slot = .namespaceOf module
  | .item module code, slot => ∃ m, g.modules[module]? = some m ∧
    ∃ binding ∈ m.record.itemBindings code, slot = .declared module binding
  | .entryExports, _ => False

/-- The name of the slot is written in the piece. -/
def Piece.Writes (g : ModuleGraph) (l : Linkage) (n : Names) : Piece → Slot → Prop
  | .imports specifier, slot => slot ∈ n.externals ∧ ∃ imported, slot = .external specifier imported
  | .namespaceObject module exports, slot => slot = .namespaceOf module ∨ ∃ e ∈ exports, e.2 = slot
  | .item module code, slot => ∃ m, g.modules[module]? = some m ∧ m.ItemWrites l module code slot
  | .entryExports, slot => ∃ e ∈ l.entryExports, e.2 = slot

/-- What a piece declares is written in it. -/
theorem Piece.Declares.writes {piece : Piece} {slot : Slot} (h : piece.Declares g n slot) :
    piece.Writes g l n slot := by
  cases piece with
  | imports => exact h
  | namespaceObject => exact Or.inl h
  | item =>
    obtain ⟨m, hm, binding, hbinding, rfl⟩ := h
    exact ⟨m, hm, .declaration hbinding⟩
  | entryExports => exact h.elim

/-- The piece is the object with the exports of a module. -/
def Piece.isObjectOf (module : Nat) : Piece → Bool
  | .namespaceObject index _ => index = module
  | .imports _ | .item .. | .entryExports => false

/-! ## The pieces of a bundle -/

/-- The items of a module whose code is in the bundle. -/
def modulePieces (g : ModuleGraph) (needs : Needs) (module : Nat) : List Piece :=
  match g.modules[module]? with
  | none => []
  | some m =>
    ((needs.keptItems m module).filter fun item => !item.kind.isModuleSyntax).map (.item module)

/-- The objects with exports that are in the bundle. -/
def namespacePieces (l : Linkage) (needs : Needs) : List Piece :=
  (l.namespaces.filter fun entry => needs.isLive (.namespaceOf entry.1)).map fun entry =>
    .namespaceObject entry.1 entry.2

/-- The pieces of a bundle in their order. -/
def bundlePieces (g : ModuleGraph) (l : Linkage) (needs : Needs) (n : Names) : List Piece :=
  (outsideSpecifiers g n).map .imports ++ namespacePieces l needs ++
    g.order.flatMap (modulePieces g needs) ++ [.entryExports]

theorem mem_bundlePieces {piece : Piece} : piece ∈ bundlePieces g l needs n ↔
    (∃ specifier ∈ outsideSpecifiers g n, piece = .imports specifier) ∨
      piece ∈ namespacePieces l needs ∨ (∃ module ∈ g.order, piece ∈ modulePieces g needs module) ∨
        piece = .entryExports := by
  simp only [bundlePieces, List.mem_append, List.mem_map, List.mem_flatMap, List.mem_singleton,
    or_assoc]
  refine or_congr_left (exists_congr fun specifier => and_congr_right fun _ => ?_)
  exact eq_comm

theorem mem_modulePieces {piece : Piece} {module : Nat} : piece ∈ modulePieces g needs module ↔
    ∃ index m item, g.ItemAt module index m item ∧ needs.keeps module index = true ∧
      item.kind.isModuleSyntax = false ∧ piece = .item module item := by
  unfold modulePieces ModuleGraph.ItemAt
  cases hm : g.modules[module]? with
  | none => simp
  | some m =>
    simp only [List.mem_map, List.mem_filter, Needs.mem_keptItems, Bool.not_eq_true',
      Option.some.injEq]
    constructor
    · rintro ⟨item, ⟨⟨index, hitem, hkeeps⟩, hcode⟩, rfl⟩
      exact ⟨index, m, item, ⟨rfl, hitem⟩, hkeeps, hcode, rfl⟩
    · rintro ⟨index, _, item, ⟨rfl, hitem⟩, hkeeps, hcode, rfl⟩
      exact ⟨item, ⟨⟨index, hitem, hkeeps⟩, hcode⟩, rfl⟩

/-- The imports from a specifier are as many pieces as the specifier occurs. -/
theorem count_imports (g : ModuleGraph) (l : Linkage) (needs : Needs) (n : Names)
    (specifier : String) : (bundlePieces g l needs n).count (.imports specifier) =
      (outsideSpecifiers g n).count specifier := by
  have hobjects : .imports specifier ∉ namespacePieces l needs := fun h => by
    obtain ⟨_, _, heq⟩ := List.mem_map.mp h
    cases heq
  have hitems : .imports specifier ∉ g.order.flatMap (modulePieces g needs) := fun h => by
    obtain ⟨_, _, h⟩ := List.mem_flatMap.mp h
    obtain ⟨_, _, _, _, _, _, heq⟩ := mem_modulePieces.mp h
    cases heq
  have hexports : Piece.imports specifier ∉ [Piece.entryExports] := fun h => by
    cases List.mem_singleton.mp h
  unfold bundlePieces
  rw [List.count_append, List.count_append, List.count_append, List.count_eq_zero.mpr hobjects,
    List.count_eq_zero.mpr hitems, List.count_eq_zero.mpr hexports]
  exact List.count_map_of_injective _ _ (fun _ _ heq => Piece.imports.inj heq) _

/-- The objects with the exports of a module are pieces as often as they are live. -/
theorem countP_isObjectOf (g : ModuleGraph) (l : Linkage) (needs : Needs) (n : Names)
    (module : Nat) : (bundlePieces g l needs n).countP (Piece.isObjectOf module) =
      (namespacePieces l needs).countP (Piece.isObjectOf module) := by
  have himports : ∀ piece ∈ (outsideSpecifiers g n).map Piece.imports,
      ¬ piece.isObjectOf module = true := fun piece h => by
    obtain ⟨_, _, rfl⟩ := List.mem_map.mp h
    exact Bool.false_ne_true
  have hitems : ∀ piece ∈ g.order.flatMap (modulePieces g needs),
      ¬ piece.isObjectOf module = true := fun piece h => by
    obtain ⟨_, _, h⟩ := List.mem_flatMap.mp h
    obtain ⟨_, _, _, _, _, _, rfl⟩ := mem_modulePieces.mp h
    exact Bool.false_ne_true
  have hexports : ∀ piece ∈ [Piece.entryExports], ¬ piece.isObjectOf module = true :=
    List.forall_mem_singleton.mpr Bool.false_ne_true
  unfold bundlePieces
  rw [List.countP_append, List.countP_append, List.countP_append,
    List.countP_eq_zero.mpr himports, List.countP_eq_zero.mpr hitems,
    List.countP_eq_zero.mpr hexports, Nat.zero_add, Nat.add_zero]

/-! ## The code of a bundle -/

theorem Output.push_foldl_code (texts : List String) (o : Output) :
    (texts.foldl Output.push o).code = o.code ++ String.join texts := by
  induction texts generalizing o with
  | nil => simp
  | cons text texts ih =>
    rw [List.foldl_cons, ih, String.join_cons, ← String.append_assoc]
    rfl

theorem Output.write_foldl_code (source : Nat) (lines : LineIndex) (fragments : List Fragment)
    (o : Output) : (fragments.foldl (Output.write source lines) o).code =
      o.code ++ String.join (fragments.map Fragment.toText) := by
  induction fragments generalizing o with
  | nil => simp
  | cons fragment fragments ih =>
    rw [List.foldl_cons, ih, List.map_cons, String.join_cons, ← String.append_assoc]
    cases fragment with
    | text => rfl
    | origin => simp [Output.write, Fragment.toText]

theorem join_flatten (texts : List (List Fragment)) :
    String.join (texts.flatten.map Fragment.toText) =
      String.join (texts.map fun fragments => String.join (fragments.map Fragment.toText)) := by
  induction texts with
  | nil => rfl
  | cons fragments texts ih =>
    rw [List.flatten_cons, List.map_append, String.join_append, ih, List.map_cons,
      String.join_cons]

theorem getModule_eq_ok {module : Nat} {m : SourceModule} (h : g.getModule module = .ok m) :
    g.modules[module]? = some m := by
  unfold ModuleGraph.getModule at h
  split at h
  · rename_i hget
    cases h
    exact hget
  · cases h

/-- The code of the items of a module is written after what is there. -/
theorem emitModule_code {o o' : Output} {module : Nat}
    (h : emitModule g l needs n o module = .ok o') : ∃ texts,
      List.Forall₂ (fun piece text => Piece.text g l n piece = .ok text)
        (modulePieces g needs module) texts ∧
      o'.code = o.code ++ String.join texts := by
  obtain ⟨m, hm, h⟩ := bind_eq_ok.mp h
  obtain ⟨fragments, hfragments, h⟩ := bind_eq_ok.mp h
  obtain rfl := pure_eq_ok.mp h
  refine ⟨fragments.map fun f => String.join (f.map Fragment.toText), ?_, ?_⟩
  · unfold modulePieces
    rw [getModule_eq_ok hm]
    refine List.forall₂_map_left_iff.mpr (List.forall₂_map_right_iff.mpr ?_)
    refine (mapM_eq_ok.mp hfragments).imp fun item f hf => ?_
    obtain ⟨edits, hedits, hf⟩ := bind_eq_ok.mp hf
    refine bind_eq_ok.mpr ⟨m, hm, bind_eq_ok.mpr ⟨edits, hedits, ?_⟩⟩
    exact bind_eq_ok.mpr ⟨f, hf, rfl⟩
  · rw [Output.write_foldl_code, join_flatten]

theorem emitModules_code {modules : List Nat} {o o' : Output}
    (h : modules.foldlM (emitModule g l needs n) o = .ok o') : ∃ texts,
      List.Forall₂ (fun piece text => Piece.text g l n piece = .ok text)
        (modules.flatMap (modulePieces g needs)) texts ∧
      o'.code = o.code ++ String.join texts := by
  induction modules generalizing o with
  | nil =>
    cases h
    exact ⟨[], .nil, by simp⟩
  | cons module modules ih =>
    obtain ⟨mid, hmid, hrest⟩ := bind_eq_ok.mp h
    obtain ⟨first, hfirst, hcode⟩ := emitModule_code hmid
    obtain ⟨rest, htexts, hcode'⟩ := ih hrest
    refine ⟨first ++ rest, List.rel_append hfirst htexts, ?_⟩
    rw [hcode', hcode, String.join_append, String.append_assoc]

/-- The code of a bundle in three parts: imports, the objects with exports and the items, exports. -/
theorem emit_sections {output : Output} (h : emit g l needs n = .ok output) :
    ∃ imports bodies exports, (outsideSpecifiers g n).mapM (importStatements l n) = .ok imports ∧
      List.Forall₂ (fun piece text => piece.text g l n = .ok text)
        (namespacePieces l needs ++ g.order.flatMap (modulePieces g needs)) bodies ∧
      exportStatements l n = .ok exports ∧
      output.code = String.join imports ++ (String.join bodies ++ exports) := by
  obtain ⟨imports, himports, h⟩ := bind_eq_ok.mp h
  obtain ⟨namespaces, hnamespaces, h⟩ := bind_eq_ok.mp h
  obtain ⟨body, hbody, h⟩ := bind_eq_ok.mp h
  obtain ⟨exports, hexports, h⟩ := bind_eq_ok.mp h
  obtain rfl := pure_eq_ok.mp h
  obtain ⟨items, hitems, hcode⟩ := emitModules_code hbody
  refine ⟨imports, namespaces ++ items, exports, himports, List.rel_append ?_ hitems, hexports, ?_⟩
  · exact List.forall₂_map_left_iff.mpr (mapM_eq_ok.mp hnamespaces)
  · change body.code ++ exports = _
    rw [hcode, Output.push_foldl_code]
    simp [Output.empty, String.append_assoc]

/-- **The code of a bundle** is that of its pieces, one after another. -/
theorem emit_code {output : Output} (h : emit g l needs n = .ok output) : ∃ texts,
    List.Forall₂ (fun piece text => Piece.text g l n piece = .ok text)
      (bundlePieces g l needs n) texts ∧
    output.code = String.join texts := by
  obtain ⟨imports, bodies, exports, himports, hbodies, hexports, hcode⟩ := emit_sections h
  refine ⟨imports ++ bodies ++ [exports], ?_, ?_⟩
  · unfold bundlePieces
    rw [List.append_assoc (List.map Piece.imports _)]
    refine List.rel_append (List.rel_append ?_ hbodies) (.cons hexports .nil)
    exact List.forall₂_map_left_iff.mpr (mapM_eq_ok.mp himports)
  · rw [hcode]
    simp

end ModuleBundler
