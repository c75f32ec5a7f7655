import ModuleBundler.Compile
import ModuleBundler.Proofs.WrittenSlots

/-!
# Bundles are closed

* `givesWith_emit` : a bundle is written without failure, and the only names in it are those of the
  slots that are `Written`;
* `compile_eq_ok` : the code and map of a bundle are those of the graph that was discovered;
* `bundle_closed` : every graph that is discovered and linked has a bundle, and what is written in
  that is declared in it.
-/

namespace ModuleBundler

variable {g : ModuleGraph} {l : Linkage} {needs : Needs} {n : Names}

section
variable (hnamed : ∀ slot, Written g l needs n slot → ∃ name, n.get? slot = some name)
include hnamed

/-! ## Imports and exports -/

/-- The name of what a piece writes. -/
theorem givesWith_pieceName {piece : Piece} (hpiece : piece ∈ bundlePieces g l needs n)
    {slot : Slot} (h : piece.Writes g l n slot) :
    GivesWith n (Written g l needs n) (fun other => other.nameOf slot) fun _ => True :=
  givesWith_nameOf ⟨piece, hpiece, h⟩ (hnamed slot ⟨piece, hpiece, h⟩)

theorem givesWith_importStatements {specifier : String}
    (hspecifier : specifier ∈ outsideSpecifiers g n) :
    GivesWith n (Written g l needs n) (fun other => importStatements l other specifier)
      fun _ => True := by
  have hpiece : .imports specifier ∈ bundlePieces g l needs n :=
    mem_bundlePieces.mpr (.inl ⟨specifier, hspecifier, rfl⟩)
  have himported : GivesWith n (Written g l needs n) (fun other => importedFrom other specifier)
      fun _ => True := by
    refine .congr (fun other hother => by rw [importedFrom, hother.externals]) ?_
    refine givesWith_each fun (slot, imported) hmem => ?_
    obtain ⟨found, hfound, heq⟩ := List.mem_filterMap.mp hmem
    have hslot : found = slot ∧ slot = .external specifier imported := by
      cases found with
      | declared | namespaceOf => cases heq
      | external s i =>
        change (if s = specifier then some (Slot.external s i, i) else none) = _ at heq
        split at heq
        · rename_i hs
          cases heq
          exact ⟨rfl, by rw [hs]⟩
        · cases heq
    have hwrites : Piece.Writes g l n (.imports specifier) slot :=
      ⟨hslot.1 ▸ hfound, imported, hslot.2⟩
    refine (givesWith_pieceName hnamed hpiece hwrites).bind fun name _ => ?_
    exact (gives_ok trivial).givesWith
  exact himported.bind fun _ _ => (gives_ok trivial).givesWith

theorem givesWith_namespaceTexts :
    GivesWith n (Written g l needs n) (fun other => namespaceTexts l needs other)
      fun _ => True := by
  refine givesWith_each fun entry hmem => ?_
  have hpiece : .namespaceObject entry.1 entry.2 ∈ bundlePieces g l needs n :=
    mem_bundlePieces_namespaceObject.mpr (List.mem_filter.mp hmem)
  refine (givesWith_pieceName hnamed hpiece (.inl rfl)).bind fun name _ => ?_
  refine (givesWith_each fun e he => ?_).bind fun getters _ => (gives_ok trivial).givesWith
  refine (givesWith_pieceName hnamed hpiece (.inr ⟨e, he, rfl⟩)).bind fun target _ => ?_
  exact (gives_ok trivial).givesWith

theorem givesWith_exportStatements :
    GivesWith n (Written g l needs n) (fun other => exportStatements l other) fun _ => True := by
  have hpiece : .entryExports ∈ bundlePieces g l needs n :=
    mem_bundlePieces.mpr (.inr (.inr (.inr rfl)))
  refine (givesWith_each fun e he => ?_).bind fun list _ => (gives_ok trivial).givesWith
  refine (givesWith_pieceName hnamed hpiece ⟨e, he, rfl⟩).bind fun name _ => ?_
  exact (gives_ok trivial).givesWith

/-! ## Modules -/

/-- The code of a module is written. -/
theorem givesWith_emitModule (hg : g.WellFormed) {index : Nat} (hindex : index < g.size)
    (o : Output) :
    GivesWith n (Written g l needs n) (fun other => emitModule g l needs other o index)
      fun _ => True := by
  have hm : g.modules[index]? = some g.modules[index] := Array.getElem?_eq_getElem hindex
  have hget : Gives (g.getModule index) fun m => g.modules[index]? = some m := by
    unfold ModuleGraph.getModule
    rw [hm]
    exact gives_ok rfl
  refine hget.givesWith.bind fun m hm => ?_
  have hwell := hg.modules m (Array.mem_of_getElem? hm)
  refine GivesWith.bind (givesWith_each fun item hmem => ?_) fun fragments _ => ?_
  · obtain ⟨hkept, hcode⟩ := List.mem_filter.mp hmem
    obtain ⟨i, hitem, hkeeps⟩ := Needs.mem_keptItems.mp hkept
    have hemitted : Emitted g needs index i m item := by
      refine ⟨⟨hm, hitem⟩, hkeeps, ?_⟩
      rwa [Bool.not_eq_true'] at hcode
    obtain ⟨tokens, hrecord⟩ := hwell.recordRead
    obtain ⟨last, hread⟩ := hrecord.items item (Array.mem_of_getElem? hitem)
    have hpiece := (mem_bundlePieces_item (l := l) (n := n) hg).mpr ⟨i, m, hemitted⟩
    refine (givesWith_itemEdits hnamed hwell.bound hread fun slot h => ?_).bind
      fun edits hedits => ?_
    · exact ⟨_, hpiece, m, hm, h⟩
    exact (gives_itemFragments hrecord hread hedits).givesWith
  · exact (gives_ok trivial).givesWith

/-- **A bundle is written.** The names of slots that are not written make no difference to it. -/
theorem givesWith_emit (hg : g.WellFormed) :
    GivesWith n (Written g l needs n) (fun other => emit g l needs other) fun _ => True := by
  have hspecifiers : ∀ other : Names, n.SameFor (Written g l needs n) other →
      outsideSpecifiers g other = outsideSpecifiers g n := fun other hother => by
    rw [outsideSpecifiers, outsideSpecifiers, hother.externals]
  refine .congr (fun other hother => by rw [emit, hspecifiers other hother]) ?_
  refine (givesWith_each fun specifier h => givesWith_importStatements hnamed h).bind
    fun imports _ => ?_
  refine (givesWith_namespaceTexts hnamed).bind fun namespaces _ => ?_
  refine (givesWith_foldlM (fun o index h => ?_) _).bind fun body _ => ?_
  · exact givesWith_emitModule hnamed hg ((mem_order hg).mp h) o
  · refine (givesWith_exportStatements hnamed).bind fun exports _ => ?_
    exact (gives_ok trivial).givesWith

end

/-! ## Closed bundles -/

/-- A compilation succeeds if discovery, linking and emission do. -/
theorem compile_eq_ok {provider : ModuleProvider} {options : CompileOptions}
    {cancelled : List ModuleId → Bool} {rounds : Nat} {loads : List ModuleId} {bundle : Bundle}
    (h : compile provider options cancelled rounds = some ⟨loads, .ok bundle⟩) :
    ∃ g l output, discover provider cancelled rounds = some ⟨loads, .ok g⟩ ∧ link g = .ok l ∧
      emit g l (shake g l options.dropUnused)
        (assignNames g l (shake g l options.dropUnused)) = .ok output ∧
      bundle = ⟨output.code, output.map.build none options.includeSources⟩ := by
  obtain ⟨⟨loads', result⟩, hdiscover, heq⟩ := Option.map_eq_some_iff.mp h
  obtain ⟨rfl, hresult⟩ := Logged.mk.inj heq
  obtain ⟨g, rfl, hcompile⟩ := bind_eq_ok.mp hresult
  dsimp only at hcompile
  split at hcompile
  · cases hcompile
  obtain ⟨l, hlink, hcompile⟩ := bind_eq_ok.mp hcompile
  obtain ⟨output, hemit, hbundle⟩ := bind_eq_ok.mp hcompile
  exact ⟨g, l, output, hdiscover, hlink, hemit, (pure_eq_ok.mp hbundle).symm⟩

/-- **Bundles are closed.** Every graph that is discovered and linked has a bundle, with or without
what is not used. Its code is that of its pieces. Which names there are makes a difference to it
only for slots that are written in some piece, and every one of those has a name and is declared by
the pieces. -/
theorem bundle_closed {provider : ModuleProvider} {cancelled : List ModuleId → Bool} {rounds : Nat}
    {loads : List ModuleId} {g : ModuleGraph} {l : Linkage}
    (hdiscover : discover provider cancelled rounds = some ⟨loads, .ok g⟩) (hlink : link g = .ok l)
    (dropUnused : Bool) :
    (∃ output texts, emit g l (shake g l dropUnused) (assignNames g l (shake g l dropUnused)) =
        .ok output ∧ output.code = String.join texts ∧
      List.Forall₂ (fun piece text =>
          piece.text g l (assignNames g l (shake g l dropUnused)) = .ok text)
        (bundlePieces g l (shake g l dropUnused) (assignNames g l (shake g l dropUnused))) texts ∧
      ∀ other : Names, (assignNames g l (shake g l dropUnused)).SameFor
        (Written g l (shake g l dropUnused) (assignNames g l (shake g l dropUnused))) other →
          emit g l (shake g l dropUnused) other = .ok output) ∧
    ∀ slot, Written g l (shake g l dropUnused) (assignNames g l (shake g l dropUnused)) slot →
      (∃ name, (assignNames g l (shake g l dropUnused)).get? slot = some name) ∧
      Declared g l (shake g l dropUnused) (assignNames g l (shake g l dropUnused)) slot := by
  have hg := discover_wellFormed hdiscover
  have hl := link_wellFormed hg hlink
  refine ⟨?_, fun slot h => ⟨h.named hg hl, h.declared hg hl⟩⟩
  obtain ⟨output, -, hemit⟩ := givesWith_emit (fun slot h => h.named hg hl) hg
  have hself := hemit _ ⟨fun _ _ => rfl, rfl⟩
  obtain ⟨texts, htexts, hcode⟩ := emit_code hself
  exact ⟨output, texts, hself, hcode, htexts, hemit⟩

/-- An entry that uses something from outside once another module is loaded. -/
def lateImport : ModuleProvider where
  resolve specifier _ :=
    .ok (if specifier = "outside" then .external else .module (.file specifier))
  load
    | .file "/index.js" => .text
      "import { y } from \"outside\";\nexport const late = () => import(\"./a.js\").then(() => y)\n"
    | .file "./a.js" => .text "export const x = 1;\n"
    | id => .failed (.missing id.text)

/-- The bundle of a late import has the object with the exports of `./a.js`, and has it once. -/
theorem lateImport_bundle_closed : ∃ loads g l,
    discover lateImport (fun _ => false) 5 = some ⟨loads, .ok g⟩ ∧ link g = .ok l ∧
      (∃ output, emit g l (shake g l true) (assignNames g l (shake g l true)) = .ok output) ∧
      Declared g l (shake g l true) (assignNames g l (shake g l true)) (.namespaceOf 1) := by
  have hlinked : ((discover lateImport (fun _ => false) 5).any fun logged =>
      logged.result.toOption.any fun g => (link g).toOption.any fun l =>
        l.namespaces.any fun entry =>
          entry.1 = 1 && (shake g l true).isLive (.namespaceOf entry.1)) = true := by
    decide +kernel
  obtain ⟨loads, g, l, hdiscover, hlink, hlive⟩ := exists_linked_of_any hlinked
  obtain ⟨⟨_, exports⟩, hentry, hlive⟩ := List.any_eq_true.mp hlive
  obtain ⟨rfl, hlive⟩ : _ = 1 ∧ _ := by simpa using hlive
  obtain ⟨⟨output, _, hemit, -⟩, hclosed⟩ := bundle_closed hdiscover hlink true
  refine ⟨loads, g, l, hdiscover, hlink, ⟨output, hemit⟩, (hclosed _ ?_).2⟩
  exact ⟨_, mem_bundlePieces_namespaceObject.mpr ⟨hentry, hlive⟩, .inl rfl⟩

end ModuleBundler
