import ModuleBundler.Proofs.ClosedBundle
import ModuleBundler.Proofs.PartMarks

/-!
# What the source map of a bundle says

* `TokenTable.Reads` : a table has the tokens of all modules of a graph;
* `bundleParts_sound` : the parts of the pieces of a bundle are sound;
* `FaithfulMap` : each copied token and each text in the place of another one has an entry of its
  own, and there are no others;
* `sourceMap_faithful_iff` : the map of a bundle is faithful exactly if no such place is in the
  middle of a line end of the code.
-/

namespace ModuleBundler

/-- The table has the tokens of all modules of the graph, as their records tell. -/
def TokenTable.Reads (tokens : TokenTable) (g : ModuleGraph) : Prop :=
  ∀ m ∈ g.modules, RecordRead (.ofString m.source) (tokens m) m.record

variable {g : ModuleGraph} {l : Linkage} {needs : Needs} {n : Names} {tokens : TokenTable}

theorem ModuleGraph.WellFormed.reads (hg : g.WellFormed) : ∃ tokens : TokenTable, tokens.Reads g := by
  have hread : ∀ m : SourceModule, ∃ tokens, m ∈ g.modules →
      RecordRead (.ofString m.source) tokens m.record := fun m => by
    by_cases hm : m ∈ g.modules
    · obtain ⟨tokens, htokens⟩ := (hg.modules m hm).recordRead
      exact ⟨tokens, fun _ => htokens⟩
    · exact ⟨[], fun h => absurd h hm⟩
  choose tokens htokens using hread
  exact ⟨tokens, htokens⟩

theorem TokenTable.Reads.sortedTokens (h : tokens.Reads g) : g.SortedTokens :=
  fun _ m hm => (h m (Array.mem_of_getElem? hm)).sortedTokens

/-- The parts of an item in a bundle, by its edits. -/
theorem Piece.item_parts {module : Nat} {item : ModuleItem} {parts : List Part}
    (h : Piece.parts g l n (.item module item) = .ok parts) :
    ∃ m edits, g.modules[module]? = some m ∧ itemEdits l n m module item = .ok edits ∧
      parts = itemParts m item edits := by
  obtain ⟨m, hm, h⟩ := bind_eq_ok.mp h
  obtain ⟨edits, hedits, h⟩ := bind_eq_ok.mp h
  exact ⟨m, edits, getModule_eq_ok hm, hedits, (pure_eq_ok.mp h).symm⟩

/-- The parts of the pieces of a bundle are sound. -/
theorem bundleParts_sound (hg : g.WellFormed) (htokens : tokens.Reads g)
    {partss : List (List Part)}
    (h : List.Forall₂ (fun piece parts => Piece.parts g l n piece = .ok parts)
      (bundlePieces g l needs n) partss) : ∀ part ∈ partss.flatten, part.Sound tokens := by
  intro part hpart
  obtain ⟨parts, hparts, hpart⟩ := List.mem_flatten.mp hpart
  obtain ⟨piece, hpiece, heq⟩ := exists_of_forall₂ h hparts
  cases piece with
  | item module item =>
    obtain ⟨m, edits, hm, hedits, rfl⟩ := Piece.item_parts heq
    obtain ⟨index, m', ⟨hm', hitem⟩, -⟩ := (mem_bundlePieces_item hg).mp hpiece
    obtain rfl : m = m' := Option.some.inj (hm.symm.trans hm')
    exact itemParts_sound (htokens m (Array.mem_of_getElem? hm)) (Array.mem_of_getElem? hitem)
      hedits part hpart
  | imports | namespaceObject | entryExports =>
    obtain ⟨text, -, h⟩ := bind_eq_ok.mp heq
    obtain rfl := pure_eq_ok.mp h
    obtain rfl := List.mem_singleton.mp hpart
    trivial

/-- The parts of the pieces of a bundle are of its modules. -/
theorem bundleParts_module {partss : List (List Part)}
    (h : List.Forall₂ (fun piece parts => Piece.parts g l n piece = .ok parts)
      (bundlePieces g l needs n) partss) {part : Part} (hpart : part ∈ partss.flatten)
    {m : SourceModule} (hm : part.module? = some m) : m ∈ g.modules := by
  obtain ⟨parts, hparts, hpart⟩ := List.mem_flatten.mp hpart
  obtain ⟨piece, -, heq⟩ := exists_of_forall₂ h hparts
  cases piece with
  | item module item =>
    obtain ⟨m', edits, hm', -, rfl⟩ := Piece.item_parts heq
    rcases List.mem_append.mp hpart with hpart | hpart
    · obtain rfl : m' = m := Option.some.inj ((editParts_module part hpart).symm.trans hm)
      exact Array.mem_of_getElem? hm'
    · simp only [List.mem_cons, List.not_mem_nil, or_false] at hpart
      rcases hpart with rfl | rfl
      · cases hm
      · cases hm
  | imports | namespaceObject | entryExports =>
    obtain ⟨text, -, h⟩ := bind_eq_ok.mp heq
    obtain rfl := pure_eq_ok.mp h
    obtain rfl := List.mem_singleton.mp hpart
    cases hm

/-- Each token of an item in a bundle begins in one of its edits or is copied. -/
theorem bundleParts_token (hg : g.WellFormed) (htokens : tokens.Reads g)
    {partss : List (List Part)}
    (h : List.Forall₂ (fun piece parts => Piece.parts g l n piece = .ok parts)
      (bundlePieces g l needs n) partss) {module index : Nat} {m : SourceModule} {item : ModuleItem}
    (hitem : Emitted g needs module index m item) {edits : List Edit}
    (hedits : itemEdits l n m module item = .ok edits) {b : BufferedToken} (hb : b ∈ tokens m)
    (hstart : item.span.start ≤ b.token.span.start) (hstop : b.token.span.start < item.span.stop) :
    (∃ edit ∈ edits, edit.span.start ≤ b.token.span.start ∧
        b.token.span.start < edit.span.stop) ∨
      ∃ before, Copies partss.flatten before m b.token.span := by
  have hsound := bundleParts_sound hg htokens h
  obtain ⟨parts, hparts, heq⟩ := exists_of_forall₂ h.flip
    ((mem_bundlePieces_item hg).mpr ⟨index, m, hitem⟩)
  obtain ⟨m', edits', hm, hedits', rfl⟩ := Piece.item_parts heq
  obtain rfl : m = m' := Option.some.inj (hitem.itemAt.1.symm.trans hm)
  obtain rfl : edits = edits' := Except.ok.inj (hedits.symm.trans hedits')
  rcases editParts_token m (edits.mergeSort Edit.before) hstart hstop with
    ⟨edit, hedit, hin⟩ | ⟨ahead, span, back, hsplit, hle, hlt⟩
  · exact .inl ⟨edit, List.mem_mergeSort.mp hedit, hin⟩
  · obtain ⟨before, after, rfl⟩ := List.append_of_mem hparts
    have hflat : (before ++ itemParts m item edits :: after).flatten =
        (before.flatten ++ ahead) ++ .copied m span :: (back ++
          [.written (if item.missingSemicolon then ";" else ""), .written "\n"] ++
            after.flatten) := by
      unfold itemParts
      rw [hsplit]
      simp
    have houtside := (hsound (.copied m span) (by rw [hflat]; simp)).2.2.1 b hb
    exact .inr ⟨_, _, span, _, hflat, hle, hlt, by omega, rfl⟩

/-! ## Faithful maps -/

/-- Each copied token and each text in the place of another one has an entry of its own at its place
in the code, which tells where it comes from, and there are no other entries. -/
structure FaithfulMap (tokens : TokenTable) (parts : List Part) (code : String) (map : SourceMap)
    (entries : List Mapping) : Prop where
  mapped : ∀ mark, Stands tokens parts mark → mark.MappedIn code entries map.sources map.names
  entries : ∀ e ∈ entries, ∃ mark, Stands tokens parts mark ∧ e.generated = mark.placeIn code ∧
    e.StemsFrom map.sources map.names mark

theorem MapHolds.faithfulMap_iff {code : String} {parts : List Part} {b : MapBuilder}
    (h : MapHolds code (marksFrom "" parts) b) (hsound : ∀ part ∈ parts, part.Sound tokens)
    (file : Option String) (includeContent : Bool) :
    (∀ mark, Stands tokens parts mark → ¬ mark.Splits code) ↔
      FaithfulMap tokens parts code (b.build file includeContent) b.mappings.toList := by
  have hiff := h.mapped_iff (marks_distinct hsound)
  simp only [mem_marksFrom_iff hsound] at hiff
  exact hiff.trans ⟨fun ⟨hmapped, hentries⟩ => ⟨hmapped, hentries⟩,
    fun ⟨hmapped, hentries⟩ => ⟨hmapped, hentries⟩⟩

/-- **Source maps are faithful exactly if no line end is split.** The code of every bundle is that of
the parts of its pieces. A token of an item in it begins in an edit of the item or is copied as a
whole. The entries of its map are read back, in order, each with an origin in one of the sources.
Each token that is copied, and each text that takes the place of a piece, has an entry of its own at
its line and column in the code, which tells its module, its line and column there and the name that
it replaces, and there are no other entries: if no such token or text begins between a carriage
return and a line feed of the code, and otherwise not. -/
theorem sourceMap_faithful_iff {provider : ModuleProvider} {options : CompileOptions}
    {cancelled : List ModuleId → Bool} {rounds : Nat} {loads : List ModuleId} {bundle : Bundle}
    (h : compile provider options cancelled rounds = some ⟨loads, .ok bundle⟩) :
    ∃ g l needs n partss, discover provider cancelled rounds = some ⟨loads, .ok g⟩ ∧
      link g = .ok l ∧ needs = shake g l options.dropUnused ∧ n = assignNames g l needs ∧
      List.Forall₂ (fun piece parts => Piece.parts g l n piece = .ok parts)
        (bundlePieces g l needs n) partss ∧
      bundle.code = partsText partss.flatten ∧ (∃ tokens : TokenTable, tokens.Reads g) ∧
      ∀ tokens : TokenTable, tokens.Reads g →
        (∀ module index m item edits, Emitted g needs module index m item →
          itemEdits l n m module item = .ok edits → ∀ b ∈ tokens m,
            item.span.start ≤ b.token.span.start → b.token.span.start < item.span.stop →
              (∃ edit ∈ edits, edit.span.start ≤ b.token.span.start ∧
                b.token.span.start < edit.span.stop) ∨
              ∃ before, Copies partss.flatten before m b.token.span) ∧
        (∀ before m, ∀ b ∈ tokens m, Copies partss.flatten before m b.token.span →
          ∃ rest, before ++ m.slice b.token.span ++ rest = bundle.code) ∧
        (∀ before m edit old, Replaces partss.flatten before m edit → edit.name = some old →
          Spelled (tokens m) old edit.span) ∧
        (bundle.code.utf8ByteSize < 2 ^ 32 → (∀ m ∈ g.modules, m.source.utf8ByteSize < 2 ^ 32) →
          bundle.map.sources.length < 2 ^ 32 → ∃ entries, bundle.map.decoded = some entries ∧
            entries.Pairwise (fun a b => a.generated.Before b.generated) ∧
            (∀ e ∈ entries, ∃ p, e.origin = some p ∧ p.source < bundle.map.sources.length) ∧
            ((∀ mark, Stands tokens partss.flatten mark → ¬ mark.Splits bundle.code) ↔
              FaithfulMap tokens partss.flatten bundle.code bundle.map entries)) := by
  obtain ⟨g, l, output, hdiscover, hlink, hemit, rfl⟩ := compile_eq_ok h
  have hg := discover_wellFormed hdiscover
  obtain ⟨table, htable⟩ := hg.reads
  obtain ⟨partss, hpartss, houtput⟩ := emit_parts htable.sortedTokens hemit
  refine ⟨g, l, _, _, partss, hdiscover, hlink, rfl, rfl, hpartss, houtput.code, ⟨table, htable⟩,
    fun tokens htokens => ?_⟩
  have hsound := bundleParts_sound hg htokens hpartss
  refine ⟨fun module index m item edits hitem hedits b hb hstart hstop => ?_,
    fun before m b hb hcopies => ?_, fun before m edit old hreplaces hname => ?_,
    fun hcode htexts hsources => ⟨output.map.mappings.toList, ?_, houtput.map.sorted, ?_, ?_⟩⟩
  · exact bundleParts_token hg htokens hpartss hitem hedits hb hstart hstop
  · obtain ⟨rest, hrest⟩ := hcopies.text hsound hb
    exact ⟨rest, hrest.trans houtput.code.symm⟩
  · obtain ⟨ahead, back, heq, -⟩ := hreplaces
    have hpart := hsound (.replaced m edit) (by simp [heq])
    exact hpart.2 old hname
  · refine houtput.map.decoded hcode (fun mark hmark => ?_) ?_ none _
    · obtain ⟨ahead, part, back, heq, hmark⟩ := mem_marksFrom.mp hmark
      have hpart : part ∈ partss.flatten := by
        rw [heq]
        simp
      exact htexts mark.module (bundleParts_module hpartss hpart (Part.module?_of_mem_marks hmark))
    · change (output.map.sources.toList.map Prod.fst).length < _ at hsources
      rwa [List.length_map, Array.length_toList] at hsources
  · intro e he
    obtain ⟨mark, -, -, p, horigin, hsource, -⟩ := houtput.map.stems e he
    exact ⟨p, horigin, (List.getElem?_eq_some_iff.mp hsource).1⟩
  · exact houtput.map.faithfulMap_iff hsound none _

/-- Two modules that each have an `x`. -/
def sameNames : ModuleProvider where
  resolve specifier _ := .ok (.module (.file specifier))
  load
    | .file "/index.js" => .text "import { x as y } from \"./x.js\";\nconst x = 1;\nf(x, y);\n"
    | .file "./x.js" => .text "const x = 2;\nexport { x };\n"
    | id => .failed (.missing id.text)

/-- The map of two modules with a name that one of them has to change is faithful. -/
theorem sameNames_map_faithful : ∃ loads bundle tokens parts entries,
    compile sameNames .default (fun _ => false) 5 = some ⟨loads, .ok bundle⟩ ∧
      bundle.code = "const x$1 = 2;\nconst x = 1;\nf(x, x$1);\n" ∧
      bundle.map.names = ["x", "y"] ∧ bundle.map.decoded = some entries ∧
      FaithfulMap tokens parts bundle.code bundle.map entries := by
  have hcompiled : ((compile sameNames .default (fun _ => false) 5).any fun logged =>
      logged.result.toOption.any fun bundle =>
        bundle.code = "const x$1 = 2;\nconst x = 1;\nf(x, x$1);\n" ∧
          bundle.map.names = ["x", "y"] ∧ bundle.map.sources = ["./x.js", "/index.js"]) = true := by
    decide +kernel
  have hsizes : ((discover sameNames (fun _ => false) 5).all fun logged =>
      logged.result.toOption.all fun g =>
        g.modules.toList.all fun m => decide (m.source.utf8ByteSize < 2 ^ 32)) = true := by
    decide +kernel
  obtain ⟨⟨loads, result⟩, hcompile, hbundle⟩ := (Option.any_eq_true _ _).mp hcompiled
  cases result with
  | error => cases hbundle
  | ok bundle =>
    obtain ⟨hcode, hnames, hsources⟩ := of_decide_eq_true hbundle
    obtain ⟨g, l, needs, n, partss, hdiscover, -, -, -, -, -, ⟨tokens, htokens⟩, hall⟩ :=
      sourceMap_faithful_iff hcompile
    rw [hdiscover] at hsizes
    have htexts : ∀ m ∈ g.modules, m.source.utf8ByteSize < 2 ^ 32 := fun m hm =>
      of_decide_eq_true (List.all_eq_true.mp hsizes m (Array.mem_toList_iff.mpr hm))
    obtain ⟨-, -, -, hfaithful⟩ := hall tokens htokens
    obtain ⟨entries, hentries, -, -, hiff⟩ :=
      hfaithful (by rw [hcode]; decide) htexts (by rw [hsources]; decide)
    refine ⟨loads, bundle, tokens, _, entries, hcompile, hcode, hnames, hentries, hiff.mp ?_⟩
    intro mark _
    refine mark.not_splits ?_
    rw [hcode]
    decide

/-- A variable whose name is a line feed, written as an escape right after a carriage return. -/
def returnBeforeName : ModuleProvider where
  resolve _ _ := .ok .external
  load
    | .file "/index.js" => .text "let \\u{a} = 1;\nf(\r\\u{a}, 2);\n"
    | id => .failed (.missing id.text)

/-- The comma after that name begins at byte 23 of the module. Its copy begins the fourth line of the
code, where the only entry tells of the name. -/
theorem returnBeforeName_comma_unmapped : ∃ loads g m bundle entries,
    discover returnBeforeName (fun _ => false) 5 = some ⟨loads, .ok g⟩ ∧
      compile returnBeforeName .default (fun _ => false) 5 = some ⟨loads, .ok bundle⟩ ∧
      g.modules[0]? = some m ∧ 23 ∈ m.record.tokenStarts ∧ m.slice ⟨23, 24⟩ = "," ∧
      (LineIndex.ofString m.source).place 23 = ⟨2, 5⟩ ∧
      bundle.code = "let \n = 1;\nf(\r\n" ++ ", 2);\n" ∧
      (LineIndex.ofString bundle.code).place "let \n = 1;\nf(\r\n".utf8ByteSize = ⟨3, 0⟩ ∧
      bundle.map.decoded = some entries ∧ (∃ e ∈ entries, e.generated = ⟨3, 0⟩) ∧
      ∀ e ∈ entries, e.generated = ⟨3, 0⟩ → e.origin = some ⟨0, ⟨2, 0⟩, some 0⟩ := by
  have hread : ((discover returnBeforeName (fun _ => false) 5).all fun logged =>
      logged.result.toOption.all fun g => g.modules[0]?.any fun m =>
        23 ∈ m.record.tokenStarts ∧ m.slice ⟨23, 24⟩ = "," ∧
          (LineIndex.ofString m.source).place 23 = ⟨2, 5⟩) = true := by
    decide +kernel
  have hcompiled : ((compile returnBeforeName .default (fun _ => false) 5).any fun logged =>
      logged.result.toOption.any fun bundle =>
        bundle.code = "let \n = 1;\nf(\r\n" ++ ", 2);\n" ∧ bundle.map.decoded.any fun entries =>
          (∃ e ∈ entries, e.generated = ⟨3, 0⟩) ∧
          ∀ e ∈ entries, e.generated = ⟨3, 0⟩ → e.origin = some ⟨0, ⟨2, 0⟩, some 0⟩) = true := by
    decide +kernel
  obtain ⟨⟨loads, result⟩, hcompile, hbundle⟩ := (Option.any_eq_true _ _).mp hcompiled
  cases result with
  | error => cases hbundle
  | ok bundle =>
    obtain ⟨g, l, output, hdiscover, -, -, -⟩ := compile_eq_ok hcompile
    rw [hdiscover] at hread
    obtain ⟨m, hm, hsource⟩ := (Option.any_eq_true _ g.modules[0]?).mp hread
    obtain ⟨hstart, htext, hplace⟩ := of_decide_eq_true hsource
    obtain ⟨hcode, hmap⟩ := of_decide_eq_true hbundle
    obtain ⟨entries, hentries, honly⟩ := (Option.any_eq_true _ _).mp hmap
    obtain ⟨hsome, hall⟩ := of_decide_eq_true honly
    refine ⟨_, g, m, bundle, entries, hdiscover, hcompile, hm, hstart, htext, hplace, hcode, ?_,
      hentries, hsome, hall⟩
    rw [hcode]
    decide

end ModuleBundler
