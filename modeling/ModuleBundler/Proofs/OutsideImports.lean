import ModuleBundler.Proofs.ClosedBundle

/-!
# What a bundle imports from outside

* `ImportStatement` : an import statement, what it is from and what it gives names to;
* `importStatements_eq_ok` : the text of the imports from a specifier is that of statements;
* `live_mem_externalSlots` : what is live and from outside is among what gets imported;
* `ImportsOutside` : statements give a name to everything from outside that is live, once each, and
  come from everywhere that a module requests;
* `compile_importsOutside` : every bundle begins with statements of which this holds.
-/

namespace ModuleBundler

/-! ## Import statements -/

/-- What an import statement gives names to. -/
inductive ImportClause where
  /-- Exports, by their names, with the names that they get. -/
  | named (list : List (String × String))
  /-- All exports as one object, which gets the name. -/
  | whole (binding : String)
  /-- Nothing. -/
  | bare
  deriving DecidableEq

/-- An import from outside. -/
structure ImportStatement where
  specifier : String
  clause : ImportClause
  deriving DecidableEq

namespace ImportStatement

/-- The statement on a line of its own. -/
def text (s : ImportStatement) : String :=
  match s.clause with
  | .named list =>
    "import \x7b " ++ ", ".intercalate (list.map fun e => importText e.1 e.2) ++ " \x7d from " ++
      quoteJson s.specifier ++ ";\n"
  | .whole binding => "import * as " ++ binding ++ " from " ++ quoteJson s.specifier ++ ";\n"
  | .bare => "import " ++ quoteJson s.specifier ++ ";\n"

/-- What gets names by the statement, with these names. -/
def bindings (s : ImportStatement) : List (Slot × String) :=
  match s.clause with
  | .named list => list.map fun e => (.external s.specifier (.name e.1), e.2)
  | .whole binding => [(.external s.specifier .all, binding)]
  | .bare => []

end ImportStatement

/-- The export that is imported, if it is one by its name. -/
def namedImport? : Imported × String → Option (String × String)
  | (.name name, binding) => some (name, binding)
  | (.all, _) => none

/-- The name that all exports get as one object. -/
def wholeImport? : Imported × String → Option String
  | (.name _, _) => none
  | (.all, binding) => some binding

/-- The statements for what is imported from a specifier. -/
def statementsFrom (l : Linkage) (specifier : String) (imports : List (Imported × String)) :
    List ImportStatement :=
  let named := imports.filterMap namedImport?
  (if named.isEmpty then [] else [⟨specifier, .named named⟩]) ++
    (imports.filterMap wholeImport?).map (fun binding => ⟨specifier, .whole binding⟩) ++
    if imports.isEmpty && !l.entryStars.contains specifier then [⟨specifier, .bare⟩] else []

variable {g : ModuleGraph} {l : Linkage} {needs : Needs} {n : Names} {specifier : String}
  {imports : List (Imported × String)}

/-- The text of the imports from a specifier is that of statements. -/
theorem importStatements_eq_ok {text : String} (h : importStatements l n specifier = .ok text) :
    ∃ imports, importedFrom n specifier = .ok imports ∧
      text = String.join ((statementsFrom l specifier imports).map ImportStatement.text) := by
  obtain ⟨imports, himports, h⟩ := bind_eq_ok.mp h
  refine ⟨imports, himports, ?_⟩
  rw [← pure_eq_ok.mp h, statementsFrom, List.map_append, List.map_append, String.join_append,
    String.join_append]
  congr 2
  · have hnamed : ∀ write : Imported × String → Option String,
        (∀ e, write e = (namedImport? e).map fun e => importText e.1 e.2) →
        imports.filterMap write =
          (imports.filterMap namedImport?).map fun e => importText e.1 e.2 := fun write hwrite => by
      rw [List.map_filterMap]
      exact List.filterMap_congr fun e _ => hwrite e
    rw [hnamed _ (by rintro ⟨_ | _, _⟩ <;> rfl), List.isEmpty_map]
    split
    · rfl
    · simp [ImportStatement.text]
  · rw [List.map_map, List.map_filterMap]
    refine congrArg String.join (List.filterMap_congr fun (imported, binding) _ => ?_)
    cases imported <;> rfl
  · split
    · simp [ImportStatement.text]
    · rfl

theorem specifier_of_mem_statementsFrom {s : ImportStatement}
    (h : s ∈ statementsFrom l specifier imports) : s.specifier = specifier := by
  unfold statementsFrom at h
  rcases List.mem_append.mp h with h | h
  · rcases List.mem_append.mp h with h | h
    · split at h
      · cases h
      · rw [List.mem_singleton.mp h]
    · obtain ⟨_, _, rfl⟩ := List.mem_map.mp h
      rfl
  · split at h
    · rw [List.mem_singleton.mp h]
    · cases h

/-- The statements from a specifier give names to what is imported, and to each once. -/
theorem bindings_statementsFrom :
    ((statementsFrom l specifier imports).flatMap ImportStatement.bindings).Perm
      (imports.map fun e => (.external specifier e.1, e.2)) := by
  have hnamed : (if (imports.filterMap namedImport?).isEmpty then []
      else [(⟨specifier, .named (imports.filterMap namedImport?)⟩ : ImportStatement)]).flatMap
        ImportStatement.bindings =
      (imports.filterMap namedImport?).map fun e => (.external specifier (.name e.1), e.2) := by
    split
    · rename_i hempty
      rw [List.isEmpty_iff.mp hempty]
      rfl
    · simp [ImportStatement.bindings]
  have hbare : (if imports.isEmpty && !l.entryStars.contains specifier then
      [(⟨specifier, .bare⟩ : ImportStatement)] else []).flatMap ImportStatement.bindings = [] := by
    split <;> rfl
  unfold statementsFrom
  rw [List.flatMap_append, List.flatMap_append, hnamed, hbare, List.append_nil]
  clear hnamed hbare
  induction imports with
  | nil => rfl
  | cons e rest ih =>
    obtain ⟨imported, binding⟩ := e
    cases imported with
    | name name => exact ih.cons _
    | all => exact List.perm_middle.trans (ih.cons _)

/-- There is a statement from a specifier unless all exports are taken over from it. -/
theorem exists_statementFrom (l : Linkage) (specifier : String)
    (imports : List (Imported × String)) :
    (∃ s, s ∈ statementsFrom l specifier imports) ∨ specifier ∈ l.entryStars := by
  match imports with
  | [] =>
    by_cases hstar : specifier ∈ l.entryStars
    · exact .inr hstar
    · exact .inl ⟨⟨specifier, .bare⟩, by simp [statementsFrom, hstar]⟩
  | (.name name, binding) :: rest =>
    exact .inl ⟨⟨specifier, .named ((name, binding) :: rest.filterMap namedImport?)⟩,
      by simp [statementsFrom, namedImport?]⟩
  | (.all, binding) :: rest =>
    exact .inl ⟨⟨specifier, .whole binding⟩, by simp [statementsFrom, wholeImport?]⟩

/-- A statement without names stands alone. -/
theorem statementsFrom_of_bare {s : ImportStatement} (h : s ∈ statementsFrom l specifier imports)
    (hbare : s.clause = .bare) :
    statementsFrom l specifier imports = [s] ∧ specifier ∉ l.entryStars := by
  have hcond : (imports.isEmpty && !l.entryStars.contains specifier) = true ∧
      s = ⟨specifier, .bare⟩ := by
    unfold statementsFrom at h
    rcases List.mem_append.mp h with h | h
    · rcases List.mem_append.mp h with h | h
      · split at h
        · cases h
        · rw [List.mem_singleton.mp h] at hbare
          cases hbare
      · obtain ⟨_, _, rfl⟩ := List.mem_map.mp h
        cases hbare
    · split at h
      · rename_i hcond
        exact ⟨hcond, List.mem_singleton.mp h⟩
      · cases h
  obtain ⟨hcond, rfl⟩ := hcond
  obtain ⟨hempty, hstar⟩ := Bool.and_eq_true_iff.mp hcond
  rw [List.isEmpty_iff] at hempty
  subst hempty
  have hstar : specifier ∉ l.entryStars := by simpa using hstar
  exact ⟨by simp [statementsFrom, hstar], hstar⟩

/-! ## What is imported from a specifier -/

/-- A slot is from a specifier outside. -/
def Slot.isFrom (specifier : String) : Slot → Bool
  | .external s _ => s = specifier
  | .declared .. | .namespaceOf _ => false

theorem Slot.isFrom_iff {slot : Slot} :
    slot.isFrom specifier = true ↔ ∃ imported, slot = .external specifier imported := by
  cases slot with
  | declared | namespaceOf => simp [isFrom]
  | external s imported => simp [isFrom]

theorem Names.nameOf_eq_ok {slot : Slot} {name : String} :
    n.nameOf slot = .ok name ↔ n.get? slot = some name := by
  unfold nameOf
  cases n.get? slot with
  | none => simp
  | some found => simp

/-- What is imported from a specifier is all that is from there, in order and with its names. -/
theorem importedFrom_eq_ok (h : importedFrom n specifier = .ok imports) :
    List.Forall₂ (fun slot entry => entry.1 = slot ∧ n.get? slot = some entry.2)
      (n.externals.filter (Slot.isFrom specifier))
      (imports.map fun e => ((.external specifier e.1, e.2) : Slot × String)) := by
  unfold importedFrom at h
  rw [List.forall₂_map_right_iff]
  generalize n.externals = externals at h
  induction externals generalizing imports with
  | nil =>
    cases h
    exact .nil
  | cons slot rest ih =>
    cases slot with
    | declared => exact ih h
    | namespaceOf => exact ih h
    | external s imported =>
      by_cases hs : s = specifier
      · subst hs
        rw [List.filterMap_cons_some (by exact if_pos rfl), List.mapM_cons] at h
        obtain ⟨entry, hentry, h⟩ := bind_eq_ok.mp h
        obtain ⟨others, hothers, h⟩ := bind_eq_ok.mp h
        obtain ⟨name, hname, hentry⟩ := bind_eq_ok.mp hentry
        cases hentry
        rw [← pure_eq_ok.mp h, List.filter_cons_of_pos (by simp [Slot.isFrom])]
        exact .cons ⟨rfl, Names.nameOf_eq_ok.mp hname⟩ (ih hothers)
      · rw [List.filterMap_cons_none (by exact if_neg hs)] at h
        rw [List.filter_cons_of_neg (by simpa [Slot.isFrom] using hs)]
        exact ih h

/-! ## What is live -/

variable {dropUnused : Bool}

/-- Kept items and the slots that live lack nothing. -/
theorem lives_suffices (hg : g.WellFormed) (hl : l.WellFormed g) :
    Suffices g l dropUnused (fun module index => (shake g l dropUnused).keeps module index)
      (l.Lives g (shake g l dropUnused)) := by
  have hsuffices := shake_suffices g l dropUnused
  refine ⟨fun e he => ?_, hsuffices.root, fun module index m item hat hkept r hstart hstop slot h => ?_,
    fun module index m item hat hkept d dynamic dependency hd hdependency hin slot h => ?_,
    fun module index m item hat binding hbinding h =>
      hsuffices.declaration module index m item hat binding hbinding h.live,
    fun module exports hexports h e he => ?_⟩
  · have hlive := hsuffices.entryExport e he
    exact ⟨hlive, hl.entryExports e he,
      fun h => mem_externalSlots.mpr ⟨.inr (.inl ⟨e, he, rfl⟩), h, hlive⟩⟩
  · obtain ⟨hhas, hexternal⟩ := referenceSlot_has hg hl hat.1 h
    have hlive := hsuffices.reference module index m item hat hkept r hstart hstop slot h
    exact ⟨hlive, hhas, fun h => mem_externalSlots.mpr ⟨.inl (hexternal h), h, hlive⟩⟩
  · have hlive := hsuffices.dynamicImport module index m item hat hkept d dynamic dependency hd
      hdependency hin slot h
    have hmem := SourceModule.mem_dynamicSlots.mpr ⟨d, dependency, hd, hdependency, h⟩
    obtain ⟨target, rfl, hhas⟩ := dynamicSlot_has hl (Array.mem_of_getElem? hat.1) hmem
    exact ⟨hlive, hhas, fun h => nomatch h⟩
  · exact getter_lives hl (mem_of_lookup_eq_some hexports) h.live he

/-- **What is live and from outside** is among what gets imported. -/
theorem live_mem_externalSlots (hg : g.WellFormed) (hl : l.WellFormed g) {slot : Slot}
    (hexternal : slot.isExternal = true) (h : (shake g l dropUnused).isLive slot = true) :
    slot ∈ externalSlots g l (shake g l dropUnused) := by
  have hsuffices : Suffices g l dropUnused _ _ := lives_suffices hg hl
  have hclosed := closedUnder_eraseDups.mpr (suffices_iff_closedUnder.mp hsuffices)
  have hlives : l.Lives g (shake g l dropUnused) slot :=
    (shake_searches g l dropUnused).subset (.start _ _) hclosed _ (Needs.isLive_iff.mp h)
  exact hlives.external hexternal

/-! ## All import statements -/

section
variable {κ α β : Type} [DecidableEq κ]

/-- What stems from an entry of a list in which every key is there once. -/
theorem filter_flatMap_of_nodup {stem : κ × α → List β} {key : β → κ}
    (hkey : ∀ entry, ∀ b ∈ stem entry, key b = entry.1) {entries : List (κ × α)}
    (hnodup : (entries.map Prod.fst).Nodup) {entry : κ × α} (h : entry ∈ entries) :
    (entries.flatMap stem).filter (key · = entry.1) = stem entry := by
  induction entries with
  | nil => cases h
  | cons first rest ih =>
    obtain ⟨hfirst, hrest⟩ := List.nodup_cons.mp hnodup
    rw [List.flatMap_cons, List.filter_append]
    rcases List.mem_cons.mp h with rfl | h
    · have hnone : (rest.flatMap stem).filter (key · = entry.1) = [] := by
        refine List.filter_eq_nil_iff.mpr fun b hb heq => hfirst ?_
        obtain ⟨other, hother, hb⟩ := List.mem_flatMap.mp hb
        rw [← of_decide_eq_true heq, hkey other b hb]
        exact List.mem_map_of_mem hother
      rw [hnone, List.append_nil, List.filter_eq_self]
      exact fun b hb => decide_eq_true (hkey entry b hb)
    · rw [ih hrest h, List.filter_eq_nil_iff.mpr, List.nil_append]
      intro b hb heq
      rw [hkey first b hb] at heq
      exact hfirst (of_decide_eq_true heq ▸ List.mem_map_of_mem h)

/-- An entry of a list in which every key is there once is all that is there under its key. -/
theorem filter_key_of_nodup {entries : List (κ × α)} (hnodup : (entries.map Prod.fst).Nodup)
    {entry : κ × α} (h : entry ∈ entries) :
    entries.filter (fun other => other.1 = entry.1) = [entry] := by
  have hkey : ∀ entry : κ × α, ∀ other ∈ [entry], other.1 = entry.1 :=
    fun _ _ hmem => by rw [List.mem_singleton.mp hmem]
  have hstem := filter_flatMap_of_nodup hkey hnodup h
  rwa [List.flatMap_singleton'] at hstem

end

/-- Import statements give names to what is live and from outside, and come from all that modules
request. -/
structure ImportsOutside (g : ModuleGraph) (l : Linkage) (needs : Needs) (n : Names)
    (statements : List ImportStatement) : Prop where
  /-- One of them gives what is live its name, and none gives it another. -/
  bound : ∀ slot, slot.isExternal = true → needs.isLive slot = true → ∃ name,
    n.get? slot = some name ∧ (statements.flatMap ImportStatement.bindings).filter
      (fun entry => entry.1 = slot) = [(slot, name)]
  /-- What gets a name is live. -/
  live : ∀ entry ∈ statements.flatMap ImportStatement.bindings,
    entry.1.isExternal = true ∧ needs.isLive entry.1 = true
  /-- What a module requests is imported from, if its exports are not taken over. -/
  requested : ∀ m ∈ g.modules, ∀ (request : Nat) (specifier : String),
    m.request? request = some (specifier, .external) →
      (∃ s ∈ statements, s.specifier = specifier) ∨ specifier ∈ l.entryStars
  /-- A statement without names is the only one from its specifier. -/
  bare : ∀ s ∈ statements, s.clause = .bare → s.specifier ∉ l.entryStars ∧
    statements.filter (fun other => other.specifier = s.specifier) = [s]

theorem mem_outsideSpecifiers_of_request (hg : g.WellFormed) {m : SourceModule}
    (hm : m ∈ g.modules) {request : Nat} (h : m.request? request = some (specifier, .external)) :
    specifier ∈ outsideSpecifiers g n := by
  obtain ⟨index, hindex⟩ := Array.getElem?_of_mem hm
  obtain ⟨r, hr, h⟩ := Option.bind_eq_some_iff.mp h
  obtain ⟨dependency, hdependency, h⟩ := Option.bind_eq_some_iff.mp h
  cases h
  unfold outsideSpecifiers
  rw [List.mem_eraseDups, List.mem_append]
  refine .inl (List.mem_flatMap.mpr ⟨index, ?_, ?_⟩)
  · exact mem_entryFirst hg (Array.getElem?_eq_some_iff.mp hindex).1
  · rw [hindex]
    refine List.mem_filterMap.mpr ⟨(r, .external), ?_, if_pos rfl⟩
    refine List.mem_iff_getElem?.mpr ⟨request, List.getElem?_zip_eq_some.mpr ⟨?_, hdependency⟩⟩
    rwa [Array.getElem?_toList]

/-- What is imported from some specifiers, with its names. -/
def namesFrom (entries : List (String × List (Imported × String))) : List (Slot × String) :=
  entries.flatMap fun entry => entry.2.map fun e => (.external entry.1 e.1, e.2)

section
variable {entries : List (String × List (Imported × String))}
  (hfrom : ∀ entry ∈ entries, importedFrom n entry.1 = .ok entry.2)
include hfrom

theorem map_fst_namesFrom : (namesFrom entries).map Prod.fst =
    (entries.map Prod.fst).flatMap fun specifier => n.externals.filter (Slot.isFrom specifier) := by
  unfold namesFrom
  rw [List.map_flatMap, List.flatMap_map]
  refine List.flatMap_congr fun entry hentry => ?_
  have hall := importedFrom_eq_ok (hfrom entry hentry)
  rw [← List.forall₂_eq_eq_eq, List.forall₂_map_left_iff]
  exact hall.flip.imp fun _ _ h => h.1

theorem get?_of_mem_namesFrom {entry : Slot × String} (h : entry ∈ namesFrom entries) :
    n.get? entry.1 = some entry.2 := by
  obtain ⟨source, hsource, h⟩ := List.mem_flatMap.mp h
  obtain ⟨slot, -, rfl, hname⟩ := exists_of_forall₂ (importedFrom_eq_ok (hfrom source hsource)) h
  exact hname

theorem mem_map_fst_namesFrom {slot : Slot} : slot ∈ (namesFrom entries).map Prod.fst ↔
    slot ∈ n.externals ∧ ∃ specifier ∈ entries.map Prod.fst, slot.isFrom specifier = true := by
  rw [map_fst_namesFrom hfrom, List.mem_flatMap]
  simp only [List.mem_filter]
  constructor
  · rintro ⟨specifier, hspecifier, hslot, heq⟩
    exact ⟨hslot, specifier, hspecifier, heq⟩
  · rintro ⟨hslot, specifier, hspecifier, heq⟩
    exact ⟨specifier, hspecifier, hslot, heq⟩

/-- Nothing gets a name twice. -/
theorem nodup_namesFrom (hnodup : (entries.map Prod.fst).Nodup) (hexternals : n.externals.Nodup) :
    ((namesFrom entries).map Prod.fst).Nodup := by
  rw [map_fst_namesFrom hfrom]
  refine List.nodup_flatMap.mpr ⟨fun specifier _ => hexternals.filter _, ?_⟩
  refine hnodup.imp fun {specifier other} hne => ?_
  refine List.disjoint_left.mpr fun slot hslot hother => ?_
  obtain ⟨imported, rfl⟩ := Slot.isFrom_iff.mp (List.mem_filter.mp hslot).2
  obtain ⟨_, heq⟩ := Slot.isFrom_iff.mp (List.mem_filter.mp hother).2
  exact hne (Slot.external.inj heq).1

end

/-- The texts of imports are those of the statements from some specifiers. -/
theorem exists_statementsFrom {specifiers texts : List String}
    (h : specifiers.mapM (importStatements l n) = .ok texts) :
    ∃ entries : List (String × List (Imported × String)), entries.map Prod.fst = specifiers ∧
      (∀ entry ∈ entries, importedFrom n entry.1 = .ok entry.2) ∧
      String.join texts = String.join ((entries.flatMap fun entry =>
        statementsFrom l entry.1 entry.2).map ImportStatement.text) := by
  have hall := mapM_eq_ok.mp h
  induction hall with
  | nil => exact ⟨[], rfl, fun _ h => (nomatch h), rfl⟩
  | @cons specifier text specifiers texts hfirst hrest ih =>
    obtain ⟨imports, himports, rfl⟩ := importStatements_eq_ok hfirst
    obtain ⟨entries, rfl, hfrom, htexts⟩ := ih (mapM_eq_ok.mpr hrest)
    refine ⟨(specifier, imports) :: entries, rfl, List.forall_mem_cons.mpr ⟨himports, hfrom⟩, ?_⟩
    rw [String.join_cons, htexts, List.flatMap_cons, List.map_append, String.join_append]

/-- **The import statements of a bundle** lack nothing and repeat nothing. -/
theorem importsOutside_of_mapM (hg : g.WellFormed) (hl : l.WellFormed g) {texts : List String}
    (h : (outsideSpecifiers g (assignNames g l (shake g l dropUnused))).mapM
      (importStatements l (assignNames g l (shake g l dropUnused))) = .ok texts) :
    ∃ statements, String.join texts = String.join (statements.map ImportStatement.text) ∧
      ImportsOutside g l (shake g l dropUnused) (assignNames g l (shake g l dropUnused))
        statements := by
  generalize hn : assignNames g l (shake g l dropUnused) = n at h ⊢
  have hexternals : n.externals = externalSlots g l (shake g l dropUnused) := by rw [← hn]; rfl
  obtain ⟨entries, hentries, hfrom, htexts⟩ := exists_statementsFrom h
  have hnodup : (entries.map Prod.fst).Nodup := hentries ▸ nodup_eraseDups _
  have hnames : ((entries.flatMap fun entry => statementsFrom l entry.1 entry.2).flatMap
      ImportStatement.bindings).Perm (namesFrom entries) := by
    rw [List.flatMap_assoc]
    exact List.Perm.flatMap_left _ fun entry _ => bindings_statementsFrom
  refine ⟨_, htexts, fun slot hexternal hlive => ?_, fun entry hentry => ?_,
    fun m hm request specifier hrequest => ?_, fun s hs hbare => ?_⟩
  · have hslot : slot ∈ n.externals := hexternals ▸ live_mem_externalSlots hg hl hexternal hlive
    have hfound : slot ∈ (namesFrom entries).map Prod.fst := by
      refine (mem_map_fst_namesFrom hfrom).mpr ⟨hslot, ?_⟩
      cases slot with
      | declared | namespaceOf => cases hexternal
      | external specifier imported =>
        refine ⟨specifier, ?_, decide_eq_true rfl⟩
        rw [hentries]
        exact mem_outsideSpecifiers hslot
    obtain ⟨⟨_, name⟩, hmem, rfl⟩ := List.mem_map.mp hfound
    have honce := nodup_namesFrom hfrom hnodup (hexternals ▸ nodup_eraseDups _)
    refine ⟨name, get?_of_mem_namesFrom hfrom hmem, ?_⟩
    rw [← List.perm_singleton, ← filter_key_of_nodup honce hmem]
    exact hnames.filter _
  · have hmem := List.mem_map_of_mem (f := Prod.fst) (hnames.mem_iff.mp hentry)
    have hslot := ((mem_map_fst_namesFrom hfrom).mp hmem).1
    rw [hexternals] at hslot
    exact (mem_externalSlots.mp hslot).2
  · have hmem : specifier ∈ entries.map Prod.fst := by
      rw [hentries]
      exact mem_outsideSpecifiers_of_request hg hm hrequest
    obtain ⟨entry, hentry, rfl⟩ := List.mem_map.mp hmem
    refine (exists_statementFrom l entry.1 entry.2).imp_left fun ⟨s, hs⟩ => ⟨s, ?_, ?_⟩
    · exact List.mem_flatMap.mpr ⟨entry, hentry, hs⟩
    · exact specifier_of_mem_statementsFrom hs
  · obtain ⟨entry, hentry, hs⟩ := List.mem_flatMap.mp hs
    have hkey : ∀ entry : String × List (Imported × String),
        ∀ s ∈ statementsFrom l entry.1 entry.2, s.specifier = entry.1 :=
      fun _ _ h => specifier_of_mem_statementsFrom h
    obtain ⟨hall, hstar⟩ := statementsFrom_of_bare hs hbare
    rw [hkey entry s hs, filter_flatMap_of_nodup hkey hnodup hentry]
    exact ⟨hstar, hall⟩

/-! ## Bundles -/

/-- The exports of all that a specifier leads to, on a line of its own. -/
def starStatement (specifier : String) : String :=
  "export * from " ++ quoteJson specifier ++ ";\n"

/-- What a bundle exports of its own comes before what it takes over. -/
theorem exportStatements_eq_ok {text : String} (h : exportStatements l n = .ok text) :
    ∃ named, text = named ++ String.join (l.entryStars.map starStatement) := by
  obtain ⟨list, -, h⟩ := bind_eq_ok.mp h
  exact ⟨_, (pure_eq_ok.mp h).symm⟩

/-- **Imports from outside are complete and not repeated.** Every bundle begins with the statements of
`ImportsOutside`. They come before the objects with exports and the items of the modules. After those
the bundle has its own exports, and in the end it takes over the exports of modules outside. -/
theorem compile_importsOutside {provider : ModuleProvider} {options : CompileOptions}
    {cancelled : List ModuleId → Bool} {rounds : Nat} {loads : List ModuleId} {bundle : Bundle}
    (h : compile provider options cancelled rounds = some ⟨loads, .ok bundle⟩) :
    ∃ g l needs n statements bodies named, discover provider cancelled rounds = some ⟨loads, .ok g⟩ ∧
      link g = .ok l ∧ needs = shake g l options.dropUnused ∧ n = assignNames g l needs ∧
      ImportsOutside g l needs n statements ∧
      List.Forall₂ (fun piece text => piece.text g l n = .ok text)
        (namespacePieces l needs ++ g.order.flatMap (modulePieces g needs)) bodies ∧
      exportStatements l n = .ok (named ++ String.join (l.entryStars.map starStatement)) ∧
      bundle.code = String.join (statements.map ImportStatement.text) ++ (String.join bodies ++
        (named ++ String.join (l.entryStars.map starStatement))) := by
  obtain ⟨g, l, output, hdiscover, hlink, hemit, rfl⟩ := compile_eq_ok h
  have hg := discover_wellFormed hdiscover
  obtain ⟨imports, bodies, exports, himports, hbodies, hexports, hcode⟩ := emit_sections hemit
  obtain ⟨statements, htexts, hstatements⟩ :=
    importsOutside_of_mapM hg (link_wellFormed hg hlink) himports
  obtain ⟨named, rfl⟩ := exportStatements_eq_ok hexports
  exact ⟨g, l, _, _, statements, bodies, named, hdiscover, hlink, rfl, rfl, hstatements, hbodies,
    hexports, hcode.trans (by rw [htexts])⟩

/-- An entry that imports a name, and takes over what another module exports. That one takes over from
outside. -/
def importsAround : ModuleProvider where
  resolve specifier _ :=
    .ok (if specifier = "./a.js" then .module (.file specifier) else .external)
  load
    | .file "/index.js" => .text
      "import { x } from \"first\";\nimport \"second\";\nexport * from \"./a.js\";\nf(x);\n"
    | .file "./a.js" => .text "export * from \"second\";\nexport { y } from \"first\";\n"
    | id => .failed (.missing id.text)

/-- Two names are imported from `first`. What is exported from `second` is not imported besides. -/
theorem importsAround_complete : ∃ loads bundle g l needs n statements rest,
    compile importsAround .default (fun _ => false) 5 = some ⟨loads, .ok bundle⟩ ∧
      bundle.code = String.join (statements.map ImportStatement.text) ++ rest ∧
      ImportsOutside g l needs n statements ∧ l.entryStars = ["second"] ∧
      (statements.flatMap ImportStatement.bindings).filter
        (fun entry => entry.1 = .external "first" (.name "y")) =
          [(.external "first" (.name "y"), "y")] := by
  have hcompiled : ((compile importsAround .default (fun _ => false) 5).any fun logged =>
      logged.result.toOption.isSome) = true := by
    decide +kernel
  obtain ⟨⟨loads, result⟩, hcompile, hok⟩ := (Option.any_eq_true _ _).mp hcompiled
  cases result with
  | error => cases hok
  | ok bundle =>
    obtain ⟨g, l, needs, n, statements, bodies, named, hdiscover, hlink, rfl, rfl, hstatements, -,
      -, hcode⟩ := compile_importsOutside hcompile
    have hread : ((discover importsAround (fun _ => false) 5).all fun logged =>
        logged.result.toOption.all fun g => (link g).toOption.all fun l =>
          l.entryStars = ["second"] ∧
          (shake g l true).isLive (.external "first" (.name "y")) = true ∧
          (assignNames g l (shake g l true)).get? (.external "first" (.name "y")) = some "y") =
        true := by
      decide +kernel
    rw [hdiscover] at hread
    change ((link g).toOption.all _) = true at hread
    rw [hlink] at hread
    obtain ⟨hstars, hlive, hname⟩ := of_decide_eq_true hread
    obtain ⟨name, hname', hbound⟩ := hstatements.bound _ rfl hlive
    obtain rfl := Option.some.inj (hname.symm.trans hname')
    exact ⟨loads, bundle, g, l, _, _, statements, _, hcompile, hcode, hstatements, hstars, hbound⟩

end ModuleBundler
