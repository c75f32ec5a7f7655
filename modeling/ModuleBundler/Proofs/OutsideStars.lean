import Mathlib.Logic.Relation
import ModuleBundler.Proofs.Discovered
import ModuleBundler.Proofs.ExportSource

/-!
# Exports of the graph and exports from outside

* `BundledExport` : an export that a module of the graph has by name, within reach of stars;
* `StemsOutside` : the answer about an export is that a module outside is said to have it;
* `StarSearch`, `EndsOutside` : the modules that a search through stars comes to, and where it ends
  with a module outside;
* `bundledExports_win_iff` : exports of the graph win over those from outside, after all searches, if
  and only if no search for one of them ends outside at a module other than the one that was asked.

The module that was asked waits for all that it takes over from modules of the graph. One that it
takes over from does not wait for those that come after it.
-/

namespace ModuleBundler

open Relation (ReflTransGen)

/-! ## Reach of stars -/

/-- A module takes over the exports of another one of the graph. -/
def StarStep (g : ModuleGraph) (index target : Nat) : Prop :=
  ∃ m specifier, g.modules[index]? = some m ∧ (specifier, .module target) ∈ m.stars

/-- A module takes over the exports of one outside. -/
def HasOutsideStar (g : ModuleGraph) (index : Nat) : Prop :=
  ∃ m specifier, g.modules[index]? = some m ∧ (specifier, .external) ∈ m.stars

/-- A module has an export by name. -/
def HasOwnExport (g : ModuleGraph) (key : ExportKey) : Prop :=
  ∃ m e, g.modules[key.1]? = some m ∧ m.export? key.2 = some e

/-- A module has an export by name or is led by stars to one that does. A default export is never
taken over. -/
structure BundledExport (g : ModuleGraph) (key : ExportKey) : Prop where
  name : key.2 ≠ "default"
  within : ∃ index, ReflTransGen (StarStep g) key.1 index ∧ HasOwnExport g (index, key.2)

/-- After the searches `history`, a module outside is said to have an export. -/
def StemsOutside (g : ModuleGraph) (history : List ExportKey) (key : ExportKey) : Prop :=
  ∃ specifier name, foundAfter g history key = .ok (some (.outside specifier name))

theorem BundledExport.of_reach {g : ModuleGraph} {index target : Nat} {name : String}
    (h : BundledExport g (target, name)) (reach : ReflTransGen (StarStep g) index target) :
    BundledExport g (index, name) := by
  obtain ⟨last, hlast, hown⟩ := h.within
  exact ⟨h.name, last, reach.trans hlast, hown⟩

/-- A step that does not go on through stars, and has an answer other than that there is no such
export. -/
def ExportStep.IsOwn : ExportStep → Prop
  | .settled answer => answer ≠ .ok none
  | .forward .. => True
  | .stars _ => False

theorem requestStep_isOwn (m : SourceModule) (request : Nat) (imported : Imported) (span : Span) :
    (m.requestStep request imported span).IsOwn := by
  unfold SourceModule.requestStep
  split
  · exact nofun
  · exact nofun
  · trivial

theorem ownStep_isOwn (m : SourceModule) (index : Nat) (e : ExportSpecifier) :
    (m.ownStep index e).IsOwn := by
  unfold SourceModule.ownStep
  split
  · exact requestStep_isOwn ..
  · split
    · exact nofun
    · split
      · split
        · exact nofun
        · exact requestStep_isOwn ..
      · exact nofun

/-- A module that has an export not by name goes on through its stars. -/
theorem exportStep_of_not_own {g : ModuleGraph} {key : ExportKey} {m : SourceModule}
    (hm : g.modules[key.1]? = some m) (hown : ¬ HasOwnExport g key) (hname : key.2 ≠ "default") :
    exportStep g key = .stars m.stars := by
  have hnone : m.export? key.2 = none :=
    Option.eq_none_iff_forall_ne_some.mpr fun e he => hown ⟨m, e, hm, he⟩
  simp only [exportStep, hm, hnone, if_neg hname]

theorem exportStep_eq_stars_iff {g : ModuleGraph} {key : ExportKey}
    {entries : List (String × Dependency)} :
    exportStep g key = .stars entries ↔ ∃ m, g.modules[key.1]? = some m ∧
      ¬ HasOwnExport g key ∧ key.2 ≠ "default" ∧ entries = m.stars := by
  constructor
  · intro h
    unfold exportStep at h
    cases hm : g.modules[key.1]? with
    | none => rw [hm] at h; cases h
    | some m =>
      simp only [hm] at h
      cases he : m.export? key.2 with
      | some e =>
        simp only [he] at h
        exact (h ▸ ownStep_isOwn m key.1 e : (ExportStep.stars entries).IsOwn).elim
      | none =>
        simp only [he] at h
        split at h
        · cases h
        · rename_i hname
          cases h
          refine ⟨m, rfl, fun ⟨m', e, hm', he'⟩ => ?_, hname, rfl⟩
          cases hm.symm.trans hm'
          cases he.symm.trans he'
  · rintro ⟨m, hm, hown, hname, rfl⟩
    exact exportStep_of_not_own hm hown hname

/-- A step that finds that there is no such export is that of a default export. -/
theorem exportStep_ne_none {g : ModuleGraph} {key : ExportKey} (hname : key.2 ≠ "default") :
    exportStep g key ≠ .settled (.ok none) := by
  unfold exportStep
  split
  · exact nofun
  · rename_i m _
    split
    · rename_i e _
      intro h
      exact (h ▸ ownStep_isOwn m key.1 e : (ExportStep.settled (.ok none)).IsOwn) rfl
    · rw [if_neg hname]
      exact nofun

/-! ## Modules without an export -/

/-- Modules of the graph none of which has an export by name or takes it over, but from one another
or from those that were met before. -/
structure Without (g : ModuleGraph) (name : String) (visiting : List ExportKey)
    (modules : Nat → Prop) : Prop where
  known : ∀ index, modules index → ∃ m, g.modules[index]? = some m
  own : ∀ index, modules index → ¬ HasOwnExport g (index, name)
  outside : ∀ index, modules index → ¬ HasOutsideStar g index
  closed : ∀ index target, modules index → StarStep g index target →
    modules target ∨ (target, name) ∈ visiting

/-- A module is one of some without an export. -/
def Lacks (g : ModuleGraph) (visiting : List ExportKey) (key : ExportKey) : Prop :=
  ∃ modules, Without g key.2 visiting modules ∧ modules key.1

theorem Lacks.mono {g : ModuleGraph} {visiting more : List ExportKey} {key : ExportKey}
    (h : Lacks g visiting key) (hsub : visiting ⊆ more) : Lacks g more key := by
  obtain ⟨modules, hwithout, hkey⟩ := h
  refine ⟨modules, { hwithout with closed := fun index target hindex step => ?_ }, hkey⟩
  exact (hwithout.closed index target hindex step).imp_right (hsub ·)

/-- A module lacks an export if it has none by name and all stars of it lead to modules that lack it
or were met before. -/
theorem Lacks.of_stars {g : ModuleGraph} {visiting : List ExportKey} {key : ExportKey}
    {entries : List (String × Dependency)} (step : exportStep g key = .stars entries)
    (h : ∀ entry ∈ entries, ∃ target, entry.2 = .module target ∧
      ((target, key.2) ∈ key :: visiting ∨ Lacks g (key :: visiting) (target, key.2))) :
    Lacks g visiting key := by
  obtain ⟨m, hm, hown, -, rfl⟩ := exportStep_eq_stars_iff.mp step
  -- Besides the module itself, all that lack the export once it was met.
  refine ⟨fun index => index = key.1 ∨ Lacks g (key :: visiting) (index, key.2), ?_, .inl rfl⟩
  have hmet : ∀ {target}, (target, key.2) ∈ key :: visiting →
      (target = key.1 ∨ Lacks g (key :: visiting) (target, key.2)) ∨
        (target, key.2) ∈ visiting := by
    intro target hmem
    rcases List.mem_cons.mp hmem with heq | hmem
    · exact .inl (.inl (congrArg Prod.fst heq))
    · exact .inr hmem
  constructor
  · rintro index (rfl | ⟨modules, hwithout, hindex⟩)
    · exact ⟨m, hm⟩
    · exact hwithout.known index hindex
  · rintro index (rfl | ⟨modules, hwithout, hindex⟩)
    · exact hown
    · exact hwithout.own index hindex
  · rintro index (rfl | ⟨modules, hwithout, hindex⟩)
    · rintro ⟨m', specifier, hm', hmem⟩
      cases hm.symm.trans hm'
      obtain ⟨target, htarget, -⟩ := h _ hmem
      cases htarget
    · exact hwithout.outside index hindex
  · rintro index target (rfl | ⟨modules, hwithout, hindex⟩) hstep
    · obtain ⟨m', specifier, hm', hmem⟩ := hstep
      cases hm.symm.trans hm'
      obtain ⟨target', htarget, hmet' | hlacks⟩ := h _ hmem
      · cases htarget
        exact hmet hmet'
      · cases htarget
        exact .inl (.inr hlacks)
    · rcases hwithout.closed index target hindex hstep with htarget | hmet'
      · exact .inl (.inr ⟨modules, hwithout, htarget⟩)
      · exact hmet hmet'

/-- All that a module without an export is led to lacks it, if no module was met before. -/
theorem Lacks.of_reach {g : ModuleGraph} {key : ExportKey} {index : Nat} (h : Lacks g [] key)
    (reach : ReflTransGen (StarStep g) key.1 index) : Lacks g [] (index, key.2) := by
  obtain ⟨modules, hwithout, hkey⟩ := h
  refine ⟨modules, hwithout, ?_⟩
  induction reach with
  | refl => exact hkey
  | tail _ step ih => exact (hwithout.closed _ _ ih step).resolve_right List.not_mem_nil

/-- The answers from before that there is no such export are right. -/
def NonesHold (g : ModuleGraph) (cache : ExportCache) : Prop :=
  ∀ key, key.2 ≠ "default" → cache.lookup key = some none → Lacks g [] key

theorem nonesHold_nil (g : ModuleGraph) : NonesHold g [] := fun _ _ h => nomatch h

/-- A module that a lookup finds to have no such export lacks it. -/
theorem lacks_of_resolveExport {g : ModuleGraph} {cache : ExportCache} (hcache : NonesHold g cache)
    {depth : Nat} {visiting : List ExportKey} {key : ExportKey} (hname : key.2 ≠ "default")
    (h : resolveExport g cache depth visiting key = .ok none) : Lacks g visiting key := by
  induction depth generalizing visiting key with
  | zero => cases h
  | succ depth ih =>
    rw [resolveExport_succ] at h
    cases hlookup : cache.lookup key with
    | some answer =>
      rw [hlookup] at h
      cases h
      exact (hcache key hname hlookup).mono (List.nil_subset _)
    | none =>
      rw [hlookup] at h
      obtain hstep | ⟨entries, hstep⟩ := ExportStep.run_eq_none h
      · exact absurd hstep (exportStep_ne_none hname)
      · rw [hstep] at h
        obtain ⟨-, hentries⟩ := resolveStars_eq_none_iff.mp h
        refine .of_stars hstep fun entry hentry => ?_
        obtain ⟨target, htarget, hfails⟩ := hentries entry hentry
        exact ⟨target, htarget, hfails.imp_right (ih hname)⟩

/-- A query keeps such answers right. -/
theorem NonesHold.query {g : ModuleGraph} {cache : ExportCache} (hcache : NonesHold g cache)
    (key : ExportKey) : NonesHold g (cacheAfterQuery g cache key) := by
  intro other hname hlookup
  rcases lookup_cacheAfterQuery_cases hlookup with hbefore | ⟨rfl, hnone⟩
  · exact hcache other hname hbefore
  · exact lacks_of_resolveExport hcache hname hnone

/-- The lookup of an export that a module lacks finds none, once more modules were met. -/
theorem freshAnswer_of_lacks {g : ModuleGraph} {asked : ExportKey} {visiting more : List ExportKey}
    {key : ExportKey} (room : LookupRoom g (lookupNames g asked) more key)
    (hname : key.2 ≠ "default") (h : Lacks g visiting key) (hsub : visiting ⊆ more) :
    freshAnswer g more key = .ok none := by
  obtain ⟨modules, hwithout, hkey⟩ := h
  -- The modules stay the same; what was met grows, and with it the depth that is used.
  induction hdepth : g.lookupDepth - more.length generalizing more key with
  | zero =>
    have := room.length_lt
    omega
  | succ depth ih =>
    obtain ⟨m, hm⟩ := hwithout.known _ hkey
    have hstep := exportStep_of_not_own hm (hwithout.own _ hkey) hname
    rw [freshAnswer_eq room, hstep]
    refine resolveStars_eq_none_iff.mpr ⟨rfl, fun entry hentry => ?_⟩
    obtain ⟨specifier, dependency⟩ := entry
    cases dependency with
    | external => exact absurd ⟨m, specifier, hm, hentry⟩ (hwithout.outside _ hkey)
    | module target =>
      refine ⟨target, rfl, ?_⟩
      by_cases hmem : (target, key.2) ∈ key :: more
      · exact .inl hmem
      · have htarget : modules target := by
          refine (hwithout.closed _ _ hkey ⟨m, specifier, hm, hentry⟩).resolve_right ?_
          exact fun hmet => hmem (List.mem_cons_of_mem _ (hsub hmet))
        have hroom := room.next (exportStep_eq_stars hstep)
          (show (target, key.2).2 ∈ _ from room.name) hmem
        have hsub := List.Subset.trans hsub (List.subset_cons_self key more)
        refine .inr (ih hroom hname hsub hwithout htarget ?_)
        rw [List.length_cons]
        omega

/-! ## Searches through stars -/

/-- The modules that the search for an export comes to by stars, each with those that led there,
when there are no answers from before. -/
inductive StarSearch (g : ModuleGraph) (asked : ExportKey) : List ExportKey → ExportKey → Prop where
  | asked : StarSearch g asked [] asked
  | star {visiting : List ExportKey} {key : ExportKey} {specifier : String} {target : Nat}
      {before after : List (String × Dependency)} (search : StarSearch g asked visiting key)
      (step : exportStep g key = .stars (before ++ (specifier, .module target) :: after))
      (fails : ∀ entry ∈ before, StarFails g (key :: visiting) key.2 entry)
      (isNew : (target, key.2) ∉ key :: visiting) :
      StarSearch g asked (key :: visiting) (target, key.2)

/-- A search ends at a module with the first outside that it takes over from, since it takes the
export over from none of the graph. -/
def EndsOutside (g : ModuleGraph) (visiting : List ExportKey) (key : ExportKey) : Prop :=
  ∃ entries, exportStep g key = .stars entries ∧
    (∀ entry ∈ entries, StarFails g (key :: visiting) key.2 entry) ∧
    ∃ specifier, (specifier, .external) ∈ entries

section
variable {g : ModuleGraph} {asked key : ExportKey} {visiting : List ExportKey}

/-- Searches are lookups. -/
theorem StarSearch.passes (h : StarSearch g asked visiting key) :
    LookupPasses g asked visiting key := by
  induction h with
  | asked => exact .asked
  | star _ step fails isNew ih => exact .star ih step fails isNew

theorem StarSearch.name (h : StarSearch g asked visiting key) : key.2 = asked.2 := by
  induction h with
  | asked => rfl
  | star _ _ _ _ ih => exact ih

theorem starStep_of_exportStep {entries : List (String × Dependency)} {specifier : String}
    {target : Nat} (step : exportStep g key = .stars entries)
    (h : (specifier, .module target) ∈ entries) : StarStep g key.1 target := by
  obtain ⟨m, hm, -, -, rfl⟩ := exportStep_eq_stars_iff.mp step
  exact ⟨m, specifier, hm, h⟩

theorem EndsOutside.hasOutsideStar (h : EndsOutside g visiting key) : HasOutsideStar g key.1 := by
  obtain ⟨entries, step, -, specifier, hmem⟩ := h
  obtain ⟨m, hm, -, -, rfl⟩ := exportStep_eq_stars_iff.mp step
  exact ⟨m, specifier, hm, hmem⟩

/-- All that led to a module lead there by stars, under the same name. -/
theorem StarSearch.of_mem (h : StarSearch g asked visiting key) :
    ∀ met ∈ visiting, ReflTransGen (StarStep g) met.1 key.1 ∧ met.2 = key.2 := by
  induction h with
  | asked => exact fun met hmet => absurd hmet List.not_mem_nil
  | @star visiting key specifier target before after _ step _ _ ih =>
    have hstep : StarStep g key.1 target :=
      starStep_of_exportStep step (List.mem_append_right _ List.mem_cons_self)
    intro met hmet
    rcases List.mem_cons.mp hmet with rfl | hmet
    · exact ⟨.single hstep, rfl⟩
    · exact ⟨(ih met hmet).1.tail hstep, (ih met hmet).2⟩

theorem StarSearch.reach (h : StarSearch g asked visiting key) :
    ReflTransGen (StarStep g) asked.1 key.1 := by
  induction h with
  | asked => exact .refl
  | star _ step _ _ ih => exact ih.tail (starStep_of_exportStep step (List.mem_append_right _ List.mem_cons_self))

/-- A star that fails leads to a module that lacks the export or was met. -/
theorem StarFails.lacks {name : String} (hname : name ≠ "default") {specifier : String}
    {target : Nat} (h : StarFails g visiting name (specifier, .module target)) :
    (target, name) ∈ visiting ∨ Lacks g visiting (target, name) :=
  h.imp_right (lacks_of_resolveExport (nonesHold_nil g) hname)

/-- The module that was asked ends no search outside if one of the graph has the export. -/
theorem EndsOutside.not_bundled (h : EndsOutside g [] key) : ¬ BundledExport g key := by
  obtain ⟨entries, step, fails, -⟩ := h
  obtain ⟨m, hm, hown, hname, rfl⟩ := exportStep_eq_stars_iff.mp step
  rintro ⟨-, index, reach, hhas⟩
  -- All that stars lead to is the module itself or lacks the export but for that.
  have hall : index = key.1 ∨ Lacks g [key] (index, key.2) := by
    clear hhas
    induction reach with
    | refl => exact .inl rfl
    | tail _ hstep ih =>
      have hmet : ∀ {target}, (target, key.2) ∈ [key] → target = key.1 := fun hmem =>
        congrArg Prod.fst (List.mem_singleton.mp hmem)
      rcases ih with rfl | ⟨modules, hwithout, hindex⟩
      · obtain ⟨m', specifier, hm', hmem⟩ := hstep
        cases hm.symm.trans hm'
        exact ((fails _ hmem).lacks hname).imp_left hmet
      · rcases hwithout.closed _ _ hindex hstep with htarget | hmem
        · exact .inr ⟨modules, hwithout, htarget⟩
        · exact .inl (hmet hmem)
  rcases hall with rfl | ⟨modules, hwithout, hindex⟩
  · exact hown hhas
  · exact hwithout.own _ hindex hhas

end

/-! ## Searches that end outside -/

/-- A search for an export that a module takes over has none there. -/
def SearchFails (search : SlotSearch) (visiting : List ExportKey) (name : String) :
    String × Dependency → Prop
  | (_, .external) => True
  | (_, .module target) => (target, name) ∈ visiting ∨ search visiting (target, name) = .ok none

section
variable {search : SlotSearch} {visiting : List ExportKey} {name : String}

/-- Stars that all fail leave the first module outside. -/
theorem findStars_of_fails {entries : List (String × Dependency)}
    (fails : ∀ entry ∈ entries, SearchFails search visiting name entry) (outside : Option String)
    (h : outside.isSome ∨ ∃ specifier, (specifier, .external) ∈ entries) :
    ∃ specifier, findStars search visiting name outside entries =
      .ok (some (.outside specifier name)) := by
  induction entries generalizing outside with
  | nil =>
    obtain ⟨specifier, rfl⟩ := Option.isSome_iff_exists.mp (h.resolve_right (by simp))
    exact ⟨specifier, rfl⟩
  | cons entry rest ih =>
    obtain ⟨hentry, hrest⟩ := List.forall_mem_cons.mp fails
    obtain ⟨specifier, dependency⟩ := entry
    cases dependency with
    | external => exact ih hrest _ (.inl (by cases outside <;> rfl))
    | module target =>
      have h : outside.isSome ∨ ∃ specifier, (specifier, .external) ∈ rest := by simpa using h
      rw [findStars]
      split
      · exact ih hrest outside h
      · rename_i hmem
        rw [hentry.resolve_left hmem]
        exact ih hrest outside h

/-- The first star that does not fail has the answer. -/
theorem findStars_append {before after : List (String × Dependency)} {specifier : String}
    {target : Nat} {found : FoundSlot}
    (fails : ∀ entry ∈ before, SearchFails search visiting name entry)
    (isNew : (target, name) ∉ visiting) (h : search visiting (target, name) = .ok (some found))
    (outside : Option String) :
    findStars search visiting name outside (before ++ (specifier, .module target) :: after) =
      .ok (some found) := by
  induction before generalizing outside with
  | nil =>
    rw [List.nil_append, findStars, if_neg isNew, h]
    rfl
  | cons entry rest ih =>
    obtain ⟨hentry, hrest⟩ := List.forall_mem_cons.mp fails
    obtain ⟨other, dependency⟩ := entry
    cases dependency with
    | external => exact ih hrest _
    | module index =>
      rw [List.cons_append, findStars]
      split
      · exact ih hrest outside
      · rename_i hmem
        rw [hentry.resolve_left hmem]
        exact ih hrest outside

/-- The first star that does not fail finds a slot. -/
def FirstFinds (search : SlotSearch) (visiting : List ExportKey) (name : String)
    (entries : List (String × Dependency)) (found : FoundSlot) : Prop :=
  ∃ before specifier target after, entries = before ++ (specifier, .module target) :: after ∧
    (∀ entry ∈ before, SearchFails search visiting name entry) ∧ (target, name) ∉ visiting ∧
    search visiting (target, name) = .ok (some found)

theorem FirstFinds.cons {entry : String × Dependency} {rest : List (String × Dependency)}
    {found : FoundSlot} (hentry : SearchFails search visiting name entry)
    (h : FirstFinds search visiting name rest found) :
    FirstFinds search visiting name (entry :: rest) found := by
  obtain ⟨before, specifier, target, after, rfl, fails, isNew, hsearch⟩ := h
  exact ⟨entry :: before, specifier, target, after, rfl,
    List.forall_mem_cons.mpr ⟨hentry, fails⟩, isNew, hsearch⟩

/-- An answer of stars is that of the first that does not fail, or all of them fail and it is a
module outside. -/
theorem findStars_eq_some {outside : Option String} {entries : List (String × Dependency)}
    {found : FoundSlot} (h : findStars search visiting name outside entries = .ok (some found)) :
    FirstFinds search visiting name entries found ∨
      ((∀ entry ∈ entries, SearchFails search visiting name entry) ∧
        (outside.isSome ∨ ∃ specifier, (specifier, .external) ∈ entries)) := by
  induction entries generalizing outside with
  | nil =>
    refine .inr ⟨fun entry hentry => absurd hentry List.not_mem_nil, .inl ?_⟩
    cases outside with
    | none => cases h
    | some slot => rfl
  | cons entry rest ih =>
    obtain ⟨specifier, dependency⟩ := entry
    cases dependency with
    | external =>
      refine (ih h).imp (.cons trivial) fun ⟨fails, _⟩ => ⟨?_, .inr ⟨specifier, ?_⟩⟩
      · exact List.forall_mem_cons.mpr ⟨trivial, fails⟩
      · exact List.mem_cons_self
    | module target =>
      have extend (hentry : SearchFails search visiting name (specifier, .module target))
          (h : findStars search visiting name outside rest = .ok (some found)) :
          FirstFinds search visiting name ((specifier, .module target) :: rest) found ∨
            ((∀ entry ∈ (specifier, .module target) :: rest,
                SearchFails search visiting name entry) ∧
              (outside.isSome ∨ ∃ other, (other, .external) ∈ (specifier, .module target) :: rest)) := by
        refine (ih h).imp (.cons hentry) fun ⟨fails, h⟩ => ⟨?_, h.imp_right fun ⟨other, hmem⟩ => ?_⟩
        · exact List.forall_mem_cons.mpr ⟨hentry, fails⟩
        · exact ⟨other, List.mem_cons_of_mem _ hmem⟩
      rw [findStars] at h
      split at h
      · rename_i hmem
        exact extend (.inl hmem) h
      · rename_i hmem
        obtain ⟨answer, hanswer, h⟩ := bind_eq_ok.mp h
        cases answer with
        | some found' =>
          cases h
          exact .inl ⟨[], specifier, target, rest, rfl,
            fun entry hentry => absurd hentry List.not_mem_nil, hmem, hanswer⟩
        | none => exact extend (.inr hanswer) h

end

/-- Stars have an answer, a module outside or none, if those of the graph that they lead to do. -/
theorem findStars_ok {search : SlotSearch} {visiting : List ExportKey} {name : String}
    {entries : List (String × Dependency)}
    (h : ∀ specifier target, (specifier, .module target) ∈ entries → (target, name) ∉ visiting →
      ∃ answer, search visiting (target, name) = .ok answer ∧ ∀ found ∈ answer, found.isOutside)
    (outside : Option String) :
    ∃ answer, findStars search visiting name outside entries = .ok answer ∧
      ∀ found ∈ answer, found.isOutside := by
  induction entries generalizing outside with
  | nil =>
    refine ⟨_, rfl, fun found hfound => ?_⟩
    obtain ⟨slot, -, rfl⟩ := Option.map_eq_some_iff.mp hfound
    rfl
  | cons entry rest ih =>
    have ih := ih fun specifier target hmem => h specifier target (List.mem_cons_of_mem _ hmem)
    obtain ⟨specifier, dependency⟩ := entry
    cases dependency with
    | external => exact ih _
    | module target =>
      rw [findStars]
      split
      · exact ih outside
      · rename_i hmem
        obtain ⟨answer, hanswer, hfound⟩ := h specifier target List.mem_cons_self hmem
        rw [hanswer]
        cases answer with
        | none => exact ih outside
        | some found => exact ⟨some found, rfl, hfound⟩

section
variable {g : ModuleGraph} {asked key : ExportKey} {visiting : List ExportKey} {cache : FoundCache}

/-- What fails with the help of right answers from before fails without them. -/
theorem StarSearch.fails (search : StarSearch g asked visiting key)
    (hname : key.2 ≠ "default") (hcache : NonesHold g cache.slots) {depth : Nat}
    {entries : List (String × Dependency)} (step : exportStep g key = .stars entries)
    {entry : String × Dependency}
    (h : SearchFails (findExport g cache depth) (key :: visiting) key.2 entry) :
    StarFails g (key :: visiting) key.2 entry := by
  obtain ⟨specifier, dependency⟩ := entry
  cases dependency with
  | external => trivial
  | module target =>
    by_cases hmem : (target, key.2) ∈ key :: visiting
    · exact .inl hmem
    · have hnone := findExport_eq_none_iff.mp (h.resolve_left hmem)
      have room := search.passes.room
      have hroom := room.next (exportStep_eq_stars step)
        (show (target, key.2).2 ∈ _ from room.name) hmem
      have hlacks := lacks_of_resolveExport hcache (show (target, key.2).2 ≠ _ from hname) hnone
      exact .inr (freshAnswer_of_lacks hroom hname hlacks (List.Subset.refl _))

/-- An answer from outside is one from before or one of stars. -/
theorem findExport_eq_outside {depth : Nat} {found : FoundSlot}
    (h : findExport g cache (depth + 1) visiting key = .ok (some found)) (hout : found.isOutside) :
    cache.lookup key = some (some found) ∨ ∃ entries, exportStep g key = .stars entries ∧
      findStars (findExport g cache depth) (key :: visiting) key.2 none entries =
        .ok (some found) := by
  rw [findExport] at h
  cases hlookup : cache.lookup key with
  | some answer =>
    rw [hlookup] at h
    cases h
    exact .inl rfl
  | none =>
    rw [hlookup] at h
    cases step : exportStep g key with
    | settled answer =>
      rw [step] at h
      obtain ⟨slot?, -, h⟩ := map_eq_ok.mp h
      obtain ⟨slot, -, rfl⟩ := Option.map_eq_some_iff.mp h
      cases hout
    | forward m next span =>
      simp only [step, ExportStep.find] at h
      split at h
      · cases h
      · obtain ⟨found', -, h⟩ := bind_eq_ok.mp h
        obtain ⟨slot, -, h⟩ := bind_eq_ok.mp h
        cases h
        cases hout
    | stars entries =>
      rw [step] at h
      exact .inr ⟨entries, rfl, h⟩

/-- An answer from outside is that of a module at which the search ends outside or about which there
is an answer from before. -/
theorem StarSearch.of_found (search : StarSearch g asked visiting key) (hname : key.2 ≠ "default")
    (hcache : NonesHold g cache.slots) {depth : Nat} {found : FoundSlot}
    (h : findExport g cache depth visiting key = .ok (some found)) (hout : found.isOutside) :
    ∃ visiting' last, StarSearch g asked visiting' last ∧ visiting <:+ visiting' ∧
      (cache.lookup last = some (some found) ∨ EndsOutside g visiting' last) := by
  induction depth generalizing visiting key with
  | zero => cases h
  | succ depth ih =>
    obtain hlookup | ⟨entries, step, h⟩ := findExport_eq_outside h hout
    · exact ⟨visiting, key, search, List.suffix_rfl, .inl hlookup⟩
    · rcases findStars_eq_some h with
        ⟨before, specifier, target, after, rfl, fails, isNew, hfound⟩ | ⟨fails, hstar⟩
      · have fails : ∀ entry ∈ before, StarFails g (key :: visiting) key.2 entry :=
          fun entry hentry => search.fails hname hcache step (fails entry hentry)
        obtain ⟨visiting', last, hlast, hsuffix, hends⟩ :=
          ih (.star search step fails isNew) hname hfound
        exact ⟨visiting', last, hlast, (List.suffix_cons ..).trans hsuffix, hends⟩
      · have hstar := hstar.resolve_left (by simp)
        exact ⟨visiting, key, search, List.suffix_rfl, .inr ⟨entries, step,
          fun entry hentry => search.fails hname hcache step (fails entry hentry), hstar⟩⟩

/-- The answer at a module that a search comes to is that of the search. -/
theorem StarSearch.found (search : StarSearch g asked visiting key) {found : FoundSlot}
    (h : findExport g [] (g.lookupDepth - visiting.length) visiting key = .ok (some found)) :
    findExport g [] g.lookupDepth [] asked = .ok (some found) := by
  -- The answer goes back along the way on which the search came.
  induction search with
  | asked => exact h
  | @star visiting key specifier target before after search step fails isNew ih =>
    apply ih
    rw [search.passes.room.depth_eq, findExport]
    change (exportStep g key).find g _ (key :: visiting) key.2 = _
    rw [step]
    refine findStars_append (fun entry hentry => ?_) isNew h none
    have hentry := fails entry hentry
    obtain ⟨other, dependency⟩ := entry
    cases dependency with
    | external => trivial
    | module index => exact hentry.imp_right findExport_eq_none_iff.mpr

/-- If the search ends outside, then the answer is a module outside. -/
theorem StarSearch.stemsOutside (search : StarSearch g asked visiting key)
    (h : EndsOutside g visiting key) : StemsOutside g [] asked := by
  obtain ⟨entries, step, fails, hstar⟩ := h
  have hfails : ∀ entry ∈ entries, SearchFails
      (findExport g [] (g.lookupDepth - (visiting.length + 1))) (key :: visiting) key.2 entry := by
    intro entry hentry
    have hentry := fails entry hentry
    obtain ⟨specifier, dependency⟩ := entry
    cases dependency with
    | external => trivial
    | module target => exact hentry.imp_right findExport_eq_none_iff.mpr
  obtain ⟨specifier, hfound⟩ := findStars_of_fails hfails none (.inr hstar)
  refine ⟨specifier, key.2, search.found ?_⟩
  rw [search.passes.room.depth_eq, findExport]
  change (exportStep g key).find g _ (key :: visiting) key.2 = _
  rw [step]
  exact hfound

end

/-! ## Searches of modules that lead to no export of the graph -/

theorem StarStep.lt_size {g : ModuleGraph} (wf : g.WellFormed) {index target : Nat}
    (h : StarStep g index target) : target < g.size := by
  obtain ⟨m, specifier, hm, hmem⟩ := h
  obtain ⟨request, -, hrequest⟩ := List.mem_filterMap.mp hmem
  obtain ⟨_, -, hrequest⟩ := Option.bind_eq_some_iff.mp hrequest
  obtain ⟨_, hdependency, hrequest⟩ := Option.bind_eq_some_iff.mp hrequest
  cases hrequest
  have hm := wf.modules m (Array.mem_of_getElem? hm)
  exact hm.requests target (List.mem_of_getElem? hdependency)

/-- The search for an export that no module of the graph has has an answer, if any a module
outside. -/
theorem found_of_not_bundled {g : ModuleGraph} (wf : g.WellFormed) {asked key : ExportKey}
    {visiting : List ExportKey} (room : LookupRoom g (lookupNames g asked) visiting key)
    (hkey : key.1 < g.size) (hname : key.2 ≠ "default") (h : ¬ BundledExport g key) :
    ∃ answer, findExport g [] (g.lookupDepth - visiting.length) visiting key = .ok answer ∧
      ∀ found ∈ answer, found.isOutside := by
  induction hdepth : g.lookupDepth - visiting.length generalizing visiting key with
  | zero =>
    have := room.length_lt
    omega
  | succ depth ih =>
    have hm := Array.getElem?_eq_getElem hkey
    have step := exportStep_of_not_own hm (fun hown => h ⟨hname, key.1, .refl, hown⟩) hname
    rw [findExport]
    change ∃ answer, (exportStep g key).find g _ (key :: visiting) key.2 = _ ∧ _
    rw [step]
    refine findStars_ok (fun specifier target hmem isNew => ?_) none
    have hstep := starStep_of_exportStep step hmem
    refine ih (room.next hkey (show (target, key.2).2 ∈ _ from room.name) isNew)
      (hstep.lt_size wf) hname (fun hbundled => h (hbundled.of_reach (.single hstep))) ?_
    rw [List.length_cons]
    omega

section
variable {g : ModuleGraph} {asked key : ExportKey} {visiting : List ExportKey}

/-- A search that comes from modules that lead to an export of the graph to one that leads only to
stars outside ends outside. -/
theorem StarSearch.endsOutside (wf : g.WellFormed) (search : StarSearch g asked visiting key)
    (hkey : key.1 < g.size) (hname : key.2 ≠ "default") (hnot : ¬ BundledExport g key)
    (hmet : ∀ met ∈ visiting, BundledExport g met) {index : Nat}
    (reach : ReflTransGen (StarStep g) key.1 index) (hstar : HasOutsideStar g index) :
    ∃ visiting' last, StarSearch g asked visiting' last ∧ visiting <:+ visiting' ∧
      EndsOutside g visiting' last := by
  obtain ⟨answer, hanswer, hfound⟩ := found_of_not_bundled wf search.passes.room hkey hname hnot
  cases answer with
  | none =>
    -- Without an answer all that is in reach would be without stars outside.
    obtain ⟨modules, hwithout, hmodule⟩ :=
      lacks_of_resolveExport (nonesHold_nil g) hname (findExport_eq_none_iff.mp hanswer)
    have hindex : modules index := by
      clear hstar
      induction reach with
      | refl => exact hmodule
      | @tail middle target hreach step ih =>
        refine (hwithout.closed _ _ ih step).resolve_right fun hmem => hnot ?_
        exact (hmet _ hmem).of_reach (hreach.tail step)
    exact absurd hstar (hwithout.outside index hindex)
  | some found =>
    have hnones : NonesHold g (FoundCache.slots []) := nonesHold_nil g
    obtain ⟨visiting', last, hlast, hsuffix, hends⟩ :=
      search.of_found hname hnones hanswer (hfound found rfl)
    exact ⟨visiting', last, hlast, hsuffix, hends.resolve_left (nomatch ·)⟩

/-- A search that comes from an export of the graph to one that no module of the graph has comes to a
first such export. -/
theorem StarSearch.leaves (wf : g.WellFormed) (search : StarSearch g asked visiting key)
    (hasked : BundledExport g asked) (hnot : ¬ BundledExport g key) :
    ∃ visiting' first, StarSearch g asked visiting' first ∧ visiting' ≠ [] ∧ first.1 < g.size ∧
      ¬ BundledExport g first ∧ (∀ met ∈ visiting', BundledExport g met) ∧
      ReflTransGen (StarStep g) first.1 key.1 := by
  induction search with
  | asked => exact absurd hasked hnot
  | @star visiting key specifier target before after search step fails isNew ih =>
    have hstep : StarStep g key.1 target :=
      starStep_of_exportStep step (List.mem_append_right _ List.mem_cons_self)
    by_cases hkey : BundledExport g key
    · refine ⟨_, _, .star search step fails isNew, List.cons_ne_nil _ _, hstep.lt_size wf, hnot,
        fun met hmet => ?_, .refl⟩
      rcases List.mem_cons.mp hmet with rfl | hmet
      · exact hkey
      · obtain ⟨hreach, hname⟩ := search.of_mem met hmet
        have hmet : BundledExport g (key.1, met.2) := hname ▸ hkey
        exact hmet.of_reach hreach
    · obtain ⟨visiting', first, hfirst, hne, hlt, hnot, hmet, hreach⟩ := ih hkey
      exact ⟨visiting', first, hfirst, hne, hlt, hnot, hmet, hreach.tail hstep⟩

end

/-! ## Answers from before -/

/-- The answers from before that there is no such export are right, and those that are modules
outside are about exports that no module of the graph has. -/
structure CacheHolds (g : ModuleGraph) (cache : FoundCache) : Prop where
  nones : NonesHold g cache.slots
  outside : ∀ key found, cache.lookup key = some (some found) → found.isOutside →
    key.2 ≠ "default" ∧ ¬ BundledExport g key ∧
      ∃ index, ReflTransGen (StarStep g) key.1 index ∧ HasOutsideStar g index

/-- No search for an export that a module of the graph has ends outside at a module other than the
one that was asked. -/
def SearchesWait (g : ModuleGraph) : Prop :=
  ∀ asked visiting key, BundledExport g asked → StarSearch g asked visiting key → visiting ≠ [] →
    ¬ EndsOutside g visiting key

section
variable {g : ModuleGraph} {cache : FoundCache} {key : ExportKey}

/-- An answer that is a module outside is about an export that no module of the graph has. -/
theorem CacheHolds.found (wf : g.WellFormed) (wait : SearchesWait g) (hcache : CacheHolds g cache)
    {found : FoundSlot} (h : findExport g cache g.lookupDepth [] key = .ok (some found))
    (hout : found.isOutside) :
    key.2 ≠ "default" ∧ ¬ BundledExport g key ∧
      ∃ index, ReflTransGen (StarStep g) key.1 index ∧ HasOutsideStar g index := by
  obtain hlookup | ⟨entries, step, -⟩ := findExport_eq_outside h hout
  · exact hcache.outside key found hlookup hout
  · obtain ⟨-, -, -, hname, -⟩ := exportStep_eq_stars_iff.mp step
    have hasked : StarSearch g key [] key := .asked
    obtain ⟨visiting, last, search, -, hlast⟩ := hasked.of_found hname hcache.nones h hout
    rcases hlast with hlookup | hends
    · obtain ⟨-, hnot, index, reach, hstar⟩ := hcache.outside last found hlookup hout
      refine ⟨hname, fun hbundled => ?_, index, search.reach.trans reach, hstar⟩
      -- Where the search leaves the exports of the graph, it ends outside without that answer too.
      obtain ⟨visiting', first, hfirst, hne, hlt, hnot, hmet, hreach⟩ :=
        search.leaves wf hbundled hnot
      obtain ⟨visiting'', last', hlast', hsuffix, hends⟩ := hfirst.endsOutside wf hlt
        (hfirst.name.trans_ne hname) hnot hmet (hreach.trans reach) hstar
      exact wait key visiting'' last' hbundled hlast'
        (fun hnil => hne (List.suffix_nil.mp (hnil ▸ hsuffix))) hends
    · refine ⟨hname, fun hbundled => ?_, last.1, search.reach, hends.hasOutsideStar⟩
      cases search with
      | asked => exact hends.not_bundled hbundled
      | star search step fails isNew =>
        exact wait key _ _ hbundled (.star search step fails isNew) (List.cons_ne_nil _ _) hends

/-- A search keeps answers that hold. -/
theorem CacheHolds.query (wf : g.WellFormed) (wait : SearchesWait g) (hcache : CacheHolds g cache)
    (key : ExportKey) : CacheHolds g (foundCacheAfterQuery g cache key) where
  nones := by
    rw [foundCacheAfterQuery_slots]
    exact hcache.nones.query key
  outside other found hlookup hout := by
    unfold foundCacheAfterQuery at hlookup
    split at hlookup
    · rename_i answer hanswer
      split at hlookup
      · exact hcache.outside other found hlookup hout
      · rcases lookup_cons_cases hlookup with hbefore | ⟨rfl, rfl⟩
        · exact hcache.outside other found hbefore hout
        · exact hcache.found wf wait hanswer hout
    · exact hcache.outside other found hlookup hout

theorem foundCacheAfter_holds (wf : g.WellFormed) (wait : SearchesWait g)
    (history : List ExportKey) : CacheHolds g (foundCacheAfter g history) :=
  List.foldlRecOn history (foundCacheAfterQuery g)
    ⟨nonesHold_nil g, fun _ _ h => nomatch h⟩ fun _ hcache key _ => hcache.query wf wait key

end

/-- **Exports of the graph win over those from outside**, after all searches, if and only if no search
for one of them ends outside at a module other than the one that was asked. -/
theorem bundledExports_win_iff (g : ModuleGraph) (wf : g.WellFormed) :
    (∀ history key, BundledExport g key → ¬ StemsOutside g history key) ↔ SearchesWait g := by
  constructor
  · intro wins asked visiting key hasked search _ hends
    exact wins [] asked hasked (search.stemsOutside hends)
  · rintro wait history key hkey ⟨specifier, name, hfound⟩
    exact ((foundCacheAfter_holds wf wait history).found wf wait hfound rfl).2.1 hkey

/-! ## A star of an inner module -/

/-- A module that takes over from two others, the first of which takes over from outside. The second
has an export `x`, which the entry imports. -/
def nestedStars : ModuleProvider where
  resolve specifier _ :=
    if specifier = "ext" then .ok .external else .ok (.module (.file specifier))
  load
    | .file "/index.js" => .text "import { x } from \"./lib.js\";\nconsole.log(x);\n"
    | .file "./lib.js" => .text "export * from \"./a.js\";\nexport * from \"./b.js\";\n"
    | .file "./a.js" => .text "export * from \"ext\";\n"
    | .file "./b.js" => .text "export const x = 1;\n"
    | id => .failed (.missing id.text)

/-- The entry of nested stars, `./lib.js`, `./a.js` and `./b.js`. -/
def nestedGraph : Option ModuleGraph :=
  (discover nestedStars (fun _ => false) 5).bind fun logged => logged.result.toOption

/-- Nested stars make a well-formed graph. -/
theorem nestedGraph_wins_iff :
    ∃ g, nestedGraph = some g ∧ g.WellFormed ∧
      ((∀ history key, BundledExport g key → ¬ StemsOutside g history key) ↔ SearchesWait g) := by
  have hsome : nestedGraph.isSome := by decide +kernel
  obtain ⟨g, hg⟩ := Option.isSome_iff_exists.mp hsome
  obtain ⟨⟨loads, result⟩, hrun, hresult⟩ := Option.bind_eq_some_iff.mp hg
  cases result with
  | error e => cases hresult
  | ok graph =>
    cases hresult
    have wf := discover_wellFormed hrun
    exact ⟨g, hg, wf, bundledExports_win_iff g wf⟩

/-- `x` of `./lib.js` is said to be that of `ext`, although `./b.js` has it by name. -/
theorem nestedGraph_stems_outside :
    ∃ g, nestedGraph = some g ∧ BundledExport g (1, "x") ∧ StemsOutside g [] (1, "x") ∧
      (answerAfter g [] (1, "x")).toOption = some (some (.external "ext" (.name "x"))) := by
  have hgraph : (nestedGraph.any fun g =>
      ((g.modules[1]?).any fun m => decide (("./b.js", .module 3) ∈ m.stars)) ∧
      ((g.modules[3]?).any fun m => (m.export? "x").isSome) ∧
      (foundAfter g [] (1, "x")).toOption =
        some (some (.outside "ext" "x"))) = true := by
    decide +kernel
  obtain ⟨g, hg, h⟩ := (Option.any_eq_true _ _).mp hgraph
  obtain ⟨hstar, hown, hfound⟩ := of_decide_eq_true h
  obtain ⟨lib, hlib, hmem⟩ := (Option.any_eq_true _ _).mp hstar
  obtain ⟨b, hb, hexport⟩ := (Option.any_eq_true _ _).mp hown
  obtain ⟨e, he⟩ := Option.isSome_iff_exists.mp hexport
  have hreach : StarStep g 1 3 := ⟨lib, "./b.js", hlib, of_decide_eq_true hmem⟩
  refine ⟨g, hg, ⟨by decide, 3, .single hreach, b, e, hb, he⟩, ?_⟩
  have hfound : foundAfter g [] (1, "x") =
      .ok (some (.outside "ext" "x")) := by
    cases h : foundAfter g [] (1, "x") with
    | error e => rw [h] at hfound; cases hfound
    | ok found => rw [h] at hfound; cases hfound; rfl
  refine ⟨⟨_, _, hfound⟩, ?_⟩
  rw [← foundAfter_slots, hfound]
  rfl

end ModuleBundler
