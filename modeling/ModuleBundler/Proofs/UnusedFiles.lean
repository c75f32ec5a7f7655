import ModuleBundler.Proofs.HostingOrigin
import ModuleBundler.Proofs.Naming
import ModuleBundler.Proofs.ReachableGraph

/-!
# Files that nothing means

* `FileSet.Extends` : files with more paths, though not that of the entry; `FileSet.Adds` : a path
  that only they have;
* `Follows` : a specifier is followed in a module on the way of a discovery, and it is one of those in
  the module's text;
* `Site.resolve_extends` : a specifier means the same with more files, unless it gives a new path;
* `compiles_iff_of_unused` : files that no specifier gives make no difference to a compilation.
-/

namespace ModuleBundler

/-! ## More files -/

namespace FileSet

/-- The set has each file of another one, with its text, and the entry only if that one has it. -/
structure Extends (files' files : FileSet) : Prop where
  kept : ∀ path text, files.get? path = some text → files'.get? path = some text
  entry : files.get? entryPath = none → files'.get? entryPath = none

/-- The set has a path that another one does not have. -/
def Adds (files' files : FileSet) (path : String) : Prop :=
  files'.contains path = true ∧ files.contains path = false

variable {files files' : FileSet}

/-- A path that is not new has the text that it had, if any. -/
theorem Extends.get?_eq (h : files'.Extends files) {path : String} (hnew : ¬ files'.Adds files path) :
    files'.get? path = files.get? path := by
  cases hget : files.get? path with
  | some text => exact h.kept path text hget
  | none =>
    have hcontains : files.contains path = false := by rw [contains, hget]; rfl
    by_contra hsome
    exact hnew ⟨Option.isSome_iff_ne_none.mpr hsome, hcontains⟩

theorem Extends.contains_eq (h : files'.Extends files) {path : String}
    (hnew : ¬ files'.Adds files path) : files'.contains path = files.contains path := by
  rw [contains, contains, h.get?_eq hnew]

/-- A file at a new path is all that is added. -/
theorem extends_insert {files : FileSet} {path : String} (text : String)
    (hnew : files.contains path = false) (hentry : path ≠ entryPath) :
    (files.insert path text).Extends files where
  kept other text' hget := by
    have hne : other ≠ path := by
      rintro rfl
      rw [contains, hget] at hnew
      cases hnew
    rw [get?_insert, if_neg hne, hget]
  entry hnone := by rw [get?_insert, if_neg hentry.symm, hnone]

theorem Extends.trans {files'' : FileSet} (h : files''.Extends files') (h' : files'.Extends files) :
    files''.Extends files where
  kept path text hget := h.kept path text (h'.kept path text hget)
  entry hnone := h.entry (h'.entry hnone)

theorem Adds.eq_of_insert {files : FileSet} {path text other : String}
    (h : (files.insert path text).Adds files other) : other = path := by
  by_contra hne
  obtain ⟨hnew, hold⟩ := h
  rw [contains, get?_insert, if_neg hne] at hnew
  rw [contains, hnew] at hold
  cases hold

end FileSet

/-! ## What is followed -/

/-- On its way a discovery comes to a module with a specifier, and is about to find out what the
specifier means there. -/
def Follows (provider : ModuleProvider) (cancelled : List ModuleId → Bool) (specifier : String)
    (importer : ModuleId) : Prop :=
  ∃ n loads d m dependencies request rest entries,
    (DiscoveryState.next provider cancelled)^[n] .start =
      .following loads d m dependencies (request :: rest) entries ∧
    m.id = importer ∧ request.specifier = specifier

section
variable {provider : ModuleProvider} {cancelled : List ModuleId → Bool}

/-- A module was loaded and read. -/
structure ReadModule.From (m : ReadModule) (provider : ModuleProvider) : Prop where
  load : provider.load m.id = .text m.source
  parsed : parseModule m.source = .ok m.record

/-- What was loaded in a round is what the provider has, and what is followed are requests of a module
that was read. -/
def DiscoveryState.AsLoaded (provider : ModuleProvider) : DiscoveryState → Prop
  | loading _ _ entries _ | adding _ _ entries =>
    ∀ id text, (id, .text text) ∈ entries → provider.load id = .text text
  | following _ _ m _ rest entries =>
    m.From provider ∧ rest ⊆ m.requests ∧
      ∀ id text, (id, .text text) ∈ entries → provider.load id = .text text
  | round _ _ | finished _ _ => True

theorem DiscoveryState.AsLoaded.next {s : DiscoveryState} (h : s.AsLoaded provider) :
    (s.next provider cancelled).AsLoaded provider := by
  have append : ∀ {done : List LoadedModule} {entry : LoadedModule},
      (∀ id text, (id, .text text) ∈ done → provider.load id = .text text) →
      (∀ text, entry.2 = .text text → provider.load entry.1 = .text text) →
      ∀ id text, (id, .text text) ∈ done ++ [entry] → provider.load id = .text text := by
    intro done entry hdone hentry id text hmem
    rcases List.mem_append.mp hmem with hmem | hmem
    · exact hdone id text hmem
    · cases List.mem_singleton.mp hmem
      exact hentry text rfl
  fun_cases DiscoveryState.next provider cancelled s
  case case3 => exact fun _ _ hmem => absurd hmem List.not_mem_nil
  case case4 => exact append h fun _ htext => by cases htext
  case case5 => exact append h fun _ htext => load_of_loaded htext
  case case7 => exact h
  case case9 loads d id source entries record hparse m =>
    exact ⟨⟨h id source List.mem_cons_self, hparse⟩, List.Subset.refl _,
      fun id' text hmem => h id' text (List.mem_cons_of_mem _ hmem)⟩
  case case14 => exact ⟨h.1, List.Subset.trans (List.subset_cons_self _ _) h.2.1, h.2.2⟩
  case case15 => exact h.2.2
  all_goals trivial

variable (provider cancelled) in
theorem asLoaded_iterate (n : Nat) :
    ((DiscoveryState.next provider cancelled)^[n] .start).AsLoaded provider := by
  induction n with
  | zero => trivial
  | succ n ih =>
    rw [Function.iterate_succ_apply']
    exact ih.next

/-- What is followed in a module is a request of its text. -/
theorem Follows.requested {specifier : String} {importer : ModuleId}
    (h : Follows provider cancelled specifier importer) :
    ∃ m : ReadModule, m.id = importer ∧ m.From provider ∧
      ∃ request ∈ m.requests, request.specifier = specifier := by
  obtain ⟨n, loads, d, m, dependencies, request, rest, entries, hn, hid, hspecifier⟩ := h
  have hloaded := asLoaded_iterate provider cancelled n
  rw [hn] at hloaded
  obtain ⟨hfrom, hrest, -⟩ := hloaded
  exact ⟨m, hid, hfrom, request, hrest List.mem_cons_self, hspecifier⟩

end

/-! ## Sites with more files -/

/-- None of the specifiers that are followed on a site gives a path that other files add: as it is, or
from the path of its module if it is relative. -/
def Site.Unused (site : Site) (cancelled : List ModuleId → Bool) (files' : FileSet) : Prop :=
  ∀ specifier importer, Follows site.provider cancelled specifier importer →
    ¬ files'.Adds site.files specifier ∧
      ∀ path, importer = .file path → isRelative specifier = true →
        ¬ files'.Adds site.files (joinPath path specifier)

section
variable {site : Site} {files' : FileSet} {cancelled : List ModuleId → Bool}

/-- A specifier that gives no new path means what it meant. -/
theorem Site.resolve_extends (h : files'.Extends site.files) {specifier : String}
    {importer : ModuleId} (hliteral : ¬ files'.Adds site.files specifier)
    (hrelative : ∀ path, importer = .file path → isRelative specifier = true →
      ¬ files'.Adds site.files (joinPath path specifier)) :
    ({ site with files := files' } : Site).resolve specifier importer =
      site.resolve specifier importer := by
  have hfiles : files'.contains specifier = site.files.contains specifier :=
    h.contains_eq hliteral
  cases importer with
  | remote base => simp only [Site.resolve, hfiles, Site.remoteResolution, Site.remoteModule]
  | file path =>
    have hjoined : (isRelative specifier && files'.contains (joinPath path specifier)) =
        (isRelative specifier && site.files.contains (joinPath path specifier)) := by
      cases hrel : isRelative specifier with
      | false => rfl
      | true => rw [h.contains_eq (hrelative path rfl hrel)]
    simp only [Site.resolve, hfiles, hjoined, Site.remoteResolution, Site.remoteModule]

/-- What can be met is not one of the new files. -/
theorem Site.not_adds_of_finds (h : files'.Extends site.files) {path : String}
    (hfinds : site.provider.Finds (.file path)) : ¬ files'.Adds site.files path := by
  rintro ⟨hnew, hold⟩
  rcases hfinds with hentry | ⟨specifier, importer, hresolve⟩
  · cases hentry
    have hnone : site.files.get? entryPath = none :=
      Option.not_isSome_iff_eq_none.mp (Bool.eq_false_iff.mp hold)
    rw [FileSet.contains, h.entry hnone] at hnew
    cases hnew
  · rw [Site.contains_of_resolve hresolve] at hold
    cases hold

/-- What can be met has the text that it had. -/
theorem Site.loaded_extends (h : files'.Extends site.files) {id : ModuleId}
    (hfinds : site.provider.Finds id) :
    ({ site with files := files' } : Site).provider.loaded id = site.provider.loaded id := by
  have hload : ({ site with files := files' } : Site).load id = site.load id := by
    cases id with
    | remote url => rfl
    | file path => simp only [Site.load, h.get?_eq (not_adds_of_finds h hfinds)]
  have hprovider : ({ site with files := files' } : Site).provider.load id =
      site.provider.load id := hload
  rw [ModuleProvider.loaded, hprovider]
  rfl

/-- A discovery takes the same steps with more files, if none of the specifiers that it follows gives
one of them. -/
theorem Site.iterate_next_extends (h : files'.Extends site.files)
    (hunused : site.Unused cancelled files') (n : Nat) :
    (DiscoveryState.next ({ site with files := files' } : Site).provider cancelled)^[n] .start =
      (DiscoveryState.next site.provider cancelled)^[n] .start := by
  induction n with
  | zero => rfl
  | succ n ih =>
    rw [Function.iterate_succ_apply', Function.iterate_succ_apply', ih]
    apply next_eq_of_agree (inOrder_iterate _ _ n)
    · intro id hid
      exact loaded_extends h (known_found site.provider cancelled n id hid)
    · intro loads d m dependencies request rest entries hs
      have hfollows : Follows site.provider cancelled request.specifier m.id :=
        ⟨n, loads, d, m, dependencies, request, rest, entries, hs, rfl, rfl⟩
      obtain ⟨hliteral, hrelative⟩ := hunused request.specifier m.id hfollows
      exact resolve_extends h hliteral hrelative

/-- **Files that nothing means make no difference.** If files are added to those of a site, not at the
path of the entry, and no specifier that a compilation of the site follows gives one of their paths,
then it compiles to what it compiled to: the same bundle or the same error, after the same loads. -/
theorem compiles_iff_of_unused (site : Site) (files' : FileSet) (cancelled : List ModuleId → Bool)
    (hextends : files'.Extends site.files) (hunused : site.Unused cancelled files')
    (options : CompileOptions) (logged : Logged Bundle) :
    Compiles ({ site with files := files' } : Site).provider options cancelled logged ↔
      Compiles site.provider options cancelled logged := by
  rw [compiles_iff, compiles_iff]
  simp only [Site.iterate_next_extends hextends hunused]

end

/-- The tangled files with one more at nearly the path that a specifier says, which cannot be read. -/
def tangledWithMore : FileSet := tangledSite.files.insert "/outside" "import"

/-- No specifier of the tangled files gives the path of the other one, so that its text is not looked
at. -/
theorem tangledWithMore_compiles :
    tangledWithMore.Extends tangledSite.files ∧
    tangledWithMore.contains "/outside" = true ∧
    tangledSite.Unused (fun _ => false) tangledWithMore ∧
    ∀ logged, Compiles ({ tangledSite with files := tangledWithMore } : Site).provider .default
        (fun _ => false) logged ↔
      Compiles tangledSite.provider .default (fun _ => false) logged := by
  have hextends : tangledWithMore.Extends tangledSite.files :=
    FileSet.extends_insert _ (by decide +kernel) (by decide +kernel)
  have havoid : ∀ entry ∈ tangledSite.files.entries, ∀ record,
      parseModule entry.2 = .ok record →
      ∀ request ∈ (ReadModule.mk (.file entry.1) entry.2 record).requests,
        request.specifier ≠ "/outside" ∧
          (isRelative request.specifier = true → joinPath entry.1 request.specifier ≠ "/outside") := by
    have hall : (tangledSite.files.entries.all fun entry =>
        (parseModule entry.2).toOption.all fun record =>
          (ReadModule.mk (.file entry.1) entry.2 record).requests.all fun request =>
            decide (request.specifier ≠ "/outside" ∧ (isRelative request.specifier = true →
              joinPath entry.1 request.specifier ≠ "/outside"))) = true := by
      decide +kernel
    intro entry hentry record hparse request hrequest
    have hone := List.all_eq_true.mp hall entry hentry
    rw [hparse] at hone
    exact of_decide_eq_true (List.all_eq_true.mp hone request hrequest)
  have hunused : tangledSite.Unused (fun _ => false) tangledWithMore := by
    intro specifier importer hfollows
    obtain ⟨m, rfl, hfrom, request, hrequest, rfl⟩ := hfollows.requested
    obtain ⟨id, source, record⟩ := m
    cases id with
    | remote url => cases hfrom.load
    | file path =>
      have hmem : (path, source) ∈ tangledSite.files.entries := by
        have hload := hfrom.load
        dsimp only [Site.provider, Site.load] at hload
        split at hload
        · rename_i text hget
          cases hload
          exact mem_of_lookup_eq_some hget
        · cases hload
      obtain ⟨hliteral, hjoined⟩ := havoid _ hmem record hfrom.parsed request hrequest
      refine ⟨fun hadds => hliteral hadds.eq_of_insert, ?_⟩
      rintro path' hpath hrelative hadds
      cases hpath
      exact hjoined hrelative hadds.eq_of_insert
  exact ⟨hextends, by decide +kernel, hunused,
    compiles_iff_of_unused tangledSite tangledWithMore _ hextends hunused .default⟩

end ModuleBundler
