import Mathlib.Data.List.Induction
import ModuleBundler.FileTree.Basic
import ModuleBundler.Proofs.Naming

/-!
# Loading the files of a directory

* `FileTree.Shows` : a file with a text stands at a path, and nothing on the way to it is hidden;
* `FileTree.IsProper` : the names in each directory are such as a directory has;
* `FileTree.Reordered` : the same tree with the entries of directories in another order;
* `FileTree.mem_filesAt` : the texts that are found in a tree are those it shows;
* `FileTree.files_correspond_iff` : each file has its text at its own path in the files of a project,
  in whichever order directories are walked, if and only if there is no backslash in a name.
-/

namespace ModuleBundler

/-- A text for a path is the last one that is given for it. -/
theorem FileSet.get?_ofList (entries : List (String × String)) (path : String) :
    (ofList entries).get? path = entries.reverse.lookup path := by
  induction entries using List.reverseRecOn with
  | nil => rfl
  | append_singleton entries entry ih =>
    have hlast : ofList (entries ++ [entry]) = (ofList entries).insert entry.1 entry.2 :=
      List.foldl_append
    rw [hlast, get?_insert, ih, List.reverse_append]
    exact (lookup_cons_eq_ite entry entries.reverse path).symm

theorem FileSet.mem_of_get?_ofList {entries : List (String × String)} {path text : String}
    (h : (ofList entries).get? path = some text) : (path, text) ∈ entries := by
  rw [get?_ofList] at h
  exact List.mem_reverse.mp (mem_of_lookup_eq_some h)

theorem FileSet.get?_ofList_isSome {entries : List (String × String)} {entry : String × String}
    (h : entry ∈ entries) : ∃ text, (ofList entries).get? entry.1 = some text := by
  rw [get?_ofList, ← Option.isSome_iff_exists, List.lookup_isSome_iff]
  exact ⟨entry, List.mem_reverse.mpr h, beq_self_eq_true _⟩

namespace FileTree

/-! ## What a tree shows -/

/-- A file with a text stands at a path in a tree, whose names are texts that do not begin with
dots. -/
inductive Shows : FileTree → List String → String → Prop where
  | file {content : ByteArray} {text : String} (content_eq : String.fromUTF8? content = some text) :
    Shows (file content) [] text
  | entry {entries : List (ByteArray × FileTree)} {name : ByteArray} {tree : FileTree}
    {segment : String} {path : List String} {text : String} (mem : (name, tree) ∈ entries)
    (visible : isHiddenName name = false) (name_eq : String.fromUTF8? name = some segment)
    (inner : Shows tree path text) : Shows (directory entries) (segment :: path) text

/-- The names in each directory are distinct, and there are no slashes in them. -/
inductive IsProper : FileTree → Prop where
  | file (content : ByteArray) : IsProper (file content)
  | directory {entries : List (ByteArray × FileTree)} (distinct : (entries.map Prod.fst).Nodup)
    (noSlash : ∀ entry ∈ entries, 0x2f ∉ entry.1.data)
    (inner : ∀ entry ∈ entries, IsProper entry.2) : IsProper (directory entries)
  | other : IsProper other

/-- The trees differ in the order of the entries in directories. -/
inductive Reordered : FileTree → FileTree → Prop where
  | refl (tree : FileTree) : Reordered tree tree
  | trans {tree tree' tree'' : FileTree} (first : Reordered tree tree')
    (next : Reordered tree' tree'') : Reordered tree tree''
  | entries {entries entries' : List (ByteArray × FileTree)} (perm : entries.Perm entries') :
    Reordered (directory entries) (directory entries')
  | inside {before after : List (ByteArray × FileTree)} {name : ByteArray} {tree tree' : FileTree}
    (inner : Reordered tree tree') :
    Reordered (directory (before ++ (name, tree) :: after))
      (directory (before ++ (name, tree') :: after))

theorem shows_file {content : ByteArray} {path : List String} {text : String} :
    (file content).Shows path text ↔ path = [] ∧ String.fromUTF8? content = some text := by
  refine ⟨fun h => ?_, fun ⟨hpath, hcontent⟩ => hpath ▸ .file hcontent⟩
  cases h with
  | file hcontent => exact ⟨rfl, hcontent⟩

theorem not_shows_other {path : List String} {text : String} : ¬ other.Shows path text :=
  fun h => nomatch h

theorem not_shows_empty {path : List String} {text : String} : ¬ (directory []).Shows path text := by
  intro h
  cases h with
  | entry hmem => exact List.not_mem_nil hmem

/-- With more entries, a directory shows more. -/
theorem Shows.mono {entries entries' : List (ByteArray × FileTree)} {path : List String}
    {text : String} (h : (directory entries).Shows path text) (hentries : entries ⊆ entries') :
    (directory entries').Shows path text := by
  cases h with
  | entry hmem hvisible hname hinner => exact .entry (hentries hmem) hvisible hname hinner

/-- A directory shows what its entries show. -/
theorem shows_cons {name : ByteArray} {tree : FileTree} {rest : List (ByteArray × FileTree)}
    {path : List String} {text : String} :
    (directory ((name, tree) :: rest)).Shows path text ↔
      (isHiddenName name = false ∧ ∃ segment more, String.fromUTF8? name = some segment ∧
        tree.Shows more text ∧ path = segment :: more) ∨ (directory rest).Shows path text := by
  constructor
  · intro h
    cases h with
    | entry hmem hvisible hname hinner =>
      rcases List.mem_cons.mp hmem with heq | hmem
      · obtain ⟨rfl, rfl⟩ := Prod.mk.inj heq
        exact .inl ⟨hvisible, _, _, hname, hinner, rfl⟩
      · exact .inr (.entry hmem hvisible hname hinner)
  · rintro (⟨hvisible, segment, more, hname, hinner, rfl⟩ | hrest)
    · exact .entry List.mem_cons_self hvisible hname hinner
    · exact hrest.mono (List.subset_cons_self _ _)

mutual

/-- The texts that are found in a tree are those it shows. -/
theorem mem_filesAt (key text : String) (path : List String) : ∀ tree : FileTree,
    (key, text) ∈ tree.filesAt path ↔ ∃ more, tree.Shows more text ∧ key = projectPath (path ++ more)
  | file content => by
    rw [filesAt]
    cases hcontent : String.fromUTF8? content with
    | some own => simp [shows_file, hcontent, and_comm, eq_comm]
    | none => simp [shows_file, hcontent]
  | directory entries => by rw [filesAt, mem_entryFiles key text path entries]
  | other => by simp [filesAt, not_shows_other]

theorem mem_entryFiles (key text : String) (path : List String) :
    ∀ entries : List (ByteArray × FileTree), (key, text) ∈ entryFiles path entries ↔
      ∃ more, (directory entries).Shows more text ∧ key = projectPath (path ++ more)
  | [] => by simp [entryFiles, not_shows_empty]
  | (name, tree) :: rest => by
    have ih := fun segment => mem_filesAt key text (path ++ [segment]) tree
    have ihrest := mem_entryFiles key text path rest
    rw [entryFiles, List.mem_append, ihrest]
    simp only [shows_cons, or_and_right, exists_or]
    refine or_congr_left ?_
    cases hhidden : isHiddenName name with
    | true => simp
    | false =>
      cases hname : String.fromUTF8? name with
      | none => simp
      | some segment => simp [ih]

end

/-- The files of a project come from what the tree shows. -/
theorem exists_shows_of_get? {tree : FileTree} {key text : String}
    (h : tree.files.get? key = some text) : ∃ path, tree.Shows path text ∧ key = projectPath path :=
  (mem_filesAt key text [] tree).mp (FileSet.mem_of_get?_ofList h)

theorem exists_get?_of_shows {tree : FileTree} {path : List String} {text : String}
    (h : tree.Shows path text) : ∃ text', tree.files.get? (projectPath path) = some text' :=
  FileSet.get?_ofList_isSome ((mem_filesAt _ _ [] tree).mpr ⟨path, h, rfl⟩)

/-! ## Orders -/

/-- A tree shows the same in every order. -/
theorem Reordered.shows_iff {tree tree' : FileTree} (h : tree.Reordered tree') {path : List String}
    {text : String} : tree'.Shows path text ↔ tree.Shows path text := by
  induction h generalizing path with
  | refl => exact Iff.rfl
  | trans _ _ ih ih' => exact ih'.trans ih
  | entries perm => exact ⟨fun h => h.mono perm.symm.subset, fun h => h.mono perm.subset⟩
  | @inside before after name tree tree' _ ih =>
    induction before with
    | nil => simp only [List.nil_append, shows_cons, ih]
    | cons entry before ihbefore =>
      obtain ⟨name', inner⟩ := entry
      simp only [List.cons_append, shows_cons, ihbefore]

/-! ## Proper trees -/

theorem toByteArray_of_fromUTF8? {name : ByteArray} {segment : String}
    (h : String.fromUTF8? name = some segment) : segment.toByteArray = name := by
  rw [String.fromUTF8?] at h
  split at h
  · exact congrArg String.toByteArray (Option.some.inj h).symm
  · cases h

/-- A name whose bytes have no slash among them has none in its text. -/
theorem noSlash_of_fromUTF8? {name : ByteArray} {segment : String} (h : 0x2f ∉ name.data)
    (hname : String.fromUTF8? name = some segment) : '/' ∉ segment.toList := by
  intro hslash
  refine h ?_
  rw [← toByteArray_of_fromUTF8? hname, ← String.utf8Encode_toList, List.utf8Encode,
    List.data_toByteArray, List.mem_toArray]
  exact List.mem_flatMap.mpr ⟨'/', hslash, by decide⟩

/-- There is one text at a path at most. -/
theorem Shows.text_eq {tree : FileTree} {path : List String} {text text' : String}
    (h : tree.Shows path text) (h' : tree.Shows path text') (hproper : tree.IsProper) :
    text = text' := by
  induction h with
  | file hcontent =>
    cases h' with
    | file hcontent' => exact Option.some.inj (hcontent.symm.trans hcontent')
  | entry hmem hvisible hname _ ih =>
    cases h' with
    | entry hmem' hvisible' hname' hinner' =>
      cases hproper with
      | directory hdistinct hslash hinner =>
        have hsame := List.inj_on_of_nodup_map hdistinct hmem hmem'
          ((toByteArray_of_fromUTF8? hname).symm.trans (toByteArray_of_fromUTF8? hname'))
        obtain ⟨-, rfl⟩ := Prod.mk.inj hsame
        exact ih hinner' (hinner _ hmem)

theorem Shows.noSlash {tree : FileTree} {path : List String} {text : String}
    (h : tree.Shows path text) (hproper : tree.IsProper) : ∀ segment ∈ path, '/' ∉ segment.toList := by
  induction h with
  | file => exact fun _ hmem => nomatch hmem
  | entry hmem hvisible hname _ ih =>
    cases hproper with
    | directory hdistinct hslash hinner =>
      exact List.forall_mem_cons.mpr
        ⟨noSlash_of_fromUTF8? (hslash _ hmem) hname, ih (hinner _ hmem)⟩

/-! ## Paths -/

/-- The path of a file in a directory, as it is. -/
def ownPath (path : List String) : String := "/" ++ "/".intercalate path

/-- What there is in a joined path other than slashes is in one of its segments. -/
theorem mem_intercalate_slash {c : Char} (hc : c ≠ '/') (segments : List (List Char)) :
    c ∈ ['/'].intercalate segments ↔ ∃ segment ∈ segments, c ∈ segment := by
  induction segments with
  | nil => simp
  | cons segment rest ih =>
    cases rest with
    | nil => simp
    | cons next rest =>
      rw [List.intercalate_cons_cons, List.mem_append, List.mem_append, ih, List.mem_singleton]
      simp [hc]

theorem backslash_mem_ownPath {path : List String} :
    '\\' ∈ (ownPath path).toList ↔ ∃ segment ∈ path, '\\' ∈ segment.toList := by
  have hslash : ("/" : String).toList = ['/'] := rfl
  rw [ownPath, String.toList_append, String.toList_intercalate, hslash, List.mem_append,
    mem_intercalate_slash (by decide)]
  simp

/-- A path of a project has no backslash. -/
theorem noBackslash_projectPath (path : List String) : '\\' ∉ (projectPath path).toList := by
  rw [projectPath, String.toList_map, List.mem_map]
  rintro ⟨c, -, hc⟩
  split at hc <;> [cases hc; contradiction]

theorem projectPath_eq_ownPath {path : List String}
    (h : ∀ segment ∈ path, '\\' ∉ segment.toList) : projectPath path = ownPath path := by
  have hbackslash : '\\' ∉ (ownPath path).toList := fun hmem => by
    obtain ⟨segment, hsegment, hmem⟩ := backslash_mem_ownPath.mp hmem
    exact h segment hsegment hmem
  refine String.toList_inj.mp ?_
  rw [projectPath, ← ownPath, String.toList_map]
  refine (List.map_congr_left fun c hc => ?_).trans (List.map_id _)
  exact if_neg fun heq : c = '\\' => hbackslash (heq ▸ hc)

/-- Names without slashes are known from the path that they are joined to. -/
theorem ownPath_injective {path path' : List String} (h : ownPath path = ownPath path')
    (hne : path ≠ []) (hne' : path' ≠ []) (hslash : ∀ segment ∈ path, '/' ∉ segment.toList)
    (hslash' : ∀ segment ∈ path', '/' ∉ segment.toList) : path = path' := by
  have hsplit : ∀ {path : List String}, path ≠ [] → (∀ segment ∈ path, '/' ∉ segment.toList) →
      ("/".intercalate path).toList.splitOn '/' = path.map String.toList := by
    intro path hne hslash
    rw [String.toList_intercalate]
    refine List.splitOn_intercalate '/' (fun piece hpiece => ?_) (mt List.map_eq_nil_iff.mp hne)
    obtain ⟨segment, hsegment, rfl⟩ := List.mem_map.mp hpiece
    exact hslash segment hsegment
  have hjoined : "/".intercalate path = "/".intercalate path' := (String.append_right_inj _).mp h
  refine List.map_injective_iff.mpr (fun _ _ => String.toList_inj.mp) ?_
  rw [← hsplit hne hslash, ← hsplit hne' hslash', hjoined]

/-! ## Files at their own paths -/

/-- Each file that the tree shows has its text at its own path, which no other one has, and there is
nothing else. -/
structure Corresponds (tree : FileTree) (files : FileSet) : Prop where
  exact : ∀ key text, files.get? key = some text ↔ ∃ path, tree.Shows path text ∧ key = ownPath path
  distinct : ∀ path path' text text', tree.Shows path text → tree.Shows path' text' →
    ownPath path = ownPath path' → path = path'

theorem Shows.path_ne_nil {entries : List (ByteArray × FileTree)} {path : List String}
    {text : String} (h : (directory entries).Shows path text) : path ≠ [] := by
  cases h with
  | entry => exact List.cons_ne_nil _ _

/-- **The files of a directory are loaded at their own paths unless there are backslashes in them.**
In whichever order a directory is walked, there is a text at a path of the project if and only if the
directory shows a file there, with backslashes as slashes, and the text is that of such a file. Each
file has its own text at its own path, and there is nothing else, exactly if no name on the way to a
file has a backslash. -/
theorem files_correspond_iff {entries : List (ByteArray × FileTree)} {walked : FileTree}
    (hproper : (directory entries).IsProper) (horder : (directory entries).Reordered walked) :
    (∀ key text, walked.files.get? key = some text →
      ∃ path, (directory entries).Shows path text ∧ key = projectPath path) ∧
    (∀ path text, (directory entries).Shows path text →
      ∃ text', walked.files.get? (projectPath path) = some text') ∧
    ((directory entries).Corresponds walked.files ↔
      ∀ path text, (directory entries).Shows path text →
        ∀ segment ∈ path, '\\' ∉ segment.toList) := by
  have hsound : ∀ key text, walked.files.get? key = some text →
      ∃ path, (directory entries).Shows path text ∧ key = projectPath path := by
    intro key text hget
    obtain ⟨path, hshows, hkey⟩ := exists_shows_of_get? hget
    exact ⟨path, horder.shows_iff.mp hshows, hkey⟩
  have hcomplete : ∀ path text, (directory entries).Shows path text →
      ∃ text', walked.files.get? (projectPath path) = some text' :=
    fun path text hshows => exists_get?_of_shows (horder.shows_iff.mpr hshows)
  have hdistinct : ∀ path path' text text', (directory entries).Shows path text →
      (directory entries).Shows path' text' → ownPath path = ownPath path' → path = path' :=
    fun path path' text text' h h' heq => ownPath_injective heq h.path_ne_nil h'.path_ne_nil
      (h.noSlash hproper) (h'.noSlash hproper)
  refine ⟨hsound, hcomplete, fun hown path text hshows segment hsegment hbackslash => ?_,
    fun hplain => ⟨fun key text => ⟨fun hget => ?_, ?_⟩, hdistinct⟩⟩
  · -- A path with a backslash in it is not that of a file in a project.
    obtain ⟨path', -, hkey⟩ := hsound _ _ ((hown.exact _ _).mpr ⟨path, hshows, rfl⟩)
    refine noBackslash_projectPath path' ?_
    rw [← hkey]
    exact backslash_mem_ownPath.mpr ⟨segment, hsegment, hbackslash⟩
  · obtain ⟨path, hshows, hkey⟩ := hsound key text hget
    exact ⟨path, hshows, hkey.trans (projectPath_eq_ownPath (hplain path text hshows))⟩
  · rintro ⟨path, hshows, rfl⟩
    rw [← projectPath_eq_ownPath (hplain path text hshows)]
    obtain ⟨text', hget⟩ := hcomplete path text hshows
    obtain ⟨path', hshows', hkey⟩ := hsound _ _ hget
    rw [projectPath_eq_ownPath (hplain path text hshows),
      projectPath_eq_ownPath (hplain path' text' hshows')] at hkey
    obtain rfl := hdistinct path path' text text' hshows hshows' hkey
    rw [hget, hshows.text_eq hshows' hproper]

/-! ## Two directories -/

/-- Two files in a directory, with a hidden one and one that is no text. -/
def smallDirectory : List (ByteArray × FileTree) :=
  [(".git".toUTF8, .file "0".toUTF8), ("a".toUTF8, .directory [("b.js".toUTF8, .file "1".toUTF8)]),
    ("image".toUTF8, .file ⟨#[0xff]⟩), ("c.js".toUTF8, .file "2".toUTF8)]

/-- A file whose name is the path of another one, but for a backslash. -/
def sharedPath : List (ByteArray × FileTree) :=
  [("a".toUTF8, .directory [("b.js".toUTF8, .file "1".toUTF8)]), ("a\\b.js".toUTF8, .file "2".toUTF8)]

theorem isProper_inner : (directory [("b.js".toUTF8, .file "1".toUTF8)]).IsProper := by
  refine .directory (by decide +kernel) (by decide +kernel) fun entry hentry => ?_
  obtain rfl := List.mem_singleton.mp hentry
  exact .file _

theorem isProper_smallDirectory : (directory smallDirectory).IsProper := by
  refine .directory (by decide +kernel) (by decide +kernel) ?_
  simp only [smallDirectory, List.forall_mem_cons]
  exact ⟨.file _, isProper_inner, .file _, .file _, fun _ hentry => nomatch hentry⟩

theorem isProper_sharedPath : (directory sharedPath).IsProper := by
  refine .directory (by decide +kernel) (by decide +kernel) ?_
  simp only [sharedPath, List.forall_mem_cons]
  exact ⟨isProper_inner, .file _, fun _ hentry => nomatch hentry⟩

theorem fromUTF8?_toByteArray (text : String) : String.fromUTF8? text.toByteArray = some text :=
  dif_pos text.isValidUTF8

theorem shows_smallDirectory {path : List String} {text : String} :
    (directory smallDirectory).Shows path text ↔
      path = ["a", "b.js"] ∧ text = "1" ∨ path = ["c.js"] ∧ text = "2" := by
  have hhidden : isHiddenName ".git".toByteArray = true ∧ isHiddenName "a".toByteArray = false ∧
      isHiddenName "b.js".toByteArray = false ∧ isHiddenName "image".toByteArray = false ∧
      isHiddenName "c.js".toByteArray = false := by decide +kernel
  have himage : String.fromUTF8? ⟨#[0xff]⟩ = none := by decide +kernel
  simp [smallDirectory, shows_cons, not_shows_empty, shows_file, fromUTF8?_toByteArray, hhidden,
    himage, and_comm, eq_comm]

theorem shows_sharedPath {path : List String} {text : String} :
    (directory sharedPath).Shows path text ↔
      path = ["a", "b.js"] ∧ text = "1" ∨ path = ["a\\b.js"] ∧ text = "2" := by
  have hhidden : isHiddenName "a".toByteArray = false ∧ isHiddenName "b.js".toByteArray = false ∧
      isHiddenName "a\\b.js".toByteArray = false := by decide +kernel
  simp [sharedPath, shows_cons, not_shows_empty, shows_file, fromUTF8?_toByteArray, hhidden,
    and_comm, eq_comm]

/-- Walked from the end, the directory gives each of its files at its own path. -/
theorem smallDirectory_corresponds :
    (directory smallDirectory).IsProper ∧
      (directory smallDirectory).Reordered (directory smallDirectory.reverse) ∧
      (directory smallDirectory).Corresponds (directory smallDirectory.reverse).files := by
  have horder := Reordered.entries (List.reverse_perm smallDirectory).symm
  refine ⟨isProper_smallDirectory, horder,
    (files_correspond_iff isProper_smallDirectory horder).2.2.mpr fun path text hshows => ?_⟩
  rcases shows_smallDirectory.mp hshows with ⟨rfl, -⟩ | ⟨rfl, -⟩ <;> decide +kernel

/-- One of two files is lost, and which one is up to the order. -/
theorem sharedPath_file_lost :
    (directory sharedPath).IsProper ∧ (directory sharedPath).Shows ["a", "b.js"] "1" ∧
      (directory sharedPath).Shows ["a\\b.js"] "2" ∧
      (directory sharedPath).files.get? "/a/b.js" = some "2" ∧
      (directory sharedPath.reverse).files.get? "/a/b.js" = some "1" ∧
      (directory sharedPath).files.get? "/a\\b.js" = none ∧
      ¬ (directory sharedPath).Corresponds (directory sharedPath).files := by
  have hshared : (directory sharedPath).Shows ["a\\b.js"] "2" :=
    shows_sharedPath.mpr (.inr ⟨rfl, rfl⟩)
  have hnone : (directory sharedPath).files.get? "/a\\b.js" = none := by
    rw [files, FileSet.get?_ofList]
    decide +kernel
  refine ⟨isProper_sharedPath, shows_sharedPath.mpr (.inl ⟨rfl, rfl⟩), hshared, ?_, ?_, hnone,
    fun hall => ?_⟩
  · rw [files, FileSet.get?_ofList]
    decide +kernel
  · rw [files, FileSet.get?_ofList]
    decide +kernel
  · have hown : ownPath ["a\\b.js"] = "/a\\b.js" := by decide +kernel
    have hget := (hall.exact _ _).mpr ⟨_, hshared, hown.symm⟩
    rw [hnone] at hget
    cases hget

end FileTree
end ModuleBundler
