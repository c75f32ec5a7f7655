import Mathlib.Data.List.Induction
import ModuleBundler.ModulePath

/-!
# Joining paths

* `IsOrdinary`, `IsNormalPath` : segments that name something, and paths that are made of such;
* `joinSegments_ordinary`, `joinSegments_up` : following segments from a directory enters what
  they name, and two dots for each directory lead out of it;
* `pathSegments_pathOfSegments`, `joinPath_eq` : joining paths as following segments;
* `afterCommon`, `relativePath` : the specifier that leads from one path to another;
* `joinPath_laws` : joining normalises, composes, and leads everywhere.
-/

namespace ModuleBundler

/-! ## Normal paths -/

/-- A segment that names something in a directory. -/
structure IsOrdinary (segment : List Char) : Prop where
  ne_nil : segment ≠ []
  ne_dot : segment ≠ ['.']
  ne_dots : segment ≠ ['.', '.']
  noSlash : '/' ∉ segment

instance (segment : List Char) : Decidable (IsOrdinary segment) :=
  decidable_of_iff (segment ≠ [] ∧ segment ≠ ['.'] ∧ segment ≠ ['.', '.'] ∧ '/' ∉ segment)
    ⟨fun ⟨hnil, hdot, hdots, hslash⟩ => ⟨hnil, hdot, hdots, hslash⟩,
      fun h => ⟨h.ne_nil, h.ne_dot, h.ne_dots, h.noSlash⟩⟩

/-- A path that is a slash and ordinary segments with slashes between them. The root is the slash
alone. -/
def IsNormalPath (path : String) : Prop :=
  ∃ segments : List (List Char), (∀ segment ∈ segments, IsOrdinary segment) ∧
    path = String.ofList (pathOfSegments segments)

/-! ## Following segments -/

theorem joinSegments_append (directory first second : List (List Char)) :
    joinSegments directory (first ++ second) =
      joinSegments (joinSegments directory first) second := List.foldl_append

theorem joinSegment_ordinary {segment : List Char} (h : IsOrdinary segment)
    (directory : List (List Char)) : joinSegment directory segment = directory ++ [segment] := by
  unfold joinSegment
  rw [if_neg (not_or.mpr ⟨h.ne_nil, h.ne_dot⟩), if_neg h.ne_dots]

/-- Ordinary segments are entered one after the other. -/
theorem joinSegments_ordinary {segments : List (List Char)}
    (h : ∀ segment ∈ segments, IsOrdinary segment) (directory : List (List Char)) :
    joinSegments directory segments = directory ++ segments := by
  induction segments generalizing directory with
  | nil => exact (List.append_nil _).symm
  | cons segment rest ih =>
    obtain ⟨hsegment, hrest⟩ := List.forall_mem_cons.mp h
    calc joinSegments directory (segment :: rest)
        = joinSegments (directory ++ [segment]) rest := by
          rw [← joinSegment_ordinary hsegment]
          rfl
      _ = directory ++ [segment] ++ rest := ih hrest _
      _ = directory ++ segment :: rest := by rw [List.append_assoc, List.singleton_append]

/-- Two dots for each of some directories lead out of them. -/
theorem joinSegments_up (directory left : List (List Char)) :
    joinSegments (directory ++ left) (List.replicate left.length ['.', '.']) = directory := by
  induction left using List.reverseRecOn with
  | nil => exact List.append_nil directory
  | append_singleton left last ih =>
    have hup : joinSegment (directory ++ (left ++ [last])) ['.', '.'] = directory ++ left := by
      rw [← List.append_assoc]
      exact List.dropLast_concat
    rw [List.length_append, List.length_singleton, List.replicate_succ]
    calc joinSegments (directory ++ (left ++ [last])) (_ :: List.replicate left.length _)
        = joinSegments (directory ++ left) (List.replicate left.length ['.', '.']) :=
          congrArg (joinSegments · _) hup
      _ = directory := ih

/-- Whatever is followed from a directory, what it leads to is a directory below the root. -/
theorem joinSegments_isOrdinary {directory segments : List (List Char)}
    (hdirectory : ∀ segment ∈ directory, IsOrdinary segment)
    (hsegments : ∀ segment ∈ segments, '/' ∉ segment) :
    ∀ segment ∈ joinSegments directory segments, IsOrdinary segment := by
  induction segments generalizing directory with
  | nil => exact hdirectory
  | cons segment rest ih =>
    obtain ⟨hslash, hrest⟩ := List.forall_mem_cons.mp hsegments
    refine ih ?_ hrest
    unfold joinSegment
    split
    · exact hdirectory
    · rename_i hnamed
      obtain ⟨hnil, hdot⟩ := not_or.mp hnamed
      split
      · exact fun other hother => hdirectory other (List.dropLast_subset _ hother)
      · rename_i hdots
        rw [List.forall_mem_append, List.forall_mem_singleton]
        exact ⟨hdirectory, hnil, hdot, hdots, hslash⟩

/-! ## Segments of texts -/

/-- No piece of a text that is split has the separator in it. -/
theorem not_mem_of_mem_splitOn {separator : Char} {text piece : List Char}
    (h : piece ∈ text.splitOn separator) : separator ∉ piece := by
  induction text generalizing piece with
  | nil =>
    obtain rfl := List.mem_singleton.mp h
    exact List.not_mem_nil
  | cons c rest ih =>
    rw [List.splitOn_cons_eq_if_modifyHead] at h
    split at h
    · rcases List.mem_cons.mp h with rfl | h
      · exact List.not_mem_nil
      · exact ih h
    · rename_i hc
      obtain ⟨first, others, hsplit⟩ :=
        List.exists_cons_of_ne_nil (List.splitOn_ne_nil separator rest)
      rw [hsplit] at h
      rcases List.mem_cons.mp h with rfl | h
      · have hfirst := ih (hsplit ▸ List.mem_cons_self)
        rw [List.mem_cons, not_or]
        exact ⟨fun heq => hc (beq_iff_eq.mpr heq.symm), hfirst⟩
      · exact ih (hsplit ▸ List.mem_cons_of_mem _ h)

/-- The segments of a path are those that it is made of. -/
theorem pathSegments_pathOfSegments {segments : List (List Char)}
    (h : ∀ segment ∈ segments, IsOrdinary segment) :
    pathSegments (pathOfSegments segments) = segments := by
  have hkept : segments.filter (fun segment => !segment.isEmpty) = segments := by
    refine List.filter_eq_self.mpr fun segment hsegment => ?_
    rw [List.isEmpty_eq_false_iff.mpr (h segment hsegment).ne_nil]
    rfl
  unfold pathSegments pathOfSegments
  cases segments with
  | nil => rfl
  | cons first rest =>
    have hsplit := List.splitOn_intercalate '/' (fun s hs => (h s hs).noSlash)
      (List.cons_ne_nil first rest)
    rw [List.splitOn_cons_eq_if_modifyHead, if_pos (by decide), hsplit]
    exact hkept

/-- Joining paths is following segments. -/
theorem joinPath_eq {segments : List (List Char)} (h : ∀ segment ∈ segments, IsOrdinary segment)
    (specifier : String) :
    joinPath (String.ofList (pathOfSegments segments)) specifier = String.ofList
      (pathOfSegments (joinSegments segments.dropLast (specifier.toList.splitOn '/'))) := by
  unfold joinPath
  dsimp only
  rw [String.toList_ofList, pathSegments_pathOfSegments h]

/-! ## The way from one path to another -/

/-- What is left of two lists without the longest beginning that they share. -/
def afterCommon : List (List Char) → List (List Char) → List (List Char) × List (List Char)
  | a :: as, b :: bs => if a = b then afterCommon as bs else (a :: as, b :: bs)
  | as, bs => (as, bs)

/-- Two dots for each of some directories, or one dot if there is none. -/
def upwards (left : List (List Char)) : List (List Char) :=
  if left.isEmpty then [['.']] else List.replicate left.length ['.', '.']

/-- The specifier that leads from the module at a path to another path: two dots for each directory
around the module that is not around the other path as well, or one dot if there is none, and then
what is left of the other path. -/
def relativePath (importer path : String) : String :=
  let (left, entered) := afterCommon (pathSegments importer.toList).dropLast
    (pathSegments path.toList)
  String.ofList (['/'].intercalate (upwards left ++ entered))

theorem exists_common (as bs : List (List Char)) : ∃ common,
    as = common ++ (afterCommon as bs).1 ∧ bs = common ++ (afterCommon as bs).2 := by
  induction as, bs using afterCommon.induct with
  | case1 as b bs ih =>
    obtain ⟨common, has, hbs⟩ := ih
    rw [afterCommon, if_pos rfl]
    exact ⟨b :: common, congrArg (b :: ·) has, congrArg (b :: ·) hbs⟩
  | case2 a as b bs hne =>
    rw [afterCommon, if_neg hne]
    exact ⟨[], rfl, rfl⟩
  | case3 as bs hnone =>
    rw [afterCommon]
    · exact ⟨[], rfl, rfl⟩
    · exact hnone

theorem upwards_ne_nil (left : List (List Char)) : upwards left ≠ [] := by
  unfold upwards
  split
  · exact List.cons_ne_nil _ _
  · rename_i hleft
    rw [ne_eq, List.replicate_eq_nil_iff, List.length_eq_zero_iff]
    exact fun hnil => hleft (List.isEmpty_iff.mpr hnil)

theorem noSlash_upwards {left : List (List Char)} {segment : List Char}
    (h : segment ∈ upwards left) : '/' ∉ segment := by
  unfold upwards at h
  split at h
  · obtain rfl := List.mem_singleton.mp h
    decide
  · obtain rfl := List.eq_of_mem_replicate h
    decide

/-- Going up and then down again leads from a directory to whatever is below one around it. -/
theorem joinSegments_upwards {common left entered : List (List Char)}
    (hentered : ∀ segment ∈ entered, IsOrdinary segment) :
    joinSegments (common ++ left) (upwards left ++ entered) = common ++ entered := by
  have hup : joinSegments (common ++ left) (upwards left) = common := by
    unfold upwards
    split
    · rename_i hleft
      rw [List.isEmpty_iff.mp hleft]
      exact List.append_nil common
    · exact joinSegments_up common left
  rw [joinSegments_append, hup, joinSegments_ordinary hentered]

/-! ## The laws of joining -/

/-- **Joining paths normalises, composes, and leads everywhere.** From the module at a normal path
every specifier leads to a normal path, which is never above the root. A way that goes on from an
ordinary segment is that of both specifiers in a row. And from every module a specifier leads to
every normal path. -/
theorem joinPath_laws {importer : String} (h : IsNormalPath importer) :
    (∀ specifier, IsNormalPath (joinPath importer specifier)) ∧
      (∀ first second name : String, IsOrdinary name.toList →
        joinPath (joinPath importer (first ++ "/" ++ name)) ("./" ++ second) =
          joinPath importer (first ++ "/" ++ second)) ∧
      ∀ path, IsNormalPath path → joinPath importer (relativePath importer path) = path := by
  obtain ⟨segments, hsegments, rfl⟩ := h
  have hdirectory : ∀ segment ∈ segments.dropLast, IsOrdinary segment :=
    fun segment hsegment => hsegments segment (List.dropLast_subset _ hsegment)
  refine ⟨fun specifier => ?_, fun first second name hname => ?_, ?_⟩
  · rw [joinPath_eq hsegments]
    exact ⟨_, joinSegments_isOrdinary hdirectory fun _ => not_mem_of_mem_splitOn, rfl⟩
  · have hsplit : ∀ last : String, (first ++ "/" ++ last).toList.splitOn '/' =
        first.toList.splitOn '/' ++ last.toList.splitOn '/' := by
      intro last
      rw [String.toList_append, String.toList_append, List.append_assoc]
      exact List.splitOn_append_cons_self _ _
    have hsecond : ("./" ++ second).toList.splitOn '/' = ['.'] :: second.toList.splitOn '/' := by
      rw [String.toList_append]
      exact List.splitOn_append_cons_self ['.'] _
    have hslash : ∀ segment ∈ first.toList.splitOn '/', '/' ∉ segment :=
      fun _ => not_mem_of_mem_splitOn
    have hbase := joinSegments_isOrdinary hdirectory hslash
    have hentered : ∀ segment ∈ joinSegments segments.dropLast (first.toList.splitOn '/') ++
        [name.toList], IsOrdinary segment := by
      rw [List.forall_mem_append, List.forall_mem_singleton]
      exact ⟨hbase, hname⟩
    rw [joinPath_eq hsegments, joinPath_eq hsegments, hsplit, hsplit,
      List.splitOn_eq_singleton hname.noSlash, joinSegments_append, joinSegments_append,
      joinSegments_ordinary (List.forall_mem_singleton.mpr hname), joinPath_eq hentered,
      List.dropLast_concat, hsecond]
    rfl
  · rintro _ ⟨entered, hentered, rfl⟩
    obtain ⟨common, hleft, hrest⟩ := exists_common segments.dropLast entered
    unfold relativePath
    rw [joinPath_eq hsegments, String.toList_ofList, String.toList_ofList, String.toList_ofList,
      pathSegments_pathOfSegments hsegments, pathSegments_pathOfSegments hentered]
    generalize afterCommon segments.dropLast entered = way at hleft hrest ⊢
    obtain ⟨left, below⟩ := way
    dsimp only at hleft hrest ⊢
    have hbelow : ∀ segment ∈ below, IsOrdinary segment :=
      fun segment hsegment => hentered segment (hrest ▸ List.mem_append_right _ hsegment)
    have hnoSlash : ∀ segment ∈ upwards left ++ below, '/' ∉ segment :=
      List.forall_mem_append.mpr
        ⟨fun _ => noSlash_upwards, fun segment hsegment => (hbelow segment hsegment).noSlash⟩
    rw [List.splitOn_intercalate '/' hnoSlash
      (List.append_ne_nil_of_left_ne_nil (upwards_ne_nil left) _), hleft, hrest,
      joinSegments_upwards hbelow]

/-- From a module in two directories: a specifier that goes up further than there are directories,
one that is followed in two parts, and one to a module in another directory. -/
theorem joinPath_laws_nested : IsNormalPath "/lib/deep/a.js" ∧
    joinPath "/lib/deep/a.js" "./x//.././../../../y.js" = "/y.js" ∧ IsNormalPath "/y.js" ∧
    IsOrdinary "x".toList ∧
    joinPath (joinPath "/lib/deep/a.js" ("../b/../c" ++ "/" ++ "x")) ("./" ++ "../y.js") =
      joinPath "/lib/deep/a.js" ("../b/../c" ++ "/" ++ "../y.js") ∧
    relativePath "/lib/deep/a.js" "/lib/b/c.js" = "../b/c.js" ∧ IsNormalPath "/lib/b/c.js" ∧
    joinPath "/lib/deep/a.js" "../b/c.js" = "/lib/b/c.js" := by
  have himporter : IsNormalPath "/lib/deep/a.js" :=
    ⟨["lib".toList, "deep".toList, "a.js".toList], by decide +kernel, by decide +kernel⟩
  have hpath : IsNormalPath "/lib/b/c.js" :=
    ⟨["lib".toList, "b".toList, "c.js".toList], by decide +kernel, by decide +kernel⟩
  have hup : joinPath "/lib/deep/a.js" "./x//.././../../../y.js" = "/y.js" := by decide +kernel
  have hname : IsOrdinary "x".toList := by decide +kernel
  have hrelative : relativePath "/lib/deep/a.js" "/lib/b/c.js" = "../b/c.js" := by decide +kernel
  obtain ⟨hnormal, hcomposes, hback⟩ := joinPath_laws himporter
  exact ⟨himporter, hup, hup ▸ hnormal _, hname, hcomposes "../b/../c" "../y.js" "x" hname,
    hrelative, hpath, hrelative ▸ hback _ hpath⟩

end ModuleBundler
