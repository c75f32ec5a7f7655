import ModuleBundler.Json.Value
import ModuleBundler.ModuleId

/-!
# File sets

* `FileSet` : the files of a project, in order of their paths;
* `FileSet.insert`, `FileSet.get?`, `FileSet.ofList` : a later text for a path replaces an earlier
  one.
-/

namespace ModuleBundler

/-- Puts a text at its place in the order of paths, instead of another one with the same path. -/
def insertFile (path text : String) : List (String × String) → List (String × String)
  | [] => [(path, text)]
  | (p, t) :: rest =>
    if path < p then (path, text) :: (p, t) :: rest
    else if path = p then (path, text) :: rest
    else (p, t) :: insertFile path text rest

theorem mem_of_mem_insertFile {path text : String} {entries : List (String × String)}
    {e : String × String} (h : e ∈ insertFile path text entries) :
    e.1 = path ∨ e ∈ entries := by
  induction entries with
  | nil => simp only [insertFile, List.mem_singleton] at h; simp [h]
  | cons entry rest ih =>
    rw [insertFile] at h
    split at h
    · rcases List.mem_cons.1 h with rfl | h
      · exact .inl rfl
      · exact .inr h
    · split at h
      · rcases List.mem_cons.1 h with rfl | h
        · exact .inl rfl
        · exact .inr (List.mem_cons_of_mem _ h)
      · rcases List.mem_cons.1 h with rfl | h
        · exact .inr List.mem_cons_self
        · exact (ih h).imp_right (List.mem_cons_of_mem _)

theorem lt_of_not_lt_of_ne {a b : String} (h : ¬ a < b) (hne : a ≠ b) : b < a :=
  Classical.byContradiction fun hn =>
    hne (String.le_antisymm (String.not_lt.1 hn) (String.not_lt.1 h))

theorem pairwise_insertFile (path text : String) {entries : List (String × String)}
    (h : entries.Pairwise fun a b => a.1 < b.1) :
    (insertFile path text entries).Pairwise fun a b => a.1 < b.1 := by
  induction entries with
  | nil => simp [insertFile]
  | cons entry rest ih =>
    obtain ⟨p, t⟩ := entry
    have hp := List.pairwise_cons.1 h
    rw [insertFile]
    split
    · next hlt =>
      refine List.pairwise_cons.2 ⟨fun e he => ?_, h⟩
      rcases List.mem_cons.1 he with rfl | he
      · exact hlt
      · exact String.lt_trans hlt (hp.1 e he)
    · next hnlt =>
      split
      · next heq => subst heq; exact List.pairwise_cons.2 ⟨hp.1, hp.2⟩
      · next hne =>
        refine List.pairwise_cons.2 ⟨fun e he => ?_, ih hp.2⟩
        rcases mem_of_mem_insertFile he with he | he
        · rw [he]; exact lt_of_not_lt_of_ne hnlt hne
        · exact hp.1 e he

theorem lookup_cons_eq_ite (entry : String × String) (rest : List (String × String))
    (path : String) :
    (entry :: rest).lookup path = if path = entry.1 then some entry.2 else rest.lookup path := by
  rw [List.lookup_cons]
  split
  · next heq => rw [if_pos (beq_iff_eq.1 heq)]
  · next hne => rw [if_neg (beq_eq_false_iff_ne.1 hne)]

theorem lookup_insertFile (path text other : String) (entries : List (String × String)) :
    (insertFile path text entries).lookup other =
      if other = path then some text else entries.lookup other := by
  induction entries with
  | nil => rw [insertFile, lookup_cons_eq_ite]
  | cons entry rest ih =>
    rw [insertFile, lookup_cons_eq_ite entry]
    split
    · rw [lookup_cons_eq_ite, lookup_cons_eq_ite entry]
    · split
      · next heq =>
        rw [lookup_cons_eq_ite, ← heq]
        split <;> rfl
      · next hne =>
        rw [lookup_cons_eq_ite, ih]
        split
        · next hentry => rw [if_neg (hentry ▸ Ne.symm hne)]
        · rfl

/-- The files of a project. -/
structure FileSet where
  /-- Paths and texts. -/
  entries : List (String × String)
  sorted : entries.Pairwise fun a b => a.1 < b.1 := by simp

namespace FileSet

def empty : FileSet where
  entries := []

/-- The set with a text for a path. -/
def insert (files : FileSet) (path text : String) : FileSet :=
  ⟨insertFile path text files.entries, pairwise_insertFile path text files.sorted⟩

def ofList (entries : List (String × String)) : FileSet :=
  entries.foldl (fun files entry => files.insert entry.1 entry.2) empty

def get? (files : FileSet) (path : String) : Option String := files.entries.lookup path

theorem get?_insert (files : FileSet) (path text other : String) :
    (files.insert path text).get? other = if other = path then some text else files.get? other :=
  lookup_insertFile path text other files.entries

def contains (files : FileSet) (path : String) : Bool := (files.get? path).isSome

def size (files : FileSet) : Nat := files.entries.length

def paths (files : FileSet) : List String := files.entries.map Prod.fst

/-- The text of a module that is a file. -/
def moduleText (files : FileSet) : ModuleId → Option String
  | .file path => files.get? path
  | .remote _ => none

/-- An object with a member for each file. -/
def toJson (files : FileSet) : JsonValue :=
  .object (files.entries.map fun entry => (entry.1, .string entry.2))

end FileSet
end ModuleBundler
