import ModuleBundler.Proofs.ByteLines
import ModuleBundler.Proofs.Outcome
import ModuleBundler.Proofs.OutputPlaces

/-!
# The calls that build a source map

* `MapCall`, `MapBuilder.ofCalls` : a map is built by calls one after another;
* `writtenText` : the text that is written in the course of them;
* `MapBuilder.position_ofCalls`, `place_of_calls` : where the output stands after any calls depends
  on that text only, and is where its lines have the end of it;
* `MapBuilder.InOrder` : the mappings come in the order of the output, which no call changes;
* `MapBuilder.nameIndex_spec` : the names stay what they are.
-/

namespace ModuleBundler

/-- A call in the course of building a map. -/
inductive MapCall where
  | addSource (path : String) (content : Option String)
  | addMapping (source : Nat) (place : LineColumn) (name : Option String)
  | advance (text : String)

/-- The text that a call writes. -/
def MapCall.text : MapCall → String
  | .advance text => text
  | _ => ""

/-- The text that calls write, piece by piece. -/
def writtenText (calls : List MapCall) : String := String.join (calls.map MapCall.text)

theorem writtenText_cons (call : MapCall) (calls : List MapCall) :
    writtenText (call :: calls) = call.text ++ writtenText calls := by
  unfold writtenText
  rw [List.map_cons, String.join_cons]

namespace MapBuilder

def apply (b : MapBuilder) : MapCall → MapBuilder
  | .addSource path content => (b.addSource path content).2
  | .addMapping source place name => b.addMapping source place name
  | .advance text => b.advance text

/-- What calls build. -/
def ofCalls (calls : List MapCall) : MapBuilder := calls.foldl apply .empty

end MapBuilder

/-! ## Where the output stands -/

namespace OutputPosition

theorem advance_append (p : OutputPosition) (s t : String) :
    p.advance (s ++ t) = (p.advance s).advance t := by
  unfold advance
  rw [String.toList_append, List.foldl_append]

/-- An output stays where it is or goes on. -/
theorem advance_place (p : OutputPosition) (text : String) :
    p.place = (p.advance text).place ∨ p.place.Before (p.advance text).place := by
  unfold advance
  rcases p.place_foldl_step text.toList with hnil | ⟨-, -, hsame⟩ | hbefore
  · exact .inl (hnil ▸ rfl)
  · exact .inl hsame.symm
  · exact .inr hbefore

/-- At the end of a text an output stands where the lines of the text have it. -/
theorem place_advance_start (text : String) :
    (start.advance text).place = (LineIndex.ofString text).place text.utf8ByteSize := by
  have hwhole : ¬ SplitsLineEnd text.toList [] := fun h => nomatch h.2
  have hplace := LineIndex.place_ofList text.toList []
  rw [List.append_nil, String.ofList_toList, placeIn_eq hwhole] at hplace
  rw [utf8ByteSize_eq, hplace]
  rfl

end OutputPosition

namespace MapBuilder

theorem addMapping_position (b : MapBuilder) (source : Nat) (place : LineColumn)
    (name : Option String) : (b.addMapping source place name).position = b.position := by
  unfold addMapping
  split
  · rfl
  · split <;> rfl

/-- Only the text of a call moves the output on. -/
theorem apply_position (b : MapBuilder) (call : MapCall) :
    (b.apply call).position = b.position.advance call.text := by
  cases call with
  | addSource path content => rfl
  | addMapping source place name => exact b.addMapping_position source place name
  | advance text => rfl

theorem foldl_apply_position (b : MapBuilder) (calls : List MapCall) :
    (calls.foldl apply b).position = b.position.advance (writtenText calls) := by
  induction calls generalizing b with
  | nil => rfl
  | cons call calls ih =>
    rw [List.foldl_cons, ih, apply_position, writtenText_cons, OutputPosition.advance_append]

theorem position_ofCalls (calls : List MapCall) :
    (ofCalls calls).position = OutputPosition.start.advance (writtenText calls) :=
  foldl_apply_position .empty calls

/-- **Where an output stands does not depend on the pieces in which it was written.** After any
calls the place is that of the end of the whole text by its lines, and these are the ones that a
scan over its bytes finds. -/
theorem place_of_calls (calls : List MapCall) :
    (ofCalls calls).position.place =
        (LineIndex.ofString (writtenText calls)).place (writtenText calls).utf8ByteSize ∧
      (LineIndex.ofString (writtenText calls)).others.map Cursor.offset =
        byteLineStarts 0 (writtenText calls).toByteArray.data.toList := by
  rw [position_ofCalls]
  exact ⟨OutputPosition.place_advance_start _, LineIndex.map_offset_others _⟩

example : (ofCalls [.advance "a\r", .advance "\nb"]).position.place = ⟨1, 1⟩ := by decide +kernel

/-! ## The order of the mappings -/

/-- The mappings come in the order of their places, none of which is beyond the end of the output. -/
structure InOrder (b : MapBuilder) : Prop where
  sorted : b.mappings.toList.Pairwise fun x y => x.generated.Before y.generated
  upTo : ∀ e ∈ b.mappings.toList, e.generated = b.position.place ∨
    e.generated.Before b.position.place

theorem inOrder_empty : empty.InOrder where
  sorted := .nil
  upTo _ h := nomatch h

namespace InOrder

variable {b : MapBuilder}

theorem advance (h : b.InOrder) (text : String) : (b.advance text).InOrder where
  sorted := h.sorted
  upTo e he := by
    have hgoes := b.position.advance_place text
    change _ = (b.position.advance text).place ∨ _
    rcases h.upTo e he with heq | hbefore
    · rw [heq]
      exact hgoes
    · rcases hgoes with hsame | hafter
      · rw [hsame] at hbefore
        exact .inr hbefore
      · exact .inr (hbefore.trans hafter)

/-- The last mapping is the only one that may be at the end of the output. -/
theorem before_of_last_ne (h : b.InOrder)
    (hnew : b.mappings.back?.map Mapping.generated ≠ some b.position.place) :
    ∀ e ∈ b.mappings.toList, e.generated.Before b.position.place := by
  have hsorted := h.sorted
  have hupTo := h.upTo
  rw [← Array.getLast?_toList] at hnew
  rcases List.eq_nil_or_concat b.mappings.toList with hnil | ⟨front, last, hlast⟩
  · rw [hnil]
    exact fun e he => nomatch he
  · rw [hlast, List.concat_eq_append] at hsorted hupTo hnew ⊢
    rw [List.getLast?_concat] at hnew
    rw [List.pairwise_append] at hsorted
    have hbefore : last.generated.Before b.position.place := by
      rcases hupTo last (by simp) with heq | hbefore
      · exact absurd (congrArg some heq) hnew
      · exact hbefore
    refine List.forall_mem_append.mpr ⟨fun e he => ?_, List.forall_mem_singleton.mpr hbefore⟩
    exact (hsorted.2.2 e he last (List.mem_singleton_self _)).trans hbefore

/-- A mapping is added at the end of the output, where there is none. -/
theorem push {b' : MapBuilder} {e : Mapping} (h : b.InOrder)
    (hmappings : b'.mappings = b.mappings.push e) (hposition : b'.position = b.position)
    (hgenerated : e.generated = b.position.place)
    (hnew : b.mappings.back?.map Mapping.generated ≠ some b.position.place) : b'.InOrder where
  sorted := by
    rw [hmappings, Array.toList_push, List.pairwise_append]
    refine ⟨h.sorted, List.pairwise_singleton _ _, fun x hx => List.forall_mem_singleton.mpr ?_⟩
    rw [hgenerated]
    exact h.before_of_last_ne hnew x hx
  upTo := by
    rw [hmappings, Array.toList_push, hposition]
    exact List.forall_mem_append.mpr ⟨h.upTo, List.forall_mem_singleton.mpr (.inl hgenerated)⟩

end InOrder

/-! ## Names -/

/-- A name has its index among the names. These stay what they are, and there is one more at
most. -/
theorem nameIndex_spec (b : MapBuilder) (name : String) :
    b.names.toList <+: (b.nameIndex name).2.toList ∧
      (b.nameIndex name).2.toList[(b.nameIndex name).1]? = some name ∧
      (b.nameIndex name).2.size ≤ b.names.size + 1 := by
  unfold nameIndex
  cases hindex : b.names.idxOf? name with
  | some index =>
    refine ⟨List.prefix_refl _, ?_, Nat.le_succ _⟩
    rw [Array.idxOf?_eq_map_finIdxOf?_val] at hindex
    obtain ⟨i, hi, rfl⟩ := Option.map_eq_some_iff.mp hindex
    have hget : b.names[i] = name := (Array.finIdxOf?_eq_some_iff.mp hi).1
    dsimp only
    rw [Array.getElem?_toList, Array.getElem?_eq_getElem i.isLt]
    exact congrArg some hget
  | none =>
    dsimp only
    rw [Array.toList_push]
    refine ⟨List.prefix_append _ _, ?_, Nat.le_of_eq (Array.size_push _)⟩
    rw [← Array.length_toList, List.getElem?_concat_length]

/-- No name stands twice. -/
theorem nodup_nameIndex (b : MapBuilder) (name : String) (h : b.names.toList.Nodup) :
    (b.nameIndex name).2.toList.Nodup := by
  unfold nameIndex
  cases hindex : b.names.idxOf? name with
  | some index => exact h
  | none =>
    have hnew : name ∉ b.names.toList := by
      rw [Array.idxOf?_eq_map_finIdxOf?_val, Option.map_eq_none_iff,
        Array.finIdxOf?_eq_none_iff] at hindex
      rwa [Array.mem_toList_iff]
    rw [Array.toList_push, List.nodup_append]
    refine ⟨h, List.pairwise_singleton _ _, fun x hx y hy => ?_⟩
    rw [List.mem_singleton.mp hy]
    exact ne_of_mem_of_not_mem hx hnew

end MapBuilder
end ModuleBundler
