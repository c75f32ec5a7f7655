import ModuleBundler.Proofs.LinePlaces
import ModuleBundler.SourceMap.Builder

/-!
# Where an output stands, by the lines of its text

* `LineColumn.Before` : the order of places in a text;
* `place_foldl_step` : an output only goes on, and stands still only at a line feed that ends a line
  together with the carriage return before it;
* `SplitsLineEnd` : the end of a piece of a text is between those two;
* `LineIndex.place_eq` : anywhere else the lines of a text have the place at which an output stands
  after the piece;
* `eq_of_place_eq` : and no two pieces have the same place;
* `place_ne_of_splits` : but there they have one at which no output ever stands.
-/

namespace ModuleBundler

/-! ## The order of places -/

/-- The place is on a line before that of the other, or before it on the same line. -/
def LineColumn.Before (a b : LineColumn) : Prop :=
  a.line < b.line ∨ (a.line = b.line ∧ a.column < b.column)

instance (a b : LineColumn) : Decidable (a.Before b) := by
  unfold LineColumn.Before
  infer_instance

theorem LineColumn.Before.trans {a b c : LineColumn} (h : a.Before b) (h' : b.Before c) :
    a.Before c := by
  unfold LineColumn.Before at *
  omega

theorem LineColumn.Before.ne {a b : LineColumn} (h : a.Before b) : a ≠ b := by
  rintro rfl
  unfold LineColumn.Before at h
  omega

theorem utf16Size_pos (c : Char) : 0 < utf16Size c := by
  unfold utf16Size
  split
  · decide
  · decide

namespace OutputPosition

theorem step_afterReturn (p : OutputPosition) (c : Char) :
    (p.step c).afterReturn = decide (c = '\r') := by
  unfold step
  split
  · rename_i h
    rw [Bool.and_eq_true, decide_eq_true_eq] at h
    rw [h.1]
    rfl
  · split
    · rfl
    · rename_i hterminator
      have hc : c ≠ '\r' := by
        rintro rfl
        exact hterminator rfl
      simp [hc]

/-- The last character was a carriage return, as an output has it. -/
theorem foldl_step_afterReturn (p : OutputPosition) (cs : List Char) (c : Char) :
    ((cs ++ [c]).foldl step p).afterReturn = decide (c = '\r') := by
  rw [List.foldl_append]
  exact step_afterReturn _ c

/-- Only the line feed of a line end that has begun leaves the place as it is. -/
theorem step_place (p : OutputPosition) (c : Char) :
    (c = '\n' ∧ p.afterReturn = true ∧ (p.step c).place = p.place) ∨
      p.place.Before (p.step c).place := by
  unfold step
  split
  · rename_i h
    rw [Bool.and_eq_true, decide_eq_true_eq] at h
    exact .inl ⟨h.1, h.2, rfl⟩
  · refine .inr ?_
    split
    · exact .inl (Nat.lt_succ_self _)
    · refine .inr ⟨rfl, ?_⟩
      have := utf16Size_pos c
      dsimp only
      omega

/-- An output goes on with every text, but for the line feed of a line end that has begun. -/
theorem place_foldl_step (p : OutputPosition) (cs : List Char) :
    cs = [] ∨ (cs = ['\n'] ∧ p.afterReturn = true ∧ (cs.foldl step p).place = p.place) ∨
      p.place.Before (cs.foldl step p).place := by
  induction cs generalizing p with
  | nil => exact .inl rfl
  | cons c cs ih =>
    refine .inr ?_
    rw [List.foldl_cons]
    rcases step_place p c with ⟨rfl, hreturn, hplace⟩ | hbefore
    · -- One more line feed would be a line end of its own.
      have hnot : (p.step '\n').afterReturn = false := step_afterReturn p '\n'
      rcases ih (p.step '\n') with rfl | ⟨-, hreturn', -⟩ | hbefore
      · exact .inl ⟨rfl, hreturn, hplace⟩
      · rw [hnot] at hreturn'
        cases hreturn'
      · rw [hplace] at hbefore
        exact .inr hbefore
    · rcases ih (p.step c) with rfl | ⟨-, -, hplace⟩ | hbefore'
      · exact .inr hbefore
      · rw [hplace]
        exact .inr hbefore
      · exact .inr (hbefore.trans hbefore')

/-- The column is no greater than the size of the text that was written. -/
theorem column_foldl_step_le (p : OutputPosition) (cs : List Char) :
    (cs.foldl step p).place.column ≤ p.place.column + byteLength cs := by
  induction cs generalizing p with
  | nil => exact Nat.le_refl _
  | cons c cs ih =>
    have hstep : (p.step c).place.column ≤ p.place.column + c.utf8Size := by
      have := utf16Size_le c
      unfold step
      split
      · exact Nat.le_add_right _ _
      · split
        · exact Nat.zero_le _
        · dsimp only
          omega
    rw [List.foldl_cons, byteLength_cons]
    have := ih (p.step c)
    omega

end OutputPosition

/-! ## The lines of a text -/

/-- The place of the end of a piece of a text, counted on from where an output stands, when other
text follows. -/
def placeIn (p : OutputPosition) : List Char → List Char → LineColumn
  | [], _ => p.place
  | c :: before, after =>
    if before = [] ∧ c = '\r' ∧ after.head? = some '\n' then ⟨p.place.line, p.place.column + 1⟩
    else placeIn (p.step c) before after

theorem lt_of_mem_lineBreaks {offset : Nat} {cs : List Char} {start : Cursor}
    (h : start ∈ lineBreaks offset cs) : offset < start.offset := by
  fun_induction lineBreaks offset cs with
  | case1 => cases h
  | case2 offset rest ih =>
    rcases List.mem_cons.mp h with rfl | h
    · show offset < offset + 2
      omega
    · have := ih h
      omega
  | case3 offset c rest _ _ ih =>
    have := c.utf8Size_pos
    rcases List.mem_cons.mp h with rfl | h
    · show offset < offset + c.utf8Size
      omega
    · have := ih h
      omega
  | case4 offset c rest _ _ ih =>
    have := c.utf8Size_pos
    have := ih h
    omega

namespace LineIndex

/-- An offset before all further lines is in the line that was begun. -/
theorem lineAt_of_lt {offset line : Nat} {start : Cursor} {others : List Cursor}
    (h : ∀ other ∈ others, offset < other.offset) :
    lineAt offset line start others = (line, start) := by
  cases others with
  | nil => rfl
  | cons next rest =>
    rw [lineAt, if_neg]
    have := h next List.mem_cons_self
    omega

/-- The code units of a line up to an offset in it. -/
theorem unitsUpTo_append (offset : Nat) (front after : List Char) :
    unitsUpTo (offset + byteLength front) offset (front ++ after) = utf16Length front := by
  induction front generalizing offset with
  | nil =>
    cases after with
    | nil => rfl
    | cons c after =>
      have := c.utf8Size_pos
      rw [List.nil_append, unitsUpTo, if_neg]
      · rfl
      · rw [byteLength_nil]
        omega
  | cons c front ih =>
    rw [byteLength_cons, List.cons_append, unitsUpTo, if_pos (by omega), ← Nat.add_assoc, ih]
    rfl

/-- The place of an offset, from the line `line` on that begins at `start`. -/
def placeFrom (line : Nat) (start : Cursor) (others : List Cursor) (offset : Nat) : LineColumn :=
  ⟨(lineAt offset line start others).1,
    unitsUpTo offset (lineAt offset line start others).2.offset
      (lineAt offset line start others).2.rest⟩

/-- The next line begins at or before the offset. -/
theorem placeFrom_cons {line offset : Nat} {start next : Cursor} {others : List Cursor}
    (h : next.offset ≤ offset) :
    placeFrom line start (next :: others) offset = placeFrom (line + 1) next others offset := by
  unfold placeFrom
  rw [lineAt, if_pos h]

/-- Before all further lines an offset has its place in the line that was begun. -/
theorem placeFrom_here {line offset : Nat} {start : Cursor} {others : List Cursor}
    {front cs : List Char} (hothers : ∀ other ∈ others, offset < other.offset)
    (hstart : start.rest = front ++ cs) (hoffset : offset = start.offset + byteLength front) :
    placeFrom line start others offset = ⟨line, utf16Length front⟩ := by
  unfold placeFrom
  rw [lineAt_of_lt hothers, hstart, hoffset, unitsUpTo_append]

theorem utf16Length_append (as bs : List Char) :
    utf16Length (as ++ bs) = utf16Length as + utf16Length bs := by
  induction as with
  | nil => exact (Nat.zero_add _).symm
  | cons c as ih =>
    change utf16Size c + utf16Length (as ++ bs) = utf16Size c + utf16Length as + utf16Length bs
    rw [ih, Nat.add_assoc]

/-- A line feed after a carriage return stands in the line that both of them end. -/
theorem placeFrom_lineFeed {line offset : Nat} {start : Cursor} {front rest : List Char}
    {p : OutputPosition} (hstart : start.rest = front ++ '\r' :: '\n' :: rest)
    (hoffset : offset = start.offset + byteLength front)
    (hp : p.place = ⟨line, utf16Length front⟩) :
    placeFrom line start (⟨offset + 2, rest⟩ :: lineBreaks (offset + 2) rest)
      (offset + byteLength ['\r']) = placeIn p ['\r'] ('\n' :: rest) := by
  have hbetween : ∀ other ∈ (⟨offset + 2, rest⟩ : Cursor) :: lineBreaks (offset + 2) rest,
      offset + 1 < other.offset := by
    refine List.forall_mem_cons.mpr ⟨Nat.lt_succ_self _, fun other hother => ?_⟩
    have := lt_of_mem_lineBreaks hother
    omega
  have hline : start.rest = (front ++ ['\r']) ++ '\n' :: rest := by simpa using hstart
  have hlength : offset + 1 = start.offset + byteLength (front ++ ['\r']) := by
    rw [byteLength_append, hoffset]
    rfl
  rw [placeIn, if_pos ⟨rfl, rfl, rfl⟩, hp]
  change placeFrom line start _ (offset + 1) = _
  rw [placeFrom_here hbetween hline hlength, utf16Length_append]
  rfl

/-- The place of an offset in a text, seen from a place in one of its lines. The line has `front`
so far, and an output that stands there has no line end to complete. -/
theorem placeFrom_eq {line offset : Nat} {start : Cursor} {front cs before after : List Char}
    {p : OutputPosition} (hcs : cs = before ++ after) (hstart : start.rest = front ++ cs)
    (hoffset : offset = start.offset + byteLength front)
    (hp : p.place = ⟨line, utf16Length front⟩)
    (hreturn : p.afterReturn = true → cs.head? ≠ some '\n') :
    placeFrom line start (lineBreaks offset cs) (offset + byteLength before) =
      placeIn p before after := by
  have hothers : ∀ other ∈ lineBreaks offset cs, offset < other.offset :=
    fun _ => lt_of_mem_lineBreaks
  fun_induction lineBreaks offset cs generalizing line start front before p with
  | case1 offset =>
    obtain ⟨rfl, rfl⟩ := List.append_eq_nil_iff.mp hcs.symm
    exact (placeFrom_here hothers hstart hoffset).trans hp.symm
  | case2 offset rest ih =>
    cases before with
    | nil => exact (placeFrom_here hothers hstart hoffset).trans hp.symm
    | cons c before =>
      obtain ⟨rfl, hrest⟩ := List.cons.inj hcs
      cases before with
      | nil =>
        -- The offset is that of the line feed.
        cases hrest
        exact placeFrom_lineFeed hstart hoffset hp
      | cons d before =>
        obtain ⟨rfl, hrest'⟩ := List.cons.inj hrest
        have hlength : offset + byteLength ('\r' :: '\n' :: before) =
            offset + 2 + byteLength before := by
          rw [byteLength_cons, byteLength_cons]
          have hone : '\r'.utf8Size = 1 ∧ '\n'.utf8Size = 1 := by decide
          omega
        have hnext : offset + 2 ≤ offset + 2 + byteLength before := Nat.le_add_right _ _
        have hstep : ((p.step '\r').step '\n') = ⟨⟨line + 1, 0⟩, false⟩ := by
          have hreturn : p.step '\r' = ⟨⟨p.place.line + 1, 0⟩, true⟩ := rfl
          rw [hreturn, hp]
          rfl
        rw [hlength, placeFrom_cons hnext, placeIn, if_neg (by simp), placeIn, if_neg (by simp),
          hstep]
        exact @ih (line + 1) _ [] before _ hrest' rfl rfl rfl (by simp)
          fun _ => lt_of_mem_lineBreaks
  | case3 offset c' rest hpair hterminator ih =>
    cases before with
    | nil => exact (placeFrom_here hothers hstart hoffset).trans hp.symm
    | cons c before =>
      obtain ⟨rfl, hrest⟩ := List.cons.inj hcs
      have hnext : offset + c'.utf8Size ≤ offset + (c'.utf8Size + byteLength before) := by omega
      have hnotPair : ¬ (before = [] ∧ c' = '\r' ∧ after.head? = some '\n') := by
        rintro ⟨rfl, rfl, hfeed⟩
        obtain ⟨others, rfl⟩ := List.head?_eq_some_iff.mp hfeed
        exact hpair others rfl hrest
      have hstep : p.step c' = ⟨⟨line + 1, 0⟩, c' = '\r'⟩ := by
        rw [OutputPosition.step, if_neg, if_pos hterminator, hp]
        rw [Bool.and_eq_true, decide_eq_true_eq]
        rintro ⟨rfl, hafter⟩
        exact hreturn hafter rfl
      rw [byteLength_cons, placeFrom_cons hnext, placeIn, if_neg hnotPair, hstep, ← Nat.add_assoc]
      refine @ih (line + 1) _ [] before _ hrest rfl rfl rfl (fun h hfeed => ?_)
        fun _ => lt_of_mem_lineBreaks
      obtain ⟨others, hothers⟩ := List.head?_eq_some_iff.mp hfeed
      exact hpair others (of_decide_eq_true h) hothers
  | case4 offset c' rest hpair hplain ih =>
    cases before with
    | nil => exact (placeFrom_here hothers hstart hoffset).trans hp.symm
    | cons c before =>
      obtain ⟨rfl, hrest⟩ := List.cons.inj hcs
      have hstep : p.step c' = ⟨⟨line, utf16Length (front ++ [c'])⟩, false⟩ := by
        rw [OutputPosition.step, if_neg, if_neg hplain, hp, utf16Length_append]
        · rfl
        · rw [Bool.and_eq_true, decide_eq_true_eq]
          rintro ⟨rfl, -⟩
          exact hplain rfl
      have hnotPair : ¬ (before = [] ∧ c' = '\r' ∧ after.head? = some '\n') := by
        rintro ⟨-, rfl, -⟩
        exact hplain rfl
      have hline : start.rest = (front ++ [c']) ++ rest := by simpa using hstart
      have hlength : offset + c'.utf8Size = start.offset + byteLength (front ++ [c']) := by
        rw [byteLength_append, hoffset, Nat.add_assoc]
        rfl
      rw [byteLength_cons, placeIn, if_neg hnotPair, hstep, ← Nat.add_assoc]
      exact ih hrest hline hlength rfl (by simp) fun _ => lt_of_mem_lineBreaks

/-- The place of the end of a piece of a text. -/
theorem place_ofList (before after : List Char) :
    (ofString (String.ofList (before ++ after))).place (byteLength before) =
      placeIn .start before after := by
  have h := @placeFrom_eq 0 0 ⟨0, before ++ after⟩ [] (before ++ after) before after .start rfl rfl
    rfl rfl (fun h => nomatch h)
  rw [Nat.zero_add] at h
  rw [← h, ofString, String.toList_ofList]
  unfold Cursor.ofString
  rw [String.toList_ofList]
  rfl

end LineIndex

/-! ## Line ends that are split -/

/-- A piece ends with a carriage return, and the line feed of the same line end follows. -/
def SplitsLineEnd (before after : List Char) : Prop :=
  before.getLast? = some '\r' ∧ after.head? = some '\n'

instance (before after : List Char) : Decidable (SplitsLineEnd before after) := by
  unfold SplitsLineEnd
  infer_instance

theorem placeIn_eq {before after : List Char} (h : ¬ SplitsLineEnd before after)
    (p : OutputPosition) : placeIn p before after = (before.foldl OutputPosition.step p).place := by
  induction before generalizing p with
  | nil => rfl
  | cons c before ih =>
    rw [placeIn, if_neg, List.foldl_cons]
    · refine ih (fun hsplits => h ⟨?_, hsplits.2⟩) _
      obtain ⟨front, rfl⟩ := List.getLast?_eq_some_iff.mp hsplits.1
      rw [← List.cons_append, List.getLast?_concat]
    · rintro ⟨rfl, rfl, hfeed⟩
      exact h ⟨rfl, hfeed⟩

/-- The end of a piece that splits a line end is one column after the text before. -/
theorem placeIn_of_splits {front after : List Char} (h : after.head? = some '\n')
    (p : OutputPosition) : placeIn p (front ++ ['\r']) after =
      ⟨(front.foldl OutputPosition.step p).place.line,
        (front.foldl OutputPosition.step p).place.column + 1⟩ := by
  induction front generalizing p with
  | nil => exact if_pos ⟨rfl, rfl, h⟩
  | cons c front ih =>
    rw [List.cons_append, placeIn, if_neg, ih, List.foldl_cons]
    rintro ⟨hnil, -⟩
    exact List.append_ne_nil_of_right_ne_nil front (List.cons_ne_nil _ _) hnil

/-- Where no line end is split more text brings an output to another place. -/
theorem eq_nil_of_place_eq {before more after : List Char}
    (h : ¬ SplitsLineEnd before (more ++ after))
    (hplace : ((before ++ more).foldl OutputPosition.step .start).place =
      (before.foldl OutputPosition.step .start).place) : more = [] := by
  rw [List.foldl_append] at hplace
  rcases OutputPosition.place_foldl_step (before.foldl OutputPosition.step .start) more with
    hnil | ⟨rfl, hreturn, -⟩ | hbefore
  · exact hnil
  · refine absurd ⟨?_, rfl⟩ h
    rcases List.eq_nil_or_concat before with rfl | ⟨front, c, rfl⟩
    · cases hreturn
    · rw [List.concat_eq_append] at hreturn ⊢
      rw [OutputPosition.foldl_step_afterReturn, decide_eq_true_eq] at hreturn
      rw [List.getLast?_concat, hreturn]
  · exact absurd hplace.symm hbefore.ne

/-- Two pieces of a text that split no line end bring an output to one place only if they are the
same. -/
theorem eq_of_place_eq {before after other more : List Char} (h : ¬ SplitsLineEnd before after)
    (h' : ¬ SplitsLineEnd other more) (heq : before ++ after = other ++ more)
    (hplace : (before.foldl OutputPosition.step .start).place =
      (other.foldl OutputPosition.step .start).place) : before = other := by
  rcases List.append_eq_append_iff.mp heq with ⟨rest, rfl, rfl⟩ | ⟨rest, rfl, rfl⟩
  · rw [eq_nil_of_place_eq h hplace.symm, List.append_nil]
  · rw [eq_nil_of_place_eq h' hplace, List.append_nil]

/-- Where a line end is split the lines of the text have a place at which no output stands after any
piece of it. -/
theorem place_ne_of_splits {before after other more : List Char} (h : SplitsLineEnd before after)
    (heq : other ++ more = before ++ after) :
    (other.foldl OutputPosition.step .start).place ≠ placeIn .start before after := by
  obtain ⟨front, rfl⟩ := List.getLast?_eq_some_iff.mp h.1
  rw [List.append_assoc] at heq
  rw [placeIn_of_splits h.2]
  rcases List.append_eq_append_iff.mp heq with ⟨rest, rfl, -⟩ | ⟨rest, rfl, hrest⟩
  · -- The other piece ends before the carriage return.
    intro hplace
    rw [List.foldl_append] at hplace
    rcases OutputPosition.place_foldl_step (other.foldl OutputPosition.step .start) rest with
      rfl | ⟨-, -, hsame⟩ | hbefore
    · have := congrArg LineColumn.column hplace
      rw [List.foldl_nil] at this
      dsimp only at this
      omega
    · have := congrArg LineColumn.column hplace
      rw [hsame] at this
      dsimp only at this
      omega
    · rw [hplace] at hbefore
      unfold LineColumn.Before at hbefore
      dsimp only at hbefore
      omega
  · intro hplace
    rw [List.foldl_append] at hplace
    generalize front.foldl OutputPosition.step .start = p at hplace
    have hline := congrArg LineColumn.line hplace
    have hcolumn := congrArg LineColumn.column hplace
    dsimp only at hline hcolumn
    cases rest with
    | nil =>
      rw [List.foldl_nil] at hcolumn
      omega
    | cons c rest =>
      -- The other piece has the carriage return, after which there is a new line.
      obtain ⟨rfl, -⟩ := List.cons.inj hrest
      rw [List.foldl_cons] at hline
      have hreturn : (p.step '\r').place.line = p.place.line + 1 := rfl
      rcases OutputPosition.place_foldl_step (p.step '\r') rest with rfl | ⟨-, -, hsame⟩ | hbefore
      · rw [List.foldl_nil] at hline
        omega
      · rw [hsame] at hline
        omega
      · unfold LineColumn.Before at hbefore
        omega

end ModuleBundler
