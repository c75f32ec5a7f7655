import ModuleBundler.Proofs.NestedEdits

/-!
# The code of an item is its text with edits substituted

* `appliedEdits` : of the edits of an item those that count;
* `substitute` : a text in which edits take the place of what is at their spans, character by
  character;
* `substitute_copied`, `substitute_replaced` : what comes of a piece without edits, and of one that
  an edit replaces;
* `toList_editParts` : so a piece of a module is written with edits that do not overlap;
* `appliedFrom` : the edits that count when those are passed by that begin before an offset;
* `ItemSubstituted`, `itemFragments_substituted` : the code of an item is its text with the edits
  substituted that count, and which these are.
-/

namespace ModuleBundler

open Cursor (Leads)

/-! ## Substitution -/

/-- The edits that count, in order: all but those that begin inside of one before that counts. -/
def appliedEdits (edits : List Edit) : List Edit :=
  (edits.mergeSort Edit.before).foldl (fun applied edit =>
    if applied.any fun earlier => earlier.span.contains edit.span.start then applied
    else applied ++ [edit]) []

/-- The texts of the edits that begin at an offset. -/
def textsAt (edits : List Edit) (offset : Nat) : List Char :=
  (edits.filter fun edit => edit.span.start = offset).flatMap fun edit => edit.text.toList

/-- A text that begins at an offset, with edits in it: where edits begin their texts are written, and
each character is that lies in none. -/
def substitute (edits : List Edit) : Nat → List Char → List Char
  | offset, [] => textsAt edits offset
  | offset, c :: rest =>
    textsAt edits offset ++ ((if edits.any fun edit => edit.span.contains offset then [] else [c]) ++
      substitute edits (offset + c.utf8Size) rest)

theorem textsAt_eq_nil {edits : List Edit} {offset : Nat}
    (h : ∀ edit ∈ edits, edit.span.start ≠ offset) : textsAt edits offset = [] := by
  unfold textsAt
  rw [List.filter_eq_nil_iff.mpr fun edit hedit => by simpa using h edit hedit, List.flatMap_nil]

theorem textsAt_cons_of_ne {edit : Edit} {edits : List Edit} {offset : Nat}
    (h : edit.span.start ≠ offset) : textsAt (edit :: edits) offset = textsAt edits offset := by
  unfold textsAt
  rw [List.filter_cons_of_neg (by simpa using h)]

theorem textsAt_cons_self (edit : Edit) (edits : List Edit) :
    textsAt (edit :: edits) edit.span.start = edit.text.toList ++ textsAt edits edit.span.start := by
  unfold textsAt
  rw [List.filter_cons_of_pos (by simp), List.flatMap_cons]

theorem Span.contains_iff {span : Span} {offset : Nat} :
    span.contains offset = true ↔ span.start ≤ offset ∧ offset < span.stop := by
  simp [Span.contains]

theorem any_contains_eq_false {edits : List Edit} {offset : Nat}
    (h : ∀ edit ∈ edits, offset < edit.span.start) :
    (edits.any fun edit => edit.span.contains offset) = false := by
  rw [List.any_eq_false]
  intro edit hedit hin
  have := h edit hedit
  have := (Span.contains_iff.mp hin).1
  omega

/-- What comes before all edits is copied. -/
theorem substitute_copied {edits : List Edit} {offset : Nat} {copied rest : List Char}
    (h : ∀ edit ∈ edits, offset + byteLength copied ≤ edit.span.start) :
    substitute edits offset (copied ++ rest) =
      copied ++ substitute edits (offset + byteLength copied) rest := by
  induction copied generalizing offset with
  | nil => rfl
  | cons c copied ih =>
    rw [byteLength_cons, ← Nat.add_assoc] at h
    have hlt : ∀ edit ∈ edits, offset < edit.span.start := fun edit hedit => by
      have := h edit hedit
      have := c.utf8Size_pos
      omega
    rw [List.cons_append, substitute, textsAt_eq_nil fun edit hedit => Nat.ne_of_gt (hlt edit hedit),
      any_contains_eq_false hlt, ih h, byteLength_cons, Nat.add_assoc]
    rfl

/-- An edit that is passed makes no difference. -/
theorem substitute_cons_of_le {edit : Edit} {edits : List Edit} {offset : Nat}
    (hstart : edit.span.start < offset) (hstop : edit.span.stop ≤ offset) (text : List Char) :
    substitute (edit :: edits) offset text = substitute edits offset text := by
  induction text generalizing offset with
  | nil => exact textsAt_cons_of_ne (Nat.ne_of_lt hstart)
  | cons c rest ih =>
    have hout : edit.span.contains offset = false := by
      rw [Bool.eq_false_iff]
      intro hin
      exact Nat.not_lt_of_le hstop (Span.contains_iff.mp hin).2
    rw [substitute, substitute, textsAt_cons_of_ne (Nat.ne_of_lt hstart), List.any_cons, hout,
      Bool.false_or, ih (by omega) (by omega)]

/-- The characters in an edit that began before are left out. -/
theorem substitute_covered {edit : Edit} {edits : List Edit} {offset : Nat}
    {covered rest : List Char} (hstart : edit.span.start < offset)
    (hstop : offset + byteLength covered = edit.span.stop)
    (hlater : ∀ other ∈ edits, edit.span.stop ≤ other.span.start) :
    substitute (edit :: edits) offset (covered ++ rest) =
      substitute edits edit.span.stop rest := by
  induction covered generalizing offset with
  | nil =>
    rw [byteLength_nil, Nat.add_zero] at hstop
    rw [List.nil_append, hstop, substitute_cons_of_le (hstop ▸ hstart) (Nat.le_refl _)]
  | cons c covered ih =>
    rw [byteLength_cons, ← Nat.add_assoc] at hstop
    have := c.utf8Size_pos
    have hin : edit.span.contains offset = true :=
      Span.contains_iff.mpr ⟨Nat.le_of_lt hstart, by omega⟩
    have hnone : ∀ other ∈ edits, other.span.start ≠ offset := fun other hother => by
      have := hlater other hother
      omega
    rw [List.cons_append, substitute, textsAt_cons_of_ne (Nat.ne_of_lt hstart),
      textsAt_eq_nil hnone, List.any_cons, hin, Bool.true_or, if_pos rfl, ih (by omega) hstop]
    rfl

/-- The text of an edit takes the place of what is at its span. -/
theorem substitute_replaced {edit : Edit} {edits : List Edit} {covered : List Char}
    (hstop : edit.span.start + byteLength covered = edit.span.stop)
    (hlater : ∀ other ∈ edits, edit.span.stop ≤ other.span.start) (rest : List Char) :
    substitute (edit :: edits) edit.span.start (covered ++ rest) =
      edit.text.toList ++ substitute edits edit.span.stop rest := by
  cases covered with
  | cons c covered =>
    rw [byteLength_cons, ← Nat.add_assoc] at hstop
    have := c.utf8Size_pos
    have hin : edit.span.contains edit.span.start = true :=
      Span.contains_iff.mpr ⟨Nat.le_refl _, by omega⟩
    have hnone : ∀ other ∈ edits, other.span.start ≠ edit.span.start := fun other hother => by
      have := hlater other hother
      omega
    rw [List.cons_append, substitute, textsAt_cons_self, textsAt_eq_nil hnone, List.append_nil,
      List.any_cons, hin, Bool.true_or, if_pos rfl, List.nil_append,
      substitute_covered (by omega) hstop hlater]
  | nil =>
    -- Nothing is left out, and other edits may begin where the text is put in.
    rw [byteLength_nil, Nat.add_zero] at hstop
    have hout : edit.span.contains edit.span.start = false := by
      rw [Bool.eq_false_iff]
      intro hin
      have := (Span.contains_iff.mp hin).2
      omega
    rw [List.nil_append, ← hstop]
    cases rest with
    | nil => exact textsAt_cons_self edit edits
    | cons c rest =>
      have := c.utf8Size_pos
      rw [substitute, substitute, textsAt_cons_self, List.any_cons, hout, Bool.false_or,
        substitute_cons_of_le (by omega) (by omega), List.append_assoc]

/-! ## Pieces of a module -/

theorem substitute_nil (offset : Nat) (text : List Char) : substitute [] offset text = text := by
  induction text generalizing offset with
  | nil => rfl
  | cons c rest ih => rw [substitute, ih]; rfl

/-- A piece of a module with edits in a row is its text with these substituted. -/
theorem toList_editParts {m : SourceModule} {place last : Cursor} {edits : List Edit}
    (hplace : (Cursor.ofString m.source).Leads place) (hlast : place.Leads last)
    (hbetween : EditsUpTo m last edits) (hfrom : ∀ edit ∈ edits, place.offset ≤ edit.span.start)
    (hrow : edits.Pairwise fun a b => a.span.stop ≤ b.span.start) :
    (partsText (editParts m last.offset place.offset edits)).toList =
      substitute edits place.offset (m.slice ⟨place.offset, last.offset⟩).toList := by
  induction edits generalizing place with
  | nil =>
    rw [editParts, partsText_cons, partsText_nil, String.append_empty, substitute_nil]
    rfl
  | cons edit edits ih =>
    obtain ⟨hedit, hothers⟩ := List.forall_mem_cons.mp hbetween
    obtain ⟨hle, hlater⟩ := List.forall_mem_cons.mp hfrom
    obtain ⟨hafter, hrow⟩ := List.pairwise_cons.mp hrow
    obtain ⟨first, stop, hfirst, hstop, hend, hspan⟩ := hedit
    have hstart : edit.span.start = first.offset := by rw [hspan]
    have hspanStop : edit.span.stop = stop.offset := by rw [hspan]
    have hcopied := hplace.total hfirst (hstart ▸ hle)
    have hrest := ih (hfirst.trans hstop) hend hothers (hspanStop ▸ hafter) hrow
    -- The text is cut where the edit begins and where it ends.
    have hcut : m.slice ⟨place.offset, last.offset⟩ = m.slice ⟨place.offset, first.offset⟩ ++
        (m.slice ⟨first.offset, stop.offset⟩ ++ m.slice ⟨stop.offset, last.offset⟩) := by
      rw [m.slice_append hfirst hstop hend.offset_le,
        m.slice_append hplace hcopied (hstop.trans hend).offset_le]
    have hbefore := m.utf8ByteSize_slice hplace hcopied
    have hcovered := m.utf8ByteSize_slice hfirst hstop
    rw [utf8ByteSize_eq] at hbefore hcovered
    have hreplaced := substitute_replaced (hstart ▸ hspanStop ▸ hcovered) hafter
    rw [hstart, hspanStop] at hreplaced
    have hall : ∀ other ∈ edit :: edits, place.offset +
        byteLength (m.slice ⟨place.offset, first.offset⟩).toList ≤ other.span.start := by
      rw [hbefore]
      refine List.forall_mem_cons.mpr ⟨Nat.le_of_eq hstart.symm, fun other hother => ?_⟩
      have := hafter other hother
      have := hstop.offset_le
      omega
    rw [editParts, if_neg (Nat.not_lt_of_le hle), partsText_cons, partsText_cons, hcut]
    simp only [String.toList_append]
    rw [substitute_copied hall, hbefore, hreplaced, ← hrest, hstart, hspanStop]
    rfl

/-! ## The edits that count -/

/-- Of edits in order those that begin at an offset or later, each not before the end of the one
before it. -/
def appliedFrom : Nat → List Edit → List Edit
  | _, [] => []
  | offset, edit :: edits =>
    if edit.span.start < offset then appliedFrom offset edits
    else edit :: appliedFrom edit.span.stop edits

/-- The others make no difference to what is written. -/
theorem editParts_appliedFrom (m : SourceModule) (stop offset : Nat) (edits : List Edit) :
    editParts m stop offset (appliedFrom offset edits) = editParts m stop offset edits := by
  induction edits generalizing offset with
  | nil => rfl
  | cons edit edits ih =>
    rw [appliedFrom, editParts]
    split
    · exact ih offset
    · rename_i hge
      rw [editParts, if_neg hge, ih]

theorem appliedFrom_sublist (offset : Nat) (edits : List Edit) :
    (appliedFrom offset edits).Sublist edits := by
  induction edits generalizing offset with
  | nil => exact .slnil
  | cons edit edits ih =>
    rw [appliedFrom]
    split
    · exact (ih offset).cons edit
    · exact (ih _).cons_cons edit

theorem le_of_mem_appliedFrom {offset : Nat} {edits : List Edit}
    (hlength : ∀ edit ∈ edits, edit.span.start ≤ edit.span.stop) :
    ∀ edit ∈ appliedFrom offset edits, offset ≤ edit.span.start := by
  induction edits generalizing offset with
  | nil => exact nofun
  | cons edit edits ih =>
    obtain ⟨hfirst, hothers⟩ := List.forall_mem_cons.mp hlength
    rw [appliedFrom]
    split
    · exact ih hothers
    · rename_i hge
      refine List.forall_mem_cons.mpr ⟨Nat.le_of_not_lt hge, fun other hother => ?_⟩
      have := ih hothers other hother
      omega

/-- Those that count do not overlap. -/
theorem pairwise_appliedFrom {offset : Nat} {edits : List Edit}
    (hlength : ∀ edit ∈ edits, edit.span.start ≤ edit.span.stop) :
    (appliedFrom offset edits).Pairwise fun a b => a.span.stop ≤ b.span.start := by
  induction edits generalizing offset with
  | nil => exact .nil
  | cons edit edits ih =>
    obtain ⟨-, hothers⟩ := List.forall_mem_cons.mp hlength
    rw [appliedFrom]
    split
    · exact ih hothers
    · exact List.pairwise_cons.mpr ⟨le_of_mem_appliedFrom hothers, ih hothers⟩

/-- Whether an edit begins inside of one before that counts, or before the end of the last of these,
is the same for edits in order. -/
theorem foldl_eq_appliedFrom {offset : Nat} {applied edits : List Edit}
    (hsorted : edits.Pairwise fun a b => a.span.start ≤ b.span.start)
    (hpassed : ∀ edit ∈ edits, (applied.any fun earlier => earlier.span.contains edit.span.start) =
      decide (edit.span.start < offset)) :
    edits.foldl (fun applied edit =>
      if applied.any fun earlier => earlier.span.contains edit.span.start then applied
      else applied ++ [edit]) applied = applied ++ appliedFrom offset edits := by
  induction edits generalizing applied offset with
  | nil => exact (List.append_nil _).symm
  | cons edit edits ih =>
    obtain ⟨hle, hsorted⟩ := List.pairwise_cons.mp hsorted
    obtain ⟨hfirst, hothers⟩ := List.forall_mem_cons.mp hpassed
    rw [List.foldl_cons, hfirst, appliedFrom]
    by_cases hlt : edit.span.start < offset
    · rw [decide_eq_true hlt, if_pos rfl, if_pos hlt, ih hsorted hothers]
    · rw [decide_eq_false hlt, if_neg Bool.false_ne_true, if_neg hlt,
        ih hsorted fun other hother => ?_, List.append_assoc]
      · rfl
      · have hfrom := hle other hother
        rw [List.any_append, hothers other hother, decide_eq_false (by omega), Bool.false_or,
          List.any_cons, List.any_nil, Bool.or_false]
        simp [Span.contains, hfrom]

/-- Edits that do not count lie inside of some that do. -/
theorem mem_appliedFrom_or {isOuter : Edit → Prop} {offset : Nat} {edits : List Edit}
    (applied : List Edit)
    (hrow : edits.Pairwise fun a b =>
      a.span.stop ≤ b.span.start ∨ (isOuter a ∧ b.span.Inside a.span))
    (hpassed : ∀ edit ∈ edits, edit.span.start < offset →
      ∃ outer ∈ applied, isOuter outer ∧ edit.span.Inside outer.span) :
    ∀ edit ∈ edits, edit ∈ appliedFrom offset edits ∨
      ∃ outer ∈ applied ++ appliedFrom offset edits,
        isOuter outer ∧ edit.span.Inside outer.span := by
  induction edits generalizing offset applied with
  | nil => exact nofun
  | cons edit edits ih =>
    obtain ⟨hlater, hrow⟩ := List.pairwise_cons.mp hrow
    obtain ⟨hfirst, hothers⟩ := List.forall_mem_cons.mp hpassed
    rw [appliedFrom]
    split
    · rename_i hlt
      refine List.forall_mem_cons.mpr ⟨.inr ?_, ih applied hrow hothers⟩
      obtain ⟨outer, houter, hin⟩ := hfirst hlt
      exact ⟨outer, List.mem_append_left _ houter, hin⟩
    · refine List.forall_mem_cons.mpr ⟨.inl List.mem_cons_self, fun other hother => ?_⟩
      have hrest : ∀ other ∈ edits, other.span.start < edit.span.stop →
          ∃ outer ∈ applied ++ [edit], isOuter outer ∧ other.span.Inside outer.span := by
        intro other hother hlt
        obtain hin := (hlater other hother).resolve_left (Nat.not_le_of_lt hlt)
        exact ⟨edit, List.mem_append_right _ List.mem_cons_self, hin⟩
      have hall := ih _ hrow hrest other hother
      rw [List.append_assoc] at hall
      exact hall.imp_left (List.mem_cons_of_mem _)

/-! ## Edits in order -/

theorem Edit.before_iff {a b : Edit} : a.before b = true ↔
    a.span.start < b.span.start ∨ (a.span.start = b.span.start ∧ a.span.stop ≤ b.span.stop) := by
  simp [before]

theorem pairwise_before (edits : List Edit) :
    (edits.mergeSort Edit.before).Pairwise fun a b => a.before b = true := by
  refine List.pairwise_mergeSort (fun a b c hab hbc => ?_) (fun a b => ?_) edits
  · rw [Edit.before_iff] at *
    omega
  · rw [Bool.or_eq_true, Edit.before_iff, Edit.before_iff]
    omega

/-- Of edits that fit together each ends before the next ones begin, or these lie inside of it. -/
theorem pairwise_mergeSort_of_fit {isOuter : Edit → Prop} {edits : List Edit}
    (hfit : edits.Pairwise (Edit.Fit isOuter))
    (hlength : ∀ edit ∈ edits, edit.span.start ≤ edit.span.stop) :
    (edits.mergeSort Edit.before).Pairwise fun a b =>
      a.span.stop ≤ b.span.start ∨ (isOuter a ∧ b.span.Inside a.span) := by
  have hperm := List.mergeSort_perm edits Edit.before
  have hsorted := (hperm.pairwise_iff Edit.Fit.symm).mpr hfit
  refine ((pairwise_before edits).and hsorted).imp_of_mem fun {a b} ha hb ⟨hbefore, hfit⟩ => ?_
  have hlong := hlength b (hperm.mem_iff.mp hb)
  rw [Edit.before_iff] at hbefore
  rcases hfit with (hle | hle) | ⟨houter, hin⟩ | ⟨-, hlt, -⟩
  · exact .inl hle
  · exact .inl (by omega)
  · exact .inr ⟨houter, hin⟩
  · omega

/-! ## Items -/

/-- What is known of the edits of an item that count: they stand in a row in it and leave the tokens
of its module whole, and the others lie inside of dynamic imports that are replaced. -/
structure EditsApplied (m : SourceModule) (n : Names) (item : ModuleItem)
    (tokens : List BufferedToken) (edits : List Edit) : Prop where
  row : (appliedEdits edits).Pairwise fun a b => a.span.stop ≤ b.span.start
  within : ∀ edit ∈ appliedEdits edits, edit ∈ edits ∧ item.span.start ≤ edit.span.start ∧
    edit.span.start ≤ edit.span.stop ∧ edit.span.stop ≤ item.span.stop
  edges : ∀ edit ∈ appliedEdits edits, edit.OnEdges m item tokens
  leftOut : ∀ edit ∈ edits, edit ∈ appliedEdits edits ∨
    ∃ outer ∈ appliedEdits edits, m.CallEdit n outer ∧ edit.span.Inside outer.span

section
variable {l : Linkage} {n : Names} {m : SourceModule} {index : Nat} {item : ModuleItem}
  {edits : List Edit}

/-- The edits of an item count from its start on. -/
theorem ItemEdited.appliedEdits_eq {tokens : List BufferedToken}
    (h : ItemEdited m n item tokens edits) :
    appliedEdits edits = appliedFrom item.span.start (edits.mergeSort Edit.before) := by
  refine foldl_eq_appliedFrom ((pairwise_before edits).imp fun hbefore => ?_) fun edit hedit => ?_
  · rw [Edit.before_iff] at hbefore
    omega
  · have := h.start edit (List.mem_mergeSort.mp hedit)
    rw [List.any_nil, decide_eq_false (Nat.not_lt_of_le this)]

theorem ItemEdited.applied {tokens : List BufferedToken} {last : Cursor}
    (h : ItemEdited m n item tokens edits) (hbetween : EditsUpTo m last edits)
    (hlast : item.span.stop = last.offset) : EditsApplied m n item tokens edits := by
  have hlength : ∀ edit ∈ edits, edit.span.start ≤ edit.span.stop := fun edit hedit =>
    (hbetween edit hedit).start_le_stop
  have hsorted : ∀ edit ∈ edits.mergeSort Edit.before, edit.span.start ≤ edit.span.stop :=
    fun edit hedit => hlength edit (List.mem_mergeSort.mp hedit)
  have hmem : ∀ edit ∈ appliedEdits edits, edit ∈ edits := fun edit hedit => by
    rw [h.appliedEdits_eq] at hedit
    exact List.mem_mergeSort.mp ((appliedFrom_sublist _ _).subset hedit)
  constructor
  case row =>
    rw [h.appliedEdits_eq]
    exact pairwise_appliedFrom hsorted
  case within =>
    intro edit hedit
    have hedit := hmem edit hedit
    have hstop := (hbetween edit hedit).stop_le
    exact ⟨hedit, h.start edit hedit, hlength edit hedit, hlast ▸ hstop⟩
  case edges => exact fun edit hedit => h.edges edit (hmem edit hedit)
  case leftOut =>
    intro edit hedit
    rw [h.appliedEdits_eq]
    refine mem_appliedFrom_or [] (pairwise_mergeSort_of_fit h.fit hlength)
      (fun edit hedit hlt => ?_) edit (List.mem_mergeSort.mpr hedit)
    exact absurd (h.start edit (List.mem_mergeSort.mp hedit)) (Nat.not_le_of_lt hlt)

/-- The texts of the fragments of an item are those of its parts. -/
theorem join_itemFragments (hsorted : m.record.tokenStarts.Pairwise (· ≤ ·))
    {fragments : List Fragment} (h : itemFragments m item edits = .ok fragments) :
    String.join (fragments.map Fragment.toText) = partsText (itemParts m item edits) := by
  let o : Output := ⟨"", (MapBuilder.empty.addSource m.id.text none).2⟩
  have hsource : o.map.paths[0]? = some m.id.text := rfl
  have hadds := (adds_itemFragments hsorted h hsource).code
  unfold Output.writeAll at hadds
  rw [Output.write_foldl_code, String.empty_append, String.empty_append] at hadds
  exact hadds

/-- **The code of an item is its text with its edits substituted**: those that count take the place
of what is at their spans, and all else is copied. A semicolon is added where one is missing. The
edits that count do not overlap and leave tokens whole, and the others lie inside of dynamic imports
that are replaced. -/
theorem itemFragments_substituted (hparse : parseModule m.source = .ok m.record)
    (hitem : item ∈ m.record.items) (hedits : itemEdits l n m index item = .ok edits) :
    ∃ text fragments tokens, m.textAt item.span = .ok text ∧
      itemFragments m item edits = .ok fragments ∧
      (∀ (o : Output) (source : Nat), (o.writeAll source m fragments).code = o.code ++
        (String.ofList (substitute (appliedEdits edits) item.span.start text.toList) ++
          (if item.missingSemicolon then ";" else "") ++ "\n")) ∧
      ReadFrom (.ofString m.source) tokens ∧
      m.record.tokenStarts = tokens.map (fun b => b.token.span.start) ∧
      EditsApplied m n item tokens edits := by
  obtain ⟨o, ho⟩ := parseModule_outlined hparse
  obtain ⟨tokens, hrecord⟩ := parseModule_read hparse
  obtain ⟨last, hread⟩ := hrecord.items item hitem
  obtain ⟨first, hfirst, hlast, hspan⟩ := hread.span
  have hedited := itemEdits_fit ho hitem hedits
  have hbetween : EditsUpTo m last edits := fun edit hedit =>
    (itemEdits_read hrecord hread hedits edit hedit).between
  obtain ⟨fragments, hfragments, -⟩ := gives_itemFragments hrecord hread hbetween
  have happlied := hedited.applied hbetween (by rw [hspan])
  refine ⟨m.slice item.span, fragments, o.tokens, ?_, hfragments, fun out source => ?_, ho.chain,
    ho.tokenStarts, happlied⟩
  · rw [hspan, m.slice_eq hfirst]
    exact bind_eq_ok.mpr ⟨_, Cursor.split_eq hfirst, bind_eq_ok.mpr ⟨_, Cursor.split_eq hlast, rfl⟩⟩
  · have hbody := toList_editParts hfirst hlast
      (fun edit hedit => hbetween edit (happlied.within edit hedit).1)
      (fun edit hedit => by
        have := (happlied.within edit hedit).2.1
        rwa [hspan] at this) happlied.row
    rw [hedited.appliedEdits_eq, hspan, editParts_appliedFrom] at hbody
    unfold Output.writeAll
    rw [Output.write_foldl_code, join_itemFragments hrecord.sortedTokens hfragments, itemParts,
      partsText_append, hedited.appliedEdits_eq, hspan, ← hbody, String.ofList_toList]
    simp only [partsText_cons, partsText_nil, Part.text, String.append_empty, String.append_assoc]

end

/-- A function without a name is the default export. In it a module is imported with options. -/
def importingDefault : String :=
  "export default function (a) \x7b return import(\"./b.js\", \x7b with: c(a) \x7d); \x7d\nlet c = 0;\n"

def importingNames : Names :=
  ⟨[(.declared 0 1, "main"), (.declared 0 2, "d"), (.namespaceOf 1, "b")], []⟩

/-- The edits of the function: of `c`, of the words before it, for its name, and of the import. -/
def importingEdits : List Edit :=
  [⟨⟨62, 63⟩, "d", some "c"⟩, ⟨⟨0, 15⟩, "", none⟩, ⟨⟨23, 24⟩, " main", none⟩,
    ⟨⟨37, 69⟩, "Promise.resolve().then(() => b)", none⟩]

/-- The name in the options of the import is left out with these. -/
theorem importingDefault_substituted : ∃ m item text fragments tokens,
    m.source = importingDefault ∧ parseModule m.source = .ok m.record ∧ item ∈ m.record.items ∧
      itemEdits ⟨#[], [], [], []⟩ importingNames m 0 item = .ok importingEdits ∧
      appliedEdits importingEdits = importingEdits.tail ∧ m.textAt item.span = .ok text ∧
      itemFragments m item importingEdits = .ok fragments ∧
      (∀ (o : Output) (source : Nat), (o.writeAll source m fragments).code = o.code ++
        (String.ofList (substitute (appliedEdits importingEdits) item.span.start text.toList) ++
          (if item.missingSemicolon then ";" else "") ++ "\n")) ∧
      ReadFrom (.ofString m.source) tokens ∧
      m.record.tokenStarts = tokens.map (fun b => b.token.span.start) ∧
      EditsApplied m importingNames item tokens importingEdits := by
  have hread : ((parseModule importingDefault).toOption.any fun record =>
      record.items[0]?.any fun item => (itemEdits ⟨#[], [], [], []⟩ importingNames
        ⟨.file "/index.js", importingDefault, record, [], [.module 1]⟩ 0 item).toOption.any
          fun edits => edits = importingEdits) = true := by
    decide +kernel
  cases hrecord : parseModule importingDefault with
  | error e =>
    rw [hrecord] at hread
    cases hread
  | ok record =>
    rw [hrecord] at hread
    obtain ⟨item, hitem, hread⟩ := (Option.any_eq_true _ record.items[0]?).mp hread
    cases hedits : itemEdits ⟨#[], [], [], []⟩ importingNames
        ⟨.file "/index.js", importingDefault, record, [], [.module 1]⟩ 0 item with
    | error e =>
      rw [hedits] at hread
      cases hread
    | ok edits =>
      rw [hedits] at hread
      obtain rfl := of_decide_eq_true hread
      have hmem := Array.mem_of_getElem? hitem
      have happlied : appliedEdits importingEdits = importingEdits.tail := by
        simp [appliedEdits, importingEdits, List.mergeSort, Edit.before, Span.contains]
      let m : SourceModule := ⟨.file "/index.js", importingDefault, record, [], [.module 1]⟩
      have hparse : parseModule m.source = .ok m.record := hrecord
      obtain ⟨text, fragments, tokens, hsubstituted⟩ :=
        itemFragments_substituted hparse hmem hedits
      exact ⟨m, item, text, fragments, tokens, rfl, hparse, hmem, hedits, happlied, hsubstituted⟩

end ModuleBundler
