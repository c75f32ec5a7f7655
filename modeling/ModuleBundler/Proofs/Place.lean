import ModuleBundler.Text.Cursor
import ModuleBundler.Text.Span

/-!
# Places in a text

* `Cursor.Leads` : one place stands at or before another one in the same text;
* `Cursor.advanceTo_eq` : going on to the offset of a place finds that place;
* `Cursor.upTo_eq` : the text up to a later place is what lies between;
* `IsPlace` : an offset between two characters of a text;
* `Span.Between` : a span from one place to another, both between two places.
-/

namespace ModuleBundler

theorem byteLength_append (as bs : List Char) :
    byteLength (as ++ bs) = byteLength as + byteLength bs := by
  induction as with
  | nil => exact (Nat.zero_add _).symm
  | cons c as ih =>
    change c.utf8Size + byteLength (as ++ bs) = c.utf8Size + byteLength as + byteLength bs
    rw [ih, Nat.add_assoc]

theorem byteLength_nil : byteLength [] = 0 := rfl

theorem byteLength_cons (c : Char) (cs : List Char) :
    byteLength (c :: cs) = c.utf8Size + byteLength cs := rfl

namespace Cursor

/-- A place at or before another one in the same text. -/
def Leads (c c' : Cursor) : Prop :=
  ∃ passed, c.rest = passed ++ c'.rest ∧ c'.offset = c.offset + byteLength passed

namespace Leads

theorem refl (c : Cursor) : c.Leads c := ⟨[], rfl, rfl⟩

theorem trans {a b c : Cursor} (h : a.Leads b) (h' : b.Leads c) : a.Leads c := by
  obtain ⟨passed, hrest, hoffset⟩ := h
  obtain ⟨passed', hrest', hoffset'⟩ := h'
  refine ⟨passed ++ passed', ?_, ?_⟩
  · rw [hrest, hrest', List.append_assoc]
  · rw [hoffset', hoffset, byteLength_append, Nat.add_assoc]

theorem offset_le {a b : Cursor} (h : a.Leads b) : a.offset ≤ b.offset := by
  obtain ⟨passed, -, hoffset⟩ := h
  omega

/-- Past one character. -/
theorem cons (offset : Nat) (ch : Char) (rest : List Char) :
    Leads ⟨offset, ch :: rest⟩ ⟨offset + ch.utf8Size, rest⟩ := ⟨[ch], rfl, rfl⟩

/-- Of two places that one leads to, one leads to the other. -/
theorem total {a b c : Cursor} (hb : a.Leads b) (hc : a.Leads c) (hle : b.offset ≤ c.offset) :
    b.Leads c := by
  obtain ⟨before, hrest, hoffset⟩ := hb
  obtain ⟨before', hrest', hoffset'⟩ := hc
  rw [hrest] at hrest'
  rcases List.append_eq_append_iff.mp hrest' with ⟨more, hmore, hb⟩ | ⟨more, hmore, hc⟩
  · refine ⟨more, hb, ?_⟩
    rw [hmore, byteLength_append] at hoffset'
    omega
  · -- The other way round nothing can lie between them.
    rw [hmore, byteLength_append] at hoffset
    cases more with
    | nil =>
      refine ⟨[], hc.symm, ?_⟩
      rw [byteLength_nil] at hoffset ⊢
      omega
    | cons ch more =>
      have := ch.utf8Size_pos
      rw [byteLength_cons] at hoffset
      omega

end Leads

theorem leads_skip (c : Cursor) : c.Leads c.skip := by
  obtain ⟨offset, rest⟩ := c
  cases rest with
  | nil => exact .refl _
  | cons ch rest => exact .cons offset ch rest

theorem leads_skipWhile (p : Char → Bool) (c : Cursor) : c.Leads (c.skipWhile p) := by
  obtain ⟨offset, rest⟩ := c
  change Leads _ (skipWhile.go p offset rest)
  induction rest generalizing offset with
  | nil => exact .refl _
  | cons ch rest ih =>
    rw [skipWhile.go]
    split
    · exact (Leads.cons offset ch rest).trans (ih _)
    · exact .refl _

theorem leads_advanceTo (target : Nat) (c : Cursor) : c.Leads (c.advanceTo target) := by
  obtain ⟨offset, rest⟩ := c
  change Leads _ (advanceTo.go target offset rest)
  induction rest generalizing offset with
  | nil => exact .refl _
  | cons ch rest ih =>
    rw [advanceTo.go]
    split
    · exact .refl _
    · exact (Leads.cons offset ch rest).trans (ih _)

/-- Going on to the offset of a later place leads to that place. -/
theorem advanceTo_eq {c c' : Cursor} (h : c.Leads c') : c.advanceTo c'.offset = c' := by
  obtain ⟨passed, hrest, hoffset⟩ := h
  obtain ⟨offset, rest⟩ := c
  obtain ⟨offset', rest'⟩ := c'
  change offset' = offset + byteLength passed at hoffset
  subst hoffset
  cases hrest
  change advanceTo.go (offset + byteLength passed) offset (passed ++ rest') = _
  have hgo : ∀ (passed : List Char) (target offset : Nat), target = offset + byteLength passed →
      advanceTo.go target offset (passed ++ rest') = ⟨target, rest'⟩ := by
    intro passed
    induction passed with
    | nil =>
      rintro target offset rfl
      cases rest' with
      | nil => rfl
      | cons ch rest => exact if_pos (Nat.le_of_eq rfl)
    | cons ch passed ih =>
      intro target offset htarget
      have := ch.utf8Size_pos
      rw [byteLength_cons] at htarget
      rw [List.cons_append, advanceTo.go, if_neg (by omega)]
      exact ih target _ (by omega)
  exact hgo passed _ offset rfl

/-- Two places of a text with one offset are the same. -/
theorem Leads.eq_of_offset_eq {c a b : Cursor} (ha : c.Leads a) (hb : c.Leads b)
    (h : a.offset = b.offset) : a = b := by
  rw [← advanceTo_eq ha, h, advanceTo_eq hb]

theorem upTo_self (c : Cursor) : c.upTo c.offset = [] := by
  obtain ⟨offset, rest⟩ := c
  cases rest with
  | nil => rfl
  | cons ch rest => exact if_pos (Nat.le_refl _)

/-- The text up to an offset goes through every place before. -/
theorem upTo_eq_append {c d : Cursor} {passed : List Char} (hrest : c.rest = passed ++ d.rest)
    (hoffset : d.offset = c.offset + byteLength passed) {stop : Nat} (hstop : d.offset ≤ stop) :
    c.upTo stop = passed ++ d.upTo stop := by
  obtain ⟨offset, rest⟩ := c
  obtain ⟨offset', rest'⟩ := d
  dsimp only at hrest hoffset hstop
  subst hrest hoffset
  induction passed generalizing offset with
  | nil => rfl
  | cons ch passed ih =>
    have := ch.utf8Size_pos
    rw [byteLength_cons, ← Nat.add_assoc] at hstop ⊢
    have hgo : Cursor.upTo stop ⟨offset, ch :: passed ++ rest'⟩ =
        ch :: Cursor.upTo stop ⟨offset + ch.utf8Size, passed ++ rest'⟩ :=
      if_neg (show ¬ stop ≤ offset by omega)
    rw [hgo, ih _ hstop, List.cons_append]

/-- The text up to a later place is what lies between. -/
theorem upTo_eq {c d : Cursor} {passed : List Char} (hrest : c.rest = passed ++ d.rest)
    (hoffset : d.offset = c.offset + byteLength passed) : c.upTo d.offset = passed := by
  rw [upTo_eq_append hrest hoffset (Nat.le_refl _), upTo_self, List.append_nil]

end Cursor

/-- The offset is that of a place between two characters of the text, or of one of its ends. -/
def IsPlace (text : String) (offset : Nat) : Prop :=
  ∃ place : Cursor, (Cursor.ofString text).Leads place ∧ place.offset = offset

theorem isPlace_iff {text : String} {offset : Nat} :
    IsPlace text offset ↔ ∃ before after, text.toList = before ++ after ∧
      offset = byteLength before := by
  constructor
  · rintro ⟨⟨_, after⟩, ⟨before, htext, hoffset⟩, rfl⟩
    exact ⟨before, after, htext, hoffset.trans (Nat.zero_add _)⟩
  · rintro ⟨before, after, htext, rfl⟩
    exact ⟨⟨_, after⟩, ⟨before, htext, (Nat.zero_add _).symm⟩, rfl⟩

/-! ## Spans -/

/-- A span from one place to another, both between the places `from` and `upto`. -/
def Span.Between (first last : Cursor) (span : Span) : Prop :=
  ∃ start stop : Cursor, first.Leads start ∧ start.Leads stop ∧ stop.Leads last ∧
    span = ⟨start.offset, stop.offset⟩

namespace Span.Between

theorem mono {first last first' last' : Cursor} {span : Span} (h : span.Between first last)
    (hfirst : first'.Leads first) (hlast : last.Leads last') : span.Between first' last' := by
  obtain ⟨start, stop, hstart, hspan, hstop, rfl⟩ := h
  exact ⟨start, stop, hfirst.trans hstart, hspan, hstop.trans hlast, rfl⟩

/-- A span from a place between two others to the later of them. -/
theorem upto {first start last : Cursor} (hfirst : first.Leads start) (hlast : start.Leads last) :
    Span.Between first last ⟨start.offset, last.offset⟩ :=
  ⟨start, last, hfirst, hlast, .refl _, rfl⟩

/-- A span that reaches from one span to another one that begins where the first has ended. -/
theorem join {first mid last : Cursor} {a b : Span} (ha : a.Between first mid)
    (hb : b.Between mid last) : (a.join b).Between first last := by
  obtain ⟨start, stop, hstart, hspan, hstop, rfl⟩ := ha
  obtain ⟨start', stop', hstart', hspan', hstop', rfl⟩ := hb
  have hmid := hspan.trans (hstop.trans hstart')
  refine ⟨start, stop', hstart, hmid.trans hspan', hstop', ?_⟩
  have hle := hmid.offset_le
  have hle' := ((hstop.trans hstart').trans hspan').offset_le
  rw [Span.join]
  dsimp only
  rw [Nat.min_eq_left hle, Nat.max_eq_right hle']

/-- The point at a place. -/
theorem point {first place last : Cursor} (hfirst : first.Leads place) (hlast : place.Leads last) :
    (Span.point place.offset).Between first last :=
  ⟨place, place, hfirst, .refl _, hlast, rfl⟩

theorem pointAtStop {first last : Cursor} {span : Span} (h : span.Between first last) :
    (Span.point span.stop).Between first last := by
  obtain ⟨start, stop, hstart, hspan, hstop, rfl⟩ := h
  exact point (hstart.trans hspan) hstop

theorem le_start {first last : Cursor} {span : Span} (h : span.Between first last) :
    first.offset ≤ span.start := by
  obtain ⟨start, stop, hstart, -, -, rfl⟩ := h
  exact hstart.offset_le

theorem start_le_stop {first last : Cursor} {span : Span} (h : span.Between first last) :
    span.start ≤ span.stop := by
  obtain ⟨start, stop, -, hspan, -, rfl⟩ := h
  exact hspan.offset_le

theorem stop_le {first last : Cursor} {span : Span} (h : span.Between first last) :
    span.stop ≤ last.offset := by
  obtain ⟨start, stop, -, -, hstop, rfl⟩ := h
  exact hstop.offset_le

end Span.Between
end ModuleBundler
