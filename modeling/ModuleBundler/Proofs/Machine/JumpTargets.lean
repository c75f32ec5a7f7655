import ModuleBundler.Proofs.Machine.Basic
import ModuleBundler.Proofs.Naming

/-!
# The targets of jumps

A jump may leave the loops, the switches and the statements with labels around it, but no function
and no static block. A parser counts the loops and switches and keeps the labels as they are spelled.

* `JumpFrame` : what is entered and left again; `JumpCounts.of` : what is kept of what is around;
* `JumpRequest.expected` : whether a jump has a target, and whether a label is new, when names with
  the same key are the same name;
* `JumpRequest.answer_eq_expected` : by what is kept the names are the same that are spelled alike;
* `JumpRequest.expected_eq_iff` : when that makes no difference.
-/

namespace ModuleBundler

/-! ## What is around a jump -/

/-- What is entered and left again. -/
inductive JumpFrame where
  | loop
  | switch
  /-- A statement after a label, which is given as it is spelled, and whether that is a loop. -/
  | label (name : String) (isLoop : Bool)
  /-- A function or a static block. -/
  | boundary
  deriving DecidableEq

namespace JumpFrame

/-- The frames that a jump may leave, of all that are around it. The innermost is the first. -/
def inside (frames : List JumpFrame) : List JumpFrame := frames.takeWhile (· ≠ .boundary)

def label? : JumpFrame → Option (String × Bool)
  | .label name isLoop => some (name, isLoop)
  | .loop | .switch | .boundary => none

/-- The labels that a jump may name, and whether each labels a loop. -/
def labelsIn (frames : List JumpFrame) : List (String × Bool) := (inside frames).filterMap label?

/-- No two of the labels are the same name. -/
def Distinct (key : String → String) (frames : List JumpFrame) : Prop :=
  ((labelsIn frames).map fun entry => key entry.1).Nodup

theorem Distinct.eq_of_key {key : String → String} {frames : List JumpFrame}
    (h : Distinct key frames) {a b : String × Bool} (ha : a ∈ labelsIn frames)
    (hb : b ∈ labelsIn frames) (hkey : key a.1 = key b.1) : a = b :=
  List.inj_on_of_nodup_map h ha hb hkey

/-- Labels that stand for distinct names are spelled in distinct ways. -/
theorem Distinct.spelled {key : String → String} {frames : List JumpFrame}
    (h : Distinct key frames) : Distinct id frames := by
  have hmap : (((labelsIn frames).map fun entry => id entry.1).map key).Nodup := by
    rw [List.map_map]
    exact h
  exact hmap.of_map key

end JumpFrame

/-- What a parser keeps of what is around. -/
def JumpCounts.of (frames : List JumpFrame) : JumpCounts where
  labels := JumpFrame.labelsIn frames
  loops := (JumpFrame.inside frames).count .loop
  switches := (JumpFrame.inside frames).count .switch

namespace Surroundings

variable {around : Surroundings} {frames : List JumpFrame}

theorem jumps_loopBody (h : around.jumps = .of frames) :
    around.loopBody.jumps = .of (.loop :: frames) := by
  rw [loopBody, h]
  simp [List.filterMap_cons, JumpCounts.of, JumpFrame.labelsIn, JumpFrame.inside, JumpFrame.label?]

theorem jumps_switchBody (h : around.jumps = .of frames) :
    around.switchBody.jumps = .of (.switch :: frames) := by
  rw [switchBody, h]
  simp [List.filterMap_cons, JumpCounts.of, JumpFrame.labelsIn, JumpFrame.inside, JumpFrame.label?]

theorem jumps_labelled (h : around.jumps = .of frames) (name : String) (isLoop : Bool) :
    (around.labelled name isLoop).jumps = .of (.label name isLoop :: frames) := by
  rw [labelled, h]
  simp [JumpCounts.of, JumpFrame.labelsIn, JumpFrame.inside, JumpFrame.label?]

end Surroundings

/-! ## What is asked, and what should be answered -/

/-- What is asked of the frames around. -/
inductive JumpRequest where
  /-- Whether there is a target of a `break` or `continue`, which may name a label. -/
  | jump (keyword : Token) (label : Option Token)
  /-- Whether a label is new. -/
  | newLabel (label : Token)

namespace JumpRequest

open JumpFrame (inside labelsIn Distinct)

/-- The label that is named. -/
def label? : JumpRequest → Option Token
  | .jump _ label => label
  | .newLabel label => some label

/-- A jump has a target and a label is new, when names with the same key are the same name. -/
def Accepted (key : String → String) (frames : List JumpFrame) : JumpRequest → Prop
  | .jump keyword none =>
    .loop ∈ inside frames ∨ keyword.type ≠ .keywordContinue ∧ .switch ∈ inside frames
  | .jump keyword (some target) =>
    ∃ entry ∈ labelsIn frames, key entry.1 = key target.text ∧
      (keyword.type = .keywordContinue → entry.2 = true)
  | .newLabel label => ∀ entry ∈ labelsIn frames, key entry.1 ≠ key label.text

instance (key : String → String) (frames : List JumpFrame) :
    (request : JumpRequest) → Decidable (request.Accepted key frames)
  | .jump keyword none => inferInstanceAs <| Decidable <|
    .loop ∈ inside frames ∨ keyword.type ≠ .keywordContinue ∧ .switch ∈ inside frames
  | .jump keyword (some target) => inferInstanceAs <| Decidable <|
    ∃ entry ∈ labelsIn frames, key entry.1 = key target.text ∧
      (keyword.type = .keywordContinue → entry.2 = true)
  | .newLabel label => inferInstanceAs <| Decidable <|
    ∀ entry ∈ labelsIn frames, key entry.1 ≠ key label.text

/-- The error for what is not accepted. -/
def refusal (key : String → String) (frames : List JumpFrame) : JumpRequest → SyntaxError
  | .jump keyword none => ⟨.jumpOutsideLoop, keyword.span, some keyword.type⟩
  | .jump keyword (some target) =>
    if ∃ entry ∈ labelsIn frames, key entry.1 = key target.text then
      ⟨.jumpOutsideLoop, keyword.span, some keyword.type⟩
    else ⟨.undefinedLabel, target.span, some target.type⟩
  | .newLabel label => ⟨.duplicateLabel, label.span, some label.type⟩

def expected (key : String → String) (frames : List JumpFrame) (request : JumpRequest) :
    Except SyntaxError Unit :=
  if request.Accepted key frames then .ok () else .error (request.refusal key frames)

/-- What a parser answers by what it keeps. -/
def answer (jumps : JumpCounts) : JumpRequest → Except SyntaxError Unit
  | .jump keyword label => jumps.check keyword label
  | .newLabel label =>
    if (jumps.labels.lookup label.text).isSome then
      .error ⟨.duplicateLabel, label.span, some label.type⟩
    else .ok ()

/-- The label that is named is spelled as each label around that is the same name. -/
def SpelledAlike (key : String → String) (frames : List JumpFrame) (request : JumpRequest) : Prop :=
  ∀ label ∈ request.label?, ∀ entry ∈ labelsIn frames,
    key entry.1 = key label.text → entry.1 = label.text

instance (key : String → String) (frames : List JumpFrame) (request : JumpRequest) :
    Decidable (request.SpelledAlike key frames) :=
  inferInstanceAs <| Decidable <| ∀ label ∈ request.label?, ∀ entry ∈ labelsIn frames,
    key entry.1 = key label.text → entry.1 = label.text

variable {key : String → String} {frames : List JumpFrame} {request : JumpRequest}

theorem expected_eq_ok_iff :
    request.expected key frames = .ok () ↔ request.Accepted key frames := by
  unfold expected
  split
  · exact ⟨fun _ => ‹_›, fun _ => rfl⟩
  · exact ⟨fun h => (nomatch h), fun h => absurd h ‹_›⟩

/-- A jump that is accepted and names a label names one around. -/
theorem Accepted.named {keyword target : Token}
    (h : Accepted key frames (.jump keyword (some target))) :
    ∃ entry ∈ labelsIn frames, key entry.1 = key target.text :=
  let ⟨entry, hentry, hname, _⟩ := h
  ⟨entry, hentry, hname⟩

theorem expected_of_accepted (h : request.Accepted key frames) :
    request.expected key frames = .ok () := expected_eq_ok_iff.mpr h

theorem expected_of_not_accepted (h : ¬request.Accepted key frames) :
    request.expected key frames = .error (request.refusal key frames) := if_neg h

theorem answer_newLabel (label : Token) :
    answer (.of frames) (.newLabel label) = expected id frames (.newLabel label) := by
  have hnone : (labelsIn frames).lookup label.text = none ↔
      Accepted id frames (.newLabel label) := by
    rw [List.lookup_eq_none_iff]
    exact forall₂_congr fun entry _ => bne_iff_ne.trans ne_comm
  show (if ((labelsIn frames).lookup label.text).isSome then _ else _) = _
  cases hlookup : (labelsIn frames).lookup label.text with
  | none => exact (expected_of_accepted (hnone.mp hlookup)).symm
  | some isLoop =>
    have hrefused : ¬Accepted id frames (.newLabel label) := fun haccepted =>
      nomatch hlookup.symm.trans (hnone.mpr haccepted)
    exact (expected_of_not_accepted hrefused).symm

theorem answer_unnamed (keyword : Token) :
    answer (.of frames) (.jump keyword none) = expected id frames (.jump keyword none) := by
  have houtside : ((inside frames).count .loop = 0 ∧
      (keyword.type = .keywordContinue ∨ (inside frames).count .switch = 0)) ↔
      ¬Accepted id frames (.jump keyword none) := by
    show _ ↔ ¬(.loop ∈ inside frames ∨
      keyword.type ≠ .keywordContinue ∧ .switch ∈ inside frames)
    rw [List.count_eq_zero, List.count_eq_zero]
    tauto
  show (if (inside frames).count .loop = 0 ∧
    (keyword.type = .keywordContinue ∨ (inside frames).count .switch = 0) then _ else _) = _
  by_cases haccepted : Accepted id frames (.jump keyword none)
  · rw [if_neg fun h => houtside.mp h haccepted, expected_of_accepted haccepted]
  · rw [if_pos (houtside.mpr haccepted), expected_of_not_accepted haccepted]
    rfl

theorem answer_named (hdistinct : Distinct id frames) (keyword target : Token) :
    answer (.of frames) (.jump keyword (some target)) =
      expected id frames (.jump keyword (some target)) := by
  show JumpCounts.check (.of frames) keyword (some target) = _
  unfold JumpCounts.check
  dsimp only
  cases hlookup : (JumpCounts.of frames).labels.lookup target.text with
  | none =>
    have hnone : ¬∃ entry ∈ labelsIn frames, id entry.1 = id target.text := by
      rintro ⟨entry, hentry, hname⟩
      exact bne_iff_ne.mp (List.lookup_eq_none_iff.mp hlookup entry hentry) hname.symm
    rw [expected_of_not_accepted (hnone ·.named)]
    exact congrArg Except.error (if_neg hnone).symm
  | some isLoop =>
    have hmem := mem_of_lookup_eq_some hlookup
    have hnamed : ∃ entry ∈ labelsIn frames, id entry.1 = id target.text := ⟨_, hmem, rfl⟩
    dsimp only
    split
    · rename_i hbad
      have hrefused : ¬Accepted id frames (.jump keyword (some target)) := by
        rintro ⟨entry, hentry, hname, hloop⟩
        rw [hdistinct.eq_of_key hentry hmem hname, hbad.2] at hloop
        cases hloop hbad.1
      rw [expected_of_not_accepted hrefused]
      exact congrArg Except.error (if_pos hnamed).symm
    · rename_i hgood
      have haccepted : Accepted id frames (.jump keyword (some target)) :=
        ⟨_, hmem, rfl, fun hcontinue => Bool.of_not_eq_false fun hloop => hgood ⟨hcontinue, hloop⟩⟩
      exact (expected_of_accepted haccepted).symm

/-- By what it keeps a parser answers what it should, as far as names are the same that are spelled
alike. -/
theorem answer_eq_expected (hdistinct : Distinct id frames) :
    request.answer (.of frames) = request.expected id frames := by
  cases request with
  | jump keyword label =>
    cases label with
    | none => exact answer_unnamed keyword
    | some target => exact answer_named hdistinct keyword target
  | newLabel label => exact answer_newLabel label

/-- Where a label around is the same name but spelled in another way, another answer is expected. -/
theorem expected_ne_of_spelled (hdistinct : Distinct key frames) {label : Token}
    (hlabel : label ∈ request.label?) {entry : String × Bool} (hentry : entry ∈ labelsIn frames)
    (hkey : key entry.1 = key label.text) (hspelled : entry.1 ≠ label.text) :
    request.expected id frames ≠ request.expected key frames := by
  have hnone : ¬∃ other ∈ labelsIn frames, id other.1 = id label.text := by
    rintro ⟨other, hother, hname⟩
    have hother := hdistinct.eq_of_key hentry hother (hkey.trans (congrArg key hname.symm))
    exact hspelled (hother ▸ hname)
  intro heq
  cases request with
  | newLabel label' =>
    cases hlabel
    have hnew : Accepted id frames (.newLabel label) := fun other hother hname =>
      hnone ⟨other, hother, hname⟩
    rw [expected_of_accepted hnew] at heq
    exact expected_eq_ok_iff.mp heq.symm entry hentry hkey
  | jump keyword target =>
    cases hlabel
    rw [expected_of_not_accepted (hnone ·.named)] at heq
    by_cases haccepted : Accepted key frames (.jump keyword (some label))
    · rw [expected_of_accepted haccepted] at heq
      cases heq
    · rw [expected_of_not_accepted haccepted] at heq
      have hcause := congrArg SyntaxError.cause (Except.error.inj heq)
      rw [refusal, refusal, if_neg hnone, if_pos ⟨entry, hentry, hkey⟩] at hcause
      cases hcause

theorem expected_of_spelledAlike (h : request.SpelledAlike key frames) :
    request.expected id frames = request.expected key frames := by
  have hname : ∀ label ∈ request.label?, ∀ entry ∈ labelsIn frames,
      (id entry.1 = id label.text ↔ key entry.1 = key label.text) :=
    fun label hlabel entry hentry => ⟨congrArg key, h label hlabel entry hentry⟩
  have haccepted : request.Accepted id frames ↔ request.Accepted key frames := by
    cases request with
    | newLabel label =>
      exact forall₂_congr fun entry hentry => not_congr (hname label rfl entry hentry)
    | jump keyword target =>
      cases target with
      | none => exact Iff.rfl
      | some target =>
        exact exists_congr fun entry => and_congr_right fun hentry =>
          and_congr_left' (hname target rfl entry hentry)
  have hrefusal : request.refusal id frames = request.refusal key frames := by
    cases request with
    | newLabel label => rfl
    | jump keyword target =>
      cases target with
      | none => rfl
      | some target =>
        have hnamed := exists_congr fun entry => and_congr_right fun hentry =>
          hname target rfl entry hentry
        rw [refusal, refusal, if_congr hnamed rfl rfl]
  rw [expected, expected, hrefusal, if_congr haccepted rfl rfl]

/-- **When spelling does.** If the labels around are distinct names, what is expected by spelling is
what should be exactly if the label that is named is spelled as around. -/
theorem expected_eq_iff (hdistinct : Distinct key frames) :
    request.expected id frames = request.expected key frames ↔
      request.SpelledAlike key frames := by
  constructor
  · intro heq label hlabel entry hentry hkey
    by_contra hspelled
    exact expected_ne_of_spelled hdistinct hlabel hentry hkey hspelled heq
  · exact expected_of_spelledAlike

end JumpRequest

end ModuleBundler
