import ModuleBundler.Proofs.Machine.Basic

/-!
# What work leaves of the state before

A machine goes back by cutting its records to their former lengths. That undoes everything only if
nothing before them was changed, and if what is not cut back was left by whatever went there.

* `Machine.Grown` : what any work leaves, also if it fails;
* `Machine.restore_of_grown` : going back from there is exact, but for the tokens looked at ahead;
* `Looks` : what is seen of the tokens does not depend on what was looked at before;
* `Work.Grows`, `Work.Grows.bind`, `Work.Grows.deferred`, `Work.grows_loop`, … : all that a machine
  does leaves a grown state.
-/

namespace ModuleBundler

/-! ## Going back -/

/-- A record that only grew is cut back to what it was. -/
theorem take_of_isPrefix {α : Type} {before after : Array α} (h : before.toList <+: after.toList) :
    after.take before.size = before := by
  rw [← Array.toList_inj, Array.take_eq_extract, Array.toList_extract, List.extract_eq_take_drop,
    Nat.sub_zero, List.drop_zero]
  exact (List.prefix_iff_eq_take.mp h).symm

/-- Going back does not change how long the text is. -/
theorem TokenStream.size_rewindTo (n : Nat) (s : TokenStream) : (s.rewindTo n).size = s.size := by
  have hgo : ∀ (steps : Nat) (s : TokenStream),
      (TokenStream.rewindTo.go steps s).size = s.size := by
    intro steps
    induction steps with
    | zero => exact fun s => rfl
    | succ steps ih =>
      intro s
      rw [TokenStream.rewindTo.go]
      cases hbehind : s.behind with
      | nil => rfl
      | cons last behind => exact ih _
  exact hgo _ s

namespace Machine

/-- Whatever work does, and however it ends: what was read and recorded before is there still, the
module asks for and offers what it did, and jumps and nesting are as they were. -/
structure Grown (m m' : Machine) : Prop where
  text : ∀ source, m.state.tokens.OfText source → m'.state.tokens.OfText source
  size : m'.state.tokens.size = m.state.tokens.size
  behind : m.state.tokens.behind <:+ m'.state.tokens.behind
  scopes : m.state.scopes.toList <+: m'.state.scopes.toList
  declarations : m.state.declarations.toList <+: m'.state.declarations.toList
  references : m.state.references.toList <+: m'.state.references.toList
  dynamicImports : m.state.dynamicImports.toList <+: m'.state.dynamicImports.toList
  items : m'.state.items = m.state.items
  requests : m'.state.requests = m.state.requests
  imports : m'.state.imports = m.state.imports
  exports : m'.state.exports = m.state.exports
  starExports : m'.state.starExports = m.state.starExports
  depth : m'.around.depth = m.around.depth
  jumps : m'.around.jumps = m.around.jumps

namespace Grown

variable {m m' m'' : Machine}

theorem refl (m : Machine) : m.Grown m :=
  ⟨fun _ h => h, rfl, List.suffix_refl _, List.prefix_refl _, List.prefix_refl _,
    List.prefix_refl _, List.prefix_refl _, rfl, rfl, rfl, rfl, rfl, rfl, rfl⟩

theorem trans (h : m.Grown m') (h' : m'.Grown m'') : m.Grown m'' where
  text source hm := h'.text source (h.text source hm)
  size := h'.size.trans h.size
  behind := h.behind.trans h'.behind
  scopes := h.scopes.trans h'.scopes
  declarations := h.declarations.trans h'.declarations
  references := h.references.trans h'.references
  dynamicImports := h.dynamicImports.trans h'.dynamicImports
  items := h'.items.trans h.items
  requests := h'.requests.trans h.requests
  imports := h'.imports.trans h.imports
  exports := h'.exports.trans h.exports
  starExports := h'.starExports.trans h.starExports
  depth := h'.depth.trans h.depth
  jumps := h'.jumps.trans h.jumps

/-- Work may be done elsewhere, as long as jumps and nesting are as they were afterwards. -/
theorem elsewhere {around around' : Surroundings} (h : ({ m with around } : Machine).Grown m')
    (depth : around'.depth = m.around.depth) (jumps : around'.jumps = m.around.jumps) :
    m.Grown { m' with around := around' } :=
  ⟨h.text, h.size, h.behind, h.scopes, h.declarations, h.references, h.dynamicImports, h.items,
    h.requests, h.imports, h.exports, h.starExports, depth, jumps⟩

end Grown

/-- The machine with other tokens looked at ahead. -/
def withAhead (m : Machine) (ahead : List BufferedToken) : Machine :=
  m.withTokens { m.state.tokens with ahead }

/-- A machine that goes back is as it was before, but for the tokens looked at ahead. -/
theorem restore_of_grown {m m' : Machine} (h : m.Grown m') {source : String}
    (hm : m.state.tokens.OfText source) :
    m'.restore m.checkpoint = m.withAhead (m'.restore m.checkpoint).state.tokens.ahead := by
  have hsource :
      (m'.state.tokens.rewindTo m.state.tokens.count).source = m.state.tokens.source := by
    rw [TokenStream.source_rewindTo, (h.text source hm).source, hm.source]
  have hsize : (m'.state.tokens.rewindTo m.state.tokens.count).size = m.state.tokens.size :=
    (TokenStream.size_rewindTo _ _).trans h.size
  have hbehind := TokenStream.behind_rewindTo h.behind
  have htokens : m'.state.tokens.rewindTo m.state.tokens.count =
      { m.state.tokens with
        ahead := (m'.state.tokens.rewindTo m.state.tokens.count).ahead } := by
    show _ = TokenStream.mk _ _ _ _
    rw [← hsource, ← hsize, ← hbehind]
  have hstate : (m'.restore m.checkpoint).state =
      (m.withAhead (m'.restore m.checkpoint).state.tokens.ahead).state := by
    unfold restore checkpoint withAhead withTokens
    dsimp only
    rw [take_of_isPrefix h.scopes, take_of_isPrefix h.declarations, take_of_isPrefix h.references,
      take_of_isPrefix h.dynamicImports, h.items, h.requests, h.imports, h.exports, h.starExports]
    exact congrArg (fun tokens => { m.state with tokens }) htokens
  have haround : (m'.restore m.checkpoint).around = m.around := by
    unfold restore checkpoint
    dsimp only
    rw [h.jumps]
  calc m'.restore m.checkpoint
      = ⟨(m'.restore m.checkpoint).state, (m'.restore m.checkpoint).around⟩ := rfl
    _ = m.withAhead (m'.restore m.checkpoint).state.tokens.ahead := by
      rw [hstate, haround]
      rfl

end Machine

/-! ## Looking at tokens and reading them -/

/-- What is seen of the tokens is what the text has next. It does not depend on what was looked at
before, and nothing that was read is lost. -/
structure Looks {α : Type} (look : TokenStream → α × TokenStream) : Prop where
  text : ∀ {source s}, s.OfText source → (look s).2.OfText source
  size : ∀ {source s}, s.OfText source → (look s).2.size = s.size
  behind : ∀ {source s}, s.OfText source → s.behind <:+ (look s).2.behind
  again : ∀ {source s ahead}, s.OfText source →
    ({ s with ahead } : TokenStream).OfText source → ∃ ahead',
      look { s with ahead } = ((look s).1, { (look s).2 with ahead := ahead' })

theorem looks_peek (mode : LexMode) : Looks (TokenStream.peek mode) where
  text h := h.fill mode 1
  size _ := rfl
  behind _ := List.suffix_refl _
  again h h' :=
    ⟨_, Prod.ext ((h'.tokenAhead_zero mode 0).trans (h.tokenAhead_zero mode 0).symm) rfl⟩

theorem looks_peek2 : Looks TokenStream.peek2 where
  text h := h.fill .standard 2
  size _ := rfl
  behind _ := List.suffix_refl _
  again {source s ahead} h h' := by
    have hsecond : ∀ {s : TokenStream}, s.OfText source → (s.fill .standard 2).tokenAhead 1 =
        tokenAt source .standard (tokenAt source .standard s.lastEnd).span.stop := by
      intro s h
      rw [h.tokenAhead_succ, (h.after _).tokenAhead_zero, h.lastEnd_advance]
    have hfirst := (h'.tokenAhead_zero .standard 1).trans (h.tokenAhead_zero .standard 1).symm
    exact ⟨_, Prod.ext (Prod.ext hfirst ((hsecond h').trans (hsecond h).symm)) rfl⟩

theorem looks_advance (mode : LexMode) : Looks (TokenStream.advance mode) where
  text h := h.after mode
  size h := by
    obtain ⟨rest, hadvance, -⟩ := h.advance_eq mode
    rw [hadvance]
  behind h := by
    rw [h.behind_advance mode]
    exact List.suffix_cons _ _
  again h h' := by
    obtain ⟨rest, hadvance, -⟩ := h.advance_eq mode
    obtain ⟨rest', hadvance', -⟩ := h'.advance_eq mode
    exact ⟨rest', by rw [hadvance, hadvance']; rfl⟩

/-! ## Work -/

namespace Work

variable {source : String} {α β : Type}

/-- However it ends, the work leaves what was there before. -/
def Grows (source : String) (work : Work α) : Prop :=
  ∀ m : Machine, m.state.tokens.OfText source → m.Grown (work m).2

theorem grows_pure (a : α) : (Work.pure a).Grows source := fun m _ => .refl m

theorem grows_fail (e : SyntaxError) : (Work.fail e : Work α).Grows source := fun m _ => .refl m

theorem grows_lastEnd : lastEnd.Grows source := fun m _ => .refl m

theorem Grows.bind {work : Work α} {next : α → Work β} (h : work.Grows source)
    (hnext : ∀ a, (next a).Grows source) : (work.bind next).Grows source := by
  intro m hm
  have hgrown := h m hm
  unfold Work.bind
  generalize work m = outcome at hgrown ⊢
  obtain ⟨answer, m'⟩ := outcome
  cases answer with
  | error e => exact hgrown
  | ok a => exact hgrown.trans (hnext a m' (hgrown.text source hm))

theorem grows_onTokens {look : TokenStream → α × TokenStream} (h : Looks look) :
    (onTokens look).Grows source := fun m hm =>
  { Machine.Grown.refl m with
    text := fun _ hm => h.text hm
    size := h.size hm
    behind := h.behind hm }

theorem prefix_push {γ : Type} (record : Array γ) (entry : γ) :
    record.toList <+: (record.push entry).toList := by
  rw [Array.toList_push]
  exact List.prefix_append _ _

theorem grows_enterScope (type : ScopeType) : (enterScope type).Grows source := fun m _ =>
  { Machine.Grown.refl m with scopes := prefix_push _ _ }

theorem Grows.leavingTo {work : Work α} (h : work.Grows source) (scope : ScopeId) :
    (work.leavingTo scope).Grows source := by
  intro m hm
  have hgrown := h m hm
  unfold Work.leavingTo
  generalize work m = outcome at hgrown ⊢
  obtain ⟨answer, m'⟩ := outcome
  cases answer with
  | error e => exact hgrown
  | ok a => exact hgrown.elsewhere hgrown.depth hgrown.jumps

theorem grows_declare (name : String) (span : Span) (kind : DeclarationKind) (shorthand : Bool) :
    (declare name span kind shorthand).Grows source := fun m _ =>
  { Machine.Grown.refl m with declarations := prefix_push _ _ }

theorem grows_refer (name : String) (span : Span) (shorthand : Bool) :
    (refer name span shorthand).Grows source := fun m _ =>
  { Machine.Grown.refl m with references := prefix_push _ _ }

theorem grows_markSideEffect : markSideEffect.Grows source := by
  intro m _
  unfold markSideEffect
  split
  · exact { Machine.Grown.refl m with }
  · exact .refl m

theorem grows_recordDynamicImport (first : Token) (argument call : Span) :
    (recordDynamicImport first argument call).Grows source := by
  intro m _
  unfold recordDynamicImport
  split
  · split
    · exact { Machine.Grown.refl m with dynamicImports := prefix_push _ _ }
    · exact .refl m
  · exact .refl m

theorem grows_checkJump (keyword : Token) (label : Option Token) :
    (checkJump keyword label).Grows source := fun m _ => .refl m

/-- Jumps and nesting are as before when other surroundings are left. -/
theorem Grows.inside {enter : Surroundings → Surroundings}
    {leave : Surroundings → Surroundings → Surroundings} {work : Work α} (h : work.Grows source)
    (hleave : ∀ outer a : Surroundings, a.depth = (enter outer).depth →
      a.jumps = (enter outer).jumps →
      (leave outer a).depth = outer.depth ∧ (leave outer a).jumps = outer.jumps) :
    (work.inside enter leave).Grows source := by
  intro m hm
  have hgrown := h { m with around := enter m.around } hm
  obtain ⟨hdepth, hjumps⟩ := hleave m.around _ hgrown.depth hgrown.jumps
  exact hgrown.elsewhere hdepth hjumps

theorem grows_tooDeep : (tooDeep : Work α).Grows source :=
  (grows_onTokens (looks_peek _)).bind fun _ => grows_fail _

theorem Grows.nested {work : Work α} (h : work.Grows source) : work.nested.Grows source := by
  have hdeeper : (work.inside Surroundings.deeper
      fun _ a => { a with depth := a.depth - 1 }).Grows source := by
    refine h.inside fun outer a hdepth hjumps => ⟨?_, hjumps⟩
    show a.depth - 1 = outer.depth
    rw [hdepth]
    rfl
  intro m hm
  unfold Work.nested
  split
  · exact grows_tooDeep m hm
  · exact hdeeper m hm

theorem Grows.jumpBoundary {work : Work α} (h : work.Grows source) :
    work.jumpBoundary.Grows source := h.inside fun _ _ hdepth _ => ⟨hdepth, rfl⟩

theorem Grows.deferred {work : Work α} (h : work.Grows source) : work.deferred.Grows source := by
  intro m hm
  have hgrown := h.jumpBoundary
    { m with around := { m.around with functionDepth := m.around.functionDepth + 1 } } hm
  unfold Work.deferred
  generalize work.jumpBoundary _ = outcome at hgrown ⊢
  obtain ⟨answer, m'⟩ := outcome
  cases answer with
  | error e => exact hgrown.elsewhere hgrown.depth hgrown.jumps
  | ok a => exact hgrown.elsewhere hgrown.depth hgrown.jumps

theorem Grows.loopBody {work : Work α} (h : work.Grows source) : work.loopBody.Grows source := by
  refine h.inside fun outer a hdepth hjumps => ⟨hdepth, ?_⟩
  show { a.jumps with loops := a.jumps.loops - 1 } = outer.jumps
  rw [hjumps]
  rfl

theorem Grows.switchBody {work : Work α} (h : work.Grows source) :
    work.switchBody.Grows source := by
  refine h.inside fun outer a hdepth hjumps => ⟨hdepth, ?_⟩
  show { a.jumps with switches := a.jumps.switches - 1 } = outer.jumps
  rw [hjumps]
  rfl

theorem Grows.labelled {work : Work α} (h : work.Grows source) (label : Token) (isLoop : Bool) :
    (work.labelled label isLoop).Grows source := by
  intro m hm
  unfold Work.labelled
  split
  · exact .refl m
  · refine Grows.inside h ?_ m hm
    intro outer a hdepth hjumps
    refine ⟨hdepth, ?_⟩
    dsimp only
    rw [hjumps]
    simp [Surroundings.labelled]

theorem grows_loop {round : β → Work (Round β α)} (h : ∀ b, (round b).Grows source) (b : β) :
    Grows source (loop round b) := by
  intro m hm
  fun_induction loop round b m with
  | case1 b m e m' hround =>
    have hgrown := h b m hm
    rw [hround] at hgrown
    exact hgrown
  | case2 b m a m' hround =>
    have hgrown := h b m hm
    rw [hround] at hgrown
    exact hgrown
  | case3 b m b' m' hround hlt ih =>
    have hgrown := h b m hm
    rw [hround] at hgrown
    exact hgrown.trans (ih (hgrown.text source hm))
  | case4 b m b' m' hround hlt =>
    have hgrown := h b m hm
    rw [hround] at hgrown
    exact hgrown

theorem Grows.succeeds {work : Work Unit} (h : work.Grows source) : work.succeeds.Grows source :=
  h

/-- Also after going back nothing is lost. -/
theorem Grows.rewindable {work : Work (Option α)} (h : work.Grows source) :
    work.rewindable.Grows source := by
  intro m hm
  have hgrown := h m hm
  unfold Work.rewindable
  generalize work m = outcome at hgrown ⊢
  obtain ⟨answer, m'⟩ := outcome
  dsimp only at hgrown ⊢
  split
  · rename_i heq
    cases heq
    show m.Grown (m'.restore m.checkpoint)
    have htext : ∀ source, m.state.tokens.OfText source →
        (m'.restore m.checkpoint).state.tokens.OfText source := fun source hm =>
      (hgrown.text source hm).rewindTo _
    rw [Machine.restore_of_grown hgrown hm] at htext ⊢
    exact { Machine.Grown.refl m with text := htext }
  · exact hgrown

end Work
end ModuleBundler
