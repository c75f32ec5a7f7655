import ModuleBundler.Proofs.ClosedBundle
import ModuleBundler.Proofs.Syntax.Module
import ModuleBundler.Proofs.Syntax.Readings

/-!
# What items do when they are evaluated

* `Outline.evaluated` : what is done when a text is evaluated;
* `Outline.effects_subset` : of what is done, more is left out the more parts are;
* `keeps_of_hasSideEffects` : an item whose evaluation is noticed is kept;
* `evaluated_noted_iff` : the evaluation of an item is noticed if it does anything, unless it does
  nothing but assign to the targets of loops or wait in their rounds.
-/

namespace ModuleBundler

/-! ## Parts that are left out -/

/-- What is done when a text is evaluated: all but what is in functions and in fields of
instances. -/
def Outline.evaluated (o : Outline) : List Effect := o.effects NodeKind.isLater

/-- If fewer parts are left out, no less is done. -/
theorem Outline.effects_subset {skipped skipped' : NodeKind → Bool}
    (h : ∀ kind, skipped kind = true → skipped' kind = true) (o : Outline) :
    o.effects skipped' ⊆ o.effects skipped := by
  induction o with
  | nil => exact List.Subset.refl _
  | leaf l rest ih =>
    unfold effects
    exact List.append_subset.mpr
      ⟨List.subset_append_left _ _, List.Subset.trans ih (List.subset_append_right _ _)⟩
  | node kind inner rest ihinner ih =>
    unfold effects
    refine List.append_subset.mpr ⟨List.Subset.trans ?_ (List.subset_append_left _ _),
      List.Subset.trans ih (List.subset_append_right _ _)⟩
    by_cases hkind : skipped kind = true
    · rw [if_pos hkind, if_pos (h kind hkind)]
      exact List.Subset.refl _
    · rw [if_neg hkind]
      split
      · exact List.nil_subset _
      · exact ihinner

theorem Outline.isNoted_iff {o : Outline} : o.isNoted = true ↔
    ∃ e ∈ o.effects NodeKind.isDeferred, e ≠ .loopTarget ∧ e ≠ .loopAwait := by
  have hnoted : ∀ e : Effect, e.isNoted = true ↔ e ≠ .loopTarget ∧ e ≠ .loopAwait := by
    intro e
    cases e <;> decide
  unfold isNoted
  rw [List.any_eq_true]
  exact exists_congr fun e => and_congr_right fun _ => hnoted e

/-- What is evaluated is noticed but for what loops do by themselves. -/
theorem Outline.isNoted_of_mem_evaluated {o : Outline} {e : Effect} (h : e ∈ o.evaluated)
    (htarget : e ≠ .loopTarget) (hawait : e ≠ .loopAwait) : o.isNoted = true := by
  refine isNoted_iff.mpr ⟨e, ?_, htarget, hawait⟩
  exact effects_subset (fun _ => NodeKind.isLater_of_isDeferred) o h

/-! ## Items -/

/-- An item whose evaluation is noticed is kept. -/
theorem keeps_of_hasSideEffects {g : ModuleGraph} {module index : Nat} {m : SourceModule}
    {item : ModuleItem} (hat : g.ItemAt module index m item) (h : item.hasSideEffects = true)
    (l : Linkage) (dropUnused : Bool) : (shake g l dropUnused).keeps module index = true :=
  (shake_suffices g l dropUnused).root module index m item hat (.inr (.inr (.inr h)))

/-- **When the evaluation of an item is noticed.** An item of a module that does something when it
is evaluated has side effects, so that it is kept in every bundle, if and only if something else is
done along with what loops do by themselves: assign to a target that they do not declare, and wait
in each round. -/
theorem evaluated_noted_iff {source : String} {record : ModuleRecord}
    (h : parseModule source = .ok record) :
    ∃ o, RecordOutlined source record o ∧ ∀ (index : Nat) item,
      record.items[index]? = some item → ∃ before own after, o = before ++ (own ++ after) ∧
        ItemOutlined before own item ∧
        ((own.evaluated ≠ [] → item.hasSideEffects = true ∧
            ∀ g l dropUnused (module : Nat) m, g.modules[module]? = some m → m.record = record →
              (shake g l dropUnused).keeps module index = true) ↔
          (.loopTarget ∈ own.evaluated ∨ .loopAwait ∈ own.evaluated →
            ∃ e ∈ own.effects NodeKind.isDeferred, e ≠ .loopTarget ∧ e ≠ .loopAwait)) := by
  obtain ⟨o, ho⟩ := parseModule_outlined h
  refine ⟨o, ho, fun index item hitem => ?_⟩
  obtain ⟨before, own, after, heq, hown⟩ :=
    ho.items.split (Array.mem_toList_iff.mpr (Array.mem_of_getElem? hitem))
  refine ⟨before, own, after, heq, hown, ?_⟩
  rw [← Outline.isNoted_iff, hown.hasSideEffects]
  constructor
  · rintro hnoted (hmem | hmem)
    · exact (hnoted (List.ne_nil_of_mem hmem)).1
    · exact (hnoted (List.ne_nil_of_mem hmem)).1
  · intro hloops hne
    have hnoted : own.isNoted = true := by
      obtain ⟨e, he⟩ := List.exists_mem_of_ne_nil _ hne
      by_cases htarget : e = .loopTarget
      · exact hloops (.inl (htarget ▸ he))
      · by_cases hawait : e = .loopAwait
        · exact hloops (.inr (hawait ▸ he))
        · exact Outline.isNoted_of_mem_evaluated he htarget hawait
    refine ⟨hnoted, fun g l dropUnused module m hm hrecord => ?_⟩
    exact keeps_of_hasSideEffects ⟨hm, hrecord ▸ hitem⟩ (hown.hasSideEffects.trans hnoted) l
      dropUnused

/-- A class with a loop over what is called for. -/
def calledLoop : String := "class C \x7b static \x7b for (globalThis.y of f()); \x7d \x7d"

/-- The call is noticed along with the loop. -/
theorem calledLoop_noted : ∃ record item own, parseModule calledLoop = .ok record ∧
    record.items[0]? = some item ∧ Derives syntaxRules Phrase.moduleItem own ∧
      item.span = extent own.tokens ∧ (own.evaluated ≠ [] → item.hasSideEffects = true) := by
  have hread : ((parseModule calledLoop).toOption.any fun record =>
      record.items[0]?.any ModuleItem.hasSideEffects) = true := by
    decide +kernel
  cases hrecord : parseModule calledLoop with
  | error e =>
    rw [hrecord] at hread
    cases hread
  | ok record =>
    rw [hrecord] at hread
    obtain ⟨item, hitem, heffects⟩ := (Option.any_eq_true _ record.items[0]?).mp hread
    obtain ⟨o, -, hitems⟩ := evaluated_noted_iff hrecord
    obtain ⟨before, own, after, -, hown, hiff⟩ := hitems 0 item hitem
    refine ⟨record, item, own, rfl, hitem, hown.derives, hown.span, fun hne => ?_⟩
    refine (hiff.mpr (fun _ => ?_) hne).1
    exact Outline.isNoted_iff.mp (hown.hasSideEffects.symm.trans heffects)

/-- A class that assigns to a property of the global object by a loop when it is defined. -/
def staticLoop : String := "export class C \x7b static \x7b for (globalThis.y of [1]); \x7d \x7d\n"

def beforeStaticLoop : ModuleProvider where
  resolve specifier _ := .ok (.module (.file specifier))
  load
    | .file "/index.js" => .text "import \"./a.js\";\nf(globalThis.y);\n"
    | .file "./a.js" => .text staticLoop
    | id => .failed (.missing id.text)

/-- The class is dropped, and nothing is assigned. -/
theorem staticLoop_dropped : ∃ loads bundle g l m item o,
    compile beforeStaticLoop .default (fun _ => false) 5 = some ⟨loads, .ok bundle⟩ ∧
      bundle.code = "f(globalThis.y);\n" ∧
      discover beforeStaticLoop (fun _ => false) 5 = some ⟨loads, .ok g⟩ ∧ link g = .ok l ∧
      g.ItemAt 1 0 m item ∧ m.source = staticLoop ∧ item.hasSideEffects = false ∧
      (shake g l true).keeps 1 0 = false ∧ Derives syntaxRules Phrase.moduleItem o ∧
      ReadFrom (.ofString staticLoop) o.tokens ∧
      m.record.tokenStarts = o.tokens.map (fun b => b.token.span.start) ∧
      item.span = extent o.tokens ∧ .loopTarget ∈ o.evaluated := by
  have hcompiled : ((compile beforeStaticLoop .default (fun _ => false) 5).any fun logged =>
      logged.result.toOption.any fun bundle => bundle.code = "f(globalThis.y);\n") = true := by
    decide +kernel
  have hlinked : ((discover beforeStaticLoop (fun _ => false) 5).any fun logged =>
      logged.result.toOption.any fun g => (link g).toOption.any fun l =>
        g.modules[1]?.any fun m => m.record.items[0]?.any fun item =>
          m.source = staticLoop ∧ item.hasSideEffects = false ∧
          (shake g l true).keeps 1 0 = false ∧
          m.record.tokenStarts =
            (standardTokens 20 (.ofString staticLoop)).map (fun b => b.token.span.start) ∧
          item.span = extent (standardTokens 20 (.ofString staticLoop))) = true := by
    decide +kernel
  have hfound : ((Phrase.moduleItem.readings (readingsWithin syntaxRules 8) 8
      (standardTokens 20 (.ofString staticLoop))).any fun read =>
        read.2.isEmpty && decide (.loopTarget ∈ read.1.evaluated)) = true := by
    decide +kernel
  obtain ⟨⟨loads, result⟩, hcompile, hbundle⟩ := (Option.any_eq_true _ _).mp hcompiled
  obtain ⟨loads', g, l, hdiscover, hlink, h⟩ := exists_linked_of_any hlinked
  obtain ⟨m, hm, h⟩ := (Option.any_eq_true _ _).mp h
  obtain ⟨item, hitem, h⟩ := (Option.any_eq_true _ _).mp h
  obtain ⟨hsource, heffects, hdropped, hstarts, hspan⟩ := of_decide_eq_true h
  obtain ⟨⟨o, rest⟩, hmem, h⟩ := List.any_eq_true.mp hfound
  obtain ⟨hall, hloop⟩ := Bool.and_eq_true_iff.mp h
  obtain ⟨hderives, htokens, hread⟩ := Phrase.of_mem_readings_text hmem hall
  rw [← htokens] at hstarts hspan
  cases result with
  | error => cases hbundle
  | ok bundle =>
    obtain ⟨g', l', output, hdiscover', -, -, -⟩ := compile_eq_ok hcompile
    cases hdiscover.symm.trans hdiscover'
    exact ⟨loads, bundle, g, l, m, item, o, hcompile, of_decide_eq_true hbundle, hdiscover, hlink,
      ⟨hm, hitem⟩, hsource, heffects, hdropped, hderives, hread, hstarts, hspan,
      of_decide_eq_true hloop⟩

end ModuleBundler
