import Mathlib.Order.Bounds.Basic
import ShaderGraph.Proofs.Dialect.Source
import ShaderGraph.Proofs.Program.Needed

/-!
# Helpers of a source text

The helpers of a program are the least set that has those it calls and is closed under what helpers
call. They are listed in declaration order, in which every helper stands behind those it calls. A
source text defines exactly these helpers, each once and whole, behind the helpers and the samplers
that its text mentions and in front of the main function.
-/

set_option autoImplicit false

namespace ShaderGraph

open Relation (ReflTransGen)

/-! ## The least set of helpers -/

/-- Whether a set has every helper that a program calls, and with each function those it calls. -/
structure Program.Supplied (program : Program) (needed : Set Builtin) : Prop where
  called : ∀ f args, .call f args ∈ program.parts → f.isHelper = true → f ∈ needed
  dependencies : ∀ f ∈ needed, ∀ g ∈ f.dependencies, g ∈ needed

namespace Builtin

variable {f g : Builtin} {called : List Builtin}

/-- A function calls only helpers. -/
theorem dependencies_helpers (f : Builtin) : ∀ g ∈ f.dependencies, g ∈ helpers := by
  cases f <;> decide

/-- A function takes a texture if it leads to one that does. -/
theorem takesTexture_of_led (hled : ReflTransGen Calls f g) (hg : g.takesTexture = true) :
    f.takesTexture = true := by
  have hcaller : ∀ f : Builtin, ∀ g ∈ f.dependencies, g.takesTexture = true →
      f.takesTexture = true := by
    intro f
    cases f <;> decide
  induction hled using ReflTransGen.head_induction_on with
  | refl => exact hg
  | head hcalls _ ih => exact hcaller _ _ hcalls ih

/-- Nothing in declaration order calls what stands behind it. -/
theorem all_ordered : all.Pairwise fun f g => g ∉ f.dependencies := by decide

/-- In declaration order, the helpers that a helper calls can only stand before it. -/
theorem mem_before {first rest : List Builtin} (hordered : (first ++ f :: rest).Sublist helpers)
    (hmem : g ∈ first ++ f :: rest) (hne : g ≠ f) (hdep : g ∈ f.dependencies) : g ∈ first := by
  rcases List.mem_append.mp hmem with hmem | hmem
  · exact hmem
  · have hpairs := (all_ordered.filter isHelper).sublist hordered
    have hlater := (List.pairwise_cons.mp (List.pairwise_append.mp hpairs).2.1).1
    exact absurd hdep (hlater g ((List.mem_cons.mp hmem).resolve_left hne))

/-- Only helpers are ever needed. -/
theorem closure_helpers : ∀ f ∈ closure called, f ∈ helpers := by
  intro f hf
  obtain ⟨h, -, hhelper, hled⟩ := mem_closure.mp hf
  cases hled with
  | refl => exact mem_helpers.mpr hhelper
  | tail _ hcalls => exact dependencies_helpers _ f hcalls

/-- The helpers are listed in declaration order, each once. -/
theorem closure_sublist (called : List Builtin) : (closure called).Sublist helpers := by
  have hfilter : closure called = (closure called).filter isHelper :=
    (List.filter_eq_self.mpr fun f hf => mem_helpers.mp (closure_helpers f hf)).symm
  rw [hfilter]
  exact List.filter_sublist.filter _

end Builtin

/-- The functions that a program calls are those of the calls among its parts. -/
theorem Program.mem_called {program : Program} {f : Builtin} :
    f ∈ program.parts.filterMap Expr.called? ↔ ∃ args, .call f args ∈ program.parts := by
  have hcall : ∀ part : Expr, part.called? = some f ↔ ∃ args, part = .call f args := by
    intro part
    cases part <;> simp [Expr.called?]
  simp only [List.mem_filterMap, hcall]
  constructor
  · rintro ⟨_, hpart, args, rfl⟩
    exact ⟨args, hpart⟩
  · rintro ⟨args, hpart⟩
    exact ⟨_, hpart, args, rfl⟩

/-- **The helpers of a program are the least set that it needs.** -/
theorem Program.isLeast_closure (program : Program) :
    IsLeast {needed | program.Supplied needed}
      {f | f ∈ Builtin.closure (program.parts.filterMap Expr.called?)} := by
  constructor
  · constructor
    · intro f args hcall hhelper
      exact Builtin.mem_closure.mpr ⟨f, mem_called.mpr ⟨args, hcall⟩, hhelper, .refl⟩
    · intro f hf g hg
      exact Builtin.closure_dependencies hf hg
  · intro needed hneeded f hf
    obtain ⟨h, hcalled, hhelper, hled⟩ := Builtin.mem_closure.mp hf
    obtain ⟨args, hcall⟩ := mem_called.mp hcalled
    induction hled with
    | refl => exact hneeded.called h args hcall hhelper
    | tail hled hcalls ih =>
      exact hneeded.dependencies _ (ih (Builtin.mem_closure.mpr ⟨h, hcalled, hhelper, hled⟩)) _
        hcalls

/-! ## The definitions in a source text -/

namespace Backend

/-- Whether the text of a helper has a place in a source text: it defines the helper, what it
mentions stands before it, and the main function begins behind it. -/
structure Placed (backend : Backend) (f : Builtin) (before text after : List (List Char)) :
    Prop where
  defined : ∃ line ∈ text, f.definedIn line = true
  /-- The helpers that it calls are defined before. -/
  callees : ∀ g, g.isHelper = true → g ≠ f → (∃ line ∈ text, g.namedIn line = true) →
    ∃ line ∈ before, g.definedIn line = true
  /-- The samplers that it uses are bound before. -/
  samplers : ∀ sampler ∈ samplerNames, (∃ line ∈ text, occursIn sampler line = true) →
    ∃ line ∈ before, ∃ binding,
      backend.binding? line = some (binding, (samplerBinding sampler).toList)
  main_after : backend.mainLine.toList ∈ after
  main_before : backend.mainLine.toList ∉ before

/-- What can be read off the lines of a source text about the helpers of a program. -/
structure Defines (backend : Backend) (features : List Builtin) (lines : List (List Char)) :
    Prop where
  /-- Each helper of the program is defined once, and no other is. -/
  once : ∀ f, f.isHelper = true → lines.countP f.definedIn = if f ∈ features then 1 else 0
  /-- The text of each has a place. -/
  placed : ∀ f ∈ features, ∃ before after,
    lines = before ++ (backend.dialect.helper f).map String.toList ++ after ∧
      backend.Placed f before ((backend.dialect.helper f).map String.toList) after

variable {backend : Backend} {table : ParameterTable} {features : List Builtin} {body : List String}

/-- Lines that begin no function. -/
def Silent (backend : Backend) (text : List (List Char)) : Prop :=
  (∀ f ∈ Builtin.helpers, text.countP f.definedIn = 0) ∧ backend.mainLine.toList ∉ text

/-- Lines behind lines that begin no function begin none either, if they do not by themselves. -/
theorem Silent.append {a b : List (List Char)} (ha : backend.Silent a) (hb : backend.Silent b) :
    backend.Silent (a ++ b) := by
  refine ⟨fun f hf => ?_, ?_⟩
  · rw [List.countP_append, ha.1 f hf, hb.1 f hf]
  · exact fun h => (List.mem_append.mp h).elim ha.2 hb.2

/-- Some of the lines of a silent text are silent. -/
theorem Silent.mono {part text : List (List Char)} (h : backend.Silent text) (hpart : part ⊆ text) :
    backend.Silent part := by
  refine ⟨fun f hf => ?_, fun hmain => h.2 (hpart hmain)⟩
  rw [List.countP_eq_zero]
  exact fun line hline => List.countP_eq_zero.mp (h.1 f hf) line (hpart hline)

/-- Fixed lines begin no function. -/
theorem FixedText.silent {text : List (List Char)} (h : backend.FixedText text) :
    backend.Silent text := by
  refine ⟨fun f hf => ?_, h.notMain⟩
  rw [List.countP_eq_zero]
  exact fun line hline => Bool.eq_false_iff.mp (h.undefined f hf line hline)

/-- The opening, the interface and the head of the main function begin no function. -/
theorem silent_fixed {lines : List String} (hlines : lines ⊆ backend.dialect.opening ++
    backend.dialect.interface ++ backend.dialect.mainHead.1) :
    backend.Silent (lines.map String.toList) :=
  backend.fixedText.1.silent.mono (List.map_subset _ hlines)

/-- The lines that declare resources begin no function. -/
theorem silent_resources (hnames : ∀ p ∈ table.entries, p.name = paramName p.slot) :
    backend.Silent (backend.resourcesText (backend.dialect.resources table).zipIdx) := by
  have htext : ∀ entry ∈ (backend.dialect.resources table).zipIdx, backend.ResourceText entry.2
      entry.1 ((backend.dialect.declare entry.2 entry.1).map String.toList) := fun entry hentry =>
    resourceText _ (backend.binds_of_mem_resources hnames entry hentry)
  refine ⟨fun f hf => ?_, fun hmain => ?_⟩
  · rw [List.countP_eq_zero]
    intro line hline
    obtain ⟨entry, hentry, hline⟩ := List.mem_flatMap.mp hline
    exact Bool.eq_false_iff.mp ((htext entry hentry).undefined f hf line hline)
  · obtain ⟨entry, hentry, hmain⟩ := List.mem_flatMap.mp hmain
    exact (htext entry hentry).notMain hmain

/-- An empty line begins no function. -/
theorem silent_empty (backend : Backend) : backend.Silent [[]] := by
  refine ⟨by decide, ?_⟩
  cases backend <;> decide

/-- The lines of helpers define each of them as often as it is listed. -/
theorem countP_helperLines (hfeatures : ∀ f ∈ features, f ∈ Builtin.helpers) {g : Builtin}
    (hg : g ∈ Builtin.helpers) :
    ((backend.dialect.helperLines features).map String.toList).countP g.definedIn =
      features.count g := by
  induction features with
  | nil => rfl
  | cons f rest ih =>
    obtain ⟨hf, hrest⟩ := List.forall_mem_cons.mp hfeatures
    have hcons : (backend.dialect.helperLines (f :: rest)).map String.toList =
        [] :: (backend.dialect.helper f).map String.toList ++
          (backend.dialect.helperLines rest).map String.toList := by
      simp [Dialect.helperLines, Builtin.mem_helpers.mp hf]
    have hempty : g.definedIn [] = false := Builtin.definedIn_eq_false (by decide)
    have hcount : (if f == g then 1 else 0) = if g = f then 1 else 0 := by
      by_cases h : g = f
      · rw [if_pos h, if_pos (beq_iff_eq.mpr h.symm)]
      · rw [if_neg h, if_neg fun heq => h (beq_iff_eq.mp heq).symm]
    rw [hcons, List.countP_append, List.countP_cons, hempty, (backend.helperText hf).defined g hg,
      ih hrest, List.count_cons, hcount]
    simp only [Bool.false_eq_true, if_false]
    omega

/-- The main function does not begin among the helpers. -/
theorem main_not_mem_helperLines (hfeatures : ∀ f ∈ features, f ∈ Builtin.helpers) :
    backend.mainLine.toList ∉ (backend.dialect.helperLines features).map String.toList := by
  intro hmain
  obtain ⟨text, htext, hmain⟩ := List.mem_map.mp hmain
  obtain ⟨f, hf, htext⟩ := List.mem_flatMap.mp htext
  rcases List.mem_cons.mp htext with rfl | htext
  · exact backend.silent_empty.2 (hmain ▸ List.mem_cons_self)
  · exact (backend.helperText (hfeatures f (List.mem_of_mem_filter hf))).notMain
      (hmain ▸ List.mem_map_of_mem htext)

/-- The main function defines no helper. -/
theorem countP_mainText (hbody : ∀ line ∈ body, backend.dialect.BodyLine line) {f : Builtin}
    (hf : f ∈ Builtin.helpers) : (backend.mainText body).countP f.definedIn = 0 := by
  have hhead : backend.Silent (backend.dialect.mainHead.1.map String.toList) :=
    silent_fixed (List.subset_append_right _ _)
  rw [mainText_eq, List.countP_append, hhead.1 f hf, Nat.zero_add, List.countP_eq_zero]
  intro line hline
  apply Bool.eq_false_iff.mp
  simp only [List.mem_append, List.mem_cons, List.not_mem_nil, or_false] at hline
  rcases hline with rfl | hline | rfl
  · exact backend.mainLine_fixed.2.2 f hf
  · obtain ⟨text, htext, rfl⟩ := List.mem_map.mp hline
    exact Builtin.definedIn_eq_false (bodyLine_last (hbody text htext))
  · exact Builtin.definedIn_eq_false (by decide)

/-- The lines in front of the helpers. -/
def frontText (backend : Backend) (table : ParameterTable) : List (List Char) :=
  backend.dialect.opening.map String.toList ++
    backend.resourcesText (backend.dialect.resources table).zipIdx ++
    backend.dialect.interface.map String.toList

/-- Nothing in front of the helpers begins a function. -/
theorem silent_front (backend : Backend)
    (hnames : ∀ p ∈ table.entries, p.name = paramName p.slot) :
    backend.Silent (backend.frontText table) := by
  have hopening : backend.Silent (backend.dialect.opening.map String.toList) :=
    silent_fixed (by simp)
  have hinterface : backend.Silent (backend.dialect.interface.map String.toList) :=
    silent_fixed (by simp)
  exact (hopening.append (silent_resources hnames)).append hinterface

/-- Where textures are bound, the samplers stand before the helpers. -/
theorem sampler_mem_front (hnames : ∀ p ∈ table.entries, p.name = paramName p.slot)
    (htextures : table.textures ≠ []) {sampler : String}
    (hsampler : sampler ∈ backend.samplers) :
    ∃ line ∈ backend.frontText table, ∃ binding,
      backend.binding? line = some (binding, (samplerBinding sampler).toList) := by
  have hresource : .sampler sampler ∈ backend.dialect.resources table := by
    rw [resources_eq]
    simp [htextures, hsampler]
  obtain ⟨binding, hentry⟩ : ∃ binding,
      (.sampler sampler, binding) ∈ (backend.dialect.resources table).zipIdx := by
    rw [← List.zipIdx_map_fst 0 (backend.dialect.resources table)] at hresource
    obtain ⟨⟨_, binding⟩, hentry, rfl⟩ := List.mem_map.mp hresource
    exact ⟨binding, hentry⟩
  have hmem : (binding, (samplerBinding sampler).toList) ∈ (backend.resourcesText
      (backend.dialect.resources table).zipIdx).filterMap backend.binding? := by
    rw [filterMap_resourcesText (backend.binds_of_mem_resources hnames)]
    exact List.mem_map.mpr ⟨_, hentry, rfl⟩
  obtain ⟨line, hline, hbinding⟩ := List.mem_filterMap.mp hmem
  exact ⟨line, List.mem_append_left _ (List.mem_append_right _ hline), binding, hbinding⟩

/-- **The helpers of a source text** are those it was written with: each is defined once, behind
what it mentions and in front of the main function. -/
theorem defines_sourceLines (hnames : ∀ p ∈ table.entries, p.name = paramName p.slot)
    (hfeatures : features.Sublist Builtin.helpers)
    (hclosed : ∀ f ∈ features, ∀ g ∈ f.dependencies, g ∈ features)
    (htextures : ∀ f ∈ features, f.takesTexture = true → table.textures ≠ [])
    (hbody : ∀ line ∈ body, backend.dialect.BodyLine line) :
    backend.Defines features
      ((backend.dialect.sourceLines table features body).map String.toList) := by
  have hhelpers : ∀ f ∈ features, f ∈ Builtin.helpers := fun f hf => hfeatures.subset hf
  have hlines : (backend.dialect.sourceLines table features body).map String.toList =
      backend.frontText table ++ (backend.dialect.helperLines features).map String.toList ++
        [] :: backend.mainText body := by
    rw [sourceText_eq]
    simp [frontText]
  have hfront := backend.silent_front hnames
  constructor
  · intro f hf
    have hf := Builtin.mem_helpers.mpr hf
    have hnodup : features.Nodup := (Builtin.all_nodup.filter _).sublist hfeatures
    rw [hlines, List.countP_append, List.countP_append, hfront.1 f hf,
      countP_helperLines hhelpers hf, List.countP_cons, countP_mainText hbody hf,
      Builtin.definedIn_eq_false (by decide), hnodup.count]
    simp
  · intro f hf
    obtain ⟨first, rest, rfl⟩ := List.append_of_mem hf
    have hf := hhelpers f hf
    have htext := backend.helperText hf
    refine ⟨
      backend.frontText table ++ (backend.dialect.helperLines first).map String.toList ++ [[]],
      (backend.dialect.helperLines rest).map String.toList ++ [] :: backend.mainText body, ?_, ?_⟩
    · rw [hlines]
      simp [Dialect.helperLines, Builtin.mem_helpers.mp hf]
    have hfirst : ∀ g ∈ first, g ∈ Builtin.helpers := fun g hg =>
      hhelpers g (List.mem_append_left _ hg)
    constructor
    · rw [← List.countP_pos_iff, htext.defined f hf, if_pos rfl]
      exact Nat.one_pos
    · intro g hg hne hnamed
      have hg := Builtin.mem_helpers.mpr hg
      have hdep : g ∈ f.dependencies :=
        (htext.named g hg (List.any_eq_true.mpr hnamed)).resolve_left hne
      have hbefore := Builtin.mem_before hfeatures (hclosed f (by simp) g hdep) hne hdep
      have hdefined :
          0 < ((backend.dialect.helperLines first).map String.toList).countP g.definedIn := by
        rw [countP_helperLines hfirst hg]
        exact List.count_pos_iff.mpr hbefore
      obtain ⟨line, hline, hdefined⟩ := List.countP_pos_iff.mp hdefined
      exact ⟨line, by simp [hline], hdefined⟩
    · intro sampler hsampler hused
      obtain ⟨hbound, htakes⟩ := htext.sampled sampler hsampler (List.any_eq_true.mpr hused)
      obtain ⟨line, hline, hbinding⟩ :=
        sampler_mem_front hnames (htextures f (by simp) htakes) hbound
      exact ⟨line, by simp [hline], hbinding⟩
    · rw [mainText_eq]
      simp
    · simp only [List.mem_append, not_or]
      exact ⟨⟨hfront.2, main_not_mem_helperLines hfirst⟩, backend.silent_empty.2⟩

end Backend

end ShaderGraph
