import ShaderGraph.Proofs.Dialect.Layout
import ShaderGraph.Proofs.Lowering.Agreement
import ShaderGraph.Proofs.Lowering.Emission
import ShaderGraph.Proofs.Session.Calls

/-!
# The compiled shader is never stale

Compiling anew always succeeds while there is an output node, and gives the program of the live
graph. Refreshing the parameters gives the same, provided that the shader at hand differs from the
program of the live graph in its parameters only. Every call that lets the live graph differ in more
compiles anew, so the proviso holds whenever parameters are refreshed, and after every call the
shader is that of the live graph.
-/

set_option autoImplicit false

namespace ShaderGraph

namespace Graph

variable {g : Graph} {output : NodeId}

/-- An order that is kept is not worked out again. -/
theorem Consistent.generateCode_twice (hg : g.Consistent) :
    g.generateCode.2.generateCode.2 = g.generateCode.2 := by
  rw [generateCode_snd, generateCode_snd, hg.nodesByOrder_eq]
  rfl

end Graph

namespace Session

variable {n : Nat} {s : Session} {output : NodeId}

/-! ## Compiling -/

/-- Compiling anew gives the program of the output node, and its source in the selected language. -/
theorem rebuild_eq (hg : s.graph.Consistent) (ho : s.graph.outputNode? = some output) :
    ∃ source, s.backend.emit (s.graph.programFor output) = .ok source ∧
      s.rebuild = (.ok ⟨s.backend, s.graph.programFor output, source⟩,
        { s with
          graph := s.graph.generateCode.2
          artifact := some ⟨s.backend, s.graph.programFor output, source⟩ }) := by
  obtain ⟨source, hsource⟩ := hg.toWellFormed.exists_source ho s.backend
  have hcode : s.graph.generateCode = (.ok (s.graph.programFor output), s.graph.generateCode.2) :=
    Prod.ext (hg.generateCode_eq ho) rfl
  refine ⟨source, hsource, ?_⟩
  rw [rebuild, hcode]
  simp only [hsource]

/-- Without an output node, compiling anew fails and leaves the shader in place. -/
theorem rebuild_eq_missing (hg : s.graph.Consistent) (ho : s.graph.outputNode? = none) :
    s.rebuild =
      (.error (.lowering .missingOutput), { s with graph := s.graph.generateCode.2 }) := by
  have hcode : s.graph.generateCode = (.error .missingOutput, s.graph.generateCode.2) :=
    Prod.ext (hg.generate_eq_missing ho).1 rfl
  rw [rebuild, hcode]

/-- Whether the source of the shader is what its backend writes for its program. -/
def Written (s : Session) : Prop :=
  ∀ a, s.artifact = some a → a.backend.emit a.program = .ok a.source

/-- Whether the shader is one for the selected backend, and its program that of the live graph up to
the parameters, if the live graph has an output node. -/
def Refreshable (s : Session) : Prop :=
  ∀ output, s.graph.outputNode? = some output → ∃ a, s.artifact = some a ∧
    a.backend = s.backend ∧ s.graph.programFor output =
      { a.program with parameters := (s.graph.programFor output).parameters }

/-- **Refreshing is compiling anew**, if the shader differs from the live graph in its parameters
only. -/
theorem preview_eq_rebuild (hg : s.graph.Consistent) (hw : s.Written) (hr : s.Refreshable) :
    s.preview = s.rebuild := by
  cases ho : s.graph.outputNode? with
  | none =>
    have hparameters : s.graph.generateParameters =
        (.error .missingOutput, s.graph.generateCode.2) :=
      Prod.ext (hg.generate_eq_missing ho).2 rfl
    rw [rebuild_eq_missing hg ho, preview_eq, hparameters]
  | some output =>
    obtain ⟨a, ha, hbackend, hprogram⟩ := hr output ho
    obtain ⟨source, hsource, hrebuild⟩ := rebuild_eq hg ho
    have hparameters : s.graph.generateParameters =
        (.ok (s.graph.programFor output).parameters, s.graph.generateCode.2) :=
      Prod.ext (hg.generateParameters_eq ho) rfl
    rw [preview_eq, hparameters]
    cases hlayout : a.program.parameters.sameLayout (s.graph.programFor output).parameters with
    | true =>
      -- the text does not depend on the values of the parameters
      have hsame : a.source = source := by
        have htext : s.backend.emit (s.graph.programFor output) = s.backend.emit a.program := by
          rw [hprogram]
          exact s.backend.dialect_seesLayout.emit_eq hlayout
        rw [← hbackend] at hsource htext
        exact Except.ok.inj ((hw a ha).symm.trans (htext.symm.trans hsource))
      simp [refreshed?, ha, hbackend, Program.refresh?_eq, hlayout, ← hprogram, hsame, hrebuild]
    | false =>
      have hnone : s.refreshed? (s.graph.programFor output).parameters = none := by
        simp [refreshed?, ha, hbackend, Program.refresh?_eq, hlayout]
      simp only [hnone]
      obtain ⟨source', hsource', hagain⟩ := rebuild_eq
        (s := { s with graph := s.graph.generateCode.2 }) hg.nodesByOrder
        ((s.graph.generateCode_outputNode?).trans ho)
      have hkept : s.graph.generateCode.2.programFor output = s.graph.programFor output :=
        s.graph.generateCode_agrees.programFor_eq_of_content hg.ids_distinct
      simp only [hkept] at hsource' hagain
      obtain rfl : source = source' := Except.ok.inj (hsource.symm.trans hsource')
      rw [hagain, hrebuild]
      simp only [hg.generateCode_twice]

/-! ## What every call keeps -/

/-- A session whose graphs were made within `n` allocations, whose shader is written as its program
says, and whose shader is that of the live graph if this has an output node. -/
structure Sound (n : Nat) (s : Session) : Prop extends s.MadeWithin n where
  written : s.Written
  current : ∀ output, s.graph.outputNode? = some output → ∃ a, s.artifact = some a ∧
    a.backend = s.backend ∧ a.program = s.graph.programFor output

namespace Sound

/-- A bound on the allocations can be raised for a sound session. -/
theorem mono {m : Nat} (hs : s.Sound n) (hnm : n ≤ m) : s.Sound m :=
  ⟨⟨hs.graph.mono hnm, hs.history.mono hnm⟩, hs.written, hs.current⟩

/-- Where the document is kept has no part in being sound. -/
theorem withFile (hs : s.Sound n) (path : Option Path) (dirty : Bool) (recent : List Path) :
    ({ s with path, dirty, recent } : Session).Sound n :=
  ⟨⟨hs.graph, hs.history⟩, hs.written, hs.current⟩

/-- The shader of a sound session can be refreshed. -/
theorem refreshable (hs : s.Sound n) : s.Refreshable := by
  intro output ho
  obtain ⟨a, ha, hbackend, hprogram⟩ := hs.current output ho
  exact ⟨a, ha, hbackend, by rw [hprogram]⟩

/-- **Compiling anew makes a session sound**, whatever the live graph was before. -/
theorem rebuild (hn : n < 2 ^ 63) (hs : s.MadeWithin n) (hw : s.Written) : s.rebuild.2.Sound n := by
  have hg := (hs.graph.reachable hn).consistent
  cases ho : s.graph.outputNode? with
  | none =>
    rw [rebuild_eq_missing hg ho]
    refine ⟨⟨hs.graph.generateCode, hs.history⟩, hw, fun output houtput => ?_⟩
    have hnone := (s.graph.generateCode_outputNode?).trans ho
    exact absurd (houtput.symm.trans hnone) (by simp)
  | some output =>
    obtain ⟨source, hsource, hrebuild⟩ := rebuild_eq hg ho
    rw [hrebuild]
    refine ⟨⟨hs.graph.generateCode, hs.history⟩, ?_, fun output' houtput => ?_⟩
    · rintro a ha
      obtain rfl := Option.some.inj ha
      exact hsource
    · have hsome := (s.graph.generateCode_outputNode?).trans ho
      obtain rfl : output' = output := Option.some.inj (houtput.symm.trans hsome)
      exact ⟨_, rfl, rfl,
        (s.graph.generateCode_agrees.programFor_eq_of_content hg.ids_distinct).symm⟩

/-- Recording the live graph keeps a session sound. -/
theorem recordLive (hs : s.Sound n) : s.recordLive.Sound n :=
  ⟨⟨hs.graph, hs.history.record hs.graph⟩, hs.written, hs.current⟩

/-- Compiling keeps a session sound. -/
theorem compile (hn : n < 2 ^ 63) (hs : s.Sound n) (mode : CompileMode) :
    (s.compile mode).2.Sound n := by
  cases mode with
  | preview =>
    have hpreview : s.compile .preview = s.rebuild :=
      preview_eq_rebuild (hs.graph.reachable hn).consistent hs.written hs.refreshable
    rw [hpreview]
    exact rebuild hn hs.toMadeWithin hs.written
  | commit => exact rebuild hn hs.recordLive.toMadeWithin hs.written

/-- Commands keep a session sound. -/
theorem execute {m : Nat} (hs : s.Sound n) (command : EditCommand) (hm : m < 2 ^ 63)
    (hroom : n + command.call.allocations s.graph ≤ m) : (s.execute command).2.Sound m := by
  have hg := (hs.graph.reachable (by omega)).consistent
  have hd := hg.ids_distinct
  cases hexec : command.execute s.graph with
  | error e =>
    simp only [Session.execute_eq, hexec]
    exact hs.mono (by omega)
  | ok result =>
    obtain ⟨outcome, h⟩ := result
    have hstep := EditCommand.execute_eq_ok_iff.mp hexec
    have hh : h.MadeWithin m := by
      rw [hstep.eq_apply]
      exact (hs.graph.apply command.call).mono hroom
    have hhistory : s.history.MadeWithin m := hs.history.mono (by omega)
    simp only [Session.execute_eq, hexec]
    cases hchanged : outcome.changed with
    | false =>
      -- nothing that the program depends on is different
      have hagree := hstep.agrees_of_unchanged hg.toWellFormed hchanged
      refine ⟨⟨hh, hhistory⟩, hs.written, fun output ho => ?_⟩
      obtain ⟨a, ha, hbackend, hprogram⟩ :=
        hs.current output (hagree.skeleton.outputNode?_eq.symm.trans ho)
      exact ⟨a, ha, hbackend, hprogram.trans (hagree.programFor_eq_of_content hd).symm⟩
    | true =>
      cases hstructural : outcome.structural with
      | true => exact rebuild hm ⟨hh, hhistory.record hh⟩ hs.written
      | false =>
        -- nothing that the statements depend on is different
        have hagree := hstep.agrees_of_not_structural hg.toWellFormed hstructural
        let edited : Session := { s with graph := h, dirty := true }
        have hrefreshable : edited.Refreshable := by
          intro output ho
          obtain ⟨a, ha, hbackend, hprogram⟩ :=
            hs.current output (hagree.outputNode?_eq.symm.trans ho)
          refine ⟨a, ha, hbackend, ?_⟩
          rw [hprogram]
          exact hagree.programFor_eq hd
        have hpreview : edited.preview = edited.rebuild :=
          preview_eq_rebuild (hh.reachable hm).consistent hs.written hrefreshable
        change edited.preview.2.Sound m
        rw [hpreview]
        exact rebuild hm ⟨hh, hhistory⟩ hs.written

/-- Stepping back keeps a session sound. -/
theorem undo (hn : n < 2 ^ 63) (hs : s.Sound n) : s.undo.2.Sound n := by
  obtain ⟨hgraph, hhistory⟩ := hs.recordLive.history.stepBack hs.graph
  unfold Session.undo
  simp only
  split_ifs
  · exact rebuild hn ⟨hgraph, hhistory⟩ hs.written
  · exact hs.recordLive

/-- Stepping forward keeps a session sound. -/
theorem redo (hn : n < 2 ^ 63) (hs : s.Sound n) : s.redo.2.Sound n := by
  obtain ⟨hgraph, hhistory⟩ := hs.recordLive.history.stepForward hs.graph
  unfold Session.redo
  simp only
  split_ifs
  · exact rebuild hn ⟨hgraph, hhistory⟩ hs.written
  · exact hs.recordLive

/-- Another document makes a session sound. -/
theorem replaceDocument (hn : n < 2 ^ 63) (s : Session) {g : Graph} (hg : g.MadeWithin n) :
    (s.replaceDocument g).Sound n :=
  rebuild hn ⟨hg, .startOver _ hg⟩ fun _ ha => by cases ha

/-- Loading keeps a session sound. -/
theorem load (hn : n < 2 ^ 63) (hs : s.Sound n) (bytes : ByteArray) : (s.load bytes).2.Sound n := by
  unfold Session.load
  split
  · exact hs
  · rename_i g hg
    exact replaceDocument hn s (Graph.madeWithin_of_bytes hg n)

/-- Opening a file keeps a session sound. -/
theorem opened (hn : n < 2 ^ 63) (hs : s.Sound n) (path : Path)
    (content : Except DiskError ByteArray) : (s.opened path content).2.Sound n := by
  cases content with
  | error e => exact hs
  | ok bytes =>
    have hload := hs.load hn bytes
    rcases hresult : s.load bytes with ⟨result, t⟩
    rw [hresult] at hload
    simp only [Session.opened, hresult]
    cases result with
    | error e => exact hload
    | ok => exact hload.withFile (some path) t.dirty _

/-- Saving keeps a session sound. -/
theorem saved (hs : s.Sound n) (path : Path) (written : Except DiskError Unit) :
    (s.saved path written).2.Sound n := by
  cases written with
  | error e => exact hs
  | ok => exact hs.withFile (some path) false _

/-- Selecting a backend keeps a session sound. -/
theorem setBackend (hn : n < 2 ^ 63) (hs : s.Sound n) (backend : Backend) :
    (s.setBackend backend).Sound n := by
  unfold Session.setBackend
  simp only
  split_ifs with hsame hartifact
  · exact hs
  · exact rebuild hn ⟨hs.graph, hs.history⟩ hs.written
  · -- a session without a shader has no output node
    refine ⟨⟨hs.graph, hs.history⟩, hs.written, fun output ho => ?_⟩
    obtain ⟨a, ha, -⟩ := hs.current output ho
    exact absurd (by simp [ha]) hartifact

/-- A new document makes a session sound. -/
theorem newDocument (hn : n < 2 ^ 63) (hone : 1 ≤ n) (s : Session) : s.newDocument.Sound n :=
  (replaceDocument hn s (Graph.MadeWithin.newGraph.mono hone)).withFile none _ _

/-- **Every call keeps a session sound.** -/
theorem apply {m : Nat} (hs : s.Sound n) (c : SessionCall) (hm : m < 2 ^ 63)
    (hroom : n + c.allocations s ≤ m) : (c.apply s).Sound m := by
  cases c with
  | execute command => exact hs.execute command hm hroom
  | compile mode => exact (hs.mono hroom).compile hm mode
  | undo => exact (hs.mono hroom).undo hm
  | redo => exact (hs.mono hroom).redo hm
  | load bytes => exact (hs.mono hroom).load hm bytes
  | openFile path content => exact (hs.mono hroom).opened hm path content
  | saveTo path written => exact (hs.mono hroom).saved path written
  | setBackend backend => exact (hs.mono hroom).setBackend hm backend
  | newDocument => exact newDocument hm (by simp only [SessionCall.allocations] at hroom; omega) s

end Sound

/-- Reachable sessions are sound. -/
theorem ReachableIn.sound (hs : ReachableIn n s) (hn : n < 2 ^ 63) : s.Sound n := by
  induction hs with
  | new config => exact Sound.newDocument hn (Nat.le_refl 1) _
  | call c _ ih => exact (ih (by omega)).apply c hn (Nat.le_refl _)

/-- The live graph of a reachable session is reachable. -/
theorem Reachable.graph_reachable (hs : s.Reachable) : s.graph.Reachable := by
  obtain ⟨n, hn, hreach⟩ := hs
  exact (hreach.sound hn).graph.reachable hn

/-- **The compiled shader is never stale.** While the live graph of a reachable session has an
output node, the shader is there, it is one for the selected backend, its program is what the live
graph generates and its source what the backend writes for that; refreshing it and compiling it
anew both give it back. Without an output node, what is left of a shader is still written as its
program says. -/
theorem artifact_current (hs : s.Reachable) :
    ((∃ node ∈ s.graph.nodes, node.type = .output) → ∃ a, s.artifact = some a ∧
      a.backend = s.backend ∧ s.graph.generateCode.1 = .ok a.program ∧
      s.backend.emit a.program = .ok a.source ∧
      (s.compile .preview).1 = .ok a ∧ (s.compile .commit).1 = .ok a) ∧
    ∀ a, s.artifact = some a → a.backend.emit a.program = .ok a.source := by
  obtain ⟨n, hn, hreach⟩ := hs
  have hsound := hreach.sound hn
  have hg := (hsound.graph.reachable hn).consistent
  refine ⟨?_, hsound.written⟩
  rintro ⟨node, hnode, htype⟩
  obtain ⟨output, ho⟩ : ∃ output, s.graph.outputNode? = some output := by
    refine Option.ne_none_iff_exists'.mp fun hnone => ?_
    have hempty := List.min?_eq_none_iff.mp hnone
    have hmem : node.id ∈ (s.graph.nodes.filter fun node => node.type = .output).map Node.id :=
      List.mem_map_of_mem (List.mem_filter.mpr ⟨hnode, by simpa using htype⟩)
    rw [hempty] at hmem
    exact List.not_mem_nil hmem
  obtain ⟨⟨backend, program, source⟩, ha, rfl, rfl⟩ := hsound.current output ho
  have hsource := hsound.written _ ha
  have hrebuild : ∀ t : Session, t.graph = s.graph → t.backend = s.backend →
      t.rebuild.1 = .ok ⟨s.backend, s.graph.programFor output, source⟩ := by
    intro t hgraph hbackend
    obtain ⟨source', hsource', hresult⟩ := rebuild_eq (s := t) (hgraph ▸ hg) (hgraph ▸ ho)
    rw [hgraph, hbackend] at hsource' hresult
    obtain rfl : source = source' := Except.ok.inj (hsource.symm.trans hsource')
    rw [hresult]
  refine ⟨_, ha, rfl, hg.generateCode_eq ho, hsource, ?_, ?_⟩
  · have hpreview : s.compile .preview = s.rebuild :=
      preview_eq_rebuild hg hsound.written hsound.refreshable
    rw [hpreview]
    exact hrebuild s rfl rfl
  · exact hrebuild s.recordLive rfl rfl

/-- A session in which a value was edited, a node added and taken back, and the language changed. -/
theorem artifact_current_edited :
    let s := ofCalls .default [.execute (.setValue ⟨1, 1⟩ (.float 0.25)),
      .execute (.add .math ⟨0, 0⟩), .undo, .setBackend .glsl]
    s.Reachable ∧ s.backend = .glsl ∧ ∃ a, s.artifact = some a ∧ a.backend = s.backend ∧
      s.graph.generateCode.1 = .ok a.program ∧ (s.compile .preview).1 = .ok a := by
  intro s
  have hs : s.Reachable := reachable_ofCalls _ _ (by decide)
  have hnode : ∃ node ∈ s.graph.nodes, node.type = .output := by decide +kernel
  obtain ⟨a, ha, hbackend, hprogram, -, hpreview, -⟩ := (artifact_current hs).1 hnode
  exact ⟨hs, by decide +kernel, a, ha, hbackend, hprogram, hpreview⟩

end Session

end ShaderGraph
