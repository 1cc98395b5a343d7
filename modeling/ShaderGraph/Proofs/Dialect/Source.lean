import ShaderGraph.Proofs.Dialect.Declarations
import ShaderGraph.Proofs.Dialect.Numbering

/-!
# What a source text declares and defines

A source text is made of sections: the lines that open it, the resources, the interface, the helpers
and the main function. Only the resources bind something or declare parameters, and only the helpers
define functions apart from the main one. So the bindings and the parameters of a text are those of
its table, and its functions are the helpers it was written with.
-/

set_option autoImplicit false

namespace ShaderGraph

/-! ## The parameters of a table -/

namespace ParameterTable

/-- The parameters that are not textures. -/
def uniforms (table : ParameterTable) : List Parameter :=
  table.entries.filter fun p => !p.value.isTexture

/-- The parameters that are textures. -/
def textures (table : ParameterTable) : List Parameter :=
  table.entries.filter fun p => p.value.isTexture

end ParameterTable

namespace Backend

/-- What can be read off the lines of a source text about the parameters of a table. -/
structure Declares (backend : Backend) (table : ParameterTable) (lines : List (List Char)) :
    Prop where
  /-- The binding numbers in the order in which they stand. -/
  numbers : (lines.filterMap backend.binding?).map Prod.fst =
    List.range (lines.filterMap backend.binding?).length
  /-- What they are bound to. -/
  bound : (lines.filterMap backend.binding?).map Prod.snd =
    ((if table.uniforms.isEmpty then [] else [backend.blockBinding]) ++
      if table.textures.isEmpty then []
      else backend.samplers.map samplerBinding ++
        table.textures.map backend.textureBinding).map String.toList
  /-- The blocks of parameters. -/
  blocks : paramsBlocks lines =
    if table.uniforms.isEmpty then [] else [(backend.memberLines table.uniforms).map String.toList]
  /-- Every parameter is declared once. -/
  once : ∀ p ∈ table.entries, lines.countP (backend.declares p.name) = 1

variable {backend : Backend} {table : ParameterTable} {features : List Builtin} {body : List String}

/-- Lines that neither bind nor declare anything. -/
def Quiet (backend : Backend) (text : List (List Char)) : Prop :=
  ∀ line ∈ text, backend.inert line = true ∧ opensParams line = false

namespace Quiet

variable {a b text : List (List Char)}

/-- Quiet lines behind quiet lines are quiet. -/
theorem append (ha : backend.Quiet a) (hb : backend.Quiet b) : backend.Quiet (a ++ b) :=
  List.forall_mem_append.mpr ⟨ha, hb⟩

/-- Quiet lines bind nothing. -/
theorem filterMap_eq_nil (h : backend.Quiet text) : text.filterMap backend.binding? = [] := by
  rw [List.filterMap_eq_nil_iff]
  exact fun line hline => (inert_iff.mp (h line hline).1).2.1

/-- Quiet lines declare no parameter. -/
theorem countP_eq_zero (h : backend.Quiet text) (slot : SlotId) :
    text.countP (backend.declares (paramName slot)) = 0 := by
  rw [List.countP_eq_zero]
  exact fun line hline => Bool.eq_false_iff.mp (declares_of_inert (h line hline).1 slot)

/-- Quiet lines in front of a text do not change the blocks found in it. -/
theorem paramsBlocks_append (h : backend.Quiet text) (rest : List (List Char)) :
    paramsBlocks (text ++ rest) = paramsBlocks rest :=
  ShaderGraph.paramsBlocks_append (fun line hline => (h line hline).2) rest

end Quiet

/-! ## The lines around the resources -/

/-- The lines of the main function. -/
def mainText (backend : Backend) (body : List String) : List (List Char) :=
  (backend.dialect.mainHead.1 ++ block backend.dialect.mainHead.2 body "").map String.toList

/-- The main function is the head of the dialect, the line that begins it, the body and a brace. -/
theorem mainText_eq (backend : Backend) (body : List String) : backend.mainText body =
    backend.dialect.mainHead.1.map String.toList ++ backend.mainLine.toList ::
      ((body.map fun line => ("    " ++ line).toList) ++ [['\x7d']]) := by
  cases backend <;> simp [mainText, block, mainLine, dialect, Wgsl.dialect, Glsl.dialect]

/-- The line that begins the main function is inert, opens no block and defines no helper. -/
theorem mainLine_fixed (backend : Backend) : backend.inert backend.mainLine.toList = true ∧
    opensParams backend.mainLine.toList = false ∧
    ∀ f ∈ Builtin.helpers, f.definedIn backend.mainLine.toList = false := by
  cases backend <;> decide +kernel

/-- An indented line of the body does not end in a brace. -/
theorem bodyLine_last {line : String} (h : backend.dialect.BodyLine line) :
    ("    " ++ line).toList.getLast? ≠ some '\x7b' := by
  rw [getLast?_text (bodyLine_getLast? h)]
  decide

/-- The lines that are written for the language itself, in all source texts. -/
theorem quiet_fixed {lines : List String} (hlines : lines ⊆ backend.dialect.opening ++
    backend.dialect.interface ++ backend.dialect.mainHead.1) :
    backend.Quiet (lines.map String.toList) := by
  obtain ⟨hfixed, hopens⟩ := backend.fixedText
  intro line hline
  have hmem := List.map_subset String.toList hlines hline
  exact ⟨hfixed.inert line hmem, hopens line hmem⟩

/-- The lines that open a source are quiet. -/
theorem quiet_opening (backend : Backend) :
    backend.Quiet (backend.dialect.opening.map String.toList) :=
  quiet_fixed (by simp)

/-- An empty line is quiet. -/
theorem quiet_empty (backend : Backend) : backend.Quiet [[]] := by
  refine List.forall_mem_singleton.mpr ?_
  cases backend <;> decide

/-- The text of helpers is quiet. -/
theorem quiet_helperLines (hfeatures : ∀ f ∈ features, f ∈ Builtin.helpers) :
    backend.Quiet ((backend.dialect.helperLines features).map String.toList) := by
  intro line hline
  obtain ⟨text, htext, rfl⟩ := List.mem_map.mp hline
  obtain ⟨f, hf, htext⟩ := List.mem_flatMap.mp htext
  rcases List.mem_cons.mp htext with rfl | htext
  · exact backend.quiet_empty _ List.mem_cons_self
  · have hhelper := backend.helperText (hfeatures f (List.mem_of_mem_filter hf))
    have hmem := List.mem_map_of_mem (f := String.toList) htext
    exact ⟨hhelper.inert _ hmem, hhelper.unopened _ hmem⟩

/-- The main function is quiet. -/
theorem quiet_mainText (hbody : ∀ line ∈ body, backend.dialect.BodyLine line) :
    backend.Quiet (backend.mainText body) := by
  have hbrace : backend.inert ['\x7d'] = true ∧ opensParams ['\x7d'] = false := by
    cases backend <;> decide
  have hhead : backend.Quiet (backend.dialect.mainHead.1.map String.toList) :=
    quiet_fixed (List.subset_append_right _ _)
  rw [mainText_eq]
  refine hhead.append (List.forall_mem_cons.mpr ⟨?_, List.forall_mem_append.mpr ⟨?_, ?_⟩⟩)
  · exact ⟨backend.mainLine_fixed.1, backend.mainLine_fixed.2.1⟩
  · intro line hline
    obtain ⟨text, htext, rfl⟩ := List.mem_map.mp hline
    have hline := hbody text htext
    exact ⟨bodyLine_inert hline, opensParams_eq_false (bodyLine_last hline)⟩
  · exact List.forall_mem_singleton.mpr hbrace

/-- The lines of the interface, the helpers and the main function. -/
theorem quiet_rest (hfeatures : ∀ f ∈ features, f ∈ Builtin.helpers)
    (hbody : ∀ line ∈ body, backend.dialect.BodyLine line) :
    backend.Quiet ((backend.dialect.interface ++ (backend.dialect.helperLines features ++ [""])).map
      String.toList ++ backend.mainText body) := by
  have hinterface : backend.Quiet (backend.dialect.interface.map String.toList) :=
    quiet_fixed (by simp)
  rw [List.map_append, List.map_append]
  exact (hinterface.append ((quiet_helperLines hfeatures).append backend.quiet_empty)).append
    (quiet_mainText hbody)

/-! ## The resources -/

/-- The characters of the lines that declare resources, with their numbers. -/
def resourcesText (backend : Backend) (resources : List (Resource × Nat)) : List (List Char) :=
  resources.flatMap fun (r, binding) => (backend.dialect.declare binding r).map String.toList

/-- What numbered entries give is what they give without their numbers. -/
theorem flatMap_numbered {α β : Type} (f : α → List β) (entries : List α) :
    (entries.zipIdx.flatMap fun entry => f entry.1) = entries.flatMap f := by
  rw [← List.flatMap_map, List.zipIdx_map_fst]

/-- The resources of a table: the block if it has members, and the textures, if there are any,
behind the samplers. -/
theorem resources_eq (backend : Backend) (table : ParameterTable) :
    backend.dialect.resources table =
      (if table.uniforms.isEmpty then [] else [.uniforms table.uniforms]) ++
        if table.textures.isEmpty then []
        else backend.samplers.map .sampler ++ table.textures.map .texture := by
  rw [← dialect_samplers]
  rfl

/-- The resources of a table whose parameters are named by slot are all of the kind above. -/
theorem binds_of_mem_resources (backend : Backend)
    (hnames : ∀ p ∈ table.entries, p.name = paramName p.slot) :
    ∀ entry ∈ (backend.dialect.resources table).zipIdx, backend.Binds entry.1 := by
  rintro ⟨r, binding⟩ hentry
  have hr := List.fst_mem_of_mem_zipIdx hentry
  rw [resources_eq] at hr
  rcases List.mem_append.mp hr with hr | hr
  · split_ifs at hr
    · exact absurd hr List.not_mem_nil
    · obtain rfl := List.mem_singleton.mp hr
      refine .uniforms (fun p hp => hnames p (List.mem_of_mem_filter hp)) fun p hp => ?_
      simpa using (List.mem_filter.mp hp).2
  · split_ifs at hr
    · exact absurd hr List.not_mem_nil
    · rcases List.mem_append.mp hr with hr | hr
      · obtain ⟨name, hname, rfl⟩ := List.mem_map.mp hr
        exact .sampler hname
      · obtain ⟨p, hp, rfl⟩ := List.mem_map.mp hr
        exact .texture (hnames p (List.mem_of_mem_filter hp))

/-- There is one block, of all parameters that are no textures, unless there are none. -/
theorem flatMap_blocksOf (backend : Backend) (table : ParameterTable) :
    (backend.dialect.resources table).flatMap backend.blocksOf =
      if table.uniforms.isEmpty then []
      else [(backend.memberLines table.uniforms).map String.toList] := by
  rw [resources_eq]
  split_ifs <;> simp [blocksOf, List.flatMap_map]

/-- Every parameter is declared by one resource. -/
theorem countP_declaredBy (backend : Backend) (table : ParameterTable) (q : Parameter → Bool) :
    ((backend.dialect.resources table).flatMap declaredBy).countP q = table.entries.countP q := by
  have hall : (backend.dialect.resources table).flatMap declaredBy =
      table.uniforms ++ table.textures := by
    simp only [resources_eq, List.isEmpty_iff]
    split_ifs with huniforms htextures htextures <;>
      simp_all [declaredBy, List.flatMap_map]
  rw [hall, List.countP_append, Nat.add_comm]
  exact (List.countP_eq_countP_filter_add _ _ _).symm

section

variable {resources : List (Resource × Nat)} (h : ∀ entry ∈ resources, backend.Binds entry.1)

include h

/-- Each resource is bound once, to its number. -/
theorem filterMap_resourcesText : (backend.resourcesText resources).filterMap backend.binding? =
    resources.map fun (r, binding) => (binding, (backend.bound r).toList) := by
  rw [resourcesText, List.filterMap_flatMap]
  induction resources with
  | nil => rfl
  | cons entry rest ih =>
    obtain ⟨hentry, hrest⟩ := List.forall_mem_cons.mp h
    rw [List.flatMap_cons, ih hrest, (resourceText entry.2 hentry).bound]
    rfl

/-- The blocks found in the text of resources are the blocks of each resource in turn. -/
theorem paramsBlocks_resourcesText (rest : List (List Char)) :
    paramsBlocks (backend.resourcesText resources ++ rest) =
      (resources.flatMap fun entry => backend.blocksOf entry.1) ++ paramsBlocks rest := by
  induction resources with
  | nil => rfl
  | cons entry more ih =>
    obtain ⟨hentry, hmore⟩ := List.forall_mem_cons.mp h
    have hcons : backend.resourcesText (entry :: more) =
        (backend.dialect.declare entry.2 entry.1).map String.toList ++
          backend.resourcesText more := List.flatMap_cons
    rw [hcons, List.append_assoc, (resourceText entry.2 hentry).blocks, ih hmore,
      List.flatMap_cons, List.append_assoc]

/-- A slot is declared in the text of resources as often as the resources declare it. -/
theorem countP_resourcesText (slot : SlotId) :
    (backend.resourcesText resources).countP (backend.declares (paramName slot)) =
      (resources.flatMap fun entry => declaredBy entry.1).countP (·.name == paramName slot) := by
  induction resources with
  | nil => rfl
  | cons entry more ih =>
    obtain ⟨hentry, hmore⟩ := List.forall_mem_cons.mp h
    have hcons : backend.resourcesText (entry :: more) =
        (backend.dialect.declare entry.2 entry.1).map String.toList ++
          backend.resourcesText more := List.flatMap_cons
    rw [hcons, List.countP_append, (resourceText entry.2 hentry).declared, ih hmore,
      List.flatMap_cons, List.countP_append]

end

/-- The sections of a source text. -/
theorem sourceText_eq (backend : Backend) (table : ParameterTable) (features : List Builtin)
    (body : List String) : (backend.dialect.sourceLines table features body).map String.toList =
      backend.dialect.opening.map String.toList ++
        (backend.resourcesText (backend.dialect.resources table).zipIdx ++
          ((backend.dialect.interface ++ (backend.dialect.helperLines features ++ [""])).map
            String.toList ++ backend.mainText body)) := by
  simp [Dialect.sourceLines, Dialect.resourceLines_eq, resourcesText, mainText, List.map_flatMap]

/-- No line of a source text holds a break. -/
theorem oneLine_sourceLines (hnames : ∀ p ∈ table.entries, p.name = paramName p.slot)
    (hfeatures : ∀ f ∈ features, f ∈ Builtin.helpers)
    (hbody : ∀ line ∈ body, backend.dialect.BodyLine line) :
    ∀ line ∈ backend.dialect.sourceLines table features body, '\n' ∉ line.toList := by
  intro line hline
  have hmem := List.mem_map_of_mem (f := String.toList) hline
  rw [sourceText_eq, List.mem_append, List.mem_append] at hmem
  rcases hmem with hmem | hmem | hmem
  · exact (inert_iff.mp (backend.quiet_opening _ hmem).1).1
  · obtain ⟨entry, hentry, hmem⟩ := List.mem_flatMap.mp hmem
    have hbinds := backend.binds_of_mem_resources hnames entry hentry
    exact (resourceText entry.2 hbinds).oneLine _ hmem
  · exact (inert_iff.mp (quiet_rest hfeatures hbody _ hmem).1).1

/-- **The bindings of a source text are consistent.** -/
theorem declares_sourceLines (hnames : ∀ p ∈ table.entries, p.name = paramName p.slot)
    (hd : (table.entries.map Parameter.name).Nodup)
    (hfeatures : ∀ f ∈ features, f ∈ Builtin.helpers)
    (hbody : ∀ line ∈ body, backend.dialect.BodyLine line) :
    backend.Declares table
      ((backend.dialect.sourceLines table features body).map String.toList) := by
  have hbinds := backend.binds_of_mem_resources hnames
  have hopening := backend.quiet_opening
  have hrest := quiet_rest hfeatures hbody
  have hread : ((backend.dialect.sourceLines table features body).map String.toList).filterMap
      backend.binding? = (backend.dialect.resources table).zipIdx.map fun (r, binding) =>
        (binding, (backend.bound r).toList) := by
    rw [sourceText_eq, List.filterMap_append, List.filterMap_append, hopening.filterMap_eq_nil,
      hrest.filterMap_eq_nil, filterMap_resourcesText hbinds, List.nil_append, List.append_nil]
  constructor
  · rw [hread, List.map_map, List.length_map, List.length_zipIdx, List.range_eq_range']
    exact List.zipIdx_map_snd 0 _
  · rw [hread, List.map_map]
    have hfst := congrArg (List.map fun r => (backend.bound r).toList)
      (List.zipIdx_map_fst 0 (backend.dialect.resources table))
    rw [List.map_map] at hfst
    refine hfst.trans ?_
    rw [resources_eq]
    split_ifs <;> simp [bound, Function.comp_def]
  · have hnone := hrest.paramsBlocks_append []
    rw [List.append_nil] at hnone
    rw [sourceText_eq, hopening.paramsBlocks_append, paramsBlocks_resourcesText hbinds, hnone,
      flatMap_numbered, flatMap_blocksOf]
    exact List.append_nil _
  · intro p hp
    have hcount : table.entries.countP (·.name == p.name) = 1 := by
      have := List.count_eq_one_of_mem hd (List.mem_map_of_mem hp)
      rwa [List.count, List.countP_map] at this
    rw [hnames p hp, sourceText_eq, List.countP_append, List.countP_append,
      hopening.countP_eq_zero, hrest.countP_eq_zero, countP_resourcesText hbinds,
      flatMap_numbered, countP_declaredBy, ← hnames p hp, hcount]

end Backend

end ShaderGraph
