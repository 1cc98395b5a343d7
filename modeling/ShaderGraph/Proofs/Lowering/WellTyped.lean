import ShaderGraph.Proofs.Lowering.Correct
import ShaderGraph.Proofs.Lowering.TypedNodes

/-!
# Generated programs are well typed

What an input slot of a live node reads has the type of the slot: the variable of the output that
feeds it is declared before, with the type of the output, and converted; a coordinate stands for
vectors only; and a parameter has the type of the value in the slot. The parameters that the
statements of a node read are those of the node's own inputs.
-/

set_option autoImplicit false

namespace ShaderGraph

variable {earlier : List Statement}

/-! ## Parameters of slot values -/

namespace SlotValue

variable {value : SlotValue} {v : ParameterValue}

/-- A parameter has the type that the values of its slot have. -/
theorem uniformType?_parameter (hv : value.parameter? = some v) :
    v.uniformType? = value.slotType.shaderType? := by
  cases value with
  | enum index => exact absurd hv (by simp [parameter?])
  | _ =>
    obtain rfl := Option.some.inj hv
    rfl

/-- A function that samples the values of a slot samples the parameter made of one. -/
theorem samples_parameter (hv : value.parameter? = some v) {function : Builtin}
    (hfunction : value.slotType.sampledBy function = true) : function.samples v = true := by
  cases value with
  | enum index => exact absurd hv (by simp [parameter?])
  | bool _ | float _ | int _ | vector _ | color _ => exact absurd hfunction Bool.false_ne_true
  | colorRamp _ | rgbCurve _ | vectorCurve _ | image _ =>
    obtain rfl := Option.some.inj hv
    cases function <;> first | rfl | exact absurd hfunction Bool.false_ne_true

end SlotValue

/-- The parameter of a slot's value can be read from the slot. -/
theorem Readable.param {table : ParameterTable} {name : String} {p : Parameter} {value : SlotValue}
    (hp : table.get? name = some p) (hvalue : value.parameter? = some p.value) :
    Readable table earlier value.slotType (.param name) := by
  constructor
  · intro type htype
    exact .param hp ((SlotValue.uniformType?_parameter hvalue).trans htype)
  · intro function hfunction
    exact ⟨name, p, rfl, hp, SlotValue.samples_parameter hvalue hfunction⟩

/-- What has the type of the values of a slot without texture can be read from the slot. -/
theorem Readable.of_hasType {table : ParameterTable} {slotType : SlotType} {expr : Expr}
    (htexture : ∀ function, slotType.sampledBy function = false)
    (hvalue : ∀ type, slotType.shaderType? = some type → HasType table earlier expr type) :
    Readable table earlier slotType expr := by
  refine ⟨hvalue, fun function hfunction => ?_⟩
  rw [htexture function] at hfunction
  exact absurd hfunction Bool.false_ne_true

/-- A slot that can be fed takes no texture. -/
theorem SlotType.sampledBy_of_canFeed {source dest : SlotType} (hfeed : source.canFeed dest = true)
    (function : Builtin) : dest.sampledBy function = false := by
  cases dest with
  | bool | int | float | vector | color | enum => rfl
  | colorRamp | rgbCurve | vectorCurve | image => cases source <;> exact absurd hfeed (by decide)

/-- A slot that stands for a coordinate holds vectors. -/
theorem slotType_of_implicitInput? {type : NodeType} {index : Nat} {which : ShaderInput}
    {decl : SlotDecl} (himplicit : implicitInput? type index = some which)
    (hdecl : type.slots[index]? = some decl) : decl.slotType = .vector := by
  unfold implicitInput? at himplicit
  split at himplicit
  case h_4 => exact absurd himplicit (by simp)
  all_goals
    obtain rfl := Option.some.inj hdecl
    rfl

namespace Graph

variable {g : Graph} {output : NodeId} {node : Node} {index : Nat} {decl : SlotDecl}

/-- The parameters that the inputs of one live node read. -/
def tableOf (g : Graph) (output id : NodeId) : ParameterTable :=
  ⟨g.parameterList ((g.liveNodes output).filter fun node => node.id = id)⟩

/-- The statements of a node declare its outputs with their types. -/
theorem declares_statementsOf (g : Graph) (hdecl : node.type.slots[index]? = some decl)
    (hout : decl.isOutput = true) :
    Declares (g.statementsOf node) ⟨node.id, index⟩ decl.slotType := by
  have hindex : index ∈ node.type.outputIndices := NodeType.mem_indices.mpr ⟨decl, hdecl, hout⟩
  obtain ⟨row, hrow, hdeclares⟩ := Template.declares_outputs node.id node.type
    node.option (g.readExpr node.id node.type) index hindex
  obtain rfl : row = decl := Option.some.inj (hrow.symm.trans hdecl)
  exact hdeclares

namespace WellFormed

/-- A parameter is in the table of a node if it stands for one of the node's inputs. -/
theorem get?_tableOf (hg : g.WellFormed) {id : NodeId} {name : String} {p : Parameter} :
    (g.tableOf output id).get? name = some p ↔ p.name = name ∧
      ∃ node ∈ g.liveNodes output, node.id = id ∧
        ∃ slot ∈ node.inputs, g.slotParameter? node.type slot = some p := by
  have hids : (((g.liveNodes output).filter fun node => node.id = id).map Node.id).Nodup :=
    (hg.liveNodes_nodup output).sublist (List.filter_sublist.map _)
  have hvalid : ∀ node ∈ (g.liveNodes output).filter fun node => node.id = id, node.Valid :=
    fun node hnode => hg.liveNodes_valid node (List.mem_of_mem_filter hnode)
  rw [tableOf, ParameterTable.get?, find?_key_eq_some_iff (parameterList_names_nodup hids hvalid),
    mem_parameterList, and_comm]
  simp [and_assoc]

/-- The table of a node is part of the program's. -/
theorem get?_of_tableOf (hg : g.WellFormed) {id : NodeId} {name : String} {p : Parameter}
    (hp : (g.tableOf output id).get? name = some p) :
    (g.programFor output).parameters.get? name = some p := by
  obtain ⟨rfl, node, hnode, -, slot, hslot, hparameter⟩ := hg.get?_tableOf.mp hp
  rw [(slotParameter?_eq_some hparameter).1]
  exact hg.get?_parameter hnode hslot hparameter

/-- What is typed with the parameters of one node is typed with those of the program. -/
theorem hasType_of_tableOf (hg : g.WellFormed) {id : NodeId} {expr : Expr} {type : ShaderType}
    (h : HasType (g.tableOf output id) earlier expr type) :
    HasType (g.programFor output).parameters earlier expr type :=
  h.mono (fun _ _ => hg.get?_of_tableOf) (List.Subset.refl _)

/-- **What an input slot of a live node reads can be read from a slot of its type**, if the sources
of the node are declared. -/
theorem readable (hg : g.WellFormed) (hlive : node ∈ g.liveNodes output)
    (hsources : ∀ other ∈ g.nodes, g.Feeds other.id node.id → g.statementsOf other ⊆ earlier)
    (hdecl : node.type.slots[index]? = some decl) (hinput : decl.isInput = true) :
    Readable (g.tableOf output node.id) earlier decl.slotType
      (g.readExpr node.id node.type index) := by
  have hn := (hg.mem_liveNodes.mp hlive).1
  unfold readExpr
  cases hc : g.connection? ⟨node.id, index⟩ with
  | some c =>
    obtain ⟨hmem, hdest⟩ := mem_of_connection?_eq_some hc
    obtain ⟨source, dest, hsource, hd, hout, -, -, hfeed⟩ := hg.allowed c hmem
    obtain ⟨other, hother, hid, hrow⟩ := slotDecl?_eq_some hsource
    have hslot : g.slotDecl? c.dest = some decl := by
      rw [hdest]
      exact (slotDecl?_eq_some_iff hg.ids_distinct).mpr ⟨node, hn, rfl, hdecl⟩
    obtain rfl : dest = decl := Option.some.inj (hd.symm.trans hslot)
    have hfeeds : g.Feeds other.id node.id := ⟨c, hmem, hid.symm, by rw [hdest]⟩
    -- the source's variable is declared with the type of the source's slot
    obtain ⟨s, hs, hname, htype⟩ := g.declares_statementsOf hrow hout
    have haddress : (⟨other.id, c.source.index⟩ : SlotId) = c.source := by rw [hid]
    rw [haddress] at hname
    have hvar : HasType (g.tableOf output node.id) earlier (.var (varName c.source)) s.type :=
      .var (hsources other hother hfeeds hs) hname
    simp only [hsource, hdecl]
    refine .of_hasType (SlotType.sampledBy_of_canFeed hfeed) ?_
    intro type hdesttype
    exact hvar.convertExpr htype hdesttype hfeed
  | none =>
    cases himplicit : implicitInput? node.type index with
    | some which =>
      rw [slotType_of_implicitInput? himplicit hdecl]
      refine .of_hasType (fun _ => rfl) ?_
      intro type htype
      obtain rfl := Option.some.inj htype
      exact .input which
    | none =>
      obtain ⟨value, hvalue, hholds⟩ := (hg.nodes_valid node hn).exists_value hdecl
      rw [hholds.type_eq]
      by_cases henum : value.slotType = .enum
      · rw [henum]
        exact .of_hasType (fun _ => rfl) (by simp [SlotType.shaderType?])
      · obtain ⟨p, hp⟩ := exists_parameter henum
        have hslot : (⟨⟨node.id, index⟩, decl, value⟩ : Node.Slot) ∈ node.inputs :=
          Node.mem_inputs.mpr ⟨index, rfl, hdecl, hvalue, hinput⟩
        have hparameter : g.slotParameter? node.type ⟨⟨node.id, index⟩, decl, value⟩ =
            some ⟨paramName ⟨node.id, index⟩, ⟨node.id, index⟩, p⟩ := by
          simp [slotParameter?, hc, himplicit, hp]
        exact .param (hg.get?_tableOf.mpr ⟨rfl, node, hlive, rfl, _, hslot, hparameter⟩) hp

/-- The statements of the live nodes are well typed, each with the parameters of its own node. -/
theorem wellTyped_liveNodes (hg : g.WellFormed) {done waiting : List Node}
    (hsplit : g.liveNodes output = done ++ waiting) :
    WellTyped (g.tableOf output) (done.flatMap g.statementsOf)
      (waiting.flatMap g.statementsOf) := by
  induction waiting generalizing done with
  | nil => exact trivial
  | cons node rest ih =>
    have hlive : node ∈ g.liveNodes output := by simp [hsplit]
    have hsources : ∀ other ∈ g.nodes, g.Feeds other.id node.id →
        g.statementsOf other ⊆ done.flatMap g.statementsOf := by
      intro other hother hfeeds s hs
      exact List.mem_flatMap.mpr ⟨other, hg.feeders_before hsplit other hother hfeeds, hs⟩
    have hnode : WellTyped (g.tableOf output) (done.flatMap g.statementsOf) (g.statementsOf node) :=
      .statements fun index decl hdecl hinput => hg.readable hlive hsources hdecl hinput
    have hrest : WellTyped (g.tableOf output) ((done ++ [node]).flatMap g.statementsOf)
        (rest.flatMap g.statementsOf) := ih (by simp [hsplit])
    rw [List.flatMap_append, List.flatMap_singleton] at hrest
    rw [List.flatMap_cons]
    exact hnode.append _ _ hrest

/-- No two statements of the program have the same name. -/
theorem names_nodup (hg : g.WellFormed) (ho : g.outputNode? = some output) :
    ((g.programFor output).statements.map Statement.name).Nodup := by
  -- a run is stuck at a name that is bound already, whatever the values are
  obtain ⟨result, hrun, -⟩ := hg.run_programFor ho Interpretation.unit
  obtain ⟨env, hstatements, -⟩ := Option.bind_eq_some_iff.mp hrun
  exact (Program.runAll?_names hstatements).1

/-- After all statements, color and alpha have the types of the slots they are read from. -/
theorem result_hasType (hg : g.WellFormed) (ho : g.outputNode? = some output) :
    HasType (g.tableOf output output) (g.programFor output).statements
        (g.programFor output).color .vec3 ∧
      HasType (g.tableOf output output) (g.programFor output).statements
        (g.programFor output).alpha .float := by
  obtain ⟨node, hn, rfl, hnode⟩ := mem_of_outputNode?_eq_some ho
  have hlive : node ∈ g.liveNodes node.id := hg.mem_liveNodes.mpr ⟨hn, .refl⟩
  have hsources : ∀ other ∈ g.nodes, g.Feeds other.id node.id →
      g.statementsOf other ⊆ (g.programFor node.id).statements := by
    intro other hother hfeeds s hs
    exact List.mem_flatMap.mpr ⟨other, hg.mem_liveNodes.mpr ⟨hother, .single hfeeds⟩, hs⟩
  have hread : ∀ index decl, NodeType.output.slots[index]? = some decl → decl.isInput = true →
      Readable (g.tableOf node.id node.id) (g.programFor node.id).statements decl.slotType
        (g.readExpr node.id .output index) := by
    intro index decl hdecl hinput
    rw [← hnode] at hdecl ⊢
    exact hg.readable hlive hsources hdecl hinput
  exact ⟨(hread 0 _ rfl rfl).value _ rfl, (hread 1 _ rfl rfl).value _ rfl⟩

/-- Every statement of the program has the type it declares after those before it, with the
parameters of its own node. -/
theorem statement_hasType (hg : g.WellFormed) {before after : List Statement} {s : Statement}
    (hsplit : (g.programFor output).statements = before ++ s :: after) :
    HasType (g.tableOf output s.node) before s.expr s.type := by
  have htyped : WellTyped (g.tableOf output) [] (g.programFor output).statements :=
    hg.wellTyped_liveNodes (List.nil_append _).symm
  rw [hsplit] at htyped
  exact htyped.hasType

end WellFormed

end Graph

/-- Whether the statements of a program have exactly the types that they declare, each after those
before it, and color and alpha are a vector and a number. -/
structure Program.IsTyped (program : Program) : Prop where
  statement : ∀ before s after, program.statements = before ++ s :: after →
    ∀ type, HasType program.parameters before s.expr type ↔ type = s.type
  color : ∀ type, HasType program.parameters program.statements program.color type ↔ type = .vec3
  alpha : ∀ type, HasType program.parameters program.statements program.alpha type ↔ type = .float

/-- Where no two statements have the same name, an expression has exactly the type it has. -/
theorem HasType.iff_eq {table : ParameterTable} {expr : Expr} {type : ShaderType}
    (hd : (earlier.map Statement.name).Nodup) (h : HasType table earlier expr type)
    (type' : ShaderType) : HasType table earlier expr type' ↔ type' = type := by
  constructor
  · intro h'
    exact h'.unique hd h
  · rintro rfl
    exact h

namespace Graph

variable {g : Graph}

/-- **Generated programs are well typed.** Every reachable graph with an output node has a program,
whose statements have exactly the types that they declare; its color is a vector and its alpha is a
number. -/
theorem generateCode_isTyped (hg : g.Reachable) (ho : ∃ node ∈ g.nodes, node.type = .output) :
    ∃ program, g.generateCode.1 = .ok program ∧ program.IsTyped := by
  have hwell := hg.consistent.toWellFormed
  obtain ⟨output, houtput⟩ : ∃ output, g.outputNode? = some output := by
    obtain ⟨node, hn, htype⟩ := ho
    refine Option.ne_none_iff_exists'.mp ?_
    intro hnone
    exact outputNode?_eq_none_iff.mp hnone node hn htype
  have hnames := hwell.names_nodup houtput
  obtain ⟨hcolor, halpha⟩ := hwell.result_hasType houtput
  refine ⟨g.programFor output, hg.consistent.generateCode_eq houtput, ?_, ?_, ?_⟩
  · intro before s after hsplit
    have hbefore : (before.map Statement.name).Nodup := by
      rw [hsplit, List.map_append] at hnames
      exact (List.nodup_append.mp hnames).1
    exact (hwell.hasType_of_tableOf (hwell.statement_hasType hsplit)).iff_eq hbefore
  · exact (hwell.hasType_of_tableOf hcolor).iff_eq hnames
  · exact (hwell.hasType_of_tableOf halpha).iff_eq hnames

/-- A number feeds a color, and a color feeds alpha: both are converted on the way. -/
theorem generateCode_isTyped_converted :
    let g := ofCalls [.add .value ⟨0, 0⟩, .add .mixRgb ⟨0, 0⟩, .add .output ⟨0, 0⟩,
      .connect ⟨1, 1⟩ ⟨2, 3⟩, .connect ⟨2, 5⟩ ⟨3, 1⟩]
    g.Reachable ∧ (∃ node ∈ g.nodes, node.type = .output) ∧
      ∃ program, g.generateCode.1 = .ok program ∧ program.IsTyped := by
  intro g
  have hg : g.Reachable := reachable_ofCalls _ (by decide)
  have ho : ∃ node ∈ g.nodes, node.type = .output := by decide +kernel
  exact ⟨hg, ho, generateCode_isTyped hg ho⟩

end Graph

end ShaderGraph
