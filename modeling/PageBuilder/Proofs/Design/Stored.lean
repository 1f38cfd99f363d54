import PageBuilder.Design.Project
import PageBuilder.Proofs.Json.Fields

/-!
# Designs are read back

Every record of a design is read back from its stored form: the steps and the targets of edges with
their kinds, nodes, style sheets, viewports, and projects. Each record relies on the records in its
fields, and `simp` goes through the fields by the rules for reading what was written.
-/

namespace PageBuilder

/-! ### Actions -/

/-- The stored kind selects the fields that are read, which are those written for this kind of
step. -/
instance : LawfulCodec Step where
  decode_encode s := by
    simp only [decode]
    cases s <;> simp only [Step.ofJson, encode] <;> simp [Step.kind]
  encode_ne_null _ := nofun

instance : LawfulCodec ActionBag where
  decode_encode b := by
    simp only [decode, encode]
    simp
  encode_ne_null _ := nofun

/-! ### Nodes -/

instance : LawfulCodec Node where
  decode_encode n := by
    simp only [decode, encode]
    simp
  encode_ne_null _ := nofun

/-! ### Flows -/

instance : LawfulCodec FlowTarget where
  decode_encode t := by
    simp only [decode]
    cases t <;> simp only [FlowTarget.ofJson, encode] <;> simp [FlowTarget.kind]
  encode_ne_null _ := nofun

instance : LawfulCodec FlowEdge.Source where
  decode_encode s := by
    simp only [decode, encode]
    simp
  encode_ne_null _ := nofun

instance : LawfulCodec FlowEdge.Condition where
  decode_encode c := by
    simp only [decode, encode]
    simp
  encode_ne_null _ := nofun

/-- The start and the gate of an edge are records of their own when stored. -/
instance : LawfulCodec FlowEdge where
  decode_encode e := by
    have hgate : (e.gate.map FlowEdge.Condition.mk).map (·.formula) = e.gate := by
      cases e.gate <;> rfl
    simp only [decode, encode]
    simp [-Option.map_map, hgate]
  encode_ne_null _ := nofun

/-! ### Viewports and style sheets -/

instance : LawfulCodec CascadeMode where
  decode_encode m := by cases m <;> rfl
  encode_ne_null m := by cases m <;> exact nofun

instance : LawfulCodec Viewport where
  decode_encode v := by
    simp only [decode, encode]
    simp
  encode_ne_null _ := nofun

instance : LawfulCodec Viewports where
  decode_encode vs := by
    simp only [decode, encode]
    simp
  encode_ne_null _ := nofun

instance : LawfulCodec Selector where
  decode_encode s := by
    simp only [decode]
    cases s <;> simp only [Selector.ofJson, encode] <;> simp
  encode_ne_null s := by cases s <;> exact nofun

instance : LawfulCodec Conditions where
  decode_encode c := by
    simp only [decode, encode]
    simp
  encode_ne_null _ := nofun

instance : LawfulCodec StyleRule where
  decode_encode r := by
    simp only [decode, encode]
    simp
  encode_ne_null _ := nofun

instance : LawfulCodec StyleSheet where
  decode_encode s := by
    simp only [decode, encode]
    simp
  encode_ne_null _ := nofun

/-! ### Projects -/

instance : LawfulCodec Page where
  decode_encode p := by
    simp only [decode, encode]
    simp
  encode_ne_null _ := nofun

instance : LawfulCodec Fragment where
  decode_encode f := by
    simp only [decode, encode]
    simp
  encode_ne_null _ := nofun

instance : LawfulCodec Project where
  decode_encode p := by
    simp only [decode, encode]
    simp
  encode_ne_null _ := nofun

end PageBuilder
