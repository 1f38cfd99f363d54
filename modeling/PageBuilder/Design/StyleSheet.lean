import PageBuilder.Design.Node

/-!
# Style sheets

A sheet is a list of rules: what a rule applies to, under which conditions, and what it declares.
For a node at a viewport the rules without a screen apply first and then those for that screen, each
time in the order of the sheet, so that a later rule wins over an earlier one (`resolve`). A rule
with a key can be created or patched by `upsert`.
-/

namespace PageBuilder

/-- What a rule applies to. -/
inductive Selector where
  | node (id : String)
  | class (name : String)
  | component (id : String)
deriving DecidableEq

/-- The node is among those that the rule applies to. -/
def Selector.selects : Selector → Node → Bool
  | .node id, n => n.id == id
  | .class name, n => n.classes.contains name
  | .component id, n => n.component == id

/-- The conditions of a rule; one that is not there always holds. -/
structure Conditions where
  screen : Option String := none
  theme : Option String := none
  state : Option String := none
deriving DecidableEq

/-- A rule of a sheet. -/
structure StyleRule where
  id : String
  /-- The key by which the rule is found again. -/
  key : Option String := none
  selector : Selector
  conditions : Conditions := {}
  declaration : Json := .null

/-- What a sheet is asked for besides the node. -/
structure SheetQuery where
  viewport : String
  theme : Option String := none
  state : Option String := none

/-- A list of rules. -/
structure StyleSheet where
  rules : List StyleRule := []

namespace StyleRule

/-- What the rule declares. -/
def declared (r : StyleRule) : Declaration := .ofJson? (some r.declaration)

/-- A condition that is there asks for its own value. -/
def holds (condition requested : Option String) : Bool := condition.isNone || condition == requested

/-- The rule is for the node, and its conditions on theme and state hold. -/
def appliesTo (r : StyleRule) (n : Node) (theme state : Option String) : Bool :=
  r.selector.selects n && holds r.conditions.theme theme && holds r.conditions.state state

/-- The key of the rule for a node at a viewport. -/
def keyFor (nodeId viewport : String) : String := nodeId ++ ":" ++ viewport

/-- The identifiers of rules that are made one after the other. -/
def numberedId (n : Nat) : String := "gen-" ++ toString n

/-- The rule for a node at a viewport. At the base viewport it asks for no screen. -/
def keyed (id nodeId viewport : String) (patch : Declaration) : StyleRule :=
  { id := id
    key := some (keyFor nodeId viewport)
    selector := .node nodeId
    conditions := { screen := if viewport = baseViewport then none else some viewport }
    declaration := .object patch }

/-- Lay a patch over what the rule declares. -/
def patched (r : StyleRule) (patch : Declaration) : StyleRule :=
  { r with declaration := .object (r.declared.overlay patch) }

end StyleRule

namespace StyleSheet

/-- The rules whose selector is for the node. -/
def rulesFor (s : StyleSheet) (n : Node) : List StyleRule :=
  s.rules.filter fun r => r.selector.selects n

/-- The rules for the node whose conditions on theme and state hold. -/
def applicable (s : StyleSheet) (n : Node) (theme state : Option String) : List StyleRule :=
  s.rules.filter fun r => r.appliesTo n theme state

/-- Lay the declarations of rules over each other, the first at the bottom. -/
def cascade (base : Declaration) (rules : List StyleRule) : Declaration :=
  rules.foldl (fun d r => d.overlay r.declared) base

/-- The declaration for a node. -/
def resolve (s : StyleSheet) (n : Node) (q : SheetQuery) : Declaration :=
  let rules := s.applicable n q.theme q.state
  cascade (cascade [] (rules.filter fun r => r.conditions.screen == none))
    (rules.filter fun r => r.conditions.screen == some q.viewport)

/-- The screen under which rules without a screen are reported. -/
def anyScreen : String := "*"

/-- The declarations by screen, for a theme and a state. -/
def breakdown (s : StyleSheet) (n : Node) (theme state : Option String) : Dict Declaration :=
  (s.applicable n theme state).foldl
    (fun screens r =>
      let screen := r.conditions.screen.getD anyScreen
      Dict.insert screen (((screens.get? screen).getD []).overlay r.declared) screens)
    []

/-- The place of the rule with a key. -/
def place? (s : StyleSheet) (key : String) : Option Nat :=
  s.rules.findIdx? fun r => r.key == some key

/-- Change the first rule with a key. -/
def patchFirst (key : String) (patch : Declaration) : List StyleRule → List StyleRule
  | [] => []
  | r :: rules =>
    if r.key == some key then r.patched patch :: rules else r :: patchFirst key patch rules

/-- Patch the rule for a node at a viewport, or make it, with the identifier `id`. Without a
viewport it is the base one. -/
def upsert (s : StyleSheet) (id nodeId : String) (viewport : Option String) (patch : Declaration) :
    StyleSheet :=
  let viewport := viewport.getD baseViewport
  let key := StyleRule.keyFor nodeId viewport
  match s.place? key with
  | some _ => ⟨patchFirst key patch s.rules⟩
  | none => ⟨s.rules ++ [.keyed id nodeId viewport patch]⟩

/-- An upsert for the node at the viewport makes a rule. -/
def needsRule (s : StyleSheet) (nodeId : String) (viewport : Option String) : Bool :=
  (s.place? (StyleRule.keyFor nodeId (viewport.getD baseViewport))).isNone

/-- Remove the rules with an identifier. -/
def remove (s : StyleSheet) (id : String) : StyleSheet := ⟨s.rules.filter fun r => r.id != id⟩

/-- Some rule has the identifier. -/
def hasRule (s : StyleSheet) (id : String) : Bool := s.rules.any fun r => r.id == id

end StyleSheet

/-! ### Stored form -/

open Json

/-- The selector that a value stores. -/
def Selector.ofJson (v : Json) : Except DecodeError Selector := do
  v.checkObject
  let kind : String ← required v "kind"
  match kind with
  | "node" => return .node (← required v "id")
  | "class" => return .class (← required v "name")
  | "component" => return .component (← required v "id")
  | word => .error (.unknownWord word)

instance : Codec Selector where
  encode
    | .node id => .object (field "id" id ++ field "kind" "node")
    | .class name => .object (field "kind" "class" ++ field "name" name)
    | .component id => .object (field "id" id ++ field "kind" "component")
  decode := Selector.ofJson
  shape := .tagged "kind" (some ["node", "class", "component"]) fun v => (Selector.ofJson v).toBool

instance : Codec Conditions where
  encode c :=
    .object (fieldIfSome "screen" c.screen ++ fieldIfSome "state" c.state ++
      fieldIfSome "theme" c.theme)
  decode v := do
    v.checkObject
    return {
      screen := ← optional v "screen"
      theme := ← optional v "theme"
      state := ← optional v "state" }
  shape :=
    .record [mayHaveOrNull String "screen", mayHaveOrNull String "theme",
      mayHaveOrNull String "state"]

instance : Codec StyleRule where
  encode r := .object <|
    field "declaration" r.declaration ++ field "id" r.id ++ fieldIfSome "key" r.key ++
      field "selector" r.selector ++ field "when" r.conditions
  decode v := do
    v.checkObject
    return {
      id := ← required v "id"
      key := ← optional v "key"
      selector := ← required v "selector"
      conditions := ← withDefault v "when" {}
      declaration := valueOrNull v "declaration" }
  shape := .record [mustHave String "id", mayHaveOrNull String "key", mustHave Selector "selector",
    mayHave Conditions "when", mayHave Json "declaration"]

instance : Codec StyleSheet where
  encode s := .object (field "rules" s.rules)
  decode v := do
    v.checkObject
    return { rules := ← withDefault v "rules" [] }
  shape := .record [mayHave (List StyleRule) "rules"]

end PageBuilder
