import PageBuilder.Policy.Registry

/-!
# The builtin registry

The policies that hold when no policy file is given.
-/

namespace PageBuilder
namespace Policy
namespace Builtin

/-- A whole number as binary64. -/
def whole (n : Nat) : Finite64 := Finite64.ofInt n

/-- Lengths in the usual units. -/
def length (min : Option Finite64) (words : List String) : StyleSpec :=
  { kind := .length, units := ["px", "%", "em", "rem", "vw", "vh"], min := min, values := words }

/-- One of some words. -/
def words (values : List String) : StyleSpec := { kind := .enum, values := values }

/-- The values of the style keys. -/
def specs : Dict StyleSpec := Dict.ofList <|
  ["width", "height", "minWidth", "maxWidth"].map (·, length (some (whole 0)) ["auto"]) ++
  ["margin", "padding", "gap", "fontSize", "lineHeight", "borderRadius"].map (·, length none []) ++
  ["color", "backgroundColor", "borderColor"].map (·, { kind := .color }) ++
  [("display", words ["block", "inline", "inline-block", "flex", "grid", "none"]),
    ("overflow", words ["visible", "hidden", "scroll", "auto"]),
    ("textAlign", words ["left", "center", "right", "justify"]),
    ("objectFit", words ["contain", "cover", "fill", "none"]),
    ("opacity", { kind := .number, min := some (whole 0), max := some (whole 1) }),
    ("fontWeight",
      { kind := .number, min := some (whole 100), max := some (whole 900),
        presets := ["normal", "bold"] })]

/-- The groups of a box. -/
def boxGroups : Dict (List String) := Dict.ofList
  [("spacing", ["margin", "padding", "gap"]), ("background", ["background", "backgroundColor"]),
    ("border", ["border", "borderRadius", "borderColor"])]

/-- The groups of a text. -/
def textGroups : Dict (List String) := Dict.ofList
  [("typography", ["color", "fontSize", "fontWeight", "lineHeight", "textAlign"]),
    ("spacing", ["margin", "padding"])]

/-- The policy of the tags that hold other elements. -/
def container : TagPolicy :=
  { sections := some ["layout", "style", "actions"]
    styleGroups := boxGroups
    events := some ["click", "mouseenter", "mouseleave"] }

/-- The policy of the tags that hold text. -/
def text : TagPolicy :=
  { sections := some ["content", "style", "actions"], styleGroups := textGroups,
    events := some ["click"] }

/-- The policies of the tags. -/
def tags : Dict TagPolicy := Dict.ofList <|
  ["div", "section", "ul", "li"].map (·, container) ++
  ["span", "p", "h1", "h2", "h3"].map (·, text) ++
  [("a", { text with attributes := some ["href", "target", "rel", "title"] }),
    ("button",
      { sections := some ["content", "style", "actions"]
        styleGroups := Dict.ofList
          [("typography", ["color", "fontSize", "fontWeight"]), ("background", ["backgroundColor"]),
            ("border", ["border", "borderRadius"]), ("spacing", ["padding"])]
        attributes := some ["type", "disabled", "title"]
        events := some ["click", "focus", "blur"] }),
    ("img",
      { sections := some ["layout", "style"]
        styleGroups := [("border", ["border", "borderRadius"])]
        styles := some { deny := ["color"] }
        attributes := some ["src", "alt", "loading"]
        events := some ["click", "load", "error"] }),
    ("input",
      { sections := some ["content", "style", "actions"]
        styleGroups := Dict.ofList
          [("typography", ["color", "fontSize"]),
            ("border", ["border", "borderRadius", "borderColor"]), ("spacing", ["padding"])]
        attributes := some ["type", "name", "placeholder", "value", "disabled"]
        events := some ["input", "change", "focus", "blur"] })]

/-- The components. -/
def components : Dict Component := Dict.ofList
  [("Container",
    { tags := ["div", "section", "ul", "li"], defaultTag := some "div", canHaveChildren := true }),
    ("Text",
      { tags := ["span", "p", "h1", "h2", "h3"]
        defaultTag := some "p"
        props := [{ key := "text", label := some "Text" }] }),
    ("Button",
      { tags := ["button", "a"]
        defaultTag := some "button"
        props := [{ key := "label", label := some "Label" },
          { key := "href", label := some "Link", when := some [("tag", .string "a")] }] }),
    ("Image",
      { tags := ["img"]
        defaultTag := some "img"
        props := [{ key := "src", label := some "Source" },
          { key := "alt", label := some "Alt text",
            whenExpr := some "node.props.decorative != true" }] })]

end Builtin

/-- The builtin registry. -/
def Registry.builtin : Registry :=
  { styles :=
      { allow := ["width", "height", "display", "overflow", "opacity"]
        deny := ["behavior", "expression", "mozBinding"]
        perTag := [("img", { allow := ["objectFit"], deny := ["fontSize", "fontWeight"] })]
        specs := Builtin.specs }
    tags := Builtin.tags
    components := Builtin.components
    componentPolicies :=
      [("Image", { inspector := [("layout.overflow", { visible := some false })] })] }

end Policy
end PageBuilder
