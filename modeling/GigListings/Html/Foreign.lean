import GigListings.Html.Lexer
import GigListings.Html.Node

namespace GigListings.Html

/-! Names in drawings and formulas: markup is read in lower case, some names are not. -/

def drawingTags : List String :=
  ["altGlyph", "altGlyphDef", "altGlyphItem", "animateColor", "animateMotion", "animateTransform",
    "clipPath", "feBlend", "feColorMatrix", "feComponentTransfer", "feComposite",
    "feConvolveMatrix", "feDiffuseLighting", "feDisplacementMap", "feDistantLight",
    "feDropShadow", "feFlood", "feFuncA", "feFuncB", "feFuncG", "feFuncR", "feGaussianBlur",
    "feImage", "feMerge", "feMergeNode", "feMorphology", "feOffset", "fePointLight",
    "feSpecularLighting", "feSpotLight", "feTile", "feTurbulence", "foreignObject", "glyphRef",
    "linearGradient", "radialGradient", "textPath"]

def drawingAttributes : List String :=
  ["attributeName", "attributeType", "baseFrequency", "baseProfile", "calcMode", "clipPathUnits",
    "diffuseConstant", "edgeMode", "filterUnits", "glyphRef", "gradientTransform",
    "gradientUnits", "kernelMatrix", "kernelUnitLength", "keyPoints", "keySplines", "keyTimes",
    "lengthAdjust", "limitingConeAngle", "markerHeight", "markerUnits", "markerWidth",
    "maskContentUnits", "maskUnits", "numOctaves", "pathLength", "patternContentUnits",
    "patternTransform", "patternUnits", "pointsAtX", "pointsAtY", "pointsAtZ", "preserveAlpha",
    "preserveAspectRatio", "primitiveUnits", "refX", "refY", "repeatCount", "repeatDur",
    "requiredExtensions", "requiredFeatures", "specularConstant", "specularExponent",
    "spreadMethod", "startOffset", "stdDeviation", "stitchTiles", "surfaceScale",
    "systemLanguage", "tableValues", "targetX", "targetY", "textLength", "viewBox",
    "viewTarget", "xChannelSelector", "yChannelSelector", "zoomAndPan"]

def respelled (spellings : List String) (name : String) : String :=
  (spellings.find? fun spelling => lowered spelling == name).getD name

def foreignAttributes : List (String × AttributeSpace × String) :=
  [("xlink:actuate", .xlink, "actuate"), ("xlink:arcrole", .xlink, "arcrole"),
    ("xlink:href", .xlink, "href"), ("xlink:role", .xlink, "role"), ("xlink:show", .xlink, "show"),
    ("xlink:title", .xlink, "title"), ("xlink:type", .xlink, "type"), ("xml:base", .xml, "base"),
    ("xml:lang", .xml, "lang"), ("xml:space", .xml, "space"), ("xmlns", .xmlns, "xmlns"),
    ("xmlns:xlink", .xmlns, "xlink")]

def plainAttributes (attributes : List (String × String)) : List Attribute :=
  attributes.map fun (name, value) => ⟨.plain, name, value⟩

def foreignAttribute (spellings : List String) (name value : String) : Attribute :=
  match foreignAttributes.lookup name with
  | some (space, name) => ⟨space, name, value⟩
  | none => ⟨.plain, respelled spellings name, value⟩

def elementNameIn (space : Space) (name : String) : ElementName :=
  match space with
  | .svg => ⟨.svg, respelled drawingTags name⟩
  | space => ⟨space, name⟩

def attributesIn (space : Space) (attributes : List (String × String)) : List Attribute :=
  match space with
  | .html => plainAttributes attributes
  | .svg => attributes.map fun (name, value) => foreignAttribute drawingAttributes name value
  | .math => attributes.map fun (name, value) => foreignAttribute ["definitionURL"] name value

/-- Elements of formulas in which text is markup of the page. -/
def isFormulaText (name : ElementName) : Bool :=
  name.space == .math && ["mi", "mo", "mn", "ms", "mtext"].contains name.name

/-- Elements of drawings whose content is markup of the page. -/
def isDrawingText (name : ElementName) : Bool :=
  name.space == .svg && ["foreignObject", "desc", "title"].contains name.name

end GigListings.Html
