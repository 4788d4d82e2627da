import MarkupQuery.Html.Name
import MarkupQuery.Html.Token

/-!
# Names in foreign elements

Tags are read in small letters. The names of SVG and MathML that have capitals get them back, and an
attribute of another vocabulary keeps the local part of its name only.
-/

namespace MarkupQuery.Html.Foreign

/-- The elements of SVG that have capitals in their names. -/
def svgElements : List String :=
  ["altGlyph", "altGlyphDef", "altGlyphItem", "animateColor", "animateMotion", "animateTransform",
   "clipPath", "feBlend", "feColorMatrix", "feComponentTransfer", "feComposite",
   "feConvolveMatrix", "feDiffuseLighting", "feDisplacementMap", "feDistantLight", "feDropShadow",
   "feFlood", "feFuncA", "feFuncB", "feFuncG", "feFuncR", "feGaussianBlur", "feImage", "feMerge",
   "feMergeNode", "feMorphology", "feOffset", "fePointLight", "feSpecularLighting", "feSpotLight",
   "feTile", "feTurbulence", "foreignObject", "glyphRef", "linearGradient", "radialGradient",
   "textPath"]

/-- The attributes of SVG that have capitals in their names. -/
def svgAttributes : List String :=
  ["attributeName", "attributeType", "baseFrequency", "baseProfile", "calcMode", "clipPathUnits",
   "diffuseConstant", "edgeMode", "filterUnits", "glyphRef", "gradientTransform", "gradientUnits",
   "kernelMatrix", "kernelUnitLength", "keyPoints", "keySplines", "keyTimes", "lengthAdjust",
   "limitingConeAngle", "markerHeight", "markerUnits", "markerWidth", "maskContentUnits",
   "maskUnits", "numOctaves", "pathLength", "patternContentUnits", "patternTransform",
   "patternUnits", "pointsAtX", "pointsAtY", "pointsAtZ", "preserveAlpha", "preserveAspectRatio",
   "primitiveUnits", "refX", "refY", "repeatCount", "repeatDur", "requiredExtensions",
   "requiredFeatures", "specularConstant", "specularExponent", "spreadMethod", "startOffset",
   "stdDeviation", "stitchTiles", "surfaceScale", "systemLanguage", "tableValues", "targetX",
   "targetY", "textLength", "viewBox", "viewTarget", "xChannelSelector", "yChannelSelector",
   "zoomAndPan"]

/-- The attribute of MathML that has capitals in its name. -/
def mathmlAttributes : List String :=
  ["definitionURL"]

/-- The attributes of other vocabularies, with the local parts of their names. -/
def qualifiedAttributes : List (String × String) :=
  [("xlink:actuate", "actuate"), ("xlink:arcrole", "arcrole"), ("xlink:href", "href"),
   ("xlink:role", "role"), ("xlink:show", "show"), ("xlink:title", "title"),
   ("xlink:type", "type"), ("xml:lang", "lang"), ("xml:space", "space"), ("xmlns", "xmlns"),
   ("xmlns:xlink", "xlink")]

/-- A text in small letters. -/
def small (s : String) : String :=
  String.ofList (s.toList.map Char.toLower)

/-- The spelling with capitals of a name in small letters, if the list has one. -/
def respell (spellings : List String) (name : String) : String :=
  (spellings.find? fun s => small s == name).getD name

/-- The name of an element as its vocabulary spells it. -/
def elementName (space : Namespace) (name : String) : String :=
  if space = .svg then respell svgElements name else name

/-- The name of an attribute as the vocabulary of its element spells it. -/
def attributeName (space : Namespace) (name : String) : String :=
  let name := match space with
    | .svg => respell svgAttributes name
    | .mathml => respell mathmlAttributes name
    | .html => name
  (qualifiedAttributes.lookup name).getD name

/-- The attributes of a foreign element. -/
def attributes (space : Namespace) (attributes : List Attribute) : List Attribute :=
  attributes.map fun a => { a with name := attributeName space a.name }

end MarkupQuery.Html.Foreign
