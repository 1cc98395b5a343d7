import ShaderGraph.Slot

/-!
# Node types

There are seventeen types of shading node. Each declares a fixed slot table; a slot's index in the
table is its address inside the node, so tables only ever grow at the end.
-/

set_option autoImplicit false

namespace ShaderGraph

/-- The groups under which node types are offered. -/
inductive NodeCategory
  | input
  | output
  | texture
  | color
  | vector
  | converter
deriving DecidableEq, Repr

/-- A type of shading node. -/
inductive NodeType
  /-- A constant number. -/
  | value
  /-- A constant color. -/
  | rgb
  /-- A constant vector. -/
  | vector
  /-- Coordinates of the surface. -/
  | textureCoordinate
  /-- Arithmetic on numbers. -/
  | math
  /-- Arithmetic on vectors. -/
  | vectorMath
  /-- Blends two colors. -/
  | mixRgb
  | invert
  | separateRgb
  | combineRgb
  /-- Maps a number through a gradient. -/
  | colorRamp
  | rgbCurves
  | vectorCurves
  | imageTexture
  | noiseTexture
  | checkerTexture
  /-- The result of the shader. -/
  | output
deriving DecidableEq, Repr, Inhabited

namespace NodeCategory

/-- Name of the category. -/
def name : NodeCategory → String
  | input => "Input"
  | output => "Output"
  | texture => "Texture"
  | color => "Color"
  | vector => "Vector"
  | converter => "Converter"

/-- All categories. -/
def all : List NodeCategory := [input, output, texture, color, vector, converter]

end NodeCategory

namespace NodeType

/-- All node types, in menu order. -/
def all : List NodeType :=
  [value, rgb, vector, textureCoordinate, math, vectorMath, mixRgb, invert, separateRgb,
   combineRgb, colorRamp, rgbCurves, vectorCurves, imageTexture, noiseTexture, checkerTexture,
   output]

/-- Operations of a math node. -/
def mathOperations : List String :=
  ["Add", "Subtract", "Multiply", "Divide", "Power", "Minimum", "Maximum", "Sine", "Cosine",
   "Absolute"]

/-- Operations of a vector math node. -/
def vectorMathOperations : List String :=
  ["Add", "Subtract", "Multiply", "Cross Product", "Dot Product", "Normalize", "Length"]

/-- Blend modes of a color mixing node. -/
def blendModes : List String := ["Mix", "Add", "Multiply", "Screen", "Subtract", "Difference"]

/-- Filters of an image texture node. -/
def imageFilters : List String := ["Linear", "Closest"]

/-- The color default with three equal channels. -/
def grey (level : Binary32) : SlotDefault := .color (Vec3.splat level)

/-- The vector default at the origin. -/
def origin : SlotDefault := .vector (Vec3.splat 0.0)

/-- The slot table of a type. -/
def slots : NodeType → List SlotDecl
  | value => [.property "Value" (.float 0.5), .output "Value" .float]
  | rgb => [.property "Color" (grey 0.5), .output "Color" .color]
  | vector => [.property "Vector" origin, .output "Vector" .vector]
  | textureCoordinate =>
    [.output "Generated" .vector, .output "Normal" .vector, .output "UV" .vector]
  | math =>
    [.property "Operation" (.enum 0 mathOperations), .property "Clamp" (.bool false),
     .input "A" (.float 0.5), .input "B" (.float 0.5), .output "Value" .float]
  | vectorMath =>
    [.property "Operation" (.enum 0 vectorMathOperations), .input "A" origin, .input "B" origin,
     .output "Vector" .vector, .output "Value" .float]
  | mixRgb =>
    [.property "Blend" (.enum 0 blendModes), .property "Clamp" (.bool false),
     .input "Fac" (.float 0.5), .input "Color1" (grey 0.5), .input "Color2" (grey 0.5),
     .output "Color" .color]
  | invert => [.input "Fac" (.float 1.0), .input "Color" (grey 0.0), .output "Color" .color]
  | separateRgb =>
    [.input "Color" (grey 0.8), .output "R" .float, .output "G" .float, .output "B" .float]
  | combineRgb =>
    [.input "R" (.float 0.0), .input "G" (.float 0.0), .input "B" (.float 0.0),
     .output "Color" .color]
  | colorRamp =>
    [.property "Ramp" .colorRamp, .input "Fac" (.float 0.5), .output "Color" .color,
     .output "Alpha" .float]
  | rgbCurves =>
    [.property "Curves" .rgbCurve, .input "Fac" (.float 1.0), .input "Color" (grey 1.0),
     .output "Color" .color]
  | vectorCurves =>
    [.property "Curves" .vectorCurve, .input "Fac" (.float 1.0), .input "Vector" origin,
     .output "Vector" .vector]
  | imageTexture =>
    [.property "Image" .image, .property "Interpolation" (.enum 0 imageFilters),
     .input "Vector" origin, .output "Color" .color, .output "Alpha" .float]
  | noiseTexture =>
    [.input "Vector" origin, .input "Scale" (.float 5.0), .input "Octaves" (.int 4),
     .output "Fac" .float, .output "Color" .color]
  | checkerTexture =>
    [.input "Vector" origin, .input "Color1" (grey 0.8), .input "Color2" (grey 0.2),
     .input "Scale" (.float 5.0), .output "Color" .color, .output "Fac" .float]
  | output => [.input "Color" (grey 0.8), .input "Alpha" (.float 1.0)]

/-- Display name. -/
def name : NodeType → String
  | value => "Value"
  | rgb => "RGB"
  | vector => "Vector"
  | textureCoordinate => "Texture Coordinate"
  | math => "Math"
  | vectorMath => "Vector Math"
  | mixRgb => "Mix RGB"
  | invert => "Invert"
  | separateRgb => "Separate RGB"
  | combineRgb => "Combine RGB"
  | colorRamp => "Color Ramp"
  | rgbCurves => "RGB Curves"
  | vectorCurves => "Vector Curves"
  | imageTexture => "Image Texture"
  | noiseTexture => "Noise Texture"
  | checkerTexture => "Checker Texture"
  | output => "Material Output"

/-- Name in documents. -/
def key : NodeType → String
  | value => "value"
  | rgb => "rgb"
  | vector => "vector"
  | textureCoordinate => "texture_coordinate"
  | math => "math"
  | vectorMath => "vector_math"
  | mixRgb => "mix_rgb"
  | invert => "invert"
  | separateRgb => "separate_rgb"
  | combineRgb => "combine_rgb"
  | colorRamp => "color_ramp"
  | rgbCurves => "rgb_curves"
  | vectorCurves => "vector_curves"
  | imageTexture => "image_texture"
  | noiseTexture => "noise_texture"
  | checkerTexture => "checker_texture"
  | output => "output"

/-- The type with a given name in documents. -/
def ofKey? (key : String) : Option NodeType := all.find? fun type => type.key == key

/-- The group under which the type is offered. -/
def category : NodeType → NodeCategory
  | value | rgb | vector | textureCoordinate => .input
  | output => .output
  | imageTexture | noiseTexture | checkerTexture => .texture
  | mixRgb | invert | rgbCurves => .color
  | vectorMath | vectorCurves => .vector
  | math | separateRgb | combineRgb | colorRamp => .converter

/-- The types of a group, in menu order. -/
def inCategory (category : NodeCategory) : List NodeType :=
  all.filter fun type => type.category = category

end NodeType

end ShaderGraph
