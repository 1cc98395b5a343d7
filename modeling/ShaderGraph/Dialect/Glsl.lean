import ShaderGraph.Dialect

/-!
# GLSL

The OpenGL shading language, version 450. A texture is bound together with its sampler, and a
conditional value is an operator.
-/

set_option autoImplicit false

namespace ShaderGraph.Glsl

/-- Name of a type. -/
def typeName : ShaderType → String
  | .bool => "bool"
  | .int => "int"
  | .float => "float"
  | .vec3 => "vec3"
  | .vec4 => "vec4"

/-- Type of a parameter in the uniform block. -/
def uniformType : ParameterValue → String
  | .bool _ => "bool"
  | .int _ => "int"
  | .float _ => "float"
  | .vec3 _ => "vec3"
  | .lut _ | .image _ => "sampler2D"

/-- Access to a parameter. -/
def parameter (p : Parameter) : String :=
  if p.value.isTexture then p.name else "params." ++ p.name

/-- Access to a coordinate of the surface. -/
def input : ShaderInput → String
  | .generated => "in_generated"
  | .normal => "in_normal"
  | .uv => "in_uv"

/-- A call; clamping to `[0, 1]` is spelled with its bounds. -/
def call (function : Builtin) (args : List String) : String :=
  match function with
  | .saturate => "clamp(" ++ ", ".intercalate args ++ ", 0.0, 1.0)"
  | function => function.functionName ++ "(" ++ ", ".intercalate args ++ ")"

/-- The lines that declare a resource. -/
def declare (binding : Nat) : Resource → List String
  | .uniforms members =>
    block s!"layout(std140, set = 0, binding = {binding}) uniform Params"
      (members.map fun p => uniformType p.value ++ " " ++ p.name ++ "; // " ++ p.slot.label)
      " params;"
  | .sampler _ => []
  | .texture p =>
    [s!"layout(set = 0, binding = {binding}) uniform sampler2D {p.name}; // {p.slot.label}"]

/-- The lines that define a helper. -/
def helper : Builtin → List String
  | .luminance =>
    block "float ns_luminance(vec3 c)" ["return dot(c, vec3(0.2126, 0.7152, 0.0722));"] ""
  | .average => block "float ns_average(vec3 v)" ["return (v.x + v.y + v.z) / 3.0;"] ""
  | .noise =>
    block "float ns_hash(vec3 p)"
      ["return fract(sin(dot(p, vec3(12.9898, 78.233, 37.719))) * 43758.5453);"] "" ++
    "" :: block "float ns_value_noise(vec3 p)"
      ["vec3 i = floor(p);",
       "vec3 f = fract(p);",
       "vec3 u = f * f * (3.0 - 2.0 * f);",
       "float x00 = mix(ns_hash(i), ns_hash(i + vec3(1.0, 0.0, 0.0)), u.x);",
       "float x10 = mix(ns_hash(i + vec3(0.0, 1.0, 0.0)), ns_hash(i + vec3(1.0, 1.0, 0.0)), u.x);",
       "float x01 = mix(ns_hash(i + vec3(0.0, 0.0, 1.0)), ns_hash(i + vec3(1.0, 0.0, 1.0)), u.x);",
       "float x11 = mix(ns_hash(i + vec3(0.0, 1.0, 1.0)), ns_hash(i + vec3(1.0, 1.0, 1.0)), u.x);",
       "return mix(mix(x00, x10, u.y), mix(x01, x11, u.y), u.z);"] "" ++
    "" :: block "float ns_noise(vec3 p, float scale, int octaves)"
      (["float sum = 0.0;",
        "float amplitude = 1.0;",
        "float total = 0.0;",
        "vec3 q = p * scale;",
        "int count = clamp(octaves, 1, 16);"] ++
       block "for (int i = 0; i < count; i++)"
         ["sum += amplitude * ns_value_noise(q);",
          "total += amplitude;",
          "amplitude *= 0.5;",
          "q *= 2.0;"] "" ++
       ["return sum / total;"]) ""
  | .noiseColor =>
    block "vec3 ns_noise_color(vec3 p, float scale, int octaves)"
      ["return vec3(",
       "    ns_noise(p, scale, octaves),",
       "    ns_noise(p + vec3(19.19, 7.31, 3.17), scale, octaves),",
       "    ns_noise(p + vec3(5.47, 23.11, 11.83), scale, octaves)",
       ");"] ""
  | .checker =>
    block "float ns_checker(vec3 p, float scale)"
      ["vec3 q = floor(p * scale + 0.00001);",
       "return fract((q.x + q.y + q.z) * 0.5) < 0.25 ? 1.0 : 0.0;"] ""
  | .sampleRamp =>
    block "vec4 ns_sample_ramp(sampler2D lut, float t)"
      ["float size = float(textureSize(lut, 0).x);",
       "float u = (clamp(t, 0.0, 1.0) * (size - 1.0) + 0.5) / size;",
       "return textureLod(lut, vec2(u, 0.5), 0.0);"] ""
  | .rgbCurves =>
    block "vec3 ns_rgb_curves(sampler2D lut, vec3 color, float fac)"
      ["vec3 c = vec3(",
       "    ns_sample_ramp(lut, color.x).w,",
       "    ns_sample_ramp(lut, color.y).w,",
       "    ns_sample_ramp(lut, color.z).w",
       ");",
       "vec3 mapped = vec3(",
       "    ns_sample_ramp(lut, c.x).x,",
       "    ns_sample_ramp(lut, c.y).y,",
       "    ns_sample_ramp(lut, c.z).z",
       ");",
       "return mix(color, mapped, fac);"] ""
  | .vectorCurves =>
    block "vec3 ns_vector_curves(sampler2D lut, vec3 v, float fac)"
      ["vec3 t = v * 0.5 + 0.5;",
       "vec3 mapped = vec3(",
       "    ns_sample_ramp(lut, t.x).x,",
       "    ns_sample_ramp(lut, t.y).y,",
       "    ns_sample_ramp(lut, t.z).z",
       ");",
       "return mix(v, mapped, fac);"] ""
  | .imageLinear =>
    block "vec4 ns_image_linear(sampler2D tex, vec3 uv)" ["return texture(tex, uv.xy);"] ""
  | .imageClosest =>
    block "vec4 ns_image_closest(sampler2D tex, vec3 uv)"
      ["ivec2 size = textureSize(tex, 0);",
       "ivec2 texel = clamp(ivec2(fract(uv.xy) * vec2(size)), ivec2(0), size - 1);",
       "return texelFetch(tex, texel, 0);"] ""
  | _ => []

/-- The GLSL dialect. -/
def dialect : Dialect where
  name := "glsl"
  fileExtension := "frag"
  typeName
  parameter
  input
  select cond onTrue onFalse := "(" ++ cond ++ " ? " ++ onTrue ++ " : " ++ onFalse ++ ")"
  call
  samplers := []
  declare
  opening :=
    ["#version 450",
     "// Generated by nodeshader. Do not edit.",
     "",
     "layout(location = 0) in vec3 in_generated;",
     "layout(location = 1) in vec3 in_normal;",
     "layout(location = 2) in vec3 in_uv;",
     "layout(location = 0) out vec4 out_color;",
     ""]
  interface := []
  helper
  mainHead := ([], "void main()")
  statement name type value := typeName type ++ " " ++ name ++ " = " ++ value ++ ";"
  result color alpha := "out_color = vec4(" ++ color ++ ", " ++ alpha ++ ");"

end ShaderGraph.Glsl
