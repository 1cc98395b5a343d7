import ShaderGraph.Dialect

/-!
# WGSL

The WebGPU shading language. Textures and samplers are bound apart, uniform blocks hold no
Booleans, and a conditional value is a function call with the condition last.
-/

set_option autoImplicit false

namespace ShaderGraph.Wgsl

/-- Name of a type. -/
def typeName : ShaderType → String
  | .bool => "bool"
  | .int => "i32"
  | .float => "f32"
  | .vec3 => "vec3<f32>"
  | .vec4 => "vec4<f32>"

/-- Type of a parameter in the uniform block. -/
def uniformType : ParameterValue → String
  | .bool _ => "u32"
  | .int _ => "i32"
  | .float _ => "f32"
  | .vec3 _ => "vec3<f32>"
  | .lut _ | .image _ => "texture_2d<f32>"

/-- Access to a parameter; a Boolean is stored as an integer. -/
def parameter (p : Parameter) : String :=
  match p.value with
  | .bool _ => "(params." ++ p.name ++ " != 0u)"
  | .lut _ | .image _ => p.name
  | _ => "params." ++ p.name

/-- Access to a coordinate of the surface. -/
def input : ShaderInput → String
  | .generated => "in.generated"
  | .normal => "in.normal"
  | .uv => "in.uv"

/-- The lines that declare a resource. -/
def declare (binding : Nat) : Resource → List String
  | .uniforms members =>
    block "struct Params"
        (members.map fun p => p.name ++ ": " ++ uniformType p.value ++ ", // " ++ p.slot.label) ""
      ++ ["", s!"@group(0) @binding({binding}) var<uniform> params: Params;"]
  | .sampler name => [s!"@group(0) @binding({binding}) var {name}: sampler;"]
  | .texture p =>
    [s!"@group(0) @binding({binding}) var {p.name}: texture_2d<f32>; // {p.slot.label}"]

/-- The lines that define a helper. -/
def helper : Builtin → List String
  | .luminance =>
    block "fn ns_luminance(c: vec3<f32>) -> f32"
      ["return dot(c, vec3<f32>(0.2126, 0.7152, 0.0722));"] ""
  | .average =>
    block "fn ns_average(v: vec3<f32>) -> f32" ["return (v.x + v.y + v.z) / 3.0;"] ""
  | .noise =>
    block "fn ns_hash(p: vec3<f32>) -> f32"
      ["return fract(sin(dot(p, vec3<f32>(12.9898, 78.233, 37.719))) * 43758.5453);"] "" ++
    "" :: block "fn ns_value_noise(p: vec3<f32>) -> f32"
      ["let i = floor(p);",
       "let f = fract(p);",
       "let u = f * f * (3.0 - 2.0 * f);",
       "let x00 = mix(ns_hash(i), ns_hash(i + vec3<f32>(1.0, 0.0, 0.0)), u.x);",
       "let x10 = mix(ns_hash(i + vec3<f32>(0.0, 1.0, 0.0)), " ++
         "ns_hash(i + vec3<f32>(1.0, 1.0, 0.0)), u.x);",
       "let x01 = mix(ns_hash(i + vec3<f32>(0.0, 0.0, 1.0)), " ++
         "ns_hash(i + vec3<f32>(1.0, 0.0, 1.0)), u.x);",
       "let x11 = mix(ns_hash(i + vec3<f32>(0.0, 1.0, 1.0)), " ++
         "ns_hash(i + vec3<f32>(1.0, 1.0, 1.0)), u.x);",
       "return mix(mix(x00, x10, u.y), mix(x01, x11, u.y), u.z);"] "" ++
    "" :: block "fn ns_noise(p: vec3<f32>, scale: f32, octaves: i32) -> f32"
      (["var sum = 0.0;",
        "var amplitude = 1.0;",
        "var total = 0.0;",
        "var q = p * scale;",
        "let count = clamp(octaves, 1, 16);"] ++
       block "for (var i = 0; i < count; i = i + 1)"
         ["sum = sum + amplitude * ns_value_noise(q);",
          "total = total + amplitude;",
          "amplitude = amplitude * 0.5;",
          "q = q * 2.0;"] "" ++
       ["return sum / total;"]) ""
  | .noiseColor =>
    block "fn ns_noise_color(p: vec3<f32>, scale: f32, octaves: i32) -> vec3<f32>"
      ["return vec3<f32>(",
       "    ns_noise(p, scale, octaves),",
       "    ns_noise(p + vec3<f32>(19.19, 7.31, 3.17), scale, octaves),",
       "    ns_noise(p + vec3<f32>(5.47, 23.11, 11.83), scale, octaves)",
       ");"] ""
  | .checker =>
    block "fn ns_checker(p: vec3<f32>, scale: f32) -> f32"
      ["let q = floor(p * scale + vec3<f32>(0.00001));",
       "return select(0.0, 1.0, fract((q.x + q.y + q.z) * 0.5) < 0.25);"] ""
  | .sampleRamp =>
    block "fn ns_sample_ramp(lut: texture_2d<f32>, t: f32) -> vec4<f32>"
      ["let size = f32(textureDimensions(lut).x);",
       "let u = (clamp(t, 0.0, 1.0) * (size - 1.0) + 0.5) / size;",
       "return textureSampleLevel(lut, ns_linear_sampler, vec2<f32>(u, 0.5), 0.0);"] ""
  | .rgbCurves =>
    block "fn ns_rgb_curves(lut: texture_2d<f32>, color: vec3<f32>, fac: f32) -> vec3<f32>"
      ["let c = vec3<f32>(",
       "    ns_sample_ramp(lut, color.x).w,",
       "    ns_sample_ramp(lut, color.y).w,",
       "    ns_sample_ramp(lut, color.z).w",
       ");",
       "let mapped = vec3<f32>(",
       "    ns_sample_ramp(lut, c.x).x,",
       "    ns_sample_ramp(lut, c.y).y,",
       "    ns_sample_ramp(lut, c.z).z",
       ");",
       "return mix(color, mapped, fac);"] ""
  | .vectorCurves =>
    block "fn ns_vector_curves(lut: texture_2d<f32>, v: vec3<f32>, fac: f32) -> vec3<f32>"
      ["let t = v * 0.5 + vec3<f32>(0.5);",
       "let mapped = vec3<f32>(",
       "    ns_sample_ramp(lut, t.x).x,",
       "    ns_sample_ramp(lut, t.y).y,",
       "    ns_sample_ramp(lut, t.z).z",
       ");",
       "return mix(v, mapped, fac);"] ""
  | .imageLinear =>
    block "fn ns_image_linear(tex: texture_2d<f32>, uv: vec3<f32>) -> vec4<f32>"
      ["return textureSample(tex, ns_linear_sampler, uv.xy);"] ""
  | .imageClosest =>
    block "fn ns_image_closest(tex: texture_2d<f32>, uv: vec3<f32>) -> vec4<f32>"
      ["return textureSample(tex, ns_nearest_sampler, uv.xy);"] ""
  | _ => []

/-- The WGSL dialect. -/
def dialect : Dialect where
  name := "wgsl"
  fileExtension := "wgsl"
  typeName
  parameter
  input
  select cond onTrue onFalse := "select(" ++ onFalse ++ ", " ++ onTrue ++ ", " ++ cond ++ ")"
  call function args := function.functionName ++ "(" ++ ", ".intercalate args ++ ")"
  samplers := ["ns_linear_sampler", "ns_nearest_sampler"]
  declare
  opening := ["// Generated by nodeshader. Do not edit.", ""]
  interface :=
    "" :: block "struct FragmentInput"
      ["@location(0) generated: vec3<f32>,",
       "@location(1) normal: vec3<f32>,",
       "@location(2) uv: vec3<f32>,"] ""
  helper
  mainHead := (["@fragment"], "fn fs_main(in: FragmentInput) -> @location(0) vec4<f32>")
  statement name type value := "let " ++ name ++ ": " ++ typeName type ++ " = " ++ value ++ ";"
  result color alpha := "return vec4<f32>(" ++ color ++ ", " ++ alpha ++ ");"

end ShaderGraph.Wgsl
