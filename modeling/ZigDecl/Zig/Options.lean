import ZigDecl.Config.Basic

/-! # Zig type choices

The custom settings of a configuration choose the Zig types of numbers and texts out of short
lists. The type of values about which nothing is known may be anything that counts as true. -/

namespace ZigDecl.Zig

def intTypes : List String :=
  ["i8", "i16", "i32", "i64", "i128", "isize", "u8", "u16", "u32", "u64", "u128", "usize"]

def floatTypes : List String := ["f16", "f32", "f64", "f80", "f128"]

def stringTypes : List String := ["[]u8", "[]const u8"]

/-- The Zig types in use, and whether declarations are public. -/
structure Options where
  isPublic : Value
  intType : String
  floatType : String
  stringType : String
  anyType : Value
  deriving Repr

namespace Options

def default : Options := ⟨.bool true, "i64", "f64", "[]u8", .str "std.json.Value"⟩

def visibility (o : Options) : String := if o.isPublic.isTruthy then "pub" else ""

def leader (o : Options) : String := if o.visibility == "" then "" else o.visibility ++ " "

/-- The setting of a type that has to be one of `choices`. -/
def choose (custom : List (String × Value)) (key fallback : String) (choices : List String) :
    Except ConfigError String :=
  match (Value.lookup key custom).getD (.str fallback) with
  | .str s => if choices.contains s then .ok s else .error (.invalidType key (.str s))
  | v => if v.isKey then .error (.invalidType key v) else .error (.fault .wrongType)

/-- The settings that options are read from; a custom section that does not count as true stands for
none. -/
def customOf (c : Config) : Except ConfigError (List (String × Value)) :=
  match c.custom with
  | .obj members => .ok members
  | v => if v.isTruthy then .error (.fault .missingOperation) else .ok []

def ofConfig (c : Config) : Except ConfigError Options := do
  let custom ← customOf c
  let intType ← choose custom "int_type" default.intType intTypes
  let floatType ← choose custom "float_type" default.floatType floatTypes
  let stringType ← choose custom "string_type" default.stringType stringTypes
  let anyType := (Value.lookup "any_type" custom).getD default.anyType
  if anyType.isTruthy then return ⟨c.isPublic, intType, floatType, stringType, anyType⟩
  else throw .emptyAnyType

end Options

end ZigDecl.Zig
