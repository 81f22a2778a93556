import NativeProps.Json.Value
import NativeProps.Schema.Tag

/-!
# Configurations

* `Config`: the type names of the scalar annotations and the header that image sources need.
* `Config.Field`: the six fields in their order, with the keys they have in configuration files.
* `Config.get`, `Config.ofFields`: a configuration as a function of its fields.
* `Config.scalarType`: the type name of a scalar annotation.
-/

namespace NativeProps

/-- The names that generated code takes from its platform. -/
structure Config where
  boolType : String := "bool"
  stringType : String := "std::string"
  intType : String := "int"
  doubleType : String := "double"
  floatType : String := "Float"
  imageSourceHeader : String := "#include <react/components/image/conversions.h>"
  deriving DecidableEq, Repr

namespace Config

instance : Inhabited Config := ⟨{}⟩

/-- A field of a configuration. -/
inductive Field where
  | boolType
  | stringType
  | intType
  | doubleType
  | floatType
  | imageSourceHeader
  deriving DecidableEq, Repr

namespace Field

/-- The key of a field in a configuration file. -/
def key : Field → String
  | .boolType => "bool_type"
  | .stringType => "string_type"
  | .intType => "int_type"
  | .doubleType => "double_type"
  | .floatType => "float_type"
  | .imageSourceHeader => "image_source_include"

/-- All fields in their order. -/
def all : List Field :=
  [.boolType, .stringType, .intType, .doubleType, .floatType, .imageSourceHeader]

theorem mem_all (f : Field) : f ∈ all := by cases f <;> decide

/-- The field of a key. -/
def ofKey? (key : String) : Option Field := all.find? fun f => f.key == key

@[simp] theorem ofKey?_key (f : Field) : ofKey? f.key = some f := by cases f <;> decide

end Field

/-- The value of a field. -/
def get (c : Config) : Field → String
  | .boolType => c.boolType
  | .stringType => c.stringType
  | .intType => c.intType
  | .doubleType => c.doubleType
  | .floatType => c.floatType
  | .imageSourceHeader => c.imageSourceHeader

/-- The configuration with given values of its fields. -/
def ofFields (value : Field → String) : Config where
  boolType := value .boolType
  stringType := value .stringType
  intType := value .intType
  doubleType := value .doubleType
  floatType := value .floatType
  imageSourceHeader := value .imageSourceHeader

@[simp] theorem get_ofFields (value : Field → String) (f : Field) :
    (ofFields value).get f = value f := by cases f <;> rfl

/-- The keys and values of a configuration in the order of its fields. -/
def entries (c : Config) : List (String × String) := Field.all.map fun f => (f.key, c.get f)

/-- The field that names the type of a scalar annotation. -/
def scalarField : Scalar → Field
  | .boolean => .boolType
  | .string => .stringType
  | .int32 => .intType
  | .double => .doubleType
  | .float => .floatType

/-- The type name of a scalar annotation. -/
def scalarType (c : Config) (s : Scalar) : String := c.get (scalarField s)

end Config

end NativeProps
