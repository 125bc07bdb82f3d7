import RecordSql.Text.Blank

/-!
# `RecordSql.Record.Kind`: the kinds of a declared type

A field declares its type by name. The kind is what the rest of the library looks at: a
scalar, one of the composite forms, or `other` for a type that is not built in.
-/

set_option autoImplicit false

namespace RecordSql.Record

/-- The kind of a declared type. -/
inductive Kind where
  | bool
  | int
  | int8
  | int16
  | int32
  | int64
  | uint
  | uint8
  | uint16
  | uint32
  | uint64
  | float32
  | float64
  | complex64
  | complex128
  | interface
  | bytes
  | string
  | map
  | slice
  | struct
  | pointer
  /-- A type that is not built in. -/
  | other
deriving DecidableEq, Repr

namespace Kind

/-- All kinds. -/
def all : List Kind :=
  [bool, int, int8, int16, int32, int64, uint, uint8, uint16, uint32, uint64, float32, float64,
    complex64, complex128, interface, bytes, string, map, slice, struct, pointer, other]

/-- The name of a kind in documents. -/
def name : Kind → String
  | bool => "bool"
  | int => "int"
  | int8 => "int8"
  | int16 => "int16"
  | int32 => "int32"
  | int64 => "int64"
  | uint => "uint"
  | uint8 => "uint8"
  | uint16 => "uint16"
  | uint32 => "uint32"
  | uint64 => "uint64"
  | float32 => "float32"
  | float64 => "float64"
  | complex64 => "complex64"
  | complex128 => "complex128"
  | interface => "interface"
  | bytes => "bytes"
  | string => "string"
  | map => "map"
  | slice => "slice"
  | struct => "struct"
  | pointer => "pointer"
  | other => "other"

/-- The kind with a given name. -/
def ofName? (s : String) : Option Kind :=
  all.find? (·.name == s)

/-- Type names that stand for a kind and are not themselves its name. -/
def synonyms : List (String × Kind) :=
  [("rune", int32), ("byte", uint8), ("[]byte", bytes), ("[]uint8", bytes),
    ("interface\x7b\x7d", interface), ("any", interface)]

/-- The scalar kinds, whose names are also the names of their types. -/
def scalars : List Kind :=
  [bool, int, int8, int16, int32, int64, uint, uint8, uint16, uint32, uint64, float32, float64,
    complex64, complex128, string]

/-- The kind of a composite type, told by how its name starts. -/
def ofShape : List Char → Kind
  | '[' :: ']' :: _ => slice
  | 'm' :: 'a' :: 'p' :: '[' :: _ => map
  | '*' :: _ => pointer
  | _ => other

/-- The kind of a declared type. White space around the name does not count. -/
def ofTypeName (typeName : String) : Kind :=
  let s := Text.trimmed typeName
  match scalars.find? (·.name == s) with
  | some k => k
  | none => (synonyms.lookup s).getD (ofShape s.toList)

end Kind

end RecordSql.Record
