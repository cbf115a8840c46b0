import PackedNumbers.Scalar

/-!
Codes, kinds and scalars as JSON texts. The texts themselves are another package's: it is given by
what it reads and writes.
-/
namespace PackedNumbers

/-- A package that writes a name alone or as the key of the one number of an object, and that reads
what is written so. -/
structure Json.Package where
  name? (text : String) : Option String
  integer? (key text : String) : Option Int64
  double? (key text : String) : Option (BitVec 64)
  nameText (name : String) : String
  integerText (key : String) (value : Int64) : String
  doubleText (key : String) (word : BitVec 64) : String

section

variable (package : Json.Package)

namespace TypeCode

def ofJson? (text : String) : Option TypeCode := (package.name? text).bind ofName?

def toJson (code : TypeCode) : String := package.nameText code.name

end TypeCode

namespace Kind

def jsonName : Kind → String
  | integer => "Integer"
  | float => "Float"

def ofJsonName? (name : String) : Option Kind := [integer, float].find? (·.jsonName == name)

def ofJson? (text : String) : Option Kind := (package.name? text).bind ofJsonName?

def toJson (kind : Kind) : String := package.nameText kind.jsonName

end Kind

namespace Scalar

def ofJson? (text : String) : Option Scalar :=
  (int <$> package.integer? "Int" text) <|> (float <$> package.double? "Float" text)

def toJson : Scalar → String
  | int value => package.integerText "Int" value
  | float word => package.doubleText "Float" word

end Scalar

end

end PackedNumbers
