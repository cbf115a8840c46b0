import PackedNumbers.TypeCode

/-!
Why a request is refused, and the words that say so.
-/
namespace PackedNumbers

inductive FormatFault
  | truncated (needed available : Nat)
  | unknownTag (tag : UInt8)
  | sizeMismatch (count width available : Nat)
  | overLimit (count limit : Nat)
  deriving DecidableEq, Repr

inductive ArgumentFault
  | noColumns
  | columnSize (position size expected : Nat)
  | rowOutside (row : Int) (position size : Nat)
  | codeMissingForValues
  | codeMissing
  | codeDiffers (expected found : TypeCode)
  | other (text : String)
  deriving DecidableEq, Repr

inductive Fault
  | range (code : TypeCode) (value least greatest : Int)
  | kind (code : TypeCode) (expected actual : Kind)
  | index (index : Int) (size : Nat)
  | format (cause : FormatFault)
  | argument (cause : ArgumentFault)
  deriving DecidableEq, Repr

def FormatFault.message : FormatFault → String
  | truncated needed available =>
    s!"buffer truncated: need {needed} header bytes, have {available}"
  | unknownTag tag => s!"unknown type code tag: {tag.toNat}"
  | sizeMismatch count width available =>
    s!"payload size mismatch: {count} elements of width {width} do not fit {available} bytes"
  | overLimit count limit => s!"element count {count} exceeds limit {limit}"

def ArgumentFault.message : ArgumentFault → String
  | noColumns => "projection sort needs at least one attribute vector"
  | columnSize position size expected =>
    s!"attribute vector {position} has length {size}, expected {expected}"
  | rowOutside row position size =>
    s!"projection index {row} at position {position} is outside [0, {size})"
  | codeMissingForValues => "builder needs a typecode before values"
  | codeMissing => "builder needs a typecode"
  | codeDiffers expected found => s!"expected {expected.name} buffer, found {found.name}"
  | other text => text

namespace Fault

def message : Fault → String
  | range code value least greatest =>
    s!"value {value} out of range for {code.name} [{least}, {greatest}]"
  | kind code expected actual =>
    s!"wrong type for {code.name}: expected {expected.name}, got {actual.name}"
  | index position size => s!"index {position} out of range for length {size}"
  | format cause => "format error: " ++ cause.message
  | argument cause => "invalid value: " ++ cause.message

inductive Category
  | range
  | type
  | index
  | format
  | value
  deriving DecidableEq, Repr

def Category.name : Category → String
  | range => "range"
  | type => "type"
  | index => "index"
  | format => "format"
  | value => "value"

def Category.label : Category → String
  | range => "RangeError"
  | type => "TypeError"
  | index => "IndexError"
  | format => "FormatError"
  | value => "ValueError"

def category : Fault → Category
  | .range .. => .range
  | .kind .. => .type
  | .index .. => .index
  | .format .. => .format
  | .argument .. => .value

def label (fault : Fault) : String := fault.category.label

def cause? : Fault → Option FormatFault
  | .format cause => some cause
  | _ => none

def retryable (_ : Fault) : Bool := false

end Fault
end PackedNumbers
