import ArgCheck.Value.Basic

set_option autoImplicit false

/-!
# Builtin types

The scalar and container types, with their tags and their names, and which values belong to them.
A date-time is also a date, and a timestamp is a date-time.
-/

namespace ArgCheck

inductive Builtin where
  | string
  | integer
  | float
  | decimal
  | boolean
  | symbol
  | date
  | dateTime
  | array
  | hash
  deriving DecidableEq, Repr

namespace Builtin

def all : List Builtin :=
  [.string, .integer, .float, .decimal, .boolean, .symbol, .date, .dateTime, .array, .hash]

def tag : Builtin → String
  | .string => "string"
  | .integer => "integer"
  | .float => "float"
  | .decimal => "decimal"
  | .boolean => "boolean"
  | .symbol => "symbol"
  | .date => "date"
  | .dateTime => "date_time"
  | .array => "array"
  | .hash => "hash"

def name : Builtin → String
  | .string => "String"
  | .integer => "Integer"
  | .float => "Float"
  | .decimal => "Decimal"
  | .boolean => "Boolean"
  | .symbol => "Symbol"
  | .date => "Date"
  | .dateTime => "DateTime"
  | .array => "Array"
  | .hash => "Hash"

def ofTag? (tag : String) : Option Builtin := all.find? fun b => b.tag == tag

def isInstance : Builtin → Value → Bool
  | .string, .string _ => true
  | .integer, .int _ => true
  | .float, .float _ => true
  | .decimal, .decimal _ => true
  | .boolean, .bool _ => true
  | .symbol, .symbol _ => true
  | .date, .date _ => true
  | .date, .dateTime _ => true
  | .dateTime, .dateTime _ => true
  | .dateTime, .timestamp _ => true
  | .array, .array _ => true
  | .hash, .map _ => true
  | _, _ => false

theorem mem_all (b : Builtin) : b ∈ all := by
  cases b <;> decide

theorem ofTag?_tag (b : Builtin) : ofTag? b.tag = some b := by
  cases b <;> decide

theorem tag_of_ofTag? {tag : String} {b : Builtin} (h : ofTag? tag = some b) : b.tag = tag := by
  have := List.find?_some h
  simpa using this

end Builtin

end ArgCheck
