import Mathlib.Data.Nat.Notation
import Mathlib.Algebra.Order.Ring.Int

/-! # JSON values

The values of `serde_json`, with what the tools read of them.  A float is known by what it prints. -/

namespace Microticket

/-- `serde_json::Value`. -/
inductive Json where
  | null
  | bool (b : Bool)
  | int (n : ℤ)
  | float (text : String)
  | string (s : String)
  | array (items : List Json)
  | object (fields : List (String × Json))

namespace Json

/-- `get`. -/
def get (value : Json) (name : String) : Option Json :=
  match value with
  | object fields => fields.lookup name
  | _ => none

/-- `value[name]`. -/
def index (value : Json) (name : String) : Json := (value.get name).getD null

/-- What `value[name].take()` leaves. -/
def taken (value : Json) (name : String) : Json :=
  match value with
  | object fields => object (fields.map fun field => if field.1 = name then (name, null) else field)
  | _ => value

/-- `as_str`. -/
def asStr : Json → Option String
  | string s => some s
  | _ => none

/-- `as_bool`. -/
def asBool : Json → Option Bool
  | bool b => some b
  | _ => none

/-- `as_i64`. -/
def asI64 : Json → Option ℤ
  | int n =>
      if -9223372036854775808 ≤ n && n ≤ 9223372036854775807 then some n else none
  | _ => none

/-- `as_array`. -/
def asArray : Json → Option (List Json)
  | array items => some items
  | _ => none

def isNull : Json → Bool
  | null => true
  | _ => false

/-- `json!` of an optional text. -/
def ofOption : Option String → Json
  | some s => string s
  | none => null

/-- `json!` of texts. -/
def strings (texts : List String) : Json := array (texts.map string)

theorem asStr_eq {value : Json} {s : String} : value.asStr = some s ↔ value = string s := by
  cases value <;> simp [asStr]

theorem asBool_eq {value : Json} {b : Bool} : value.asBool = some b ↔ value = bool b := by
  cases value <;> simp [asBool]

theorem asI64_eq {value : Json} {n : ℤ} (h : value.asI64 = some n) : value = int n := by
  cases value with
  | int m =>
      simp only [asI64] at h
      split_ifs at h
      exact congrArg int (Option.some.inj h)
  | null | bool | float | string | array | object => cases h

theorem asArray_eq {value : Json} {items : List Json} :
    value.asArray = some items ↔ value = array items := by
  cases value <;> simp [asArray]

end Json

end Microticket
