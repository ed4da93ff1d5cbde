import Mathlib.Data.List.Basic
/-!
# Decoded JSON

The values Go programs keep in an `any`: what `encoding/json` decodes into one,
and what is put together from `map[string]any` and `[]any`. An `Object` is such
a map. A read of a key that is not there gives `nil`, which is also what `null`
decodes to.
-/

namespace SingboxOperator.Lib

/-- A number is kept as its text. -/
inductive Value
  | null
  | bool (b : Bool)
  | num (text : String)
  | str (s : String)
  | arr (items : List Value)
  | obj (fields : List (String × Value))

abbrev Object := List (String × Value)

namespace Value

/-- The assertion `v.(map[string]any)`. -/
def asObject : Value → Option Object
  | .obj fields => some fields
  | _ => none

/-- The assertion `v.([]any)`. -/
def asArray : Value → Option (List Value)
  | .arr items => some items
  | _ => none

/-- The assertion `v.(string)`. -/
def asString : Value → Option String
  | .str s => some s
  | _ => none

/-- The comparison of a value with a string. -/
def isString (s : String) : Value → Bool
  | .str t => t = s
  | _ => false

def isTrue : Value → Bool
  | .bool b => b
  | _ => false

def isNull : Value → Bool
  | .null => true
  | _ => false

def strings (l : List String) : Value := .arr (l.map .str)

@[simp] theorem asObject_obj (o : Object) : (Value.obj o).asObject = some o := rfl

@[simp] theorem asArray_arr (l : List Value) : (Value.arr l).asArray = some l := rfl

@[simp] theorem asString_str (s : String) : (Value.str s).asString = some s := rfl

@[simp] theorem asString_null : Value.null.asString = none := rfl

@[simp] theorem asObject_eq_some {v : Value} {o : Object} : v.asObject = some o ↔ v = .obj o := by
  cases v <;> simp [asObject]

@[simp] theorem asString_eq_some {v : Value} {s : String} : v.asString = some s ↔ v = .str s := by
  cases v <;> simp [asString]

@[simp] theorem isString_iff {v : Value} {s : String} : v.isString s = true ↔ v = .str s := by
  cases v <;> simp [isString]

end Value

namespace Object

def get (key : String) : Object → Value
  | [] => .null
  | (k, v) :: rest => if k = key then v else get key rest

def has (key : String) (o : Object) : Bool := o.any fun f => f.1 = key

def set (key : String) (v : Value) : Object → Object
  | [] => [(key, v)]
  | (k, w) :: rest => if k = key then (key, v) :: rest else (k, w) :: set key v rest

def delete (key : String) (o : Object) : Object := o.filter fun f => f.1 ≠ key

@[simp] theorem get_set_self (key : String) (v : Value) (o : Object) : (o.set key v).get key = v := by
  induction o with
  | nil => simp [set, get]
  | cons f rest ih =>
    obtain ⟨k, w⟩ := f
    by_cases h : k = key <;> simp [set, get, h, ih]

theorem get_set_ne {key key' : String} (h : key ≠ key') (v : Value) (o : Object) :
    (o.set key v).get key' = o.get key' := by
  induction o with
  | nil => simp [set, get, h]
  | cons f rest ih =>
    obtain ⟨k, w⟩ := f
    by_cases hk : k = key
    · simp [set, get, hk, h]
    · simp [set, get, hk, ih]

@[simp] theorem get_delete_self (key : String) (o : Object) : (o.delete key).get key = .null := by
  induction o with
  | nil => rfl
  | cons f rest ih =>
    obtain ⟨k, w⟩ := f
    by_cases h : k = key
    · simpa [delete, h] using ih
    · simpa [delete, h, get] using ih

theorem get_delete_ne {key key' : String} (h : key ≠ key') (o : Object) : (o.delete key).get key' = o.get key' := by
  induction o with
  | nil => rfl
  | cons f rest ih =>
    obtain ⟨k, w⟩ := f
    by_cases hk : k = key
    · have hk' : k ≠ key' := hk ▸ h
      simpa [delete, hk, get, h] using ih
    · by_cases hk' : k = key'
      · subst hk'
        simp [delete, get, hk]
      · simpa [delete, get, hk, hk'] using ih

end Object

end SingboxOperator.Lib
