import CotServer.Theory.JsString

/-!
# JavaScript values

Values that come out of `JSON.parse`, with `undefined` for a property that is not there. Objects
are lists of properties in the order in which `for … in` goes through them. `get` is the access to
a named property that no prototype has; it is `none` where the access throws a `TypeError`.
-/

namespace CotServer

/-- Goes through the entries in order; the body returns what becomes of a value. -/
def mapEntries {m : Type → Type} [Monad m] {α : Type} (f : JsString → α → m α) :
    List (JsString × α) → m (List (JsString × α))
  | [] => pure []
  | (key, v) :: entries => do
    let v ← f key v
    let entries ← mapEntries f entries
    return (key, v) :: entries

inductive JsValue where
  | undefined
  | null
  | boolean (b : Bool)
  | number (x : Rat)
  | string (s : JsString)
  | array (items : List JsValue)
  | object (properties : List (JsString × JsValue))

namespace JsValue

def truthy : JsValue → Bool
  | undefined | null => false
  | boolean b => b
  | number x => x ≠ 0
  | string s => !s.isEmpty
  | array _ | object _ => true

def isBoolean : JsValue → Bool
  | boolean _ => true
  | _ => false

/-- `undefined` or `null`. -/
def isNullish : JsValue → Bool
  | undefined | null => true
  | _ => false

/-- The property of an object. -/
def property (properties : List (JsString × JsValue)) (key : JsString) : JsValue :=
  ((properties.find? fun p => p.1 == key).map (·.2)).getD undefined

/-- `v.key`. -/
def get (v : JsValue) (key : JsString) : Option JsValue :=
  match v with
  | undefined | null => none
  | object properties => some (property properties key)
  | _ => some undefined

/-- What `for (const key in v)` goes through, each key with `v[key]`. -/
def entries : JsValue → List (JsString × JsValue)
  | object properties => properties
  | array items => items.zipIdx.map fun (v, i) => (js (toString i), v)
  | string s => s.zipIdx.map fun (c, i) => (js (toString i), string [c])
  | _ => []

/-- The value after `v[key]` has been changed in place for each of its entries. -/
def withEntries (v : JsValue) (entries : List (JsString × JsValue)) : JsValue :=
  match v with
  | object _ => object entries
  | array _ => array (entries.map (·.2))
  | v => v

/-- The value after an object that is its property `key` has been changed in place. -/
def replace (v : JsValue) (key : JsString) (x : JsValue) : JsValue :=
  match v with
  | object properties => object (properties.map fun p => if p.1 = key then (key, x) else p)
  | v => v

/-- `v.key = x`; a property that JSON does not write is not kept. -/
def assign (v : JsValue) (key : JsString) (x : JsValue) : JsValue :=
  match v with
  | object properties =>
    if properties.any (·.1 = key) then (object properties).replace key x
    else object (properties ++ [(key, x)])
  | v => v

/-- `for (const key in v) …`, where the body changes `v[key]` in place. -/
def forIn {m : Type → Type} [Monad m] (v : JsValue) (f : JsString → JsValue → m JsValue) :
    m JsValue := do
  let entries ← mapEntries f v.entries
  return v.withEntries entries

theorem get_eq_none {v : JsValue} {key : JsString} : v.get key = none ↔ v.isNullish = true := by
  cases v <;> simp [get, isNullish]

end JsValue

end CotServer
