import OpenPubkey.Runtime

set_option autoImplicit false

namespace OpenPubkey

inductive Json where
  | null
  | bool (b : Bool)
  | num (n : Int)
  | str (s : String)
  | arr (xs : List Json)
  | obj (kvs : List (String × Json))
deriving Inhabited

namespace Json

def kind : Json → String
  | null => "null"
  | bool _ => "bool"
  | num _ => "number"
  | str _ => "string"
  | arr _ => "array"
  | obj _ => "object"

mutual
def render : Json → String
  | null => "<nil>"
  | bool b => toString b
  | num n => toString n
  | str s => s
  | arr xs => "[" ++ renderList xs ++ "]"
  | obj kvs => "map[" ++ renderFields kvs ++ "]"

def renderList : List Json → String
  | [] => ""
  | [x] => render x
  | x :: xs => render x ++ " " ++ renderList xs

def renderFields : List (String × Json) → String
  | [] => ""
  | [(k, v)] => k ++ ":" ++ render v
  | (k, v) :: kvs => k ++ ":" ++ render v ++ " " ++ renderFields kvs
end

def asString? : Json → Option String
  | str s => some s
  | _ => none

@[simp] theorem asString?_eq_some (v : Json) (s : String) : v.asString? = some s ↔ v = str s := by
  cases v <;> simp [asString?]

@[simp] theorem bind_asString?_eq_some (v : Option Json) (s : String) :
    v.bind asString? = some s ↔ v = some (str s) := by
  cases v <;> simp

def stringTypeError : Json → Option String
  | str _ | null => none
  | v => some ("json: cannot unmarshal " ++ v.kind ++ " into Go struct field of type string")

end Json

abbrev Claims := List (String × Json)

def unmarshalMap : Option Json → Go Claims
  | none => Go.fail "invalid character looking for beginning of value"
  | some .null => pure []
  | some (.obj kvs) => pure kvs
  | some v => Go.fail ("json: cannot unmarshal " ++ v.kind ++ " into Go value of type map[string]interface {}")

def mapGet (claims : Claims) (key : String) : Option Json :=
  claims.foldl (fun found kv => if kv.1 = key then some kv.2 else found) none

/-- Go's `foldName`: ASCII letters upper-cased, and the two non-ASCII runes whose
simple-fold orbit holds an ASCII letter (long s, Kelvin sign) mapped into it. -/
def foldChar (c : Char) : Char :=
  if 'a' ≤ c ∧ c ≤ 'z' then Char.ofNat (c.toNat - 32)
  else if c = 'ſ' then 'S'
  else if c = 'K' then 'K'
  else c

def foldName (s : String) : String := ⟨s.data.map foldChar⟩

def fieldAny (claims : Claims) (name : String) : Json :=
  claims.foldl (fun found kv => if foldName kv.1 = foldName name then kv.2 else found) .null

def fieldString (claims : Claims) (name : String) : String :=
  claims.foldl (fun found kv =>
    if foldName kv.1 = foldName name then
      match kv.2 with
      | .str s => s
      | _ => found
    else found) ""

def unmarshalStruct (names : List String) : Option Json → Go Claims
  | none => Go.fail "invalid character looking for beginning of value"
  | some .null => pure []
  | some (.obj kvs) =>
    match kvs.findSome? (fun kv =>
        if names.any (fun name => foldName name = foldName kv.1) then kv.2.stringTypeError else none) with
    | some message => Go.fail message
    | none => pure kvs
  | some v => Go.fail ("json: cannot unmarshal " ++ v.kind ++ " into Go value of type struct")

@[simp] theorem unmarshalMap_obj (kvs : Claims) : unmarshalMap (some (.obj kvs)) = pure kvs := rfl

theorem unmarshalMap_eq_ok (payload : Option Json) (claims : Claims) :
    unmarshalMap payload = .ok claims ↔
      payload = some .null ∧ claims = [] ∨ payload = some (.obj claims) := by
  rcases payload with _ | (_ | _ | _ | _ | _ | _) <;> simp [unmarshalMap, Go.fail]

theorem mapGet_append_singleton (claims : Claims) (key : String) (kv : String × Json) :
    mapGet (claims ++ [kv]) key = if kv.1 = key then some kv.2 else mapGet claims key := by
  simp [mapGet]

theorem unmarshalStruct_eq_ok (names : List String) (payload : Option Json) (claims : Claims) :
    unmarshalStruct names payload = .ok claims →
      payload = some .null ∧ claims = [] ∨ payload = some (.obj claims) := by
  rcases payload with _ | (_ | _ | _ | _ | _ | kvs) <;> simp only [unmarshalStruct, Go.fail, Go.pure_eq,
    Except.ok.injEq, reduceCtorEq, false_implies]
  case some.null => exact fun h => .inl ⟨trivial, h.symm⟩
  case some.obj => split <;> simp_all [Go.fail]

theorem unmarshalMap_not_panics (payload : Option Json) : ¬Go.Panics (unmarshalMap payload) := by
  rcases payload with _ | (_ | _ | _ | _ | _ | _) <;> simp [unmarshalMap]

theorem unmarshalStruct_not_panics (names : List String) (payload : Option Json) :
    ¬ Go.Panics (unmarshalStruct names payload) := by
  rintro ⟨reason, panicked⟩
  rcases payload with _ | (_ | _ | _ | _ | _ | kvs) <;>
    simp only [unmarshalStruct, Go.fail, Go.pure_eq, reduceCtorEq, Except.error.injEq] at panicked
  split at panicked <;> simp [Go.fail] at panicked

inductive FieldType where
  | string
  | strings
deriving DecidableEq

def FieldType.typeError : FieldType → Json → Option String
  | .string, v => v.stringTypeError
  | .strings, .null => none
  | .strings, .arr xs => xs.findSome? Json.stringTypeError
  | .strings, v => some ("json: cannot unmarshal " ++ v.kind ++ " into Go struct field of type []string")

def unmarshalFields (fields : List (String × FieldType)) : Option Json → Go Claims
  | none => Go.fail "invalid character looking for beginning of value"
  | some .null => pure []
  | some (.obj kvs) =>
    match kvs.findSome? (fun kv =>
        (fields.find? (fun field => foldName field.1 = foldName kv.1)).bind (·.2.typeError kv.2)) with
    | some message => Go.fail message
    | none => pure kvs
  | some v => Go.fail ("json: cannot unmarshal " ++ v.kind ++ " into Go value of type struct")

def fieldStrings (claims : Claims) (name : String) : List String :=
  claims.foldl (fun found kv =>
    if foldName kv.1 = foldName name then
      match kv.2 with
      | .null => []
      | .arr xs => xs.map fun x => x.asString?.getD ""
      | _ => found
    else found) []

theorem unmarshalFields_not_panics (fields : List (String × FieldType)) (payload : Option Json) :
    ¬Go.Panics (unmarshalFields fields payload) := by
  rintro ⟨reason, panicked⟩
  rcases payload with _ | (_ | _ | _ | _ | _ | kvs) <;>
    simp only [unmarshalFields, Go.fail, Go.pure_eq, reduceCtorEq, Except.error.injEq] at panicked
  split at panicked <;> simp [Go.fail] at panicked

end OpenPubkey
