import Mathlib.Algebra.Order.Ring.Int
import Mathlib.Data.String.Basic

/-! JSON values as a document tree, and the struct-shaped reading of them that a
derived deserializer performs. Objects are association lists kept sorted by key
by `insert`. Reading failures keep the shape of the complaint; `ReadError.text`
renders it. -/

/-- An integer, or a floating point number by its shortest decimal text. -/
inductive JsonNumber where
  | int (value : Int)
  | float (text : String)
  deriving DecidableEq, Repr

inductive Json where
  | null
  | bool (value : Bool)
  | num (value : JsonNumber)
  | str (value : String)
  | arr (items : List Json)
  | obj (fields : List (String × Json))
  deriving Repr

abbrev JsonMap := List (String × Json)

namespace Json

mutual

def decEq : (a b : Json) → Decidable (a = b)
  | .null, .null => isTrue rfl
  | .bool a, .bool b => decidable_of_iff (a = b) (by simp)
  | .num a, .num b => decidable_of_iff (a = b) (by simp)
  | .str a, .str b => decidable_of_iff (a = b) (by simp)
  | .arr xs, .arr ys =>
    match decEqItems xs ys with
    | isTrue h => isTrue (by rw [h])
    | isFalse h => isFalse (by simpa using h)
  | .obj xs, .obj ys =>
    match decEqFields xs ys with
    | isTrue h => isTrue (by rw [h])
    | isFalse h => isFalse (by simpa using h)
  | .null, .bool _ | .null, .num _ | .null, .str _ | .null, .arr _ | .null, .obj _
  | .bool _, .null | .bool _, .num _ | .bool _, .str _ | .bool _, .arr _ | .bool _, .obj _
  | .num _, .null | .num _, .bool _ | .num _, .str _ | .num _, .arr _ | .num _, .obj _
  | .str _, .null | .str _, .bool _ | .str _, .num _ | .str _, .arr _ | .str _, .obj _
  | .arr _, .null | .arr _, .bool _ | .arr _, .num _ | .arr _, .str _ | .arr _, .obj _
  | .obj _, .null | .obj _, .bool _ | .obj _, .num _ | .obj _, .str _ | .obj _, .arr _ =>
    isFalse (by simp)

def decEqItems : (xs ys : List Json) → Decidable (xs = ys)
  | [], [] => isTrue rfl
  | [], _ :: _ | _ :: _, [] => isFalse (by simp)
  | x :: xs, y :: ys =>
    match decEq x y, decEqItems xs ys with
    | isTrue h, isTrue t => isTrue (by rw [h,t])
    | isFalse h, _ => isFalse (by simp [h])
    | _, isFalse t => isFalse (by simp [t])

def decEqFields : (xs ys : JsonMap) → Decidable (xs = ys)
  | [], [] => isTrue rfl
  | [], _ :: _ | _ :: _, [] => isFalse (by simp)
  | (k,x) :: xs, (l,y) :: ys =>
    match decEq x y, decEqFields xs ys with
    | isTrue h, isTrue t => decidable_of_iff (k = l) (by simp [h,t])
    | isFalse h, _ => isFalse (by simp [h])
    | _, isFalse t => isFalse (by simp [t])

end

instance : DecidableEq Json := decEq

def asObject : Json → Option JsonMap
  | .obj fields => some fields
  | _ => none

@[simp] theorem asObject_obj (fields : List (String × Json)) :
    (Json.obj fields).asObject = some fields := rfl

def asString : Json → Option String
  | .str text => some text
  | _ => none

@[simp] theorem asString_str (text : String) : (Json.str text).asString = some text := rfl

/-- The 64-bit signed integers, which is what an integer id may be. -/
def asI64 : Json → Option Int
  | .num (.int value) => if -2^63 ≤ value ∧ value < 2^63 then some value else none
  | _ => none

def asU64 : Json → Option Nat
  | .num (.int value) => if 0 ≤ value ∧ value < 2^64 then some value.toNat else none
  | _ => none

def ofNat (value : Nat) : Json := .num (.int value)

mutual

/-- The value with every floating point number blanked out. -/
def skeleton : Json → Json
  | .null => .null
  | .bool value => .bool value
  | .num (.int value) => .num (.int value)
  | .num (.float _) => .num (.float "")
  | .str value => .str value
  | .arr items => .arr (skeletonItems items)
  | .obj fields => .obj (skeletonFields fields)

def skeletonItems : List Json → List Json
  | [] => []
  | item :: rest => item.skeleton :: skeletonItems rest

def skeletonFields : List (String × Json) → List (String × Json)
  | [] => []
  | (name,value) :: rest => (name,value.skeleton) :: skeletonFields rest

end

end Json

namespace JsonMap

def lookup (key : String) : JsonMap → Option Json
  | [] => none
  | (k,value) :: rest => if k = key then some value else lookup key rest

def insert (key : String) (value : Json) : JsonMap → JsonMap
  | [] => [(key,value)]
  | (k,old) :: rest =>
    if k = key then (key,value) :: rest
    else if key < k then (key,value) :: (k,old) :: rest
    else (k,old) :: insert key value rest

@[simp] theorem lookup_nil (key : String) : lookup key [] = none := rfl

@[simp] theorem lookup_insert_same (key : String) (value : Json) (fields : JsonMap) :
    lookup key (insert key value fields) = some value := by
  induction fields with
  | nil => simp [insert,lookup]
  | cons head rest ih =>
    obtain ⟨k,old⟩ := head
    simp only [insert]
    split
    · simp [lookup]
    · rename_i different
      split
      · simp [lookup]
      · simp [lookup,different,ih]

@[simp] theorem lookup_insert_other (key other : String) (value : Json) (fields : JsonMap)
    (different : other ≠ key) : lookup other (insert key value fields) = lookup other fields := by
  induction fields with
  | nil => simp [insert,lookup,Ne.symm different]
  | cons head rest ih =>
    obtain ⟨k,old⟩ := head
    simp only [insert]
    split
    · rename_i same
      subst same
      simp [lookup,Ne.symm different]
    · split
      · simp [lookup,Ne.symm different]
      · simp only [lookup,ih]

def remove (key : String) (fields : JsonMap) : JsonMap := fields.filter fun field => field.1 ≠ key

@[simp] theorem lookup_remove_same (key : String) (fields : JsonMap) :
    lookup key (remove key fields) = none := by
  induction fields with
  | nil => rfl
  | cons head rest ih =>
    obtain ⟨k,value⟩ := head
    by_cases same : k = key
    · simpa [remove,same] using ih
    · simpa [remove,lookup,same] using ih

@[simp] theorem lookup_remove_other (key other : String) (fields : JsonMap)
    (different : other ≠ key) : lookup other (remove key fields) = lookup other fields := by
  induction fields with
  | nil => rfl
  | cons head rest ih =>
    obtain ⟨k,value⟩ := head
    by_cases same : k = key
    · subst same
      simpa [remove,lookup,Ne.symm different] using ih
    · by_cases here : k = other
      · simp [remove,lookup,here,different]
      · simpa [remove,lookup,same,here] using ih

/-- The object a serializer builds from named members, absent ones left out. -/
def ofMembers (members : List (String × Option Json)) : JsonMap :=
  members.foldl (fun fields member =>
    match member.2 with
    | some value => insert member.1 value fields
    | none => fields) []

/-- Under distinct names a serializer's object holds what was put under each. -/
theorem lookup_ofMembers {members : List (String × Option Json)}
    (distinct : (members.map Prod.fst).Nodup) (key : String) :
    lookup key (ofMembers members) = (members.lookup key).join := by
  have folded : ∀ (members : List (String × Option Json)) (fields : JsonMap),
      (members.map Prod.fst).Nodup →
      lookup key (members.foldl (fun fields member =>
        match member.2 with
        | some value => insert member.1 value fields
        | none => fields) fields) =
        ((members.lookup key).join <|>
          lookup key fields) := by
    intro members
    induction members with
    | nil =>
      intro fields _
      rfl
    | cons member rest ih =>
      intro fields distinct
      obtain ⟨name,value⟩ := member
      rw [List.map_cons,List.nodup_cons] at distinct
      rw [List.foldl_cons,ih _ distinct.2]
      by_cases here : key = name
      · subst here
        have absent : rest.lookup key = none := by
          rw [List.lookup_eq_none_iff]
          intro other held
          have named : other.1 ∈ rest.map Prod.fst := List.mem_map_of_mem held
          have different : key ≠ other.1 := fun same => distinct.1 (same ▸ named)
          simpa using different
        cases value <;> simp [absent]
      · have different : (key == name) = false := by simpa using here
        cases value <;> simp [List.lookup_cons,different,lookup_insert_other _ _ _ _ here]
  rw [ofMembers,folded members [] distinct]
  cases (members.lookup key).join <;> rfl

end JsonMap

/-- Why a value could not be read as the wanted shape. -/
inductive ReadError where
  | missingField (name : String)
  | invalidType (found expected : String)
  | invalidValue (found expected : String)
  | invalidLength (found : Nat) (expected : String)
  | custom (message : String)
  deriving DecidableEq, Repr

def ReadError.text : ReadError → String
  | .missingField name => "missing field `" ++ name ++ "`"
  | .invalidType found expected => "invalid type: " ++ found ++ ", expected " ++ expected
  | .invalidValue found expected => "invalid value: " ++ found ++ ", expected " ++ expected
  | .invalidLength found expected =>
    "invalid length " ++ toString found ++ ", expected " ++ expected
  | .custom message => message

namespace Json

/-- How a complaint names the value it found. -/
def unexpected : Json → String
  | .null => "null"
  | .bool value => "boolean `" ++ toString value ++ "`"
  | .num (.int value) => "integer `" ++ toString value ++ "`"
  | .num (.float text) => "floating point `" ++ text ++ "`"
  | .str text => "string \"" ++ text ++ "\""
  | .arr _ => "sequence"
  | .obj _ => "map"

/-- The members a derived struct reader is offered: an object's own, or the items
of an array under the struct's field names in order. -/
inductive Members where
  | named (fields : JsonMap)
  | positional (struct : String) (names : List String) (items : List Json)

def members (struct : String) (names : List String) : Json → Except ReadError Members
  | .obj fields => .ok (.named fields)
  | .arr items =>
    if names.length < items.length
    then .error (.invalidLength items.length "fewer elements in array")
    else .ok (.positional struct names items)
  | other => .error (.invalidType (unexpected other) ("struct " ++ struct))

def Members.find (members : Members) (name : String) : Option Json :=
  match members with
  | .named fields => JsonMap.lookup name fields
  | .positional _ names items => JsonMap.lookup name (names.zip items)

/-- A short array is a wrong length, not a missing name. -/
def Members.missing (members : Members) (name : String) : ReadError :=
  match members with
  | .named _ => .missingField name
  | .positional struct names _ => .invalidLength (names.idxOf name)
      ("struct " ++ struct ++ " with " ++ toString names.length ++
        if names.length = 1 then " element" else " elements")

/-- A field with no default. -/
def Members.required (members : Members) (name : String)
    (read : Json → Except ReadError α) : Except ReadError α :=
  match members.find name with
  | some value => read value
  | none => .error (members.missing name)

/-- An `Option` field with no default attribute: `null` reads as absent, and an
absent name is absent, but a short array is still refused. -/
def Members.optional (members : Members) (name : String)
    (read : Json → Except ReadError α) : Except ReadError (Option α) :=
  match members.find name, members with
  | some .null, _ => .ok none
  | some value, _ => (read value).map some
  | none, .named _ => .ok none
  | none, .positional .. => .error (members.missing name)

def Members.defaulted (members : Members) (name : String) (fallback : α)
    (read : Json → Except ReadError α) : Except ReadError α :=
  match members.find name with
  | some value => read value
  | none => .ok fallback

/-- An `Option` field with a default attribute. -/
def Members.defaultedOption (members : Members) (name : String)
    (read : Json → Except ReadError α) : Except ReadError (Option α) :=
  members.defaulted name none fun
    | .null => .ok none
    | value => (read value).map some

def readString (value : Json) : Except ReadError String :=
  match value with
  | .str text => .ok text
  | other => .error (.invalidType (unexpected other) "a string")

def readBool (value : Json) : Except ReadError Bool :=
  match value with
  | .bool flag => .ok flag
  | other => .error (.invalidType (unexpected other) "a boolean")

def readU64 (value : Json) : Except ReadError Nat :=
  match value.asU64, value with
  | some number, _ => .ok number
  | none, .num (.int _) => .error (.invalidValue (unexpected value) "u64")
  | none, _ => .error (.invalidType (unexpected value) "u64")

def readI32 (value : Json) : Except ReadError Int :=
  match value with
  | .num (.int number) =>
    if -2^31 ≤ number ∧ number < 2^31 then .ok number
    else .error (.invalidValue (unexpected value) "i32")
  | other => .error (.invalidType (unexpected other) "i32")

def readMap (value : Json) : Except ReadError JsonMap :=
  match value with
  | .obj fields => .ok fields
  | other => .error (.invalidType (unexpected other) "a map")

def readList (read : Json → Except ReadError α) (value : Json) : Except ReadError (List α) :=
  match value with
  | .arr items => items.mapM read
  | other => .error (.invalidType (unexpected other) "a sequence")

end Json

/-! ## Skeletons

What a skeleton tells of its value: everything outside the floating point numbers. -/

namespace Json

theorem eq_str_of_skeleton {value : Json} {text : String} (same : value.skeleton = .str text) :
    value = .str text := by
  cases value with
  | num number => cases number <;> cases same
  | str other => exact same
  | _ => cases same

theorem eq_int_of_skeleton {value : Json} {number : Int}
    (same : value.skeleton = .num (.int number)) : value = .num (.int number) := by
  cases value with
  | num other =>
    cases other with
    | int other => exact same
    | float text => cases same
  | _ => cases same

theorem skeleton_eq_null_iff {value : Json} : value.skeleton = .null ↔ value = .null := by
  constructor
  · intro same
    cases value with
    | null => rfl
    | num number => cases number <;> cases same
    | _ => cases same
  · rintro rfl
    rfl

theorem eq_obj_of_skeleton {value : Json} {fields : JsonMap}
    (same : value.skeleton = .obj fields) :
    ∃ own, value = .obj own ∧ skeletonFields own = fields := by
  cases value with
  | num number => cases number <;> cases same
  | obj own => exact ⟨own,rfl,Json.obj.inj same⟩
  | _ => cases same

theorem eq_cons_of_skeletonFields {own rest : JsonMap} {name : String} {value : Json}
    (same : skeletonFields own = (name,value) :: rest) :
    ∃ first more, own = (name,first) :: more ∧ first.skeleton = value ∧
      skeletonFields more = rest := by
  cases own with
  | nil => cases same
  | cons field more =>
    obtain ⟨own,value⟩ := field
    obtain ⟨first,rfl⟩ := List.cons.inj same
    cases first
    exact ⟨value,more,rfl,rfl,rfl⟩

/-- A text is kept as it is. -/
theorem eq_text_of_skeletonFields {own rest : JsonMap} {name text : String}
    (same : skeletonFields own = (name,.str text) :: rest) :
    ∃ more, own = (name,.str text) :: more ∧ skeletonFields more = rest := by
  obtain ⟨first,more,rfl,sameText,left⟩ := eq_cons_of_skeletonFields same
  obtain rfl := eq_str_of_skeleton sameText
  exact ⟨more,rfl,left⟩

theorem eq_nil_of_skeletonFields {own : JsonMap} (same : skeletonFields own = []) : own = [] := by
  cases own with
  | nil => rfl
  | cons field more => cases same

/-- The last member, which may be absent. -/
theorem eq_member_of_skeletonFields {own : JsonMap} {name : String} {member : Option Json}
    (same : skeletonFields own = skeletonFields (member.map (Prod.mk name)).toList) :
    ∃ other : Option Json, own = (other.map (Prod.mk name)).toList := by
  cases member with
  | none => exact ⟨none,eq_nil_of_skeletonFields same⟩
  | some value =>
    obtain ⟨first,more,rfl,_,rest⟩ := eq_cons_of_skeletonFields same
    obtain rfl := eq_nil_of_skeletonFields rest
    exact ⟨some first,rfl⟩

theorem lookup_skeletonFields (key : String) (fields : JsonMap) :
    JsonMap.lookup key (skeletonFields fields) = (JsonMap.lookup key fields).map skeleton := by
  induction fields with
  | nil => rfl
  | cons field rest ih =>
    obtain ⟨name,value⟩ := field
    simp only [skeletonFields,JsonMap.lookup,ih]
    split <;> rfl

end Json
