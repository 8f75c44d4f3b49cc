import Mathlib.Data.List.Induction
import SmlMcps.Protocol

/-! The builder of elicitation forms. A form is a flat object; each call of the builder
adds a property, changes one in place, or marks one required. -/
namespace SmlMcps

/-- Options for a string field. -/
structure StringField where
  title : Option String := none
  description : Option String := none
  minLength : Option Nat := none
  maxLength : Option Nat := none
  pattern : Option String := none
  format : Option String := none
  default : Option String := none

/-- A 64-bit float: the JSON number it is written as, if it is finite. -/
abbrev Float64 := Option JsonNumber

/-- Options for a number or integer field. -/
structure NumberField where
  title : Option String := none
  description : Option String := none
  minimum : Option Float64 := none
  maximum : Option Float64 := none
  default : Option Float64 := none

/-- Options for a boolean field. -/
structure BooleanField where
  title : Option String := none
  description : Option String := none
  default : Option Bool := none

/-- What is not finite is dropped. -/
def Float64.number (value : Float64) : Option Json := value.map .num

def StringField.build (field : StringField) (typeName : String) : Json :=
  .obj (JsonMap.ofMembers [
    ("type",some (.str typeName)),
    ("title",field.title.map .str),
    ("description",field.description.map .str),
    ("minLength",field.minLength.map .ofNat),
    ("maxLength",field.maxLength.map .ofNat),
    ("pattern",field.pattern.map .str),
    ("format",field.format.map .str),
    ("default",field.default.map .str)])

def NumberField.build (field : NumberField) (typeName : String) : Json :=
  .obj (JsonMap.ofMembers [
    ("type",some (.str typeName)),
    ("title",field.title.map .str),
    ("description",field.description.map .str),
    ("minimum",field.minimum.bind Float64.number),
    ("maximum",field.maximum.bind Float64.number),
    ("default",field.default.bind Float64.number)])

def BooleanField.build (field : BooleanField) : Json :=
  .obj (JsonMap.ofMembers [
    ("type",some (.str "boolean")),
    ("title",field.title.map .str),
    ("description",field.description.map .str),
    ("default",field.default.map .bool)])

/-- Builder for the schema of a form. -/
structure ElicitSchema where
  properties : JsonMap := []
  required : List String := []

namespace ElicitSchema

def new : ElicitSchema := {}

/-- Add a property, or replace it. -/
def add (schema : ElicitSchema) (name : String) (property : Json) : ElicitSchema :=
  { schema with properties := JsonMap.insert name property schema.properties }

def string (schema : ElicitSchema) (name : String) (field : StringField) : ElicitSchema :=
  schema.add name (field.build "string")

def number (schema : ElicitSchema) (name : String) (field : NumberField) : ElicitSchema :=
  schema.add name (field.build "number")

def integer (schema : ElicitSchema) (name : String) (field : NumberField) : ElicitSchema :=
  schema.add name (field.build "integer")

def boolean (schema : ElicitSchema) (name : String) (field : BooleanField) : ElicitSchema :=
  schema.add name field.build

/-- The values of an enum that are their own labels. -/
def plainValues (values : List String) : Json := .arr (values.map .str)

/-- Values of an enum with display titles. -/
def titledValues (choices : List (String × String)) : Json :=
  .arr (choices.map fun choice => .obj (JsonMap.ofMembers
    [("const",some (.str choice.1)),("title",some (.str choice.2))]))

/-- Add a single-select enum whose values are their own labels. -/
def enumeration (schema : ElicitSchema) (name : String) (values : List String) :
    ElicitSchema :=
  schema.add name (.obj (JsonMap.ofMembers
    [("type",some (.str "string")),("enum",some (plainValues values))]))

/-- Add a single-select enum with separate values and display titles. -/
def titledEnumeration (schema : ElicitSchema) (name : String)
    (choices : List (String × String)) : ElicitSchema :=
  schema.add name (.obj (JsonMap.ofMembers
    [("type",some (.str "string")),("oneOf",some (titledValues choices))]))

/-- Add a multi-select enum whose values are their own labels. -/
def multiEnumeration (schema : ElicitSchema) (name : String) (values : List String) :
    ElicitSchema :=
  schema.add name (.obj (JsonMap.ofMembers [("type",some (.str "array")),
    ("items",some (.obj (JsonMap.ofMembers
      [("type",some (.str "string")),("enum",some (plainValues values))])))]))

/-- Add a multi-select enum with separate values and display titles. -/
def titledMultiEnumeration (schema : ElicitSchema) (name : String)
    (choices : List (String × String)) : ElicitSchema :=
  schema.add name (.obj (JsonMap.ofMembers [("type",some (.str "array")),
    ("items",some (.obj (JsonMap.ofMembers [("anyOf",some (titledValues choices))])))]))

/-- Attach metadata to an already-added property. -/
def annotate (schema : ElicitSchema) (name key : String) (value : Json) : ElicitSchema :=
  match JsonMap.lookup name schema.properties with
  | some (.obj property) => schema.add name (.obj (JsonMap.insert key value property))
  | _ => schema

/-- Mark a property required; names that were never added are ignored. -/
def markRequired (schema : ElicitSchema) (name : String) : ElicitSchema :=
  if (JsonMap.lookup name schema.properties).isSome && !schema.required.contains name then
    { schema with required := schema.required ++ [name] }
  else schema

/-- Produce the JSON Schema. -/
def build (schema : ElicitSchema) : Json :=
  let fields := JsonMap.ofMembers
    [("type",some (.str "object")),("properties",some (.obj schema.properties))]
  if schema.required.isEmpty then .obj fields
  else .obj (JsonMap.insert "required" (.arr (schema.required.map .str)) fields)

/-! ## Calls -/

/-- A call of the builder. Field builders are represented by the options they leave. -/
inductive Call where
  | string (name : String) (field : StringField)
  | number (name : String) (field : NumberField)
  | integer (name : String) (field : NumberField)
  | boolean (name : String) (field : BooleanField)
  | enumeration (name : String) (values : List String)
  | titledEnumeration (name : String) (choices : List (String × String))
  | multiEnumeration (name : String) (values : List String)
  | titledMultiEnumeration (name : String) (choices : List (String × String))
  | annotate (name key : String) (value : Json)
  | required (name : String)

def call (schema : ElicitSchema) : Call → ElicitSchema
  | .string name field => schema.string name field
  | .number name field => schema.number name field
  | .integer name field => schema.integer name field
  | .boolean name field => schema.boolean name field
  | .enumeration name values => schema.enumeration name values
  | .titledEnumeration name choices => schema.titledEnumeration name choices
  | .multiEnumeration name values => schema.multiEnumeration name values
  | .titledMultiEnumeration name choices => schema.titledMultiEnumeration name choices
  | .annotate name key value => schema.annotate name key value
  | .required name => schema.markRequired name

/-- The builder after these calls. -/
def run (calls : List Call) : ElicitSchema := calls.foldl call new

/-! ## Kinds of properties -/

/-- The kinds of schema a property may have. -/
inductive Kind where
  | string | number | integer | boolean
  | enumeration | titledEnumeration | multiEnumeration | titledMultiEnumeration
  deriving DecidableEq

/-- What a call adds, and as what. -/
def Call.adds : Call → Option (String × Kind)
  | .string name _ => some (name,.string)
  | .number name _ => some (name,.number)
  | .integer name _ => some (name,.integer)
  | .boolean name _ => some (name,.boolean)
  | .enumeration name _ => some (name,.enumeration)
  | .titledEnumeration name _ => some (name,.titledEnumeration)
  | .multiEnumeration name _ => some (name,.multiEnumeration)
  | .titledMultiEnumeration name _ => some (name,.titledMultiEnumeration)
  | .annotate .. | .required _ => none

/-- The kind the last add under a name declared. -/
def declared (calls : List Call) (name : String) : Option Kind :=
  (calls.reverse.filterMap Call.adds).lookup name

/-- The keys that say what kind of schema a property is. -/
def structuralKeys : List String := ["type","enum","oneOf","anyOf","items","properties"]

def isString : Json → Bool
  | .str _ => true
  | _ => false

def isPlainValues : Json → Bool
  | .arr items => items.all isString
  | _ => false

def isChoice : Json → Bool
  | .obj fields => (JsonMap.lookup "const" fields).any isString &&
      (JsonMap.lookup "title" fields).any isString
  | _ => false

def isTitledValues : Json → Bool
  | .arr items => items.all isChoice
  | _ => false

/-- What the items of a multi-select enum are: strings of an enum, or titled values. -/
def isItems (titled : Bool) : Json → Bool
  | .obj fields =>
    if titled then (JsonMap.lookup "anyOf" fields).any isTitledValues
    else JsonMap.lookup "type" fields == some (.str "string") &&
      (JsonMap.lookup "enum" fields).any isPlainValues
  | _ => false

def Kind.typeName : Kind → String
  | .string | .enumeration | .titledEnumeration => "string"
  | .number => "number"
  | .integer => "integer"
  | .boolean => "boolean"
  | .multiEnumeration | .titledMultiEnumeration => "array"

/-- Whether a kind of schema has this under a structural key. -/
def Kind.fits (kind : Kind) (key : String) (value : Option Json) : Bool :=
  if key = "type" then value == some (.str kind.typeName)
  else
    match kind with
    | .enumeration => if key = "enum" then value.any isPlainValues else value.isNone
    | .titledEnumeration => if key = "oneOf" then value.any isTitledValues else value.isNone
    | .multiEnumeration => if key = "items" then value.any (isItems false) else value.isNone
    | .titledMultiEnumeration =>
      if key = "items" then value.any (isItems true) else value.isNone
    | _ => value.isNone

/-- A schema of this kind. -/
def IsOfKind (kind : Kind) (property : JsonMap) : Prop :=
  ∀ key ∈ structuralKeys, kind.fits key (JsonMap.lookup key property) = true

/-- `required` was called with this name after the name's first add. -/
def AskedFor (calls : List Call) (name : String) : Prop :=
  ∃ before after, calls = before ++ .required name :: after ∧ (declared before name).isSome = true

/-- A flat object with these properties, some of them required. -/
def formSchema (properties : JsonMap) (required : List String) : Json :=
  .obj (JsonMap.ofMembers
    [("type",some (.str "object")),("properties",some (.obj properties)),
      ("required",if required = [] then none else some (.arr (required.map Json.str)))])

/-- The properties are the ones that were added, each of the kind its last add declared, and
the required ones among them are those that were asked for. -/
structure Form (calls : List Call) (properties : JsonMap) (required : List String) : Prop where
  added : ∀ name, (JsonMap.lookup name properties).isSome = (declared calls name).isSome
  kinds : ∀ name kind, declared calls name = some kind → ∃ property,
    JsonMap.lookup name properties = some (.obj property) ∧ IsOfKind kind property
  distinct : required.Nodup
  asked : ∀ name, name ∈ required ↔ AskedFor calls name
  present : ∀ name ∈ required, (JsonMap.lookup name properties).isSome = true

/-- What these calls should build. -/
def Valid (calls : List Call) (schema : Json) : Prop :=
  ∃ properties required, schema = formSchema properties required ∧ Form calls properties required

/-- The call leaves every property of the kind its last add declared: it does not annotate a
structural key of one with what its kind does not have there. -/
def KeepsKinds (before : List Call) : Call → Prop
  | .annotate name key value => ∀ kind, declared before name = some kind →
      key ∈ structuralKeys → kind.fits key (some value) = true
  | _ => True

/-! ## What is added -/

theorem isOfKind_ofMembers {kind : Kind} {members : List (String × Option Json)}
    (distinct : (members.map Prod.fst).Nodup)
    (fits : ∀ key ∈ structuralKeys, kind.fits key (members.lookup key).join = true) :
    IsOfKind kind (JsonMap.ofMembers members) := by
  intro key structural
  rw [JsonMap.lookup_ofMembers distinct]
  exact fits key structural

/-- The kinds with nothing but a type. -/
def Kind.Plain (kind : Kind) : Prop :=
  kind = .string ∨ kind = .number ∨ kind = .integer ∨ kind = .boolean

theorem Kind.Plain.fits_none {kind : Kind} {key : String} (plain : kind.Plain)
    (other : key ≠ "type") : kind.fits key none = true := by
  rcases plain with rfl | rfl | rfl | rfl <;> simp [Kind.fits,other]

/-- A type and options under names that are not structural. -/
theorem isOfKind_plain {kind : Kind} {options : List (String × Option Json)} (plain : kind.Plain)
    (distinct : ("type" :: options.map Prod.fst).Nodup)
    (apart : ∀ key ∈ structuralKeys, key ∉ options.map Prod.fst) :
    IsOfKind kind (JsonMap.ofMembers (("type",some (.str kind.typeName)) :: options)) := by
  refine isOfKind_ofMembers (by rwa [List.map_cons]) fun key structural => ?_
  by_cases typed : key = "type"
  · simp [typed,Kind.fits]
  · have absent : options.lookup key = none := by
      rw [List.lookup_eq_none_iff]
      intro option member
      have different : key ≠ option.1 :=
        fun same => apart key structural (same ▸ List.mem_map_of_mem member)
      simpa using different
    have other : (key == "type") = false := by simpa using typed
    simp [List.lookup_cons,other,absent,plain.fits_none typed]

theorem isPlainValues_plainValues (values : List String) :
    isPlainValues (plainValues values) = true := by
  simp [plainValues,isPlainValues,isString]

theorem lookup_pair {first second : String} (different : first ≠ second) (value other : Json) :
    JsonMap.lookup first (JsonMap.ofMembers [(first,some value),(second,some other)]) =
        some value ∧
      JsonMap.lookup second (JsonMap.ofMembers [(first,some value),(second,some other)]) =
        some other := by
  simp [JsonMap.ofMembers,different]

theorem isTitledValues_titledValues (choices : List (String × String)) :
    isTitledValues (titledValues choices) = true := by
  simp only [titledValues,isTitledValues,List.all_map,List.all_eq_true,Function.comp_apply]
  intro choice _
  obtain ⟨value,title⟩ := lookup_pair (by decide : "const" ≠ "title") (.str choice.1)
    (.str choice.2)
  simp [isChoice,value,title,isString]

/-- A type and one more structural key. -/
theorem isOfKind_pair {kind : Kind} {key : String} {value : Json}
    (distinct : key ≠ "type") (fits : kind.fits key (some value) = true)
    (others : ∀ other ∈ structuralKeys, other ≠ "type" → other ≠ key →
      kind.fits other none = true) :
    IsOfKind kind (JsonMap.ofMembers [("type",some (.str kind.typeName)),(key,some value)]) := by
  apply isOfKind_ofMembers (by simpa using distinct.symm)
  intro other structural
  by_cases typed : other = "type"
  · simp [typed,Kind.fits]
  · have apart : (other == "type") = false := by simpa using typed
    by_cases same : other = key
    · subst same
      simp [List.lookup_cons,apart,fits]
    · have apart' : (other == key) = false := by simpa using same
      simp [List.lookup_cons,apart,apart',others other structural typed same]

/-- What a call adds is an object of the kind it declares. -/
theorem adds_property {call : Call} {name : String} {kind : Kind}
    (adds : call.adds = some (name,kind)) (schema : ElicitSchema) :
    ∃ property, schema.call call = schema.add name (.obj property) ∧ IsOfKind kind property := by
  have numeric : ("type" :: ["title","description","minimum","maximum","default"]).Nodup := by
    decide
  have numbered : ∀ key ∈ structuralKeys,
      key ∉ ["title","description","minimum","maximum","default"] := by decide
  cases call with
  | annotate | required => cases adds
  | string _ field =>
    cases adds
    have distinct : ("type" :: ["title","description","minLength","maxLength","pattern","format",
      "default"]).Nodup := by decide
    have apart : ∀ key ∈ structuralKeys, key ∉ ["title","description","minLength","maxLength",
      "pattern","format","default"] := by decide
    exact ⟨_,rfl,isOfKind_plain (.inl rfl) distinct apart⟩
  | number _ field =>
    cases adds
    exact ⟨_,rfl,isOfKind_plain (.inr (.inl rfl)) numeric numbered⟩
  | integer _ field =>
    cases adds
    exact ⟨_,rfl,isOfKind_plain (.inr (.inr (.inl rfl))) numeric numbered⟩
  | boolean _ field =>
    cases adds
    have distinct : ("type" :: ["title","description","default"]).Nodup := by decide
    have apart : ∀ key ∈ structuralKeys, key ∉ ["title","description","default"] := by decide
    exact ⟨_,rfl,isOfKind_plain (.inr (.inr (.inr rfl))) distinct apart⟩
  | enumeration _ values =>
    cases adds
    refine ⟨_,rfl,isOfKind_pair (by decide) (isPlainValues_plainValues values) ?_⟩
    simp [structuralKeys,Kind.fits]
  | titledEnumeration _ choices =>
    cases adds
    refine ⟨_,rfl,isOfKind_pair (by decide) (isTitledValues_titledValues choices) ?_⟩
    simp [structuralKeys,Kind.fits]
  | multiEnumeration _ values =>
    cases adds
    refine ⟨_,rfl,isOfKind_pair (by decide) ?_ ?_⟩
    · obtain ⟨typed,values'⟩ := lookup_pair (by decide : "type" ≠ "enum") (.str "string")
        (plainValues values)
      simp [Kind.fits,isItems,typed,values',isPlainValues_plainValues]
    · simp [structuralKeys,Kind.fits]
  | titledMultiEnumeration _ choices =>
    cases adds
    refine ⟨_,rfl,isOfKind_pair (by decide) ?_ ?_⟩
    · simp [Kind.fits,isItems,JsonMap.ofMembers,isTitledValues_titledValues]
    · simp [structuralKeys,Kind.fits]

/-! ## Runs -/

variable {calls before after : List Call} {last : Call} {name key : String} {kind : Kind}
  {value : Json}

@[simp] theorem run_append (calls : List Call) (last : Call) :
    run (calls ++ [last]) = (run calls).call last := by
  simp [run]

theorem declared_append (calls : List Call) (last : Call) (name : String) :
    declared (calls ++ [last]) name = match last.adds with
      | some (added,kind) => if name = added then some kind else declared calls name
      | none => declared calls name := by
  cases adds : last.adds with
  | none => simp [declared,adds]
  | some pair =>
    obtain ⟨added,kind⟩ := pair
    by_cases same : name = added
    · simp [declared,adds,same]
    · have different : (name == added) = false := by simpa using same
      simp [declared,adds,same,List.lookup_cons,different]

@[simp] theorem lookup_add_same (schema : ElicitSchema) (name : String) (property : Json) :
    JsonMap.lookup name (schema.add name property).properties = some property := by
  simp [add]

theorem lookup_add_other (schema : ElicitSchema) {name added : String} (property : Json)
    (different : name ≠ added) :
    JsonMap.lookup name (schema.add added property).properties =
      JsonMap.lookup name schema.properties := by
  simp [add,different]

/-- What a call does to the properties: it adds one, it changes one in place, or nothing. -/
theorem call_cases (schema : ElicitSchema) (last : Call) :
    (∃ name kind property, last.adds = some (name,kind) ∧
      schema.call last = schema.add name (.obj property) ∧ IsOfKind kind property) ∨
    (∃ name key value property, last = .annotate name key value ∧
      JsonMap.lookup name schema.properties = some (.obj property) ∧
      schema.call last = schema.add name (.obj (JsonMap.insert key value property))) ∨
    (last.adds = none ∧ (schema.call last).properties = schema.properties ∧
      ∀ name key value property, last = .annotate name key value →
        JsonMap.lookup name schema.properties ≠ some (.obj property)) := by
  cases adds : last.adds with
  | some added =>
    obtain ⟨property,called,ofKind⟩ := adds_property adds schema
    exact .inl ⟨added.1,added.2,property,rfl,called,ofKind⟩
  | none =>
    cases last with
    | annotate name key value =>
      by_cases present : ∃ property, JsonMap.lookup name schema.properties = some (.obj property)
      · obtain ⟨property,found⟩ := present
        exact .inr (.inl ⟨name,key,value,property,rfl,found,by simp [call,annotate,found]⟩)
      · refine .inr (.inr ⟨rfl,?_,?_⟩)
        · simp only [call,annotate]
          split
          · rename_i property found
            exact absurd ⟨property,found⟩ present
          · rfl
        · rintro _ _ _ property ⟨⟩ found
          exact present ⟨property,found⟩
    | required name =>
      refine .inr (.inr ⟨rfl,?_,fun _ _ _ _ other => by cases other⟩)
      simp only [call,markRequired]
      split <;> rfl
    | _ => cases adds

theorem declared_isSome (calls : List Call) (name : String) :
    (JsonMap.lookup name (run calls).properties).isSome = (declared calls name).isSome := by
  induction calls using List.reverseRecOn with
  | nil => rfl
  | append_singleton calls last ih =>
    rw [run_append,declared_append]
    obtain ⟨added,kind,property,adds,called,-⟩ | ⟨added,key,value,property,rfl,found,called⟩ |
      ⟨adds,same,-⟩ := call_cases (run calls) last
    · rw [called,adds]
      by_cases here : name = added
      · simp [here]
      · simp [lookup_add_other _ _ here,here,ih]
    · rw [called]
      by_cases here : name = added
      · subst here
        simpa [found,Call.adds] using ih
      · simpa [lookup_add_other _ _ here,Call.adds] using ih
    · rw [same,adds,ih]

/-- A declared name stays declared. -/
theorem declared_mono (calls after : List Call) {name : String}
    (there : (declared calls name).isSome = true) :
    (declared (calls ++ after) name).isSome = true := by
  induction after using List.reverseRecOn with
  | nil => rwa [List.append_nil]
  | append_singleton more last ih =>
    rw [← List.append_assoc,declared_append]
    split
    · split
      · rfl
      · exact ih
    · exact ih

theorem askedFor_append : AskedFor (calls ++ [last]) name ↔ AskedFor calls name ∨
    (last = .required name ∧ (declared calls name).isSome = true) := by
  constructor
  · rintro ⟨before,after,same,there⟩
    rcases List.eq_nil_or_concat after with rfl | ⟨more,final,rfl⟩
    · obtain ⟨rfl,tail⟩ := List.append_inj' same rfl
      obtain rfl : last = .required name := by simpa using tail
      exact .inr ⟨rfl,there⟩
    · have same : calls ++ [last] = (before ++ .required name :: more) ++ [final] := by
        rw [same]
        simp
      obtain ⟨rfl,-⟩ := List.append_inj' same rfl
      exact .inl ⟨before,more,rfl,there⟩
  · rintro (⟨before,after,rfl,there⟩ | ⟨rfl,there⟩)
    · exact ⟨before,after ++ [last],by simp,there⟩
    · exact ⟨calls,[],rfl,there⟩

theorem mem_markRequired (schema : ElicitSchema) (name other : String) :
    other ∈ (schema.markRequired name).required ↔ other ∈ schema.required ∨
      (other = name ∧ (JsonMap.lookup name schema.properties).isSome = true) := by
  by_cases there : (JsonMap.lookup name schema.properties).isSome = true
  · by_cases member : name ∈ schema.required
    · simp only [markRequired,there,List.contains_eq_mem,member]
      exact ⟨.inl,fun either => either.elim id fun same => same.1 ▸ member⟩
    · simp [markRequired,there,member]
  · simp [markRequired,there]

theorem markRequired_nodup (schema : ElicitSchema) (name : String)
    (distinct : schema.required.Nodup) : (schema.markRequired name).required.Nodup := by
  simp only [markRequired]
  split
  · rename_i fresh
    have absent : name ∉ schema.required := by
      simpa using (Bool.and_eq_true_iff.mp fresh).2
    apply List.nodup_append.mpr
    refine ⟨distinct,by simp,fun a member b single => ?_⟩
    rintro rfl
    exact absent (List.mem_singleton.mp single ▸ member)
  · exact distinct

/-- The required names: each once, and the ones that were asked for. -/
theorem required_run (calls : List Call) : (run calls).required.Nodup ∧
    ∀ name, name ∈ (run calls).required ↔ AskedFor calls name := by
  induction calls using List.reverseRecOn with
  | nil => exact ⟨List.nodup_nil,fun name => by simp [run,new,AskedFor]⟩
  | append_singleton calls last ih =>
    obtain ⟨distinct,asked⟩ := ih
    have others (other : ∀ name, last ≠ .required name)
        (same : ((run calls).call last).required = (run calls).required) :
        ((run calls).call last).required.Nodup ∧ ∀ name,
          name ∈ ((run calls).call last).required ↔ AskedFor (calls ++ [last]) name := by
      rw [same]
      refine ⟨distinct,fun name => ?_⟩
      rw [asked,askedFor_append]
      simp [other name]
    rw [run_append]
    cases last with
    | required name =>
      refine ⟨markRequired_nodup _ _ distinct,fun other => ?_⟩
      rw [call,mem_markRequired,asked,askedFor_append,declared_isSome]
      apply or_congr_right
      simp only [Call.required.injEq]
      constructor
      · rintro ⟨rfl,there⟩
        exact ⟨rfl,there⟩
      · rintro ⟨rfl,there⟩
        exact ⟨rfl,there⟩
    | annotate name key value =>
      refine others (fun _ other => by cases other) ?_
      simp only [call,annotate]
      split <;> rfl
    | _ => exact others (fun _ other => by cases other) rfl

/-- Every property is of the kind its last add declared. -/
def AllKinds (calls : List Call) : Prop := ∀ name kind, declared calls name = some kind →
  ∃ property, JsonMap.lookup name (run calls).properties = some (.obj property) ∧
    IsOfKind kind property

theorem isOfKind_insert {property : JsonMap} (ofKind : IsOfKind kind property) :
    IsOfKind kind (JsonMap.insert key value property) ↔
      (key ∈ structuralKeys → kind.fits key (some value) = true) := by
  constructor
  · intro changed structural
    simpa using changed key structural
  · intro fits other structural
    by_cases same : other = key
    · subst same
      simpa using fits structural
    · rw [JsonMap.lookup_insert_other _ _ _ _ same]
      exact ofKind other structural

/-- One call keeps the kinds exactly when it annotates nothing that does not fit. -/
theorem allKinds_append (kinds : AllKinds calls) (last : Call) :
    AllKinds (calls ++ [last]) ↔ KeepsKinds calls last := by
  obtain ⟨added,kind,property,adds,called,ofKind⟩ | ⟨added,key,value,property,rfl,found,called⟩ |
    ⟨adds,same,unfound⟩ := call_cases (run calls) last
  · have keeps : KeepsKinds calls last := by
      cases last with
      | annotate => cases adds
      | _ => trivial
    refine ⟨fun _ => keeps,fun _ name kind' there => ?_⟩
    rw [declared_append,adds] at there
    rw [run_append,called]
    by_cases here : name = added
    · subst here
      simp only [if_true,Option.some.injEq] at there
      exact ⟨property,by simp,there ▸ ofKind⟩
    · rw [lookup_add_other _ _ here]
      simp only [here,if_false] at there
      exact kinds name kind' there
  · have unchanged (name : String) :
        declared (calls ++ [.annotate added key value]) name = declared calls name := by
      rw [declared_append]
      rfl
    simp only [AllKinds,unchanged,run_append,called]
    constructor
    · intro kept kind there structural
      obtain ⟨changed,found',ofKind⟩ := kept added kind there
      obtain rfl : changed = JsonMap.insert key value property := by simpa [eq_comm] using found'
      simpa using ofKind key structural
    · intro keeps name kind there
      by_cases here : name = added
      · subst here
        obtain ⟨held,found',ofKind⟩ := kinds name kind there
        obtain rfl : held = property := by simpa [found,eq_comm] using found'
        exact ⟨_,lookup_add_same _ _ _,(isOfKind_insert ofKind).mpr (keeps kind there)⟩
      · rw [lookup_add_other _ _ here]
        exact kinds name kind there
  · have keeps : KeepsKinds calls last := by
      cases last with
      | annotate name key value =>
        intro kind there _
        obtain ⟨property,found,-⟩ := kinds name kind there
        exact absurd found (unfound name key value property rfl)
      | _ => trivial
    refine ⟨fun _ => keeps,fun _ name kind there => ?_⟩
    rw [declared_append,adds] at there
    rw [run_append,same]
    exact kinds name kind there

theorem build_eq (schema : ElicitSchema) :
    schema.build = formSchema schema.properties schema.required := by
  by_cases none : schema.required = []
  · simp [build,none,formSchema,JsonMap.ofMembers]
  · simp [build,none,formSchema,JsonMap.ofMembers]

theorem lookup_properties (properties : JsonMap) (required : Option Json) :
    JsonMap.lookup "properties" (JsonMap.ofMembers [("type",some (.str "object")),
      ("properties",some (.obj properties)),("required",required)]) = some (.obj properties) := by
  cases required <;> simp [JsonMap.ofMembers]

theorem formSchema_properties {properties properties' : JsonMap} {required required' : List String}
    (same : formSchema properties required = formSchema properties' required') :
    properties = properties' := by
  have lookups := congrArg (JsonMap.lookup "properties") (Json.obj.inj same)
  rw [lookup_properties,lookup_properties] at lookups
  exact Json.obj.inj (Option.some.inj lookups)

/-- What is built is valid exactly when every property is of its kind. -/
theorem valid_build (calls : List Call) : Valid calls (run calls).build ↔ AllKinds calls := by
  obtain ⟨distinct,asked⟩ := required_run calls
  rw [build_eq]
  constructor
  · rintro ⟨properties,required,same,form⟩
    rw [← formSchema_properties same] at form
    exact form.kinds
  · intro kinds
    refine ⟨_,_,rfl,⟨declared_isSome calls,kinds,distinct,asked,fun name member => ?_⟩⟩
    obtain ⟨before,after,rfl,there⟩ := (asked name).mp member
    rw [declared_isSome]
    exact declared_mono before _ there

/-- Along a run of calls every schema is valid exactly when no call annotates a structural
key of a property with what the property's kind does not have there. -/
theorem builds_valid_iff (calls : List Call) :
    (∀ before, before <+: calls → Valid before (run before).build) ↔
      ∀ before last after, calls = before ++ last :: after → KeepsKinds before last := by
  simp only [valid_build]
  constructor
  · rintro valid before last after rfl
    have kinds := valid before (List.prefix_append _ _)
    exact (allKinds_append kinds last).mp (valid _ ⟨after,by simp⟩)
  · intro keeps before first
    induction before using List.reverseRecOn with
    | nil => exact fun name kind there => by cases there
    | append_singleton before last ih =>
      obtain ⟨after,rfl⟩ := first
      have kinds := ih ⟨last :: after,by simp⟩
      exact (allKinds_append kinds last).mpr (keeps before last after (by simp))

/-- A string property that is turned into an object. -/
def retyped : List Call := [.string "name" {},.annotate "name" "type" (.str "object")]

theorem retyped_invalid : ¬ Valid retyped (run retyped).build := by
  rw [valid_build]
  intro kinds
  obtain ⟨property,found,ofKind⟩ := kinds "name" .string rfl
  obtain rfl : property = [("type",.str "object")] := by
    have held : JsonMap.lookup "name" (run retyped).properties =
        some (.obj [("type",.str "object")]) := by decide
    simpa [held,eq_comm] using found
  exact absurd (ofKind "type" (by decide)) (by decide)

end ElicitSchema

end SmlMcps
