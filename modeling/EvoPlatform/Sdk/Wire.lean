import EvoPlatform.Foundation.PercentEncoding
import Mathlib.Data.List.DropRight

/-!
# The requests of the SDKs

What the clients of the two SDKs hand to `fetch` and to `httpx`: the method, the
URL, the headers that the platform reads and the body.  A body is given by the
value that it decodes to.
-/

namespace EvoPlatform
namespace Sdk

/-- A decoded JSON value. -/
inductive JsonValue
  | null
  | bool (value : Bool)
  | number (value : Rat)
  | string (value : String)
  | array (items : List JsonValue)
  | object (members : List (String × JsonValue))

/-! ## Equality of values -/

mutual

/-- Two values are the same. -/
def JsonValue.same : JsonValue → JsonValue → Bool
  | .null, .null => true
  | .bool left, .bool right => left == right
  | .number left, .number right => left == right
  | .string left, .string right => left == right
  | .array left, .array right => sameItems left right
  | .object left, .object right => sameMembers left right
  | _, _ => false

def JsonValue.sameItems : List JsonValue → List JsonValue → Bool
  | [], [] => true
  | left :: lefts, right :: rights =>
      left.same right && sameItems lefts rights
  | _, _ => false

def JsonValue.sameMembers :
    List (String × JsonValue) → List (String × JsonValue) → Bool
  | [], [] => true
  | (name, left) :: lefts, (otherName, right) :: rights =>
      name == otherName && (left.same right && sameMembers lefts rights)
  | _, _ => false

end

mutual

theorem JsonValue.same_iff (left right : JsonValue) :
    left.same right = true ↔ left = right := by
  cases left with
  | null => cases right <;> simp [same]
  | bool value => cases right <;> simp [same]
  | number value => cases right <;> simp [same]
  | string value => cases right <;> simp [same]
  | array items => cases right <;> simp [same, sameItems_iff items]
  | object members => cases right <;> simp [same, sameMembers_iff members]

theorem JsonValue.sameItems_iff (lefts rights : List JsonValue) :
    sameItems lefts rights = true ↔ lefts = rights := by
  cases lefts with
  | nil => cases rights <;> simp [sameItems]
  | cons left lefts =>
      cases rights with
      | nil => simp [sameItems]
      | cons right rights =>
          simp [sameItems, same_iff left, sameItems_iff lefts]

theorem JsonValue.sameMembers_iff (lefts rights : List (String × JsonValue)) :
    sameMembers lefts rights = true ↔ lefts = rights := by
  cases lefts with
  | nil => cases rights <;> simp [sameMembers]
  | cons left lefts =>
      obtain ⟨name, value⟩ := left
      cases rights with
      | nil => simp [sameMembers]
      | cons right rights =>
          simp [sameMembers, same_iff value, sameMembers_iff lefts,
            Prod.ext_iff, and_assoc]

end

instance : DecidableEq JsonValue := fun left right =>
  decidable_of_iff _ (JsonValue.same_iff left right)

/-- The object that a body decodes to: the value of each key that is there. -/
abbrev JsonBody := String → Option JsonValue

/-- The methods that the platform answers. -/
inductive HttpMethod
  | GET
  | POST
  | PUT
  | PATCH
  | DELETE
  deriving DecidableEq

/-- A request as it is handed over. -/
structure HttpRequest where
  method : HttpMethod
  url : String
  /-- `Authorization`, `Origin`, `x-client-id` and `x-client-secret`. -/
  headers : List (String × String)
  body : Option JsonBody

/-- How a client is set up. -/
structure ClientOptions where
  platformUrl : String
  clientId : Option String
  clientSecret : Option String
  /-- The Python client refuses to be made without a URL. -/
  platformUrl_ne : platformUrl ≠ ""

/-- A string that is there and not empty. -/
def truthyText (text : Option String) : Bool :=
  text.any fun text => text ≠ ""

/-- A text without the slashes at its end. -/
def stripSlashes (text : String) : String :=
  String.ofList (text.toList.rdropWhile fun char => char = '/')

/-! ## Objects with missing values -/

/-- The members of an object, with distinct keys.  A value that is missing is
`undefined` in JavaScript and `None` in Python. -/
abbrev Members := List (String × Option JsonValue)

/-- A text that may be missing. -/
def textMember (text : Option String) : Option JsonValue :=
  text.map JsonValue.string

/-- `JSON.stringify` drops what is undefined. -/
def stringify (members : Members) : JsonBody :=
  fun key => (members.lookup key).join

/-- `json.dumps` writes `None` as null. -/
def dumps (members : Members) : JsonBody :=
  fun key => (members.lookup key).map fun value => value.getD .null

/-- A JSON value in Python, where null is `None`. -/
def pythonValue : JsonValue → Option JsonValue
  | .null => none
  | value => some value

@[simp] theorem getD_pythonValue (value : JsonValue) :
    (pythonValue value).getD .null = value := by
  cases value <;> rfl

@[simp] theorem some_eq_pythonValue_iff (value : JsonValue) :
    some value = pythonValue value ↔ value ≠ .null := by
  cases value <;> simp [pythonValue]

/-- `_drop_none`. -/
def dropNone (members : Members) : Members :=
  members.filter fun member => member.2.isSome

section Bodies

variable {members others : Members} {key : String}

theorem stringify_cons (name : String) (value : Option JsonValue)
    (rest : Members) :
    stringify ((name, value) :: rest) key =
      if key = name then value else stringify rest key := by
  by_cases same : key = name
  · simp [stringify, same]
  · have differs : (key == name) = false := beq_false_of_ne same
    simp [stringify, List.lookup_cons, same, differs]

theorem dumps_cons (name : String) (value : Option JsonValue)
    (rest : Members) :
    dumps ((name, value) :: rest) key =
      if key = name then some (value.getD .null) else dumps rest key := by
  by_cases same : key = name
  · simp [dumps, same]
  · have differs : (key == name) = false := beq_false_of_ne same
    simp [dumps, List.lookup_cons, same, differs]

/-- A key that no member has is absent. -/
theorem stringify_of_not_mem
    (absent : key ∉ members.map Prod.fst) :
    stringify members key = none := by
  induction members with
  | nil => rfl
  | cons member rest inductionHypothesis =>
      rw [List.map_cons, List.mem_cons, not_or] at absent
      rw [stringify_cons, if_neg absent.1]
      exact inductionHypothesis absent.2

/-- A member without a value is as good as no member. -/
theorem stringify_append_missing (members : Members) (name : String) :
    stringify (members ++ [(name, none)]) = stringify members := by
  funext key
  induction members with
  | nil =>
      rw [List.nil_append, stringify_cons]
      exact ite_self _
  | cons member rest inductionHypothesis =>
      rw [List.cons_append, stringify_cons, stringify_cons, inductionHypothesis]

/-- Objects with the same keys decode to the same value only if they have the
same values. -/
theorem stringify_eq_iff
    (sameKeys : members.map Prod.fst = others.map Prod.fst)
    (distinct : (members.map Prod.fst).Nodup) :
    stringify members = stringify others ↔ members = others := by
  refine ⟨?_, congrArg stringify⟩
  induction members generalizing others with
  | nil =>
      intro _
      exact (List.map_eq_nil_iff.mp sameKeys.symm).symm
  | cons member rest inductionHypothesis =>
      intro same
      obtain ⟨name, value⟩ := member
      cases others with
      | nil => simp at sameKeys
      | cons other others =>
          obtain ⟨otherName, otherValue⟩ := other
          rw [List.map_cons, List.map_cons, List.cons.injEq] at sameKeys
          obtain ⟨sameName, sameRest⟩ := sameKeys
          change name = otherName at sameName
          subst sameName
          obtain ⟨absent, restDistinct⟩ := List.nodup_cons.mp distinct
          have sameValue : value = otherValue := by
            have atName := congrFun same name
            rwa [stringify_cons, stringify_cons, if_pos rfl, if_pos rfl]
              at atName
          have restEqual : stringify rest = stringify others := by
            funext key
            by_cases here : key = name
            · rw [here, stringify_of_not_mem absent,
                stringify_of_not_mem (sameRest ▸ absent)]
            · have atKey := congrFun same key
              rwa [stringify_cons, stringify_cons, if_neg here, if_neg here]
                at atKey
          rw [sameValue, inductionHypothesis sameRest restDistinct restEqual]

/-- Python writes what JavaScript writes once every missing value is null. -/
theorem dumps_eq_stringify (members : Members) :
    dumps members = stringify
      (members.map fun member => (member.1, some (member.2.getD .null))) := by
  funext key
  induction members with
  | nil => rfl
  | cons member rest inductionHypothesis =>
      rw [List.map_cons, dumps_cons, stringify_cons, inductionHypothesis]

/-- Dropping `None` first is what JavaScript does with undefined. -/
theorem dumps_dropNone_append
    (distinct : ((members ++ others).map Prod.fst).Nodup) :
    dumps (dropNone members ++ others) = stringify (members ++
      others.map fun member => (member.1, some (member.2.getD .null))) := by
  induction members with
  | nil => exact dumps_eq_stringify others
  | cons member rest inductionHypothesis =>
      obtain ⟨name, value⟩ := member
      obtain ⟨absent, restDistinct⟩ := List.nodup_cons.mp distinct
      funext key
      have same := congrFun (inductionHypothesis restDistinct) key
      rw [List.cons_append, stringify_cons]
      cases value with
      | some value =>
          rw [dropNone, List.filter_cons_of_pos rfl, List.cons_append,
            dumps_cons, Option.getD_some]
          exact if_congr Iff.rfl rfl same
      | none =>
          rw [dropNone, List.filter_cons_of_neg (by simp)]
          refine same.trans ?_
          by_cases here : key = name
          · rw [if_pos here, here]
            refine stringify_of_not_mem ?_
            simpa [Function.comp_def] using absent
          · rw [if_neg here]

theorem dumps_dropNone
    (distinct : (members.map Prod.fst).Nodup) :
    dumps (dropNone members) = stringify members := by
  have dropped := @dumps_dropNone_append members [] (by simpa using distinct)
  simpa using dropped

end Bodies

end Sdk
end EvoPlatform
