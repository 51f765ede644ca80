import EvoPlatform.Foundation.Table
import EvoPlatform.Sdk.Wire

/-!
# The key sets that the SDKs read

The two SDKs go through the key set of an answer in a loop that throws at the
first item it cannot read, and keep the keys that came before it.  They differ
in what the body may be, in the items that they pass over, and in the ids under
which a key can be kept.
-/

namespace EvoPlatform
namespace Sdk

/-- What the request for the key set is answered with. -/
inductive JwksAnswer
  | networkFailure (reason : String)
  /-- A status, and what the body parses to if it is JSON. -/
  | response (status : Nat) (body : Option JsonValue)

/-- The answer of an endpoint that publishes some keys. -/
def JwksAnswer.keySet (keys : List JsonValue) : JwksAnswer :=
  .response 200 (some (.object [("keys", .array keys)]))

/-! ## Maps of keys -/

/-- A map from key ids, in insertion order. -/
abbrev KeyMap (α : Type) := Table (Prod.fst : JsonValue × α → JsonValue)

/-- The key stored under an id. -/
def KeyMap.under {α : Type} (keys : KeyMap α) (id : JsonValue) : Option α :=
  (keys.find? id).map Prod.snd

/-- The key that a lookup finds; only texts are ever looked up. -/
def KeyMap.get {α : Type} (keys : KeyMap α) (kid : String) : Option α :=
  keys.under (.string kid)

section Maps

variable {α : Type}

@[simp] theorem under_empty (id : JsonValue) :
    KeyMap.under (Table.empty : KeyMap α) id = none := rfl

@[simp] theorem get_empty (kid : String) :
    KeyMap.get (Table.empty : KeyMap α) kid = none := rfl

theorem under_put (keys : KeyMap α) (id searched : JsonValue) (key : α) :
    KeyMap.under (keys.put (id, key)) searched =
      if searched = id then some key else keys.under searched := by
  simp only [KeyMap.under, Table.find?_put]
  split <;> rfl

theorem get_put (keys : KeyMap α) (id : JsonValue) (kid : String) (key : α) :
    KeyMap.get (keys.put (id, key)) kid =
      if .string kid = id then some key else keys.get kid :=
  under_put keys id (.string kid) key

end Maps

/-! ## Going through a key set -/

/-- What an item of a key set comes to. -/
inductive ReadKey (α : Type)
  | passedOver
  | raises
  | stores (id : JsonValue) (key : α)

/-- A key is stored unless the parser has refused it. -/
def stored {α : Type} (id : JsonValue) : Option α → ReadKey α
  | none => .raises
  | some key => .stores id key

/-- The text that a value is. -/
def JsonValue.text? : JsonValue → Option String
  | .string text => some text
  | _ => none

@[simp] theorem JsonValue.text?_eq_some_iff (value : JsonValue)
    (text : String) :
    value.text? = some text ↔ .string text = value := by
  cases value <;> simp [text?, eq_comm]

namespace ReadKey

variable {α : Type}

/-- Does the loop throw at the item? -/
def throws : ReadKey α → Bool
  | .raises => true
  | _ => false

/-- The text under which a key is stored. -/
def text? : ReadKey α → Option String
  | .stores id _ => id.text?
  | _ => none

/-- The keys after the item. -/
def keep (keys : KeyMap α) : ReadKey α → KeyMap α
  | .stores id key => keys.put (id, key)
  | _ => keys

@[simp] theorem throws_passedOver : (passedOver : ReadKey α).throws = false := rfl

@[simp] theorem throws_raises : (raises : ReadKey α).throws = true := rfl

@[simp] theorem throws_stored (id : JsonValue) (key : Option α) :
    (stored id key).throws = key.isNone := by
  cases key <;> rfl

@[simp] theorem text?_passedOver : (passedOver : ReadKey α).text? = none := rfl

@[simp] theorem text?_raises : (raises : ReadKey α).text? = none := rfl

@[simp] theorem text?_stored (id : JsonValue) (key : Option α) :
    (stored id key).text? = if key.isSome then id.text? else none := by
  cases key <;> rfl

/-- After an item there are keys for the texts that there were keys for, and for
the text of the item. -/
theorem isSome_get_keep (keys : KeyMap α) (item : ReadKey α) (kid : String) :
    ((item.keep keys).get kid).isSome =
      (decide (item.text? = some kid) || (keys.get kid).isSome) := by
  cases item with
  | passedOver => simp [keep, text?]
  | raises => simp [keep, text?]
  | stores id key =>
      simp only [keep, text?, get_put, JsonValue.text?_eq_some_iff]
      split <;> simp [*]

end ReadKey

section Refill

variable {α : Type} (read : JsonValue → ReadKey α)

/-- Go through the items, up to the first that cannot be read. -/
def refill : KeyMap α → List JsonValue → KeyMap α × Bool
  | keys, [] => (keys, true)
  | keys, item :: rest =>
      match read item with
      | .passedOver => refill keys rest
      | .raises => (keys, false)
      | .stores id key => refill (keys.put (id, key)) rest

/-- Go through what a body is iterated over, if it can be iterated over. -/
def goThrough : Option (List JsonValue) → KeyMap α × Bool
  | none => (Table.empty, false)
  | some items => refill read Table.empty items

/-- The keys up to the first item that cannot be read. -/
def readUpTo : List JsonValue → List (JsonValue × α)
  | [] => []
  | item :: rest =>
      match read item with
      | .passedOver => readUpTo rest
      | .raises => []
      | .stores id key => (id, key) :: readUpTo rest

/-- Some item cannot be read. -/
def breaksOff (items : List JsonValue) : Bool :=
  items.any fun item => (read item).throws

theorem refill_cons (keys : KeyMap α) (item : JsonValue)
    (rest : List JsonValue) :
    refill read keys (item :: rest) =
      if (read item).throws then (keys, false)
      else refill read ((read item).keep keys) rest := by
  simp only [refill]
  cases read item <;> rfl

theorem refill_eq (keys : KeyMap α) (items : List JsonValue) :
    refill read keys items =
      ((readUpTo read items).foldl (fun keys entry => keys.put entry) keys,
        !breaksOff read items) := by
  induction items generalizing keys with
  | nil => rfl
  | cons item rest inductionHypothesis =>
      simp only [refill, readUpTo, breaksOff, List.any_cons]
      cases read item with
      | passedOver => exact inductionHypothesis keys
      | raises => rfl
      | stores id key => exact inductionHypothesis (keys.put (id, key))

/-- A key that is stored again counts as it was stored last. -/
theorem under_foldl_put (entries : List (JsonValue × α)) (keys : KeyMap α)
    (id : JsonValue) :
    KeyMap.under (entries.foldl (fun keys entry => keys.put entry) keys) id =
      (entries.reverse.lookup id).or (keys.under id) := by
  induction entries generalizing keys with
  | nil => rfl
  | cons entry entries inductionHypothesis =>
      obtain ⟨stored, key⟩ := entry
      rw [List.foldl_cons, inductionHypothesis, under_put, List.reverse_cons,
        List.lookup_append, Option.or_assoc]
      congr 1
      by_cases same : id = stored
      · simp [same]
      · have other : (id == stored) = false := beq_eq_false_iff_ne.mpr same
        simp [same, List.lookup_cons, other]

/-- What is left of the keys when going through the items ends early. -/
theorem under_refill_empty (items : List JsonValue) (id : JsonValue) :
    (refill read Table.empty items).1.under id =
      (readUpTo read items).reverse.lookup id := by
  rw [refill_eq, under_foldl_put]
  exact Option.or_none

end Refill

/-- The text that an object has as its id, if it is not empty. -/
def idText (members : List (String × JsonValue)) : Option String :=
  ((members.lookup "kid").bind JsonValue.text?).filter fun kid => kid ≠ ""

/-! ## Node -/

/-- A value of which a condition holds in JavaScript. -/
def JsonValue.jsTruthy : JsonValue → Bool
  | .null => false
  | .bool value => value
  | .number value => value ≠ 0
  | .string value => value ≠ ""
  | .array _ => true
  | .object _ => true

/-- The texts that a text is iterated over. -/
def characters (text : String) : List JsonValue :=
  text.toList.map fun char => .string (String.singleton char)

/-- What `for (const jwk of body.keys ?? [])` goes through, unless it throws.
The `keys` of an array are a method. -/
def nodeItems : JsonValue → Option (List JsonValue)
  | .null => none
  | .array _ => none
  | .object members =>
      match members.lookup "keys" with
      | none => some []
      | some .null => some []
      | some (.array items) => some items
      | some (.string text) => some (characters text)
      | some _ => none
  | _ => some []

/-- One turn of the loop in `refresh`; what is no object has no `kid`, and
`null` throws when it is asked for one. -/
def nodeRead (createPublicKey : JsonValue → Option String)
    (item : JsonValue) : ReadKey String :=
  match item with
  | .null => .raises
  | .object members =>
      match (members.lookup "kid").filter JsonValue.jsTruthy with
      | none => .passedOver
      | some kid => stored kid (createPublicKey item)
  | _ => .passedOver

/-- What is stored is what the parser has made of the item. -/
theorem eq_some_of_nodeRead
    {createPublicKey : JsonValue → Option String}
    {item id : JsonValue}
    {pem : String}
    (isRead : nodeRead createPublicKey item = .stores id pem) :
    createPublicKey item = some pem := by
  unfold nodeRead at isRead
  split at isRead
  · contradiction
  · split at isRead
    · contradiction
    · revert isRead
      cases createPublicKey _ with
      | none => exact nofun
      | some read =>
          rintro ⟨⟩
          rfl
  · contradiction

/-- The Node loop throws at an object whose key is refused. -/
theorem throws_nodeRead (createPublicKey : JsonValue → Option String)
    (members : List (String × JsonValue)) :
    (nodeRead createPublicKey (.object members)).throws =
      ((members.lookup "kid").any JsonValue.jsTruthy &&
        (createPublicKey (.object members)).isNone) := by
  simp only [nodeRead]
  cases members.lookup "kid" with
  | none => rfl
  | some kid => cases truthy : kid.jsTruthy <;> simp [Option.filter, truthy]

/-- The Node loop keeps a key under the text that is its id. -/
theorem text?_nodeRead (createPublicKey : JsonValue → Option String)
    (members : List (String × JsonValue)) :
    (nodeRead createPublicKey (.object members)).text? =
      if (createPublicKey (.object members)).isSome then idText members
      else none := by
  simp only [nodeRead, idText]
  cases members.lookup "kid" with
  | none => simp
  | some kid =>
      cases isText : kid.text? with
      | none =>
          cases truthy : kid.jsTruthy <;> simp [Option.filter, truthy, isText]
      | some text =>
          obtain rfl := (kid.text?_eq_some_iff text).mp isText
          by_cases isEmpty : text = "" <;>
            simp [Option.filter, JsonValue.jsTruthy, JsonValue.text?, isEmpty]

/-! ## Python -/

/-- A value of which a condition holds in Python. -/
def JsonValue.pythonTruthy : JsonValue → Bool
  | .null => false
  | .bool value => value
  | .number value => value ≠ 0
  | .string value => value ≠ ""
  | .array items => !items.isEmpty
  | .object members => !members.isEmpty

/-- What `for jwk in body.get("keys", [])` goes through, unless it throws. -/
def pythonItems : JsonValue → Option (List JsonValue)
  | .object members =>
      match members.lookup "keys" with
      | none => some []
      | some (.array items) => some items
      | some (.string text) => some (characters text)
      | some (.object keys) => some (keys.map fun key => .string key.1)
      | some _ => none
  | _ => none

/-- The key of a dictionary that a value is, if it can be one; `True` is the
same key as 1. -/
def JsonValue.dictKey : JsonValue → Option JsonValue
  | .array _ => none
  | .object _ => none
  | .bool value => some (.number (if value then 1 else 0))
  | value => some value

theorem JsonValue.text?_of_dictKey
    {kid id : JsonValue}
    (isKey : kid.dictKey = some id) :
    id.text? = kid.text? := by
  cases kid <;> cases isKey <;> rfl

/-- One turn of the loop in `refresh`; only a dictionary has a `get`. -/
def pythonRead {κ : Type} (fromJwk : JsonValue → Option κ)
    (item : JsonValue) : ReadKey κ :=
  match item with
  | .object members =>
      match (members.lookup "kid").filter JsonValue.pythonTruthy with
      | none => .passedOver
      | some kid =>
          match kid.dictKey with
          | none => .raises
          | some id => stored id (fromJwk item)
  | _ => .raises

/-- The Python loop throws at an object whose id is no key of a dictionary, or
whose key is refused. -/
theorem throws_pythonRead {κ : Type} (fromJwk : JsonValue → Option κ)
    (members : List (String × JsonValue)) :
    (pythonRead fromJwk (.object members)).throws =
      ((members.lookup "kid").any fun kid => kid.pythonTruthy &&
        (kid.dictKey.isNone || (fromJwk (.object members)).isNone)) := by
  simp only [pythonRead]
  cases members.lookup "kid" with
  | none => rfl
  | some kid =>
      cases truthy : kid.pythonTruthy <;>
        cases isKey : kid.dictKey <;>
        simp [Option.filter, truthy, isKey]

/-- The Python loop keeps a key under the text that is its id. -/
theorem text?_pythonRead {κ : Type} (fromJwk : JsonValue → Option κ)
    (members : List (String × JsonValue)) :
    (pythonRead fromJwk (.object members)).text? =
      if (fromJwk (.object members)).isSome then idText members else none := by
  simp only [pythonRead, idText]
  cases members.lookup "kid" with
  | none => simp
  | some kid =>
      cases isText : kid.text? with
      | none =>
          cases truthy : kid.pythonTruthy with
          | false => simp [Option.filter, truthy, isText]
          | true =>
              cases isKey : kid.dictKey with
              | none => simp [Option.filter, truthy, isText, isKey]
              | some id =>
                  have noText : id.text? = none :=
                    (JsonValue.text?_of_dictKey isKey).trans isText
                  simp [Option.filter, truthy, isText, isKey, noText]
      | some text =>
          obtain rfl := (kid.text?_eq_some_iff text).mp isText
          by_cases isEmpty : text = "" <;>
            simp [Option.filter, JsonValue.pythonTruthy, JsonValue.dictKey,
              JsonValue.text?, isEmpty]

end Sdk
end EvoPlatform
