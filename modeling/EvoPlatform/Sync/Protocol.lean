import EvoPlatform.Foundation.Paging

/-!
# The sync wire protocol

Requests and responses as they stand after decoding: the body of a request has
passed the JSON parser, and the cursor, a string of decimal digits on the wire,
is the natural number it denotes.  The payload of a mutation is an arbitrary
JSON object, since the request schema does not look into it.
-/

namespace EvoPlatform
namespace Sync

/-- The synced tables. -/
inductive SyncTable
  | project
  | task
  deriving DecidableEq

/-- The kinds of mutation. -/
inductive SyncOp
  | upsert
  | delete
  deriving DecidableEq

/-- A decoded JSON value.  The server never looks inside an array or a nested
object, so these carry no content. -/
inductive Json
  | null
  | bool (value : Bool)
  | number (value : Rat)
  | string (value : String)
  | array
  | object
  deriving DecidableEq

/-- The members of a JSON object, with distinct names. -/
abbrev JsonObject := List (String × Json)

/-- JavaScript truthiness of a property that may be missing. -/
def truthy : Option Json → Bool
  | none => false
  | some .null => false
  | some (.bool value) => value
  | some (.number value) => value ≠ 0
  | some (.string value) => value ≠ ""
  | some .array => true
  | some .object => true

/-- `typeof value === "string"`. -/
def isString : Option Json → Bool
  | some (.string _) => true
  | _ => false

/-- One queued change as sent by a client. -/
structure SyncMutation where
  /-- Outbox sequence number, echoed back in the answer. -/
  seq : Int
  table : SyncTable
  op : SyncOp
  id : String
  data : Option JsonObject
  deriving DecidableEq

/-- Read a property of the payload. -/
def SyncMutation.field (mutation : SyncMutation) (name : String) :
    Option Json :=
  mutation.data.bind fun members => members.lookup name

/-- What a client sends about a project. -/
structure ProjectData where
  name : String
  description : Option String
  status : String
  deriving DecidableEq

/-- What a client sends about a task. -/
structure TaskData where
  projectId : String
  title : String
  done : Bool
  deriving DecidableEq

/-- The payload of a project upsert. -/
def ProjectData.payload (data : ProjectData) : JsonObject :=
  [("name", .string data.name),
    ("description", (data.description.map Json.string).getD .null),
    ("status", .string data.status)]

/-- The payload of a task upsert. -/
def TaskData.payload (data : TaskData) : JsonObject :=
  [("projectId", .string data.projectId),
    ("title", .string data.title),
    ("done", .bool data.done)]

/-- Why a mutation was not applied. -/
inductive RejectReason
  | idConflict
  | invalid
  deriving DecidableEq

/-- A project as delivered to clients. -/
structure ServerProject where
  id : String
  name : String
  description : Option String
  status : String
  deletedAt : Option Nat
  rowVersion : Nat
  updatedAt : Nat
  deriving DecidableEq

/-- A task as delivered to clients. -/
structure ServerTask where
  id : String
  projectId : String
  title : String
  done : Bool
  deletedAt : Option Nat
  rowVersion : Nat
  updatedAt : Nat
  deriving DecidableEq

/-- A sync request. -/
structure SyncRequest where
  v : Int
  clientId : String
  cursor : Nat
  pullLimit : Option Int
  mutations : List SyncMutation

/-- The body of a successful sync response. -/
structure SyncResponse where
  applied : List Int
  rejected : List (Int × RejectReason)
  projects : List ServerProject
  tasks : List ServerTask
  cursor : Nat
  hasMore : Bool
  resyncRequired : Bool
  deriving DecidableEq

def DEFAULT_PULL_LIMIT : Int := 1000

def MAX_PULL_LIMIT : Int := 2000

/-- `Math.max(1, Math.min(pullLimit ?? DEFAULT_PULL_LIMIT, MAX_PULL_LIMIT))`. -/
def effectiveLimit (pullLimit : Option Int) : Nat :=
  (max 1 (min (pullLimit.getD DEFAULT_PULL_LIMIT) MAX_PULL_LIMIT)).toNat

/-- No request can ask for an empty page. -/
theorem effectiveLimit_pos (pullLimit : Option Int) :
    0 < effectiveLimit pullLimit := by
  unfold effectiveLimit
  omega

/-- What `mutationSchema` checks beyond the types.  The schema measures a text
in code points. -/
def mutationSchema (mutation : SyncMutation) : Bool :=
  1 ≤ mutation.id.length && mutation.id.length ≤ 500

/-- What `requestSchema` checks beyond the types. -/
def requestSchema (request : SyncRequest) : Bool :=
  request.v = 2 &&
    request.clientId.length ≤ 100 &&
    request.mutations.length ≤ 5000 &&
    request.mutations.all mutationSchema

end Sync
end EvoPlatform
