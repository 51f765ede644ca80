import EvoPlatform.Auth.PasswordPolicies
import EvoPlatform.Template.OneTimeTokens
import EvoPlatform.Template.ResetLink

/-!
# The passwords of the app template

Sign-up, the reset of a forgotten password, the change of a known one and the
rows of platform users, one database statement at a time and in any order.  An
app may be moved between a platform and its own accounts, so all of them happen
in one run.  A call that the rate limiter refuses does nothing, and is no event.
-/

namespace EvoPlatform
namespace Template

open JsString (codePoints trim)

/-- `hashPassword`, with the salt that it draws, and `verifyPassword`. -/
structure Bcrypt where
  hash : String → JsString → String
  compare : JsString → String → Bool
  hash_ne_empty : ∀ salt password, hash salt password ≠ ""
  compare_hash : ∀ salt password, compare password (hash salt password) = true

/-- What the code takes from libraries and from its environment. -/
structure Deployment where
  /-- `z.string().trim().toLowerCase().email()`. -/
  parseEmail : String → Option String
  toLowerCase : JsString → JsString
  bcrypt : Bcrypt
  /-- `hash`, of a token. -/
  digest : String → String
  /-- `AUTH_URL`. -/
  authUrl : Option String

/-- `newPassword` accepts it. -/
def Deployment.newPassword (deployment : Deployment)
    (password : JsString) : Prop :=
  Auth.templateValidatePassword deployment.toLowerCase password = none

instance (deployment : Deployment) (password : JsString) :
    Decidable (deployment.newPassword password) :=
  inferInstanceAs (Decidable (_ = none))

/-! ## The accounts -/

structure User where
  id : String
  /-- The platform's user id; none for an account of the app's own. -/
  platformUserId : Option String
  email : String
  passwordHash : Option String
  deriving DecidableEq

/-- The column of the partial index, which is unique among the app's own
accounts. -/
def User.standaloneEmail (user : User) : Option String :=
  if user.platformUserId = none then some user.email else none

abbrev Users := Table User.id

/-- `findFirst({ where: { email, platformUserId: null } })`. -/
def Users.account (users : Users) (email : String) : Option User :=
  users.findBy User.standaloneEmail email

def User.setHash (user : User) (hash : String) : User :=
  { user with passwordHash := some hash }

/-- `updateMany({ where: { email, platformUserId: null } })`. -/
def Users.updateMany (users : Users) (email hash : String) : Users :=
  users.mapRows
    (fun row =>
      if row.standaloneEmail = some email then row.setHash hash else row)
    (by
      intro row
      split <;> rfl)

/-- `authorize` of an app without a platform, of the trimmed address in lower
case. -/
def authorize (deployment : Deployment) (users : Users) (email : String)
    (password : JsString) : Option User :=
  if email = "" ∨ password = [] then none
  else
    (users.account email).filter fun user =>
      match user.passwordHash with
      | none => false
      | some hash => hash ≠ "" && deployment.bcrypt.compare password hash

/-! ## What is sent in -/

structure SignupForm where
  company : JsString
  email : String
  password : JsString

/-- `signupSchema`; the bounds are on the number of code points. -/
def SignupForm.parse (deployment : Deployment) (form : SignupForm) :
    Option (String × JsString) :=
  let points := (codePoints (trim form.company)).length
  if 2 ≤ points ∧ points ≤ 80 ∧ deployment.newPassword form.password then
    (deployment.parseEmail form.email).map fun email => (email, form.password)
  else none

structure ResetForm where
  email : String
  token : String
  password : JsString
  confirm : JsString

/-- `resetSchema`. -/
def ResetForm.parse (deployment : Deployment) (form : ResetForm) :
    Option (String × String × JsString) :=
  if 10 ≤ form.token.length ∧
      deployment.newPassword form.password ∧ form.password = form.confirm then
    (deployment.parseEmail form.email).map fun email =>
      (email, form.token, form.password)
  else none

structure ChangeForm where
  current : JsString
  next : JsString
  confirm : JsString

/-- The schema of `changePassword`. -/
def ChangeForm.parse (deployment : Deployment) (form : ChangeForm) :
    Option (JsString × JsString) :=
  if form.current ≠ [] ∧ deployment.newPassword form.next ∧
      form.next = form.confirm then
    some (form.current, form.next)
  else none

/-! ## The calls -/

/-- How far a call has come. -/
inductive PasswordCall
  /-- `signup` has found no account. -/
  | signingUp (email : String) (password : JsString)
  /-- `requestPasswordReset` has found an account. -/
  | requesting (email : String)
  /-- `requestPasswordReset` has created a token. -/
  | mailing (email raw : String)
  /-- `resetPassword` is in `consumeToken`. -/
  | resetting (email token : String) (password : JsString)
  /-- `consumeToken` returned true, at this reading of the clock. -/
  | allowed (email token : String) (password : JsString) (now : Int)
  /-- `changePassword` has verified the current password. -/
  | changing (userId : String) (current next : JsString)
  | done
  deriving DecidableEq

/-- What allowed a password to be set. -/
inductive SetBy
  | signup
  /-- A token, at this reading of the clock. -/
  | reset (who : Nat) (token : String) (now : Int)
  /-- The password that was shown. -/
  | change (current : JsString)
  deriving DecidableEq

/-- A hash that was written. -/
structure PasswordSet where
  email : String
  password : JsString
  hash : String
  source : SetBy
  deriving DecidableEq

/-- A mail with a link. -/
structure ResetMail where
  recipient : String
  link : String
  deriving DecidableEq

/-- The tables, the calls by number, and, in order, the mails that were sent and
the hashes that were written. -/
structure PasswordState where
  users : Users
  tokens : TokenState
  calls : Nat → Option PasswordCall
  mails : List ResetMail
  sets : List PasswordSet

def PasswordState.start : PasswordState :=
  ⟨.empty, .start, fun _ => none, [], []⟩

/-- What can happen next. -/
inductive PasswordEvent
  /-- `signup` looks for the account. -/
  | signup (who : Nat) (form : SignupForm)
  /-- The transaction of `signup`. -/
  | createUser (who : Nat) (id salt : String)
  /-- `requestPasswordReset` looks for the account. -/
  | requestPasswordReset (who : Nat) (email : String)
  | createToken (who : Nat) (bytes : List UInt8) (now : Int)
  | sendMail (who : Nat)
  /-- `resetPassword` looks for the token. -/
  | resetPassword (who : Nat) (form : ResetForm)
  | deleteToken (who : Nat)
  | checkToken (who : Nat) (now : Int)
  | updatePassword (who : Nat) (salt : String)
  /-- `changePassword` of the user of a session verifies the password. -/
  | changePassword (who : Nat) (userId : String) (form : ChangeForm)
  | changeHash (who : Nat) (salt : String)
  /-- The upsert of `provisionFromPlatform`. -/
  | provision (subject email id : String)
  /-- A call throws, or its process ends. -/
  | abandon (who : Nat)

/-- How long a token lasts. -/
def resetTtlMs : Int := 60 * 60 * 1000

namespace PasswordState

variable (deployment : Deployment)

/-- A call goes on. -/
def turn (state : PasswordState) (who : Nat) (call : PasswordCall) :
    PasswordState :=
  { state with calls := Function.update state.calls who (some call) }

/-- A call begins. -/
def opens (state : PasswordState) (who : Nat) (call : PasswordCall) :
    Option PasswordState :=
  match state.calls who with
  | some _ => none
  | none => some (state.turn who call)

/-- A hash is written. -/
def write (state : PasswordState) (users : Users) (set : PasswordSet) :
    PasswordState :=
  { state with users := users, sets := state.sets ++ [set] }

/-- The first statement of `signup`. -/
def signup (state : PasswordState) (form : SignupForm) : PasswordCall :=
  match form.parse deployment with
  | none => .done
  | some (email, password) =>
      match state.users.account email with
      | some _ => .done
      | none => .signingUp email password

/-- The transaction of `signup`, which is rolled back when the address or the id
is taken. -/
def createUser (state : PasswordState) (email : String) (password : JsString)
    (id salt : String) : PasswordState :=
  let hash := deployment.bcrypt.hash salt password
  let row : User := ⟨id, none, email, some hash⟩
  if (state.users.find? id).isSome ∨ (state.users.account email).isSome then
    state
  else state.write (state.users.put row) ⟨email, password, hash, .signup⟩

/-- The first statement of `requestPasswordReset`. -/
def requestPasswordReset (state : PasswordState) (email : String) :
    PasswordCall :=
  match deployment.parseEmail email with
  | none => .done
  | some email =>
      match state.users.account email with
      | none => .done
      | some _ => .requesting email

/-- `updateMany` of `resetPassword`. -/
def updatePassword (state : PasswordState) (who : Nat) (email token : String)
    (password : JsString) (now : Int) (salt : String) : PasswordState :=
  let hash := deployment.bcrypt.hash salt password
  if (state.users.account email).isSome then
    state.write (state.users.updateMany email hash)
      ⟨email, password, hash, .reset who token now⟩
  else state

/-- The first statement of `changePassword`. -/
def changePassword (state : PasswordState) (userId : String)
    (form : ChangeForm) : PasswordCall :=
  match form.parse deployment with
  | none => .done
  | some (current, next) =>
      match (state.users.find? userId).bind User.passwordHash with
      | none => .done
      | some hash =>
          if hash ≠ "" ∧ deployment.bcrypt.compare current hash = true then
            .changing userId current next
          else .done

/-- The `update` of `changePassword`, which throws when the row is gone. -/
def changeHash (state : PasswordState) (userId : String)
    (current next : JsString) (salt : String) : PasswordState :=
  let hash := deployment.bcrypt.hash salt next
  match state.users.find? userId with
  | none => state
  | some row => state.write (state.users.put (row.setHash hash))
      ⟨row.email, next, hash, .change current⟩

/-- The upsert of `provisionFromPlatform`, which throws when the id is taken. -/
def provision (state : PasswordState) (subject email id : String) :
    PasswordState :=
  match state.users.findBy User.platformUserId subject with
  | some row =>
      { state with users := state.users.put { row with email := email } }
  | none =>
      if (state.users.find? id).isSome then state
      else { state with
        users := state.users.put ⟨id, some subject, email, none⟩ }

/-- `createToken`, which throws when the digest is taken. -/
def createToken (state : PasswordState) (who : Nat) (email : String)
    (bytes : List UInt8) (now : Int) : Option PasswordState :=
  let raw := rawToken bytes
  match state.tokens.tokens.replace
      ⟨identifier .reset email, deployment.digest raw, now + resetTtlMs⟩ with
  | none => some (state.turn who .done)
  | some _ =>
      (state.tokens.step deployment.digest
        (.create .reset email raw resetTtlMs now)).map fun tokens =>
          { state with tokens := tokens }.turn who (.mailing email raw)

/-- What a call of `consumeToken` has returned. -/
def answered (tokens : TokenState) (who : Nat) : Bool :=
  match tokens.calls who with
  | some (.returned _ _ valid) => valid
  | _ => false

/-- One statement. -/
def step (state : PasswordState) : PasswordEvent → Option PasswordState
  | .signup who form => state.opens who (state.signup deployment form)
  | .createUser who id salt =>
      match state.calls who with
      | some (.signingUp email password) => some
          ((state.createUser deployment email password id salt).turn who .done)
      | _ => none
  | .requestPasswordReset who email =>
      state.opens who (state.requestPasswordReset deployment email)
  | .createToken who bytes now =>
      match state.calls who with
      | some (.requesting email) =>
          state.createToken deployment who email bytes now
      | _ => none
  | .sendMail who =>
      match state.calls who with
      | some (.mailing email raw) => some { state.turn who .done with
          mails := state.mails ++
            [⟨email, resetLink (appBaseUrl deployment.authUrl) email raw⟩] }
      | _ => none
  | .resetPassword who form =>
      match state.calls who with
      | some _ => none
      | none =>
          match form.parse deployment with
          | none => some (state.turn who .done)
          | some (email, token, password) =>
              (state.tokens.step deployment.digest
                (.find who ⟨.reset, email, token⟩)).map fun tokens =>
                  { state with tokens := tokens }.turn who
                    (.resetting email token password)
  | .deleteToken who =>
      match state.calls who with
      | some (.resetting _ _ _) =>
          (state.tokens.step deployment.digest (.delete who)).map fun tokens =>
            { state with tokens := tokens }
      | _ => none
  | .checkToken who now =>
      match state.calls who with
      | some (.resetting email token password) =>
          (state.tokens.step deployment.digest (.finish who now)).map
            fun tokens => { state with tokens := tokens }.turn who
              (if answered tokens who then .allowed email token password now
              else .done)
      | _ => none
  | .updatePassword who salt =>
      match state.calls who with
      | some (.allowed email token password now) => some
          ((state.updatePassword deployment who email token password now
            salt).turn who .done)
      | _ => none
  | .changePassword who userId form =>
      state.opens who (state.changePassword deployment userId form)
  | .changeHash who salt =>
      match state.calls who with
      | some (.changing userId current next) => some
          ((state.changeHash deployment userId current next salt).turn who
            .done)
      | _ => none
  | .provision subject email id => some (state.provision subject email id)
  | .abandon who => some (state.turn who .done)

/-- A token is drawn from thirty-two bytes and is new, and what is sent in has
the digest of no token but itself. -/
def Admissible (state : PasswordState) : PasswordEvent → Prop
  | .createToken _ bytes _ => bytes.length = 32 ∧
      ∀ purpose email other expires,
        Commit.created purpose email other expires ∈ state.tokens.commits →
          deployment.digest (rawToken bytes) ≠ deployment.digest other
  | .resetPassword _ form => ∀ purpose email other expires,
      Commit.created purpose email other expires ∈ state.tokens.commits →
        deployment.digest form.token = deployment.digest other →
          form.token = other
  | _ => True

end PasswordState

end Template
end EvoPlatform
