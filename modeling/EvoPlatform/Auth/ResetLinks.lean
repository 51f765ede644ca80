import EvoPlatform.Auth.Sessions

/-!
# Reset links

A reset link is signed with a secret that is derived from the password hash of
its user, so that it dies with the password.  The requests for links and the
session calls run in any order, and a history beside them notes which links were
issued and which statements have changed a password.  The law holds while no
password changes between the read and the write of a reset.
-/

namespace EvoPlatform
namespace Auth

/-- How long a link is valid. -/
def RESET_TTL_SEC : Nat := 30 * 60

/-- The claims of a reset token; a subject that is not text counts as
missing. -/
structure ResetClaims where
  purpose : String
  sub : Option String
  app : Option String
  deriving DecidableEq

/-- `jsonwebtoken` with a shared secret, and `createHmac` with the key of the
platform. -/
structure SecretJwt where
  hmac : String → String
  sign : ResetClaims → String → Nat → String
  decode : String → Option ResetClaims
  verify : String → String → Nat → Bool

/-- A token decodes to its claims, and a signature with one secret is none with
another. -/
structure SecretJwt.Sound (jwt : SecretJwt) : Prop where
  hmacInjective : Function.Injective jwt.hmac
  decode_sign : ∀ claims secret exp,
    jwt.decode (jwt.sign claims secret exp) = some claims
  secret_of_verify : ∀ claims secret exp other now,
    jwt.verify (jwt.sign claims secret exp) other now = true → secret = other

namespace SecretJwt

variable (jwt : SecretJwt)

/-- `resetSecret`. -/
def resetSecret (userId passwordHash : String) : String :=
  jwt.hmac ("reset:" ++ userId ++ ":" ++ passwordHash)

/-- The token that `requestReset` signs; an empty client id counts as
missing. -/
def resetToken (userId passwordHash : String) (clientId : Option String)
    (exp : Nat) : String :=
  jwt.sign ⟨"password_reset", some userId, given clientId⟩
    (jwt.resetSecret userId passwordHash) exp

/-- The surroundings of the session calls, with these tokens. -/
def env (env : AuthEnv) : AuthEnv :=
  { env with
    resetSubject := fun token => (jwt.decode token).bind fun claims =>
      if claims.purpose = "password_reset" then claims.sub else none
    resetVerifies := fun token user now =>
      jwt.verify token (jwt.resetSecret user.id user.passwordHash)
        (now / 1000) }

end SecretJwt

/-! ## Calls -/

structure ResetDto where
  tenantSlug : Option String
  email : String
  clientId : Option String

/-- What a statement takes from outside. -/
structure LinkInput where
  now : Nat
  fresh : Fresh
  /-- What `sendAllowed` answers. -/
  allowed : Bool

/-- The requests for a link, and the session calls. -/
inductive LinkRequest
  | requestReset (dto : ResetDto)
  | session (request : Request)

/-- Where a call stands: the statement it sends next. -/
inductive LinkPhase
  -- requestReset
  | findTenant (dto : ResetDto) (slug : String)
  | findMember (dto : ResetDto) (tenant : Tenant)
  | findPlatformUser (dto : ResetDto)
  | findAdmins (dto : ResetDto)
  /-- `resolveProduct` and the template, for the text of the message. -/
  | compose (dto : ResetDto) (user : User)
  | sendLink (dto : ResetDto) (user : User)
  | recordRequest (dto : ResetDto) (user : User)
  /-- A request for a link has ended. -/
  | done (outcome : Except AuthError Unit)
  | session (request : Request) (phase : Phase)

/-- The first phase of a call. -/
def LinkRequest.begins (env : AuthEnv) : LinkRequest → LinkPhase
  | .requestReset dto =>
      match given dto.tenantSlug with
      | some slug => .findTenant dto slug
      | none => .findPlatformUser dto
  | .session request => .session request (request.begins env)

/-- Past `findByEmail`. -/
def ResetDto.goesOn (dto : ResetDto) (allowed : Bool) :
    Option User → LinkPhase
  | none => .done (.ok ())
  | some user => if allowed then .compose dto user else .done (.ok ())

/-- The admins with an address, among those not deleted. -/
def Accounts.findAdmins (accounts : Accounts) (email : String) : List User :=
  accounts.users.rows.filter fun user =>
    user.email = email && user.deletedAt.isNone && user.isPlatformAdmin

/-- The token of the link that a statement sends. -/
def LinkPhase.token (jwt : SecretJwt) (dto : ResetDto) (user : User)
    (now : Nat) : String :=
  jwt.resetToken user.id user.passwordHash dto.clientId
    (now / 1000 + RESET_TTL_SEC)

/-- Carry out the statement a call waits for, and go on to the next one. -/
def LinkPhase.step (env : AuthEnv) (input : LinkInput) (db : AuthDb) :
    LinkPhase → AuthDb × LinkPhase
  | .findTenant dto slug =>
      (db, match db.accounts.findTenant slug with
        | none => .done (.ok ())
        | some tenant => .findMember dto tenant)
  | .findMember dto tenant =>
      (db, dto.goesOn input.allowed
        (db.accounts.findUser (some tenant.id) (env.toLowerCase dto.email)))
  | .findPlatformUser dto =>
      (db, match db.accounts.findUser none (env.toLowerCase dto.email) with
        | some user => dto.goesOn input.allowed (some user)
        | none => .findAdmins dto)
  | .findAdmins dto =>
      (db, match db.accounts.findAdmins (env.toLowerCase dto.email) with
        | [user] => dto.goesOn input.allowed (some user)
        | _ => .done (.ok ()))
  | .compose dto user => (db, .sendLink dto user)
  | .sendLink dto user => (db, .recordRequest dto user)
  | .recordRequest dto user =>
      (db.record ⟨"auth.reset_requested", user.tenantId, some user.id,
        dto.clientId, none, .none⟩, .done (.ok ()))
  | .done outcome => (db, .done outcome)
  | .session request phase =>
      let stepped := phase.step env input.now input.fresh db
      (stepped.1, .session request stepped.2)

/-- The calls as a program. -/
def linkCalls (jwt : SecretJwt) (env : AuthEnv) :
    Program AuthDb LinkRequest LinkInput LinkPhase where
  begins := LinkRequest.begins (jwt.env env)
  step := LinkPhase.step (jwt.env env)
  abandoned := fun
    | .session request _ => .session request (.throws .internal)
    | _ => .done (.error .internal)

/-! ## The history -/

/-- What happens to links and passwords. -/
inductive LinkEvent
  /-- A link is sent to a user, signed against a password hash. -/
  | issued (userId token passwordHash : String)
  /-- The stored password hash of a user is replaced, by a link or by an
  administrator. -/
  | changed (userId replaced stored : String) (link : Option String)
  deriving DecidableEq

/-- A link with a token is sent. -/
def LinkEvent.issues (token : String) : LinkEvent → Bool
  | .issued _ sent _ => sent = token
  | .changed .. => false

/-- The password hashes that an event mentions. -/
def LinkEvent.hashes : LinkEvent → List String
  | .issued _ _ passwordHash => [passwordHash]
  | .changed _ replaced stored _ => [replaced, stored]

/-- The stored password hash of a user. -/
def AuthDb.passwordHash (db : AuthDb) (userId : String) : Option String :=
  (db.accounts.users.find? userId).map User.passwordHash

/-- The password hash that a statement is to store, and for whom. -/
def Phase.stores (env : AuthEnv) (fresh : Fresh) :
    Phase → Option (String × String)
  | .resetTransaction user passwordHash => some (user.id, passwordHash)
  | .writeUser update => update.dto.newPassword.map fun password =>
      (update.existing.id, env.bcryptHash password fresh.salt)
  | _ => none

/-- The link by which a statement changes a password. -/
def LinkPhase.link : LinkPhase → Option String
  | .session (.resetPassword token _) (.resetTransaction _ _) => some token
  | _ => none

/-- What becomes of a stored password hash, if it is replaced. -/
def LinkEvent.ofChange (userId : String) (link : Option String) :
    Option String → Option String → List LinkEvent
  | some before, some after =>
      if before = after then [] else [.changed userId before after link]
  | _, _ => []

theorem LinkEvent.ofChange_same (userId : String) (link hash : Option String) :
    ofChange userId link hash hash = [] := by
  cases hash <;> simp [ofChange]

/-- What a statement adds to the history. -/
def LinkPhase.adds (jwt : SecretJwt) (env : AuthEnv) (input : LinkInput)
    (db : AuthDb) (call : LinkPhase) : List LinkEvent :=
  match call with
  | .sendLink dto user =>
      [.issued user.id (LinkPhase.token jwt dto user input.now)
        user.passwordHash]
  | .session _ phase =>
      match phase.stores env input.fresh with
      | none => []
      | some (userId, _) =>
          LinkEvent.ofChange userId call.link (db.passwordHash userId)
            ((call.step env input db).1.passwordHash userId)
  | _ => []

/-- The calls with the history beside them. -/
def watchedLinks (jwt : SecretJwt) (env : AuthEnv) :
    Pool AuthDb LinkPhase × List LinkEvent →
      PoolEvent LinkRequest LinkInput →
        Option (Pool AuthDb LinkPhase × List LinkEvent) :=
  (linkCalls jwt env).watch fun history _ input db call =>
    history ++ call.adds jwt (jwt.env env) input db

/-! ## Conditions -/

/-- The token that the next statement of a reset verifies, and the user whom it
names. -/
def LinkPhase.presents : LinkPhase → Option (String × String)
  | .session _ (.findResetUser token _ userId) => some (token, userId)
  | _ => none

/-- The user whose password the next statement of a reset replaces, as it was
read. -/
def LinkPhase.resets : LinkPhase → Option User
  | .session _ (.resetTransaction user _) => some user
  | _ => none

/-- The password hash that the next statement is to store, and for whom. -/
def LinkPhase.stores (env : AuthEnv) (fresh : Fresh) :
    LinkPhase → Option (String × String)
  | .session _ phase => phase.stores env fresh
  | _ => none

/-- No signature is forged: a token that verifies for a user was issued. -/
def LinkPhase.Unforged (env : AuthEnv) (input : LinkInput) (db : AuthDb)
    (history : List LinkEvent) (call : LinkPhase) : Prop :=
  ∀ presented ∈ call.presents,
    ∀ user ∈ db.accounts.users.find? presented.2,
      env.resetVerifies presented.1 user input.now = true →
        ∃ event ∈ history, event.issues presented.1 = true

/-- No password hash repeats: what is stored was neither stored before nor has a
link been issued against it. -/
def LinkPhase.NeverRepeats (env : AuthEnv) (input : LinkInput) (db : AuthDb)
    (history : List LinkEvent) (call : LinkPhase) : Prop :=
  ∀ stored ∈ call.stores env input.fresh,
    db.passwordHash stored.1 ≠ some stored.2 ∧
      ∀ event ∈ history, stored.2 ∉ event.hashes

/-- The password of a user has not changed between the read and the write of a
reset. -/
def LinkPhase.Unchanged (db : AuthDb) (call : LinkPhase) : Prop :=
  ∀ user ∈ call.resets, ∀ stored ∈ db.passwordHash user.id,
    stored = user.passwordHash

section Decidable

variable (env : AuthEnv) (input : LinkInput) (db : AuthDb)
  (history : List LinkEvent) (call : LinkPhase)

instance : Decidable (call.Unforged env input db history) :=
  inferInstanceAs (Decidable (∀ presented ∈ call.presents,
    ∀ user ∈ db.accounts.users.find? presented.2, _ → ∃ event ∈ history, _))

instance : Decidable (call.NeverRepeats env input db history) :=
  inferInstanceAs (Decidable (∀ stored ∈ call.stores env input.fresh,
    _ ∧ ∀ event ∈ history, stored.2 ∉ event.hashes))

instance : Decidable (call.Unchanged db) :=
  inferInstanceAs (Decidable (∀ user ∈ call.resets,
    ∀ stored ∈ db.passwordHash user.id, _))

end Decidable

/-- The assumptions on signatures and hashes hold. -/
def Genuine (jwt : SecretJwt) (env : AuthEnv)
    (state : Pool AuthDb LinkPhase × List LinkEvent) :
    PoolEvent LinkRequest LinkInput → Prop
  | .advance index input => ∀ call ∈ state.1.calls[index]?,
      call.Unforged (jwt.env env) input state.1.data state.2 ∧
        call.NeverRepeats (jwt.env env) input state.1.data state.2
  | _ => True

/-- No reset is overtaken by a change of the password. -/
def ResetsUnovertaken (state : Pool AuthDb LinkPhase × List LinkEvent) :
    PoolEvent LinkRequest LinkInput → Prop
  | .advance index _ => ∀ call ∈ state.1.calls[index]?,
      call.Unchanged state.1.data
  | _ => True

instance (jwt : SecretJwt) (env : AuthEnv)
    (state : Pool AuthDb LinkPhase × List LinkEvent) :
    (event : PoolEvent LinkRequest LinkInput) →
      Decidable (Genuine jwt env state event)
  | .advance index input => inferInstanceAs (Decidable
      (∀ call ∈ state.1.calls[index]?,
        call.Unforged (jwt.env env) input state.1.data state.2 ∧
          call.NeverRepeats (jwt.env env) input state.1.data state.2))
  | .start _ => isTrue trivial
  | .abandon _ => isTrue trivial

instance (state : Pool AuthDb LinkPhase × List LinkEvent) :
    (event : PoolEvent LinkRequest LinkInput) →
      Decidable (ResetsUnovertaken state event)
  | .advance index _ => inferInstanceAs (Decidable
      (∀ call ∈ state.1.calls[index]?, call.Unchanged state.1.data))
  | .start _ => isTrue trivial
  | .abandon _ => isTrue trivial

/-! ## Statements -/

/-- What comes in order before the end of a longer list. -/
theorem concat_sublist_concat_iff {α : Type} (left : List α) {right : List α}
    {last added : α} :
    (left ++ [last]).Sublist (right ++ [added]) ↔
      (left ++ [last]).Sublist right ∨ (last = added ∧ left.Sublist right) := by
  have reversed : (left ++ [last]).Sublist right ↔
      (last :: left.reverse).Sublist right.reverse := by
    rw [← List.reverse_sublist, List.reverse_append, List.reverse_singleton,
      List.singleton_append]
  rw [reversed, ← List.reverse_sublist, List.reverse_append,
    List.reverse_append, List.reverse_singleton, List.reverse_singleton,
    List.singleton_append, List.singleton_append, List.cons_sublist_cons',
    List.reverse_sublist]

section Step

variable (env : AuthEnv) (now : Nat) (fresh : Fresh) (db : AuthDb)

/-- A statement stores the hash that it is to store, or changes no password. -/
theorem passwordHash_step
    (phase : Phase)
    (userId : String) :
    (phase.step env now fresh db).1.passwordHash userId =
        db.passwordHash userId ∨
      ∃ replaced stored, phase.stores env fresh = some (userId, stored) ∧
        db.passwordHash userId = some replaced ∧
        (phase.step env now fresh db).1.passwordHash userId = some stored := by
  have ofUpdate : ∀ {id : String} {change : User → User} {accounts : Accounts},
      db.accounts.updateUser id change = some accounts →
      (∀ user, (change user).id = user.id) →
      (accounts.users.find? userId).map User.passwordHash =
          db.passwordHash userId ∨
        ∃ stored, id = userId ∧ db.accounts.users.find? userId = some stored ∧
          (accounts.users.find? userId).map User.passwordHash =
            some (change stored).passwordHash := by
    intro id change accounts updated sameId
    obtain ⟨_, _, found⟩ := Accounts.users_of_updateUser sameId updated
    rw [found]
    split
    · rename_i same
      subst same
      cases isStored : db.accounts.users.find? userId with
      | none => exact Or.inl (by simp [AuthDb.passwordHash, isStored])
      | some stored => exact Or.inr ⟨stored, rfl, rfl, rfl⟩
    · exact Or.inl rfl
  cases phase with
  | resetTransaction user passwordHash =>
      simp only [Phase.step]
      split
      · exact Or.inl rfl
      · rename_i accounts updated
        rcases ofUpdate updated fun _ => rfl with
          same | ⟨stored, rfl, isStored, isAfter⟩
        · exact Or.inl same
        · exact Or.inr ⟨stored.passwordHash, passwordHash, rfl,
            by simp [AuthDb.passwordHash, isStored], isAfter⟩
  | writeUser update =>
      simp only [Phase.step]
      split
      · exact Or.inl rfl
      · rename_i accounts updated
        have sameId : ∀ user : User,
            (update.change env fresh.salt user).id = user.id :=
          fun _ => rfl
        rcases ofUpdate updated sameId with
          same | ⟨stored, rfl, isStored, isAfter⟩
        · exact Or.inl same
        · cases asked : update.dto.newPassword with
          | none =>
              apply Or.inl
              refine isAfter.trans ?_
              simp [AuthDb.passwordHash, isStored, UserUpdate.change, asked]
          | some password =>
              refine Or.inr ⟨stored.passwordHash,
                env.bcryptHash password fresh.salt, ?_, ?_, ?_⟩
              · simp [Phase.stores, asked]
              · simp [AuthDb.passwordHash, isStored]
              · exact isAfter.trans (by simp [UserUpdate.change, asked])
  | rotate grant stored =>
      simp only [Phase.step]
      split <;> exact Or.inl rfl
  | createToken grant =>
      simp only [Phase.step]
      split <;> exact Or.inl rfl
  | _ => exact Or.inl rfl

end Step

/-- What a statement adds to the history, and what it does to the passwords. -/
inductive LinkPhase.Notes (jwt : SecretJwt) (env : AuthEnv) (input : LinkInput)
    (db : AuthDb) : LinkPhase → AuthDb → List LinkEvent → Prop
  | nothing {call : LinkPhase} {after : AuthDb} :
      (∀ userId, after.passwordHash userId = db.passwordHash userId) →
      Notes jwt env input db call after []
  | issued (dto : ResetDto) (user : User) :
      Notes jwt env input db (.sendLink dto user) db
        [.issued user.id (LinkPhase.token jwt dto user input.now)
          user.passwordHash]
  | changed {call : LinkPhase} {request : Request} {phase : Phase}
      {after : AuthDb} {userId replaced stored : String} :
      call = .session request phase →
      phase.stores env input.fresh = some (userId, stored) →
      db.passwordHash userId = some replaced →
      after.passwordHash userId = some stored →
      (∀ other, other ≠ userId →
        after.passwordHash other = db.passwordHash other) →
      Notes jwt env input db call after [.changed userId replaced stored call.link]

theorem notes_step
    (jwt : SecretJwt)
    (env : AuthEnv)
    (input : LinkInput)
    (db : AuthDb)
    (call : LinkPhase) :
    call.Notes jwt env input db (call.step env input db).1
      (call.adds jwt env input db) := by
  cases call with
  | sendLink dto user => exact .issued dto user
  | session request phase =>
      have stepped := passwordHash_step env input.now input.fresh db phase
      simp only [LinkPhase.adds]
      cases stores : phase.stores env input.fresh with
      | none =>
          apply LinkPhase.Notes.nothing
          intro userId
          rcases stepped userId with same | ⟨_, _, isStored, _⟩
          · exact same
          · rw [stores] at isStored
            contradiction
      | some target =>
          obtain ⟨userId, hash⟩ := target
          have others : ∀ other, other ≠ userId →
              ((LinkPhase.session request phase).step env input
                db).1.passwordHash other = db.passwordHash other := by
            intro other different
            rcases stepped other with same | ⟨_, _, isStored, _⟩
            · exact same
            · rw [stores] at isStored
              simp [Ne.symm different] at isStored
          have unchanged : ((LinkPhase.session request phase).step env input
              db).1.passwordHash userId = db.passwordHash userId →
              LinkPhase.Notes jwt env input db (.session request phase)
                ((LinkPhase.session request phase).step env input db).1 [] := by
            intro same
            apply LinkPhase.Notes.nothing
            intro other
            by_cases isUser : other = userId
            · rw [isUser]
              exact same
            · exact others other isUser
          rcases stepped userId with same | ⟨replaced, stored, isStored, before,
            after⟩
          · have same : ((LinkPhase.session request phase).step env input
                db).1.passwordHash userId = db.passwordHash userId :=
              same
            simp only [same, LinkEvent.ofChange_same]
            exact unchanged same
          · have after : ((LinkPhase.session request phase).step env input
                db).1.passwordHash userId = some stored :=
              after
            simp only [before, after, LinkEvent.ofChange]
            split
            · rename_i equal
              apply unchanged
              rw [after, before, equal]
            · rw [isStored] at stores
              exact .changed rfl isStored before after others
  | _ => exact .nothing fun _ => rfl

/-! ## The law of links -/

/-- A link changes a password only while the stored hash is the one that it was
issued against, and no link changes a password that has changed since the link
was issued. -/
structure WorksOnce (history : List LinkEvent) : Prop where
  issuedBefore : ∀ userId replaced stored token,
    .changed userId replaced stored (some token) ∈ history →
      [.issued userId token replaced,
        .changed userId replaced stored (some token)].Sublist history
  current : ∀ userId passwordHash replaced stored token,
    [.issued userId token passwordHash,
      .changed userId replaced stored (some token)].Sublist history →
      passwordHash = replaced
  dies : ∀ userId token passwordHash replaced stored link again last,
    ¬ [.issued userId token passwordHash,
      .changed userId replaced stored link,
      .changed userId again last (some token)].Sublist history

/-- Links are signed against the hash that they are issued against, and none is
issued against a hash that was replaced later and is stored now. -/
structure HistorySound (jwt : SecretJwt) (db : AuthDb)
    (history : List LinkEvent) : Prop where
  worksOnce : WorksOnce history
  signed : ∀ userId token passwordHash,
    .issued userId token passwordHash ∈ history → ∃ clientId exp,
      token = jwt.resetToken userId passwordHash clientId exp
  outdated : ∀ userId token passwordHash replaced stored link,
    [.issued userId token passwordHash,
      .changed userId replaced stored link].Sublist history →
      db.passwordHash userId ≠ some passwordHash

section Law

variable {jwt : SecretJwt} {db after : AuthDb} {history : List LinkEvent}

/-- A link that verifies for a hash was issued against it. -/
theorem passwordHash_of_verify
    (sound : jwt.Sound)
    {userId issued checked : String}
    {clientId : Option String}
    {exp now : Nat}
    (verifies : jwt.verify (jwt.resetToken userId issued clientId exp)
      (jwt.resetSecret userId checked) now = true) :
    issued = checked := by
  have sameSecret := sound.secret_of_verify _ _ _ _ _ verifies
  exact (String.append_right_inj _).mp (sound.hmacInjective sameSecret)

theorem HistorySound.of_same
    (historySound : HistorySound jwt db history)
    (same : ∀ userId, after.passwordHash userId = db.passwordHash userId) :
    HistorySound jwt after history := by
  refine ⟨historySound.worksOnce, historySound.signed, ?_⟩
  intro userId token passwordHash replaced stored link ordered
  rw [same]
  exact historySound.outdated _ _ _ _ _ _ ordered

/-- A link is issued. -/
theorem HistorySound.issued
    (historySound : HistorySound jwt db history)
    (userId passwordHash : String)
    (clientId : Option String)
    (exp : Nat) :
    HistorySound jwt db (history ++ [.issued userId
      (jwt.resetToken userId passwordHash clientId exp) passwordHash]) := by
  let added : LinkEvent := .issued userId
    (jwt.resetToken userId passwordHash clientId exp) passwordHash
  have before : ∀ (left : List LinkEvent) {last : LinkEvent}, last ≠ added →
      (left ++ [last]).Sublist (history ++ [added]) →
        (left ++ [last]).Sublist history := by
    intro left last different ordered
    rcases (concat_sublist_concat_iff left).mp ordered with
      ordered | ⟨same, _⟩
    · exact ordered
    · exact absurd same different
  refine ⟨⟨?_, ?_, ?_⟩, ?_, ?_⟩
  · intro ofUser replaced stored token isChange
    have isOld : LinkEvent.changed ofUser replaced stored (some token) ∈
        history := by
      simpa using isChange
    exact (historySound.worksOnce.issuedBefore _ _ _ _ isOld).trans
      (List.sublist_append_left history [added])
  · intro ofUser hash replaced stored token ordered
    exact historySound.worksOnce.current _ _ _ _ _
      (before [_] (by simp [added]) ordered)
  · intro ofUser token hash replaced stored link again last ordered
    exact historySound.worksOnce.dies _ _ _ _ _ _ _ _
      (before [_, _] (by simp [added]) ordered)
  · intro ofUser token hash isIssued
    rcases List.mem_append.mp isIssued with isOld | isNew
    · exact historySound.signed _ _ _ isOld
    · simp only [List.mem_singleton, LinkEvent.issued.injEq] at isNew
      obtain ⟨rfl, rfl, rfl⟩ := isNew
      exact ⟨clientId, exp, rfl⟩
  · intro ofUser token hash replaced stored link ordered
    exact historySound.outdated _ _ _ _ _ _
      (before [_] (by simp [added]) ordered)

/-- A password is changed, by a link only while the stored hash is the one that
the link was issued against. -/
theorem HistorySound.changed
    {userId replaced stored : String}
    {link : Option String}
    (historySound : HistorySound jwt db history)
    (wasStored : db.passwordHash userId = some replaced)
    (isStored : after.passwordHash userId = some stored)
    (others : ∀ other, other ≠ userId →
      after.passwordHash other = db.passwordHash other)
    (neverRepeats : ∀ event ∈ history, stored ∉ event.hashes)
    (byLink : ∀ token ∈ link,
      .issued userId token replaced ∈ history ∧ ∀ passwordHash,
        .issued userId token passwordHash ∈ history →
          passwordHash = replaced) :
    HistorySound jwt after (history ++ [.changed userId replaced stored link]) := by
  have isNew : ∀ {token passwordHash : String},
      .issued userId token passwordHash ∈ history → stored ≠ passwordHash := by
    intro token passwordHash isIssued same
    apply neverRepeats _ isIssued
    simp [LinkEvent.hashes, same]
  refine ⟨⟨?_, ?_, ?_⟩, ?_, ?_⟩
  · intro ofUser old new token isChange
    rcases List.mem_append.mp isChange with isOld | isLast
    · exact (historySound.worksOnce.issuedBefore _ _ _ _ isOld).trans
        (List.sublist_append_left history _)
    · simp only [List.mem_singleton, LinkEvent.changed.injEq] at isLast
      obtain ⟨rfl, rfl, rfl, rfl⟩ := isLast
      exact (List.singleton_sublist.mpr (byLink token rfl).1).append
        (List.Sublist.refl _)
  · intro ofUser passwordHash old new token ordered
    rcases (concat_sublist_concat_iff [_]).mp ordered with
      before | ⟨same, isIssued⟩
    · exact historySound.worksOnce.current _ _ _ _ _ before
    · obtain ⟨rfl, rfl, rfl, rfl⟩ := LinkEvent.changed.inj same
      exact (byLink token rfl).2 _ (List.singleton_sublist.mp isIssued)
  · intro ofUser token passwordHash old new cause again last ordered
    rcases (concat_sublist_concat_iff [_, _]).mp ordered with
      before | ⟨same, isOutdated⟩
    · exact historySound.worksOnce.dies _ _ _ _ _ _ _ _ before
    · obtain ⟨rfl, rfl, rfl, rfl⟩ := LinkEvent.changed.inj same
      -- The link was issued against the hash that is stored now.
      have isIssued := isOutdated.subset (List.mem_cons_self ..)
      have same := (byLink token rfl).2 _ isIssued
      subst same
      exact historySound.outdated _ _ _ _ _ _ isOutdated wasStored
  · intro ofUser token passwordHash isIssued
    have isOld : LinkEvent.issued ofUser token passwordHash ∈ history := by
      simpa using isIssued
    exact historySound.signed _ _ _ isOld
  · intro ofUser token passwordHash old new cause ordered
    rcases (concat_sublist_concat_iff [_]).mp ordered with
      before | ⟨same, isIssued⟩
    · by_cases isUser : ofUser = userId
      · subst isUser
        rw [isStored]
        intro same
        exact isNew (before.subset (List.mem_cons_self ..))
          (Option.some.inj same)
      · rw [others ofUser isUser]
        exact historySound.outdated _ _ _ _ _ _ before
    · obtain ⟨rfl, rfl, rfl, rfl⟩ := LinkEvent.changed.inj same
      rw [isStored]
      intro same
      exact isNew (List.singleton_sublist.mp isIssued) (Option.some.inj same)

end Law

/-! ## The way of a reset -/

/-- A call is on the way of a reset, up to its write. -/
def Phase.ofReset : Phase → Bool
  | .findResetUser .. | .hashReset .. | .resetTransaction .. => true
  | _ => false

theorem Phase.Under.ofReset
    {grant : Grant} {phase : Phase}
    (under : Phase.Under grant phase) :
    phase.ofReset = false := by
  cases under <;> rfl

theorem UserUpdate.ofReset_unclashed (update : UserUpdate) :
    update.unclashed.ofReset = false := by
  unfold UserUpdate.unclashed
  split <;> rfl

theorem UserUpdate.ofReset_revoked (update : UserUpdate) (written : User) :
    (update.revoked written).ofReset = false := by
  unfold UserUpdate.revoked
  split
  · split <;> rfl
  · rfl

theorem UserUpdate.ofReset_written (update : UserUpdate) (written : User) :
    (update.written written).ofReset = false := by
  unfold UserUpdate.written
  split
  · rfl
  · exact update.ofReset_revoked written

/-- No other call gets on the way of a reset. -/
theorem ofReset_step
    (env : AuthEnv)
    (now : Nat)
    (fresh : Fresh)
    (db : AuthDb)
    {phase : Phase}
    (notReset : phase.ofReset = false) :
    (phase.step env now fresh db).2.ofReset = false := by
  have ofThrown : ∀ error, (Phase.throws error).ofReset = false :=
    fun _ => rfl
  cases phase with
  | comparePassword dto ip tenant user =>
      simp only [Phase.step]
      split
      · rcases completeLogin_cases now _ tenant dto.clientId ip with
          ⟨error, isThrown⟩ | under
        · rw [isThrown]
          exact ofThrown error
        · exact under.ofReset
      · rfl
  | findEnablement grant tenant app =>
      simp only [Phase.step]
      split
      · rfl
      · exact grant.under_admitted.ofReset
  | findToken rawToken =>
      simp only [Phase.step]
      split
      · rfl
      · split
        · rfl
        · split
          · unfold onRefreshReuse
            split <;> rfl
          · rcases continueRefresh_cases now _ _ _ with
              ⟨error, isThrown⟩ | under
            · rw [isThrown]
              exact ofThrown error
            · exact under.ofReset
  | createToken grant =>
      simp only [Phase.step]
      split
      · rfl
      · unfold Grant.issued
        split <;> rfl
  | findExisting id dto =>
      simp only [Phase.step]
      split
      · rfl
      · split
        · split
          · rfl
          · exact UserUpdate.ofReset_unclashed _
        · exact UserUpdate.ofReset_unclashed _
  | findClash update email =>
      simp only [Phase.step]
      split
      · rfl
      · exact update.ofReset_unclashed
  | writeUser update =>
      simp only [Phase.step]
      split
      · rfl
      · split
        · rfl
        · exact update.ofReset_written _
  | revokeSessions update written =>
      simp only [Phase.step]
      split
      · rfl
      · exact update.ofReset_revoked written
  | recordSessions update written count => exact update.ofReset_revoked written
  | findResetUser token password userId => contradiction
  | hashReset user password => contradiction
  | resetTransaction user passwordHash => contradiction
  | findTenant dto ip slug => simp only [Phase.step]; split <;> rfl
  | findApp grant tenant clientId => simp only [Phase.step]; split <;> rfl
  | rotate grant stored => simp only [Phase.step]; split <;> rfl
  | countAdmins update => simp only [Phase.step]; split <;> rfl
  | _ => rfl

/-- A token was issued to a user, and verified against the hash that was
read. -/
def LinkOf (jwt : SecretJwt) (history : List LinkEvent) (user : User)
    (token : String) : Prop :=
  (∃ passwordHash, .issued user.id token passwordHash ∈ history) ∧
    ∃ now, jwt.verify token (jwt.resetSecret user.id user.passwordHash) now =
      true

/-- A reset names the user of its token, and goes on with a link of the user
that it has read. -/
def LinkPhase.Verified (jwt : SecretJwt) (env : AuthEnv)
    (history : List LinkEvent) : LinkPhase → Prop
  | .session request (.findResetUser token password userId) =>
      request = .resetPassword token password ∧
        env.resetSubject token = some userId
  | .session request (.hashReset user password) =>
      ∃ token, request = .resetPassword token password ∧
        LinkOf jwt history user token
  | .session request (.resetTransaction user _) =>
      ∃ token password, request = .resetPassword token password ∧
        LinkOf jwt history user token
  | _ => True

section Verified

variable {jwt : SecretJwt} {env : AuthEnv} {db : AuthDb}
  {history longer : List LinkEvent}

theorem LinkPhase.verified_of_notReset
    {request : Request}
    {phase : Phase}
    (notReset : phase.ofReset = false) :
    (LinkPhase.session request phase).Verified jwt env history := by
  cases phase <;> trivial

theorem LinkPhase.Verified.mono
    {call : LinkPhase}
    (verified : call.Verified jwt env history)
    (grown : history ⊆ longer) :
    call.Verified jwt env longer := by
  have ofLink : ∀ {user : User} {token : String},
      LinkOf jwt history user token → LinkOf jwt longer user token := by
    rintro user token ⟨⟨passwordHash, isIssued⟩, verifies⟩
    exact ⟨⟨passwordHash, grown isIssued⟩, verifies⟩
  cases call with
  | session request phase =>
      by_cases isReset : phase.ofReset = false
      · exact verified_of_notReset isReset
      · cases phase with
        | findResetUser token password userId => exact verified
        | hashReset user password =>
            obtain ⟨token, isRequest, link⟩ := verified
            exact ⟨token, isRequest, ofLink link⟩
        | resetTransaction user passwordHash =>
            obtain ⟨token, password, isRequest, link⟩ := verified
            exact ⟨token, password, isRequest, ofLink link⟩
        | _ => exact absurd rfl isReset
  | _ => trivial

theorem verified_begins
    (request : LinkRequest) :
    (request.begins env).Verified jwt env history := by
  cases request with
  | requestReset dto =>
      simp only [LinkRequest.begins]
      split <;> trivial
  | session request =>
      cases request with
      | resetPassword token password =>
          simp only [LinkRequest.begins, Request.begins]
          split
          · rename_i userId isSubject
            exact ⟨rfl, isSubject⟩
          · trivial
      | login dto ip =>
          simp only [LinkRequest.begins, Request.begins]
          split <;> trivial
      | _ => trivial

/-- A link that was issued is one of the user whom its token names. -/
theorem issued_to_subject
    (sound : jwt.Sound)
    (historySound : HistorySound jwt db history)
    {event : LinkEvent}
    {token userId : String}
    (present : event ∈ history)
    (issues : event.issues token = true)
    (isSubject : (jwt.env env).resetSubject token = some userId) :
    ∃ passwordHash, .issued userId token passwordHash ∈ history := by
  cases event with
  | changed ofUser replaced stored link => contradiction
  | issued ofUser sent passwordHash =>
      simp only [LinkEvent.issues, decide_eq_true_eq] at issues
      subst issues
      obtain ⟨clientId, exp, isToken⟩ := historySound.signed _ _ _ present
      have sameUser : some ofUser = some userId := by
        rw [← isSubject, isToken]
        simp [SecretJwt.env, SecretJwt.resetToken, sound.decode_sign]
      obtain rfl := Option.some.inj sameUser
      exact ⟨passwordHash, present⟩

/-- A call stays verified. -/
theorem verified_step
    (sound : jwt.Sound)
    (historySound : HistorySound jwt db history)
    (input : LinkInput)
    {call : LinkPhase}
    (verified : call.Verified jwt (jwt.env env) history)
    (unforged : call.Unforged (jwt.env env) input db history) :
    (call.step (jwt.env env) input db).2.Verified jwt (jwt.env env)
      history := by
  have ofGoesOn : ∀ (dto : ResetDto) (found : Option User),
      (dto.goesOn input.allowed found).Verified jwt (jwt.env env) history := by
    intro dto found
    cases found with
    | none => trivial
    | some user =>
        simp only [ResetDto.goesOn]
        split <;> trivial
  cases call with
  | findTenant dto slug =>
      simp only [LinkPhase.step]
      split <;> trivial
  | findMember dto tenant => exact ofGoesOn dto _
  | findPlatformUser dto =>
      simp only [LinkPhase.step]
      split
      · exact ofGoesOn dto _
      · trivial
  | findAdmins dto =>
      simp only [LinkPhase.step]
      split
      · exact ofGoesOn dto _
      · trivial
  | session request phase =>
      by_cases isReset : phase.ofReset = false
      · exact LinkPhase.verified_of_notReset
          (ofReset_step _ input.now input.fresh db isReset)
      · cases phase with
        | findResetUser token password userId =>
            obtain ⟨isRequest, isSubject⟩ := verified
            simp only [LinkPhase.step, Phase.step]
            split
            · trivial
            · rename_i user found
              split
              · trivial
              · split
                · rename_i verifies
                  have isId : user.id = userId :=
                    db.accounts.users.key_of_find? found
                  subst isId
                  obtain ⟨event, present, issues⟩ :=
                    unforged (token, user.id) rfl user found verifies
                  exact ⟨token, isRequest, issued_to_subject sound historySound
                    present issues isSubject, input.now / 1000, verifies⟩
                · trivial
        | hashReset user password =>
            obtain ⟨token, isRequest, link⟩ := verified
            exact ⟨token, password, isRequest, link⟩
        | resetTransaction user passwordHash =>
            simp only [LinkPhase.step, Phase.step]
            split <;> trivial
        | _ => exact absurd rfl isReset
  | _ => trivial

end Verified

/-! ## Runs -/

/-- A statement that meets the conditions keeps the law. -/
theorem historySound_step
    {jwt : SecretJwt} {env : AuthEnv} {db : AuthDb}
    {history : List LinkEvent}
    (sound : jwt.Sound)
    (historySound : HistorySound jwt db history)
    (input : LinkInput)
    {call : LinkPhase}
    (verified : call.Verified jwt (jwt.env env) history)
    (neverRepeats : call.NeverRepeats (jwt.env env) input db history)
    (unchanged : call.Unchanged db) :
    HistorySound jwt (call.step (jwt.env env) input db).1
      (history ++ call.adds jwt (jwt.env env) input db) := by
  have notes := notes_step jwt (jwt.env env) input db call
  generalize call.adds jwt (jwt.env env) input db = added at notes
  generalize isAfter : (call.step (jwt.env env) input db).1 = after at notes
  cases notes with
  | nothing same =>
      rw [List.append_nil]
      exact historySound.of_same same
  | issued dto user => exact historySound.issued user.id user.passwordHash _ _
  | @changed _ request phase _ userId replaced stored isCall stores wasStored
      isStored others =>
      subst isCall
      refine historySound.changed wasStored isStored others
        (neverRepeats _ stores).2 ?_
      intro token isLink
      cases request with
      | resetPassword presented password =>
          cases phase with
          | resetTransaction user passwordHash =>
              obtain rfl := Option.some.inj isLink
              obtain ⟨rfl, rfl⟩ := Prod.mk.inj (Option.some.inj stores)
              obtain ⟨token, again, isRequest, ⟨hash, isIssued⟩, now,
                verifies⟩ := verified
              obtain ⟨rfl, rfl⟩ := Request.resetPassword.inj isRequest
              have isRead : replaced = user.passwordHash :=
                unchanged user rfl replaced wasStored
              have isCurrent : ∀ passwordHash,
                  .issued user.id presented passwordHash ∈ history →
                    passwordHash = replaced := by
                intro passwordHash isOther
                obtain ⟨clientId, exp, isToken⟩ :=
                  historySound.signed _ _ _ isOther
                rw [isToken] at verifies
                rw [isRead]
                exact passwordHash_of_verify sound verifies
              refine ⟨?_, isCurrent⟩
              rw [← isCurrent hash isIssued]
              exact isIssued
          | _ => contradiction
      | _ => contradiction

/-- From any database and in every interleaving of requests for links and
session calls: while no signature is forged, no password hash repeats and no
password changes between the read and the write of a reset, a link changes a
password only while the stored hash is the one that it was issued against, so
that of all links issued before a change of the password none works after
it. -/
theorem link_worksOnce
    (jwt : SecretJwt)
    (sound : jwt.Sound)
    (env : AuthEnv)
    {db : AuthDb}
    {events : List (PoolEvent LinkRequest LinkInput)}
    {final : Pool AuthDb LinkPhase × List LinkEvent}
    (run : Run (watchedLinks jwt env)
      (fun state event => Genuine jwt env state event ∧
        ResetsUnovertaken state event)
      (⟨db, []⟩, []) events final) :
    WorksOnce final.2 := by
  have holds : Program.Holds (fun db history => HistorySound jwt db history)
      (fun _ history _ call => call.Verified jwt (jwt.env env) history)
      final := by
    apply Program.always _ _ _ run
    · refine ⟨⟨⟨?_, ?_, ?_⟩, ?_, ?_⟩, ?_⟩
      · intro userId replaced stored token absent
        contradiction
      · intro userId passwordHash replaced stored token ordered
        contradiction
      · intro userId token passwordHash replaced stored link again last ordered
        contradiction
      · intro userId token passwordHash absent
        contradiction
      · intro userId token passwordHash replaced stored link ordered
        contradiction
      · intro index call present
        contradiction
    · intro pool history request _ _
      exact verified_begins request
    · intro pool history index input call holds allowed present
      obtain ⟨unforged, neverRepeats⟩ := allowed.1 call present
      have unchanged := allowed.2 call present
      have verified := holds.ofCall index call present
      have grown : history ⊆
          history ++ call.adds jwt (jwt.env env) input pool.data :=
        List.subset_append_left _ _
      refine ⟨historySound_step sound holds.ofData input verified neverRepeats
          unchanged,
        (verified_step sound holds.ofData input verified unforged).mono grown,
        ?_⟩
      intro other bystander _ found
      exact (holds.ofCall other bystander found).mono grown
    · intro db history index call _ _
      cases call <;> trivial
  exact holds.ofData.worksOnce

/-! ## Links that can be read -/

namespace PlainJwt

/-- A text, and where it ends. -/
def field (text : List Char) : List Char :=
  text.flatMap (fun char => ['s', char]) ++ ['x']

def optional : Option String → List Char
  | none => ['n']
  | some text => 'y' :: field text.toList

def takeField : List Char → List Char × List Char
  | 's' :: char :: rest => (char :: (takeField rest).1, (takeField rest).2)
  | _ :: rest => ([], rest)
  | [] => ([], [])

def takeOptional : List Char → Option String × List Char
  | 'y' :: rest => (some (String.ofList (takeField rest).1), (takeField rest).2)
  | _ :: rest => (none, rest)
  | [] => (none, [])

theorem takeField_field (text rest : List Char) :
    takeField (field text ++ rest) = (text, rest) := by
  induction text with
  | nil => rfl
  | cons char text inductionHypothesis =>
      simp only [field, List.flatMap_cons, List.cons_append,
        List.nil_append] at inductionHypothesis ⊢
      simp only [takeField, inductionHypothesis]

theorem takeOptional_optional (text : Option String) (rest : List Char) :
    takeOptional (optional text ++ rest) = (text, rest) := by
  cases text with
  | none => rfl
  | some text =>
      simp only [optional, List.cons_append, takeOptional, takeField_field,
        String.ofList_toList]

/-- The claims, followed by the secret. -/
def write (claims : ResetClaims) (secret : String) : String :=
  String.ofList (field claims.purpose.toList ++ (optional claims.sub ++
    (optional claims.app ++ secret.toList)))

def read (token : String) : ResetClaims × String :=
  let purpose := takeField token.toList
  let sub := takeOptional purpose.2
  let app := takeOptional sub.2
  (⟨String.ofList purpose.1, sub.1, app.1⟩, String.ofList app.2)

theorem read_write (claims : ResetClaims) (secret : String) :
    read (write claims secret) = (claims, secret) := by
  simp only [read, write, String.toList_ofList, takeField_field,
    takeOptional_optional, String.ofList_toList]

end PlainJwt

/-- Tokens in which the secret can be read, and which do not expire. -/
def plainJwt : SecretJwt where
  hmac := id
  sign := fun claims secret _ => PlainJwt.write claims secret
  decode := fun token => some (PlainJwt.read token).1
  verify := fun token secret _ => (PlainJwt.read token).2 = secret

theorem plainJwt_sound : plainJwt.Sound where
  hmacInjective := Function.injective_id
  decode_sign := by
    intro claims secret exp
    simp [plainJwt, PlainJwt.read_write]
  secret_of_verify := by
    intro claims secret exp other now verifies
    simpa [plainJwt, PlainJwt.read_write] using verifies

/-- A statement of a call, with a salt that is not used. -/
def linkStatement (index : Nat) : PoolEvent LinkRequest LinkInput :=
  .advance index ⟨1000, ⟨"", "", ""⟩, true⟩

/-- The link of the demo user. -/
def demoLink : String := plainJwt.resetToken "u1" "secret" none 1801

/-- A request for a link. -/
def requestLink (index : Nat) : List (PoolEvent LinkRequest LinkInput) :=
  .start (.requestReset ⟨none, "a@b.co", none⟩) ::
    List.replicate 4 (linkStatement index)

/-- The link is submitted with a password. -/
def submitLink (index count : Nat) (password : String) :
    List (PoolEvent LinkRequest LinkInput) :=
  .start (.session (.resetPassword demoLink password)) ::
    List.replicate count (linkStatement index)

/-- Two links are requested, and both are used: the second submission is
refused. -/
theorem link_worksOnce_inTurn :
    ∃ final, Run (watchedLinks plainJwt plainEnv)
        (fun state event => Genuine plainJwt plainEnv state event ∧
          ResetsUnovertaken state event)
        (⟨demoSessions .empty, []⟩, [])
        (requestLink 0 ++ requestLink 1 ++ submitLink 2 4 "new" ++
          submitLink 3 1 "other") final ∧
      final.2 = [.issued "u1" demoLink "secret", .issued "u1" demoLink "secret",
        .changed "u1" "secret" "new" (some demoLink)] ∧
      WorksOnce final.2 := by
  obtain ⟨final, run, history⟩ := Run.exists_of_execute
    (watchedLinks plainJwt plainEnv)
    (fun state event => decide (Genuine plainJwt plainEnv state event ∧
      ResetsUnovertaken state event))
    (fun _ _ passed => of_decide_eq_true passed)
    (⟨demoSessions .empty, []⟩, [])
    (requestLink 0 ++ requestLink 1 ++ submitLink 2 4 "new" ++
      submitLink 3 1 "other")
    (fun state => state.2 =
      [.issued "u1" demoLink "secret", .issued "u1" demoLink "secret",
        .changed "u1" "secret" "new" (some demoLink)])
    (by decide +kernel)
  exact ⟨final, run, of_decide_eq_true history,
    link_worksOnce plainJwt plainJwt_sound plainEnv run⟩

/-- One link is submitted twice at the same time, and changes the password
twice. -/
theorem concurrentSubmissions_bothWork :
    ∃ final, Run (watchedLinks plainJwt plainEnv) (Genuine plainJwt plainEnv)
        (⟨demoSessions .empty, []⟩, [])
        (requestLink 0 ++ submitLink 1 2 "new" ++ submitLink 2 2 "other" ++
          [linkStatement 1, linkStatement 2]) final ∧
      final.2 = [.issued "u1" demoLink "secret",
        .changed "u1" "secret" "new" (some demoLink),
        .changed "u1" "new" "other" (some demoLink)] ∧
      ¬ WorksOnce final.2 := by
  obtain ⟨final, run, history⟩ := Run.exists_of_execute
    (watchedLinks plainJwt plainEnv)
    (fun state event => decide (Genuine plainJwt plainEnv state event))
    (fun _ _ passed => of_decide_eq_true passed)
    (⟨demoSessions .empty, []⟩, [])
    (requestLink 0 ++ submitLink 1 2 "new" ++ submitLink 2 2 "other" ++
      [linkStatement 1, linkStatement 2])
    (fun state => state.2 = [.issued "u1" demoLink "secret",
        .changed "u1" "secret" "new" (some demoLink),
        .changed "u1" "new" "other" (some demoLink)])
    (by decide +kernel)
  have isHistory := of_decide_eq_true history
  refine ⟨final, run, isHistory, ?_⟩
  rw [isHistory]
  intro worksOnce
  exact worksOnce.dies _ _ _ _ _ _ _ _ (List.Sublist.refl _)

end Auth
end EvoPlatform
