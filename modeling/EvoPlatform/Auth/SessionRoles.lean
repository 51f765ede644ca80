import EvoPlatform.Auth.Provisioning
import EvoPlatform.Foundation.Timeline
import Mathlib.Data.List.MinMax

/-!
# The role of a session

The `jwt` and `session` callbacks of an app.  A session token is a cache of a
membership that its holder keeps, and any copy of it may be presented at any
time.  What a session carries was a membership within the time after which the
callback reads the membership again.
-/

namespace EvoPlatform
namespace Auth

/-- How long a session may keep a stale role, in milliseconds. -/
def roleRefreshMs : Nat := 60000

/-- A row of the `Membership` table of the app, with its time of creation. -/
structure MembershipRow extends Membership where
  createdAt : Nat
  deriving DecidableEq

/-- The unique columns of `Membership`. -/
def MembershipRow.key (row : MembershipRow) : String × String :=
  row.toMembership.key

/-- The `Membership` table of the app.  Its foreign keys lead to rows whose id
was drawn. -/
structure MembershipTable where
  table : Table MembershipRow.key
  idsGiven : ∀ row ∈ table.rows, row.userId ≠ "" ∧ row.tenantId ≠ ""

namespace MembershipTable

variable (db : MembershipTable)

/-- `membership.findUnique` by user and tenant. -/
def findUnique (userId tenantId : String) : Option MembershipRow :=
  db.table.find? (userId, tenantId)

/-- `membership.findFirst` by user, the oldest one. -/
def findFirst (userId : String) : Option MembershipRow :=
  (db.table.rows.filter fun row => row.userId = userId).argmin
    MembershipRow.createdAt

/-- `membership.create`, refused by a foreign key or a unique column. -/
def create (row : MembershipRow) : Option MembershipTable :=
  if given : row.userId ≠ "" ∧ row.tenantId ≠ "" then
    if (db.table.find? row.key).isSome then
      none
    else
      some
        { table := db.table.put row
          idsGiven := by
            intro other present
            rcases (db.table.mem_put_iff row other).mp present with
              rfl | ⟨stored, _⟩
            · exact given
            · exact db.idsGiven other stored }
  else
    none

/-- `membership.update` of the role, refused if there is no such row. -/
def setRole (userId tenantId : String) (role : LocalRole) :
    Option MembershipTable :=
  match found : db.findUnique userId tenantId with
  | none => none
  | some row =>
      some
        { table := db.table.put
            { row with role := role }
          idsGiven := by
            intro other present
            rcases (db.table.mem_put_iff _ other).mp present with
              rfl | ⟨stored, _⟩
            · exact db.idsGiven row (db.table.mem_of_find? found)
            · exact db.idsGiven other stored }

/-- `membership.delete`, refused if there is no such row. -/
def delete (userId tenantId : String) : Option MembershipTable :=
  if (db.findUnique userId tenantId).isSome then
    some
      { table := db.table.erase (userId, tenantId)
        idsGiven := by
          intro other present
          exact db.idsGiven other (List.mem_filter.mp present).1 }
  else
    none

/-- A user has a role in a tenant. -/
def Has (userId tenantId : String) (role : LocalRole) : Prop :=
  ∃ row, db.findUnique userId tenantId = some row ∧ row.role = role

end MembershipTable

/-! ## The callbacks -/

/-- The claims of a session token. -/
structure SessionToken where
  uid : Option String
  tenantId : Option String
  role : Option LocalRole
  roleCheckedAt : Option Nat
  deriving DecidableEq

/-- The token that a sign-in begins with. -/
def SessionToken.blank : SessionToken := ⟨none, none, none, none⟩

/-- What `authorize` answers. -/
structure AuthorizedUser where
  id : String
  /-- The workspace that was authenticated against, in platform mode. -/
  tenantId : Option String

/-- The membership that a sign-in binds the session to. -/
def signInMembership (db : MembershipTable) (user : AuthorizedUser) :
    Option MembershipRow :=
  match given user.tenantId with
  | some authenticatedTenantId => db.findUnique user.id authenticatedTenantId
  | none => db.findFirst user.id

/-- A token with what was read of the membership. -/
def SessionToken.bind (token : SessionToken) (now : Nat)
    (membership : Option MembershipRow) : SessionToken where
  uid := token.uid
  tenantId := membership.map fun row => row.tenantId
  role := membership.map fun row => row.role
  roleCheckedAt := some now

/-- The `jwt` callback, with a user at a sign-in. -/
def jwt (now : Nat) (db : MembershipTable) (token : SessionToken)
    (user : Option AuthorizedUser) : SessionToken :=
  match user.filter fun user => user.id ≠ "" with
  | some user =>
      { token with uid := some user.id }.bind now (signInMembership db user)
  | none =>
      match given token.uid, given token.tenantId with
      | some uid, some tenantId =>
          if now - token.roleCheckedAt.getD 0 > roleRefreshMs then
            token.bind now (db.findUnique uid tenantId)
          else
            token
      | _, _ => token

/-- The user of a session. -/
structure SessionUser where
  id : String
  tenantId : Option String
  role : Option LocalRole
  deriving DecidableEq

/-- The `session` callback. -/
def session (token : SessionToken) : SessionUser where
  id := token.uid.getD ""
  tenantId := token.tenantId
  role := token.role

/-! ## Runs -/

/-- The memberships over time, the clock, and the tokens that the callback has
returned. -/
structure SessionStore where
  memberships : Timeline MembershipTable
  clock : Nat
  tokens : List SessionToken

/-- What happens to the memberships, or is asked of the callback. -/
inductive SessionEvent
  | create (row : MembershipRow)
  | setRole (userId tenantId : String) (role : LocalRole)
  | delete (userId tenantId : String)
  | signIn (user : AuthorizedUser)
  /-- A token that was returned is presented, be it the latest or not. -/
  | present (index : Nat)

namespace SessionStore

/-- No token was returned yet. -/
def start (db : MembershipTable) : SessionStore := ⟨.always db, 0, []⟩

variable (store : SessionStore)

/-- The memberships now. -/
abbrev db : MembershipTable := store.memberships.current

/-- The memberships change. -/
def write (now : Nat) (after : MembershipTable) : SessionStore :=
  { store with memberships := store.memberships.change now after, clock := now }

/-- The callback returns a token. -/
def answer (now : Nat) (token : SessionToken) : SessionStore :=
  { store with clock := now, tokens := store.tokens ++ [token] }

/-- One event, at a time that is not before the last one. -/
def step : Nat × SessionEvent → Option SessionStore
  | (now, event) =>
      if now < store.clock then
        none
      else
        match event with
        | .create row => (store.db.create row).map (store.write now)
        | .setRole userId tenantId role =>
            (store.db.setRole userId tenantId role).map (store.write now)
        | .delete userId tenantId =>
            (store.db.delete userId tenantId).map (store.write now)
        | .signIn user =>
            some (store.answer now (jwt now store.db .blank (some user)))
        | .present index =>
            store.tokens[index]?.map fun token =>
              store.answer now (jwt now store.db token none)

end SessionStore

/-- A session carries neither a tenant nor a role, or both, and its user had
this role in the tenant at an instant within the last `roleRefreshMs`. -/
def SessionUser.WithinBound (line : Timeline MembershipTable) (now : Nat)
    (user : SessionUser) : Prop :=
  (user.tenantId = none ∧ user.role = none) ∨
    ∃ tenantId role instant,
      user.tenantId = some tenantId ∧ user.role = some role ∧
        now ≤ instant + roleRefreshMs ∧ instant ≤ now ∧
        line.Held (fun db => db.Has user.id tenantId role) instant

/-- The tokens that the callback returns, at any times and whatever the
memberships are, when a token and what it returned for it are presented. -/
inductive SessionToken.Yields (token : SessionToken) : SessionToken → Prop
  | itself : Yields token token
  | presented {copy : SessionToken} (now : Nat) (db : MembershipTable) :
      Yields token copy → Yields token (jwt now db copy none)

/-! ## What a token was read from -/

section Tokens

variable {store : SessionStore} {now : Nat} {db : MembershipTable}

/-- A token carries neither a tenant nor a role, or what its user had when the
role was checked. -/
def SessionToken.Backed (line : Timeline MembershipTable) (now : Nat)
    (token : SessionToken) : Prop :=
  (token.tenantId = none ∧ token.role = none) ∨
    ∃ userId tenantId role checkedAt,
      token = ⟨some userId, some tenantId, some role, some checkedAt⟩ ∧
        userId ≠ "" ∧ tenantId ≠ "" ∧ checkedAt ≤ now ∧
        line.Held (fun db => db.Has userId tenantId role) checkedAt

/-- The membership of a sign-in is a stored one of the user. -/
theorem of_signInMembership
    {user : AuthorizedUser}
    {row : MembershipRow}
    (bound : signInMembership db user = some row) :
    row.userId = user.id ∧ row ∈ db.table.rows := by
  unfold signInMembership at bound
  split at bound
  · have isKey := db.table.key_of_find? bound
    exact ⟨congrArg Prod.fst isKey, db.table.mem_of_find? bound⟩
  · have present := List.argmin_mem bound
    obtain ⟨stored, isUser⟩ := List.mem_filter.mp present
    exact ⟨of_decide_eq_true isUser, stored⟩

/-- A token is bound to a membership that is stored now. -/
theorem SessionToken.backed_bind
    {line : Timeline MembershipTable}
    {token : SessionToken}
    {userId : String}
    {membership : Option MembershipRow}
    (since : line.since ≤ now)
    (isUser : token.uid = some userId)
    (stored : ∀ row, membership = some row →
      row.userId = userId ∧ row ∈ line.current.table.rows) :
    (token.bind now membership).Backed line now := by
  cases membership with
  | none => exact Or.inl ⟨rfl, rfl⟩
  | some row =>
      obtain ⟨ofUser, present⟩ := stored row rfl
      obtain ⟨userGiven, tenantGiven⟩ := line.current.idsGiven row present
      have isStored : line.current.findUnique userId row.tenantId = some row := by
        rw [← ofUser]
        exact line.current.table.find?_of_mem present
      right
      refine ⟨userId, row.tenantId, row.role, now, ?_, ofUser ▸ userGiven,
        tenantGiven, le_rfl, ?_⟩
      · simp [SessionToken.bind, isUser]
      · exact Timeline.held_now since ⟨row, isStored, rfl⟩

/-- What backs a token stays so as time goes on. -/
theorem SessionToken.Backed.later
    {line : Timeline MembershipTable}
    {token : SessionToken}
    {later : Nat}
    (backed : token.Backed line now)
    (noEarlier : now ≤ later) :
    token.Backed line later := by
  rcases backed with unscoped | ⟨userId, tenantId, role, checkedAt, isToken,
    userGiven, tenantGiven, checked, held⟩
  · exact Or.inl unscoped
  · exact Or.inr ⟨userId, tenantId, role, checkedAt, isToken, userGiven,
      tenantGiven, checked.trans noEarlier, held⟩

/-- What backs a token stays so when memberships change. -/
theorem SessionToken.Backed.change
    {line : Timeline MembershipTable}
    {token : SessionToken}
    (backed : token.Backed line now)
    (after : MembershipTable) :
    token.Backed (line.change now after) now := by
  rcases backed with unscoped | ⟨userId, tenantId, role, checkedAt, isToken,
    userGiven, tenantGiven, checked, held⟩
  · exact Or.inl unscoped
  · exact Or.inr ⟨userId, tenantId, role, checkedAt, isToken, userGiven,
      tenantGiven, checked, held.change checked after⟩

/-- The callback binds a token at a sign-in to what is stored. -/
theorem backed_signIn
    {line : Timeline MembershipTable}
    (since : line.since ≤ now)
    (user : AuthorizedUser) :
    (jwt now line.current .blank (some user)).Backed line now ∧
      ((jwt now line.current .blank (some user)).tenantId ≠ none →
        now ≤ (jwt now line.current .blank (some user)).roleCheckedAt.getD 0 +
          roleRefreshMs) := by
  unfold jwt
  split
  · constructor
    · exact SessionToken.backed_bind since rfl
        fun row bound => of_signInMembership bound
    · intro _
      exact Nat.le_add_right now roleRefreshMs
  · exact ⟨Or.inl ⟨rfl, rfl⟩, absurd rfl⟩

/-- The callback answers a token that is backed with one whose membership was
read within the refresh bound. -/
theorem backed_present
    {line : Timeline MembershipTable}
    {token : SessionToken}
    (since : line.since ≤ now)
    (backed : token.Backed line now) :
    (jwt now line.current token none).Backed line now ∧
      ((jwt now line.current token none).tenantId ≠ none →
        now ≤ (jwt now line.current token none).roleCheckedAt.getD 0 +
          roleRefreshMs) := by
  rcases backed with ⟨noTenant, noRole⟩ | ⟨userId, tenantId, role, checkedAt,
    rfl, userGiven, tenantGiven, checked, held⟩
  · have unchanged : jwt now line.current token none = token := by
      simp [jwt, noTenant, given]
    rw [unchanged]
    exact ⟨Or.inl ⟨noTenant, noRole⟩, absurd noTenant⟩
  · simp only [jwt, Option.filter_none, given_some userGiven,
      given_some tenantGiven, Option.getD_some]
    split
    · constructor
      · apply SessionToken.backed_bind since rfl
        intro row found
        have isKey := line.current.table.key_of_find? found
        exact ⟨congrArg Prod.fst isKey, line.current.table.mem_of_find? found⟩
      · intro _
        exact Nat.le_add_right now roleRefreshMs
    · rename_i recent
      constructor
      · exact Or.inr ⟨userId, tenantId, role, checkedAt, rfl, userGiven,
          tenantGiven, checked, held⟩
      · intro _
        simp only [Option.getD_some]
        omega

/-- What the session carries was read within the refresh bound. -/
theorem SessionToken.Backed.withinBound
    {line : Timeline MembershipTable}
    {token : SessionToken}
    (backed : token.Backed line now)
    (recent : token.tenantId ≠ none →
      now ≤ token.roleCheckedAt.getD 0 + roleRefreshMs) :
    (session token).WithinBound line now := by
  rcases backed with unscoped | ⟨userId, tenantId, role, checkedAt, rfl,
    userGiven, tenantGiven, checked, held⟩
  · exact Or.inl unscoped
  · exact Or.inr ⟨tenantId, role, checkedAt, rfl, rfl, recent (by simp),
      checked, held⟩

/-- A token without a scope is returned as it is. -/
theorem SessionToken.Yields.of_unscoped
    {token copy : SessionToken}
    (yields : token.Yields copy)
    (unscoped : token.tenantId = none) :
    copy = token := by
  induction yields with
  | itself => rfl
  | presented now db _ inductionHypothesis =>
      rw [inductionHypothesis]
      simp [jwt, unscoped, given]

end Tokens

/-! ## Runs -/

/-- The clock has reached the last change, and the tokens are backed. -/
structure SessionStore.Sound (store : SessionStore) : Prop where
  since : store.memberships.since ≤ store.clock
  backed : ∀ token ∈ store.tokens, token.Backed store.memberships store.clock

namespace SessionStore

variable {store : SessionStore} {now : Nat}

theorem Sound.write
    (sound : store.Sound)
    (later : store.clock ≤ now)
    (after : MembershipTable) :
    (store.write now after).Sound where
  since := le_rfl
  backed token returned :=
    ((sound.backed token returned).later later).change after

theorem Sound.answer
    {token : SessionToken}
    (sound : store.Sound)
    (later : store.clock ≤ now)
    (backed : token.Backed store.memberships now) :
    (store.answer now token).Sound where
  since := sound.since.trans later
  backed := by
    intro other returned
    rcases List.mem_append.mp returned with before | isNew
    · exact (sound.backed other before).later later
    · rw [List.mem_singleton.mp isNew]
      exact backed

/-- One event keeps the tokens backed. -/
theorem Sound.step
    {event : Nat × SessionEvent}
    {after : SessionStore}
    (sound : store.Sound)
    (stepped : store.step event = some after) :
    after.Sound := by
  obtain ⟨now, event⟩ := event
  simp only [SessionStore.step] at stepped
  split at stepped
  · contradiction
  rename_i noEarlier
  have later : store.clock ≤ now := Nat.le_of_not_lt noEarlier
  have since := sound.since.trans later
  cases event with
  | create row =>
      obtain ⟨written, _, rfl⟩ := Option.map_eq_some_iff.mp stepped
      exact sound.write later written
  | setRole userId tenantId role =>
      obtain ⟨written, _, rfl⟩ := Option.map_eq_some_iff.mp stepped
      exact sound.write later written
  | delete userId tenantId =>
      obtain ⟨written, _, rfl⟩ := Option.map_eq_some_iff.mp stepped
      exact sound.write later written
  | signIn user =>
      obtain rfl := Option.some.inj stepped
      exact sound.answer later (backed_signIn since user).1
  | present index =>
      obtain ⟨token, returned, rfl⟩ := Option.map_eq_some_iff.mp stepped
      have backed :=
        (sound.backed token (List.mem_of_getElem? returned)).later later
      exact sound.answer later (backed_present since backed).1

theorem sound_of_run
    {db : MembershipTable}
    {final : SessionStore}
    {events : List (Nat × SessionEvent)}
    (run : Run SessionStore.step (fun _ _ => True) (.start db) events final) :
    final.Sound := by
  apply run.invariant SessionStore.Sound
  · intro store event after sound _ stepped
    exact sound.step stepped
  · exact ⟨le_rfl, by simp [SessionStore.start]⟩

end SessionStore

/-- Whatever happens to the memberships and whichever copies of the tokens are
presented, the session of a returned token carries a tenant and a role only
within the refresh bound, and a token without a scope never regains one. -/
theorem sessions_withinBound
    {db : MembershipTable}
    {final : SessionStore}
    {events : List (Nat × SessionEvent)}
    {now : Nat}
    (run : Run SessionStore.step (fun _ _ => True) (.start db) events final)
    (later : final.clock ≤ now) :
    (∀ user, (session (jwt now final.db .blank (some user))).WithinBound
      final.memberships now) ∧
      (∀ token ∈ final.tokens,
        (session (jwt now final.db token none)).WithinBound
          final.memberships now) ∧
      ∀ token ∈ final.tokens, token.tenantId = none →
        ∀ copy, token.Yields copy → copy.tenantId = none ∧ copy.role = none := by
  have sound := SessionStore.sound_of_run run
  have since := sound.since.trans later
  refine ⟨?_, ?_, ?_⟩
  · intro user
    obtain ⟨backed, recent⟩ := backed_signIn since user
    exact backed.withinBound recent
  · intro token returned
    obtain ⟨backed, recent⟩ :=
      backed_present since ((sound.backed token returned).later later)
    exact backed.withinBound recent
  · intro token returned unscoped copy yields
    rw [yields.of_unscoped unscoped]
    rcases sound.backed token returned with noScope | ⟨_, _, _, _, rfl, _⟩
    · exact noScope
    · cases unscoped

/-- The table without memberships. -/
def noMemberships : MembershipTable := ⟨.empty, by simp [Table.empty]⟩

/-- An admin signs in, is demoted and then removed, and presents the token of
the sign-in and a later one. -/
def laterDemotion : List (Nat × SessionEvent) :=
  [(0, .create ⟨⟨"u1", "t1", .admin⟩, 0⟩), (5, .signIn ⟨"u1", some "t1"⟩),
    (10, .setRole "u1" "t1" .member), (20, .present 0), (90000, .present 0),
    (90001, .delete "u1" "t1"), (150000, .present 2), (150001, .present 2)]

theorem sessions_withinBound_demotion :
    ∃ final, Run SessionStore.step (fun _ _ => True) (.start noMemberships)
        laterDemotion final ∧
      final.tokens.map SessionToken.role =
        [some .admin, some .admin, some .member, some .member, none] ∧
      ∀ token ∈ final.tokens,
        (session (jwt 150001 final.db token none)).WithinBound
          final.memberships 150001 := by
  obtain ⟨final, run, ends⟩ := Run.exists_of_execute SessionStore.step
    (fun _ _ => true) (fun _ _ _ => trivial) (.start noMemberships) laterDemotion
    (fun store => decide (store.clock ≤ 150001 ∧
      store.tokens.map SessionToken.role =
        [some .admin, some .admin, some .member, some .member, none]))
    (by decide +kernel)
  obtain ⟨later, roles⟩ := of_decide_eq_true ends
  exact ⟨final, run, roles, (sessions_withinBound run later).2.1⟩

end Auth
end EvoPlatform
