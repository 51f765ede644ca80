import EvoPlatform.Auth.Invites
import EvoPlatform.Auth.TenantAdmins

/-!
# Invites are single

Calls on invites in any order.  A record beside them notes which hashes the
table has lost and which invites were accepted.  An address has one open invite
while no `create` overtakes another one, and no replaced token is accepted
while no token is rotated between the read and the write of an `accept`.
-/

namespace EvoPlatform
namespace Auth

/-- An invite that was accepted. -/
structure AcceptedInvite where
  tenantId : String
  email : String
  /-- The table had lost the hash of the presented token before. -/
  replaced : Bool
  deriving DecidableEq

/-- What is noted about the invites while calls run. -/
structure InviteRecord where
  /-- The hashes that a `create`, a `resend` or a `revoke` has taken from the
  table. -/
  replaced : List String
  accepted : List AcceptedInvite

namespace InviteRecord

/-- Nothing has happened yet. -/
def start : InviteRecord := ⟨[], []⟩

end InviteRecord

/-- The hashes in the table. -/
def InviteDb.hashes (db : InviteDb) : List String :=
  db.invites.rows.map Invite.tokenHash

/-- The invite that a statement has accepted. -/
def InvitePhase.accepts : InvitePhase → InvitePhase → Option Acceptance
  | .acceptTransaction acceptance _ _, .recordAccepted _ _ => some acceptance
  | _, _ => none

/-- What is noted of a statement. -/
def InviteRecord.observe (env : AdminEnv) (record : InviteRecord) (_ : Nat)
    (input : Nat × InviteFresh) (db : InviteDb) (phase : InvitePhase) :
    InviteRecord :=
  let stepped := phase.step env input.1 input.2 db
  { replaced := record.replaced ++
      db.hashes.filter fun hash => hash ∉ stepped.1.hashes
    accepted := record.accepted ++
      (phase.accepts stepped.2).toList.map fun acceptance =>
        ⟨acceptance.invite.tenantId, acceptance.invite.email,
          env.sha256 acceptance.dto.token ∈ record.replaced⟩ }

/-- The calls on invites with the record beside them. -/
def watchedInvites (env : AdminEnv) :
    Pool InviteDb InvitePhase × InviteRecord →
      PoolEvent InviteRequest (Nat × InviteFresh) →
        Option (Pool InviteDb InvitePhase × InviteRecord) :=
  (inviteCalls env).watch (InviteRecord.observe env)

/-- What the next statement of a call must find: a `create` no open invite for
its address, an `accept` the presented hash in its invite.  A drawn token is not
one that was replaced. -/
def InvitePhase.Finds (env : AdminEnv) (fresh : InviteFresh) (db : InviteDb)
    (replaced : List String) : InvitePhase → Prop
  | .createInvite draft _ =>
      (∀ invite ∈ db.invites.rows,
        invite.isOpenFor draft.caller.tenantId draft.email = false) ∧
      env.sha256 fresh.rawInvite ∉ replaced
  | .rotateToken _ _ => env.sha256 fresh.rawInvite ∉ replaced
  | .acceptTransaction acceptance _ _ =>
      ∀ stored ∈ db.invites.find? acceptance.invite.id,
        stored.tokenHash = env.sha256 acceptance.dto.token
  | _ => True

instance (env : AdminEnv) (fresh : InviteFresh) (db : InviteDb)
    (replaced : List String) :
    (phase : InvitePhase) → Decidable (phase.Finds env fresh db replaced)
  | .createInvite draft _ => inferInstanceAs (Decidable
      ((∀ invite ∈ db.invites.rows,
        invite.isOpenFor draft.caller.tenantId draft.email = false) ∧ _))
  | .rotateToken _ _ => inferInstanceAs (Decidable (_ ∉ replaced))
  | .acceptTransaction acceptance _ _ => inferInstanceAs (Decidable
      (∀ stored ∈ db.invites.find? acceptance.invite.id, _ = _))
  | .findMember .. | .findRoles .. | .findEnabled .. | .deleteOpen ..
  | .findResent .. | .findRevoked .. | .deleteInvite .. | .sendInvite ..
  | .recordInvite .. | .findByToken .. | .findAccount .. | .findGranted ..
  | .findStillEnabled .. | .hashPassword .. | .recordAccepted .. | .done _ =>
      isTrue trivial

/-- Every statement finds what it must. -/
def Unovertaken (env : AdminEnv)
    (state : Pool InviteDb InvitePhase × InviteRecord) :
    PoolEvent InviteRequest (Nat × InviteFresh) → Prop
  | .advance index input => ∀ phase ∈ state.1.calls[index]?,
      phase.Finds env input.2 state.1.data state.2.replaced
  | _ => True

instance (env : AdminEnv) (state : Pool InviteDb InvitePhase × InviteRecord) :
    (event : PoolEvent InviteRequest (Nat × InviteFresh)) →
      Decidable (Unovertaken env state event)
  | .advance index input => inferInstanceAs (Decidable
      (∀ phase ∈ state.1.calls[index]?,
        phase.Finds env input.2 state.1.data state.2.replaced))
  | .start _ => isTrue trivial
  | .abandon _ => isTrue trivial

/-! ## Statements -/

namespace InviteDb

variable {db after : InviteDb}

/-- An address has at most one open invite to a workspace. -/
def SingleOpen (db : InviteDb) : Prop :=
  ∀ left ∈ db.invites.rows, ∀ right ∈ db.invites.rows,
    left.isOpen = true → right.isOpen = true →
      left.tenantId = right.tenantId → left.email = right.email → left = right

/-- No invite has a hash that was replaced. -/
def Unreplaced (db : InviteDb) (replaced : List String) : Prop :=
  ∀ invite ∈ db.invites.rows, invite.tokenHash ∉ replaced

theorem SingleOpen.of_subset
    (single : db.SingleOpen)
    (kept : ∀ invite ∈ after.invites.rows, invite ∈ db.invites.rows) :
    after.SingleOpen :=
  fun left leftPresent right rightPresent =>
    single left (kept left leftPresent) right (kept right rightPresent)

/-- An invite is added for an address that has none. -/
theorem SingleOpen.of_created
    {invite : Invite}
    (single : db.SingleOpen)
    (free : ∀ other ∈ db.invites.rows,
      other.isOpenFor invite.tenantId invite.email = false)
    (rows : ∀ row, row ∈ after.invites.rows ↔
      row = invite ∨ row ∈ db.invites.rows) :
    after.SingleOpen := by
  have apart : ∀ other ∈ db.invites.rows, other.isOpen = true →
      other.tenantId = invite.tenantId → other.email = invite.email →
        False := by
    intro other present isOpen sameTenant sameEmail
    have unheld := free other present
    simp [Invite.isOpenFor, isOpen, sameTenant, sameEmail] at unheld
  intro left leftPresent right rightPresent leftOpen rightOpen sameTenant
    sameEmail
  rcases (rows left).mp leftPresent with rfl | leftOld
  · rcases (rows right).mp rightPresent with rfl | rightOld
    · rfl
    · exact (apart right rightOld rightOpen sameTenant.symm
        sameEmail.symm).elim
  · rcases (rows right).mp rightPresent with rfl | rightOld
    · exact (apart left leftOld leftOpen sameTenant sameEmail).elim
    · exact single left leftOld right rightOld leftOpen rightOpen sameTenant
        sameEmail

/-- An invite is written, and is no more open than it was. -/
theorem SingleOpen.of_updated
    {id : String}
    {stored : Invite}
    (change : Invite → Invite)
    (single : db.SingleOpen)
    (keeps : ∀ invite, (change invite).tenantId = invite.tenantId ∧
      (change invite).email = invite.email ∧
      ((change invite).isOpen = true → invite.isOpen = true))
    (found : db.invites.find? id = some stored)
    (rows : ∀ row, row ∈ after.invites.rows ↔
      row = change stored ∨ (row ∈ db.invites.rows ∧ row.id ≠ id)) :
    after.SingleOpen := by
  obtain ⟨keepsTenant, keepsEmail, opens⟩ := keeps stored
  have apart : ∀ other ∈ db.invites.rows, other.id ≠ id →
      (change stored).isOpen = true → other.isOpen = true →
        stored.tenantId = other.tenantId → stored.email = other.email →
          False := by
    intro other present different isOpen otherOpen sameTenant sameEmail
    have same := single stored (db.invites.mem_of_find? found) other present
      (opens isOpen) otherOpen sameTenant sameEmail
    exact different (same ▸ db.invites.key_of_find? found)
  intro left leftPresent right rightPresent leftOpen rightOpen sameTenant
    sameEmail
  rcases (rows left).mp leftPresent with rfl | ⟨leftOld, leftApart⟩
  · rcases (rows right).mp rightPresent with rfl | ⟨rightOld, rightApart⟩
    · rfl
    · rw [keepsTenant] at sameTenant
      rw [keepsEmail] at sameEmail
      exact (apart right rightOld rightApart leftOpen rightOpen sameTenant
        sameEmail).elim
  · rcases (rows right).mp rightPresent with rfl | ⟨rightOld, rightApart⟩
    · rw [keepsTenant] at sameTenant
      rw [keepsEmail] at sameEmail
      exact (apart left leftOld leftApart rightOpen leftOpen sameTenant.symm
        sameEmail.symm).elim
    · exact single left leftOld right rightOld leftOpen rightOpen sameTenant
        sameEmail

end InviteDb

namespace InvitePhase.Effect

variable {env : AdminEnv} {now : Nat} {fresh : InviteFresh}
  {db after : InviteDb} {phase : InvitePhase} {replaced : List String}

/-- A statement that finds what it must leaves an address with one open
invite. -/
theorem singleOpen
    (effect : Effect env now fresh db phase after)
    (finds : phase.Finds env fresh db replaced)
    (single : db.SingleOpen) :
    after.SingleOpen := by
  cases effect with
  | none sameInvites _ =>
      apply single.of_subset
      intro invite present
      rwa [sameInvites] at present
  | deletedOpen draft roleIds =>
      apply single.of_subset
      intro invite present
      exact (InviteDb.mem_eraseInvites_iff.mp present).1
  | created draft roleIds created =>
      obtain ⟨_, rows⟩ := InviteDb.of_createInvite created
      exact single.of_created finds.1 rows
  | rotated caller invite updated =>
      obtain ⟨_, stored, found, rows⟩ :=
        InviteDb.of_updateInvite updated fun _ => rfl
      refine .of_updated (Invite.rotate _ now) single ?_ found rows
      exact fun _ => ⟨rfl, rfl, id⟩
  | deleted caller invite deleted =>
      obtain ⟨_, _, rows⟩ := InviteDb.of_deleteInvite deleted
      exact single.of_subset fun invite present => ((rows invite).mp present).1
  | @accepted acceptance roles passwordHash accounts accepted _ updated =>
      obtain ⟨_, stored, found, rows⟩ :=
        InviteDb.of_updateInvite updated fun _ => rfl
      have acceptedSingle : accepted.SingleOpen := by
        refine .of_updated (Invite.accept now) single ?_ found rows
        intro invite
        exact ⟨rfl, rfl, fun isOpen => by contradiction⟩
      exact acceptedSingle

/-- A statement that draws a new token puts no replaced hash into the table. -/
theorem unreplaced
    (effect : Effect env now fresh db phase after)
    (finds : phase.Finds env fresh db replaced)
    (before : db.Unreplaced replaced) :
    after.Unreplaced replaced := by
  cases effect with
  | none sameInvites _ =>
      intro invite present
      rw [sameInvites] at present
      exact before invite present
  | deletedOpen draft roleIds =>
      intro invite present
      exact before invite (InviteDb.mem_eraseInvites_iff.mp present).1
  | created draft roleIds created =>
      obtain ⟨_, rows⟩ := InviteDb.of_createInvite created
      intro invite present
      rcases (rows invite).mp present with rfl | old
      · exact finds.2
      · exact before invite old
  | rotated caller invite updated =>
      obtain ⟨_, stored, _, rows⟩ :=
        InviteDb.of_updateInvite updated fun _ => rfl
      intro row present
      rcases (rows row).mp present with rfl | ⟨old, _⟩
      · exact finds
      · exact before row old
  | deleted caller invite deleted =>
      obtain ⟨_, _, rows⟩ := InviteDb.of_deleteInvite deleted
      exact fun invite present => before invite ((rows invite).mp present).1
  | @accepted acceptance roles passwordHash accounts accepted _ updated =>
      obtain ⟨_, stored, found, rows⟩ :=
        InviteDb.of_updateInvite updated fun _ => rfl
      intro row present
      rcases (rows row).mp present with rfl | ⟨old, _⟩
      · exact before stored (db.invites.mem_of_find? found)
      · exact before row old

/-- No statement deletes a user. -/
theorem users
    (effect : Effect env now fresh db phase after)
    {user : User}
    (present : user ∈ db.auth.accounts.users.rows) :
    user ∈ after.auth.accounts.users.rows := by
  have untouched : ∀ {other : InviteDb}, other.auth = db.auth →
      user ∈ other.auth.accounts.users.rows := by
    intro other sameAuth
    rwa [sameAuth]
  cases effect with
  | none _ sameAccounts => rwa [sameAccounts]
  | deletedOpen draft roleIds => exact untouched rfl
  | created draft roleIds created =>
      exact untouched (InviteDb.of_createInvite created).1
  | rotated caller invite updated =>
      exact untouched (InviteDb.of_updateInvite updated fun _ => rfl).1
  | deleted caller invite deleted =>
      exact untouched (InviteDb.of_deleteInvite deleted).1
  | accepted acceptance roles passwordHash created _ =>
      obtain ⟨isNew, _, found⟩ := Accounts.users_of_createUser created
      have stored := db.auth.accounts.users.find?_of_mem present
      apply Table.mem_of_find?
      exact (found user.id).trans (by
        rw [if_neg, stored]
        intro same
        rw [same, isNew] at stored
        contradiction)

end InvitePhase.Effect

/-- An invite is accepted with the account that it creates. -/
theorem InvitePhase.of_accepts
    {env : AdminEnv} {now : Nat} {fresh : InviteFresh} {db : InviteDb}
    {phase : InvitePhase} {acceptance : Acceptance}
    (accepts : phase.accepts (phase.step env now fresh db).2 =
      some acceptance) :
    ∃ roles passwordHash accounts stored,
      phase = .acceptTransaction acceptance roles passwordHash ∧
      db.auth.accounts.createUser
        (acceptance.user env now fresh roles passwordHash) = some accounts ∧
      db.invites.find? acceptance.invite.id = some stored ∧
      (phase.step env now fresh db).1.auth.accounts = accounts := by
  cases phase with
  | acceptTransaction other roles passwordHash =>
      simp only [InvitePhase.step] at accepts ⊢
      split at accepts
      · contradiction
      · rename_i accounts created
        split at accepts
        · contradiction
        · rename_i accepted updated
          obtain rfl := Option.some.inj accepts
          obtain ⟨_, stored, found, _⟩ :=
            InviteDb.of_updateInvite updated fun _ => rfl
          exact ⟨roles, passwordHash, accounts, stored, rfl, created, found,
            rfl⟩
  | _ => contradiction

/-! ## Runs -/

/-- An address has one open invite, no replaced hash is in the table or was
accepted, and every accepted invite has created an account of its own. -/
structure InviteRecord.Sound (db : InviteDb) (record : InviteRecord) : Prop where
  single : db.SingleOpen
  unreplaced : db.Unreplaced record.replaced
  current : ∀ accepted ∈ record.accepted, accepted.replaced = false
  apart : (record.accepted.map fun accepted =>
    (accepted.tenantId, accepted.email)).Nodup
  account : ∀ accepted ∈ record.accepted,
    ∃ user ∈ db.auth.accounts.users.rows,
      user.address = some (some accepted.tenantId, accepted.email)

theorem sound_step
    {env : AdminEnv} {now : Nat} {fresh : InviteFresh} {db : InviteDb}
    {phase : InvitePhase} {record : InviteRecord}
    (index : Nat)
    (sound : record.Sound db)
    (finds : phase.Finds env fresh db record.replaced) :
    (record.observe env index (now, fresh) db phase).Sound
      (phase.step env now fresh db).1 := by
  have effect := effect_step env now fresh db phase
  have unreplaced : (phase.step env now fresh db).1.Unreplaced
      (record.observe env index (now, fresh) db phase).replaced := by
    intro invite present
    simp only [InviteRecord.observe, List.mem_append, List.mem_filter,
      decide_eq_true_eq, not_or, not_and, not_not]
    refine ⟨effect.unreplaced finds sound.unreplaced invite present, ?_⟩
    intro _
    exact List.mem_map.mpr ⟨invite, present, rfl⟩
  have keeps : ∀ accepted ∈ record.accepted,
      ∃ user ∈ (phase.step env now fresh db).1.auth.accounts.users.rows,
        user.address = some (some accepted.tenantId, accepted.email) := by
    intro accepted isAccepted
    obtain ⟨user, present, isAddress⟩ := sound.account accepted isAccepted
    exact ⟨user, effect.users present, isAddress⟩
  refine ⟨effect.singleOpen finds sound.single, unreplaced, ?_, ?_, ?_⟩ <;>
    simp only [InviteRecord.observe] <;>
    cases accepts : phase.accepts (phase.step env now fresh db).2
  · simpa using sound.current
  · rename_i acceptance
    obtain ⟨roles, passwordHash, accounts, stored, rfl, _, found, _⟩ :=
      InvitePhase.of_accepts accepts
    intro accepted isAccepted
    rcases List.mem_append.mp isAccepted with before | isNew
    · exact sound.current accepted before
    · simp only [Option.toList_some, List.map_cons, List.map_nil,
        List.mem_singleton] at isNew
      subst isNew
      simp only [decide_eq_false_iff_not]
      rw [← finds stored found]
      exact sound.unreplaced stored (db.invites.mem_of_find? found)
  · simpa using sound.apart
  · rename_i acceptance
    obtain ⟨roles, passwordHash, accounts, stored, rfl, created, _, _⟩ :=
      InvitePhase.of_accepts accepts
    simp only [Option.toList_some, List.map_cons, List.map_nil,
      List.map_append]
    refine List.nodup_append.mpr ⟨sound.apart, List.nodup_singleton _, ?_⟩
    intro address before other isNew same
    obtain ⟨accepted, isAccepted, rfl⟩ := List.mem_map.mp before
    rw [List.mem_singleton.mp isNew] at same
    obtain ⟨user, present, isAddress⟩ := sound.account accepted isAccepted
    apply Accounts.address_of_createUser created present
    rw [isAddress]
    simp only [Prod.mk.injEq] at same
    simp [User.address, Acceptance.user, same]
  · simpa using keeps
  · rename_i acceptance
    obtain ⟨roles, passwordHash, accounts, stored, rfl, created, _, isAfter⟩ :=
      InvitePhase.of_accepts accepts
    intro accepted isAccepted
    rcases List.mem_append.mp isAccepted with before | isNew
    · exact keeps accepted before
    · simp only [Option.toList_some, List.map_cons, List.map_nil,
        List.mem_singleton] at isNew
      subst isNew
      obtain ⟨_, _, stored⟩ := Accounts.users_of_createUser created
      rw [isAfter]
      refine ⟨_, Table.mem_of_find? _ ((stored _).trans (if_pos rfl)), rfl⟩

/-- Open, and not expired. -/
def Invite.isLive (now : Nat) (invite : Invite) : Bool :=
  invite.isOpen && !(invite.expiresAt < now)

/-- From any database in which an address has at most one open invite, and in
every interleaving of calls whose statements find what they must: an address has
at most one live invite to a workspace in every state, no replaced token is
accepted, and no address gets a second account. -/
theorem invites_single
    (env : AdminEnv)
    {db : InviteDb}
    {events : List (PoolEvent InviteRequest (Nat × InviteFresh))}
    {final : Pool InviteDb InvitePhase × InviteRecord}
    (single : db.SingleOpen)
    (run : Run (watchedInvites env) (Unovertaken env)
      (⟨db, []⟩, InviteRecord.start) events final) :
    (∀ now, ∀ left ∈ final.1.data.invites.rows,
      ∀ right ∈ final.1.data.invites.rows,
        left.isLive now = true → right.isLive now = true →
          left.tenantId = right.tenantId → left.email = right.email →
            left = right) ∧
      (∀ accepted ∈ final.2.accepted, accepted.replaced = false) ∧
      (final.2.accepted.map fun accepted =>
        (accepted.tenantId, accepted.email)).Nodup := by
  have holds : Program.Holds (fun db record => record.Sound db)
      (fun _ _ _ _ => True) final := by
    apply Program.always _ _ _ run
    · refine ⟨⟨single, ?_, ?_, List.nodup_nil, ?_⟩, fun _ _ _ => trivial⟩
      · intro invite _ absent
        contradiction
      · intro accepted absent
        contradiction
      · intro accepted absent
        contradiction
    · intro pool record request _ _
      trivial
    · intro pool record index input phase holds finds present
      exact ⟨sound_step index holds.ofData (finds phase present), trivial,
        fun _ _ _ _ => trivial⟩
    · intro db record index phase _ _
      trivial
  refine ⟨?_, holds.ofData.current, holds.ofData.apart⟩
  intro now left leftPresent right rightPresent leftLive rightLive
  simp only [Invite.isLive, Bool.and_eq_true] at leftLive rightLive
  exact holds.ofData.single left leftPresent right rightPresent leftLive.1
    rightLive.1

/-! ## An invite to one address -/

/-- No invite has been sent. -/
def uninvited : InviteDb :=
  ⟨twoTenantAdmins, .empty, InviteDb.tokenHashUnique_empty⟩

/-- Statements of a call, with what they draw. -/
def inviteStatements (index count : Nat) (draw : String) :
    List (PoolEvent InviteRequest (Nat × InviteFresh)) :=
  List.replicate count (.advance index (1000, ⟨⟨draw, "", ""⟩, draw⟩))

def inviteCaller : TenantCaller := ⟨"t1", "u1"⟩

def inviteDto : CreateInviteDto := ⟨"a@b.co", none, none⟩

/-- An invite is created, resent, and accepted with its second token. -/
theorem invites_single_resent :
    ∃ final, Run (watchedInvites demoEnv) (Unovertaken demoEnv)
        (⟨uninvited, []⟩, InviteRecord.start)
        (.start (.create inviteCaller inviteDto) ::
            inviteStatements 0 5 "i1" ++
          .start (.resend inviteCaller "i1") :: inviteStatements 1 4 "i2" ++
          .start (.accept ⟨none, none, none, "i2", "secret"⟩) ::
            inviteStatements 2 5 "u3") final ∧
      final.2.accepted = [⟨"t1", "a@b.co", false⟩] ∧
      ∀ accepted ∈ final.2.accepted, accepted.replaced = false := by
  obtain ⟨final, run, accepted⟩ := Run.exists_of_execute
    (watchedInvites demoEnv)
    (fun state event => decide (Unovertaken demoEnv state event))
    (fun _ _ passed => of_decide_eq_true passed)
    (⟨uninvited, []⟩, InviteRecord.start)
    (.start (.create inviteCaller inviteDto) :: inviteStatements 0 5 "i1" ++
      .start (.resend inviteCaller "i1") :: inviteStatements 1 4 "i2" ++
      .start (.accept ⟨none, none, none, "i2", "secret"⟩) ::
        inviteStatements 2 5 "u3")
    (fun state => state.2.accepted = [⟨"t1", "a@b.co", false⟩])
    (by decide +kernel)
  refine ⟨final, run, of_decide_eq_true accepted, ?_⟩
  refine (invites_single demoEnv ?_ run).2.1
  intro left absent
  contradiction

/-- Two calls create an invite at the same time, and both invites stay live. -/
theorem concurrentCreates_bothLive :
    ∃ final, Run (watchedInvites demoEnv) (fun _ _ => True)
        (⟨uninvited, []⟩, InviteRecord.start)
        (.start (.create inviteCaller inviteDto) ::
            .start (.create inviteCaller inviteDto) ::
          inviteStatements 0 2 "" ++ inviteStatements 1 2 "" ++
          inviteStatements 0 3 "i1" ++ inviteStatements 1 3 "i2") final ∧
      (final.1.data.invites.rows.map fun invite =>
        (invite.id, invite.tenantId, invite.email, invite.isLive 2000)) =
          [("i1", "t1", "a@b.co", true), ("i2", "t1", "a@b.co", true)] := by
  obtain ⟨final, run, live⟩ := Run.exists_of_execute
    (watchedInvites demoEnv) (fun _ _ => true) (fun _ _ _ => trivial)
    (⟨uninvited, []⟩, InviteRecord.start)
    (.start (.create inviteCaller inviteDto) ::
        .start (.create inviteCaller inviteDto) ::
      inviteStatements 0 2 "" ++ inviteStatements 1 2 "" ++
      inviteStatements 0 3 "i1" ++ inviteStatements 1 3 "i2")
    (fun state => (state.1.data.invites.rows.map fun invite =>
        (invite.id, invite.tenantId, invite.email, invite.isLive 2000)) =
          [("i1", "t1", "a@b.co", true), ("i2", "t1", "a@b.co", true)])
    (by decide +kernel)
  exact ⟨final, run, of_decide_eq_true live⟩

/-- An invite is resent while it is being accepted: the new token has replaced
the presented one, which is accepted all the same. -/
example :
    (execute (watchedInvites demoEnv) (fun _ _ => true)
      (⟨uninvited, []⟩, InviteRecord.start)
      (.start (.create inviteCaller inviteDto) :: inviteStatements 0 5 "i1" ++
        .start (.accept ⟨none, none, none, "i1", "secret"⟩) ::
          inviteStatements 1 3 "" ++
        .start (.resend inviteCaller "i1") :: inviteStatements 2 4 "i2" ++
        inviteStatements 1 2 "u3")).any
      (fun state => state.2.accepted = [⟨"t1", "a@b.co", true⟩]) = true := by
  decide +kernel

end Auth
end EvoPlatform
