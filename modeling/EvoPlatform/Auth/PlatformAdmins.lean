import EvoPlatform.Auth.Administration

/-!
# The last platform admin

Every call that can take the rights of a platform admin away is followed
through its statements.  A guard that counts the other admins vouches for its
write as long as no admin is lost in between; what a write leaves alone, and
what a count has seen, together keep an admin in the table.
-/

namespace EvoPlatform
namespace Auth

/-- A platform admin that is not deleted. -/
def User.isLiveAdmin (user : User) : Bool :=
  user.isPlatformAdmin && user.deletedAt.isNone

/-- A platform admin that is not deleted is left. -/
def Accounts.HasAdmin (accounts : Accounts) : Prop :=
  ∃ user ∈ accounts.users.rows, user.isLiveAdmin = true

/-- The next statement of a call demotes, soft-deletes or deletes a user. -/
def AdminPhase.strikes (user : User) : AdminPhase → Bool
  | .update (.writeUser demotion) =>
      demotion.dto.isPlatformAdmin = some false &&
        user.id = demotion.existing.id
  | .softDelete id => user.id = id
  | .purge purged => user.id = purged.id
  | .purgeTenant tenant => user.tenantId = some tenant.id
  | .writeMember .deactivate scope => user.id = scope.id
  | _ => false

/-- The next statement of a call takes an admin away. -/
def AdminPhase.strikesAdmin (accounts : Accounts) (phase : AdminPhase) : Bool :=
  accounts.users.rows.any fun user => user.isLiveAdmin && phase.strikes user

/-- The next statement of a call counts the other admins. -/
def AdminPhase.counts : AdminPhase → Bool
  | .update (.countAdmins _) => true
  | .countOthers _ => true
  | _ => false

/-! ## What a statement leaves alone -/

/-- Every admin that is spared is still one. -/
def Spares (before after : Accounts) (phase : AdminPhase) : Prop :=
  ∀ user ∈ before.users.rows, user.isLiveAdmin = true →
    phase.strikes user = false →
      ∃ kept ∈ after.users.rows, kept.isLiveAdmin = true ∧
        kept.id = user.id ∧ kept.tenantId = user.tenantId

theorem Spares.refl (accounts : Accounts) (phase : AdminPhase) :
    Spares accounts accounts phase :=
  fun user present admin _ => ⟨user, present, admin, rfl, rfl⟩

namespace Accounts

variable {accounts after : Accounts}

/-- A written user leaves the others alone. -/
theorem spares_of_putUser
    {stored user : User}
    {phase : AdminPhase}
    (found : accounts.users.find? user.id = some stored)
    (keeps : stored.isLiveAdmin = true → phase.strikes stored = false →
      user.isLiveAdmin = true ∧ user.tenantId = stored.tenantId)
    (written : accounts.putUser user = some after) :
    Spares accounts after phase := by
  intro other present admin spared
  rw [users_of_putUser written]
  have sameId := accounts.users.key_of_find? found
  by_cases same : other.id = user.id
  · have isStored : other = stored := by
      have again := accounts.users.find?_of_mem present
      rw [same, found] at again
      exact (Option.some.inj again).symm
    subst isStored
    obtain ⟨stillAdmin, sameTenant⟩ := keeps admin spared
    exact ⟨user, (accounts.users.mem_put_iff user user).mpr (Or.inl rfl),
      stillAdmin, sameId.symm, sameTenant⟩
  · exact ⟨other,
      (accounts.users.mem_put_iff user other).mpr (Or.inr ⟨present, same⟩),
      admin, rfl, rfl⟩

/-- An update by id leaves the others alone. -/
theorem spares_of_updateUser
    {id : String}
    {change : User → User}
    {phase : AdminPhase}
    (sameId : ∀ user, (change user).id = user.id)
    (keeps : ∀ user, user.id = id → user.isLiveAdmin = true →
      phase.strikes user = false →
        (change user).isLiveAdmin = true ∧
          (change user).tenantId = user.tenantId)
    (updated : accounts.updateUser id change = some after) :
    Spares accounts after phase := by
  simp only [updateUser, Option.bind_eq_some_iff] at updated
  obtain ⟨stored, found, written⟩ := updated
  have isId := accounts.users.key_of_find? found
  have foundAgain : accounts.users.find? (change stored).id = some stored := by
    rw [sameId, isId]
    exact found
  exact spares_of_putUser foundAgain (keeps stored isId) written

theorem spares_of_createUser
    {user : User}
    (phase : AdminPhase)
    (created : accounts.createUser user = some after) :
    Spares accounts after phase := by
  unfold createUser at created
  split at created
  · contradiction
  · rename_i free
    intro other present admin _
    rw [users_of_putUser created]
    refine ⟨other, (accounts.users.mem_put_iff user other).mpr
      (Or.inr ⟨present, ?_⟩), admin, rfl, rfl⟩
    intro same
    have found := accounts.users.find?_of_mem present
    simp [← same, found] at free

theorem spares_of_erase
    {doomed : User → Bool}
    {phase : AdminPhase}
    (meant : ∀ user, phase.strikes user = doomed user)
    (erased : after.users = accounts.users.eraseWhere doomed) :
    Spares accounts after phase := by
  intro user present admin spared
  rw [erased]
  rw [meant] at spared
  exact ⟨user, List.mem_filter.mpr ⟨present, by simp [spared]⟩, admin, rfl, rfl⟩

end Accounts

section Step

variable {db : AuthDb}

/-- A written user leaves the others alone, whether or not the write goes
through. -/
theorem spares_writeUser
    {id : String}
    {change : User → User}
    (next : User → AdminPhase)
    {phase : AdminPhase}
    (sameId : ∀ user, (change user).id = user.id)
    (keeps : ∀ user, user.id = id → user.isLiveAdmin = true →
      phase.strikes user = false →
        (change user).isLiveAdmin = true ∧
          (change user).tenantId = user.tenantId) :
    Spares db.accounts (db.writeUser id change next).1.accounts phase := by
  unfold AuthDb.writeUser
  split
  · exact Spares.refl db.accounts phase
  · rename_i accounts updated
    exact Accounts.spares_of_updateUser sameId keeps updated

/-- An update by the console spares every admin but the one it demotes. -/
theorem spares_update
    (env : AuthEnv)
    (now : Nat)
    (fresh : Fresh)
    (phase : Phase) :
    Spares db.accounts (phase.step env now fresh db).1.accounts
      (.update phase) := by
  cases phase with
  | resetTransaction user passwordHash =>
      simp only [Phase.step]
      split
      · exact Spares.refl db.accounts _
      · rename_i accounts updated
        refine Accounts.spares_of_updateUser ?_ ?_ updated
        · exact fun _ => rfl
        · exact fun _ _ admin _ => ⟨admin, rfl⟩
  | writeUser update =>
      simp only [Phase.step]
      split
      · exact Spares.refl db.accounts _
      · rename_i accounts updated
        refine Accounts.spares_of_updateUser ?_ ?_ updated
        · exact fun _ => rfl
        · intro user isWritten admin spared
          refine ⟨?_, rfl⟩
          simp only [AdminPhase.strikes, isWritten, decide_true,
            Bool.and_true, decide_eq_false_iff_not] at spared
          simp only [User.isLiveAdmin, UserUpdate.change,
            Bool.and_eq_true] at admin ⊢
          refine ⟨?_, admin.2⟩
          cases asked : update.dto.isPlatformAdmin with
          | none => exact admin.1
          | some value =>
              rw [asked] at spared
              simpa using spared
  | rotate grant stored =>
      simp only [Phase.step]
      split <;> exact Spares.refl db.accounts _
  | createToken grant =>
      simp only [Phase.step]
      split <;> exact Spares.refl db.accounts _
  | _ => exact Spares.refl db.accounts _

/-- A statement spares every admin that it does not strike. -/
theorem spares_step
    (env : AdminEnv)
    (now : Nat)
    (fresh : Fresh)
    (phase : AdminPhase) :
    Spares db.accounts (phase.step env now fresh db).1.accounts phase := by
  cases phase with
  | update phase => exact spares_update env.toAuthEnv now fresh phase
  | softDelete id =>
      refine spares_writeUser _ (fun _ => rfl) ?_
      intro user isWritten _ spared
      simp [AdminPhase.strikes, isWritten] at spared
  | restore id =>
      refine spares_writeUser _ (fun _ => rfl) ?_
      intro user _ admin _
      simp only [User.isLiveAdmin, Bool.and_eq_true] at admin
      exact ⟨by simp [User.isLiveAdmin, admin.1], rfl⟩
  | purge user =>
      simp only [AdminPhase.step, AuthDb.purgeUser]
      split
      · exact Spares.refl db.accounts _
      · rename_i purged erased
        obtain ⟨_, _, rfl⟩ := Option.map_eq_some_iff.mp erased
        exact Accounts.spares_of_erase (fun _ => rfl) rfl
  | softDeleteTenant id =>
      simp only [AdminPhase.step, Accounts.updateTenant]
      split
      · exact Spares.refl db.accounts _
      · rename_i accounts updated
        obtain ⟨_, _, rfl⟩ := Option.map_eq_some_iff.mp updated
        exact fun user present admin _ => ⟨user, present, admin, rfl, rfl⟩
  | purgeTenant tenant =>
      simp only [AdminPhase.step, AuthDb.purgeTenant]
      split
      · exact Spares.refl db.accounts _
      · rename_i purged erased
        obtain ⟨_, _, rfl⟩ := Option.map_eq_some_iff.mp erased
        exact Accounts.spares_of_erase (fun _ => rfl) rfl
  | createMember tenantId actorId dto =>
      simp only [AdminPhase.step]
      split
      · exact Spares.refl db.accounts _
      · rename_i accounts created
        exact Accounts.spares_of_createUser _ created
  | writeMember write scope =>
      refine spares_writeUser _ ?_ ?_
      · intro user
        cases write <;> rfl
      · intro user isWritten admin spared
        cases write with
        | update dto name => exact ⟨admin, rfl⟩
        | deactivate => simp [AdminPhase.strikes, isWritten] at spared
        | restore =>
            simp only [User.isLiveAdmin, Bool.and_eq_true] at admin
            exact ⟨by simp [MemberWrite.change, User.isLiveAdmin, admin.1], rfl⟩
        | setRoles roles => exact ⟨admin, rfl⟩
  | _ => exact Spares.refl db.accounts _

end Step

/-! ## Calls in parallel -/

/-- What is noted about the admins while calls run. -/
structure AdminRecord where
  /-- How many statements have taken an admin away. -/
  losses : Nat
  /-- The losses up to the last statement of a call, if it was a count. -/
  counted : Nat → Option Nat

namespace AdminRecord

/-- Nothing has happened yet. -/
def start : AdminRecord := ⟨0, fun _ => none⟩

def observe (record : AdminRecord) (index : Nat) (_ : Nat × Fresh)
    (db : AuthDb) (phase : AdminPhase) : AdminRecord where
  losses :=
    if phase.strikesAdmin db.accounts then record.losses + 1 else record.losses
  counted := Function.update record.counted index
    (if phase.counts then some record.losses else none)

end AdminRecord

/-- What allows a statement to take an admin away: the purge of a tenant leaves
an admin outside it; any other one comes right after the count of its call, and
no admin was taken away since that count. -/
def AdminPhase.allowed (accounts : Accounts) (record : AdminRecord)
    (index : Nat) : AdminPhase → Bool
  | .purgeTenant tenant =>
      accounts.users.rows.any fun user =>
        user.isLiveAdmin && user.tenantId ≠ some tenant.id
  | _ => record.counted index = some record.losses

/-- Every statement that takes an admin away is allowed to. -/
def Vouched (state : Pool AuthDb AdminPhase × AdminRecord) :
    PoolEvent AdminRequest (Nat × Fresh) → Prop
  | .advance index _ => ∀ phase ∈ state.1.calls[index]?,
      phase.strikesAdmin state.1.data.accounts = true →
        phase.allowed state.1.data.accounts state.2 index = true
  | _ => True

instance (state : Pool AuthDb AdminPhase × AdminRecord) :
    (event : PoolEvent AdminRequest (Nat × Fresh)) →
      Decidable (Vouched state event)
  | .advance index _ =>
      inferInstanceAs (Decidable (∀ phase ∈ state.1.calls[index]?, _ → _))
  | .start _ => isTrue trivial
  | .abandon _ => isTrue trivial

/-- An admin is left that a call does not strike. -/
def Accounts.HasSpared (accounts : Accounts) (phase : AdminPhase) : Prop :=
  ∃ user ∈ accounts.users.rows,
    user.isLiveAdmin = true ∧ phase.strikes user = false

/-- Whom a call strikes is told by the id and the tenant. -/
theorem AdminPhase.strikes_congr
    (phase : AdminPhase)
    {user other : User}
    (sameId : user.id = other.id)
    (sameTenant : user.tenantId = other.tenantId) :
    phase.strikes user = phase.strikes other := by
  unfold AdminPhase.strikes
  split <;> simp [sameId, sameTenant]

/-- A call that strikes no admin leaves each where it was for another call. -/
theorem Accounts.HasSpared.step
    {db : AuthDb}
    {other phase : AdminPhase}
    (env : AdminEnv)
    (now : Nat)
    (fresh : Fresh)
    (spared : db.accounts.HasSpared other)
    (harmless : phase.strikesAdmin db.accounts = false) :
    (phase.step env now fresh db).1.accounts.HasSpared other := by
  obtain ⟨user, present, admin, notStruck⟩ := spared
  have notMeant : phase.strikes user = false := by
    simp only [AdminPhase.strikesAdmin, List.any_eq_false] at harmless
    simpa [admin] using harmless user present
  obtain ⟨kept, keptPresent, keptAdmin, sameId, sameTenant⟩ :=
    spares_step env now fresh phase user present admin notMeant
  refine ⟨kept, keptPresent, keptAdmin, ?_⟩
  rw [other.strikes_congr sameId sameTenant]
  exact notStruck

/-- A count that lets its call go on has seen an admin whom the call does not
strike. -/
theorem hasSpared_of_counts
    {db : AuthDb}
    {phase : AdminPhase}
    (env : AdminEnv)
    (now : Nat)
    (fresh : Fresh)
    (counts : phase.counts = true)
    (hasAdmin : db.accounts.HasAdmin) :
    (phase.step env now fresh db).1.accounts.HasSpared
      (phase.step env now fresh db).2 := by
  obtain ⟨anyone, anyonePresent, anyoneAdmin⟩ := hasAdmin
  have seen : ∀ existing : User, db.accounts.otherAdmins existing ≠ 0 →
      ∃ user ∈ db.accounts.users.rows,
        user.isLiveAdmin = true ∧ user.id ≠ existing.id := by
    intro existing some
    obtain ⟨user, present, matching⟩ :=
      List.countP_pos_iff.mp (Nat.pos_of_ne_zero some)
    simp only [Bool.and_eq_true, decide_eq_true_eq] at matching
    exact ⟨user, present, by simp [User.isLiveAdmin, matching.1],
      matching.2⟩
  unfold AdminPhase.counts at counts
  split at counts
  · rename_i update
    simp only [AdminPhase.step, Phase.step]
    split
    · exact ⟨anyone, anyonePresent, anyoneAdmin, rfl⟩
    · rename_i others
      obtain ⟨user, present, admin, different⟩ := seen update.existing others
      exact ⟨user, present, admin, by simp [AdminPhase.strikes, different]⟩
  · rename_i existing
    simp only [AdminPhase.step]
    split
    · exact ⟨anyone, anyonePresent, anyoneAdmin, rfl⟩
    · rename_i others
      obtain ⟨user, present, admin, different⟩ := seen existing others
      exact ⟨user, present, admin, by simp [AdminPhase.strikes, different]⟩
  · contradiction

/-- An admin is left, and no count is ahead of the losses. -/
def Staffed (db : AuthDb) (record : AdminRecord) : Prop :=
  db.accounts.HasAdmin ∧
    ∀ index losses, record.counted index = some losses →
      losses ≤ record.losses

/-- As long as no admin is lost, a count vouches for the write after it. -/
def CountHolds (db : AuthDb) (record : AdminRecord) (index : Nat)
    (phase : AdminPhase) : Prop :=
  record.counted index = some record.losses → db.accounts.HasSpared phase

section Advance

variable {pool : Pool AuthDb AdminPhase} {record : AdminRecord} {index : Nat}
  {phase : AdminPhase}

/-- A statement that meets the condition leaves an admin. -/
theorem hasAdmin_advance
    (env : AdminEnv)
    (now : Nat)
    (fresh : Fresh)
    (holds : Program.Holds Staffed CountHolds (pool, record))
    (vouched : Vouched (pool, record) (.advance index (now, fresh)))
    (present : pool.calls[index]? = some phase) :
    (phase.step env now fresh pool.data).1.accounts.HasAdmin := by
  have remains : pool.data.accounts.HasSpared phase →
      (phase.step env now fresh pool.data).1.accounts.HasAdmin := by
    rintro ⟨user, userPresent, admin, notStruck⟩
    obtain ⟨kept, keptPresent, keptAdmin, _⟩ :=
      spares_step env now fresh phase user userPresent admin notStruck
    exact ⟨kept, keptPresent, keptAdmin⟩
  apply remains
  cases strikes : phase.strikesAdmin pool.data.accounts with
  | false =>
      obtain ⟨user, userPresent, admin⟩ := holds.ofData.1
      simp only [AdminPhase.strikesAdmin, List.any_eq_false] at strikes
      exact ⟨user, userPresent, admin,
        by simpa [admin] using strikes user userPresent⟩
  | true =>
      have condition := vouched phase present strikes
      unfold AdminPhase.allowed at condition
      split at condition
      · rename_i tenant
        obtain ⟨user, userPresent, outside⟩ := List.any_eq_true.mp condition
        simp only [Bool.and_eq_true, decide_eq_true_eq] at outside
        exact ⟨user, userPresent, outside.1,
          by simp [AdminPhase.strikes, outside.2]⟩
      · exact holds.ofCall index phase present (of_decide_eq_true condition)

/-- No count gets ahead of the losses. -/
theorem counted_advance
    (env : AdminEnv)
    (now : Nat)
    (fresh : Fresh)
    (holds : Program.Holds Staffed CountHolds (pool, record))
    (vouched : Vouched (pool, record) (.advance index (now, fresh)))
    (present : pool.calls[index]? = some phase) :
    Staffed (phase.step env now fresh pool.data).1
      (record.observe index (now, fresh) pool.data phase) := by
  refine ⟨hasAdmin_advance env now fresh holds vouched present, ?_⟩
  intro other losses counted
  have grown : record.losses ≤
      (record.observe index (now, fresh) pool.data phase).losses := by
    simp only [AdminRecord.observe]
    split <;> omega
  apply Nat.le_trans _ grown
  simp only [AdminRecord.observe, Function.update_apply] at counted
  split at counted
  · split at counted
    · exact (Option.some.inj counted).ge
    · contradiction
  · exact holds.ofData.2 other losses counted

/-- The count of a call vouches for the statement that follows it. -/
theorem countHolds_mover
    (env : AdminEnv)
    (now : Nat)
    (fresh : Fresh)
    (holds : Program.Holds Staffed CountHolds (pool, record)) :
    CountHolds (phase.step env now fresh pool.data).1
      (record.observe index (now, fresh) pool.data phase) index
      (phase.step env now fresh pool.data).2 := by
  intro counted
  cases counts : phase.counts with
  | true => exact hasSpared_of_counts env now fresh counts holds.ofData.1
  | false => simp [AdminRecord.observe, counts] at counted

/-- What another call has counted still stands unless an admin is lost. -/
theorem countHolds_other
    (env : AdminEnv)
    (now : Nat)
    (fresh : Fresh)
    {other : Nat}
    {bystander : AdminPhase}
    (holds : Program.Holds Staffed CountHolds (pool, record))
    (apart : other ≠ index)
    (present : pool.calls[other]? = some bystander) :
    CountHolds (phase.step env now fresh pool.data).1
      (record.observe index (now, fresh) pool.data phase) other bystander := by
  intro counted
  simp only [AdminRecord.observe, Function.update_of_ne apart] at counted
  cases strikes : phase.strikesAdmin pool.data.accounts with
  | true =>
      simp only [strikes, if_true] at counted
      have behind := holds.ofData.2 other _ counted
      simp only at behind
      omega
  | false =>
      simp only [strikes, Bool.false_eq_true, if_false] at counted
      exact (holds.ofCall other bystander present counted).step env now fresh
        strikes

end Advance

/-- The administrative calls with the record of the admins beside them. -/
def watchedAdministration (env : AdminEnv) :
    Pool AuthDb AdminPhase × AdminRecord →
      PoolEvent AdminRequest (Nat × Fresh) →
        Option (Pool AuthDb AdminPhase × AdminRecord) :=
  (administration env).watch AdminRecord.observe

/-- From every database with a platform admin that is not deleted, every
interleaving of administrative calls that meets the condition at each statement
leaves such an admin in every state it reaches. -/
theorem admin_remains
    (env : AdminEnv)
    {db : AuthDb}
    {events : List (PoolEvent AdminRequest (Nat × Fresh))}
    {final : Pool AuthDb AdminPhase × AdminRecord}
    (hasAdmin : db.accounts.HasAdmin)
    (run : Run (watchedAdministration env) Vouched
      (⟨db, []⟩, AdminRecord.start) events final) :
    final.1.data.accounts.HasAdmin := by
  have holds : Program.Holds Staffed CountHolds final := by
    apply Program.always _ _ _ run
    · refine ⟨⟨hasAdmin, ?_⟩, ?_⟩
      · intro index losses counted
        contradiction
      · intro index call present
        contradiction
    · intro pool record request holds _ _
      obtain ⟨user, present, admin⟩ := holds.ofData.1
      refine ⟨user, present, admin, ?_⟩
      cases request <;> rfl
    · intro pool record index input phase holds vouched present
      exact ⟨counted_advance env _ _ holds vouched present,
        countHolds_mover env _ _ holds,
        fun other bystander apart found =>
          countHolds_other env _ _ holds apart found⟩
    · intro db record index phase staffed _ _
      obtain ⟨user, present, admin⟩ := staffed.1
      exact ⟨user, present, admin, rfl⟩
  exact holds.ofData.1

/-! ## Two admins -/

/-- A platform admin without a workspace. -/
def demoAdmin (id : String) : User :=
  ⟨id, none, id, none, none, none, none, "", true, false, some 0, none, []⟩

/-- A database with two platform admins. -/
def twoAdmins : AuthDb where
  accounts :=
    { tenants := .empty
      apps := .empty
      appTenants := .empty
      users := ⟨[demoAdmin "u1", demoAdmin "u2"], by decide⟩
      addressUnique := Table.unique_of_nodup (by decide)
      clientIdGiven := Accounts.empty.clientIdGiven
      clientIdUnique := Accounts.empty.clientIdUnique
      subscriptionUnique := Accounts.empty.subscriptionUnique
      references := Accounts.empty.references }
  tokens := .empty
  audit := []

/-- Surroundings in which nothing is hashed. -/
def demoEnv : AdminEnv where
  sha256 := id
  compare := fun password hash => password = hash
  bcryptHash := fun password _ => password
  dummyHash := ""
  toLowerCase := id
  trim := id
  resetSubject := some
  resetVerifies := fun _ _ _ => true
  accessTtlSec := 900
  refreshTtlDays := 30
  roles := .empty

/-- A statement of one of the two calls. -/
def statement (index : Nat) : PoolEvent AdminRequest (Nat × Fresh) :=
  .advance index (1000, ⟨"", "", ""⟩)

/-- Two admins are removed one after the other: the second removal is refused. -/
theorem admin_remains_oneByOne :
    ∃ final, Run (watchedAdministration demoEnv) Vouched
        (⟨twoAdmins, []⟩, AdminRecord.start)
        [.start (.user .remove "u1"), .start (.user .remove "u2"),
          statement 0, statement 0, statement 0, statement 1, statement 1]
        final ∧
      final.1.data.accounts.HasAdmin := by
  obtain ⟨final, run, _⟩ := Run.exists_of_execute
    (watchedAdministration demoEnv)
    (fun state event => decide (Vouched state event))
    (fun _ _ passed => of_decide_eq_true passed)
    (⟨twoAdmins, []⟩, AdminRecord.start)
    [.start (.user .remove "u1"), .start (.user .remove "u2"),
      statement 0, statement 0, statement 0, statement 1, statement 1]
    (fun _ => true) (by decide +kernel)
  exact ⟨final, run, admin_remains demoEnv
    ⟨demoAdmin "u1", by simp [twoAdmins], rfl⟩ run⟩

/-- Two admins are removed at the same time: each count sees the other one. -/
theorem concurrentRemovals_leave_none :
    twoAdmins.accounts.HasAdmin ∧
    ∃ final, Run (administration demoEnv).poolStep (fun _ _ => True)
        ⟨twoAdmins, []⟩
        [.start (.user .remove "u1"), .start (.user .remove "u2"),
          statement 0, statement 0, statement 1, statement 1,
          statement 0, statement 1] final ∧
      ¬ final.data.accounts.HasAdmin := by
  refine ⟨⟨demoAdmin "u1", by simp [twoAdmins], rfl⟩, ?_⟩
  obtain ⟨final, run, gone⟩ := Run.exists_of_execute
    (administration demoEnv).poolStep (fun _ _ => true)
    (fun _ _ _ => trivial) ⟨twoAdmins, []⟩
    [.start (.user .remove "u1"), .start (.user .remove "u2"),
      statement 0, statement 0, statement 1, statement 1,
      statement 0, statement 1]
    (fun pool => pool.data.accounts.users.rows.all fun user => !user.isLiveAdmin)
    (by decide +kernel)
  refine ⟨final, run, ?_⟩
  rintro ⟨user, present, admin⟩
  have notAdmin := List.all_eq_true.mp gone user present
  simp [admin] at notAdmin

end Auth
end EvoPlatform
