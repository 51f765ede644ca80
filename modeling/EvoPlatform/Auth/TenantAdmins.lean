import EvoPlatform.Auth.Members
import EvoPlatform.Auth.PlatformAdmins

/-!
# The last tenant admin of a workspace

Nobody but an admin of a workspace may touch its members, and no admin may give
up the own role.  So an admin remains while those who act are admins at that
time; the guards only ask what was true when the token was issued.
-/

namespace EvoPlatform
namespace Auth

variable {τ : Type}

/-- A tenant admin of a workspace that is not deleted. -/
def User.administers (user : User) (tenantId : String) : Bool :=
  user.tenantId = some tenantId && user.isTenantAdmin && user.deletedAt.isNone

namespace Accounts

/-- A user is an active tenant admin of a workspace. -/
def isTenantAdmin (accounts : Accounts) (tenantId id : String) : Bool :=
  (accounts.users.find? id).any fun user => user.administers tenantId

/-- A workspace has an active tenant admin. -/
def HasTenantAdmin (accounts : Accounts) (tenantId : String) : Prop :=
  ∃ id, accounts.isTenantAdmin tenantId id = true

/-- Every workspace that had an active tenant admin has one. -/
def KeepsTenantAdmins (before after : Accounts) : Prop :=
  ∀ tenantId, before.HasTenantAdmin tenantId → after.HasTenantAdmin tenantId

end Accounts

/-! ## Operations that take a tenant admin away -/

/-- The operation ends the role or the account of the member. -/
def MemberOperation.takes : MemberOperation → Bool
  | .update dto => dto.isTenantAdmin = some false
  | .deactivate => true
  | _ => false

/-- The write ends the role or the account of the member. -/
def MemberWrite.takes : MemberWrite → Bool
  | .update dto _ => dto.isTenantAdmin = some false
  | .deactivate => true
  | _ => false

/-- The member whose role or account a call is to end. -/
def AdminPhase.taking : AdminPhase → Option MemberScope
  | .findMember operation scope => if operation.takes then some scope else none
  | .writeMember write scope => if write.takes then some scope else none
  | _ => none

/-- The member whose role or account a request is to end, once the guards let it
pass. -/
def TenantRequest.taking (keys : Keys τ) (request : TenantRequest τ) :
    Option MemberScope :=
  (request.begins keys).taking

/-- Whoever takes an active tenant admin away is one. -/
def Accounts.InOffice (accounts : Accounts) (scope : MemberScope) : Prop :=
  accounts.isTenantAdmin scope.tenantId scope.id = true →
    accounts.isTenantAdmin scope.tenantId scope.actorId = true

instance (accounts : Accounts) (scope : MemberScope) :
    Decidable (accounts.InOffice scope) :=
  inferInstanceAs (Decidable (_ → _))

/-- Calls are made one after the other. -/
def OneByOne (pool : Pool AuthDb AdminPhase) :
    PoolEvent (TenantRequest τ) (Nat × Fresh) → Prop
  | .start _ => ∀ call ∈ pool.calls, call.isDone = true
  | _ => True

/-- Calls are made one after the other, and whoever asks to take an active
tenant admin away is one at that time. -/
def ActsInOffice (keys : Keys τ) (pool : Pool AuthDb AdminPhase) :
    PoolEvent (TenantRequest τ) (Nat × Fresh) → Prop
  | .start request => (∀ call ∈ pool.calls, call.isDone = true) ∧
      ∀ scope ∈ request.taking keys, pool.data.accounts.InOffice scope
  | _ => True

instance (pool : Pool AuthDb AdminPhase) :
    (event : PoolEvent (TenantRequest τ) (Nat × Fresh)) →
      Decidable (OneByOne pool event)
  | .start _ => inferInstanceAs (Decidable (∀ call ∈ pool.calls, _))
  | .advance _ _ => isTrue trivial
  | .abandon _ => isTrue trivial

instance (keys : Keys τ) (pool : Pool AuthDb AdminPhase) :
    (event : PoolEvent (TenantRequest τ) (Nat × Fresh)) →
      Decidable (ActsInOffice keys pool event)
  | .start request => inferInstanceAs (Decidable ((∀ call ∈ pool.calls, _) ∧
      ∀ scope ∈ request.taking keys, pool.data.accounts.InOffice scope))
  | .advance _ _ => isTrue trivial
  | .abandon _ => isTrue trivial

/-! ## Statements -/

/-- A write that takes nothing leaves an admin one. -/
theorem MemberWrite.administers_change
    (write : MemberWrite)
    (now : Nat)
    {user : User}
    {tenantId : String}
    (spares : write.takes = false)
    (admin : user.administers tenantId = true) :
    (write.change now user).administers tenantId = true := by
  simp only [User.administers, Bool.and_eq_true, decide_eq_true_eq] at admin ⊢
  obtain ⟨⟨ofTenant, isAdmin⟩, active⟩ := admin
  cases write with
  | update dto name =>
      simp only [takes, decide_eq_false_iff_not] at spares
      refine ⟨⟨ofTenant, ?_⟩, active⟩
      simp only [change]
      cases asked : dto.isTenantAdmin with
      | none => exact isAdmin
      | some value =>
          cases value with
          | true => rfl
          | false => exact absurd asked spares
  | deactivate => contradiction
  | restore => exact ⟨⟨ofTenant, isAdmin⟩, rfl⟩
  | setRoles roles => exact ⟨⟨ofTenant, isAdmin⟩, active⟩

/-- A member belongs to one workspace. -/
theorem Accounts.IsMember.tenantId_eq
    {accounts : Accounts}
    {scope : MemberScope}
    {tenantId : String}
    (member : accounts.IsMember scope)
    (admin : accounts.isTenantAdmin tenantId scope.id = true) :
    tenantId = scope.tenantId := by
  obtain ⟨user, found, ofTenant, _⟩ := member
  simp only [isTenantAdmin, found, Option.any_some, User.administers,
    Bool.and_eq_true, decide_eq_true_eq] at admin
  exact Option.some.inj (admin.1.1.symm.trans ofTenant)

/-- A call acts for the workspace of its caller, whoever takes an active tenant
admin away is one, and nobody takes the own rights away. -/
def InOfficePhase (accounts : Accounts) (phase : AdminPhase) : Prop :=
  phase.ofMembers = true ∧
    (∀ scope ∈ phase.checked, accounts.IsMember scope) ∧
    (∀ scope ∈ phase.taking, accounts.InOffice scope) ∧
    ∀ write scope, phase = .writeMember write scope → write.takes = true →
      scope.id ≠ scope.actorId

section Step

variable {env : AdminEnv} {now : Nat} {fresh : Fresh} {db after : AuthDb}
  {phase next : AdminPhase}

/-- A write by an admin in office leaves every workspace an admin. -/
theorem keepsTenantAdmins_of_wrote
    {write : MemberWrite}
    {scope : MemberScope}
    {accounts : Accounts}
    (inOffice : InOfficePhase db.accounts (.writeMember write scope))
    (updated : db.accounts.updateUser scope.id
      (fun user => write.change now user) = some accounts) :
    db.accounts.KeepsTenantAdmins accounts := by
  obtain ⟨_, isMember, inOffice, apart⟩ := inOffice
  have member := isMember scope rfl
  obtain ⟨_, _, found⟩ := Accounts.users_of_updateUser
    (fun user => (write.change_keeps now user).1) updated
  have spared : ∀ tenantId id, id ≠ scope.id →
      db.accounts.isTenantAdmin tenantId id = true →
        accounts.isTenantAdmin tenantId id = true := by
    intro tenantId id different admin
    rw [Accounts.isTenantAdmin, found, if_neg different]
    exact admin
  rintro tenantId ⟨id, admin⟩
  by_cases same : id = scope.id
  · subst same
    cases takes : write.takes with
    | false =>
        refine ⟨scope.id, ?_⟩
        obtain ⟨user, isUser, administers⟩ := (Option.any_eq_true _ _).mp admin
        rw [Accounts.isTenantAdmin, found, if_pos rfl, isUser]
        exact write.administers_change now takes administers
    | true =>
        -- The acting admin is another one, and stays.
        obtain rfl := member.tenantId_eq admin
        have actor := inOffice scope (by simp [AdminPhase.taking, takes]) admin
        exact ⟨scope.actorId, spared _ _
          (Ne.symm (apart write scope rfl takes)) actor⟩
  · exact ⟨id, spared tenantId id same admin⟩

/-- A created member takes nobody's place. -/
theorem keepsTenantAdmins_of_created
    {user : User}
    {accounts : Accounts}
    (created : db.accounts.createUser user = some accounts) :
    db.accounts.KeepsTenantAdmins accounts := by
  obtain ⟨isNew, _, found⟩ := Accounts.users_of_createUser created
  rintro tenantId ⟨id, admin⟩
  refine ⟨id, ?_⟩
  have different : id ≠ user.id := by
    rintro rfl
    simp [Accounts.isTenantAdmin, isNew] at admin
  rw [Accounts.isTenantAdmin, found, if_neg different]
  exact admin

/-- A statement of a call on members leaves every workspace an admin. -/
theorem AdminPhase.MemberMoves.keepsTenantAdmins
    (moves : MemberMoves env now fresh db phase after next)
    (inOffice : InOfficePhase db.accounts phase) :
    db.accounts.KeepsTenantAdmins after.accounts := by
  cases moves with
  | quiet _ same =>
      rw [same]
      exact fun _ admin => admin
  | created tenantId actorId dto created _ =>
      exact keepsTenantAdmins_of_created created
  | wrote write scope updated _ =>
      exact keepsTenantAdmins_of_wrote inOffice updated
  | _ => exact fun _ admin => admin

/-- What an operation comes to write takes no more than the operation. -/
theorem MemberWrite.Of.takes
    {operation : MemberOperation}
    {scope : MemberScope}
    {write : MemberWrite}
    (comesTo : write.Of operation scope)
    (isTaking : write.takes = true) :
    operation.takes = true ∧ scope.id ≠ scope.actorId := by
  cases write with
  | update dto name =>
      obtain ⟨rfl, permitted⟩ := comesTo
      simp only [MemberWrite.takes, decide_eq_true_eq] at isTaking
      exact ⟨by simp [MemberOperation.takes, isTaking],
        fun same => permitted ⟨same, isTaking⟩⟩
  | deactivate =>
      obtain ⟨rfl, different⟩ := comesTo
      exact ⟨rfl, different⟩
  | _ => contradiction

/-- A call that has passed no `getMember` takes nothing yet. -/
theorem inOfficePhase_of_unchecked
    {accounts : Accounts}
    (ofMembers : phase.ofMembers = true)
    (unchecked : phase.checked = none)
    (inOffice : ∀ scope ∈ phase.taking, accounts.InOffice scope) :
    InOfficePhase accounts phase := by
  refine ⟨ofMembers, ?_, inOffice, ?_⟩
  · rw [unchecked]
    intro scope absent
    contradiction
  · rintro write scope rfl
    contradiction

theorem inOfficePhase_of_harmless
    {accounts : Accounts}
    (isHarmless : phase.harmless = true) :
    InOfficePhase accounts phase := by
  apply inOfficePhase_of_unchecked (AdminPhase.ofMembers_of_harmless isHarmless)
    (AdminPhase.checked_of_harmless isHarmless)
  intro scope isTaken
  cases phase <;> contradiction

/-- A call on members stays in office. -/
theorem AdminPhase.MemberMoves.inOffice
    (moves : MemberMoves env now fresh db phase after next)
    (inOffice : InOfficePhase db.accounts phase) :
    InOfficePhase after.accounts next := by
  have ofMembers := moves.ofMembers
  have isMember := moves.isMember inOffice.2.1
  cases moves with
  | quiet isHarmless _ => exact inOfficePhase_of_harmless isHarmless
  | @found operation scope existing _ =>
      rcases operation.goesOn_cases env.toAuthEnv scope existing with
        ⟨error, goesOn⟩ | ⟨_, unique, _, goesOn⟩ | ⟨write, goesOn, comesTo⟩
      · rw [goesOn]
        exact inOfficePhase_of_harmless rfl
      · rw [goesOn] at isMember ⊢
        exact ⟨rfl, isMember, fun scope absent => by contradiction,
          fun write scope isWrite => by contradiction⟩
      · rw [goesOn] at isMember ⊢
        refine ⟨rfl, isMember, ?_, ?_⟩
        · intro other isTaken
          simp only [AdminPhase.taking] at isTaken
          split at isTaken
          · rename_i takes
            obtain rfl := Option.some.inj isTaken
            apply inOffice.2.2.1
            simp [AdminPhase.taking, (comesTo.takes takes).1]
          · contradiction
        · rintro other otherScope ⟨⟩ takes
          exact (comesTo.takes takes).2
  | unheld tenantId actorId dto =>
      apply inOfficePhase_of_unchecked ofMembers rfl
      intro scope absent
      contradiction
  | foundRoles scope unique _ =>
      exact ⟨ofMembers, isMember, fun scope absent => by contradiction,
        fun write scope isWrite => by contradiction⟩
  | enabled scope _ =>
      refine ⟨ofMembers, isMember, fun scope absent => by contradiction, ?_⟩
      rintro write other ⟨⟩ takes
      contradiction
  | created tenantId actorId dto _ isHarmless =>
      exact inOfficePhase_of_harmless isHarmless
  | wrote write scope _ isHarmless =>
      exact inOfficePhase_of_harmless isHarmless

end Step

/-! ## Runs -/

/-- From any database: while calls on members are made one after the other, and
whoever asks to take an active tenant admin away is one at that time, every
workspace that had an active tenant admin has one in every state that is
reached. -/
theorem tenantAdmin_remains
    (keys : Keys τ)
    (env : AdminEnv)
    {db : AuthDb}
    {events : List (PoolEvent (TenantRequest τ) (Nat × Fresh))}
    {final : Pool AuthDb AdminPhase}
    {tenantId : String}
    (hasAdmin : db.accounts.HasTenantAdmin tenantId)
    (run : Run (memberCalls keys env).poolStep (ActsInOffice keys) ⟨db, []⟩
      events final) :
    final.data.accounts.HasTenantAdmin tenantId := by
  obtain ⟨noted, watched⟩ : ∃ noted,
      Run ((memberCalls keys env).watch fun (_ : Unit) _ _ _ _ => ())
        (fun state event => ActsInOffice keys state.1 event) (⟨db, []⟩, ())
        events (final, noted) :=
    Program.watched run ()
  have holds : Program.InTurn AdminPhase.isDone
      (fun data (_ : Unit) => db.accounts.KeepsTenantAdmins data.accounts)
      (fun data _ phase => InOfficePhase data.accounts phase)
      (final, noted) := by
    have unchecked : ∀ (accounts : Accounts) (phase : AdminPhase),
        phase.isDone = true → InOfficePhase accounts phase := by
      intro accounts phase isDone
      cases phase with
      | done outcome => exact inOfficePhase_of_harmless rfl
      | _ => contradiction
    apply Program.inTurn _ _ _ _ _ _ watched
    · refine ⟨fun _ admin => admin, ?_, ?_⟩
      · intro index call present
        contradiction
      · intro left right leftCall rightCall present
        contradiction
    · intro state request allowed
      exact allowed.1
    · intro record index input data call isDone
      cases call with
      | done outcome => exact ⟨rfl, rfl⟩
      | _ => contradiction
    · intro data record after noted call isDone _
      exact unchecked after.accounts call isDone
    · intro pool record request holds allowed
      have inOffice := allowed.2
      simp only [TenantRequest.taking] at inOffice
      simp only [memberCalls]
      cases admitted : tenantGuards keys request.bearer request.arrivesAt with
      | error error =>
          simp only [TenantRequest.begins, admitted]
          exact unchecked _ _ rfl
      | ok caller =>
          simp only [TenantRequest.begins, admitted] at inOffice ⊢
          cases asked : request.request with
          | create dto =>
              apply inOfficePhase_of_unchecked rfl rfl
              intro scope absent
              contradiction
          | member operation id =>
              rw [asked] at inOffice
              exact inOfficePhase_of_unchecked rfl rfl inOffice
    · intro pool record index input call holds _ present
      have inOffice := holds.ofCall index call present
      have moves := memberMoves_step env input.1 input.2 pool.data inOffice.1
      refine ⟨?_, moves.inOffice inOffice⟩
      intro ofTenant admin
      exact moves.keepsTenantAdmins inOffice ofTenant
        (holds.ofData ofTenant admin)
    · intro data record call _
      exact ⟨rfl, unchecked data.accounts _ rfl⟩
  exact holds.ofData tenantId hasAdmin

/-! ## Two admins of a workspace -/

/-- The workspace of two tenant admins. -/
def officeTenant : Tenant := ⟨"t1", "acme", "Acme", .active, none, none⟩

def officeAdmin (id : String) : User :=
  ⟨id, some "t1", id, none, none, none, none, "", false, true, some 0, none, []⟩

def twoTenantAdmins : AuthDb where
  accounts :=
    { tenants := ⟨[officeTenant], by decide⟩
      apps := .empty
      appTenants := .empty
      users := ⟨[officeAdmin "u1", officeAdmin "u2"], by decide⟩
      addressUnique := Table.unique_of_nodup (by decide)
      clientIdGiven := Accounts.empty.clientIdGiven
      clientIdUnique := Accounts.empty.clientIdUnique
      subscriptionUnique := Accounts.empty.subscriptionUnique
      references := by simp [Table.empty] }
  tokens := .empty
  audit := []

/-- The access token that a login at second 0 issues to an admin. -/
def officeToken (id : String) : Payload :=
  plainKeys.signClaims
    (Grant.session ⟨officeAdmin id, some officeTenant, none, .login none⟩
      demoEnv.toAuthEnv 0 ⟨"", "", ""⟩).accessToken.claims
    demoEnv.accessTtlSec 0

/-- An admin takes the role of a member away, in one call. -/
def demotion (index : Nat) (actorId id : String) (arrivesAt : Nat) :
    List (PoolEvent (TenantRequest Payload) (Nat × Fresh)) :=
  .start ⟨some (officeToken actorId), arrivesAt,
      .member (.update ⟨none, none, none, some false⟩) id⟩ ::
    List.replicate 3 (.advance index (arrivesAt * 1000, ⟨"", "", ""⟩))

/-- The second admin is demoted, and the first keeps the role. -/
theorem tenantAdmin_remains_demotion :
    ∃ final, Run (memberCalls plainKeys demoEnv).poolStep
        (ActsInOffice plainKeys) ⟨twoTenantAdmins, []⟩
        (demotion 0 "u1" "u2" 10) final ∧
      final.data.accounts.HasTenantAdmin "t1" ∧
      final.data.accounts.isTenantAdmin "t1" "u2" = false := by
  obtain ⟨final, run, demoted⟩ := Run.exists_of_execute
    (memberCalls plainKeys demoEnv).poolStep
    (fun pool event => decide (ActsInOffice plainKeys pool event))
    (fun _ _ passed => of_decide_eq_true passed) ⟨twoTenantAdmins, []⟩
    (demotion 0 "u1" "u2" 10)
    (fun pool => !pool.data.accounts.isTenantAdmin "t1" "u2")
    (by decide +kernel)
  exact ⟨final, run,
    tenantAdmin_remains plainKeys demoEnv ⟨"u1", by decide⟩ run,
    by simpa using demoted⟩

/-- Two tenant admins have logged in.  The first one demotes the second, who
demotes the first with the token from before: the workspace has no tenant admin
left. -/
theorem demotedAdmin_leavesNone :
    (∀ id ∈ ["u1", "u2"],
      twoTenantAdmins.accounts.isTenantAdmin "t1" id = true ∧
      ∀ now < 900, (tenantGuards plainKeys (some (officeToken id)) now).isOk) ∧
    ∃ final, Run (memberCalls plainKeys demoEnv).poolStep OneByOne
        ⟨twoTenantAdmins, []⟩
        (demotion 0 "u1" "u2" 10 ++ demotion 1 "u2" "u1" 20) final ∧
      ¬ final.data.accounts.HasTenantAdmin "t1" := by
  constructor
  · intro id isAdmin
    simp only [List.mem_cons, List.not_mem_nil, or_false] at isAdmin
    rcases isAdmin with rfl | rfl
    · exact ⟨by decide, by decide +kernel⟩
    · exact ⟨by decide, by decide +kernel⟩
  · obtain ⟨final, run, none⟩ := Run.exists_of_execute
      (memberCalls plainKeys demoEnv).poolStep
      (fun pool event => decide (OneByOne pool event))
      (fun _ _ passed => of_decide_eq_true passed) ⟨twoTenantAdmins, []⟩
      (demotion 0 "u1" "u2" 10 ++ demotion 1 "u2" "u1" 20)
      (fun pool => pool.data.accounts.users.rows.all fun user =>
        !user.administers "t1")
      (by decide +kernel)
    refine ⟨final, run, ?_⟩
    rintro ⟨id, admin⟩
    obtain ⟨user, found, administers⟩ := (Option.any_eq_true _ _).mp admin
    have notAdmin := List.all_eq_true.mp none user
      (final.data.accounts.users.mem_of_find? found)
    simp [administers] at notAdmin

end Auth
end EvoPlatform
