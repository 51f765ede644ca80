import EvoPlatform.Auth.Calls

/-!
# The door

Which logins pass the gate, for a call that has the database to itself.
-/

namespace EvoPlatform
namespace Auth

/-- The call has passed every check and is about to issue tokens. -/
def Phase.issues : Phase → Bool
  | .createToken _ => true
  | _ => false

/-- The call issues tokens after at most `count` statements. -/
def Phase.reachesIssue (env : AuthEnv) (now : Nat) (fresh : Fresh) :
    Nat → AuthDb → Phase → Bool
  | 0, _, phase => phase.issues
  | count + 1, db, phase =>
      phase.issues ||
        Phase.reachesIssue env now fresh count
          (phase.step env now fresh db).1 (phase.step env now fresh db).2

/-- `completeLogin` admits a user whose password was verified. -/
def admitsLogin (env : AuthEnv) (now : Nat) (fresh : Fresh) (db : AuthDb)
    (user : User) (tenant : Option Tenant) (clientId ip : Option String) :
    Bool :=
  (completeLogin now user tenant clientId ip).reachesIssue env now fresh 2 db

/-- The client id of an app finds the app unless it is deleted. -/
theorem Accounts.findApp_of_mem
    (accounts : Accounts)
    {app : App}
    (present : app ∈ accounts.apps.rows) :
    accounts.findApp app.clientId =
      if app.deletedAt.isNone then some app else none := by
  have only : ∀ other ∈ accounts.apps.rows,
      other.clientId = app.clientId → other = app :=
    fun other otherPresent same =>
      accounts.clientIdUnique other otherPresent app present app.clientId
        (congrArg some same) rfl
  by_cases kept : app.deletedAt.isNone = true
  · cases found : accounts.findApp app.clientId with
    | none =>
        have absent := List.find?_eq_none.mp found app present
        simp [kept] at absent
    | some other =>
        have matching := List.find?_some found
        simp only [Bool.and_eq_true, decide_eq_true_eq] at matching
        rw [if_pos kept,
          only other (List.mem_of_find?_eq_some found) matching.1]
  · rw [if_neg kept]
    apply List.find?_eq_none.mpr
    intro other otherPresent matching
    simp only [Bool.and_eq_true, decide_eq_true_eq] at matching
    rw [only other otherPresent matching.1] at matching
    exact kept matching.2

section Door

variable (env : AuthEnv) (now : Nat) (fresh : Fresh)

@[simp] theorem not_reachesIssue_throws (count : Nat) (db : AuthDb)
    (error : AuthError) :
    (Phase.throws error).reachesIssue env now fresh count db = false := by
  induction count with
  | zero => rfl
  | succ count inductionHypothesis => exact inductionHypothesis

/-- A login for an app of a workspace is admitted exactly when the account is
in order, the workspace is usable, and the app is enabled on terms that have
not run out. -/
theorem admitsLogin_iff
    (db : AuthDb)
    (user : User)
    (tenant : Tenant)
    (clientId : String)
    (ip : Option String)
    (isGiven : clientId ≠ "") :
    admitsLogin env now fresh db user (some tenant) (some clientId) ip = true ↔
      user.deletedAt = none ∧ user.emailVerifiedAt.isSome ∧
        assertTenantUsable now (some tenant) = .ok () ∧
        ∃ app, db.accounts.findApp clientId = some app ∧
          assertEnablement now
            (db.accounts.appTenants.find? (tenant.id, app.id)) = .ok () := by
  have isScoped := given_some isGiven
  unfold admitsLogin completeLogin
  cases deleted : user.deletedAt with
  | some time => simp [invalidCredentials]
  | none =>
      cases verified : user.emailVerifiedAt with
      | none => simp
      | some time =>
          simp only [Option.isSome_none, Bool.false_eq_true, if_false,
            Option.isNone_some, Grant.enter]
          cases usable : assertTenantUsable now (some tenant) with
          | error error => simp
          | ok _ =>
              simp only [Grant.assertAppEnabled, isScoped, Phase.reachesIssue,
                Phase.issues, Phase.step, Bool.false_or]
              cases found : db.accounts.findApp clientId with
              | none => simp [Phase.throws]
              | some app =>
                  cases enabled : assertEnablement now
                      (db.accounts.appTenants.find? (tenant.id, app.id)) with
                  | error error =>
                      simp [enabled, Phase.throws]
                  | ok _ =>
                      simp [enabled, Grant.admitted]

/-- A login with the client id of a stored app. -/
theorem admitsLogin_app_iff
    (db : AuthDb)
    (user : User)
    (tenant : Tenant)
    {app : App}
    (ip : Option String)
    (present : app ∈ db.accounts.apps.rows) :
    admitsLogin env now fresh db user (some tenant) (some app.clientId) ip =
        true ↔
      user.deletedAt = none ∧ user.emailVerifiedAt.isSome ∧
        assertTenantUsable now (some tenant) = .ok () ∧
        app.deletedAt = none ∧
        assertEnablement now
          (db.accounts.appTenants.find? (tenant.id, app.id)) = .ok () := by
  rw [admitsLogin_iff env now fresh db user tenant app.clientId ip
    (db.accounts.clientIdGiven app present),
    db.accounts.findApp_of_mem present]
  cases deleted : app.deletedAt <;> simp

end Door

end Auth
end EvoPlatform
