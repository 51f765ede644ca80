import EvoPlatform.Auth.Door
import EvoPlatform.Billing.Ownership

/-!
# The entitlement of a workspace

`BillingService.entitlement` tells an app whether a login would be admitted.
It looks at the row of the pair as the door does, but neither at the workspace
nor at the app.
-/

namespace EvoPlatform
namespace Billing

open Auth

/-- The answer to an app. -/
structure Entitlement where
  enabled : Bool
  status : Option AppTenantStatus
  plan : Option String
  trialEndsAt : Option Nat
  graceUntil : Option Nat
  daysLeft : Option Nat

/-- The deadline that currently threatens access. -/
def threat (row : AppTenant) : Option Nat :=
  match row.status with
  | .trial => row.trialEndsAt
  | .pastDue => row.graceUntil
  | .active | .suspended => none

/-- The days until a deadline, of which a part counts as a whole one. -/
def daysUntil (now deadline : Nat) : Nat :=
  (deadline - now + 86399999) / 86400000

/-- `entitlement`. -/
def entitlement (now : Nat) (accounts : Accounts) (tenantId : String)
    (app : App) : Entitlement :=
  match accounts.appTenants.find? (tenantId, app.id) with
  | none => ⟨false, none, none, none, none, none⟩
  | some access =>
      let trialExpired :=
        decide (access.status = .trial) && passed access.trialEndsAt now
      let graceExpired :=
        decide (access.status = .pastDue) && passed access.graceUntil now
      { enabled :=
          decide (access.status ≠ .suspended) && !trialExpired && !graceExpired
        status := some access.status
        plan := some access.plan
        trialEndsAt := access.trialEndsAt
        graceUntil := access.graceUntil
        daysLeft := (threat access).map (daysUntil now) }

/-- `enabled` mirrors what `assertAppEnabled` requires of the row. -/
theorem enabled_entitlement_iff
    (now : Nat)
    (accounts : Accounts)
    (tenantId : String)
    (app : App) :
    (entitlement now accounts tenantId app).enabled = true ↔
      assertEnablement now (accounts.appTenants.find? (tenantId, app.id)) =
        .ok () := by
  unfold entitlement
  cases accounts.appTenants.find? (tenantId, app.id) with
  | none => simp [assertEnablement]
  | some access =>
      cases status : access.status with
      | trial =>
          cases passed access.trialEndsAt now <;>
            simp [assertEnablement, *]
      | active => simp [assertEnablement, status]
      | pastDue =>
          cases passed access.graceUntil now <;>
            simp [assertEnablement, *]
      | suspended => simp [assertEnablement, status]

/-- The answer to an app tells whether the door would admit a verified user of
the workspace. -/
def AgreesWithDoor (now : Nat) (accounts : Accounts) (tenant : Tenant)
    (app : App) : Prop :=
  ∀ (env : AuthEnv) (fresh : Fresh) (tokens : Tokens)
    (audit : List AuditEvent) (user : User) (ip : Option String),
    user.tenantId = some tenant.id → user.deletedAt = none →
    user.emailVerifiedAt.isSome →
      ((entitlement now accounts tenant.id app).enabled = true ↔
        admitsLogin env now fresh ⟨accounts, tokens, audit⟩ user (some tenant)
          (some app.clientId) ip = true)

/-- The answer agrees with the door exactly when the workspace is usable and
the app is not deleted, or the row of the pair refuses logins anyway. -/
theorem entitlement_agrees_iff
    (now : Nat)
    (accounts : Accounts)
    (tenant : Tenant)
    (app : App)
    (present : app ∈ accounts.apps.rows) :
    AgreesWithDoor now accounts tenant app ↔
      (assertTenantUsable now (some tenant) = .ok () ∧ app.deletedAt = none) ∨
        assertEnablement now
          (accounts.appTenants.find? (tenant.id, app.id)) ≠ .ok () := by
  constructor
  · intro agrees
    by_contra neither
    obtain ⟨unusable, closed⟩ := not_or.mp neither
    have enabled := not_not.mp closed
    let user : User :=
      ⟨"", some tenant.id, "", none, none, none, none, "", false, false, some 0, none, []⟩
    let env : AuthEnv :=
      ⟨id, fun _ _ => true, fun _ _ => "", "", id, id, fun _ => none,
        fun _ _ _ => false, 0, 0⟩
    have admitted := (agrees env ⟨"", "", ""⟩ .empty [] user none rfl rfl
      rfl).mp ((enabled_entitlement_iff now accounts tenant.id app).mpr enabled)
    obtain ⟨_, _, usable, kept, _⟩ := (admitsLogin_app_iff env now ⟨"", "", ""⟩
      ⟨accounts, .empty, []⟩ user tenant none present).mp admitted
    exact unusable ⟨usable, kept⟩
  · intro condition env fresh tokens audit user ip _ notDeleted verified
    rw [enabled_entitlement_iff, admitsLogin_app_iff env now fresh
      ⟨accounts, tokens, audit⟩ user tenant ip present]
    constructor
    · intro enabled
      rcases condition with ⟨usable, kept⟩ | closed
      · exact ⟨notDeleted, verified, usable, kept, enabled⟩
      · exact absurd enabled closed
    · rintro ⟨_, _, _, _, enabled⟩
      exact enabled

/-- The workspace of the small database. -/
def demoTenant (status : TenantStatus) : Tenant :=
  ⟨"t1", "acme", "Acme", status, none, none⟩

/-- The first app of the small database. -/
def demoApp : App := ⟨"a1", "app_1", none⟩

theorem entitlement_agrees_iff_subscribed :
    AgreesWithDoor 2000 subscribedDb.accounts (demoTenant .active) demoApp ↔
      (assertTenantUsable 2000 (some (demoTenant .active)) = .ok () ∧
          demoApp.deletedAt = none) ∨
        assertEnablement 2000 (subscribedDb.accounts.appTenants.find?
          ((demoTenant .active).id, demoApp.id)) ≠ .ok () :=
  entitlement_agrees_iff 2000 subscribedDb.accounts (demoTenant .active)
    demoApp (by decide +kernel)

/-- The accounts once an operator has suspended the subscribed workspace. -/
def suspendedTenantAccounts : Accounts :=
  { subscribedDb.accounts with
    tenants := ⟨[demoTenant .suspended], by decide⟩
    references := by decide +kernel }

/-- A suspended workspace whose subscription is active is told that logins are
admitted, while the door refuses them. -/
theorem suspendedTenant_disagrees :
    suspendedTenantAccounts.tenants.find? "t1" =
        some (demoTenant .suspended) ∧
    (entitlement 2000 suspendedTenantAccounts "t1" demoApp).enabled = true ∧
    ¬ AgreesWithDoor 2000 suspendedTenantAccounts (demoTenant .suspended)
        demoApp := by
  have enabled :
      (entitlement 2000 suspendedTenantAccounts "t1" demoApp).enabled =
        true := by
    decide +kernel
  refine ⟨rfl, enabled, fun agrees => ?_⟩
  have admitted := (agrees
    ⟨id, fun _ _ => true, fun _ _ => "", "", id, id, fun _ => none,
      fun _ _ _ => false, 0, 0⟩ ⟨"", "", ""⟩ .empty []
    ⟨"u1", some "t1", "a@b.co", none, none, none, none, "", false, false, some 0,
      none, []⟩ none
    rfl rfl rfl).mp enabled
  exact absurd admitted (by decide +kernel)

end Billing
end EvoPlatform
