import EvoPlatform.Auth.Lifecycle
import EvoPlatform.Auth.Sessions

/-!
# Only soft-deleted rows are purged

A purge relies on a check that it has made some statements before.  The check
still holds when the row is deleted, as long as no restore of the row gets in
between.
-/

namespace EvoPlatform
namespace Auth

/-- A row that can be deleted softly. -/
inductive Target
  | user (id : String)
  | tenant (id : String)
  | app (id : String)
  deriving DecidableEq

/-- The column `deletedAt` of a row, if the row is there. -/
def Accounts.mark (accounts : Accounts) : Target → Option (Option Nat)
  | .user id => (accounts.users.find? id).map User.deletedAt
  | .tenant id => (accounts.tenants.find? id).map Tenant.deletedAt
  | .app id => (accounts.apps.find? id).map App.deletedAt

/-- A row is gone or soft-deleted. -/
def Accounts.Doomed (accounts : Accounts) (target : Target) : Prop :=
  ∀ deletedAt ∈ accounts.mark target, deletedAt.isSome

/-- The row that the next statement of a call restores. -/
def LifecyclePhase.restoring : LifecyclePhase → Option Target
  | .console (.restore id) => some (.user id)
  | .restoreTenant id => some (.tenant id)
  | .writeApp existing false => some (.app existing.id)
  | _ => none

/-- The row that a call is to purge, its check made. -/
def LifecyclePhase.purging : LifecyclePhase → Option Target
  | .console (.purge user) => some (.user user.id)
  | .console (.purgeTenant tenant) => some (.tenant tenant.id)
  | .countRoles app | .countTenants app _ | .purgeApp app _ _ =>
      some (.app app.id)
  | _ => none

/-- A phase of the operations on users and tenants by id. -/
def AdminPhase.byId : AdminPhase → Bool
  | .findUser .. | .countOthers .. | .softDelete .. | .recordDeleted ..
  | .restore .. | .purge .. | .recordPurged .. | .findTenant ..
  | .softDeleteTenant .. | .recordTenantDeleted .. | .purgeTenant ..
  | .recordTenantPurged .. | .done .. => true
  | _ => false

/-- A phase of the calls of this module. -/
def LifecyclePhase.byId : LifecyclePhase → Bool
  | .console phase => phase.byId
  | _ => true

/-- No row is restored that a call is to purge. -/
def NoLateRestore (pool : Pool ConsoleDb LifecyclePhase) :
    PoolEvent LifecycleRequest (Nat × Fresh) → Prop
  | .advance index _ => ∀ phase ∈ pool.calls[index]?,
      ∀ target ∈ phase.restoring, ∀ other ∈ pool.calls,
        other.purging ≠ some target
  | _ => True

instance (pool : Pool ConsoleDb LifecyclePhase) :
    (event : PoolEvent LifecycleRequest (Nat × Fresh)) →
      Decidable (NoLateRestore pool event)
  | .advance index _ =>
      inferInstanceAs (Decidable (∀ phase ∈ pool.calls[index]?,
        ∀ target ∈ phase.restoring, ∀ other ∈ pool.calls,
          other.purging ≠ some target))
  | .start _ => isTrue trivial
  | .abandon _ => isTrue trivial

/-! ## What a statement does to the marks -/

/-- How the mark of a row may change. -/
inductive Remark (now : Nat) (before : Option (Option Nat)) :
    Option (Option Nat) → Prop
  | kept : Remark now before before
  | gone : Remark now before none
  | deleted : Remark now before (some (some now))

section Marks

variable {accounts after : Accounts} {now : Nat} {target : Target}

theorem mark_updateUser
    {id : String}
    {deletedAt : Option Nat}
    (updated : accounts.updateUser id
      (fun user => { user with deletedAt := deletedAt }) = some after)
    (target : Target) :
    after.mark target =
      if target = .user id then some deletedAt else accounts.mark target := by
  have sameId : ∀ user : User,
      ({ user with deletedAt := deletedAt } : User).id = user.id :=
    fun _ => rfl
  obtain ⟨sameTenants, sameApps, users⟩ :=
    Accounts.users_of_updateUser sameId updated
  simp only [Accounts.updateUser, Option.bind_eq_some_iff] at updated
  obtain ⟨stored, found, _⟩ := updated
  cases target with
  | user other =>
      simp only [Accounts.mark, users, found, Target.user.injEq]
      split <;> rfl
  | tenant other => simp [Accounts.mark, sameTenants]
  | app other => simp [Accounts.mark, sameApps]

theorem mark_updateTenant
    {id : String}
    {deletedAt : Option Nat}
    (updated : accounts.updateTenant id
      (fun tenant => { tenant with deletedAt := deletedAt }) = some after)
    (target : Target) :
    after.mark target =
      if target = .tenant id then some deletedAt else accounts.mark target := by
  simp only [Accounts.updateTenant, Option.map_eq_some_iff] at updated
  obtain ⟨stored, found, rfl⟩ := updated
  have isId := accounts.tenants.key_of_find? found
  cases target with
  | user other => simp [Accounts.mark]
  | tenant other =>
      simp only [Accounts.mark, Table.find?_put, isId, Target.tenant.injEq]
      split <;> rfl
  | app other => simp [Accounts.mark]

theorem mark_markApp
    {id : String}
    {deletedAt : Option Nat}
    (updated : accounts.markApp id deletedAt = some after)
    (target : Target) :
    after.mark target =
      if target = .app id then some deletedAt else accounts.mark target := by
  unfold Accounts.markApp at updated
  split at updated
  · contradiction
  · rename_i app found
    obtain rfl := Option.some.inj updated
    have isId := accounts.apps.key_of_find? found
    cases target with
    | user other => simp [Accounts.mark]
    | tenant other => simp [Accounts.mark]
    | app other =>
        simp only [Accounts.mark, Table.find?_put, isId, Target.app.injEq]
        split <;> rfl

/-- A row whose mark is written is soft-deleted, or is to be spared. -/
theorem remark_of_written
    {written : Target}
    {deletedAt : Option Nat}
    (marks : after.mark target =
      if target = written then some deletedAt else accounts.mark target)
    (spared : target = written → deletedAt = some now) :
    Remark now (accounts.mark target) (after.mark target) := by
  rw [marks]
  split
  · rename_i same
    rw [spared same]
    exact .deleted
  · exact .kept

/-- A row whose mark is written is not gone. -/
theorem not_gone_of_written
    {written : Target}
    {deletedAt : Option Nat}
    (marks : after.mark target =
      if target = written then some deletedAt else accounts.mark target)
    (present : accounts.mark target ≠ none) :
    after.mark target ≠ none := by
  rw [marks]
  split
  · simp
  · exact present

theorem mark_eraseUsers (accounts : Accounts) (doomed : User → Bool)
    (target : Target) :
    (accounts.eraseUsers doomed).mark target = accounts.mark target ∨
      ∃ id user, target = .user id ∧ accounts.users.find? id = some user ∧
        doomed user = true ∧ (accounts.eraseUsers doomed).mark target = none := by
  cases target with
  | user id =>
      simp only [Accounts.mark, Accounts.eraseUsers, Table.find?_eraseWhere]
      cases found : accounts.users.find? id with
      | none => exact Or.inl rfl
      | some user =>
          cases spared : doomed user with
          | false => simp [spared]
          | true => exact Or.inr ⟨id, user, rfl, found, spared, by simp [spared]⟩
  | tenant id => exact Or.inl rfl
  | app id => exact Or.inl rfl

theorem mark_eraseTenant (accounts : Accounts) (id : String)
    (target : Target) :
    (accounts.eraseTenant id).mark target =
      if target = .tenant id then none else
        (accounts.eraseUsers fun user => user.tenantId = some id).mark
          target := by
  cases target with
  | user other => simp [Accounts.mark, Accounts.eraseTenant]
  | tenant other =>
      simp only [Accounts.mark, Accounts.eraseTenant, Table.find?_erase,
        Target.tenant.injEq]
      split <;> rfl
  | app other =>
      simp [Accounts.mark, Accounts.eraseTenant, Accounts.eraseUsers]

theorem mark_eraseApp (accounts : Accounts) (app : App) (target : Target) :
    (accounts.eraseApp app).mark target =
      if target = .app app.id then none else accounts.mark target := by
  cases target with
  | user other =>
      simp only [Accounts.mark, Accounts.eraseApp]
      rw [Table.find?_mapRows, Option.map_map]
      simp [Function.comp_def, Accounts.withoutApp]
  | tenant other => simp [Accounts.mark, Accounts.eraseApp]
  | app other =>
      simp only [Accounts.mark, Accounts.eraseApp, Table.find?_erase,
        Target.app.injEq]
      split <;> rfl

theorem remark_eraseUsers (doomed : User → Bool) :
    Remark now (accounts.mark target)
      ((accounts.eraseUsers doomed).mark target) := by
  rcases mark_eraseUsers accounts doomed target with
    same | ⟨_, _, _, _, _, gone⟩
  · rw [same]
    exact .kept
  · rw [gone]
    exact .gone

theorem remark_eraseTenant (id : String) :
    Remark now (accounts.mark target)
      ((accounts.eraseTenant id).mark target) := by
  rw [mark_eraseTenant]
  split
  · exact .gone
  · exact remark_eraseUsers _

theorem remark_eraseApp (app : App) :
    Remark now (accounts.mark target)
      ((accounts.eraseApp app).mark target) := by
  rw [mark_eraseApp]
  split
  · exact .gone
  · exact .kept

/-- A soft-deleted row stays so until it is gone. -/
theorem Remark.doomed
    (remark : Remark now (accounts.mark target) (after.mark target))
    (doomed : accounts.Doomed target) :
    after.Doomed target := by
  unfold Accounts.Doomed at doomed ⊢
  generalize accounts.mark target = before at remark doomed
  generalize after.mark target = changed at remark
  cases remark with
  | kept => exact doomed
  | gone =>
      intro deletedAt present
      contradiction
  | deleted =>
      rintro deletedAt ⟨⟩
      rfl

end Marks

section Step

variable (env : AuthEnv) (now : Nat) (fresh : Fresh)

/-- A statement on a user changes only the mark of this user. -/
theorem remark_writeUser
    {db : AuthDb}
    {id : String}
    {deletedAt : Option Nat}
    (next : User → AdminPhase)
    {target : Target}
    (spared : target = .user id → deletedAt = some now) :
    Remark now (db.accounts.mark target)
      ((db.writeUser id (fun user => { user with deletedAt := deletedAt })
        next).1.accounts.mark target) := by
  unfold AuthDb.writeUser
  split
  · exact .kept
  · rename_i updated
    exact remark_of_written (mark_updateUser updated target) spared

/-- A statement of the console changes a mark only as far as it may. -/
theorem AdminPhase.remark_step
    (env : AdminEnv)
    (db : AuthDb)
    {phase : AdminPhase}
    {target : Target}
    (byId : phase.byId = true)
    (spared : ∀ id, phase = .restore id → target ≠ .user id) :
    Remark now (db.accounts.mark target)
      ((phase.step env now fresh db).1.accounts.mark target) := by
  cases phase with
  | softDelete id => exact remark_writeUser now _ fun _ => rfl
  | restore id =>
      exact remark_writeUser now _ fun same => absurd same (spared id rfl)
  | purge user =>
      simp only [AdminPhase.step, AuthDb.purgeUser]
      cases db.accounts.users.find? user.id with
      | none => exact .kept
      | some _ => exact remark_eraseUsers _
  | softDeleteTenant id =>
      simp only [AdminPhase.step]
      split
      · exact .kept
      · rename_i updated
        exact remark_of_written (mark_updateTenant updated target) fun _ => rfl
  | purgeTenant tenant =>
      simp only [AdminPhase.step, AuthDb.purgeTenant]
      cases db.accounts.tenants.find? tenant.id with
      | none => exact .kept
      | some _ => exact remark_eraseTenant tenant.id
  | _ => first | contradiction | exact .kept

theorem remark_step
    (db : ConsoleDb)
    {phase : LifecyclePhase}
    {target : Target}
    (byId : phase.byId = true)
    (spared : phase.restoring ≠ some target) :
    Remark now (db.auth.accounts.mark target)
      ((phase.step env now fresh db).1.auth.accounts.mark target) := by
  cases phase with
  | console phase =>
      apply AdminPhase.remark_step now fresh _ db.auth byId
      rintro id rfl rfl
      exact spared rfl
  | restoreTenant id =>
      simp only [LifecyclePhase.step]
      split
      · exact .kept
      · rename_i updated
        apply remark_of_written (mark_updateTenant updated target)
        rintro rfl
        exact absurd rfl spared
  | writeApp existing deleted =>
      simp only [LifecyclePhase.step]
      split
      · exact .kept
      · rename_i updated
        apply remark_of_written (mark_markApp updated target)
        rintro rfl
        cases deleted with
        | true => rfl
        | false => exact absurd rfl spared
  | purgeApp app roles tenants =>
      simp only [LifecyclePhase.step, ConsoleDb.purgeApp]
      cases db.auth.accounts.apps.find? app.id with
      | none => exact .kept
      | some _ => exact remark_eraseApp _
  | _ => exact .kept

/-- A call of this module goes on as one. -/
theorem AdminPhase.byId_step
    (env : AdminEnv)
    (db : AuthDb)
    {phase : AdminPhase}
    (byId : phase.byId = true) :
    (phase.step env now fresh db).2.byId = true := by
  cases phase with
  | findUser operation id =>
      simp only [AdminPhase.step]
      split
      · rfl
      · cases operation with
        | remove =>
            simp only [UserOperation.goesOn, assertNotLastPlatformAdmin]
            split <;> rfl
        | restore => rfl
        | purge =>
            simp only [UserOperation.goesOn]
            split <;> rfl
  | findTenant operation id =>
      simp only [AdminPhase.step]
      split
      · rfl
      · cases operation with
        | remove => rfl
        | purge =>
            simp only [TenantOperation.goesOn]
            split <;> rfl
  | countOthers existing =>
      simp only [AdminPhase.step]
      split <;> rfl
  | softDelete id =>
      simp only [AdminPhase.step, AuthDb.writeUser]
      split
      · rfl
      · dsimp only
        split <;> rfl
  | restore id =>
      simp only [AdminPhase.step, AuthDb.writeUser]
      split
      · rfl
      · dsimp only
        split <;> rfl
  | purge user =>
      simp only [AdminPhase.step]
      split <;> rfl
  | softDeleteTenant id =>
      simp only [AdminPhase.step]
      split
      · rfl
      · dsimp only
        split <;> rfl
  | purgeTenant tenant =>
      simp only [AdminPhase.step]
      split <;> rfl
  | _ => first | contradiction | rfl

theorem byId_step
    (db : ConsoleDb)
    {phase : LifecyclePhase}
    (byId : phase.byId = true) :
    (phase.step env now fresh db).2.byId = true := by
  cases phase with
  | console phase => exact AdminPhase.byId_step now fresh _ db.auth byId
  | findTenant id =>
      simp only [LifecyclePhase.step]
      split <;> rfl
  | restoreTenant id =>
      simp only [LifecyclePhase.step]
      split
      · rfl
      · dsimp only
        split <;> rfl
  | findApp operation id =>
      simp only [LifecyclePhase.step]
      split
      · rfl
      · cases operation <;>
          simp only [AppOperation.goesOn] <;> split <;> rfl
  | writeApp existing deleted =>
      simp only [LifecyclePhase.step]
      split
      · rfl
      · dsimp only
        split <;> rfl
  | purgeApp app roles tenants =>
      simp only [LifecyclePhase.step]
      split <;> rfl
  | _ => rfl

/-- A call that is to purge a row has just seen that it is soft-deleted, or
was to purge it before. -/
theorem AdminPhase.purging_step
    (env : AdminEnv)
    (db : AuthDb)
    {phase : AdminPhase}
    {target : Target}
    (byId : phase.byId = true)
    (purging : (LifecyclePhase.console
      (phase.step env now fresh db).2).purging = some target) :
    db.accounts.Doomed target ∧ (phase.step env now fresh db).1 = db := by
  cases phase with
  | findUser operation id =>
      simp only [AdminPhase.step] at purging ⊢
      refine ⟨?_, trivial⟩
      split at purging
      · contradiction
      · rename_i existing found
        cases operation with
        | remove =>
            simp only [UserOperation.goesOn, assertNotLastPlatformAdmin]
              at purging
            split at purging <;> contradiction
        | restore => contradiction
        | purge =>
            simp only [UserOperation.goesOn] at purging
            split at purging
            · contradiction
            · rename_i isDeleted
              obtain rfl := Option.some.inj purging
              have isId := db.accounts.users.key_of_find? found
              intro deletedAt marked
              simp only [Accounts.mark, isId, found, Option.map_some,
                Option.mem_some_iff] at marked
              subst marked
              simpa [Option.isSome_iff_ne_none] using isDeleted
  | findTenant operation id =>
      simp only [AdminPhase.step] at purging ⊢
      refine ⟨?_, trivial⟩
      split at purging
      · contradiction
      · rename_i existing found
        cases operation with
        | remove => contradiction
        | purge =>
            simp only [TenantOperation.goesOn] at purging
            split at purging
            · contradiction
            · rename_i isDeleted
              obtain rfl := Option.some.inj purging
              have isId := db.accounts.tenants.key_of_find? found
              intro deletedAt marked
              simp only [Accounts.mark, isId, found, Option.map_some,
                Option.mem_some_iff] at marked
              subst marked
              simpa [Option.isSome_iff_ne_none] using isDeleted
  | countOthers existing =>
      simp only [AdminPhase.step] at purging
      split at purging <;> contradiction
  | softDelete id =>
      simp only [AdminPhase.step, AuthDb.writeUser] at purging
      split at purging
      · contradiction
      · dsimp only at purging
        split at purging <;> contradiction
  | restore id =>
      simp only [AdminPhase.step, AuthDb.writeUser] at purging
      split at purging
      · contradiction
      · dsimp only at purging
        split at purging <;> contradiction
  | purge user =>
      simp only [AdminPhase.step] at purging
      split at purging <;> contradiction
  | softDeleteTenant id =>
      simp only [AdminPhase.step] at purging
      split at purging
      · contradiction
      · dsimp only at purging
        split at purging <;> contradiction
  | purgeTenant tenant =>
      simp only [AdminPhase.step] at purging
      split at purging <;> contradiction
  | _ => contradiction

theorem purging_step
    (db : ConsoleDb)
    {phase : LifecyclePhase}
    {target : Target}
    (byId : phase.byId = true)
    (purging : (phase.step env now fresh db).2.purging = some target) :
    (phase.purging = some target ∨ db.auth.accounts.Doomed target) ∧
      (phase.step env now fresh db).1.auth = db.auth := by
  cases phase with
  | console phase =>
      obtain ⟨doomed, unchanged⟩ :=
        AdminPhase.purging_step now fresh ⟨env, db.roles⟩ db.auth byId purging
      exact ⟨Or.inr doomed, unchanged⟩
  | findTenant id =>
      simp only [LifecyclePhase.step] at purging
      split at purging <;> contradiction
  | restoreTenant id =>
      simp only [LifecyclePhase.step] at purging
      split at purging
      · contradiction
      · dsimp only at purging
        split at purging <;> contradiction
  | findApp operation id =>
      simp only [LifecyclePhase.step] at purging ⊢
      refine ⟨Or.inr ?_, trivial⟩
      split at purging
      · contradiction
      · rename_i app found
        cases operation with
        | purge =>
            simp only [AppOperation.goesOn] at purging
            split at purging
            · contradiction
            · rename_i isDeleted
              obtain rfl := Option.some.inj purging
              have isId := db.auth.accounts.apps.key_of_find? found
              intro deletedAt marked
              simp only [Accounts.mark, isId, found, Option.map_some,
                Option.mem_some_iff] at marked
              subst marked
              simpa [Option.isSome_iff_ne_none] using isDeleted
        | _ =>
            simp only [AppOperation.goesOn] at purging
            split at purging <;> contradiction
  | writeApp existing deleted =>
      simp only [LifecyclePhase.step] at purging
      split at purging
      · contradiction
      · dsimp only at purging
        split at purging <;> contradiction
  | countRoles app => exact ⟨Or.inl purging, rfl⟩
  | countTenants app roles => exact ⟨Or.inl purging, rfl⟩
  | purgeApp app roles tenants =>
      simp only [LifecyclePhase.step] at purging
      split at purging <;> contradiction
  | _ => contradiction

theorem AdminPhase.gone_step
    (env : AdminEnv)
    (db : AuthDb)
    {phase : AdminPhase}
    {target : Target}
    (byId : phase.byId = true)
    (present : db.accounts.mark target ≠ none)
    (gone : (phase.step env now fresh db).1.accounts.mark target = none) :
    (LifecyclePhase.console phase).purging = some target ∨
      ∃ id tenantId user, target = .user id ∧
        db.accounts.users.find? id = some user ∧
        user.tenantId = some tenantId ∧
        db.accounts.mark (.tenant tenantId) ≠ none ∧
        (LifecyclePhase.console phase).purging = some (.tenant tenantId) := by
  cases phase with
  | softDelete id =>
      simp only [AdminPhase.step, AuthDb.writeUser] at gone
      split at gone
      · exact absurd gone present
      · rename_i updated
        exact absurd gone
          (not_gone_of_written (mark_updateUser updated target) present)
  | restore id =>
      simp only [AdminPhase.step, AuthDb.writeUser] at gone
      split at gone
      · exact absurd gone present
      · rename_i updated
        exact absurd gone
          (not_gone_of_written (mark_updateUser updated target) present)
  | purge user =>
      simp only [AdminPhase.step, AuthDb.purgeUser] at gone
      cases found : db.accounts.users.find? user.id with
      | none =>
          rw [found] at gone
          exact absurd gone present
      | some stored =>
          rw [found] at gone
          rcases mark_eraseUsers db.accounts (fun other => other.id = user.id)
            target with same | ⟨id, other, rfl, isUser, isDoomed, _⟩
          · exact absurd (same.symm.trans gone) present
          · have isId := db.accounts.users.key_of_find? isUser
            rw [decide_eq_true_eq, isId] at isDoomed
            exact Or.inl (by rw [isDoomed]; rfl)
  | softDeleteTenant id =>
      simp only [AdminPhase.step] at gone
      split at gone
      · exact absurd gone present
      · rename_i updated
        exact absurd gone
          (not_gone_of_written (mark_updateTenant updated target) present)
  | purgeTenant tenant =>
      simp only [AdminPhase.step, AuthDb.purgeTenant] at gone
      cases found : db.accounts.tenants.find? tenant.id with
      | none =>
          rw [found] at gone
          exact absurd gone present
      | some stored =>
          rw [found] at gone
          have erased : (db.accounts.eraseTenant tenant.id).mark target =
              none :=
            gone
          rw [mark_eraseTenant] at erased
          split at erased
          · rename_i same
            exact Or.inl (congrArg some same.symm)
          · rcases mark_eraseUsers db.accounts
              (fun user => user.tenantId = some tenant.id) target with
              same | ⟨id, user, rfl, isUser, isDoomed, _⟩
            · exact absurd (same.symm.trans erased) present
            · rw [decide_eq_true_eq] at isDoomed
              exact Or.inr ⟨id, tenant.id, user, rfl, isUser, isDoomed,
                by simp [Accounts.mark, found], rfl⟩
  | _ => contradiction

/-- A row that a statement deletes is the one to be purged, or the row of a
user whose tenant is. -/
theorem gone_step
    (db : ConsoleDb)
    {phase : LifecyclePhase}
    {target : Target}
    (byId : phase.byId = true)
    (present : db.auth.accounts.mark target ≠ none)
    (gone : (phase.step env now fresh db).1.auth.accounts.mark target =
      none) :
    phase.purging = some target ∨ ∃ id tenantId user,
      target = .user id ∧ db.auth.accounts.users.find? id = some user ∧
        user.tenantId = some tenantId ∧
        db.auth.accounts.mark (.tenant tenantId) ≠ none ∧
        phase.purging = some (.tenant tenantId) := by
  cases phase with
  | console phase =>
      exact AdminPhase.gone_step now fresh _ db.auth byId present gone
  | restoreTenant id =>
      simp only [LifecyclePhase.step] at gone
      split at gone
      · exact absurd gone present
      · rename_i updated
        exact absurd gone
          (not_gone_of_written (mark_updateTenant updated target) present)
  | writeApp existing deleted =>
      simp only [LifecyclePhase.step] at gone
      split at gone
      · exact absurd gone present
      · rename_i updated
        exact absurd gone
          (not_gone_of_written (mark_markApp updated target) present)
  | purgeApp app roles tenants =>
      simp only [LifecyclePhase.step, ConsoleDb.purgeApp] at gone
      cases found : db.auth.accounts.apps.find? app.id with
      | none =>
          rw [found] at gone
          exact absurd gone present
      | some stored =>
          rw [found] at gone
          have isId := db.auth.accounts.apps.key_of_find? found
          have erased : (db.auth.accounts.eraseApp stored).mark target = none :=
            gone
          rw [mark_eraseApp, isId] at erased
          split at erased
          · rename_i same
            exact Or.inl (congrArg some same.symm)
          · exact absurd erased present
  | _ => exact absurd gone present

end Step

/-! ## Runs -/

/-- A call is one of this module, and the row that it is to purge is
soft-deleted. -/
def PurgesDoomed (db : ConsoleDb) (phase : LifecyclePhase) : Prop :=
  phase.byId = true ∧
    ∀ target ∈ phase.purging, db.auth.accounts.Doomed target

theorem purgesDoomed_begins (db : ConsoleDb) (request : LifecycleRequest) :
    PurgesDoomed db request.begins := by
  cases request <;> exact ⟨rfl, fun target present => by contradiction⟩

/-- A statement leaves every call vouched for, unless it restores the row that
the call is to purge. -/
theorem PurgesDoomed.undisturbed
    {env : AuthEnv} {now : Nat} {fresh : Fresh} {db : ConsoleDb}
    {phase bystander : LifecyclePhase}
    (vouched : PurgesDoomed db bystander)
    (byId : phase.byId = true)
    (timely : ∀ target ∈ phase.restoring, bystander.purging ≠ some target) :
    PurgesDoomed (phase.step env now fresh db).1 bystander := by
  refine ⟨vouched.1, ?_⟩
  intro target isTarget
  have spared : phase.restoring ≠ some target :=
    fun restored => timely target restored isTarget
  exact (remark_step env now fresh db byId spared).doomed
    (vouched.2 target isTarget)

theorem PurgesDoomed.goesOn
    {env : AuthEnv} {now : Nat} {fresh : Fresh} {db : ConsoleDb}
    {phase : LifecyclePhase}
    (vouched : PurgesDoomed db phase) :
    PurgesDoomed (phase.step env now fresh db).1
      (phase.step env now fresh db).2 := by
  refine ⟨byId_step env now fresh db vouched.1, ?_⟩
  intro target isTarget
  obtain ⟨doomed, unchanged⟩ :=
    purging_step env now fresh db vouched.1 isTarget
  rw [unchanged]
  rcases doomed with before | doomed
  · exact vouched.2 target before
  · exact doomed

/-- From any database and in every interleaving of calls that remove, restore
and purge tenants, apps and users: while no row is restored that a call is to
purge, whatever row the next statement of a call deletes is soft-deleted, or
is that of a user whose tenant is. -/
theorem only_softDeleted_purged
    (env : AuthEnv)
    {db : ConsoleDb}
    {events : List (PoolEvent LifecycleRequest (Nat × Fresh))}
    {final : Pool ConsoleDb LifecyclePhase}
    (run : Run (lifecycle env).poolStep NoLateRestore ⟨db, []⟩ events final)
    {phase : LifecyclePhase}
    (isCall : phase ∈ final.calls)
    (input : Nat × Fresh)
    {target : Target}
    {deletedAt : Option Nat}
    (present : final.data.auth.accounts.mark target = some deletedAt)
    (deleted : ((lifecycle env).step input final.data
      phase).1.auth.accounts.mark target = none) :
    deletedAt.isSome ∨ ∃ id tenantId user tenantDeletedAt,
      target = .user id ∧
        final.data.auth.accounts.users.find? id = some user ∧
        user.tenantId = some tenantId ∧
        final.data.auth.accounts.mark (.tenant tenantId) =
          some tenantDeletedAt ∧
        tenantDeletedAt.isSome := by
  obtain ⟨noted, watched⟩ : ∃ noted,
      Run ((lifecycle env).watch fun (_ : Unit) _ _ _ _ => ())
        (fun state event => NoLateRestore state.1 event) (⟨db, []⟩, ()) events
        (final, noted) :=
    Program.watched run ()
  have holds : Program.Holds (fun _ (_ : Unit) => True)
      (fun db _ _ phase => PurgesDoomed db phase) (final, noted) := by
    apply Program.always _ _ _ watched
    · refine ⟨trivial, ?_⟩
      intro index call isPresent
      contradiction
    · intro pool _ request _ _
      exact purgesDoomed_begins pool.data request
    · intro pool _ index input phase holds timely isPresent
      have vouched := holds.ofCall index phase isPresent
      refine ⟨trivial, vouched.goesOn, ?_⟩
      intro other bystander _ found
      exact (holds.ofCall other bystander found).undisturbed vouched.1
        fun target restored => timely phase isPresent target restored
          bystander (List.mem_of_getElem? found)
    · intro data _ index phase _ _
      exact ⟨rfl, fun target isTarget => by contradiction⟩
  obtain ⟨index, atIndex⟩ := List.mem_iff_getElem?.mp isCall
  have vouched := holds.ofCall index phase atIndex
  rcases gone_step env input.1 input.2 final.data vouched.1
      (by simp [present]) deleted with
    isTarget | ⟨id, tenantId, user, isUser, found, ofTenant, hasTenant,
      isTenant⟩
  · exact Or.inl (vouched.2 target isTarget deletedAt present)
  · obtain ⟨tenantDeletedAt, marked⟩ := Option.ne_none_iff_exists'.mp hasTenant
    exact Or.inr ⟨id, tenantId, user, tenantDeletedAt, isUser, found, ofTenant,
      marked, vouched.2 _ isTenant tenantDeletedAt marked⟩

/-! ## A restore in the gap -/

/-- A database with one tenant. -/
def oneTenant (deletedAt : Option Nat) : ConsoleDb where
  auth :=
    { accounts :=
        { tenants :=
            ⟨[⟨"t1", "acme", "Acme", .active, none, deletedAt⟩], by simp⟩
          apps := .empty
          appTenants := .empty
          users := .empty
          addressUnique := Accounts.empty.addressUnique
          clientIdGiven := Accounts.empty.clientIdGiven
          clientIdUnique := Accounts.empty.clientIdUnique
          subscriptionUnique := Accounts.empty.subscriptionUnique
          references := by simp [Table.empty] }
      tokens := .empty
      audit := [] }
  roles := .empty

/-- The next statement of a console call. -/
def consoleStatement (now index : Nat) :
    PoolEvent LifecycleRequest (Nat × Fresh) :=
  .advance index (now, ⟨"", "", ""⟩)

/-- A tenant is removed and then purged. -/
theorem only_softDeleted_purged_inTurn :
    ∃ final, Run (lifecycle plainEnv).poolStep NoLateRestore
        ⟨oneTenant none, []⟩
        [.start (.tenant .remove "t1"), consoleStatement 1 0,
          consoleStatement 2 0, .start (.tenant .purge "t1"),
          consoleStatement 3 1] final ∧
      ∃ deletedAt, final.data.auth.accounts.mark (.tenant "t1") =
          some deletedAt ∧
        (∃ phase ∈ final.calls, ((lifecycle plainEnv).step (4, ⟨"", "", ""⟩)
          final.data phase).1.auth.accounts.mark (.tenant "t1") = none) ∧
        deletedAt.isSome := by
  obtain ⟨final, run, purged⟩ := Run.exists_of_execute
    (lifecycle plainEnv).poolStep
    (fun state event => decide (NoLateRestore state event))
    (fun _ _ passed => of_decide_eq_true passed) ⟨oneTenant none, []⟩
    [.start (.tenant .remove "t1"), consoleStatement 1 0,
      consoleStatement 2 0, .start (.tenant .purge "t1"),
      consoleStatement 3 1]
    (fun state =>
      state.data.auth.accounts.mark (.tenant "t1") = some (some 2) &&
        state.calls.any fun phase =>
          ((lifecycle plainEnv).step (4, ⟨"", "", ""⟩)
            state.data phase).1.auth.accounts.mark (.tenant "t1") = none)
    (by decide +kernel)
  simp only [Bool.and_eq_true, decide_eq_true_eq, List.any_eq_true] at purged
  obtain ⟨present, phase, isCall, deleted⟩ := purged
  refine ⟨final, run, some 2, present, ⟨phase, isCall, deleted⟩, ?_⟩
  rcases only_softDeleted_purged plainEnv run isCall (4, ⟨"", "", ""⟩) present
      deleted with isSome | ⟨id, _, _, _, isUser, _⟩
  · exact isSome
  · contradiction

/-- A restore gets in between the check of a purge and its transaction: the
tenant is active again when its row is deleted. -/
theorem restoredTenant_purged :
    ∃ final, Run (lifecycle plainEnv).poolStep (fun _ _ => True)
        ⟨oneTenant (some 1), []⟩
        [.start (.tenant .purge "t1"), .start (.restoreTenant "t1"),
          consoleStatement 2 0, consoleStatement 3 1, consoleStatement 4 1,
          consoleStatement 5 1] final ∧
      final.data.auth.accounts.mark (.tenant "t1") = some none ∧
      ∃ phase ∈ final.calls, ((lifecycle plainEnv).step (6, ⟨"", "", ""⟩)
        final.data phase).1.auth.accounts.mark (.tenant "t1") = none := by
  obtain ⟨final, run, purged⟩ := Run.exists_of_execute
    (lifecycle plainEnv).poolStep (fun _ _ => true) (fun _ _ _ => trivial)
    ⟨oneTenant (some 1), []⟩
    [.start (.tenant .purge "t1"), .start (.restoreTenant "t1"),
      consoleStatement 2 0, consoleStatement 3 1, consoleStatement 4 1,
      consoleStatement 5 1]
    (fun state => state.data.auth.accounts.mark (.tenant "t1") = some none &&
      state.calls.any fun phase => ((lifecycle plainEnv).step (6, ⟨"", "", ""⟩)
        state.data phase).1.auth.accounts.mark (.tenant "t1") = none)
    (by decide +kernel)
  simp only [Bool.and_eq_true, decide_eq_true_eq, List.any_eq_true] at purged
  exact ⟨final, run, purged⟩

end Auth
end EvoPlatform
