import Mathlib.Data.List.Basic
import Mathlib.Data.List.Lattice
import Mathlib.Data.List.Nodup
import Mathlib.Data.List.Pairwise

/-!
# The role dropdowns of the console

The users page shows one dropdown for each app that has roles, and a change of
one of them saves what all dropdowns of the user show.  The server replaces the
user's roles by what it is sent.
-/

namespace EvoPlatform
namespace AdminUi

structure Role where
  id : String
  name : String
  deriving DecidableEq

structure App where
  id : String
  name : String
  roles : List Role
  deriving DecidableEq

/-- A row of `user_roles`. -/
structure UserRole where
  userId : String
  roleId : String
  deriving DecidableEq

/-- `role` is one of the app. -/
def App.has (app : App) (roleId : String) : Bool :=
  app.roles.any fun role => role.id = roleId

/-- The apps with their roles, the users, and who holds which role.  The ids are
keys, and a role that is held is one of an app. -/
structure Directory where
  apps : List App
  users : List String
  userRoles : List UserRole
  roleIdsNodup : (apps.flatMap fun app => app.roles.map Role.id).Nodup
  appIdsNodup : (apps.map App.id).Nodup
  roleId_ne : ∀ app ∈ apps, app.has "" = false
  userRolesNodup : userRoles.Nodup
  roleExists : ∀ row ∈ userRoles, (apps.any fun app => app.has row.roleId) = true

namespace Directory

variable (directory : Directory)

/-- The roles of a user, of all apps. -/
def rolesOf (userId : String) : List String :=
  (directory.userRoles.filter fun row => row.userId = userId).map
    UserRole.roleId

/-- The roles of a user in one app. -/
def rolesIn (userId : String) (app : App) : List String :=
  (directory.rolesOf userId).filter app.has

/-- What the transaction of `setRoles` leaves. -/
def replaceRoles (userId : String) (roleIds : List String) : List UserRole :=
  (directory.userRoles.filter fun row => row.userId ≠ userId) ++
    roleIds.map fun roleId => ⟨userId, roleId⟩

/-- `setRoles`.  It fails if the user is unknown, and if the keys of the table
refuse a row. -/
def setRoles (userId : String) (roleIds : List String) : Option Directory :=
  if accepted : userId ∈ directory.users ∧
      (directory.replaceRoles userId roleIds).Nodup ∧
      ∀ row ∈ directory.replaceRoles userId roleIds,
        (directory.apps.any fun app => app.has row.roleId) = true then
    some { directory with
      userRoles := directory.replaceRoles userId roleIds
      userRolesNodup := accepted.2.1
      roleExists := accepted.2.2 }
  else none

end Directory

/-! ## The page -/

/-- A dropdown of a user: its app, and the role that it shows, or nothing. -/
structure RoleSelect where
  app : App
  value : String

/-- `roleCell`, where `listed` are the roles of the user in the order in which
they were listed. -/
def roleCell (apps : List App) (listed : List String) : List RoleSelect :=
  (apps.filter fun app => !app.roles.isEmpty).map fun app =>
    ⟨app, (listed.find? app.has).getD ""⟩

/-- Choose a value in the dropdown of an app. -/
def choose (selects : List RoleSelect) (appId chosen : String) :
    List RoleSelect :=
  selects.map fun select =>
    if select.app.id = appId then { select with value := chosen } else select

/-- What a change saves: the values of all dropdowns that show a role. -/
def collect (selects : List RoleSelect) : List String :=
  (selects.map RoleSelect.value).filter fun value => value ≠ ""

/-- The change of a dropdown, up to what the server has then. -/
def Directory.changeRole (directory : Directory) (userId : String)
    (listed : List String) (appId chosen : String) : Option Directory :=
  directory.setRoles userId
    (collect (choose (roleCell directory.apps listed) appId chosen))

/-! ## A local change -/

/-- The roles in the other apps are as before, and the chosen role, if there is
one, is the only one in the app. -/
def LocalChange (before after : Directory) (userId : String) (app : App)
    (chosen : String) : Prop :=
  (∀ other ∈ before.apps, other.id ≠ app.id → ∀ roleId, other.has roleId →
    (roleId ∈ after.rolesOf userId ↔ roleId ∈ before.rolesOf userId)) ∧
  ∀ roleId, app.has roleId → (roleId ∈ after.rolesOf userId ↔ roleId = chosen)

variable {directory : Directory} {userId appId chosen : String}
  {listed : List String}

theorem mem_rolesOf {roleId : String} :
    roleId ∈ directory.rolesOf userId ↔
      (⟨userId, roleId⟩ : UserRole) ∈ directory.userRoles := by
  unfold Directory.rolesOf
  rw [List.mem_map]
  constructor
  · rintro ⟨row, kept, rfl⟩
    obtain ⟨present, sameUser⟩ := List.mem_filter.mp kept
    rw [← of_decide_eq_true sameUser]
    exact present
  · intro present
    exact ⟨_, List.mem_filter.mpr ⟨present, by simp⟩, rfl⟩

theorem nodup_rolesOf (directory : Directory) (userId : String) :
    (directory.rolesOf userId).Nodup := by
  refine List.Nodup.map_on ?_ (directory.userRolesNodup.filter _)
  rintro ⟨user, role⟩ first ⟨user', role'⟩ second same
  have firstUser := of_decide_eq_true (List.mem_filter.mp first).2
  have secondUser := of_decide_eq_true (List.mem_filter.mp second).2
  simp_all

/-- A role belongs to one app. -/
theorem app_eq_of_role
    {left right : App}
    {roleId : String}
    (leftPresent : left ∈ directory.apps)
    (rightPresent : right ∈ directory.apps)
    (leftHas : left.has roleId = true)
    (rightHas : right.has roleId = true) :
    left = right := by
  by_contra different
  have disjoint := (List.nodup_flatMap.mp directory.roleIdsNodup).2
  have symmetric : Std.Symm (Function.onFun List.Disjoint
      fun app : App => app.roles.map Role.id) :=
    ⟨fun _ _ apart => List.Disjoint.symm apart⟩
  have apart := disjoint.forall leftPresent rightPresent different
  obtain ⟨role, inLeft, isRole⟩ := List.any_eq_true.mp leftHas
  obtain ⟨role', inRight, isRole'⟩ := List.any_eq_true.mp rightHas
  refine apart (List.mem_map.mpr ⟨role, inLeft, of_decide_eq_true isRole⟩)
    (List.mem_map.mpr ⟨role', inRight, of_decide_eq_true isRole'⟩)

theorem app_eq_of_id
    {left right : App}
    (leftPresent : left ∈ directory.apps)
    (rightPresent : right ∈ directory.apps)
    (same : left.id = right.id) :
    left = right :=
  List.inj_on_of_nodup_map directory.appIdsNodup leftPresent rightPresent same

/-- The user has the new roles, and every other user has what they had. -/
theorem mem_replaceRoles
    {roleIds : List String}
    {row : UserRole} :
    row ∈ directory.replaceRoles userId roleIds ↔
      if row.userId = userId then row.roleId ∈ roleIds
      else row ∈ directory.userRoles := by
  obtain ⟨user, role⟩ := row
  rw [Directory.replaceRoles, List.mem_append, List.mem_filter, List.mem_map]
  by_cases same : user = userId
  · simp [same]
  · simp [same, Ne.symm same]

/-- Roles that exist, none of them twice, are set. -/
theorem setRoles_of_exist
    {roleIds : List String}
    (known : userId ∈ directory.users)
    (nodup : roleIds.Nodup)
    (exist : ∀ roleId ∈ roleIds,
      ∃ app ∈ directory.apps, app.has roleId = true) :
    ∃ after, directory.setRoles userId roleIds = some after ∧
      after.userRoles = directory.replaceRoles userId roleIds := by
  have accepted : userId ∈ directory.users ∧
      (directory.replaceRoles userId roleIds).Nodup ∧
      ∀ row ∈ directory.replaceRoles userId roleIds,
        (directory.apps.any fun app => app.has row.roleId) = true := by
    refine ⟨known, List.nodup_append.mpr
      ⟨directory.userRolesNodup.filter _, ?_, ?_⟩, ?_⟩
    · exact nodup.map fun _ _ same => (UserRole.mk.inj same).2
    · rintro row kept _ new rfl
      obtain ⟨roleId, -, rfl⟩ := List.mem_map.mp new
      simp at kept
    · intro row stored
      rw [mem_replaceRoles] at stored
      split at stored
      · exact List.any_eq_true.mpr (exist row.roleId stored)
      · exact directory.roleExists row stored
  exact ⟨_, dif_pos accepted, rfl⟩

/-! ## What is saved -/

/-- What the dropdown of an app shows when a value has been chosen in one. -/
def shown (listed : List String) (appId chosen : String) (app : App) :
    String :=
  if app.id = appId then chosen else (listed.find? app.has).getD ""

theorem collect_eq (apps : List App) (listed : List String)
    (appId chosen : String) :
    collect (choose (roleCell apps listed) appId chosen) =
      ((apps.filter fun app => !app.roles.isEmpty).map
        (shown listed appId chosen)).filter fun value => value ≠ "" := by
  rw [collect, choose, roleCell, List.map_map, List.map_map]
  congr 2
  funext app
  simp only [Function.comp_apply, shown]
  split
  · rfl
  · rfl

section Change

variable {app : App}
  (present : app ∈ directory.apps)
  (hasChosen : chosen = "" ∨ app.has chosen = true)

include present hasChosen

/-- A dropdown that shows a role shows one of its app. -/
theorem has_shown
    {other : App}
    (otherPresent : other ∈ directory.apps)
    (shows : shown listed app.id chosen other ≠ "") :
    other.has (shown listed app.id chosen other) = true := by
  unfold shown at shows ⊢
  split at shows
  · rename_i same
    rw [app_eq_of_id otherPresent present same, if_pos rfl]
    exact hasChosen.resolve_left shows
  · rename_i different
    rw [if_neg different]
    cases found : listed.find? other.has with
    | none => simp [found] at shows
    | some roleId => exact List.find?_some found

/-- A role of an app is saved if and only if the dropdown of the app shows
it. -/
theorem mem_collect_iff
    {other : App}
    {roleId : String}
    (otherPresent : other ∈ directory.apps)
    (otherHas : other.has roleId = true) :
    roleId ∈ collect
        (choose (roleCell directory.apps listed) app.id chosen) ↔
      shown listed app.id chosen other = roleId := by
  rw [collect_eq, List.mem_filter, List.mem_map]
  constructor
  · rintro ⟨⟨holder, kept, rfl⟩, nonempty⟩
    have holderPresent := List.mem_of_mem_filter kept
    have holderHas := @has_shown directory chosen listed app present hasChosen
      holder holderPresent (of_decide_eq_true nonempty)
    rw [app_eq_of_role otherPresent holderPresent otherHas holderHas]
  · intro shows
    refine ⟨⟨other, List.mem_filter.mpr ⟨otherPresent, ?_⟩, shows⟩, ?_⟩
    · cases roles : other.roles with
      | nil => simp [App.has, roles] at otherHas
      | cons role roles => rfl
    · refine decide_eq_true fun empty => ?_
      have unnamed := directory.roleId_ne other otherPresent
      rw [← empty, otherHas] at unnamed
      cases unnamed

/-- What is saved are roles that exist. -/
theorem exists_app_of_mem_collect
    {roleId : String}
    (saved : roleId ∈ collect
      (choose (roleCell directory.apps listed) app.id chosen)) :
    ∃ other ∈ directory.apps, other.has roleId = true := by
  rw [collect_eq, List.mem_filter, List.mem_map] at saved
  obtain ⟨⟨holder, kept, rfl⟩, nonempty⟩ := saved
  have holderPresent := List.mem_of_mem_filter kept
  exact ⟨holder, holderPresent,
    has_shown present hasChosen holderPresent (of_decide_eq_true nonempty)⟩

/-- No role is saved twice. -/
theorem nodup_collect :
    (collect
      (choose (roleCell directory.apps listed) app.id chosen)).Nodup := by
  rw [collect_eq, List.filter_map]
  refine List.Nodup.map_on ?_
    ((directory.appIdsNodup.of_map.filter _).filter _)
  intro left leftKept right rightKept same
  obtain ⟨leftListed, leftShows⟩ := List.mem_filter.mp leftKept
  obtain ⟨rightListed, rightShows⟩ := List.mem_filter.mp rightKept
  have leftPresent := List.mem_of_mem_filter leftListed
  have rightPresent := List.mem_of_mem_filter rightListed
  have leftHas := @has_shown directory chosen listed app present hasChosen
    left leftPresent (of_decide_eq_true leftShows)
  have rightHas := @has_shown directory chosen listed app present hasChosen
    right rightPresent (of_decide_eq_true rightShows)
  rw [← same] at rightHas
  exact app_eq_of_role leftPresent rightPresent leftHas rightHas

/-- The change is saved: the user has the roles that the dropdowns show. -/
theorem changeRole_saves
    (known : userId ∈ directory.users)
    (listed : List String) :
    ∃ after, directory.changeRole userId listed app.id chosen = some after ∧
      ∀ roleId, roleId ∈ after.rolesOf userId ↔ roleId ∈ collect
        (choose (roleCell directory.apps listed) app.id chosen) := by
  obtain ⟨after, saved, stored⟩ := setRoles_of_exist known
    (nodup_collect present hasChosen)
    (fun roleId => @exists_app_of_mem_collect directory chosen listed app
      present hasChosen roleId)
  refine ⟨after, saved, fun roleId => ?_⟩
  rw [mem_rolesOf, stored, mem_replaceRoles, if_pos rfl]

end Change

/-! ## When it is local -/

/-- At most one of the listed roles is of an app, if and only if the first one
is all of them. -/
theorem length_filter_le_one_iff
    {has : String → Bool}
    (nodup : listed.Nodup) :
    (listed.filter has).length ≤ 1 ↔
      ∀ roleId, has roleId = true →
        (listed.find? has = some roleId ↔ roleId ∈ listed) := by
  have keptNodup := nodup.filter has
  have mem_kept : ∀ roleId, has roleId = true →
      (roleId ∈ listed.filter has ↔ roleId ∈ listed) := by
    intro roleId isOne
    rw [List.mem_filter, and_iff_left isOne]
  rw [← List.head?_filter]
  cases kept : listed.filter has with
  | nil =>
      simp only [kept] at mem_kept
      refine iff_of_true (Nat.zero_le 1) fun roleId isOne => ?_
      rw [← mem_kept roleId isOne]
      simp
  | cons first rest =>
      simp only [kept] at mem_kept keptNodup
      cases rest with
      | nil =>
          refine iff_of_true (Nat.le_refl 1) fun roleId isOne => ?_
          rw [← mem_kept roleId isOne, List.mem_singleton, List.head?_cons,
            Option.some.injEq]
          exact eq_comm
      | cons second rest =>
          refine iff_of_false (by simp) fun allFirst => ?_
          have inKept : second ∈ listed.filter has := by simp [kept]
          have isOne := (List.mem_filter.mp inKept).2
          have same := (allFirst second isOne).mpr
            (List.mem_of_mem_filter inKept)
          rw [List.head?_cons] at same
          obtain rfl := Option.some.inj same
          exact (List.nodup_cons.mp keptNodup).1 List.mem_cons_self

/-- A change of a dropdown is saved, and it is local if and only if the user
holds at most one role in each other app. -/
theorem change_local_iff
    (directory : Directory)
    (userId : String)
    (known : userId ∈ directory.users)
    (listed : List String)
    (listing : listed.Perm (directory.rolesOf userId))
    (app : App)
    (present : app ∈ directory.apps)
    (chosen : String)
    (hasChosen : chosen = "" ∨ app.has chosen = true) :
    ∃ after, directory.changeRole userId listed app.id chosen = some after ∧
      (LocalChange directory after userId app chosen ↔
        ∀ other ∈ directory.apps, other.id ≠ app.id →
          (directory.rolesIn userId other).length ≤ 1) := by
  obtain ⟨after, saved, has⟩ := changeRole_saves present hasChosen known listed
  refine ⟨after, saved, ?_⟩
  have ownRoles : ∀ roleId, app.has roleId = true →
      (roleId ∈ after.rolesOf userId ↔ roleId = chosen) := by
    intro roleId appHas
    rw [has, mem_collect_iff present hasChosen present appHas, shown,
      if_pos rfl]
    exact eq_comm
  rw [LocalChange, and_iff_left ownRoles]
  refine forall₃_congr fun other otherPresent different => ?_
  have sameLength : (directory.rolesIn userId other).length =
      (listed.filter other.has).length :=
    (listing.filter other.has).length_eq.symm
  rw [sameLength, length_filter_le_one_iff
    (listing.nodup_iff.mpr (nodup_rolesOf directory userId))]
  refine forall₂_congr fun roleId otherHas => ?_
  have nonempty : roleId ≠ "" := by
    rintro rfl
    rw [directory.roleId_ne other otherPresent] at otherHas
    cases otherHas
  have getD : (listed.find? other.has).getD "" = roleId ↔
      listed.find? other.has = some roleId := by
    cases listed.find? other.has with
    | none => simp [Ne.symm nonempty]
    | some first => simp
  rw [has, mem_collect_iff present hasChosen otherPresent otherHas, shown,
    if_neg different, getD, listing.mem_iff]

def invoices : App :=
  ⟨"a1", "invoices", [⟨"r1", "editor"⟩, ⟨"r2", "approver"⟩]⟩

def docs : App := ⟨"a2", "docs", [⟨"r3", "reader"⟩, ⟨"r4", "writer"⟩]⟩

/-- A user who edits and approves invoices and reads documents. -/
def invoicesAndDocs : Directory where
  apps := [invoices, docs]
  users := ["u1"]
  userRoles := [⟨"u1", "r1"⟩, ⟨"u1", "r2"⟩, ⟨"u1", "r3"⟩]
  roleIdsNodup := by decide
  appIdsNodup := by decide
  roleId_ne := by decide
  userRolesNodup := by decide
  roleExists := by decide

/-- To make the user an approver only leaves the documents alone. -/
theorem approver_change_local :
    ∃ after,
      invoicesAndDocs.changeRole "u1" ["r1", "r2", "r3"] "a1" "r2" =
        some after ∧
      LocalChange invoicesAndDocs after "u1" invoices "r2" := by
  obtain ⟨after, saved, iff⟩ := change_local_iff invoicesAndDocs "u1"
    (by decide) ["r1", "r2", "r3"] (by decide) invoices (by decide) "r2"
    (by decide)
  exact ⟨after, saved, iff.mpr (by decide)⟩

/-- To make the user a writer of documents takes the approval of invoices
away. -/
theorem writer_loses_approval :
    ∃ after,
      invoicesAndDocs.changeRole "u1" ["r1", "r2", "r3"] "a2" "r4" =
        some after ∧
      ¬ LocalChange invoicesAndDocs after "u1" docs "r4" := by
  refine ⟨_, rfl, fun localChange => ?_⟩
  have kept := (localChange.1 invoices (by decide) (by decide) "r2"
    (by decide)).mpr (by decide)
  exact absurd kept (by decide)

end AdminUi
end EvoPlatform
