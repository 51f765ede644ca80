import EvoPlatform.Audit.AppEvents

/-!
# Events of the apps keep to themselves

An event of an app is stored under the name of the app.  What begins with the
name of an app reads like an action of the platform exactly if the app is named
like a service of the platform, which neither registration nor renaming
prevents.
-/

namespace EvoPlatform
namespace Audit

open Auth

/-- What the actions of the platform begin with. -/
def platformNamespaces : List String :=
  ["tenant", "user", "auth", "billing", "email", "app", "admin"]

/-! ## Actions under a name -/

/-- What precedes the only separator of a text. -/
theorem takeWhile_of_count_eq_one
    {separator : Char}
    {before after : List Char}
    (single : (before ++ separator :: after).count separator = 1) :
    (before ++ separator :: after).takeWhile (fun c => c ≠ separator) =
      before := by
  have absent : separator ∉ before := by
    rw [← List.count_eq_zero]
    simp only [List.count_append, List.count_cons_self] at single
    omega
  rw [List.takeWhile_append_of_pos]
  · simp
  · intro character present
    simp only [ne_eq, decide_eq_true_eq]
    rintro rfl
    exact absent present

/-- The actions of the platform have one dot, after the name of a service. -/
theorem platformActions_dotted :
    ∀ text ∈ platformActions.map String.toList, text.count '.' = 1 ∧
      text.takeWhile (fun c => c ≠ '.') ∈
        platformNamespaces.map String.toList := by
  decide +kernel

/-- A service and the rest of one of its actions. -/
def servedActions : List (String × String) :=
  [("tenant", "created"), ("user", "created"), ("auth", "login"),
    ("billing", "payment_failed"), ("email", "sent"), ("app", "created"),
    ("admin", "bootstrapped")]

theorem servedActions_arePlatform :
    ∀ served ∈ servedActions,
      appAction served.1 served.2 ∈ platformActions := by
  decide +kernel

/-- An app can push an event that reads like one of the platform if and only if
it is named like a service of the platform. -/
theorem appAction_isPlatform_iff
    (name : String) :
    (∃ action, appAction name action ∈ platformActions) ↔
      name ∈ platformNamespaces := by
  constructor
  · rintro ⟨action, isPlatform⟩
    obtain ⟨single, isNamespace⟩ :=
      platformActions_dotted _ (List.mem_map_of_mem isPlatform)
    have split : (appAction name action).toList =
        name.toList ++ '.' :: (trimText action).toList := by
      simp [appAction, String.toList_append]
    rw [split] at single isNamespace
    rw [takeWhile_of_count_eq_one single] at isNamespace
    exact (List.mem_map_of_injective fun _ _ => String.toList_inj.mp).mp
      isNamespace
  · intro isNamespace
    have served : platformNamespaces = servedActions.map Prod.fst := rfl
    rw [served] at isNamespace
    obtain ⟨pair, listed, rfl⟩ := List.mem_map.mp isNamespace
    exact ⟨pair.2, servedActions_arePlatform pair listed⟩

/-! ## Names that are chosen -/

/-- A registration or a renaming chooses no name of a service of the
platform. -/
def ChoosesOwnName : PoolEvent EventsRequest EventsInput → Prop
  | .start (.create dto) => dto.name ∉ platformNamespaces
  | .start (.update _ dto) => ∀ name ∈ dto.name, name ∉ platformNamespaces
  | _ => True

instance : (event : PoolEvent EventsRequest EventsInput) →
    Decidable (ChoosesOwnName event)
  | .start (.create _) => inferInstanceAs (Decidable (_ ∉ _))
  | .start (.update _ dto) => inferInstanceAs
      (Decidable (∀ name ∈ dto.name, name ∉ platformNamespaces))
  | .start (.remove _) | .start (.restore _) | .start (.purge _)
  | .start (.push ..) | .start (.record ..) | .advance .. | .abandon _ =>
      isTrue trivial

/-- The names that a call will give to an app, or under which it will store an
event, are not those of services. -/
def EventsPhase.Named : EventsPhase → Prop
  | .findName dto | .createApp dto => dto.name ∉ platformNamespaces
  | .findUpdated _ dto | .updateApp _ dto =>
      ∀ name ∈ dto.name, name ∉ platformNamespaces
  | .findAccess app _ _ | .findMember app _ _ _ | .storeEvent app _ =>
      app.name ∉ platformNamespaces
  | _ => True

/-- Every event with an action of the platform was written by it. -/
def Unforged (db : EventsDb) : Prop :=
  ∀ event ∈ db.events, event.action ∈ platformActions →
    event.writer = .platform

/-- No app is named like a service, and no event is forged. -/
structure Apart (db : EventsDb) : Prop where
  named : ∀ app ∈ db.apps.rows, app.name ∉ platformNamespaces
  unforged : Unforged db

section Step

variable {db after : EventsDb}

theorem Apart.record
    {event : StoredEvent}
    (apart : Apart db)
    (genuine : event.action ∈ platformActions → event.writer = .platform) :
    Apart (db.record event) where
  named := apart.named
  unforged := by
    intro other present
    rcases List.mem_append.mp present with before | isNew
    · exact apart.unforged other before
    · rw [List.mem_singleton.mp isNew]
      exact genuine

theorem Apart.putApp
    {app : RegisteredApp}
    (apart : Apart db)
    (written : db.putApp app = some after)
    (named : app.name ∉ platformNamespaces) :
    Apart after := by
  unfold EventsDb.putApp at written
  split at written
  · obtain rfl := Option.some.inj written
    refine ⟨?_, apart.unforged⟩
    intro other present
    rcases (db.apps.mem_put_iff app other).mp present with rfl | ⟨stored, _⟩
    · exact named
    · exact apart.named other stored
  · contradiction

theorem Apart.deleteApp
    (apart : Apart db)
    (id : String) :
    Apart (db.deleteApp id) where
  named app present := apart.named app (List.mem_filter.mp present).1
  unforged := apart.unforged

/-- The name of an updated app was chosen, or is the one it had. -/
theorem named_apply
    {dto : UpdateAppDto}
    {app : RegisteredApp}
    (chosen : ∀ name ∈ dto.name, name ∉ platformNamespaces)
    (named : app.name ∉ platformNamespaces) :
    (dto.apply app).name ∉ platformNamespaces := by
  cases isChosen : dto.name with
  | none => simpa [UpdateAppDto.apply, isChosen] using named
  | some name => simpa [UpdateAppDto.apply, isChosen] using chosen name isChosen

/-- What an app has pushed goes on under its name. -/
theorem named_recordFromApp
    {app : RegisteredApp}
    {dto : PushEventDto}
    (named : app.name ∉ platformNamespaces) :
    (EventsPhase.recordFromApp app dto).Named := by
  simp only [EventsPhase.recordFromApp]
  split
  · trivial
  · split
    · exact named
    · split
      · trivial
      · exact named

/-- What a request begins with carries the names it chooses. -/
theorem named_begins
    {request : EventsRequest}
    (chooses : ChoosesOwnName (.start request)) :
    request.begins.Named := by
  cases request with
  | push clientId clientSecret dto =>
      cases clientId <;> cases clientSecret <;> trivial
  | create dto => exact chooses
  | update id dto => exact chooses
  | remove | restore | purge | record => trivial

/-- A call that is given up carries no name any more. -/
theorem named_abandoned
    {compare : String → String → Bool}
    (phase : EventsPhase) :
    ((eventCalls compare).abandoned phase).Named := by
  cases phase <;> trivial

/-- A statement stores no forged event and gives no app the name of a service,
provided that the names that the call carries are not those of services. -/
theorem Apart.step
    (compare : String → String → Bool)
    (input : EventsInput)
    {phase : EventsPhase}
    (apart : Apart db)
    (named : phase.Named) :
    Apart (phase.step compare input db).1 ∧
      (phase.step compare input db).2.Named := by
  cases phase with
  | findName dto =>
      simp only [EventsPhase.step]
      split
      · exact ⟨apart, trivial⟩
      · exact ⟨apart, named⟩
  | createApp dto =>
      simp only [EventsPhase.step]
      split
      · exact ⟨apart, trivial⟩
      · split
        · exact ⟨apart, trivial⟩
        · rename_i written
          exact ⟨apart.putApp written named, trivial⟩
  | findUpdated id dto =>
      simp only [EventsPhase.step]
      split
      · exact ⟨apart, trivial⟩
      · exact ⟨apart, named⟩
  | updateApp before dto =>
      simp only [EventsPhase.step]
      split
      · exact ⟨apart, trivial⟩
      · rename_i stored found
        have storedNamed := apart.named stored (db.apps.mem_of_find? found)
        split
        · exact ⟨apart, trivial⟩
        · rename_i written
          have nowApart :=
            apart.putApp written (named_apply named storedNamed)
          split <;> exact ⟨nowApart, trivial⟩
  | removeApp existing | restoreApp existing =>
      simp only [EventsPhase.step]
      split
      · exact ⟨apart, trivial⟩
      · rename_i stored found
        have storedNamed := apart.named stored (db.apps.mem_of_find? found)
        split
        · exact ⟨apart, trivial⟩
        · rename_i written
          exact ⟨apart.putApp written storedNamed, trivial⟩
  | findRemoved id | findRestored id | findPurged id =>
      simp only [EventsPhase.step]
      split
      · exact ⟨apart, trivial⟩
      · split <;> exact ⟨apart, trivial⟩
  | countUses app => exact ⟨apart, trivial⟩
  | deleteApp app roles tenants =>
      simp only [EventsPhase.step]
      split
      · exact ⟨apart.deleteApp app.id, trivial⟩
      · exact ⟨apart, trivial⟩
  | findClient clientId clientSecret dto =>
      simp only [EventsPhase.step]
      split
      · exact ⟨apart, trivial⟩
      · rename_i app found
        have appNamed := apart.named app (List.mem_of_find?_eq_some found)
        split
        · exact ⟨apart, named_recordFromApp appNamed⟩
        · exact ⟨apart, trivial⟩
  | findAccess app dto tenantId =>
      simp only [EventsPhase.step]
      split
      · exact ⟨apart, trivial⟩
      · split <;> exact ⟨apart, named⟩
  | findMember app dto tenantId userId =>
      simp only [EventsPhase.step]
      split
      · exact ⟨apart, named⟩
      · exact ⟨apart, trivial⟩
  | storeEvent app dto =>
      refine ⟨apart.record ?_, trivial⟩
      intro isPlatform
      exact absurd ((appAction_isPlatform_iff app.name).mp
        ⟨dto.action, isPlatform⟩) named
  | record action tenantId userId appClientId detail answer =>
      exact ⟨apart.record fun _ => rfl, trivial⟩
  | done outcome => exact ⟨apart, trivial⟩

end Step

/-! ## Runs -/

/-- Nothing is stored yet. -/
def EventsDb.start : EventsDb where
  apps := .empty
  nameUnique := Table.unique_of_nodup (by simp [Table.empty])
  events := []

/-- While no registration or renaming chooses the name of a service, an event
with an action of the platform was written by the platform. -/
theorem unforged_of_ownNames
    {compare : String → String → Bool}
    {final : Pool EventsDb EventsPhase}
    {events : List (PoolEvent EventsRequest EventsInput)}
    (run : Run (eventCalls compare).poolStep (fun _ event => ChoosesOwnName event)
      ⟨.start, []⟩ events final) :
    Unforged final.data := by
  have kept : Apart final.data ∧ ∀ call ∈ final.calls, call.Named := by
    apply run.invariant fun pool =>
      Apart pool.data ∧ ∀ call ∈ pool.calls, call.Named
    · rintro pool event after ⟨apart, named⟩ chooses stepped
      cases event with
      | start request =>
          simp only [Program.poolStep, Option.some.injEq] at stepped
          subst stepped
          refine ⟨apart, ?_⟩
          intro call present
          rcases List.mem_append.mp present with before | isNew
          · exact named call before
          · rw [List.mem_singleton.mp isNew]
            exact named_begins chooses
      | advance index input =>
          simp only [Program.poolStep, Option.map_eq_some_iff] at stepped
          obtain ⟨call, present, rfl⟩ := stepped
          obtain ⟨nowApart, nowNamed⟩ :=
            apart.step compare input (named call (List.mem_of_getElem? present))
          refine ⟨nowApart, ?_⟩
          intro other isCall
          rcases List.mem_or_eq_of_mem_set isCall with before | rfl
          · exact named other before
          · exact nowNamed
      | abandon index =>
          simp only [Program.poolStep, Option.map_eq_some_iff] at stepped
          obtain ⟨call, present, rfl⟩ := stepped
          refine ⟨apart, ?_⟩
          intro other isCall
          rcases List.mem_or_eq_of_mem_set isCall with before | rfl
          · exact named other before
          · exact named_abandoned call
    · refine ⟨⟨?_, ?_⟩, ?_⟩
      · simp [EventsDb.start, Table.empty]
      · simp [Unforged, EventsDb.start]
      · simp
  exact kept.1.unforged

/-- No accounts, and the credentials of the next app. -/
def firstApp : EventsInput where
  now := 0
  accounts :=
    { tenants := .empty
      apps := .empty
      appTenants := .empty
      users := .empty
      addressUnique := Accounts.empty.addressUnique
      clientIdGiven := Accounts.empty.clientIdGiven
      clientIdUnique := Accounts.empty.clientIdUnique
      subscriptionUnique := Accounts.empty.subscriptionUnique
      references := Accounts.empty.references }
  roles := 0
  id := "a1"
  clientId := "app_1"
  clientSecretHash := "secret"

/-- An app is registered under a name and then pushes a login. -/
def pushesLogin (name : String) : List (PoolEvent EventsRequest EventsInput) :=
  [.start (.create ⟨name, none, none, none⟩), .advance 0 firstApp,
    .advance 0 firstApp, .advance 0 firstApp,
    .start (.push (some "app_1") (some "secret") ⟨"login", none, none, none⟩),
    .advance 1 firstApp, .advance 1 firstApp]

theorem unforged_of_ownNames_swag :
    ∃ final, Run (eventCalls (fun secret hash => secret == hash)).poolStep
        (fun _ event => ChoosesOwnName event) ⟨.start, []⟩ (pushesLogin "swag")
        final ∧
      final.data.events.map StoredEvent.action =
        ["app.created", "swag.login"] ∧
      Unforged final.data := by
  obtain ⟨final, run, stored⟩ := Run.exists_of_execute
    (eventCalls (fun secret hash => secret == hash)).poolStep
    (fun _ event => decide (ChoosesOwnName event))
    (fun _ _ passed => of_decide_eq_true passed)
    ⟨.start, []⟩ (pushesLogin "swag")
    (fun pool => pool.data.events.map StoredEvent.action =
      ["app.created", "swag.login"])
    (by decide +kernel)
  exact ⟨final, run, of_decide_eq_true stored, unforged_of_ownNames run⟩

/-- An app is registered under the name of a service, and its event is stored
as a login at the platform. -/
theorem pushesLogin_forged :
    ∃ final, Run (eventCalls (fun secret hash => secret == hash)).poolStep
        (fun _ _ => True) ⟨.start, []⟩ (pushesLogin "auth") final ∧
      final.data.events.map (fun event => (event.action, event.writer)) =
        [("app.created", .platform), ("auth.login", .app "a1")] ∧
      ¬ Unforged final.data := by
  obtain ⟨final, run, stored⟩ := Run.exists_of_execute
    (eventCalls (fun secret hash => secret == hash)).poolStep
    (fun _ _ => true) (fun _ _ _ => trivial)
    ⟨.start, []⟩ (pushesLogin "auth")
    (fun pool => pool.data.events.map
        (fun event => (event.action, event.writer)) =
      [("app.created", .platform), ("auth.login", .app "a1")])
    (by decide +kernel)
  have isStored := of_decide_eq_true stored
  refine ⟨final, run, isStored, ?_⟩
  intro unforged
  have isLogin : ("auth.login", Writer.app "a1") ∈
      final.data.events.map fun event => (event.action, event.writer) := by
    rw [isStored]
    simp
  obtain ⟨event, present, same⟩ := List.mem_map.mp isLogin
  simp only [Prod.mk.injEq] at same
  have isPlatform := unforged event present (by rw [same.1]; decide)
  rw [same.2] at isPlatform
  contradiction

end Audit
end EvoPlatform
