import EvoPlatform.Foundation.Responses
import EvoPlatform.Foundation.SlidingWindow
import Mathlib.Data.Finset.Dedup
import Mathlib.Data.Finset.Order
import Mathlib.Data.List.Induction

/-!
# The mail quota of an app

`assertQuota`, with what `send` checks before it.  Times are readings of
`Date.now()`, in milliseconds.
-/

namespace EvoPlatform
namespace Email

def MINUTE : Int := 60000

def DAY : Int := 24 * 60 * MINUTE

structure App where
  id : String
  clientId : String

/-- `config.emailAppQuota`. -/
structure EmailAppQuota where
  perMin : Nat
  perDay : Nat

/-- The detail of `email.quota_exceeded`. -/
structure QuotaExceeded where
  appClientId : String
  lastMinute : Nat
  lastDay : Nat
  perMin : Nat
  perDay : Nat

/-- `sendWindows` and `breachNoted`, by the id of the app. -/
structure QuotaState where
  sendWindows : String → List Int
  breachNoted : String → Int

def QuotaState.new : QuotaState := ⟨fun _ => [], fun _ => 0⟩

/-- A send that an app has asked for. -/
structure AppSend where
  app : App
  /-- `Date.now()`. -/
  now : Int
  tenantId : Option String
  /-- The app is enabled for the workspace. -/
  access : Bool

/-- How a send fares until a relay is looked for. -/
inductive SendAnswer
  /-- The app is not enabled for the workspace that it names. -/
  | forbidden
  /-- The quota is exceeded, which is audited or not. -/
  | refused (audited : Option QuotaExceeded)
  | accepted

/-- `assertQuota`. -/
def assertQuota (quota : EmailAppQuota) (state : QuotaState) (app : App)
    (now : Int) : QuotaState × SendAnswer :=
  let sends := (state.sendWindows app.id).filter fun t => t > now - DAY
  let lastMinute := (sends.filter fun t => t > now - MINUTE).length
  if lastMinute ≥ quota.perMin ∨ sends.length ≥ quota.perDay then
    if now - state.breachNoted app.id > MINUTE then
      ({ state with
          breachNoted := Function.update state.breachNoted app.id now },
        .refused (some
          { appClientId := app.clientId
            lastMinute := lastMinute
            lastDay := sends.length
            perMin := quota.perMin
            perDay := quota.perDay }))
    else (state, .refused none)
  else
    ({ state with
        sendWindows :=
          Function.update state.sendWindows app.id (sends ++ [now]) },
      .accepted)

/-- `send`, up to the quota. -/
def send (quota : EmailAppQuota) (state : QuotaState) (call : AppSend) :
    QuotaState × SendAnswer :=
  if (call.tenantId.any fun tenantId => tenantId ≠ "") && !call.access then
    (state, .forbidden)
  else assertQuota quota state call.app call.now

/-! ## What was accepted -/

def SendAnswer.isAccepted : SendAnswer → Bool
  | .accepted => true
  | _ => false

def SendAnswer.isRefused : SendAnswer → Bool
  | .refused _ => true
  | _ => false

def SendAnswer.isAudited : SendAnswer → Bool
  | .refused audited => audited.isSome
  | _ => false

/-- The calls with their answers, from a new state on. -/
def sendLog (quota : EmailAppQuota) (calls : List AppSend) :
    List (AppSend × SendAnswer) :=
  calls.zip (answers (send quota) .new calls)

/-- The times of the answers of one kind to an app. -/
def timesOf (kind : SendAnswer → Bool) (appId : String)
    (log : List (AppSend × SendAnswer)) : List Int :=
  (log.filter fun entry => entry.1.app.id = appId && kind entry.2).map
    fun entry => entry.1.now

/-- When sends of an app were accepted. -/
def acceptedAt (quota : EmailAppQuota) (calls : List AppSend)
    (appId : String) : List Int :=
  timesOf SendAnswer.isAccepted appId (sendLog quota calls)

/-- When breaches of an app were audited. -/
def auditedAt (quota : EmailAppQuota) (calls : List AppSend)
    (appId : String) : List Int :=
  timesOf SendAnswer.isAudited appId (sendLog quota calls)

section Logs

variable {quota : EmailAppQuota} {calls : List AppSend} {call : AppSend}

theorem sendLog_append_singleton :
    sendLog quota (calls ++ [call]) = sendLog quota calls ++
      [(call, (send quota (after (send quota) .new calls) call).2)] := by
  have sameLength : calls.length =
      (answers (send quota) .new calls).length := by
    rw [length_answers]
  rw [sendLog, answers_append, List.zip_append sameLength]
  rfl

theorem timesOf_append_singleton (kind : SendAnswer → Bool) (appId : String)
    (log : List (AppSend × SendAnswer)) (entry : AppSend × SendAnswer) :
    timesOf kind appId (log ++ [entry]) = timesOf kind appId log ++
      if entry.1.app.id = appId ∧ kind entry.2 = true then [entry.1.now]
      else [] := by
  rw [timesOf, timesOf, List.filter_append, List.map_append]
  congr 1
  by_cases counts : entry.1.app.id = appId ∧ kind entry.2 = true
  · simp [counts]
  · rw [if_neg counts, List.filter_cons_of_neg (by simpa using counts)]
    rfl

/-- The times of an app are those of its calls. -/
theorem le_of_mem_timesOf
    {kind : SendAnswer → Bool} {appId : String} {now : Int}
    (before : ∀ earlier ∈ calls, earlier.now ≤ now) :
    ∀ time ∈ timesOf kind appId (sendLog quota calls), time ≤ now := by
  intro time present
  obtain ⟨entry, isEntry, rfl⟩ := List.mem_map.mp present
  exact before _ (List.of_mem_zip (List.mem_filter.mp isEntry).1).1

end Logs

/-! ## One send -/

/-- There is room for another send of the app in both windows. -/
def HasRoom (quota : EmailAppQuota) (accepted : List Int) (now : Int) : Prop :=
  inWindow MINUTE now accepted < quota.perMin ∧
    inWindow DAY now accepted < quota.perDay

/-- What is stored of an app serves as well as all its accepted sends. -/
def Serves (stored accepted : List Int) (now : Int) : Prop :=
  ∀ later, now ≤ later → stillIn DAY later stored = stillIn DAY later accepted

section Sends

variable {quota : EmailAppQuota} {state : QuotaState} {app : App} {now : Int}
  {accepted : List Int}

/-- The quota decides by the accepted sends. -/
theorem isAccepted_assertQuota_iff
    (serves : Serves (state.sendWindows app.id) accepted now)
    (past : ∀ time ∈ accepted, time ≤ now) :
    (assertQuota quota state app now).2.isAccepted = true ↔
      HasRoom quota accepted now := by
  have lastDay : ((state.sendWindows app.id).filter fun t =>
      t > now - DAY).length = inWindow DAY now accepted := by
    rw [← length_stillIn past, ← serves now le_rfl]
    rfl
  have lastMinute : (((state.sendWindows app.id).filter fun t =>
      t > now - DAY).filter fun t => t > now - MINUTE).length =
        inWindow MINUTE now accepted := by
    have narrow : MINUTE ≤ DAY := by decide
    rw [← length_stillIn past, ← stillIn_stillIn narrow (le_refl now),
      ← serves now le_rfl]
    rfl
  simp only [assertQuota, lastDay, lastMinute, HasRoom]
  split
  · split <;>
    · simp only [SendAnswer.isAccepted, Bool.false_eq_true, false_iff, not_and]
      omega
  · simp only [SendAnswer.isAccepted, true_iff]
    omega

/-- An answer is an acceptance or a refusal. -/
theorem isRefused_assertQuota :
    (assertQuota quota state app now).2.isRefused =
      !(assertQuota quota state app now).2.isAccepted := by
  unfold assertQuota
  dsimp only
  split
  · split <;> rfl
  · rfl

/-- A send stores its time if it is accepted, and nothing else. -/
theorem sendWindows_assertQuota (appId : String) :
    (assertQuota quota state app now).1.sendWindows appId =
      if app.id = appId ∧
          (assertQuota quota state app now).2.isAccepted = true then
        stillIn DAY now (state.sendWindows appId) ++ [now]
      else state.sendWindows appId := by
  unfold assertQuota
  dsimp only
  split
  · split <;> simp [SendAnswer.isAccepted]
  · by_cases same : app.id = appId
    · subst same
      simp [SendAnswer.isAccepted, stillIn]
    · simp [SendAnswer.isAccepted, same, Ne.symm same]

/-- A breach is noted when it is audited, which takes a minute since the last
one. -/
theorem breachNoted_assertQuota (appId : String) :
    (assertQuota quota state app now).1.breachNoted appId =
        (if app.id = appId ∧
            (assertQuota quota state app now).2.isAudited = true then now
          else state.breachNoted appId) ∧
      ((assertQuota quota state app now).2.isAudited = true →
        MINUTE < now - state.breachNoted app.id) := by
  unfold assertQuota
  dsimp only
  split
  · split
    · rename_i overdue
      refine ⟨?_, fun _ => overdue⟩
      by_cases same : app.id = appId
      · subst same
        simp [SendAnswer.isAudited]
      · simp [same, Ne.symm same]
    · simp [SendAnswer.isAudited]
  · simp [SendAnswer.isAudited]

/-- A send is turned away at once, or the quota decides. -/
theorem send_cases (call : AppSend) :
    send quota state call = (state, .forbidden) ∨
      send quota state call = assertQuota quota state call.app call.now := by
  unfold send
  split
  · exact Or.inl rfl
  · exact Or.inr rfl

/-- What was stored still serves after a send. -/
theorem Serves.assertQuota
    {appId : String}
    (serves : Serves (state.sendWindows appId) accepted now) :
    Serves ((assertQuota quota state app now).1.sendWindows appId)
      (accepted ++ if app.id = appId ∧
        (Email.assertQuota quota state app now).2.isAccepted = true then [now]
        else []) now := by
  intro later notEarlier
  rw [sendWindows_assertQuota]
  split
  · have before := @stillIn_stillIn DAY (state.sendWindows appId) DAY le_rfl _ _
      notEarlier
    simp only [stillIn] at before ⊢
    rw [List.filter_append, List.filter_append, before]
    congr 1
    exact serves later notEarlier
  · rw [List.append_nil]
    exact serves later notEarlier

end Sends

/-! ## All sends -/

section Histories

variable {quota : EmailAppQuota} {calls : List AppSend} {call : AppSend}

/-- The state after some sends, in terms of what was accepted and audited. -/
structure Describes (quota : EmailAppQuota) (calls : List AppSend)
    (now : Int) : Prop where
  serves : ∀ appId, Serves ((after (send quota) .new calls).sendWindows appId)
    (acceptedAt quota calls appId) now
  perMin : ∀ appId, Admitted MINUTE quota.perMin (acceptedAt quota calls appId)
  perDay : ∀ appId, Admitted DAY quota.perDay (acceptedAt quota calls appId)
  noted : ∀ appId, ∀ time ∈ auditedAt quota calls appId,
    time ≤ (after (send quota) .new calls).breachNoted appId
  apart : ∀ appId, (auditedAt quota calls appId).Pairwise
    fun earlier later => MINUTE < later - earlier

theorem Describes.mono
    {now later : Int}
    (describes : Describes quota calls now)
    (notEarlier : now ≤ later) :
    Describes quota calls later :=
  { describes with
    serves := fun appId instant behind =>
      describes.serves appId instant (notEarlier.trans behind) }

/-- What a call adds to the times of an app. -/
theorem timesOf_sendLog_append_singleton (kind : SendAnswer → Bool)
    (appId : String) :
    timesOf kind appId (sendLog quota (calls ++ [call])) =
      timesOf kind appId (sendLog quota calls) ++
        if call.app.id = appId ∧
          kind (send quota (after (send quota) .new calls) call).2 = true then
          [call.now]
        else [] := by
  rw [sendLog_append_singleton, timesOf_append_singleton]

/-- A call keeps the description. -/
theorem Describes.append_singleton
    (describes : Describes quota calls call.now)
    (before : ∀ earlier ∈ calls, earlier.now ≤ call.now) :
    Describes quota (calls ++ [call]) call.now := by
  have past (appId : String) : ∀ time ∈ acceptedAt quota calls appId,
      time ≤ call.now :=
    le_of_mem_timesOf before
  have nextState : after (send quota) .new (calls ++ [call]) =
      (send quota (after (send quota) .new calls) call).1 := by
    rw [after_append]
    rfl
  have nextAccepted (appId : String) : acceptedAt quota (calls ++ [call]) appId =
      _ := timesOf_sendLog_append_singleton SendAnswer.isAccepted appId
  have nextAudited (appId : String) : auditedAt quota (calls ++ [call]) appId =
      _ := timesOf_sendLog_append_singleton SendAnswer.isAudited appId
  rcases @send_cases quota (after (send quota) .new calls) call with
    forbidden | decided
  · simp only [forbidden, SendAnswer.isAccepted, SendAnswer.isAudited,
      Bool.false_eq_true, and_false, if_false, List.append_nil]
      at nextState nextAccepted nextAudited
    constructor
    · intro appId
      rw [nextState, nextAccepted]
      exact describes.serves appId
    · intro appId
      rw [nextAccepted]
      exact describes.perMin appId
    · intro appId
      rw [nextAccepted]
      exact describes.perDay appId
    · intro appId
      rw [nextState, nextAudited]
      exact describes.noted appId
    · intro appId
      rw [nextAudited]
      exact describes.apart appId
  · simp only [decided] at nextState nextAccepted nextAudited
    have isAccepted := @isAccepted_assertQuota_iff quota _ _ _ _
      (describes.serves call.app.id) (past call.app.id)
    have noted := @breachNoted_assertQuota quota
      (after (send quota) .new calls) call.app call.now
    constructor
    · intro appId
      rw [nextState, nextAccepted]
      exact (describes.serves appId).assertQuota
    · intro appId
      rw [nextAccepted]
      split
      · rename_i accepts
        obtain ⟨rfl, accepts⟩ := accepts
        exact (describes.perMin call.app.id).snoc (past call.app.id)
          (isAccepted.mp accepts).1
      · rw [List.append_nil]
        exact describes.perMin appId
    · intro appId
      rw [nextAccepted]
      split
      · rename_i accepts
        obtain ⟨rfl, accepts⟩ := accepts
        exact (describes.perDay call.app.id).snoc (past call.app.id)
          (isAccepted.mp accepts).2
      · rw [List.append_nil]
        exact describes.perDay appId
    · intro appId time
      rw [nextState, nextAudited, (noted appId).1]
      split
      · intro present
        rcases List.mem_append.mp present with earlier | new
        · exact le_of_mem_timesOf before time earlier
        · exact (List.mem_singleton.mp new).le
      · rw [List.append_nil]
        exact describes.noted appId time
    · intro appId
      rw [nextAudited]
      split
      · rename_i audits
        obtain ⟨rfl, audits⟩ := audits
        refine List.pairwise_append.mpr ⟨describes.apart call.app.id,
          List.pairwise_singleton _ _, ?_⟩
        intro earlier isEarlier later isLater
        obtain rfl := List.mem_singleton.mp isLater
        have overdue := (noted call.app.id).2 audits
        have last := describes.noted call.app.id earlier isEarlier
        omega
      · rw [List.append_nil]
        exact describes.apart appId

/-- The description holds after every sequence of calls in order. -/
theorem describes_of_inOrder
    (quota : EmailAppQuota)
    (inOrder : calls.Pairwise fun earlier later => earlier.now ≤ later.now)
    {now : Int}
    (notEarlier : ∀ earlier ∈ calls, earlier.now ≤ now) :
    Describes quota calls now := by
  induction calls using List.reverseRecOn generalizing now with
  | nil =>
      exact ⟨fun _ _ _ => rfl, fun _ => .nil, fun _ => .nil, fun _ => nofun,
        fun _ => List.Pairwise.nil⟩
  | append_singleton calls call inductionHypothesis =>
      obtain ⟨earlierInOrder, -, ordered⟩ := List.pairwise_append.mp inOrder
      have before : ∀ earlier ∈ calls, earlier.now ≤ call.now :=
        fun earlier present => ordered earlier present call (by simp)
      exact ((inductionHypothesis earlierInOrder before).append_singleton
        before).mono (notEarlier call (by simp))

/-- A refused send stores nothing. -/
theorem sendWindows_of_isRefused
    {state : QuotaState}
    (refused : (send quota state call).2.isRefused = true) :
    (send quota state call).1.sendWindows = state.sendWindows := by
  unfold send at refused ⊢
  split
  · rfl
  · rename_i allowed
    rw [if_neg allowed, isRefused_assertQuota, Bool.not_eq_true'] at refused
    funext appId
    rw [sendWindows_assertQuota, refused]
    simp

/-- What is stored decides which sends are accepted, and what is stored then. -/
theorem send_of_sameWindows
    {left right : QuotaState}
    (same : left.sendWindows = right.sendWindows) :
    (send quota left call).2.isAccepted =
        (send quota right call).2.isAccepted ∧
      (send quota left call).1.sendWindows =
        (send quota right call).1.sendWindows := by
  obtain ⟨windows, leftNoted⟩ := left
  obtain ⟨_, rightNoted⟩ := right
  obtain rfl := same
  unfold send
  split
  · exact ⟨rfl, rfl⟩
  · unfold assertQuota
    dsimp only
    split
    · split <;> split <;> exact ⟨rfl, rfl⟩
    · exact ⟨rfl, rfl⟩

theorem accepts_of_sameWindows
    (calls : List AppSend)
    {left right : QuotaState}
    (same : left.sendWindows = right.sendWindows) :
    (answers (send quota) left calls).map SendAnswer.isAccepted =
      (answers (send quota) right calls).map SendAnswer.isAccepted := by
  induction calls generalizing left right with
  | nil => rfl
  | cons call calls inductionHypothesis =>
      obtain ⟨sameAnswer, sameNext⟩ := @send_of_sameWindows quota call _ _ same
      rw [answers, answers, List.map_cons, List.map_cons, sameAnswer,
        inductionHypothesis sameNext]

end Histories

/-- For every sequence of sends at times that do not go back: at each instant the
accepted sends of each app keep to both limits; a send is refused only if
accepting it would have broken one of the limits of its app; without a refused
send all later ones are accepted as they are with it; and no minute has two
audited breaches of one app. -/
theorem quota_holds
    (quota : EmailAppQuota)
    (calls : List AppSend)
    (inOrder : calls.Pairwise fun earlier later => earlier.now ≤ later.now) :
    (∀ appId instant,
      inWindow MINUTE instant (acceptedAt quota calls appId) ≤ quota.perMin ∧
        inWindow DAY instant (acceptedAt quota calls appId) ≤ quota.perDay) ∧
    (∀ earlier call later, calls = earlier ++ call :: later →
      (send quota (after (send quota) .new earlier) call).2.isRefused = true →
        let ifAccepted := acceptedAt quota earlier call.app.id ++ [call.now]
        quota.perMin < inWindow MINUTE call.now ifAccepted ∨
          quota.perDay < inWindow DAY call.now ifAccepted) ∧
    (∀ earlier call later, calls = earlier ++ call :: later →
      (send quota (after (send quota) .new earlier) call).2.isRefused = true →
        (answers (send quota) (after (send quota) .new (earlier ++ [call]))
            later).map SendAnswer.isAccepted =
          (answers (send quota) (after (send quota) .new earlier) later).map
            SendAnswer.isAccepted) ∧
    ∀ appId instant, ((auditedAt quota calls appId).countP fun time =>
      instant - MINUTE ≤ time ∧ time ≤ instant) ≤ 1 := by
  obtain ⟨now, bound⟩ := (calls.map AppSend.now).toFinset.exists_le
  have notEarlier : ∀ call ∈ calls, call.now ≤ now := fun call present =>
    bound call.now (List.mem_toFinset.mpr (List.mem_map_of_mem present))
  have describes := describes_of_inOrder quota inOrder notEarlier
  refine ⟨fun appId instant => ⟨(describes.perMin appId).inWindow_le instant,
    (describes.perDay appId).inWindow_le instant⟩, ?_, ?_,
    fun appId => countP_le_one_of_apart (describes.apart appId)⟩
  · rintro earlier call later rfl refused
    obtain ⟨earlierInOrder, -, ordered⟩ := List.pairwise_append.mp inOrder
    have before : ∀ other ∈ earlier, other.now ≤ call.now :=
      fun other present => ordered other present call (by simp)
    have past : ∀ time ∈ acceptedAt quota earlier call.app.id,
        time ≤ call.now :=
      le_of_mem_timesOf before
    rcases @send_cases quota (after (send quota) .new earlier) call with
      forbidden | decided
    · rw [forbidden] at refused
      cases refused
    · rw [decided, isRefused_assertQuota, Bool.not_eq_true',
        ← Bool.not_eq_true, isAccepted_assertQuota_iff
          ((describes_of_inOrder quota earlierInOrder before).serves
            call.app.id) past] at refused
      have covered (width : Int) (positive : 0 < width) :
          call.now - width < call.now ∧ call.now ≤ call.now := by
        omega
      intro ifAccepted
      simp only [ifAccepted, inWindow_append_singleton,
        covered MINUTE (by decide), covered DAY (by decide), and_self, if_true]
      unfold HasRoom at refused
      omega
  · rintro earlier call later - refused
    apply accepts_of_sameWindows
    rw [after_append]
    exact sendWindows_of_isRefused refused

/-- An app asks for one send more than it may make in a minute, and waits. -/
def burst : List AppSend :=
  let app : App := ⟨"app-1", "cid-1"⟩
  [⟨app, 1000, none, false⟩, ⟨app, 2000, some "tenant-a", true⟩,
    ⟨app, 3000, none, false⟩, ⟨app, 61001, none, false⟩]

theorem quota_holds_burst :
    (answers (send ⟨2, 3⟩) .new burst).map SendAnswer.isAccepted =
        [true, true, false, true] ∧
      ∀ appId instant,
        inWindow MINUTE instant (acceptedAt ⟨2, 3⟩ burst appId) ≤ 2 ∧
          inWindow DAY instant (acceptedAt ⟨2, 3⟩ burst appId) ≤ 3 :=
  ⟨by decide, (quota_holds ⟨2, 3⟩ burst (by decide)).1⟩

end Email
end EvoPlatform
