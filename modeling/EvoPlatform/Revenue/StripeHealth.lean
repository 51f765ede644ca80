import EvoPlatform.Foundation.Transition
import EvoPlatform.Foundation.Utf16

/-!
# The health of Stripe

`StripeHealthService`.  A check probes Stripe, tells an outage of Stripe from one
of the network, and mails a change of what it has found.
-/

namespace EvoPlatform
namespace Revenue

/-! ## Probes -/

inductive StripeHealthState
  | ok
  | stripeDown
  | networkDown
  | unconfigured
  deriving DecidableEq

/-- A state as it is written in a mail. -/
def StripeHealthState.text : StripeHealthState → String
  | .ok => "ok"
  | .stripeDown => "stripe_down"
  | .networkDown => "network_down"
  | .unconfigured => "unconfigured"

def STRIPE_STATUS_PAGE : String := "https://status.stripe.com/"

structure StripeHealth where
  state : StripeHealthState
  stripeStatusIndicator : Option String
  stripeStatusUrl : String
  checkedAt : String
  detail : JsString

/-- What the fetch of the status page meets. -/
inductive StatusPage
  /-- It fails, takes too long, or does not answer in JSON. -/
  | unreachable
  /-- It answers, with the indicator in its body if there is one. -/
  | answered (ok : Bool) (indicator : Option String)

/-- What a check meets. -/
structure Circumstances where
  /-- `new Date().toISOString()`. -/
  checkedAt : String
  /-- What `balance.retrieve` throws, by its message if it has one. -/
  apiError : Option (Option JsString)
  statusPage : StatusPage
  /-- What `email.send` throws, if a mail is sent. -/
  mailError : Option JsString

def statusPageIndicator : StatusPage → Option String
  | .unreachable => none
  | .answered false _ => none
  | .answered true indicator => some (indicator.getD "unknown")

/-- `probe`. -/
def probe (met : Circumstances) : StripeHealth :=
  match met.apiError with
  | none =>
      { state := .ok
        stripeStatusIndicator := none
        stripeStatusUrl := STRIPE_STATUS_PAGE
        checkedAt := met.checkedAt
        detail := .ofText "Stripe API reachable." }
  | some message =>
      match statusPageIndicator met.statusPage with
      | some indicator =>
          { state := .stripeDown
            stripeStatusIndicator := some indicator
            stripeStatusUrl := STRIPE_STATUS_PAGE
            checkedAt := met.checkedAt
            detail := .ofText ("Stripe API unreachable but " ++
              "status.stripe.com responds — the problem is on Stripe's side " ++
              "(indicator: " ++ indicator ++ "). API error: ") ++
                (message.map fun text => text.slice 0 200).getD
                  (.ofText "undefined") }
      | none =>
          { state := .networkDown
            stripeStatusIndicator := none
            stripeStatusUrl := STRIPE_STATUS_PAGE
            checkedAt := met.checkedAt
            detail := .ofText ("Neither the Stripe API nor " ++
              "status.stripe.com is reachable — the problem is most likely " ++
              "on our side (network/DNS/egress), not Stripe.") }

/-! ## Checks -/

structure Mail where
  /-- `to`. -/
  recipient : String
  subject : String
  text : JsString

/-- How the service is set up. -/
structure HealthConfig where
  /-- There is a client of Stripe. -/
  stripe : Bool
  /-- `config.alerts.email`. -/
  alertEmail : Option String

/-- What the service remembers, the mails that it has handed over, and the
errors that it has logged. -/
structure HealthService where
  lastState : Option StripeHealthState
  sent : List Mail
  logged : List JsString

def HealthService.new : HealthService := ⟨none, [], []⟩

/-- The mail about a change. -/
def alertMail (email : String) (prev : StripeHealthState)
    (health : StripeHealth) : Mail where
  recipient := email
  subject :=
    if health.state ≠ .ok then
      "[URGENT] Stripe connectivity lost (" ++ health.state.text ++ ")"
    else "[resolved] Stripe connectivity restored"
  text := health.detail ++ .ofText ("\n\nState: " ++ prev.text ++ " -> " ++
    health.state.text ++ "\nChecked: " ++ health.checkedAt ++
    "\nStripe status page: " ++ STRIPE_STATUS_PAGE ++ "\n\n" ++
    if health.state ≠ .ok then
      "Billing checkout and revenue figures are affected until this " ++
      "clears. Cached revenue figures remain visible, marked with their " ++
      "fetch time."
    else "Normal service. Figures refresh on next load.")

/-- `announceTransition`; a mail that fails is logged. -/
def announceTransition (config : HealthConfig) (service : HealthService)
    (health : StripeHealth) (mailError : Option JsString) : HealthService :=
  let prev := service.lastState
  let seen := { service with lastState := some health.state }
  match prev with
  | none => seen
  | some prev =>
      if prev = health.state then seen
      else
        match config.alertEmail.filter fun email => email ≠ "" with
        | none => seen
        | some email =>
            { seen with
              sent := seen.sent ++ [alertMail email prev health]
              logged := seen.logged ++ (mailError.map fun message =>
                .ofText "Stripe health alert email failed: " ++
                  message).toList }

/-- `check`. -/
def check (config : HealthConfig) (service : HealthService)
    (met : Circumstances) : HealthService × StripeHealth :=
  let health :=
    if config.stripe then probe met
    else
      { state := .unconfigured
        stripeStatusIndicator := none
        stripeStatusUrl := STRIPE_STATUS_PAGE
        checkedAt := met.checkedAt
        detail := .ofText "STRIPE_SECRET_KEY is not set." }
  (announceTransition config service health met.mailError, health)

/-- A check, as far as the service is concerned. -/
def checkStep (config : HealthConfig) (service : HealthService)
    (met : Circumstances) : HealthService :=
  (check config service met).1

/-! ## Mails -/

/-- A check after the first one sends exactly one mail if connectivity has
changed since the last one, and none if not. -/
def MailsTransition (config : HealthConfig) (service : HealthService)
    (met : Circumstances) : Prop :=
  ∀ prev, service.lastState = some prev →
    (checkStep config service met).sent.length =
      service.sent.length +
        if prev = .ok ↔ (check config service met).2.state = .ok then 0 else 1

/-- Two outages with different diagnoses. -/
def OtherDiagnosis (earlier later : Circumstances) : Prop :=
  (probe earlier).state ≠ .ok ∧ (probe later).state ≠ .ok ∧
    (probe earlier).state ≠ (probe later).state

section Mails

variable {config : HealthConfig} {service : HealthService}
  {met : Circumstances}

theorem lastState_checkStep (configured : config.stripe = true) :
    (checkStep config service met).lastState = some (probe met).state := by
  simp only [checkStep, check, configured, if_true, announceTransition]
  cases service.lastState with
  | none => rfl
  | some prev =>
      dsimp only
      split
      · rfl
      · split <;> rfl

/-- A check hands over one mail if the state has changed. -/
theorem sent_checkStep
    (configured : config.stripe = true)
    {email : String}
    (alerting : config.alertEmail = some email)
    (nonempty : email ≠ "")
    {prev : StripeHealthState}
    (last : service.lastState = some prev) :
    (checkStep config service met).sent.length =
      service.sent.length + if prev = (probe met).state then 0 else 1 := by
  have isEmail : config.alertEmail.filter (fun email => email ≠ "") =
      some email := by
    simp [alerting, nonempty]
  simp only [checkStep, check, configured, if_true, announceTransition, last,
    isEmail]
  split
  · rfl
  · simp

/-- One check mails as it should unless it finds another outage than the check
before it. -/
theorem mailsTransition_iff
    (configured : config.stripe = true)
    {email : String}
    (alerting : config.alertEmail = some email)
    (nonempty : email ≠ "")
    {earlier : Circumstances}
    (last : service.lastState = some (probe earlier).state) :
    MailsTransition config service met ↔ ¬ OtherDiagnosis earlier met := by
  have sends := @sent_checkStep config service met configured email alerting
    nonempty _ last
  have isProbe : (check config service met).2 = probe met := by
    simp [check, configured]
  simp only [MailsTransition, last, Option.some.injEq, forall_eq', sends,
    isProbe, OtherDiagnosis]
  by_cases same : (probe earlier).state = (probe met).state
  · simp [same]
  · by_cases earlierOk : (probe earlier).state = .ok
    · have laterDown : (probe met).state ≠ .ok := fun laterOk =>
        same (earlierOk.trans laterOk.symm)
      simp [earlierOk, laterDown, Ne.symm laterDown]
    · by_cases laterOk : (probe met).state = .ok
      · simp [earlierOk, laterOk]
      · simp [same, earlierOk, laterOk]

/-- The same for the checks that follow one. -/
theorem mailsTransitions_iff_of_last
    (configured : config.stripe = true)
    {email : String}
    (alerting : config.alertEmail = some email)
    (nonempty : email ≠ "")
    (checks : List Circumstances)
    {service : HealthService}
    {earlier : Circumstances}
    (last : service.lastState = some (probe earlier).state) :
    EachStep (checkStep config) (MailsTransition config) service checks ↔
      (earlier :: checks).IsChain
        fun earlier later => ¬ OtherDiagnosis earlier later := by
  induction checks generalizing service earlier with
  | nil => simp [EachStep.nil]
  | cons met checks inductionHypothesis =>
      rw [EachStep.cons_iff, List.isChain_cons_cons,
        mailsTransition_iff configured alerting nonempty last,
        inductionHypothesis (lastState_checkStep configured)]

end Mails

/-- With alerting configured, the checks of a service send exactly one mail for
each change of connectivity after the first observation and no other mail, if and
only if no two successive checks find outages with different diagnoses. -/
theorem mails_transitions_iff
    (config : HealthConfig)
    (configured : config.stripe = true)
    (email : String)
    (alerting : config.alertEmail = some email)
    (nonempty : email ≠ "")
    (checks : List Circumstances) :
    EachStep (checkStep config) (MailsTransition config) .new checks ↔
      checks.IsChain fun earlier later => ¬ OtherDiagnosis earlier later := by
  cases checks with
  | nil => simp [EachStep.nil]
  | cons first checks =>
      have unobserved : MailsTransition config .new first := nofun
      rw [EachStep.cons_iff, mailsTransitions_iff_of_last configured alerting
        nonempty checks (lastState_checkStep configured)]
      exact and_iff_right unobserved

/-- Alerts are mailed. -/
def alertingConfig : HealthConfig := ⟨true, some "alerts@evomedia.example"⟩

/-- The API answers. -/
def apiAnswers : Circumstances :=
  ⟨"2026-08-01T10:00:00.000Z", none, .unreachable, none⟩

/-- The API fails, and the status page is as given. -/
def apiFails (statusPage : StatusPage) : Circumstances :=
  ⟨"2026-08-01T10:05:00.000Z", some (some (.ofText "connect ETIMEDOUT")),
    statusPage, none⟩

theorem mails_transitions_recovery :
    EachStep (checkStep alertingConfig) (MailsTransition alertingConfig) .new
        [apiAnswers, apiFails .unreachable, apiAnswers] ↔
      [apiAnswers, apiFails .unreachable, apiAnswers].IsChain
        fun earlier later => ¬ OtherDiagnosis earlier later :=
  mails_transitions_iff alertingConfig rfl "alerts@evomedia.example" rfl
    (by decide) _

/-- The API stays down, the status page is lost as well, and a second mail says
that connectivity was lost. -/
theorem mails_otherDiagnosis :
    let checks := [apiAnswers, apiFails (.answered true (some "major")),
      apiFails .unreachable]
    (checks.foldl (checkStep alertingConfig) .new).sent.map Mail.subject =
        ["[URGENT] Stripe connectivity lost (stripe_down)",
          "[URGENT] Stripe connectivity lost (network_down)"] ∧
      ¬ EachStep (checkStep alertingConfig) (MailsTransition alertingConfig)
        .new checks := by
  intro checks
  refine ⟨by decide +kernel, ?_⟩
  intro each
  have last := each [apiAnswers, apiFails (.answered true (some "major"))]
    (apiFails .unreachable) List.prefix_rfl .stripeDown rfl
  exact absurd last (by decide +kernel)

end Revenue
end EvoPlatform
