import EvoPlatform.Billing.Checkout
import EvoPlatform.Foundation.Origins

/-!
# Redirect targets

A redirect target of a checkout or of the portal has to share its origin with a
registered callback.  For the pages of the web this is a shared scheme, host and
port; but the origins of all other URLs have one text, and a blob URL has the
origin of another URL.
-/

namespace EvoPlatform
namespace Billing

/-- A deployment that reads URLs as the standard says, with its parser. -/
def standardEnv (configured : Bool) (mode : StripeMode)
    (parse : String → Option UrlRecord) : CheckoutEnv where
  configured := configured
  mode := mode
  originOf url := (parse url).map fun record =>
    TupleOrigin.serialize (record.origin parse)

section Redirects

variable {configured : Bool} {mode : StripeMode}
  {parse : String → Option UrlRecord} {app : CallingApp} {url : String}

/-- The URLs have one scheme, host and port. -/
def SamePlace (target registered : UrlRecord) : Prop :=
  target.scheme = registered.scheme ∧ target.host = registered.host ∧
    target.port = registered.port

/-- The URL is absolute, and a callback with its scheme, host and port is
registered. -/
def OnRegistered (parse : String → Option UrlRecord) (app : CallingApp)
    (url : String) : Prop :=
  ∃ target callback registered, parse url = some target ∧
    callback ∈ app.callbackUrls ∧ parse callback = some registered ∧
    SamePlace target registered

/-- Two URLs with one origin, which is not the place of both. -/
inductive Confused (parse : String → Option UrlRecord) :
    UrlRecord → UrlRecord → Prop
  /-- Neither URL has the origin of a page. -/
  | pageless (target registered : UrlRecord) :
      target.origin parse = none → registered.origin parse = none →
      Confused parse target registered
  /-- One of them is a blob URL, and the other has the origin of its page. -/
  | blob (target registered : UrlRecord) (page : TupleOrigin) :
      target.scheme = "blob" ∨ registered.scheme = "blob" →
      target.origin parse = some page → registered.origin parse = some page →
      Confused parse target registered

/-- A callback is registered with which the URL can be confused. -/
def ConfusedWithRegistered (parse : String → Option UrlRecord)
    (app : CallingApp) (url : String) : Prop :=
  ∃ target callback registered, parse url = some target ∧
    callback ∈ app.callbackUrls ∧ parse callback = some registered ∧
    Confused parse target registered

/-- A redirect is accepted if a callback has its origin. -/
theorem assertRedirectAllowed_eq_ok_iff :
    assertRedirectAllowed (standardEnv configured mode parse) app url =
        .ok () ↔
      ∃ target callback registered, parse url = some target ∧
        callback ∈ app.callbackUrls ∧ parse callback = some registered ∧
        target.origin parse = registered.origin parse := by
  have sameOrigin (target : UrlRecord) (callback : String) :
      (standardEnv configured mode parse).originOf callback =
          some (TupleOrigin.serialize (target.origin parse)) ↔
        ∃ registered, parse callback = some registered ∧
          target.origin parse = registered.origin parse := by
    simp only [standardEnv, Option.map_eq_some_iff,
      TupleOrigin.serialize_injective.eq_iff]
    exact exists_congr fun _ => and_congr_right fun _ => eq_comm
  cases parsed : parse url with
  | none => simp [assertRedirectAllowed, standardEnv, parsed]
  | some target =>
      have isOrigin : (standardEnv configured mode parse).originOf url =
          some (TupleOrigin.serialize (target.origin parse)) := by
        simp [standardEnv, parsed]
      simp only [assertRedirectAllowed, isOrigin, List.any_eq_true,
        decide_eq_true_eq, sameOrigin]
      simp

/-- The origin of a URL that is not a blob URL is its place. -/
theorem samePlace_of_origin_eq
    {target registered : UrlRecord}
    {page : TupleOrigin}
    (notBlob : target.scheme ≠ "blob")
    (otherNotBlob : registered.scheme ≠ "blob")
    (isPage : target.origin parse = some page)
    (otherIsPage : registered.origin parse = some page) :
    SamePlace target registered := by
  have place {record : UrlRecord} (notBlob : record.scheme ≠ "blob")
      (isPage : record.origin parse = some page) :
      record.scheme = page.scheme ∧ record.host = some page.host ∧
        record.port = page.port := by
    rw [UrlRecord.origin, if_neg notBlob, UrlRecord.ownOrigin] at isPage
    split at isPage
    · obtain ⟨host, hasHost, rfl⟩ := Option.map_eq_some_iff.mp isPage
      exact ⟨rfl, hasHost, rfl⟩
    · cases isPage
  obtain ⟨scheme, host, port⟩ := place notBlob isPage
  obtain ⟨otherScheme, otherHost, otherPort⟩ := place otherNotBlob otherIsPage
  exact ⟨scheme.trans otherScheme.symm, host.trans otherHost.symm,
    port.trans otherPort.symm⟩

/-- URLs of one origin are of one place, or can be confused. -/
theorem samePlace_or_confused
    {target registered : UrlRecord}
    (sameOrigin : target.origin parse = registered.origin parse) :
    SamePlace target registered ∨ Confused parse target registered := by
  cases isPage : target.origin parse with
  | none => exact Or.inr (.pageless _ _ isPage (sameOrigin ▸ isPage))
  | some page =>
      have otherIsPage : registered.origin parse = some page :=
        sameOrigin ▸ isPage
      by_cases isBlob : target.scheme = "blob" ∨ registered.scheme = "blob"
      · exact Or.inr (.blob _ _ page isBlob isPage otherIsPage)
      · obtain ⟨notBlob, otherNotBlob⟩ := not_or.mp isBlob
        exact Or.inl
          (samePlace_of_origin_eq notBlob otherNotBlob isPage otherIsPage)

theorem Confused.sameOrigin
    {target registered : UrlRecord}
    (confused : Confused parse target registered) :
    target.origin parse = registered.origin parse := by
  cases confused with
  | pageless noPage otherNoPage => exact noPage.trans otherNoPage.symm
  | blob page _ isPage otherIsPage => exact isPage.trans otherIsPage.symm

/-- An accepted redirect stays on a registered scheme, host and port, if and only
if it cannot be confused with a callback or such a callback is registered as
well. -/
theorem redirect_onRegistered_iff
    (configured : Bool)
    (mode : StripeMode)
    (parse : String → Option UrlRecord)
    (app : CallingApp)
    (url : String) :
    (assertRedirectAllowed (standardEnv configured mode parse) app url =
        .ok () → OnRegistered parse app url) ↔
      (ConfusedWithRegistered parse app url → OnRegistered parse app url) := by
  rw [assertRedirectAllowed_eq_ok_iff]
  constructor
  · rintro stays ⟨target, callback, registered, parsed, isCallback, itParsed,
      confused⟩
    exact stays ⟨target, callback, registered, parsed, isCallback, itParsed,
      confused.sameOrigin⟩
  · rintro unconfused ⟨target, callback, registered, parsed, isCallback,
      itParsed, sameOrigin⟩
    rcases samePlace_or_confused sameOrigin with samePlace | confused
    · exact ⟨target, callback, registered, parsed, isCallback, itParsed,
        samePlace⟩
    · exact unconfused ⟨target, callback, registered, parsed, isCallback,
        itParsed, confused⟩

/-- A callback `host:port/path` is parsed as a URL of the scheme `host`, and any
other such URL is accepted for it. -/
theorem redirect_offRegistered :
    let customScheme (scheme path : String) : UrlRecord :=
      { scheme := scheme, host := none, port := none, path := path }
    let parse (text : String) : Option UrlRecord :=
      if text = "localhost:3000/callback" then
        some (customScheme "localhost" "3000/callback")
      else if text = "evil.example:443/paid" then
        some (customScheme "evil.example" "443/paid")
      else none
    let app : CallingApp :=
      { id := "a"
        clientId := "app"
        callbackUrls := ["localhost:3000/callback"] }
    assertRedirectAllowed (standardEnv true .live parse) app
        "evil.example:443/paid" = .ok () ∧
      ¬ OnRegistered parse app "evil.example:443/paid" := by
  intro customScheme parse app
  refine ⟨by decide +kernel, ?_⟩
  rintro ⟨target, callback, registered, parsed, isCallback, itParsed,
    sameScheme, -, -⟩
  obtain rfl : callback = "localhost:3000/callback" := by
    simpa [app] using isCallback
  obtain rfl : customScheme "evil.example" "443/paid" = target := by
    simpa [parse] using parsed
  obtain rfl : customScheme "localhost" "3000/callback" = registered := by
    simpa [parse] using itParsed
  simp [customScheme] at sameScheme

/-! ## What the sessions get -/

/-- The redirect targets of a call that has passed the checks. -/
def CheckoutPhase.Redirected (env : CheckoutEnv) : CheckoutPhase → Prop
  | .findTenant purpose app
  | .createCustomer purpose app _
  | .storeCustomer purpose app _ _
  | .openSession purpose app _ =>
      ∀ url ∈ purpose.redirects, assertRedirectAllowed env app url = .ok ()
  | _ => True

theorem allowed_of_forM {env : CheckoutEnv} {app : CallingApp}
    {urls : List String}
    (passed : urls.forM (assertRedirectAllowed env app) = .ok ()) :
    ∀ url ∈ urls, assertRedirectAllowed env app url = .ok () := by
  induction urls with
  | nil => simp
  | cons first urls inductionHypothesis =>
      cases checked : assertRedirectAllowed env app first with
      | error message =>
          simp [List.forM, checked, bind, Except.bind] at passed
      | ok allowed =>
          simp only [List.forM, checked, bind, Except.bind] at passed
          intro url present
          rcases List.mem_cons.mp present with rfl | later
          · exact checked
          · exact inductionHypothesis passed url later

/-- A call keeps the targets that it was allowed. -/
theorem CheckoutPhase.redirected_step {env : CheckoutEnv}
    (minted : Minted) (front : Storefront) {phase : CheckoutPhase}
    (redirected : phase.Redirected env) :
    (phase.step env minted front).2.Redirected env := by
  have withStripe {next : CheckoutPhase} (ofNext : next.Redirected env) :
      (CheckoutPhase.withStripe env next).Redirected env := by
    unfold CheckoutPhase.withStripe
    split
    · exact ofNext
    · trivial
  cases phase with
  | findPrices dto app =>
      simp only [CheckoutPhase.step]
      split <;> trivial
  | findRelationship purpose app =>
      simp only [CheckoutPhase.step]
      split
      · split
        · trivial
        · exact allowed_of_forM ‹_›
      · trivial
  | findTenant purpose app =>
      simp only [CheckoutPhase.step, CheckoutPhase.ensureCustomer]
      split
      · trivial
      · split
        · trivial
        · split <;> exact withStripe redirected
  | createCustomer purpose app tenant => exact redirected
  | storeCustomer purpose app tenantId customer =>
      simp only [CheckoutPhase.step]
      split
      · trivial
      · exact redirected
  | openSession purpose app customer => trivial
  | done outcome => trivial
  | givenUp lost => trivial

/-- However the calls of the apps run, a session is opened only with targets that
were allowed. -/
theorem redirected_of_run
    {env : CheckoutEnv}
    {front : Storefront}
    {events : List (PoolEvent CheckoutRequest Minted)}
    {pool : Pool Storefront CheckoutPhase}
    (run : Run (checkouts env).poolStep (fun _ _ => True)
      { data := front, calls := [] } events pool) :
    ∀ call ∈ pool.calls, call.Redirected env := by
  have kept (before : Pool Storefront CheckoutPhase)
      (event : PoolEvent CheckoutRequest Minted)
      (after : Pool Storefront CheckoutPhase)
      (holds : ∀ call ∈ before.calls, call.Redirected env) (_ : True)
      (stepped : (checkouts env).poolStep before event = some after) :
      ∀ call ∈ after.calls, call.Redirected env := by
    cases event with
    | start request =>
        simp only [Program.poolStep, Option.some.injEq] at stepped
        subst stepped
        intro call present
        rcases List.mem_append.mp present with earlier | new
        · exact holds call earlier
        · obtain rfl := List.mem_singleton.mp new
          cases request <;> trivial
    | advance index minted =>
        simp only [Program.poolStep, Option.map_eq_some_iff] at stepped
        obtain ⟨mover, found, rfl⟩ := stepped
        intro call present
        rcases List.mem_or_eq_of_mem_set present with earlier | rfl
        · exact holds call earlier
        · exact CheckoutPhase.redirected_step minted before.data
            (holds mover (List.mem_of_getElem? found))
    | abandon index =>
        simp only [Program.poolStep, Option.map_eq_some_iff] at stepped
        obtain ⟨mover, found, rfl⟩ := stepped
        intro call present
        rcases List.mem_or_eq_of_mem_set present with earlier | rfl
        · exact holds call earlier
        · cases mover <;> trivial
  exact run.invariant (fun pool => ∀ call ∈ pool.calls, call.Redirected env)
    kept (by simp)

end Redirects

end Billing
end EvoPlatform
