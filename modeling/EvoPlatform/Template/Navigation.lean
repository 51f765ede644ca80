import EvoPlatform.Auth.SessionRoles

/-!
# Where a visitor of the app template ends up

The proxy looks at whether there is a session cookie, the pages at what is in
it.  Both answer with redirects, which the browser follows while the clock and
the memberships go on.
-/

namespace EvoPlatform
namespace Template

open Auth

/-! ## The proxy -/

def SESSION_COOKIES : List String :=
  ["evoapp.session-token", "__Secure-evoapp.session-token"]

/-- The paths that are reachable without a session. -/
def PUBLIC_PATHS : List String :=
  ["/login", "/signup", "/forgot-password", "/forgot-workspace",
    "/reset-password"]

/-- The public paths that a visitor with a session may open. -/
def PUBLIC_WITH_SESSION : List String := ["/reset-password"]

def startsWith (text start : String) : Bool :=
  start.toList.isPrefixOf text.toList

/-- A path of the list, or one below it. -/
def isWithin (paths : List String) (pathname : String) : Bool :=
  paths.any fun path => pathname = path || startsWith pathname (path ++ "/")

/-- The paths that begin with one of these are left to others. -/
def unmatchedStarts : List String := ["/api", "/_next", "/favicon.ico"]

def unmatchedEnds : List String :=
  [".svg", ".png", ".jpg", ".jpeg", ".gif", ".webp", ".ico"]

/-- `config.matcher`. -/
def isMatched (pathname : String) : Bool :=
  startsWith pathname "/" &&
    !unmatchedStarts.any (startsWith pathname) &&
    !unmatchedEnds.any fun ending =>
      ending.toList.isSuffixOf pathname.toList

/-- A cookie of the browser.  What `auth` makes of its value depends on the
time: a token that has expired is none. -/
structure Cookie where
  name : String
  decode : Nat → Option SessionToken

/-- `proxy`: where it redirects to, if it does. -/
def proxy (cookies : List Cookie) (pathname : String) : Option String :=
  let hasSession := SESSION_COOKIES.any fun name =>
    cookies.any fun cookie => cookie.name = name
  let isPublic := isWithin PUBLIC_PATHS pathname
  if !hasSession && !isPublic then some "/login"
  else
    let keepsSession := isWithin PUBLIC_WITH_SESSION pathname
    if hasSession && isPublic && !keepsSession then some "/" else none

/-! ## The pages -/

/-- The clock and the memberships when a request is answered. -/
structure World where
  now : Nat
  db : MembershipTable

/-- `auth`, of an app whose cookie has this name. -/
def auth (sessionCookie : String) (cookies : List Cookie) (world : World) :
    Option SessionUser :=
  (cookies.find? fun cookie => cookie.name = sessionCookie).bind fun cookie =>
    (cookie.decode world.now).map fun token =>
      session (jwt world.now world.db token none)

/-- What `verifySession` returns, as far as it decides who may go on. -/
structure SessionContext where
  userId : String
  tenantId : String
  role : LocalRole
  deriving DecidableEq

/-- `verifySession`, which redirects to the login page. -/
def verifySession (sessionCookie : String) (cookies : List Cookie)
    (world : World) : Except String SessionContext :=
  match auth sessionCookie cookies world with
  | none => .error "/login"
  | some user =>
      match Auth.given (some user.id), Auth.given user.tenantId with
      | some userId, some tenantId => .ok
          { userId := userId
            tenantId := tenantId
            role := user.role.getD .member }
      | _, _ => .error "/login"

/-- The pages whose layout verifies the session. -/
def appPages : List String := ["/", "/members", "/settings/account"]

/-- The pages of the sign-in. -/
def authPages : List String :=
  ["/login", "/signup", "/forgot-password", "/forgot-workspace",
    "/reset-password"]

inductive Response
  | redirect (pathname : String)
  /-- A page of the app, with whose session it is shown. -/
  | appPage (context : SessionContext)
  | authPage
  | notFound
  /-- A route handler or a file, which the proxy leaves alone. -/
  | unmatched

/-- What the browser is answered. -/
def respond (sessionCookie : String) (cookies : List Cookie) (world : World)
    (pathname : String) : Response :=
  if isMatched pathname then
    match proxy cookies pathname with
    | some target => .redirect target
    | none =>
        if pathname ∈ appPages then
          match verifySession sessionCookie cookies world with
          | .error target => .redirect target
          | .ok context => .appPage context
        else if pathname ∈ authPages then .authPage
        else .notFound
  else .unmatched

/-- Where the browser is after this many redirects; none when it was answered
with something else before. -/
def location (sessionCookie : String) (cookies : List Cookie)
    (worlds : Nat → World) (start : String) : Nat → Option String
  | 0 => some start
  | hops + 1 =>
      (location sessionCookie cookies worlds start hops).bind fun pathname =>
        match respond sessionCookie cookies (worlds hops) pathname with
        | .redirect target => some target
        | _ => none

/-! ## Who may go on -/

section Sessions

variable {sessionCookie : String} {cookies : List Cookie} {world : World}

/-- The cookie holds a token of a user in a workspace, which was checked lately
or is borne out by a membership. -/
def Scoped (sessionCookie : String) (cookies : List Cookie)
    (world : World) : Prop :=
  ∃ cookie token uid tenantId,
    cookies.find? (fun cookie => cookie.name = sessionCookie) = some cookie ∧
    cookie.decode world.now = some token ∧
    Auth.given token.uid = some uid ∧
    Auth.given token.tenantId = some tenantId ∧
    (world.now - token.roleCheckedAt.getD 0 ≤ roleRefreshMs ∨
      (world.db.findUnique uid tenantId).isSome = true)

/-- `??` with an empty text makes no difference to a test for truth. -/
theorem given_getD (text : Option String) :
    Auth.given (some (text.getD "")) = Auth.given text := by
  cases text with
  | none => rfl
  | some text => rfl

/-- The workspace that a membership is bound to is given. -/
theorem given_bind
    {uid tenantId : String}
    {db : MembershipTable}
    (token : SessionToken)
    (now : Nat) :
    (Auth.given (token.bind now (db.findUnique uid tenantId)).tenantId).isSome =
      (db.findUnique uid tenantId).isSome := by
  cases found : db.findUnique uid tenantId with
  | none => rfl
  | some row =>
      have isGiven := (db.idsGiven row (db.table.mem_of_find? found)).2
      have bound : (token.bind now (some row)).tenantId = some row.tenantId :=
        rfl
      rw [bound, given_some isGiven]
      rfl

/-- What the callback makes of a token has a user and a workspace. -/
theorem jwt_scoped_iff
    (now : Nat)
    (db : MembershipTable)
    (token : SessionToken) :
    ((Auth.given (jwt now db token none).uid).isSome = true ∧
      (Auth.given (jwt now db token none).tenantId).isSome = true) ↔
    ∃ uid tenantId, Auth.given token.uid = some uid ∧
      Auth.given token.tenantId = some tenantId ∧
      (now - token.roleCheckedAt.getD 0 ≤ roleRefreshMs ∨
        (db.findUnique uid tenantId).isSome = true) := by
  have noUser : (none : Option AuthorizedUser).filter
      (fun user => user.id ≠ "") = none := rfl
  unfold jwt
  rw [noUser]
  dsimp only
  cases isUid : Auth.given token.uid with
  | none => simp [isUid]
  | some uid =>
      cases isTenant : Auth.given token.tenantId with
      | none => simp [isTenant]
      | some tenantId =>
          dsimp only
          by_cases stale : now - token.roleCheckedAt.getD 0 > roleRefreshMs
          · have sameUid : (token.bind now (db.findUnique uid tenantId)).uid =
                token.uid := rfl
            rw [if_pos stale, sameUid, isUid, given_bind]
            simp [Nat.not_le.mpr stale]
          · rw [if_neg stale, isUid, isTenant]
            simp [Nat.not_lt.mp stale]

/-- `verifySession` returns exactly where it should. -/
theorem verifySession_iff :
    (∃ context, verifySession sessionCookie cookies world = .ok context) ↔
      Scoped sessionCookie cookies world := by
  have ofUser : ∀ token,
      auth sessionCookie cookies world =
          some (session (jwt world.now world.db token none)) →
        ((∃ context,
          verifySession sessionCookie cookies world = .ok context) ↔
        (Auth.given (jwt world.now world.db token none).uid).isSome = true ∧
          (Auth.given (jwt world.now world.db token none).tenantId).isSome =
            true) := by
    intro token isUser
    rw [← given_getD (jwt world.now world.db token none).uid, verifySession,
      isUser]
    simp only [session]
    cases Auth.given
        (some ((jwt world.now world.db token none).uid.getD "")) <;>
      cases Auth.given (jwt world.now world.db token none).tenantId <;> simp
  constructor
  · rintro ⟨context, verified⟩
    cases isUser : auth sessionCookie cookies world with
    | none => simp [verifySession, isUser] at verified
    | some user =>
        have read := isUser
        simp only [auth, Option.bind_eq_some_iff, Option.map_eq_some_iff]
          at read
        obtain ⟨cookie, isCookie, token, decoded, rfl⟩ := read
        obtain ⟨uid, tenantId, isUid, isTenant, borneOut⟩ :=
          (jwt_scoped_iff world.now world.db token).mp
            ((ofUser token isUser).mp ⟨context, verified⟩)
        exact ⟨cookie, token, uid, tenantId, isCookie, decoded, isUid, isTenant,
          borneOut⟩
  · rintro ⟨cookie, token, uid, tenantId, isCookie, decoded, isScoped⟩
    have isUser : auth sessionCookie cookies world =
        some (session (jwt world.now world.db token none)) := by
      simp [auth, isCookie, decoded]
    exact (ofUser token isUser).mpr
      ((jwt_scoped_iff world.now world.db token).mpr ⟨uid, tenantId,
        isScoped⟩)

end Sessions

/-! ## Following the redirects -/

section Redirects

variable {sessionCookie : String} {cookies : List Cookie}
  {worlds : Nat → World} {start : String}

/-- The browser has a cookie with a name that the proxy looks for. -/
def HasSession (cookies : List Cookie) : Prop :=
  ∃ cookie ∈ cookies, cookie.name ∈ SESSION_COOKIES

/-- A path that a visitor with a session is sent away from. -/
def Bounced (pathname : String) : Prop :=
  isMatched pathname = true ∧ isWithin PUBLIC_PATHS pathname = true ∧
    isWithin PUBLIC_WITH_SESSION pathname = false

/-- The browser is not redirected for ever. -/
def Ends (sessionCookie : String) (cookies : List Cookie)
    (worlds : Nat → World) (start : String) : Prop :=
  ∃ hops, location sessionCookie cookies worlds start hops = none

/-- The first redirect, and the rest. -/
theorem location_succ (hops : Nat) :
    location sessionCookie cookies worlds start (hops + 1) =
      match respond sessionCookie cookies (worlds 0) start with
      | .redirect target =>
          location sessionCookie cookies (fun hop => worlds (hop + 1)) target
            hops
      | _ => none := by
  induction hops with
  | zero => simp only [location, Option.bind_some]
  | succ hops inductionHypothesis =>
      rw [location, inductionHypothesis]
      split <;> rfl

theorem ends_of_redirect
    {target : String}
    (redirected : respond sessionCookie cookies (worlds 0) start =
      .redirect target) :
    Ends sessionCookie cookies worlds start ↔
      Ends sessionCookie cookies (fun hop => worlds (hop + 1)) target := by
  constructor
  · rintro ⟨hops, ended⟩
    cases hops with
    | zero => contradiction
    | succ hops =>
        rw [location_succ, redirected] at ended
        exact ⟨hops, ended⟩
  · rintro ⟨hops, ended⟩
    refine ⟨hops + 1, ?_⟩
    rw [location_succ, redirected]
    exact ended

theorem ends_of_answer
    (answered : ∀ target, respond sessionCookie cookies (worlds 0) start ≠
      .redirect target) :
    Ends sessionCookie cookies worlds start := by
  refine ⟨1, ?_⟩
  rw [location_succ]
  split
  · rename_i target redirected
    exact absurd redirected (answered target)
  · rfl

/-- The proxy, of a visitor with a cookie. -/
theorem proxy_of_session
    (hasSession : HasSession cookies)
    (pathname : String) :
    proxy cookies pathname =
      if isWithin PUBLIC_PATHS pathname = true ∧
          isWithin PUBLIC_WITH_SESSION pathname = false then some "/"
      else none := by
  obtain ⟨cookie, present, isName⟩ := hasSession
  have found : (SESSION_COOKIES.any fun name =>
      cookies.any fun cookie => cookie.name = name) = true := by
    rw [List.any_eq_true]
    exact ⟨cookie.name, isName, List.any_eq_true.mpr
      ⟨cookie, present, decide_eq_true rfl⟩⟩
  rw [proxy, found]
  simp

/-- The proxy, of a visitor without one. -/
theorem proxy_of_none
    (noSession : ¬ HasSession cookies)
    (pathname : String) :
    proxy cookies pathname =
      if isWithin PUBLIC_PATHS pathname = true then none
      else some "/login" := by
  have missing : (SESSION_COOKIES.any fun name =>
      cookies.any fun cookie => cookie.name = name) = false := by
    rw [Bool.eq_false_iff]
    intro found
    obtain ⟨name, isName, present⟩ := List.any_eq_true.mp found
    obtain ⟨cookie, isCookie, same⟩ := List.any_eq_true.mp present
    exact noSession ⟨cookie, isCookie, (of_decide_eq_true same).symm ▸ isName⟩
  rw [proxy, missing]
  cases isWithin PUBLIC_PATHS pathname <;> simp

/-- The pages of the app are matched, and not public. -/
theorem of_appPage
    {pathname : String}
    (isPage : pathname ∈ appPages) :
    isMatched pathname = true ∧ isWithin PUBLIC_PATHS pathname = false := by
  have all : (appPages.all fun pathname =>
      isMatched pathname && !isWithin PUBLIC_PATHS pathname) = true := by
    decide +kernel
  simpa using List.all_eq_true.mp all pathname isPage

theorem bounced_login : Bounced "/login" := by
  refine ⟨?_, ?_, ?_⟩ <;> decide +kernel

theorem respond_bounced
    (hasSession : HasSession cookies)
    (world : World)
    {pathname : String}
    (bounced : Bounced pathname) :
    respond sessionCookie cookies world pathname = .redirect "/" := by
  rw [respond, if_pos bounced.1, proxy_of_session hasSession,
    if_pos bounced.2]

theorem respond_appPage
    (hasSession : HasSession cookies)
    (world : World)
    {pathname : String}
    (isPage : pathname ∈ appPages) :
    respond sessionCookie cookies world pathname =
      match verifySession sessionCookie cookies world with
      | .error target => .redirect target
      | .ok context => .appPage context := by
  obtain ⟨matched, notPublic⟩ := of_appPage isPage
  rw [respond, if_pos matched, proxy_of_session hasSession, notPublic]
  simp only [Bool.false_eq_true, false_and, if_false, isPage, if_true]

theorem verifySession_error
    {world : World}
    (unscoped : ¬ Scoped sessionCookie cookies world) :
    verifySession sessionCookie cookies world = .error "/login" := by
  cases verified : verifySession sessionCookie cookies world with
  | ok context =>
      exact absurd (verifySession_iff.mp ⟨context, verified⟩) unscoped
  | error target =>
      rw [verifySession] at verified
      split at verified
      · exact verified.symm
      · split at verified
        · contradiction
        · exact verified.symm

theorem respond_unscoped
    (hasSession : HasSession cookies)
    {world : World}
    (isPage : start ∈ appPages)
    (unscoped : ¬ Scoped sessionCookie cookies world) :
    respond sessionCookie cookies world start = .redirect "/login" := by
  rw [respond_appPage hasSession world isPage, verifySession_error unscoped]

/-- From a page of the app, a visitor with a cookie is shown a page, or is sent
to the login page and back. -/
theorem ends_appPage_iff
    (hasSession : HasSession cookies)
    (isPage : start ∈ appPages) :
    Ends sessionCookie cookies worlds start ↔
      Scoped sessionCookie cookies (worlds 0) ∨
        Ends sessionCookie cookies (fun hop => worlds (hop + 2)) "/" := by
  by_cases isScoped : Scoped sessionCookie cookies (worlds 0)
  · obtain ⟨context, verified⟩ := verifySession_iff.mpr isScoped
    refine iff_of_true (ends_of_answer ?_) (.inl isScoped)
    intro target
    rw [respond_appPage hasSession (worlds 0) isPage, verified]
    exact Response.noConfusion
  · have back : respond sessionCookie cookies (worlds 1) "/login" =
        .redirect "/" := respond_bounced hasSession (worlds 1) bounced_login
    rw [ends_of_redirect (respond_unscoped hasSession isPage isScoped),
      ends_of_redirect back, or_iff_right isScoped]

/-- A visitor with a cookie ends up on a page of the app when the session is
scoped at one of the visits, every other request. -/
theorem ends_appPage
    (hasSession : HasSession cookies)
    (isPage : start ∈ appPages) :
    Ends sessionCookie cookies worlds start ↔
      ∃ visit, Scoped sessionCookie cookies (worlds (2 * visit)) := by
  have isHome : "/" ∈ appPages := by decide
  constructor
  · rintro ⟨hops, ended⟩
    induction hops using Nat.strongRecOn generalizing worlds start with
    | ind hops inductionHypothesis =>
        by_cases isScoped : Scoped sessionCookie cookies (worlds 0)
        · exact ⟨0, isScoped⟩
        · cases hops with
          | zero => contradiction
          | succ hops =>
              rw [location_succ,
                respond_unscoped hasSession isPage isScoped] at ended
              dsimp only at ended
              cases hops with
              | zero => contradiction
              | succ hops =>
                  rw [location_succ, respond_bounced hasSession _
                    bounced_login] at ended
                  obtain ⟨visit, visitScoped⟩ :=
                    inductionHypothesis hops (by omega) isHome ended
                  exact ⟨visit + 1, visitScoped⟩
  · rintro ⟨visit, isScoped⟩
    induction visit generalizing worlds start with
    | zero => exact (ends_appPage_iff hasSession isPage).mpr (.inl isScoped)
    | succ visit inductionHypothesis =>
        rw [ends_appPage_iff hasSession isPage]
        exact .inr (inductionHypothesis isHome isScoped)

theorem respond_unmatched
    {world : World}
    {pathname : String}
    (unmatched : ¬ isMatched pathname = true)
    (target : String) :
    respond sessionCookie cookies world pathname ≠ .redirect target := by
  rw [respond, if_neg unmatched]
  exact Response.noConfusion

/-- A page that is not of the app does not redirect by itself. -/
theorem respond_of_proxy_none
    {world : World}
    {pathname : String}
    (passed : proxy cookies pathname = none)
    (notPage : pathname ∉ appPages)
    (target : String) :
    respond sessionCookie cookies world pathname ≠ .redirect target := by
  by_cases matched : isMatched pathname = true
  · rw [respond, if_pos matched, passed]
    dsimp only
    rw [if_neg notPage]
    split <;> exact Response.noConfusion
  · exact respond_unmatched matched target

/-- Elsewhere, a visitor with a cookie is not redirected. -/
theorem respond_elsewhere
    (hasSession : HasSession cookies)
    {world : World}
    (notPage : start ∉ appPages)
    (notBounced : ¬ Bounced start)
    (target : String) :
    respond sessionCookie cookies world start ≠ .redirect target := by
  by_cases matched : isMatched start = true
  · have stays : ¬ (isWithin PUBLIC_PATHS start = true ∧
        isWithin PUBLIC_WITH_SESSION start = false) :=
      fun isPublic => notBounced ⟨matched, isPublic⟩
    have passed : proxy cookies start = none := by
      rw [proxy_of_session hasSession, if_neg stays]
    exact respond_of_proxy_none passed notPage target
  · exact respond_unmatched matched target

/-- The pages of the app are not public. -/
theorem notPage_of_public
    {pathname : String}
    (isPublic : isWithin PUBLIC_PATHS pathname = true) :
    pathname ∉ appPages :=
  fun isPage => absurd isPublic (Bool.eq_false_iff.mp (of_appPage isPage).2)

/-- A visitor without a cookie is sent to the login page, if anywhere. -/
theorem ends_of_noSession
    (noSession : ¬ HasSession cookies) :
    Ends sessionCookie cookies worlds start := by
  have answered : ∀ (pathname : String) (world : World),
      isWithin PUBLIC_PATHS pathname = true → ∀ target,
        respond sessionCookie cookies world pathname ≠ .redirect target := by
    intro pathname world isPublic
    have passed : proxy cookies pathname = none := by
      rw [proxy_of_none noSession, if_pos isPublic]
    exact respond_of_proxy_none passed (notPage_of_public isPublic)
  by_cases isPublic : isWithin PUBLIC_PATHS start = true
  · exact ends_of_answer (answered start (worlds 0) isPublic)
  · by_cases matched : isMatched start = true
    · have redirected : respond sessionCookie cookies (worlds 0) start =
          .redirect "/login" := by
        rw [respond, if_pos matched, proxy_of_none noSession,
          if_neg isPublic]
      rw [ends_of_redirect redirected]
      exact ends_of_answer (answered "/login" (worlds 1) bounced_login.2.1)
    · exact ends_of_answer (respond_unmatched matched)

/-- The redirects that a visitor follows come to an end, exactly when there is
no session cookie, the path is neither a page of the app nor one that visitors
with a session are sent away from, or the session is scoped at one of the visits
to a page of the app.  These take place at every other request, from the first
one or the second one on. -/
theorem navigation_ends_iff
    (sessionCookie : String)
    (cookies : List Cookie)
    (worlds : Nat → World)
    (start : String) :
    Ends sessionCookie cookies worlds start ↔
      ¬ HasSession cookies ∨
      (start ∉ appPages ∧ ¬ Bounced start) ∨
      (start ∈ appPages ∧
        ∃ visit, Scoped sessionCookie cookies (worlds (2 * visit))) ∨
      (Bounced start ∧
        ∃ visit, Scoped sessionCookie cookies (worlds (2 * visit + 1))) := by
  by_cases hasSession : HasSession cookies
  · rw [or_iff_right (not_not.mpr hasSession)]
    by_cases isPage : start ∈ appPages
    · have notBounced : ¬ Bounced start := fun bounced =>
        notPage_of_public bounced.2.1 isPage
      rw [ends_appPage hasSession isPage]
      simp only [isPage, notBounced, not_true_eq_false, false_and, false_or,
        true_and, or_false]
    · by_cases bounced : Bounced start
      · have isHome : "/" ∈ appPages := by decide
        rw [ends_of_redirect (respond_bounced hasSession (worlds 0) bounced),
          ends_appPage hasSession isHome]
        simp only [isPage, bounced, not_true_eq_false, and_false, false_and,
          false_or, true_and]
      · exact iff_of_true
          (ends_of_answer (respond_elsewhere hasSession isPage bounced))
          (.inl ⟨isPage, bounced⟩)
  · exact iff_of_true (ends_of_noSession hasSession) (.inl hasSession)

end Redirects

end Template
end EvoPlatform
