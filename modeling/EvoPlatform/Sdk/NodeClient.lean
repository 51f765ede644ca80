import EvoPlatform.Sdk.Parameters

/-!
# The Node client

The requests of `EvoPlatform` in the Node SDK, one definition for each method.
A parameter object is passed on as it is; `undefined` members vanish when the
body is written.  A call that needs the credentials of the client issues nothing
when they are not configured.
-/

namespace EvoPlatform
namespace Sdk
namespace NodeClient

variable (options : ClientOptions)

/-- The URL of the platform without the slashes at its end. -/
def baseUrl : String := stripSlashes options.platformUrl

/-- `encodeURIComponent` keeps these. -/
def keptByEncodeURIComponent (char : Char) : Bool :=
  char.isAlphanum || "-_.!~*'()".toList.contains char

/-- `encodeURIComponent` of a text without lone surrogates. -/
def encodeURIComponent (text : String) : String :=
  percentEncode keptByEncodeURIComponent text

/-! ## Internals -/

/-- `clientHeaders`, which throws without the credentials. -/
def clientHeaders : Option (List (String × String)) :=
  match options.clientId, options.clientSecret with
  | some clientId, some clientSecret =>
      if clientId = "" ∨ clientSecret = "" then none
      else some [("x-client-id", clientId), ("x-client-secret", clientSecret)]
  | _, _ => none

/-- The header of a call on behalf of a user. -/
def bearer (accessToken : String) : List (String × String) :=
  [("Authorization", "Bearer " ++ accessToken)]

/-- The origin of the page rides along when it is given. -/
def originHeader (origin : Option String) : List (String × String) :=
  match origin with
  | some origin => if origin = "" then [] else [("Origin", origin)]
  | none => []

/-- A request with a body that is written by `JSON.stringify`. -/
def request (method : HttpMethod) (path : String) (body : Option Members)
    (headers : List (String × String)) : HttpRequest :=
  ⟨method, baseUrl options ++ path, headers, body.map stringify⟩

/-- A request that always has a body. -/
def post (path : String) (body : Members)
    (headers : List (String × String)) : HttpRequest :=
  request options .POST path (some body) headers

/-! ## Token verification -/

/-- The only request of `verifyToken`, when the key is not cached. -/
def verifyToken : HttpRequest :=
  ⟨.GET, baseUrl options ++ "/.well-known/jwks.json", [], none⟩

/-! ## Auth proxy -/

/-- The parameters go along with the id of the client, configured or not. -/
def login (params : Members) : HttpRequest :=
  post options "/auth/login"
    (params ++ [("clientId", textMember options.clientId)]) []

/-- A refresh token is exchanged for a new pair of tokens. -/
def refresh (refreshToken : String) : HttpRequest :=
  post options "/auth/refresh" [("refreshToken", requiredText refreshToken)] []

/-- The parameters of a signup go along with the id of the client. -/
def signup (params : Members) : HttpRequest :=
  post options "/auth/signup"
    (params ++ [("clientId", textMember options.clientId)]) []

/-- The refresh token is revoked. -/
def logout (refreshToken : String) : HttpRequest :=
  post options "/auth/logout" [("refreshToken", requiredText refreshToken)] []

/-! ## Email verification and password reset -/

/-- The address goes out as the caller has given it. -/
def sendVerificationEmail (params : Members) : HttpRequest :=
  post options "/auth/verify/send" params []

def verifyEmail (token : String) : HttpRequest :=
  post options "/auth/verify" [("token", requiredText token)] []

/-- The id of the client rides along when there is one. -/
def forgotPassword (params : Members) : HttpRequest :=
  post options "/auth/forgot"
    (params ++ if truthyText options.clientId = true then
      [("clientId", textMember options.clientId)] else []) []

/-- The token of the mail and the new password. -/
def resetPassword (token password : String) : HttpRequest :=
  post options "/auth/reset"
    [("token", requiredText token), ("password", requiredText password)] []

/-! ## Passkeys -/

/-- An empty body; the origin of the page is a header. -/
def passkeyRegisterOptions (accessToken : String) (origin : Option String) :
    HttpRequest :=
  request options .POST "/auth/passkeys/register/options" (some [])
    (bearer accessToken ++ originHeader origin)

/-- The credential goes along as the authenticator has given it. -/
def passkeyRegisterVerify (accessToken : String) (params : Members) :
    HttpRequest :=
  request options .POST "/auth/passkeys/register/verify" (some params)
    (bearer accessToken)

def listPasskeys (accessToken : String) : HttpRequest :=
  request options .GET "/auth/passkeys" none (bearer accessToken)

/-- The id becomes a part of the path as it is. -/
def deletePasskey (accessToken id : String) : HttpRequest :=
  request options .DELETE ("/auth/passkeys/" ++ id) none (bearer accessToken)

/-- A sign-in by passkey begins without an access token. -/
def passkeyLoginOptions (params : Members) (origin : Option String) :
    HttpRequest :=
  request options .POST "/auth/passkeys/login/options" (some params)
    (originHeader origin)

/-- The credential goes along with the id of the client. -/
def passkeyLoginVerify (params : Members) : HttpRequest :=
  request options .POST "/auth/passkeys/login/verify"
    (some (params ++ [("clientId", textMember options.clientId)])) []

/-! ## Tenant members -/

/-- The members of the workspace of the access token. -/
def listTenantMembers (accessToken : String) : HttpRequest :=
  request options .GET "/tenant/users" none (bearer accessToken)

def listTenantRoles (accessToken : String) : HttpRequest :=
  request options .GET "/tenant/roles" none (bearer accessToken)

/-- The parameters of a new member, as they are given. -/
def createTenantMember (accessToken : String) (params : Members) :
    HttpRequest :=
  request options .POST "/tenant/users" (some params) (bearer accessToken)

/-- Only the columns that the caller has given are sent. -/
def updateTenantMember (accessToken id : String) (params : Members) :
    HttpRequest :=
  request options .PATCH ("/tenant/users/" ++ id) (some params)
    (bearer accessToken)

/-- Members are deactivated and never deleted. -/
def deactivateTenantMember (accessToken id : String) : HttpRequest :=
  request options .DELETE ("/tenant/users/" ++ id) none (bearer accessToken)

/-- The id stands in the middle of the path. -/
def restoreTenantMember (accessToken id : String) : HttpRequest :=
  request options .POST ("/tenant/users/" ++ id ++ "/restore") none
    (bearer accessToken)

/-- All roles of a member are replaced. -/
def setTenantMemberRoles (accessToken id : String) (roleIds : List String) :
    HttpRequest :=
  request options .PUT ("/tenant/users/" ++ id ++ "/roles")
    (some [("roleIds", some (textsValue roleIds))]) (bearer accessToken)

/-! ## Invites -/

def listTenantInvites (accessToken : String) : HttpRequest :=
  request options .GET "/tenant/invites" none (bearer accessToken)

/-- The address and the roles of an invite. -/
def createTenantInvite (accessToken : String) (params : Members) :
    HttpRequest :=
  request options .POST "/tenant/invites" (some params) (bearer accessToken)

/-- The id stands in the middle of the path. -/
def resendTenantInvite (accessToken id : String) : HttpRequest :=
  request options .POST ("/tenant/invites/" ++ id ++ "/resend") none
    (bearer accessToken)

def revokeTenantInvite (accessToken id : String) : HttpRequest :=
  request options .DELETE ("/tenant/invites/" ++ id) none (bearer accessToken)

/-- The token of the invite stands for an access token. -/
def acceptInvite (params : Members) : HttpRequest :=
  post options "/auth/invites/accept" params []

/-! ## Services for a client with credentials -/

/-- The id of the workspace is the only text in a query. -/
def getEntitlement (tenantId : String) : Option HttpRequest :=
  (clientHeaders options).map fun headers =>
    request options .GET
      ("/billing/entitlement?tenantId=" ++ encodeURIComponent tenantId) none
      headers

/-- The catalogue of the app. -/
def listPrices : Option HttpRequest :=
  (clientHeaders options).map (request options .GET "/billing/prices" none)

/-- The workspace and the price that it is about to pay for. -/
def createCheckout (params : Members) : Option HttpRequest :=
  (clientHeaders options).map (post options "/billing/checkout" params)

/-- Where the customer comes back from the portal. -/
def createBillingPortal (params : Members) : Option HttpRequest :=
  (clientHeaders options).map (post options "/billing/portal" params)

/-- A mail of the app, through the relay of the workspace if it has one. -/
def sendEmail (params : Members) : Option HttpRequest :=
  (clientHeaders options).map (post options "/email/send" params)

/-- The brand of the app. -/
def getBrand : Option HttpRequest :=
  (clientHeaders options).map (request options .GET "/brand" none)

/-- An event of the app for the audit log. -/
def pushEvent (params : Members) : Option HttpRequest :=
  (clientHeaders options).map (post options "/events" params)

end NodeClient
end Sdk
end EvoPlatform
