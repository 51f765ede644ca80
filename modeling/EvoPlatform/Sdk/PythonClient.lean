import EvoPlatform.Sdk.Parameters

/-!
# The Python client

The requests of `EvoPlatform` in the Python SDK, one definition for each method.
Some methods build their body member by member and keep `None`, some drop it, and
some take any keyword arguments and rename them.
-/

namespace EvoPlatform
namespace Sdk
namespace PythonClient

/-! ## Names -/

/-- `str.title` on the letters of a keyword name; `cased` says that a letter came
before. -/
def titleFrom : Bool → List Char → List Char
  | _, [] => []
  | cased, char :: rest =>
      (if char.isAlpha then if cased then char.toLower else char.toUpper
        else char) :: titleFrom char.isAlpha rest

/-- The camelCase name of a keyword argument. -/
def camelName (key : String) : String :=
  match key.toList.splitOn '_' with
  | [] => ""
  | first :: parts => String.ofList (first ++ parts.flatMap (titleFrom false))

/-- `_camel`. -/
def camel (params : Members) : Members :=
  dropNone (params.map fun param => (camelName param.1, param.2))

/-! ## Internals -/

variable (options : ClientOptions)

/-- The URL of the platform without the slashes at its end. -/
def base : String := stripSlashes options.platformUrl

/-- `quote(text, safe="")` keeps these. -/
def keptByQuote (char : Char) : Bool :=
  char.isAlphanum || "_.-~".toList.contains char

/-- `urllib.parse.quote` with no character exempt. -/
def quote (text : String) : String :=
  percentEncode keptByQuote text

/-- `_client_headers`, which raises without the credentials. -/
def clientHeaders : Option (List (String × String)) :=
  if !truthyText options.clientId || !truthyText options.clientSecret then none
  else some [("x-client-id", options.clientId.getD ""),
    ("x-client-secret", options.clientSecret.getD "")]

/-- `_bearer`. -/
def bearer (accessToken : String) : List (String × String) :=
  [("Authorization", "Bearer " ++ accessToken)]

/-- `_origin`. -/
def originHeader (origin : Option String) : List (String × String) :=
  if truthyText origin then [("Origin", origin.getD "")] else []

/-- `_request`. -/
def request (method : HttpMethod) (path : String) (body : Option Members)
    (headers : List (String × String)) : HttpRequest :=
  ⟨method, base options ++ path, headers, body.map dumps⟩

/-- `_post`. -/
def post (path : String) (body : Members)
    (headers : List (String × String)) : HttpRequest :=
  request options .POST path (some body) headers

/-! ## Token verification -/

/-- The only request of `verify_token`, when the key is not cached. -/
def verifyToken : HttpRequest :=
  ⟨.GET, base options ++ "/.well-known/jwks.json", [], none⟩

/-! ## Auth proxy -/

/-- The body is written member by member, so `None` is kept. -/
def login (email password : String) (tenantSlug : Option String) :
    HttpRequest :=
  post options "/auth/login"
    [("tenantSlug", textMember tenantSlug), ("email", requiredText email),
      ("password", requiredText password),
      ("clientId", textMember options.clientId)] []

/-- A refresh token is exchanged for a new pair of tokens. -/
def refresh (refreshToken : String) : HttpRequest :=
  post options "/auth/refresh" [("refreshToken", requiredText refreshToken)] []

/-- The keyword arguments are renamed, the id of the client is not dropped. -/
def signup (params : Members) : HttpRequest :=
  post options "/auth/signup"
    (camel params ++ [("clientId", textMember options.clientId)]) []

/-- The refresh token is revoked. -/
def logout (refreshToken : String) : HttpRequest :=
  post options "/auth/logout" [("refreshToken", requiredText refreshToken)] []

/-! ## Email verification and password reset -/

/-- A workspace that is not given is dropped. -/
def sendVerificationEmail (email : String) (tenantSlug : Option String) :
    HttpRequest :=
  post options "/auth/verify/send"
    (dropNone [("tenantSlug", textMember tenantSlug),
      ("email", requiredText email)]) []

def verifyEmail (token : String) : HttpRequest :=
  post options "/auth/verify" [("token", requiredText token)] []

/-- The id of the client is dropped with the other `None`s. -/
def forgotPassword (email : String) (tenantSlug : Option String) :
    HttpRequest :=
  post options "/auth/forgot"
    (dropNone [("tenantSlug", textMember tenantSlug),
      ("email", requiredText email),
      ("clientId", textMember options.clientId)]) []

/-- The token of the mail and the new password. -/
def resetPassword (token password : String) : HttpRequest :=
  post options "/auth/reset"
    [("token", requiredText token), ("password", requiredText password)] []

/-! ## Passkeys -/

/-- An empty body; the origin of the page is a header. -/
def passkeyRegisterOptions (accessToken : String) (origin : Option String) :
    HttpRequest :=
  request options .POST "/auth/passkeys/register/options" (some [])
    (bearer accessToken ++ originHeader origin)

/-- A credential that is `None` is dropped. -/
def passkeyRegisterVerify (accessToken : String)
    (credential : Option JsonValue) (challengeToken : String)
    (nickname : Option String) : HttpRequest :=
  request options .POST "/auth/passkeys/register/verify"
    (some (dropNone [("credential", credential),
      ("challengeToken", requiredText challengeToken),
      ("nickname", textMember nickname)])) (bearer accessToken)

def listPasskeys (accessToken : String) : HttpRequest :=
  request options .GET "/auth/passkeys" none (bearer accessToken)

/-- The id becomes a part of the path as it is. -/
def deletePasskey (accessToken passkeyId : String) : HttpRequest :=
  request options .DELETE ("/auth/passkeys/" ++ passkeyId) none
    (bearer accessToken)

/-- A workspace that is not given is dropped. -/
def passkeyLoginOptions (email : String) (tenantSlug origin : Option String) :
    HttpRequest :=
  request options .POST "/auth/passkeys/login/options"
    (some (dropNone [("tenantSlug", textMember tenantSlug),
      ("email", requiredText email)])) (originHeader origin)

/-- The body is written member by member, so `None` is kept. -/
def passkeyLoginVerify (credential : Option JsonValue)
    (challengeToken : String) : HttpRequest :=
  post options "/auth/passkeys/login/verify"
    [("credential", credential),
      ("challengeToken", requiredText challengeToken),
      ("clientId", textMember options.clientId)] []

/-! ## Tenant members -/

/-- The members of the workspace of the access token. -/
def listTenantMembers (accessToken : String) : HttpRequest :=
  request options .GET "/tenant/users" none (bearer accessToken)

def listTenantRoles (accessToken : String) : HttpRequest :=
  request options .GET "/tenant/roles" none (bearer accessToken)

/-- The keyword arguments are renamed. -/
def createTenantMember (accessToken : String) (params : Members) :
    HttpRequest :=
  request options .POST "/tenant/users" (some (camel params))
    (bearer accessToken)

/-- The keyword arguments are renamed, and those that are `None` dropped. -/
def updateTenantMember (accessToken memberId : String) (params : Members) :
    HttpRequest :=
  request options .PATCH ("/tenant/users/" ++ memberId) (some (camel params))
    (bearer accessToken)

/-- Members are deactivated and never deleted. -/
def deactivateTenantMember (accessToken memberId : String) : HttpRequest :=
  request options .DELETE ("/tenant/users/" ++ memberId) none
    (bearer accessToken)

/-- The id stands in the middle of the path. -/
def restoreTenantMember (accessToken memberId : String) : HttpRequest :=
  request options .POST ("/tenant/users/" ++ memberId ++ "/restore") none
    (bearer accessToken)

/-- All roles of a member are replaced. -/
def setTenantMemberRoles (accessToken memberId : String)
    (roleIds : List String) : HttpRequest :=
  request options .PUT ("/tenant/users/" ++ memberId ++ "/roles")
    (some [("roleIds", some (textsValue roleIds))]) (bearer accessToken)

/-! ## Invites -/

def listTenantInvites (accessToken : String) : HttpRequest :=
  request options .GET "/tenant/invites" none (bearer accessToken)

/-- The keyword arguments are renamed. -/
def createTenantInvite (accessToken : String) (params : Members) :
    HttpRequest :=
  request options .POST "/tenant/invites" (some (camel params))
    (bearer accessToken)

/-- The id stands in the middle of the path. -/
def resendTenantInvite (accessToken inviteId : String) : HttpRequest :=
  request options .POST ("/tenant/invites/" ++ inviteId ++ "/resend") none
    (bearer accessToken)

def revokeTenantInvite (accessToken inviteId : String) : HttpRequest :=
  request options .DELETE ("/tenant/invites/" ++ inviteId) none
    (bearer accessToken)

/-- The token of the invite stands for an access token. -/
def acceptInvite (params : Members) : HttpRequest :=
  post options "/auth/invites/accept" (camel params) []

/-! ## Services for a client with credentials -/

/-- The id of the workspace is the only text in a query. -/
def getEntitlement (tenantId : String) : Option HttpRequest :=
  (clientHeaders options).map fun headers =>
    request options .GET ("/billing/entitlement?tenantId=" ++ quote tenantId)
      none headers

/-- The catalogue of the app. -/
def listPrices : Option HttpRequest :=
  (clientHeaders options).map (request options .GET "/billing/prices" none)

/-- The options of a checkout that are not given are dropped. -/
def createCheckout (tenantId successUrl cancelUrl : String)
    (tier interval : Option String) (intervalCount : Option Rat)
    (priceId : Option String) (quantity : Option Rat) : Option HttpRequest :=
  (clientHeaders options).map (post options "/billing/checkout"
    (dropNone [("tenantId", requiredText tenantId),
      ("successUrl", requiredText successUrl),
      ("cancelUrl", requiredText cancelUrl),
      ("tier", textMember tier),
      ("interval", textMember interval),
      ("intervalCount", numberMember intervalCount),
      ("priceId", textMember priceId),
      ("quantity", numberMember quantity)]))

/-- Where the customer comes back from the portal. -/
def createBillingPortal (tenantId returnUrl : String) : Option HttpRequest :=
  (clientHeaders options).map (post options "/billing/portal"
    [("tenantId", requiredText tenantId),
      ("returnUrl", requiredText returnUrl)])

/-- A mail of the app; `to` is a keyword and keeps its name. -/
def sendEmail (params : Members) : Option HttpRequest :=
  (clientHeaders options).map (post options "/email/send" (camel params))

/-- A detail that is `None` is dropped with the rest. -/
def pushEvent (params : Members) : Option HttpRequest :=
  (clientHeaders options).map (post options "/events" (camel params))

/-- The brand of the app. -/
def getBrand : Option HttpRequest :=
  (clientHeaders options).map (request options .GET "/brand" none)

end PythonClient
end Sdk
end EvoPlatform
