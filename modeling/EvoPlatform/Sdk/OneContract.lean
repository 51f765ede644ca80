import EvoPlatform.Sdk.HttpLibraries
import EvoPlatform.Sdk.NodeClient
import EvoPlatform.Sdk.PythonClient

/-!
# One contract in two languages

The two clients issue the same requests, apart from a few methods.  Where the
Python client keeps `None`, an option that was not given is sent as null; where
it drops `None`, a value that was given as null is not sent; and the two
percent-encoders disagree on a few characters.  An id goes into the path as it
is, so the path is what `fetch` and `httpx` make of it.
-/

namespace EvoPlatform
namespace Sdk

/-- A call of a method that both clients have, with the arguments of the Node
method. -/
inductive Call
  | verifyToken
  | login (params : LoginParams)
  | refresh (refreshToken : String)
  | signup (params : SignupParams)
  | logout (refreshToken : String)
  | sendVerificationEmail (params : AddressParams)
  | verifyEmail (token : String)
  | forgotPassword (params : AddressParams)
  | resetPassword (token password : String)
  | passkeyRegisterOptions (accessToken : String) (origin : Option String)
  | passkeyRegisterVerify (accessToken : String) (params : RegisterVerifyParams)
  | listPasskeys (accessToken : String)
  | deletePasskey (accessToken id : String)
  | passkeyLoginOptions (params : AddressParams) (origin : Option String)
  | passkeyLoginVerify (params : LoginVerifyParams)
  | listTenantMembers (accessToken : String)
  | listTenantRoles (accessToken : String)
  | createTenantMember (accessToken : String) (params : CreateMemberParams)
  | updateTenantMember (accessToken id : String) (params : UpdateMemberParams)
  | deactivateTenantMember (accessToken id : String)
  | restoreTenantMember (accessToken id : String)
  | setTenantMemberRoles (accessToken id : String) (roleIds : List String)
  | listTenantInvites (accessToken : String)
  | createTenantInvite (accessToken : String) (params : CreateInviteParams)
  | resendTenantInvite (accessToken id : String)
  | revokeTenantInvite (accessToken id : String)
  | acceptInvite (params : AcceptInviteParams)
  | getEntitlement (tenantId : String)
  | listPrices
  | createCheckout (params : CheckoutParams)
  | createBillingPortal (params : PortalParams)
  | sendEmail (params : SendEmailParams)
  | getBrand
  | pushEvent (params : PushEventParams)

namespace Call

variable (options : ClientOptions)

/-- The request of the Node client, unless it throws a `ConfigError`. -/
def node : Call → Option HttpRequest
  | .verifyToken => some (NodeClient.verifyToken options)
  | .login params => some (NodeClient.login options params.members)
  | .refresh refreshToken => some (NodeClient.refresh options refreshToken)
  | .signup params => some (NodeClient.signup options params.members)
  | .logout refreshToken => some (NodeClient.logout options refreshToken)
  | .sendVerificationEmail params =>
      some (NodeClient.sendVerificationEmail options params.members)
  | .verifyEmail token => some (NodeClient.verifyEmail options token)
  | .forgotPassword params =>
      some (NodeClient.forgotPassword options params.members)
  | .resetPassword token password =>
      some (NodeClient.resetPassword options token password)
  | .passkeyRegisterOptions accessToken origin =>
      some (NodeClient.passkeyRegisterOptions options accessToken origin)
  | .passkeyRegisterVerify accessToken params =>
      some (NodeClient.passkeyRegisterVerify options accessToken params.members)
  | .listPasskeys accessToken =>
      some (NodeClient.listPasskeys options accessToken)
  | .deletePasskey accessToken id =>
      some (NodeClient.deletePasskey options accessToken id)
  | .passkeyLoginOptions params origin =>
      some (NodeClient.passkeyLoginOptions options params.members origin)
  | .passkeyLoginVerify params =>
      some (NodeClient.passkeyLoginVerify options params.members)
  | .listTenantMembers accessToken =>
      some (NodeClient.listTenantMembers options accessToken)
  | .listTenantRoles accessToken =>
      some (NodeClient.listTenantRoles options accessToken)
  | .createTenantMember accessToken params =>
      some (NodeClient.createTenantMember options accessToken params.members)
  | .updateTenantMember accessToken id params =>
      some (NodeClient.updateTenantMember options accessToken id params.members)
  | .deactivateTenantMember accessToken id =>
      some (NodeClient.deactivateTenantMember options accessToken id)
  | .restoreTenantMember accessToken id =>
      some (NodeClient.restoreTenantMember options accessToken id)
  | .setTenantMemberRoles accessToken id roleIds =>
      some (NodeClient.setTenantMemberRoles options accessToken id roleIds)
  | .listTenantInvites accessToken =>
      some (NodeClient.listTenantInvites options accessToken)
  | .createTenantInvite accessToken params =>
      some (NodeClient.createTenantInvite options accessToken params.members)
  | .resendTenantInvite accessToken id =>
      some (NodeClient.resendTenantInvite options accessToken id)
  | .revokeTenantInvite accessToken id =>
      some (NodeClient.revokeTenantInvite options accessToken id)
  | .acceptInvite params =>
      some (NodeClient.acceptInvite options params.members)
  | .getEntitlement tenantId => NodeClient.getEntitlement options tenantId
  | .listPrices => NodeClient.listPrices options
  | .createCheckout params => NodeClient.createCheckout options params.members
  | .createBillingPortal params =>
      NodeClient.createBillingPortal options params.members
  | .sendEmail params => NodeClient.sendEmail options params.members
  | .getBrand => NodeClient.getBrand options
  | .pushEvent params => NodeClient.pushEvent options params.members

/-- The request of the Python client for the same arguments, unless it raises a
`ConfigError`. -/
def python : Call → Option HttpRequest
  | .verifyToken => some (PythonClient.verifyToken options)
  | .login params =>
      some (PythonClient.login options params.email params.password
        params.tenantSlug)
  | .refresh refreshToken => some (PythonClient.refresh options refreshToken)
  | .signup params => some (PythonClient.signup options params.kwargs)
  | .logout refreshToken => some (PythonClient.logout options refreshToken)
  | .sendVerificationEmail params =>
      some (PythonClient.sendVerificationEmail options params.email
        params.tenantSlug)
  | .verifyEmail token => some (PythonClient.verifyEmail options token)
  | .forgotPassword params =>
      some (PythonClient.forgotPassword options params.email params.tenantSlug)
  | .resetPassword token password =>
      some (PythonClient.resetPassword options token password)
  | .passkeyRegisterOptions accessToken origin =>
      some (PythonClient.passkeyRegisterOptions options accessToken origin)
  | .passkeyRegisterVerify accessToken params =>
      some (PythonClient.passkeyRegisterVerify options accessToken
        (pythonValue params.credential) params.challengeToken params.nickname)
  | .listPasskeys accessToken =>
      some (PythonClient.listPasskeys options accessToken)
  | .deletePasskey accessToken id =>
      some (PythonClient.deletePasskey options accessToken id)
  | .passkeyLoginOptions params origin =>
      some (PythonClient.passkeyLoginOptions options params.email
        params.tenantSlug origin)
  | .passkeyLoginVerify params =>
      some (PythonClient.passkeyLoginVerify options
        (pythonValue params.credential) params.challengeToken)
  | .listTenantMembers accessToken =>
      some (PythonClient.listTenantMembers options accessToken)
  | .listTenantRoles accessToken =>
      some (PythonClient.listTenantRoles options accessToken)
  | .createTenantMember accessToken params =>
      some (PythonClient.createTenantMember options accessToken params.kwargs)
  | .updateTenantMember accessToken id params =>
      some (PythonClient.updateTenantMember options accessToken id params.kwargs)
  | .deactivateTenantMember accessToken id =>
      some (PythonClient.deactivateTenantMember options accessToken id)
  | .restoreTenantMember accessToken id =>
      some (PythonClient.restoreTenantMember options accessToken id)
  | .setTenantMemberRoles accessToken id roleIds =>
      some (PythonClient.setTenantMemberRoles options accessToken id roleIds)
  | .listTenantInvites accessToken =>
      some (PythonClient.listTenantInvites options accessToken)
  | .createTenantInvite accessToken params =>
      some (PythonClient.createTenantInvite options accessToken params.kwargs)
  | .resendTenantInvite accessToken id =>
      some (PythonClient.resendTenantInvite options accessToken id)
  | .revokeTenantInvite accessToken id =>
      some (PythonClient.revokeTenantInvite options accessToken id)
  | .acceptInvite params =>
      some (PythonClient.acceptInvite options params.kwargs)
  | .getEntitlement tenantId => PythonClient.getEntitlement options tenantId
  | .listPrices => PythonClient.listPrices options
  | .createCheckout params =>
      PythonClient.createCheckout options params.tenantId params.successUrl
        params.cancelUrl params.tier params.interval params.intervalCount
        params.priceId params.quantity
  | .createBillingPortal params =>
      PythonClient.createBillingPortal options params.tenantId params.returnUrl
  | .sendEmail params => PythonClient.sendEmail options params.kwargs
  | .getBrand => PythonClient.getBrand options
  | .pushEvent params => PythonClient.pushEvent options params.kwargs

end Call

namespace Call

/-- The path of a call, with the encoder of its query. -/
def path (encode : String → String) : Call → String
  | .verifyToken => "/.well-known/jwks.json"
  | .login _ => "/auth/login"
  | .refresh _ => "/auth/refresh"
  | .signup _ => "/auth/signup"
  | .logout _ => "/auth/logout"
  | .sendVerificationEmail _ => "/auth/verify/send"
  | .verifyEmail _ => "/auth/verify"
  | .forgotPassword _ => "/auth/forgot"
  | .resetPassword _ _ => "/auth/reset"
  | .passkeyRegisterOptions _ _ => "/auth/passkeys/register/options"
  | .passkeyRegisterVerify _ _ => "/auth/passkeys/register/verify"
  | .listPasskeys _ => "/auth/passkeys"
  | .deletePasskey _ id => "/auth/passkeys/" ++ id
  | .passkeyLoginOptions _ _ => "/auth/passkeys/login/options"
  | .passkeyLoginVerify _ => "/auth/passkeys/login/verify"
  | .listTenantMembers _ | .createTenantMember _ _ => "/tenant/users"
  | .listTenantRoles _ => "/tenant/roles"
  | .updateTenantMember _ id _ | .deactivateTenantMember _ id =>
      "/tenant/users/" ++ id
  | .restoreTenantMember _ id => "/tenant/users/" ++ id ++ "/restore"
  | .setTenantMemberRoles _ id _ => "/tenant/users/" ++ id ++ "/roles"
  | .listTenantInvites _ | .createTenantInvite _ _ => "/tenant/invites"
  | .resendTenantInvite _ id => "/tenant/invites/" ++ id ++ "/resend"
  | .revokeTenantInvite _ id => "/tenant/invites/" ++ id
  | .acceptInvite _ => "/auth/invites/accept"
  | .getEntitlement tenantId =>
      "/billing/entitlement?tenantId=" ++ encode tenantId
  | .listPrices => "/billing/prices"
  | .createCheckout _ => "/billing/checkout"
  | .createBillingPortal _ => "/billing/portal"
  | .sendEmail _ => "/email/send"
  | .getBrand => "/brand"
  | .pushEvent _ => "/events"

/-- The headers of a call, unless it needs credentials that are missing. -/
def headers (options : ClientOptions) : Call → Option (List (String × String))
  | .passkeyRegisterOptions accessToken origin =>
      some (PythonClient.bearer accessToken ++ PythonClient.originHeader origin)
  | .passkeyLoginOptions _ origin => some (PythonClient.originHeader origin)
  | .passkeyRegisterVerify accessToken _ | .listPasskeys accessToken
  | .deletePasskey accessToken _ | .listTenantMembers accessToken
  | .listTenantRoles accessToken | .createTenantMember accessToken _
  | .updateTenantMember accessToken _ _ | .deactivateTenantMember accessToken _
  | .restoreTenantMember accessToken _ | .setTenantMemberRoles accessToken _ _
  | .listTenantInvites accessToken | .createTenantInvite accessToken _
  | .resendTenantInvite accessToken _ | .revokeTenantInvite accessToken _ =>
      some (PythonClient.bearer accessToken)
  | .getEntitlement _ | .listPrices | .createCheckout _
  | .createBillingPortal _ | .sendEmail _ | .getBrand | .pushEvent _ =>
      PythonClient.clientHeaders options
  | .verifyToken | .login _ | .refresh _ | .signup _ | .logout _
  | .sendVerificationEmail _ | .verifyEmail _ | .forgotPassword _
  | .resetPassword _ _ | .passkeyLoginVerify _ | .acceptInvite _ => some []

/-- An id reads alike in the path of a call, and a text in its query has none
of the characters that the encoders disagree on.  `fetch` escapes an apostrophe
that `encodeURIComponent` has kept. -/
def SamePath (fetch httpx : HttpLibrary) (options : ClientOptions)
    (call : Call) : Prop :=
  match call with
  | .deletePasskey _ _ | .updateTenantMember _ _ _
  | .deactivateTenantMember _ _ | .restoreTenantMember _ _
  | .setTenantMemberRoles _ _ _ | .resendTenantInvite _ _
  | .revokeTenantInvite _ _ =>
      fetch.target (PythonClient.base options ++ call.path id) =
        httpx.target (PythonClient.base options ++ call.path id)
  | .getEntitlement tenantId => ∀ char ∈ tenantId.toList, char ∉ "!*()".toList
  | _ => True

/-- Where the bodies of the two clients decode to the same value. -/
def SameBody (options : ClientOptions) : Call → Prop
  | .login params =>
      params.tenantSlug.isSome = true ∧ options.clientId.isSome = true
  | .signup _ => options.clientId.isSome = true
  | .forgotPassword _ => options.clientId ≠ some ""
  | .passkeyRegisterVerify _ params => params.credential ≠ .null
  | .passkeyLoginVerify _ => options.clientId.isSome = true
  | .pushEvent params => params.detail ≠ some .null
  | _ => True

/-- The text of the URL of a call, with the encoder of its query. -/
def url (options : ClientOptions) (encode : String → String) (call : Call) :
    String :=
  PythonClient.base options ++ call.path encode

/-- Where the two clients agree: the credentials that the call needs are
missing, both libraries refuse the texts of the call, or both take them, read
them alike, and the bodies are the same. -/
def agrees (fetch httpx : HttpLibrary) (options : ClientOptions)
    (call : Call) : Prop :=
  ∀ headers, call.headers options = some headers →
    (fetch.accepts (call.url options NodeClient.encodeURIComponent) headers =
        false ∧
      httpx.accepts (call.url options PythonClient.quote) headers = false) ∨
    (fetch.accepts (call.url options NodeClient.encodeURIComponent) headers =
        true ∧
      httpx.accepts (call.url options PythonClient.quote) headers = true ∧
      SameValues fetch httpx headers ∧
      call.SamePath fetch httpx options ∧
      call.SameBody options)

end Call

/-! ## Keyword arguments -/

/-- Keyword arguments that are renamed to the members of the Node client. -/
theorem camel_eq
    {kwargs members : Members}
    (renamed : kwargs.map (fun kwarg => PythonClient.camelName kwarg.1) =
      members.map Prod.fst)
    (sameValues : kwargs.map Prod.snd = members.map Prod.snd) :
    PythonClient.camel kwargs = dropNone members := by
  rw [PythonClient.camel]
  congr 1
  induction kwargs generalizing members with
  | nil => exact (List.map_eq_nil_iff.mp renamed.symm).symm
  | cons kwarg kwargs inductionHypothesis =>
      cases members with
      | nil => simp at renamed
      | cons member members =>
          simp only [List.map_cons, List.cons.injEq] at renamed sameValues
          rw [List.map_cons, inductionHypothesis renamed.2 sameValues.2,
            renamed.1, sameValues.1]

/-- The keyword arguments of each call, and the members that they become. -/
theorem keywords_renamed :
    ["company", "slug", "email", "password", "first_name", "last_name",
        "invite_token"].map PythonClient.camelName =
      ["company", "slug", "email", "password", "firstName", "lastName",
        "inviteToken"] ∧
    ["email", "password", "first_name", "last_name", "phone",
        "is_tenant_admin"].map PythonClient.camelName =
      ["email", "password", "firstName", "lastName", "phone",
        "isTenantAdmin"] ∧
    ["first_name", "last_name", "phone", "is_tenant_admin"].map
        PythonClient.camelName =
      ["firstName", "lastName", "phone", "isTenantAdmin"] ∧
    ["email", "role_ids", "is_tenant_admin"].map PythonClient.camelName =
      ["email", "roleIds", "isTenantAdmin"] ∧
    ["token", "password", "first_name", "last_name", "phone"].map
        PythonClient.camelName =
      ["token", "password", "firstName", "lastName", "phone"] ∧
    ["tenant_id", "to", "subject", "text", "html"].map
        PythonClient.camelName =
      ["tenantId", "to", "subject", "text", "html"] ∧
    ["action", "tenant_id", "user_id", "detail"].map
        PythonClient.camelName =
      ["action", "tenantId", "userId", "detail"] := by
  decide +kernel

theorem SignupParams.camel_kwargs (params : SignupParams) :
    PythonClient.camel params.kwargs = dropNone params.members := by
  exact camel_eq keywords_renamed.1 rfl

theorem CreateMemberParams.camel_kwargs (params : CreateMemberParams) :
    PythonClient.camel params.kwargs = dropNone params.members := by
  exact camel_eq keywords_renamed.2.1 rfl

theorem UpdateMemberParams.camel_kwargs (params : UpdateMemberParams) :
    PythonClient.camel params.kwargs = dropNone params.members := by
  exact camel_eq keywords_renamed.2.2.1 rfl

theorem CreateInviteParams.camel_kwargs (params : CreateInviteParams) :
    PythonClient.camel params.kwargs = dropNone params.members := by
  exact camel_eq keywords_renamed.2.2.2.1 rfl

theorem AcceptInviteParams.camel_kwargs (params : AcceptInviteParams) :
    PythonClient.camel params.kwargs = dropNone params.members := by
  exact camel_eq keywords_renamed.2.2.2.2.1 rfl

theorem SendEmailParams.camel_kwargs (params : SendEmailParams) :
    PythonClient.camel params.kwargs = dropNone params.members := by
  exact camel_eq keywords_renamed.2.2.2.2.2.1 rfl

/-- The members of an event as Python sees them: a null detail is `None`. -/
def PushEventParams.inPython (params : PushEventParams) : PushEventParams :=
  { params with detail := params.detail.bind pythonValue }

theorem PushEventParams.camel_kwargs (params : PushEventParams) :
    PythonClient.camel params.kwargs = dropNone params.inPython.members := by
  exact camel_eq keywords_renamed.2.2.2.2.2.2 rfl

/-! ## Headers -/

section Headers

variable (options : ClientOptions)

theorem clientHeaders_eq :
    NodeClient.clientHeaders options = PythonClient.clientHeaders options := by
  unfold NodeClient.clientHeaders PythonClient.clientHeaders truthyText
  cases options.clientId with
  | none => simp
  | some clientId =>
      cases options.clientSecret with
      | none => simp
      | some clientSecret => simp

theorem originHeader_eq (origin : Option String) :
    NodeClient.originHeader origin = PythonClient.originHeader origin := by
  cases origin with
  | none => rfl
  | some origin =>
      simp [NodeClient.originHeader, PythonClient.originHeader, truthyText]

end Headers

/-! ## Bodies -/

section Bodies

variable {members : Members}

/-- A method that drops `None`. -/
theorem stringify_eq_dumps_dropNone
    (distinct : (members.map Prod.fst).Nodup) :
    some (stringify members) = some (dumps (dropNone members)) :=
  congrArg some (dumps_dropNone distinct).symm

/-- A method that renames its keyword arguments. -/
theorem stringify_eq_dumps_camel
    {kwargs : Members}
    (renamed : PythonClient.camel kwargs = dropNone members)
    (distinct : (members.map Prod.fst).Nodup) :
    some (stringify members) = some (dumps (PythonClient.camel kwargs)) := by
  rw [renamed]
  exact stringify_eq_dumps_dropNone distinct

/-- A method that keeps `None`, with members that are all there. -/
theorem stringify_eq_dumps
    (given : members.map (fun member =>
      (member.1, some (member.2.getD JsonValue.null))) = members) :
    some (stringify members) = some (dumps members) := by
  rw [dumps_eq_stringify, given]

end Bodies

/-! ## The methods that differ -/

section Differences

variable (options : ClientOptions)

theorem textMember_eq_iff (text : Option String) :
    textMember text = some ((textMember text).getD .null) ↔
      text.isSome = true := by
  cases text <;> simp [textMember]

/-- `login` keeps `None`. -/
theorem login_eq_iff (params : LoginParams) :
    (NodeClient.login options params.members).body =
        (PythonClient.login options params.email params.password
          params.tenantSlug).body ↔
      params.tenantSlug.isSome = true ∧ options.clientId.isSome = true := by
  have distinct : ["tenantSlug", "email", "password", "clientId"].Nodup := by
    decide
  refine Iff.trans Option.some_inj ?_
  rw [dumps_eq_stringify]
  refine Iff.trans (stringify_eq_iff rfl distinct) ?_
  simp [LoginParams.members, requiredText, textMember_eq_iff]

/-- `signup` drops `None`, but not for the id of the client. -/
theorem signup_eq_iff (params : SignupParams) :
    (NodeClient.signup options params.members).body =
        (PythonClient.signup options params.kwargs).body ↔
      options.clientId.isSome = true := by
  have distinct : ["company", "slug", "email", "password", "firstName",
      "lastName", "inviteToken", "clientId"].Nodup := by
    decide
  have dropped : dumps (PythonClient.camel params.kwargs ++
      [("clientId", textMember options.clientId)]) =
        stringify (params.members ++
          [("clientId", some ((textMember options.clientId).getD .null))]) := by
    rw [params.camel_kwargs]
    exact dumps_dropNone_append distinct
  refine Iff.trans Option.some_inj ?_
  rw [dropped]
  refine Iff.trans (stringify_eq_iff rfl distinct) ?_
  simp [textMember_eq_iff]

/-- `passkeyLoginVerify` keeps `None`. -/
theorem passkeyLoginVerify_eq_iff (params : LoginVerifyParams) :
    (NodeClient.passkeyLoginVerify options params.members).body =
        (PythonClient.passkeyLoginVerify options
          (pythonValue params.credential) params.challengeToken).body ↔
      options.clientId.isSome = true := by
  have distinct : ["credential", "challengeToken", "clientId"].Nodup := by
    decide
  refine Iff.trans Option.some_inj ?_
  rw [dumps_eq_stringify]
  refine Iff.trans (stringify_eq_iff rfl distinct) ?_
  simp [LoginVerifyParams.members, requiredText, textMember_eq_iff]

/-- `forgotPassword` drops `None`, and the Node client also an empty id. -/
theorem forgotPassword_eq_iff (params : AddressParams) :
    (NodeClient.forgotPassword options params.members).body =
        (PythonClient.forgotPassword options params.email
          params.tenantSlug).body ↔
      options.clientId ≠ some "" := by
  have distinct : ["tenantSlug", "email", "clientId"].Nodup := by decide
  have kept : stringify (params.members ++
      if truthyText options.clientId = true then
        [("clientId", textMember options.clientId)] else []) =
      stringify (params.members ++ [("clientId",
        if truthyText options.clientId = true then textMember options.clientId
        else none)]) := by
    split
    · rfl
    · rw [stringify_append_missing, List.append_nil]
  have dropped : dumps (dropNone
      (params.members ++ [("clientId", textMember options.clientId)])) =
        stringify
          (params.members ++ [("clientId", textMember options.clientId)]) :=
    dumps_dropNone distinct
  refine Iff.trans Option.some_inj ?_
  rw [kept]
  refine Iff.trans (Eq.congr_right dropped) ?_
  refine Iff.trans (stringify_eq_iff rfl distinct) ?_
  cases clientId : options.clientId with
  | none => simp [textMember, truthyText]
  | some text => simp [textMember, truthyText]

/-- `passkeyRegisterVerify` drops `None`, also for a credential that is null. -/
theorem passkeyRegisterVerify_eq_iff (accessToken : String)
    (params : RegisterVerifyParams) :
    (NodeClient.passkeyRegisterVerify options accessToken
        params.members).body =
        (PythonClient.passkeyRegisterVerify options accessToken
          (pythonValue params.credential) params.challengeToken
          params.nickname).body ↔
      params.credential ≠ .null := by
  have distinct : ["credential", "challengeToken", "nickname"].Nodup := by
    decide
  have dropped : dumps (dropNone
      [("credential", pythonValue params.credential),
        ("challengeToken", requiredText params.challengeToken),
        ("nickname", textMember params.nickname)]) = stringify
      [("credential", pythonValue params.credential),
        ("challengeToken", requiredText params.challengeToken),
        ("nickname", textMember params.nickname)] :=
    dumps_dropNone distinct
  refine Iff.trans Option.some_inj ?_
  rw [dropped]
  refine Iff.trans (stringify_eq_iff rfl distinct) ?_
  simp [RegisterVerifyParams.members]

/-- `pushEvent` drops `None`, also for a detail that is null. -/
theorem pushEvent_eq_iff (params : PushEventParams)
    (headers : List (String × String)) :
    (NodeClient.post options "/events" params.members headers).body =
        (PythonClient.post options "/events"
          (PythonClient.camel params.kwargs) headers).body ↔
      params.detail ≠ some .null := by
  have distinct : ["action", "tenantId", "userId", "detail"].Nodup := by
    decide
  have dropped : dumps (PythonClient.camel params.kwargs) =
      stringify params.inPython.members := by
    rw [params.camel_kwargs]
    exact dumps_dropNone distinct
  refine Iff.trans Option.some_inj ?_
  rw [dropped]
  refine Iff.trans (stringify_eq_iff rfl distinct) ?_
  cases detail : params.detail with
  | none => simp [PushEventParams.members, PushEventParams.inPython, detail]
  | some value =>
      simp [PushEventParams.members, PushEventParams.inPython, detail]

end Differences

/-! ## Pairs of requests -/

/-- The requests of the two clients for a call with its headers: they differ in
the encoder of the query and in the body at most. -/
structure Paired (options : ClientOptions) (call : Call)
    (headers : List (String × String)) (node python : HttpRequest) : Prop where
  method : node.method = python.method
  nodeUrl : node.url = call.url options NodeClient.encodeURIComponent
  pythonUrl : python.url = call.url options PythonClient.quote
  nodeHeaders : node.headers = headers
  pythonHeaders : python.headers = headers
  body : node.body = python.body ↔ call.SameBody options

/-- The two clients hand over requests in pairs. -/
theorem exists_paired (options : ClientOptions) (call : Call)
    (headers : List (String × String))
    (named : call.headers options = some headers) :
    ∃ node python, call.node options = some node ∧
      call.python options = some python ∧
      Paired options call headers node python := by
  cases call with
  -- The methods without a body.
  | verifyToken | listPasskeys accessToken | deletePasskey accessToken id
  | listTenantMembers accessToken | listTenantRoles accessToken
  | deactivateTenantMember accessToken id | restoreTenantMember accessToken id
  | listTenantInvites accessToken | resendTenantInvite accessToken id
  | revokeTenantInvite accessToken id =>
      obtain rfl := Option.some.inj named
      exact ⟨_, _, rfl, rfl, rfl, rfl, rfl, rfl, rfl, iff_of_true rfl trivial⟩
  | listPrices | getBrand | getEntitlement tenantId =>
      have isNode := (clientHeaders_eq options).trans named
      refine ⟨_, _, congrArg (Option.map _) isNode,
        congrArg (Option.map _) named, rfl, rfl, rfl, rfl, rfl, ?_⟩
      exact iff_of_true rfl trivial
  -- The methods that differ.
  | login params =>
      obtain rfl := Option.some.inj named
      exact ⟨_, _, rfl, rfl, rfl, rfl, rfl, rfl, rfl,
        login_eq_iff options params⟩
  | signup params =>
      obtain rfl := Option.some.inj named
      exact ⟨_, _, rfl, rfl, rfl, rfl, rfl, rfl, rfl,
        signup_eq_iff options params⟩
  | forgotPassword params =>
      obtain rfl := Option.some.inj named
      exact ⟨_, _, rfl, rfl, rfl, rfl, rfl, rfl, rfl,
        forgotPassword_eq_iff options params⟩
  | passkeyRegisterVerify accessToken params =>
      obtain rfl := Option.some.inj named
      exact ⟨_, _, rfl, rfl, rfl, rfl, rfl, rfl, rfl,
        passkeyRegisterVerify_eq_iff options accessToken params⟩
  | passkeyLoginVerify params =>
      obtain rfl := Option.some.inj named
      exact ⟨_, _, rfl, rfl, rfl, rfl, rfl, rfl, rfl,
        passkeyLoginVerify_eq_iff options params⟩
  | pushEvent params =>
      have isNode := (clientHeaders_eq options).trans named
      exact ⟨_, _, congrArg (Option.map _) isNode,
        congrArg (Option.map _) named, rfl, rfl, rfl, rfl, rfl,
        pushEvent_eq_iff options params headers⟩
  -- The methods whose members are all there.
  | refresh text | logout text | verifyEmail text =>
      obtain rfl := Option.some.inj named
      exact ⟨_, _, rfl, rfl, rfl, rfl, rfl, rfl, rfl,
        iff_of_true (stringify_eq_dumps rfl) trivial⟩
  | resetPassword token password =>
      obtain rfl := Option.some.inj named
      exact ⟨_, _, rfl, rfl, rfl, rfl, rfl, rfl, rfl,
        iff_of_true (stringify_eq_dumps rfl) trivial⟩
  | setTenantMemberRoles accessToken id roleIds =>
      obtain rfl := Option.some.inj named
      exact ⟨_, _, rfl, rfl, rfl, rfl, rfl, rfl, rfl,
        iff_of_true (stringify_eq_dumps rfl) trivial⟩
  | passkeyRegisterOptions accessToken origin =>
      obtain rfl := Option.some.inj named
      refine ⟨_, _, rfl, rfl, rfl, rfl, rfl, ?_, rfl,
        iff_of_true (stringify_eq_dumps rfl) trivial⟩
      exact congrArg (_ ++ ·) (originHeader_eq origin)
  | createBillingPortal params =>
      have isNode := (clientHeaders_eq options).trans named
      exact ⟨_, _, congrArg (Option.map _) isNode,
        congrArg (Option.map _) named, rfl, rfl, rfl, rfl, rfl,
        iff_of_true (stringify_eq_dumps rfl) trivial⟩
  -- The methods that drop `None`.
  | sendVerificationEmail params =>
      have distinct : ["tenantSlug", "email"].Nodup := by decide
      obtain rfl := Option.some.inj named
      exact ⟨_, _, rfl, rfl, rfl, rfl, rfl, rfl, rfl,
        iff_of_true (stringify_eq_dumps_dropNone distinct) trivial⟩
  | passkeyLoginOptions params origin =>
      have distinct : ["tenantSlug", "email"].Nodup := by decide
      obtain rfl := Option.some.inj named
      exact ⟨_, _, rfl, rfl, rfl, rfl, rfl, originHeader_eq origin, rfl,
        iff_of_true (stringify_eq_dumps_dropNone distinct) trivial⟩
  | createCheckout params =>
      have distinct : ["tenantId", "successUrl", "cancelUrl", "tier",
          "interval", "intervalCount", "priceId", "quantity"].Nodup := by
        decide
      have isNode := (clientHeaders_eq options).trans named
      exact ⟨_, _, congrArg (Option.map _) isNode,
        congrArg (Option.map _) named, rfl, rfl, rfl, rfl, rfl,
        iff_of_true (stringify_eq_dumps_dropNone distinct) trivial⟩
  -- The methods that rename keyword arguments.
  | createTenantMember accessToken params =>
      have distinct : ["email", "password", "firstName", "lastName", "phone",
          "isTenantAdmin"].Nodup := by
        decide
      obtain rfl := Option.some.inj named
      refine ⟨_, _, rfl, rfl, rfl, rfl, rfl, rfl, rfl, iff_of_true ?_ trivial⟩
      exact stringify_eq_dumps_camel params.camel_kwargs distinct
  | updateTenantMember accessToken id params =>
      have distinct : ["firstName", "lastName", "phone",
          "isTenantAdmin"].Nodup := by
        decide
      obtain rfl := Option.some.inj named
      refine ⟨_, _, rfl, rfl, rfl, rfl, rfl, rfl, rfl, iff_of_true ?_ trivial⟩
      exact stringify_eq_dumps_camel params.camel_kwargs distinct
  | createTenantInvite accessToken params =>
      have distinct : ["email", "roleIds", "isTenantAdmin"].Nodup := by decide
      obtain rfl := Option.some.inj named
      refine ⟨_, _, rfl, rfl, rfl, rfl, rfl, rfl, rfl, iff_of_true ?_ trivial⟩
      exact stringify_eq_dumps_camel params.camel_kwargs distinct
  | acceptInvite params =>
      have distinct : ["token", "password", "firstName", "lastName",
          "phone"].Nodup := by
        decide
      obtain rfl := Option.some.inj named
      refine ⟨_, _, rfl, rfl, rfl, rfl, rfl, rfl, rfl, iff_of_true ?_ trivial⟩
      exact stringify_eq_dumps_camel params.camel_kwargs distinct
  | sendEmail params =>
      have distinct : ["tenantId", "to", "subject", "text", "html"].Nodup := by
        decide
      have isNode := (clientHeaders_eq options).trans named
      refine ⟨_, _, congrArg (Option.map _) isNode,
        congrArg (Option.map _) named, rfl, rfl, rfl, rfl, rfl,
        iff_of_true ?_ trivial⟩
      exact stringify_eq_dumps_camel params.camel_kwargs distinct

/-- Without the credentials that a call needs, neither client hands anything
over. -/
theorem refused_of_headers_eq_none (options : ClientOptions) (call : Call)
    (missing : call.headers options = none) :
    call.node options = none ∧ call.python options = none := by
  cases call with
  | getEntitlement tenantId | listPrices | createCheckout params
  | createBillingPortal params | sendEmail params | getBrand
  | pushEvent params =>
      have isNode := (clientHeaders_eq options).trans missing
      exact ⟨congrArg (Option.map _) isNode, congrArg (Option.map _) missing⟩
  | _ => exact absurd missing (by simp [Call.headers])

/-! ## Paths -/

theorem queryChar_of_keptByEncodeURIComponent (char : Char)
    (keeps : NodeClient.keptByEncodeURIComponent char = true) :
    queryChar char = true := by
  have node : "-_.!~*'()".toList =
      ['-', '_', '.', '!', '~', '*', '\'', '(', ')'] := rfl
  have plain : "-_.~".toList = ['-', '_', '.', '~'] := rfl
  have special : "!*'()".toList = ['!', '*', '\'', '(', ')'] := rfl
  rw [NodeClient.keptByEncodeURIComponent, node] at keeps
  rw [queryChar, unreserved, plain, special]
  simp only [Bool.or_eq_true, List.contains_iff_mem, List.mem_cons,
    List.not_mem_nil, or_false] at keeps ⊢
  tauto

theorem queryChar_of_keptByQuote (char : Char)
    (keeps : PythonClient.keptByQuote char = true) :
    queryChar char = true := by
  have python : "_.-~".toList = ['_', '.', '-', '~'] := rfl
  have plain : "-_.~".toList = ['-', '_', '.', '~'] := rfl
  rw [PythonClient.keptByQuote, python] at keeps
  rw [queryChar, unreserved, plain]
  simp only [Bool.or_eq_true, List.contains_iff_mem, List.mem_cons,
    List.not_mem_nil, or_false] at keeps ⊢
  tauto

/-- What `encodeURIComponent` keeps and `fetch` does not escape differs from
what `quote` keeps by four characters. -/
theorem keptInQuery_eq_iff (char : Char) :
    (NodeClient.keptByEncodeURIComponent char && decide (char ≠ '\'')) =
        PythonClient.keptByQuote char ↔
      char ∉ "!*()".toList := by
  have elsewhere : "!*()".toList = ['!', '*', '(', ')'] := rfl
  have node : "-_.!~*'()".toList =
      ['-', '_', '.', '!', '~', '*', '\'', '(', ')'] := rfl
  have python : "_.-~".toList = ['_', '.', '-', '~'] := rfl
  rw [NodeClient.keptByEncodeURIComponent, PythonClient.keptByQuote, node,
    python, elsewhere]
  constructor
  · intro same special
    simp only [List.mem_cons, List.not_mem_nil, or_false] at special
    rcases special with rfl | rfl | rfl | rfl <;>
      exact absurd same (by decide)
  · intro ordinary
    by_cases apostrophe : char = '\''
    · subst apostrophe
      decide
    · simp only [List.mem_cons, List.not_mem_nil, or_false, not_or] at ordinary
      rw [decide_eq_true apostrophe, Bool.and_true]
      congr 1
      rw [Bool.eq_iff_iff, List.contains_iff_mem, List.contains_iff_mem]
      simp only [List.mem_cons, List.not_mem_nil, or_false, ordinary,
        apostrophe, false_or]
      exact or_left_comm.trans (or_congr_right or_left_comm)

/-- The paths without an id are plain. -/
theorem plainPath_of_mem :
    ∀ path ∈ ["/.well-known/jwks.json", "/auth/login", "/auth/refresh",
        "/auth/signup", "/auth/logout", "/auth/verify/send", "/auth/verify",
        "/auth/forgot", "/auth/reset", "/auth/passkeys/register/options",
        "/auth/passkeys/register/verify", "/auth/passkeys",
        "/auth/passkeys/login/options", "/auth/passkeys/login/verify",
        "/tenant/users", "/tenant/roles", "/tenant/invites",
        "/auth/invites/accept", "/billing/entitlement", "/billing/prices",
        "/billing/checkout", "/billing/portal", "/email/send", "/brand",
        "/events"],
      plainPath path = true := by
  decide +kernel

section Paths

variable {fetch httpx : HttpLibrary} {options : ClientOptions} {root : String}

/-- The query of `getEntitlement` is escaped by two encoders, and by `fetch`. -/
theorem target_getEntitlement_iff
    (fetchReads : fetch.Reads (PythonClient.base options) root
      fun char => decide (char ≠ '\''))
    (httpxReads : httpx.Reads (PythonClient.base options) root fun _ => true)
    (tenantId : String)
    {left right : String}
    (isLeft : fetch.target ((Call.getEntitlement tenantId).url options
      NodeClient.encodeURIComponent) = some left)
    (isRight : httpx.target ((Call.getEntitlement tenantId).url options
      PythonClient.quote) = some right) :
    left = right ↔ ∀ char ∈ tenantId.toList, char ∉ "!*()".toList := by
  have leftIs := fetchReads.query "/billing/entitlement"
    NodeClient.keptByEncodeURIComponent tenantId left (plainPath_of_mem _ (by simp))
    queryChar_of_keptByEncodeURIComponent isLeft
  have rightIs := httpxReads.query "/billing/entitlement"
    PythonClient.keptByQuote tenantId right (plainPath_of_mem _ (by simp))
    queryChar_of_keptByQuote isRight
  have sameText : left = right ↔
      percentEncode (fun char => NodeClient.keptByEncodeURIComponent char &&
        decide (char ≠ '\'')) tenantId =
      percentEncode (fun char => PythonClient.keptByQuote char && true)
        tenantId := by
    simp [leftIs, rightIs]
  rw [sameText, percentEncode_eq_iff (by decide) (by decide)]
  refine forall₂_congr fun char _ => ?_
  rw [Bool.and_true]
  exact keptInQuery_eq_iff char

/-- What the condition on the path comes to: a call takes an id, asks for an
entitlement, or has a plain path. -/
theorem samePath_cases (fetch httpx : HttpLibrary) (options : ClientOptions)
    (call : Call) :
    (call.SamePath fetch httpx options ↔
      fetch.target (call.url options NodeClient.encodeURIComponent) =
        httpx.target (call.url options PythonClient.quote)) ∨
    (∃ tenantId, call = .getEntitlement tenantId) ∨
    (call.SamePath fetch httpx options ∧ ∃ path, plainPath path = true ∧
      ∀ encode, call.path encode = path) := by
  cases call with
  | deletePasskey _ _ | updateTenantMember _ _ _ | deactivateTenantMember _ _
  | restoreTenantMember _ _ | setTenantMemberRoles _ _ _
  | resendTenantInvite _ _ | revokeTenantInvite _ _ => exact .inl Iff.rfl
  | getEntitlement tenantId => exact .inr (.inl ⟨tenantId, rfl⟩)
  | _ =>
      exact .inr (.inr ⟨trivial, _, plainPath_of_mem _ (by simp),
        fun encode => rfl⟩)

/-- The libraries request the same for the URLs of a call exactly where its id
reads alike, or its query is escaped alike. -/
theorem target_eq_iff
    (fetchReads : fetch.Reads (PythonClient.base options) root
      fun char => decide (char ≠ '\''))
    (httpxReads : httpx.Reads (PythonClient.base options) root fun _ => true)
    (call : Call)
    (fetchTakes : (fetch.target
      (call.url options NodeClient.encodeURIComponent)).isSome = true)
    (httpxTakes : (httpx.target
      (call.url options PythonClient.quote)).isSome = true) :
    fetch.target (call.url options NodeClient.encodeURIComponent) =
        httpx.target (call.url options PythonClient.quote) ↔
      call.SamePath fetch httpx options := by
  rcases samePath_cases fetch httpx options call with
    sameTarget | ⟨tenantId, rfl⟩ | ⟨samePath, path, isPlain, isPath⟩
  · exact sameTarget.symm
  · obtain ⟨left, isLeft⟩ := Option.isSome_iff_exists.mp fetchTakes
    obtain ⟨right, isRight⟩ := Option.isSome_iff_exists.mp httpxTakes
    rw [isLeft, isRight, Option.some_inj]
    exact target_getEntitlement_iff fetchReads httpxReads tenantId isLeft
      isRight
  · simp only [Call.url, isPath] at fetchTakes httpxTakes ⊢
    exact iff_of_true (target_eq_of_plainPath fetchReads httpxReads isPlain
      fetchTakes httpxTakes) samePath

end Paths

/-- The clients issue the same request for a call, or both refuse it, exactly
where the condition holds.  The libraries may be any that leave plain paths and
escapes as they are after the URL of the platform. -/
theorem requests_agree_iff
    (fetch httpx : HttpLibrary)
    (options : ClientOptions)
    (root : String)
    (fetchReads : fetch.Reads (PythonClient.base options) root
      fun char => decide (char ≠ '\''))
    (httpxReads : httpx.Reads (PythonClient.base options) root fun _ => true)
    (call : Call) :
    (call.node options).bind fetch.issue =
        (call.python options).bind httpx.issue ↔
      call.agrees fetch httpx options := by
  unfold Call.agrees
  cases named : call.headers options with
  | none =>
      obtain ⟨noNode, noPython⟩ := refused_of_headers_eq_none options call named
      simp [noNode, noPython]
  | some headers =>
      obtain ⟨node, python, isNode, isPython, paired⟩ :=
        exists_paired options call headers named
      have sameHeaders := paired.nodeHeaders.trans paired.pythonHeaders.symm
      rw [isNode, isPython, Option.bind_some, Option.bind_some,
        issue_eq_iff paired.method sameHeaders, paired.nodeHeaders,
        paired.nodeUrl, paired.pythonUrl, paired.body]
      simp only [Option.some.injEq, forall_eq']
      refine or_congr_right (and_congr_right fun fetchAccepts =>
        and_congr_right fun httpxAccepts => and_congr_right fun _ =>
          and_congr_left fun _ => ?_)
      exact target_eq_iff fetchReads httpxReads call
        (Bool.and_eq_true_iff.mp fetchAccepts).1
        (Bool.and_eq_true_iff.mp httpxAccepts).1

/-- A client with credentials. -/
def configured : ClientOptions :=
  ⟨"https://platform.example.com", some "app", some "secret", by decide⟩

/-- A client without credentials. -/
def unconfigured : ClientOptions :=
  ⟨"https://platform.example.com", none, none, by decide⟩

/-- An event whose detail is null. -/
def nullEvent : PushEventParams :=
  ⟨"shift.closed", none, none, some .null⟩

/-- On this platform `fetch` reads a backslash in a path as a slash, drops tabs
and line breaks, and escapes an apostrophe in a query. -/
def demoFetch : HttpLibrary :=
  urlLibrary "https://platform.example.com" (fun _ => false)
    (fun char =>
      if char = '\t' ∨ char = '\n' ∨ char = '\r' then []
      else if char = '\\' then ['/']
      else [char])
    (fun char => decide (char ≠ '\''))

/-- On this platform `httpx` escapes a backslash and refuses control
characters. -/
def demoHttpx : HttpLibrary :=
  urlLibrary "https://platform.example.com" (fun char => char.toNat < 32)
    (fun char => if char = '\\' then "%5C".toList else [char])
    (fun _ => true)

theorem reads_demoFetch :
    demoFetch.Reads (PythonClient.base configured) ""
      fun char => decide (char ≠ '\'') := by
  have isBase : PythonClient.base configured =
      "https://platform.example.com" := by
    decide +kernel
  rw [isBase]
  apply reads_urlLibrary
  · intro char ordinary
    have notEscaped : char ≠ '\t' ∧ char ≠ '\n' ∧ char ≠ '\r' ∧
        char ≠ '\\' := by
      refine ⟨?_, ?_, ?_, ?_⟩ <;>
        · rintro rfl
          exact absurd ordinary (by decide)
    simp [notEscaped]
  · decide
  · decide
  · decide

theorem reads_demoHttpx :
    demoHttpx.Reads (PythonClient.base configured) "" fun _ => true := by
  have isBase : PythonClient.base configured =
      "https://platform.example.com" := by
    decide +kernel
  rw [isBase]
  apply reads_urlLibrary
  · intro char ordinary
    have notEscaped : char ≠ '\\' := by
      rintro rfl
      exact absurd ordinary (by decide)
    exact if_neg notEscaped
  · decide
  · rfl
  · exact fun _ _ => rfl

/-- A passkey with a plain id is deleted by the same request. -/
theorem requests_agree_iff_plainId :
    ((Call.deletePasskey "token" "pk_1").node configured).bind
        demoFetch.issue =
      ((Call.deletePasskey "token" "pk_1").python configured).bind
        demoHttpx.issue ↔
      (Call.deletePasskey "token" "pk_1").agrees demoFetch demoHttpx
        configured :=
  requests_agree_iff demoFetch demoHttpx configured "" reads_demoFetch
    reads_demoHttpx _

/-- A request that one library accepts is issued otherwise when the libraries
read its path or the bodies differ. -/
theorem issue_ne
    {fetch httpx : HttpLibrary}
    {node python : HttpRequest}
    (sameMethod : node.method = python.method)
    (sameHeaders : node.headers = python.headers)
    (accepts : fetch.accepts node.url node.headers = true)
    (differ : fetch.target node.url = httpx.target python.url →
      node.body = python.body → False) :
    fetch.issue node ≠ httpx.issue python := by
  rw [Ne, issue_eq_iff sameMethod sameHeaders]
  rintro (⟨refuses, -⟩ | ⟨-, -, -, sameTarget, sameBody⟩)
  · rw [accepts] at refuses
    contradiction
  · exact differ sameTarget sameBody

/-- A login without a workspace, a signup without the id of the client, an event
with a null detail, an entitlement of a tenant with an exclamation mark and a
passkey whose id has a backslash are not the same requests. -/
theorem requests_differ :
    ((Call.login ⟨none, "ann@example.com", "secret"⟩).node configured).bind
          demoFetch.issue ≠
        ((Call.login ⟨none, "ann@example.com", "secret"⟩).python
          configured).bind demoHttpx.issue ∧
      ((Call.signup ⟨"Acme", none, "ann@example.com", "secret", none, none,
            none⟩).node unconfigured).bind demoFetch.issue ≠
        ((Call.signup ⟨"Acme", none, "ann@example.com", "secret", none, none,
            none⟩).python unconfigured).bind demoHttpx.issue ∧
      ((Call.pushEvent nullEvent).node configured).bind demoFetch.issue ≠
        ((Call.pushEvent nullEvent).python configured).bind demoHttpx.issue ∧
      ((Call.getEntitlement "acme!").node configured).bind demoFetch.issue ≠
        ((Call.getEntitlement "acme!").python configured).bind
          demoHttpx.issue ∧
      ((Call.deletePasskey "token" "a\\b").node configured).bind
          demoFetch.issue ≠
        ((Call.deletePasskey "token" "a\\b").python configured).bind
          demoHttpx.issue := by
  refine ⟨?_, ?_, ?_, ?_, ?_⟩
  · refine issue_ne rfl rfl (by decide +kernel) fun _ sameBody => ?_
    exact absurd ((login_eq_iff _ _).mp sameBody).1 (by decide)
  · refine issue_ne rfl rfl (by decide +kernel) fun _ sameBody => ?_
    exact absurd ((signup_eq_iff _ _).mp sameBody) (by decide)
  · refine issue_ne rfl rfl (by decide +kernel) fun _ sameBody => ?_
    exact (pushEvent_eq_iff configured nullEvent _).mp sameBody rfl
  · refine issue_ne rfl rfl (by decide +kernel) fun sameTarget _ => ?_
    exact absurd sameTarget (by decide +kernel)
  · refine issue_ne rfl rfl (by decide +kernel) fun sameTarget _ => ?_
    exact absurd sameTarget (by decide +kernel)

end Sdk
end EvoPlatform
