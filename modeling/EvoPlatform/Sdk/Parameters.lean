import EvoPlatform.Sdk.Wire

/-!
# The parameters of the SDK methods

The parameter objects of the Node SDK.  Each gives its members under the names
of its TypeScript type; where the Python method takes any keyword arguments, it
also gives the same values under their Python names.
-/

namespace EvoPlatform
namespace Sdk

/-- A required text. -/
def requiredText (text : String) : Option JsonValue :=
  some (.string text)

/-- A flag that may be missing. -/
def flagMember (flag : Option Bool) : Option JsonValue :=
  flag.map JsonValue.bool

/-- A number that may be missing. -/
def numberMember (number : Option Rat) : Option JsonValue :=
  number.map JsonValue.number

/-- A list of texts. -/
def textsValue (texts : List String) : JsonValue :=
  .array (texts.map JsonValue.string)

/-- `LoginParams` of the Node SDK. -/
structure LoginParams where
  tenantSlug : Option String
  email : String
  password : String

/-- The members that `login` spreads into its body. -/
def LoginParams.members (params : LoginParams) : Members :=
  [("tenantSlug", textMember params.tenantSlug),
    ("email", requiredText params.email),
    ("password", requiredText params.password)]

/-- `SignupParams` of the Node SDK. -/
structure SignupParams where
  company : String
  slug : Option String
  email : String
  password : String
  firstName : Option String
  lastName : Option String
  inviteToken : Option String

/-- The members of a signup under their names in TypeScript. -/
def SignupParams.members (params : SignupParams) : Members :=
  [("company", requiredText params.company),
    ("slug", textMember params.slug),
    ("email", requiredText params.email),
    ("password", requiredText params.password),
    ("firstName", textMember params.firstName),
    ("lastName", textMember params.lastName),
    ("inviteToken", textMember params.inviteToken)]

/-- The keyword arguments of `signup` in Python. -/
def SignupParams.kwargs (params : SignupParams) : Members :=
  [("company", requiredText params.company),
    ("slug", textMember params.slug),
    ("email", requiredText params.email),
    ("password", requiredText params.password),
    ("first_name", textMember params.firstName),
    ("last_name", textMember params.lastName),
    ("invite_token", textMember params.inviteToken)]

/-- `{ tenantSlug?: string; email: string }`. -/
structure AddressParams where
  tenantSlug : Option String
  email : String

/-- The members that name an account by its address. -/
def AddressParams.members (params : AddressParams) : Members :=
  [("tenantSlug", textMember params.tenantSlug),
    ("email", requiredText params.email)]

/-- `{ credential: unknown; challengeToken: string; nickname?: string }`. -/
structure RegisterVerifyParams where
  credential : JsonValue
  challengeToken : String
  nickname : Option String

/-- The members that finish the registration of a passkey. -/
def RegisterVerifyParams.members (params : RegisterVerifyParams) : Members :=
  [("credential", some params.credential),
    ("challengeToken", requiredText params.challengeToken),
    ("nickname", textMember params.nickname)]

/-- `{ credential: unknown; challengeToken: string }`. -/
structure LoginVerifyParams where
  credential : JsonValue
  challengeToken : String

/-- The members that finish a sign-in by passkey. -/
def LoginVerifyParams.members (params : LoginVerifyParams) : Members :=
  [("credential", some params.credential),
    ("challengeToken", requiredText params.challengeToken)]

/-- The parameters of `createTenantMember`. -/
structure CreateMemberParams where
  email : String
  password : String
  firstName : Option String
  lastName : Option String
  phone : Option String
  isTenantAdmin : Option Bool

/-- The members of a new account under their names in TypeScript. -/
def CreateMemberParams.members (params : CreateMemberParams) : Members :=
  [("email", requiredText params.email),
    ("password", requiredText params.password),
    ("firstName", textMember params.firstName),
    ("lastName", textMember params.lastName),
    ("phone", textMember params.phone),
    ("isTenantAdmin", flagMember params.isTenantAdmin)]

/-- The keyword arguments of `create_tenant_member`. -/
def CreateMemberParams.kwargs (params : CreateMemberParams) : Members :=
  [("email", requiredText params.email),
    ("password", requiredText params.password),
    ("first_name", textMember params.firstName),
    ("last_name", textMember params.lastName),
    ("phone", textMember params.phone),
    ("is_tenant_admin", flagMember params.isTenantAdmin)]

/-- The parameters of `updateTenantMember`; each of them may be left out. -/
structure UpdateMemberParams where
  firstName : Option String
  lastName : Option String
  phone : Option String
  isTenantAdmin : Option Bool

def UpdateMemberParams.members (params : UpdateMemberParams) : Members :=
  [("firstName", textMember params.firstName),
    ("lastName", textMember params.lastName),
    ("phone", textMember params.phone),
    ("isTenantAdmin", flagMember params.isTenantAdmin)]

/-- The keyword arguments of `update_tenant_member`. -/
def UpdateMemberParams.kwargs (params : UpdateMemberParams) : Members :=
  [("first_name", textMember params.firstName),
    ("last_name", textMember params.lastName),
    ("phone", textMember params.phone),
    ("is_tenant_admin", flagMember params.isTenantAdmin)]

/-- The parameters of `createTenantInvite`. -/
structure CreateInviteParams where
  email : String
  roleIds : Option (List String)
  isTenantAdmin : Option Bool

/-- The members of an invite under their names in TypeScript. -/
def CreateInviteParams.members (params : CreateInviteParams) : Members :=
  [("email", requiredText params.email),
    ("roleIds", params.roleIds.map textsValue),
    ("isTenantAdmin", flagMember params.isTenantAdmin)]

/-- The keyword arguments of `create_tenant_invite`. -/
def CreateInviteParams.kwargs (params : CreateInviteParams) : Members :=
  [("email", requiredText params.email),
    ("role_ids", params.roleIds.map textsValue),
    ("is_tenant_admin", flagMember params.isTenantAdmin)]

/-- The parameters of `acceptInvite`. -/
structure AcceptInviteParams where
  token : String
  password : String
  firstName : Option String
  lastName : Option String
  phone : Option String

/-- The members of an acceptance under their names in TypeScript. -/
def AcceptInviteParams.members (params : AcceptInviteParams) : Members :=
  [("token", requiredText params.token),
    ("password", requiredText params.password),
    ("firstName", textMember params.firstName),
    ("lastName", textMember params.lastName),
    ("phone", textMember params.phone)]

/-- The keyword arguments of `accept_invite`. -/
def AcceptInviteParams.kwargs (params : AcceptInviteParams) : Members :=
  [("token", requiredText params.token),
    ("password", requiredText params.password),
    ("first_name", textMember params.firstName),
    ("last_name", textMember params.lastName),
    ("phone", textMember params.phone)]

/-- The parameters of `createCheckout`. -/
structure CheckoutParams where
  tenantId : String
  successUrl : String
  cancelUrl : String
  tier : Option String
  interval : Option String
  intervalCount : Option Rat
  priceId : Option String
  quantity : Option Rat

/-- The members of a checkout under their names in TypeScript. -/
def CheckoutParams.members (params : CheckoutParams) : Members :=
  [("tenantId", requiredText params.tenantId),
    ("successUrl", requiredText params.successUrl),
    ("cancelUrl", requiredText params.cancelUrl),
    ("tier", textMember params.tier),
    ("interval", textMember params.interval),
    ("intervalCount", numberMember params.intervalCount),
    ("priceId", textMember params.priceId),
    ("quantity", numberMember params.quantity)]

/-- The parameters of `createBillingPortal`. -/
structure PortalParams where
  tenantId : String
  returnUrl : String

/-- The members that open the billing portal. -/
def PortalParams.members (params : PortalParams) : Members :=
  [("tenantId", requiredText params.tenantId),
    ("returnUrl", requiredText params.returnUrl)]

/-- The parameters of `sendEmail`; the source names the address `to`. -/
structure SendEmailParams where
  tenantId : Option String
  toAddress : String
  subject : String
  text : Option String
  html : Option String

/-- The members of a mail under their names in TypeScript. -/
def SendEmailParams.members (params : SendEmailParams) : Members :=
  [("tenantId", textMember params.tenantId),
    ("to", requiredText params.toAddress),
    ("subject", requiredText params.subject),
    ("text", textMember params.text),
    ("html", textMember params.html)]

/-- The keyword arguments of `send_email`. -/
def SendEmailParams.kwargs (params : SendEmailParams) : Members :=
  [("tenant_id", textMember params.tenantId),
    ("to", requiredText params.toAddress),
    ("subject", requiredText params.subject),
    ("text", textMember params.text),
    ("html", textMember params.html)]

/-- The parameters of `pushEvent`. -/
structure PushEventParams where
  action : String
  tenantId : Option String
  userId : Option String
  /-- `unknown`, so also null. -/
  detail : Option JsonValue

/-- The members of an event under their names in TypeScript. -/
def PushEventParams.members (params : PushEventParams) : Members :=
  [("action", requiredText params.action),
    ("tenantId", textMember params.tenantId),
    ("userId", textMember params.userId),
    ("detail", params.detail)]

/-- The keyword arguments of `push_event`; a null detail is `None`. -/
def PushEventParams.kwargs (params : PushEventParams) : Members :=
  [("action", requiredText params.action),
    ("tenant_id", textMember params.tenantId),
    ("user_id", textMember params.userId),
    ("detail", params.detail.bind pythonValue)]

end Sdk
end EvoPlatform
