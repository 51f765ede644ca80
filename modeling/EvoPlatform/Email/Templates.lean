import EvoPlatform.Foundation.Rewriting

/-!
# The editable copy of the platform's mail

The built-in templates, and when a saved row can be used.
-/

namespace EvoPlatform
namespace Email

open Ink

structure TemplateCopy (α : Type) where
  subject : List α
  heading : List α
  /-- One paragraph per line. -/
  intro : List α
  actionLabel : Option (List α)
  outro : List α

variable {α : Type} [Ink α]

/-- `isUsable`. -/
def isUsable (copy : TemplateCopy α) : Bool :=
  !(trim copy.subject).isEmpty && !(trim copy.heading).isEmpty &&
    !(trim copy.intro).isEmpty

/-- The copy as the code sees it. -/
def TemplateCopy.seen (copy : TemplateCopy α) : TemplateCopy UInt16 where
  subject := units copy.subject
  heading := units copy.heading
  intro := units copy.intro
  actionLabel := copy.actionLabel.map units
  outro := units copy.outro

/-! ## The built-in templates -/

def passwordReset : TemplateCopy α where
  subject := literal "Reset your \x7b\x7bproductName\x7d\x7d password"
  heading := literal "Reset your \x7b\x7bproductName\x7d\x7d password"
  intro :=
    literal "Someone asked to reset the password for " ++
      literal "<strong>\x7b\x7bemail\x7d\x7d</strong>. If that was you, " ++
      literal "set a new password now."
  actionLabel := some (literal "Reset my password")
  outro :=
    literal "The link is valid for \x7b\x7bexpiryMinutes\x7d\x7d minutes " ++
      literal "and can be used once.\n" ++
      literal "If it wasn't you, ignore this email — your " ++
      literal "password is unchanged."

def emailVerify : TemplateCopy α where
  subject := literal "Verify your email for \x7b\x7bproductName\x7d\x7d"
  heading := literal "Confirm your email address"
  intro :=
    literal "Confirm that <strong>\x7b\x7bemail\x7d\x7d</strong> is your " ++
      literal "address to activate your \x7b\x7bproductName\x7d\x7d account."
  actionLabel := some (literal "Verify my email")
  outro :=
    literal "The link is valid for \x7b\x7bexpiryHours\x7d\x7d hours.\n" ++
      literal "If you didn't create this account, " ++
      literal "ignore this email."

def memberInvite : TemplateCopy α where
  subject := literal
    "\x7b\x7binviter\x7d\x7d invited you to \x7b\x7bworkspace\x7d\x7d"
  heading := literal "You have been invited to \x7b\x7bworkspace\x7d\x7d"
  intro :=
    literal "\x7b\x7binviter\x7d\x7d invited you to join " ++
      literal "<strong>\x7b\x7bworkspace\x7d\x7d</strong> " ++
      literal "on \x7b\x7bproductName\x7d\x7d."
  actionLabel := some (literal "Create your account")
  outro :=
    literal "The link is valid for \x7b\x7bexpiryHours\x7d\x7d hours " ++
      literal "and can be used once.\n" ++
      literal "If you weren't expecting this, " ++
      literal "ignore this email."

def workspaceList : TemplateCopy α where
  subject := literal "Your \x7b\x7bproductName\x7d\x7d workspaces"
  heading := literal "Workspaces for this address"
  intro :=
    literal "This address can sign in to the following " ++
      literal "\x7b\x7bproductName\x7d\x7d workspaces:\n" ++
      literal "\x7b\x7bworkspaces\x7d\x7d"
  actionLabel := some (literal "Go to sign in")
  outro := literal "Use the workspace name when signing in."

/-- `TEMPLATE_BY_CODE.get`. -/
def templateByCode : String → Option (TemplateCopy α)
  | "password_reset" => some passwordReset
  | "email_verify" => some emailVerify
  | "member_invite" => some memberInvite
  | "workspace_list" => some workspaceList
  | _ => none

end Email
end EvoPlatform
