import EvoPlatform.Foundation.FixedWindow
import EvoPlatform.Foundation.Transition
import Mathlib.Data.Nat.SuccPred

/-!
# The budget for recovery mail

Before the platform sends a reset, a verification or a workspace list, it asks
an in-memory limiter whether the message may go out.  A bucket for the address
bounds what one mailbox receives, and a bucket for the requesting client its
share of that.  The limiter is asked only for an address that has an account.
-/

namespace EvoPlatform
namespace Auth

open FixedWindow

/-- The flows that send mail, by the name that keys their buckets. -/
inductive MailKind
  | reset
  | verify
  | workspaces
  deriving DecidableEq

def MailKind.text : MailKind → String
  | .reset => "reset"
  | .verify => "verify"
  | .workspaces => "workspaces"

/-- Most messages that one mailbox receives per window. -/
def perAddress : Nat := 20

/-- One requesting client's share of that. -/
def perClient : Nat := 5

/-- The length of a window, in milliseconds. -/
def windowMs : Nat := 15 * 60000

/-- The buckets of the process. -/
abbrev Buckets := String → Option FixedWindow

/-- `allowSend`, at the time `now`. -/
def allowSend (key : String) (max now : Nat) (buckets : Buckets) :
    Buckets × Bool :=
  match buckets key with
  | none =>
      (Function.update buckets key
        (some { count := 1, resetAt := now + windowMs }), true)
  | some bucket =>
      if bucket.resetAt < now then
        (Function.update buckets key
          (some { count := 1, resetAt := now + windowMs }), true)
      else
        let count := bucket.count + 1
        (Function.update buckets key (some { bucket with count := count }),
          decide (count ≤ max))

/-- The client of a request, `ip || 'unknown'`. -/
def clientOf : Option String → String
  | none => "unknown"
  | some ip => if ip = "" then "unknown" else ip

/-- The key of an address's bucket. -/
def addressKey (kind : MailKind) (email : String) : String :=
  kind.text ++ ":" ++ email

/-- The key of a client's bucket. -/
def clientKey (kind : MailKind) (client email : String) : String :=
  kind.text ++ ":" ++ client ++ ":" ++ email

/-- `sendAllowed`. -/
def sendAllowed (kind : MailKind) (email : String) (ip : Option String)
    (now : Nat) (buckets : Buckets) : Buckets × Bool :=
  let client := clientOf ip
  let address := allowSend (addressKey kind email) perAddress now buckets
  if address.2 then
    allowSend (clientKey kind client email) perClient now address.1
  else
    address

/-! ## Keys -/

/-- The kind is what a key begins with. -/
theorem kind_of_key_eq
    {kind other : MailKind}
    {rest otherRest : String}
    (same : kind.text ++ (":" ++ rest) = other.text ++ (":" ++ otherRest)) :
    kind = other ∧ rest = otherRest := by
  have letters := congrArg String.toList same
  simp only [String.toList_append] at letters
  cases kind <;> cases other <;>
    simp_all [MailKind.text, String.ext_iff]

theorem addressKey_ne_clientKey (kind other : MailKind)
    (client email : String) :
    addressKey kind email ≠ clientKey other client email := by
  intro same
  simp only [addressKey, clientKey, String.append_assoc] at same
  have longer := congrArg String.length (kind_of_key_eq same).2
  simp only [String.length_append] at longer
  have colon : ":".length = 1 := rfl
  omega

theorem addressKey_inj {kind other : MailKind} {email : String} :
    addressKey kind email = addressKey other email ↔ kind = other := by
  constructor
  · intro same
    simp only [addressKey, String.append_assoc] at same
    exact (kind_of_key_eq same).1
  · rintro rfl
    rfl

theorem clientKey_inj {kind other : MailKind} {client another email : String} :
    clientKey kind client email = clientKey other another email ↔
      kind = other ∧ client = another := by
  constructor
  · intro same
    simp only [clientKey, String.append_assoc] at same
    obtain ⟨sameKind, sameRest⟩ := kind_of_key_eq same
    exact ⟨sameKind, by simpa using sameRest⟩
  · rintro ⟨rfl, rfl⟩
    rfl

/-! ## Requests -/

/-- A request for mail to the address, at the time when it is handled. -/
structure SendRequest where
  kind : MailKind
  ip : Option String
  now : Nat
  deriving DecidableEq

/-- The limiter of a process, with the requests that it has allowed. -/
structure Limiter where
  buckets : Buckets
  allowed : List SendRequest

namespace Limiter

variable (limiter : Limiter) (email : String) (request : SendRequest)

/-- A process that has just started. -/
def initial : Limiter where
  buckets := fun _ => none
  allowed := []

/-- The limiter lets a request pass. -/
def admits : Bool :=
  (sendAllowed request.kind email request.ip request.now limiter.buckets).2

/-- The limiter is asked about a request. -/
def ask : Limiter where
  buckets := (sendAllowed request.kind email request.ip request.now
    limiter.buckets).1
  allowed :=
    if limiter.admits email request then limiter.allowed ++ [request]
    else limiter.allowed

/-- The window of the requests of a kind that were allowed. -/
def addressWindow (kind : MailKind) : Option FixedWindow :=
  ofTimes windowMs
    ((limiter.allowed.filter fun request => request.kind = kind).map (·.now))

/-- The window of those among them that were a client's. -/
def clientWindow (kind : MailKind) (client : String) : Option FixedWindow :=
  ofTimes windowMs
    ((limiter.allowed.filter fun request =>
      request.kind = kind ∧ clientOf request.ip = client).map (·.now))

/-- What the address's bucket has left at a time. -/
def left (kind : MailKind) (now : Nat) : Nat :=
  perAddress - spent now (limiter.buckets (addressKey kind email))

/-- A request within the budgets passes, and one that is refused takes nothing
from the address. -/
def Fair (limiter : Limiter) (request : SendRequest) : Prop :=
  (spent request.now (limiter.addressWindow request.kind) < perAddress →
    spent request.now (limiter.clientWindow request.kind
      (clientOf request.ip)) < perClient →
    limiter.admits email request = true) ∧
  (limiter.admits email request = false →
    ∀ kind later,
      (limiter.ask email request).left email kind later =
        limiter.left email kind later)

/-- The client has something left of its share, unless the address has
nothing. -/
def InShare (limiter : Limiter) (request : SendRequest) : Prop :=
  perAddress ≤ spent request.now (limiter.addressWindow request.kind) ∨
    spent request.now (limiter.clientWindow request.kind
      (clientOf request.ip)) < perClient

end Limiter

/-! ## What a request charges -/

/-- `allowSend` charges the bucket, and passes if there was room. -/
theorem allowSend_eq
    (key : String)
    {max : Nat}
    (positive : 0 < max)
    (now : Nat)
    (buckets : Buckets) :
    allowSend key max now buckets =
      (Function.update buckets key
          (some (charge windowMs now (buckets key))),
        decide (spent now (buckets key) < max)) := by
  cases found : buckets key with
  | none => simp [allowSend, found, charge, spent, positive]
  | some bucket =>
      by_cases closed : bucket.resetAt < now
      · simp [allowSend, found, charge, spent, positive, closed]
      · simp [allowSend, found, charge, spent, closed]

namespace Limiter

variable {limiter : Limiter} {email : String} {request : SendRequest}

/-- The address's bucket has room. -/
def AddressRoom (limiter : Limiter) (email : String) (request : SendRequest) :
    Prop :=
  spent request.now (limiter.buckets (addressKey request.kind email)) <
    perAddress

instance decidableAddressRoom : Decidable (limiter.AddressRoom email request) :=
  inferInstanceAs (Decidable (_ < _))

/-- The client's bucket has room. -/
def ClientRoom (limiter : Limiter) (email : String) (request : SendRequest) :
    Prop :=
  spent request.now (limiter.buckets
    (clientKey request.kind (clientOf request.ip) email)) < perClient

instance decidableClientRoom : Decidable (limiter.ClientRoom email request) :=
  inferInstanceAs (Decidable (_ < _))

/-- The address's bucket is charged, and if it had room the client's. -/
theorem sendAllowed_eq :
    sendAllowed request.kind email request.ip request.now limiter.buckets =
      let address := addressKey request.kind email
      let client := clientKey request.kind (clientOf request.ip) email
      let charged (key : String) :=
        some (charge windowMs request.now (limiter.buckets key))
      let buckets := Function.update limiter.buckets address (charged address)
      if limiter.AddressRoom email request then
        (Function.update buckets client (charged client),
          decide (limiter.ClientRoom email request))
      else (buckets, false) := by
  have untouched := (addressKey_ne_clientKey request.kind request.kind
    (clientOf request.ip) email).symm
  simp only [sendAllowed, allowSend_eq _ (by decide : 0 < perAddress),
    allowSend_eq _ (by decide : 0 < perClient), Function.update_of_ne untouched,
    decide_eq_true_eq]
  by_cases room : limiter.AddressRoom email request
  · rw [if_pos room]
    exact if_pos room
  · rw [if_neg room]
    exact (if_neg room).trans (Prod.ext rfl (decide_eq_false room))

/-- A request passes if both buckets have room. -/
theorem admits_iff :
    limiter.admits email request = true ↔
      limiter.AddressRoom email request ∧ limiter.ClientRoom email request := by
  by_cases room : limiter.AddressRoom email request
  · simp [admits, sendAllowed_eq, room]
  · simp [admits, sendAllowed_eq, room]

/-- Every request charges the address's bucket of its kind, and no other
address's bucket. -/
theorem addressBucket_ask (kind : MailKind) :
    (limiter.ask email request).buckets (addressKey kind email) =
      if kind = request.kind then
        some (charge windowMs request.now
          (limiter.buckets (addressKey kind email)))
      else limiter.buckets (addressKey kind email) := by
  have noClient := addressKey_ne_clientKey kind request.kind
    (clientOf request.ip) email
  by_cases sameKind : kind = request.kind
  · subst sameKind
    by_cases room : limiter.AddressRoom email request
    · simp [ask, sendAllowed_eq, room, Function.update_of_ne noClient]
    · simp [ask, sendAllowed_eq, room]
  · have otherKey : addressKey kind email ≠ addressKey request.kind email :=
      mt addressKey_inj.mp sameKind
    by_cases room : limiter.AddressRoom email request
    · simp [ask, sendAllowed_eq, room, sameKind,
        Function.update_of_ne noClient, Function.update_of_ne otherKey]
    · simp [ask, sendAllowed_eq, room, sameKind,
        Function.update_of_ne otherKey]

/-- A request that the address has room for charges the client's bucket. -/
theorem clientBucket_ask (kind : MailKind) (client : String) :
    (limiter.ask email request).buckets (clientKey kind client email) =
      if limiter.AddressRoom email request ∧ kind = request.kind ∧
          client = clientOf request.ip then
        some (charge windowMs request.now
          (limiter.buckets (clientKey kind client email)))
      else limiter.buckets (clientKey kind client email) := by
  have noAddress := (addressKey_ne_clientKey request.kind kind client
    email).symm
  by_cases room : limiter.AddressRoom email request
  · by_cases own : kind = request.kind ∧ client = clientOf request.ip
    · obtain ⟨rfl, rfl⟩ := own
      simp [ask, sendAllowed_eq, room]
    · have otherKey : clientKey kind client email ≠
          clientKey request.kind (clientOf request.ip) email :=
        mt clientKey_inj.mp own
      simp [ask, sendAllowed_eq, room, own, Function.update_of_ne otherKey,
        Function.update_of_ne noAddress]
  · simp [ask, sendAllowed_eq, room, Function.update_of_ne noAddress]

/-- A request that passes joins the windows that it is charged to. -/
theorem addressWindow_ask (kind : MailKind) :
    (limiter.ask email request).addressWindow kind =
      if limiter.admits email request ∧ kind = request.kind then
        some (charge windowMs request.now (limiter.addressWindow kind))
      else limiter.addressWindow kind := by
  by_cases passes : limiter.admits email request
  · by_cases own : kind = request.kind
    · simp [ask, addressWindow, passes, own, List.filter_append]
    · simp [ask, addressWindow, passes, own, List.filter_append,
        Ne.symm own]
  · simp [ask, addressWindow, passes]

theorem clientWindow_ask (kind : MailKind) (client : String) :
    (limiter.ask email request).clientWindow kind client =
      if limiter.admits email request ∧ kind = request.kind ∧
          client = clientOf request.ip then
        some (charge windowMs request.now (limiter.clientWindow kind client))
      else limiter.clientWindow kind client := by
  by_cases passes : limiter.admits email request
  · by_cases own : request.kind = kind ∧ clientOf request.ip = client
    · obtain ⟨rfl, rfl⟩ := own
      simp [ask, clientWindow, passes, List.filter_append]
    · have notOwn : ¬ (kind = request.kind ∧ client = clientOf request.ip) :=
        fun same => own ⟨same.1.symm, same.2.symm⟩
      simp [ask, clientWindow, passes, own, notOwn, List.filter_append]
  · simp [ask, clientWindow, passes]

/-! ## Windows kept alike -/

/-- The buckets have charged what was allowed, up to their bounds. -/
structure Charged (email : String) (limiter : Limiter) : Prop where
  address : ∀ kind, Tracks perAddress (limiter.addressWindow kind)
    (limiter.buckets (addressKey kind email))
  client : ∀ kind client, Tracks perClient (limiter.clientWindow kind client)
    (limiter.buckets (clientKey kind client email))

theorem charged_initial : Charged email initial where
  address _ := .unopened
  client _ _ := .unopened

section Charged

variable (charged : Charged email limiter)

include charged

theorem addressRoom_iff :
    limiter.AddressRoom email request ↔
      spent request.now (limiter.addressWindow request.kind) < perAddress :=
  ((charged.address request.kind).spent_lt_iff request.now).symm

theorem clientRoom_iff :
    limiter.ClientRoom email request ↔
      spent request.now (limiter.clientWindow request.kind
        (clientOf request.ip)) < perClient :=
  ((charged.client request.kind _).spent_lt_iff request.now).symm

theorem inShare_iff :
    limiter.InShare request ↔
      (limiter.AddressRoom email request →
        limiter.ClientRoom email request) := by
  rw [addressRoom_iff charged, clientRoom_iff charged, InShare]
  omega

/-- A request in the client's share charges the address with what passes. -/
theorem charged_ask (inShare : limiter.InShare request) :
    Charged email (limiter.ask email request) := by
  have both := (inShare_iff charged).mp inShare
  constructor
  · intro kind
    rw [addressWindow_ask, addressBucket_ask]
    by_cases own : kind = request.kind
    · subst own
      by_cases room : limiter.AddressRoom email request
      · rw [if_pos ⟨admits_iff.mpr ⟨room, both room⟩, rfl⟩, if_pos rfl]
        exact (charged.address _).charge_both windowMs request.now room
      · rw [if_neg fun passes => room (admits_iff.mp passes.1).1, if_pos rfl]
        exact (charged.address _).charge_refused windowMs request.now
          (by decide) (Nat.le_of_not_lt room)
    · rw [if_neg fun passes => own passes.2, if_neg own]
      exact charged.address kind
  · intro kind client
    rw [clientWindow_ask, clientBucket_ask]
    by_cases own : kind = request.kind ∧ client = clientOf request.ip
    · by_cases room : limiter.AddressRoom email request
      · rw [if_pos ⟨admits_iff.mpr ⟨room, both room⟩, own⟩,
          if_pos ⟨room, own⟩]
        obtain ⟨rfl, rfl⟩ := own
        exact (charged.client _ _).charge_both windowMs request.now (both room)
      · rw [if_neg fun passes => room (admits_iff.mp passes.1).1,
          if_neg fun spends => room spends.1]
        exact charged.client kind client
    · rw [if_neg fun passes => own passes.2, if_neg fun spends => own spends.2]
      exact charged.client kind client

/-- A refusal takes nothing from the address exactly when the address had
nothing. -/
theorem fair_iff_inShare :
    limiter.Fair email request ↔ limiter.InShare request := by
  rw [inShare_iff charged, Fair, ← addressRoom_iff charged,
    ← clientRoom_iff charged]
  constructor
  · rintro ⟨-, takesNothing⟩ room
    by_contra noShare
    have refused : limiter.admits email request = false :=
      Bool.eq_false_iff.mpr fun passes => noShare (admits_iff.mp passes).2
    have same := takesNothing refused request.kind request.now
    simp only [left, addressBucket_ask, if_true, spent_charge] at same
    simp only [AddressRoom] at room
    omega
  · intro both
    refine ⟨fun room share => admits_iff.mpr ⟨room, share⟩, ?_⟩
    intro refused kind later
    have noRoom : ¬ limiter.AddressRoom email request := fun room =>
      Bool.eq_false_iff.mp refused (admits_iff.mpr ⟨room, both room⟩)
    by_cases own : kind = request.kind
    · subst own
      simp only [left, addressBucket_ask, if_true]
      exact sub_spent_charge_of_full windowMs request.now (by decide)
        (Nat.le_of_not_lt noRoom) later
    · simp only [left, addressBucket_ask, if_neg own]

end Charged

end Limiter

/-! ## All requests for an address -/

/-- However clients ask for mail to an address, each of their requests within
the budgets passes and none that is refused takes anything from the address, if
and only if no client asks for more than its share while the address has
something left. -/
theorem recoveryMail_fair_iff (email : String) (requests : List SendRequest) :
    EachStep (fun limiter request => limiter.ask email request)
        (fun limiter request => limiter.Fair email request)
        Limiter.initial requests ↔
      EachStep (fun limiter request => limiter.ask email request)
        Limiter.InShare Limiter.initial requests := by
  have same (limiter : Limiter) (request : SendRequest)
      (charged : Limiter.Charged email limiter) :
      limiter.Fair email request ↔ limiter.InShare request :=
    Limiter.fair_iff_inShare charged
  have kept (limiter : Limiter) (request : SendRequest)
      (charged : Limiter.Charged email limiter)
      (inShare : limiter.InShare request) :
      Limiter.Charged email (limiter.ask email request) :=
    Limiter.charged_ask charged inShare
  exact EachStep.iff_of_invariant same kept Limiter.charged_initial

/-- A client that asks twenty times, of which five pass, leaves nothing to
another that asks for the first time. -/
theorem recoveryMail_spentByRefused :
    let email := "owner@acme.example"
    let greedy : SendRequest :=
      { kind := .reset, ip := some "10.0.0.7", now := 0 }
    let owner : SendRequest :=
      { kind := .reset, ip := some "10.0.0.8", now := 1 }
    let limiter := (List.replicate 20 greedy).foldl
      (fun limiter request => limiter.ask email request) Limiter.initial
    spent owner.now (limiter.addressWindow .reset) = 5 ∧
      spent owner.now (limiter.clientWindow .reset "10.0.0.8") = 0 ∧
      limiter.admits email owner = false ∧
      ¬ EachStep (fun limiter request => limiter.ask email request)
        (fun limiter request => limiter.Fair email request)
        Limiter.initial (List.replicate 20 greedy ++ [owner]) := by
  intro email greedy owner limiter
  have passed : spent owner.now (limiter.addressWindow .reset) = 5 := by
    decide +kernel
  have own :
      spent owner.now (limiter.clientWindow .reset "10.0.0.8") = 0 := by
    decide +kernel
  have refused : limiter.admits email owner = false := by
    decide +kernel
  refine ⟨passed, own, refused, fun each => ?_⟩
  have fair := each (List.replicate 20 greedy) owner List.prefix_rfl
  have passes : limiter.admits email owner = true :=
    fair.1 (passed.trans_lt (by decide)) (own.trans_lt (by decide))
  exact Bool.false_ne_true (refused.symm.trans passes)

end Auth
end EvoPlatform
