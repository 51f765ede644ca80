import EvoPlatform.Auth.Ceremonies
import EvoPlatform.Foundation.Histories

/-!
# Where the passkeys come from

Nobody signs in with a passkey but the account that has registered it, in a
session of its own, on a page of the platform, and not after its removal.  Each
entry of the journal is backed by those before it, and each session by an entry.
-/

namespace EvoPlatform
namespace Auth

variable {τ : Type}

/-! ## What backs an entry -/

/-- The rows are of one registration. -/
def SameCredential (left right : PasskeyCredential) : Prop :=
  left.id = right.id ∧ left.userId = right.userId ∧
    left.credentialId = right.credentialId ∧ left.publicKey = right.publicKey

/-- The challenge of a ticket was handed out for its account and its page, and
its time is not up. -/
def Drawn (env : CeremonyEnv τ) (kind : CeremonyKind)
    (journal : List CeremonyEntry) (ticket : Ticket) (second : Nat) : Prop :=
  ∃ iv issued, CeremonyEntry.drawn kind ticket.uid ticket.challenge
      ⟨ticket.rpId, ticket.origin⟩ iv issued ∈ journal ∧
    second < issued + env.challengeTtlSec

/-- A row was registered, and not removed since. -/
def Enrolled (journal : List CeremonyEntry) (row : PasskeyCredential) : Prop :=
  ∃ before index first after,
    journal = before ++ .registered index first :: after ∧
    SameCredential first row ∧ .removed row.id ∉ after

/-- What backs an entry of the journal. -/
def backs (env : CeremonyEnv τ) (before : List CeremonyEntry) :
    CeremonyEntry → Prop
  | .drawn _ _ _ rp iv _ =>
      (∃ origin, env.rpFromRequest origin = some rp) ∧ iv.length = 12
  | .enrolled _ ticket credential info second =>
      Drawn env .registration before ticket second ∧
        env.verifyRegistrationResponse credential ticket = some info
  | .registered index row =>
      (∃ ticket credential info second,
        .enrolled index ticket credential info second ∈ before ∧
        ticket.uid = row.userId ∧ info.id = row.credentialId ∧
        info.publicKey = row.publicKey) ∧
      ∀ other earlier, .registered other earlier ∈ before → earlier.id ≠ row.id
  | .removed _ => True
  | .verified _ ticket credential row second =>
      Drawn env .login before ticket second ∧ ticket.uid = row.userId ∧
        credential.id = row.credentialId ∧
        (env.verifyAuthenticationResponse credential ticket row).isSome =
          true ∧
        Enrolled before row
  | .used index row =>
      (∃ ticket credential second,
        .verified index ticket credential row second ∈ before) ∧
      Enrolled before row

theorem SameCredential.refl (row : PasskeyCredential) :
    SameCredential row row :=
  ⟨rfl, rfl, rfl, rfl⟩

theorem Enrolled.append
    {journal more : List CeremonyEntry}
    {row : PasskeyCredential}
    (stands : Enrolled journal row)
    (unremoved : .removed row.id ∉ more) :
    Enrolled (journal ++ more) row := by
  obtain ⟨before, index, first, after, rfl, same, kept⟩ := stands
  refine ⟨before, index, first, after ++ more, by simp, same, ?_⟩
  intro removed
  rcases List.mem_append.mp removed with earlier | later
  · exact kept earlier
  · exact unremoved later

theorem Enrolled.registered
    {journal : List CeremonyEntry}
    {row : PasskeyCredential}
    (stands : Enrolled journal row) :
    ∃ index first, .registered index first ∈ journal ∧
      SameCredential first row := by
  obtain ⟨before, index, first, after, rfl, same, _⟩ := stands
  exact ⟨index, first, by simp, same⟩

/-! ## A ticket is what was handed out -/

section Tickets

variable {env : CeremonyEnv τ} {journal : List CeremonyEntry}

/-- What is read of a challenge token. -/
theorem of_readChallengeToken
    {keys : Keys τ}
    {decryptSecret : String → Option String}
    {purpose uid challenge expected : String}
    {rp : RpContext}
    {ttlSec issuedAt now : Nat}
    {ticket : Ticket}
    (read : readChallengeToken keys decryptSecret
      (keys.signClaims (challengeClaims purpose uid challenge rp) ttlSec
        issuedAt) expected now = .ok ticket) :
    decryptSecret uid = some ticket.uid ∧ ticket.challenge = challenge ∧
      ticket.rpId = rp.rpId ∧ ticket.origin = rp.origin ∧
      now < issuedAt + ttlSec := by
  have verified : keys.verifyClaims
      (keys.signClaims (challengeClaims purpose uid challenge rp) ttlSec
        issuedAt) now =
        if now < issuedAt + ttlSec then
          some (challengeClaims purpose uid challenge rp)
        else none := by
    by_cases early : now < issuedAt + ttlSec <;>
      simp [Keys.verifyClaims, JwtLibrary.verifyFor, Keys.signClaims,
        keys.verify_sign, Option.filter, early]
  rw [readChallengeToken, verified] at read
  by_cases early : now < issuedAt + ttlSec
  · rw [if_pos early] at read
    dsimp only at read
    split at read
    · contradiction
    · split at read
      · rename_i sealedUid shownChallenge shownRp shownOrigin isUid isChallenge
          isRp isOrigin
        have fields : ∀ (name : String) {text shown : String},
            (challengeClaims purpose uid challenge rp).get? name =
              some (.string text) →
            (challengeClaims purpose uid challenge rp).givenString? name =
              some shown → shown = text := by
          intro name text shown field isShown
          rw [Claims.givenString?, field] at isShown
          exact (Option.some.inj (Option.filter_eq_some_iff.mp isShown).1).symm
        split at read
        · contradiction
        · rename_i userId opened
          obtain rfl := Except.ok.inj read
          obtain rfl := fields "uid" rfl isUid
          exact ⟨opened, fields "challenge" rfl isChallenge,
            fields "rp_id" rfl isRp,
            fields "origin" rfl isOrigin, early⟩
      · contradiction
  · rw [if_neg early] at read
    contradiction

/-- A ticket carries a challenge that was handed out. -/
theorem drawn_of_genuine
    (backed : Backed (backs env) journal)
    {token : τ}
    {second : Nat}
    (genuine : GenuineTicket env journal token second)
    {kind : CeremonyKind}
    {ticket : Ticket}
    (read : readChallengeToken env.keys (decryptSecret env.secrets) token
      kind.purpose second = .ok ticket) :
    Drawn env kind journal ticket second := by
  have verified : (env.keys.verifyClaims token second).isSome = true := by
    rw [readChallengeToken] at read
    split at read
    · contradiction
    · rename_i claims isVerified
      rw [isVerified]
      rfl
  obtain ⟨mint, ttlSec, issuedAt, rfl, handedOut⟩ := genuine verified
  have purpose := readChallengeToken_succeeds env.keys mint ttlSec issuedAt
    second (decryptSecret env.secrets) kind.purpose ⟨ticket, read⟩
  rcases handedOut kind purpose with
    ⟨challenge, rp, rfl, unsealed⟩ |
      ⟨userId, challenge, rp, iv, present, rfl, rfl⟩
  · obtain ⟨opened, _⟩ := of_readChallengeToken read
    rw [unsealed] at opened
    contradiction
  · obtain ⟨_, _, _, drawnIv⟩ := backed.exists_of_mem present
    have claims : (env.mint kind userId challenge rp iv).claims =
        challengeClaims kind.purpose (encryptSecret env.secrets iv userId)
          challenge rp := by
      cases kind <;> rfl
    rw [claims] at read
    obtain ⟨opened, rfl, sameRp, sameOrigin, early⟩ :=
      of_readChallengeToken read
    rw [decryptSecret_encryptSecret env.secrets drawnIv] at opened
    obtain rfl := Option.some.inj opened
    refine ⟨iv, issuedAt, ?_, early⟩
    rw [sameRp, sameOrigin]
    exact present

end Tickets

/-! ## Whom a sign-in is for -/

/-- Where a sign-in stands that can end in a session of this account only. -/
inductive Entering (subject : String) : Phase → Prop
  | findApp (grant : Grant) (tenant : Tenant) (clientId : String)
      (ip : Option String) : grant.user.id = subject →
        grant.origin = .login ip →
        Entering subject (.findApp grant tenant clientId)
  | findEnablement (grant : Grant) (tenant : Tenant) (app : App)
      (ip : Option String) : grant.user.id = subject →
        grant.origin = .login ip →
        Entering subject (.findEnablement grant tenant app)
  | createToken (grant : Grant) (ip : Option String) :
      grant.user.id = subject → grant.origin = .login ip →
        Entering subject (.createToken grant)
  | recordLogin (grant : Grant) (ip : Option String) (session : Session) :
      session.accessToken.sub = subject →
        Entering subject (.recordLogin grant ip session)
  | session (session : Session) : session.accessToken.sub = subject →
      Entering subject (.done (.ok (.session session)))
  | refused (error : AuthError) : Entering subject (.throws error)

section Entering

variable {subject : String} {now : Nat}

theorem entering_admitted
    {grant : Grant}
    {ip : Option String}
    (isSubject : grant.user.id = subject)
    (isLogin : grant.origin = .login ip) :
    Entering subject grant.admitted := by
  rw [Grant.admitted, isLogin]
  exact .createToken grant ip isSubject isLogin

theorem entering_completeLogin
    {user : User}
    (isSubject : user.id = subject)
    (tenant : Option Tenant)
    (clientId ip : Option String) :
    Entering subject (completeLogin now user tenant clientId ip) := by
  rw [completeLogin]
  split
  · exact .refused _
  · split
    · exact .refused _
    · rw [Grant.enter]
      split
      · exact .refused _
      · rw [Grant.assertAppEnabled]
        split
        · exact .findApp _ _ _ ip isSubject rfl
        · exact entering_admitted isSubject rfl

/-- A statement of a sign-in keeps whom it is for. -/
theorem entering_step
    {phase : Phase}
    (entering : Entering subject phase)
    (env : AuthEnv)
    (fresh : Fresh)
    (db : AuthDb) :
    Entering subject (phase.step env now fresh db).2 := by
  cases entering with
  | findApp grant tenant clientId ip isSubject isLogin =>
      simp only [Phase.step]
      split
      · exact .refused _
      · exact .findEnablement _ _ _ ip isSubject isLogin
  | findEnablement grant tenant app ip isSubject isLogin =>
      simp only [Phase.step]
      split
      · exact .refused _
      · exact entering_admitted isSubject isLogin
  | createToken grant ip isSubject isLogin =>
      simp only [Phase.step]
      split
      · exact .refused _
      · rw [Grant.issued, isLogin]
        exact .recordLogin _ _ _ isSubject
  | recordLogin grant ip session isSubject => exact .session session isSubject
  | session session isSubject => exact .session session isSubject
  | refused error => exact .refused error

end Entering

/-! ## Where a call stands -/

/-- What a call has in the journal that has come so far. -/
def CallBacked (env : CeremonyEnv τ) (journal : List CeremonyEntry)
    (index : Nat) : CeremonyPhase τ → Prop
  | .findEnrolling _ rp => ∃ origin, env.rpFromRequest origin = some rp
  | .findEnrolled _ rp => ∃ origin, env.rpFromRequest origin = some rp
  | .findLoginTenant _ _ _ rp => ∃ origin, env.rpFromRequest origin = some rp
  | .findLoginUser _ _ _ rp => ∃ origin, env.rpFromRequest origin = some rp
  | .findPasskeys _ _ _ rp => ∃ origin, env.rpFromRequest origin = some rp
  | .createCredential user credential info => ∃ ticket second,
      .enrolled index ticket credential info second ∈ journal ∧
        ticket.uid = user.id
  | .signIn (.updateCredential request row _) => ∃ ticket second,
      .verified index ticket request.credential row second ∈ journal
  | .signIn (.findVerified _ userId) => ∃ row,
      .used index row ∈ journal ∧ row.userId = userId
  | .signIn (.signIn phase) => (∃ error, phase = .throws error) ∨
      ∃ row, .used index row ∈ journal ∧ Entering row.userId phase
  | _ => True

/-- The entries are backed, and the stored rows stand. -/
structure JournalHolds (env : CeremonyEnv τ) (db : PasskeyDb)
    (journal : List CeremonyEntry) : Prop where
  backed : Backed (backs env) journal
  stored : ∀ row ∈ db.credentials.rows, Enrolled journal row

theorem CallBacked.append
    {env : CeremonyEnv τ}
    {journal : List CeremonyEntry}
    {index : Nat}
    {call : CeremonyPhase τ}
    (backed : CallBacked env journal index call)
    (more : List CeremonyEntry) :
    CallBacked env (journal ++ more) index call := by
  cases call with
  | createCredential user credential info =>
      obtain ⟨ticket, second, present, isUser⟩ := backed
      exact ⟨ticket, second, List.mem_append_left more present, isUser⟩
  | signIn phase =>
      cases phase with
      | findCredential request => trivial
      | updateCredential request row newCounter =>
          obtain ⟨ticket, second, present⟩ := backed
          exact ⟨ticket, second, List.mem_append_left more present⟩
      | findVerified request userId =>
          obtain ⟨row, present, isUser⟩ := backed
          exact ⟨row, List.mem_append_left more present, isUser⟩
      | signIn phase =>
          rcases backed with refused | ⟨row, present, entering⟩
          · exact .inl refused
          · exact .inr ⟨row, List.mem_append_left more present, entering⟩
  | _ => exact backed

/-! ## Each statement -/

section Statements

variable {env : CeremonyEnv τ} {db after : PasskeyDb}
  {journal : List CeremonyEntry} {index : Nat}

/-- A statement that writes no passkey and is not noted. -/
theorem JournalHolds.aside
    (holds : JournalHolds env db journal)
    (same : after.credentials = db.credentials) :
    JournalHolds env after (journal ++ []) := by
  rw [List.append_nil]
  refine ⟨holds.backed, ?_⟩
  rw [same]
  exact holds.stored

/-- A statement that writes no passkey is noted. -/
theorem JournalHolds.note
    (holds : JournalHolds env db journal)
    {entry : CeremonyEntry}
    (backsEntry : backs env journal entry)
    (unremoved : ∀ id, entry ≠ .removed id) :
    JournalHolds env db (journal ++ [entry]) := by
  refine ⟨holds.backed.concat backsEntry, ?_⟩
  intro row present
  apply (holds.stored row present).append
  rw [List.mem_singleton]
  exact (unremoved row.id).symm

/-- A row is registered. -/
theorem JournalHolds.create
    (holds : JournalHolds env db journal)
    {row : PasskeyCredential}
    (created : db.create row = some after)
    (backsEntry : backs env journal (.registered index row)) :
    JournalHolds env after (journal ++ [.registered index row]) := by
  have noted := holds.note backsEntry (by simp)
  refine ⟨noted.backed, ?_⟩
  have written : after.credentials = db.credentials.put row := by
    rw [PasskeyDb.create] at created
    split at created
    · contradiction
    · split at created
      · contradiction
      · split at created
        · rw [← Option.some.inj created]
        · contradiction
  intro other present
  rw [written] at present
  rcases (db.credentials.mem_put_iff row other).mp present with
    rfl | ⟨old, _⟩
  · exact ⟨journal, index, other, [], rfl, .refl other, List.not_mem_nil⟩
  · exact noted.stored other old

/-- Rows are removed. -/
theorem JournalHolds.deleteMany
    (holds : JournalHolds env db journal)
    (doomed : PasskeyCredential → Bool) :
    JournalHolds env (db.deleteMany doomed)
      (journal ++ removals db doomed) := by
  constructor
  · apply holds.backed.append
    intro before entry present
    obtain ⟨row, _, rfl⟩ := List.mem_map.mp present
    trivial
  · intro row present
    obtain ⟨stored, spared⟩ := List.mem_filter.mp present
    apply (holds.stored row stored).append
    intro removed
    obtain ⟨other, isDoomed, same⟩ := List.mem_map.mp removed
    obtain ⟨otherStored, otherDoomed⟩ := List.mem_filter.mp isDoomed
    have isRow : other = row := List.inj_on_of_nodup_map
      db.credentials.keysNodup otherStored stored
      (CeremonyEntry.removed.inj same)
    rw [isRow] at otherDoomed
    simp [otherDoomed] at spared

/-- A row is registered once. -/
theorem eq_of_registered
    (backed : Backed (backs env) journal)
    {first second : Nat}
    {left right : PasskeyCredential}
    (isLeft : .registered first left ∈ journal)
    (isRight : .registered second right ∈ journal)
    (sameId : left.id = right.id) :
    left = right := by
  rcases backed.eq_or_of_mem isLeft isRight with
    same | ⟨before, earlier, _, fresh⟩ | ⟨before, earlier, _, fresh⟩
  · exact (CeremonyEntry.registered.inj same).2
  · exact absurd sameId (fresh first left earlier)
  · exact absurd sameId.symm (fresh second right earlier)

/-- The row whose counter is written is that of the credential that was
verified. -/
theorem JournalHolds.useCredential
    (holds : JournalHolds env db journal)
    {row : PasskeyCredential}
    {newCounter now : Nat}
    (used : db.useCredential row.id newCounter now = some after)
    {ticket : Ticket}
    {credential : Assertion}
    {second : Nat}
    (verified : .verified index ticket credential row second ∈ journal) :
    JournalHolds env after (journal ++ [.used index row]) := by
  obtain ⟨stored, present, sameId, written, _⟩ :=
    PasskeyDb.of_useCredential used
  have stands : Enrolled journal row := by
    obtain ⟨_, ⟨rest, isPart⟩, _, _, _, _, earlier⟩ :=
      holds.backed.exists_of_mem verified
    obtain ⟨first, found, isFound, foundSame⟩ := earlier.registered
    obtain ⟨before, other, kept, rest', split, keptSame, unremoved⟩ :=
      holds.stored stored present
    have isKept : CeremonyEntry.registered other kept ∈ journal := by
      rw [split]
      simp
    have foundPresent : CeremonyEntry.registered first found ∈ journal := by
      rw [← isPart]
      exact List.mem_append_left _ isFound
    have same : kept = found := eq_of_registered holds.backed isKept
      foundPresent (keptSame.1.trans (sameId.trans foundSame.1.symm))
    exact ⟨before, other, kept, rest', split, same ▸ foundSame,
      sameId ▸ unremoved⟩
  have noted : JournalHolds env db (journal ++ [.used index row]) :=
    holds.note ⟨⟨ticket, credential, second, verified⟩, stands⟩ (by simp)
  refine ⟨noted.backed, ?_⟩
  intro other isOther
  rw [written] at isOther
  rcases (db.credentials.mem_put_iff _ other).mp isOther with rfl | ⟨old, _⟩
  · obtain ⟨before, registrar, first, rest, split, same, unremoved⟩ :=
      noted.stored stored present
    exact ⟨before, registrar, first, rest, split, same, unremoved⟩
  · exact noted.stored other old

/-- A call that begins has checked where it takes place. -/
theorem callBacked_begins (request : Ceremony τ) :
    CallBacked env journal index (env.begins request) := by
  cases request with
  | registerOptions userId origin =>
      simp only [CeremonyEnv.begins]
      split
      · trivial
      · rename_i rp accepted
        exact ⟨origin, accepted⟩
  | loginOptions tenantSlug email origin =>
      simp only [CeremonyEnv.begins]
      split
      · trivial
      · rename_i rp accepted
        split
        · exact ⟨origin, accepted⟩
        · exact ⟨origin, accepted⟩
  | registerVerify userId credential challengeToken => trivial
  | loginVerify request => trivial
  | remove userId id => trivial
  | elsewhere change purged => trivial

/-- What holds after a statement, of the data and of its call. -/
def Continues (env : CeremonyEnv τ) (journal : List CeremonyEntry)
    (index : Nat) (input : CeremonyInput) (db : PasskeyDb)
    (call : CeremonyPhase τ) : Prop :=
  JournalHolds env (env.step input db call).1
      (observeCeremony env journal index input db call) ∧
    CallBacked env (observeCeremony env journal index input db call) index
      (env.step input db call).2

variable {input : CeremonyInput}

/-- A registration is verified for the account that it was begun for. -/
theorem continues_findRegistering
    (holds : JournalHolds env db journal)
    {userId : String}
    {credential : Attestation}
    {challengeToken : τ}
    (ticketDrawn : ∀ ticket, readChallengeToken env.keys
      (decryptSecret env.secrets) challengeToken "webauthn_reg"
        (input.now / 1000) = .ok ticket →
        Drawn env .registration journal ticket (input.now / 1000)) :
    Continues env journal index input db
      (.findRegistering userId credential challengeToken) := by
  have refused : ∀ error : AuthError,
      JournalHolds env db (journal ++ []) ∧
        CallBacked env (journal ++ []) index (.throws error) :=
    fun error => ⟨holds.aside rfl, trivial⟩
  simp only [Continues, observeCeremony, CeremonyEnv.step, entries,
    CeremonyEnv.checkRegistration]
  cases read : readChallengeToken env.keys (decryptSecret env.secrets)
      challengeToken "webauthn_reg" (input.now / 1000) with
  | error error => exact refused error
  | ok ticket =>
      dsimp only
      by_cases same : ticket.uid = userId
      · rw [if_neg (not_not.mpr same)]
        cases found : db.requireUser userId with
        | none => exact refused _
        | some user =>
            dsimp only
            cases verified : env.verifyRegistrationResponse credential
                ticket with
            | none => exact refused _
            | some info =>
                have isUser : user.id = userId :=
                  db.auth.accounts.users.key_of_find?
                    (Option.filter_eq_some_iff.mp found).1
                simp only [read]
                exact ⟨holds.note ⟨ticketDrawn ticket read, verified⟩ (by simp),
                  ticket, input.now / 1000, by simp, same.trans isUser.symm⟩
      · rw [if_pos same]
        exact refused _

/-- An assertion is verified for a row that stands. -/
theorem continues_findCredential
    (holds : JournalHolds env db journal)
    {request : LoginVerify τ}
    (ticketDrawn : ∀ ticket, readChallengeToken env.keys
      (decryptSecret env.secrets) request.challengeToken "webauthn_auth"
        (input.now / 1000) = .ok ticket →
        Drawn env .login journal ticket (input.now / 1000)) :
    Continues env journal index input db (.signIn (.findCredential request)) := by
  have refused : ∀ error : AuthError,
      JournalHolds env db (journal ++ []) ∧
        CallBacked env (journal ++ []) index
          (.signIn (.throws error : PasskeyPhase τ)) :=
    fun error => ⟨holds.aside rfl, .inl ⟨error, rfl⟩⟩
  simp only [Continues, observeCeremony, CeremonyEnv.step, entries,
    PasskeyPhase.step]
  cases read : readChallengeToken env.keys (decryptSecret env.secrets)
      request.challengeToken "webauthn_auth" (input.now / 1000) with
  | error error => exact refused error
  | ok ticket =>
      dsimp only
      cases found : db.findCredential request.credential.id ticket.uid with
      | none => exact refused _
      | some row =>
          dsimp only
          cases verified : env.verifyAuthenticationResponse request.credential
              ticket row with
          | none => exact refused _
          | some newCounter =>
              have matching := List.find?_some found
              simp only [Bool.and_eq_true, decide_eq_true_eq] at matching
              have stands := holds.stored row (List.mem_of_find?_eq_some found)
              simp only [read]
              exact ⟨holds.note ⟨ticketDrawn ticket read, matching.2.symm,
                  matching.1.symm, by simp [verified], stands⟩ (by simp),
                ticket, input.now / 1000, by simp⟩

/-- Behind the ceremony no passkey is written, and the account stays the
same. -/
theorem step_signIn
    (env : PasskeyEnv τ)
    (now : Nat)
    (fresh : Fresh)
    (db : PasskeyDb)
    (phase : Phase) :
    ∃ next, ((PasskeyPhase.signIn phase).step env now fresh db).2 =
        .signIn next ∧
      ((PasskeyPhase.signIn phase).step env now fresh db).1.credentials =
        db.credentials ∧
      (∀ subject, Entering subject phase → Entering subject next) ∧
      ∀ error, phase = .throws error → next = .throws error := by
  have kept : ∀ error, phase = .throws error →
      (phase.step env.toAuthEnv now fresh db.auth).2 = .throws error := by
    rintro error rfl
    rfl
  cases phase with
  | recordLogin grant ip session =>
      refine ⟨_, rfl, rfl, ?_, ?_⟩
      · intro subject entering
        cases entering with
        | recordLogin grant ip session isSubject =>
            exact .session session isSubject
      · intro error isError
        contradiction
  | _ => exact ⟨_, rfl, rfl,
      fun _ entering => entering_step entering _ _ _, kept⟩

/-- A sign-in goes on with the account of its passkey. -/
theorem continues_signIn
    (holds : JournalHolds env db journal)
    {phase : PasskeyPhase τ}
    (begun : ∀ request, phase ≠ .findCredential request)
    (backed : CallBacked env journal index (.signIn phase)) :
    Continues env journal index input db (.signIn phase) := by
  cases phase with
  | findCredential request => exact absurd rfl (begun request)
  | updateCredential request row newCounter =>
      obtain ⟨ticket, second, verified⟩ := backed
      simp only [Continues, observeCeremony, CeremonyEnv.step, entries,
        PasskeyPhase.step]
      cases used : db.useCredential row.id newCounter input.now with
      | none => exact ⟨holds.aside rfl, .inl ⟨_, rfl⟩⟩
      | some after =>
          exact ⟨holds.useCredential used verified, row, by simp, rfl⟩
  | findVerified request userId =>
      obtain ⟨row, isUsed, isUser⟩ := backed
      simp only [Continues, observeCeremony, CeremonyEnv.step, entries,
        PasskeyPhase.step]
      refine ⟨holds.aside rfl, ?_⟩
      cases found : db.auth.accounts.users.find? userId with
      | none => exact .inl ⟨_, rfl⟩
      | some user =>
          have sameUser : user.id = row.userId :=
            (db.auth.accounts.users.key_of_find? found).trans isUser.symm
          exact .inr ⟨row, List.mem_append_left _ isUsed,
            entering_completeLogin sameUser _ _ _⟩
  | signIn phase =>
      -- No statement behind the ceremony is noted.
      have unnoted : entries env index input db (.signIn (.signIn phase))
          (env.step input db (.signIn (.signIn phase))).2 = [] := by
        simp only [CeremonyEnv.step]
        rfl
      rw [Continues, observeCeremony, unnoted]
      obtain ⟨next, isNext, same, enters, stays⟩ := step_signIn
        env.toPasskeyEnv input.now input.fresh db phase
      have leads : (env.step input db (.signIn (.signIn phase))).2 =
          .signIn (.signIn next) := congrArg CeremonyPhase.signIn isNext
      rw [leads]
      refine ⟨holds.aside same, ?_⟩
      rcases backed with ⟨error, isError⟩ | ⟨row, isUsed, entering⟩
      · exact .inl ⟨error, stays error isError⟩
      · exact .inr ⟨row, List.mem_append_left _ isUsed, enters _ entering⟩

/-- Every statement keeps what holds. -/
theorem continues_step
    (holds : JournalHolds env db journal)
    {call : CeremonyPhase τ}
    (backed : CallBacked env journal index call)
    (drawnIv : input.iv.length = 12)
    (fresh : ∀ other row, CeremonyEntry.registered other row ∈ journal →
      row.id ≠ input.fresh.id)
    (genuine : ∀ token, call.presents = some token →
      GenuineTicket env journal token (input.now / 1000)) :
    Continues env journal index input db call := by
  have aside : ∀ {after : PasskeyDb} {next : CeremonyPhase τ},
      after.credentials = db.credentials →
        CallBacked env journal index next →
          JournalHolds env after (journal ++ []) ∧
            CallBacked env (journal ++ []) index next :=
    fun same next => ⟨holds.aside same, next.append []⟩
  cases call with
  | findEnrolling userId rp =>
      refine aside rfl ?_
      simp only [CeremonyEnv.step]
      cases db.requireUser userId with
      | none => trivial
      | some user => exact backed
  | findEnrolled user rp =>
      exact ⟨holds.note ⟨backed, drawnIv⟩ (by simp), trivial⟩
  | findRegistering userId credential challengeToken =>
      exact continues_findRegistering holds fun ticket read =>
        drawn_of_genuine holds.backed (genuine _ rfl) read
  | createCredential user credential info =>
      obtain ⟨ticket, second, enrolled, isUser⟩ := backed
      simp only [Continues, observeCeremony, CeremonyEnv.step, entries]
      cases created : db.create
          (info.row input.fresh.id user.id credential.transports) with
      | none => exact aside rfl trivial
      | some after =>
          refine ⟨holds.create created ⟨?_, fresh⟩, trivial⟩
          exact ⟨ticket, credential, info, second, enrolled, isUser, rfl, rfl⟩
  | recordRegistered user row => exact aside rfl trivial
  | findLoginTenant slug tenantSlug email rp =>
      refine aside rfl ?_
      simp only [CeremonyEnv.step]
      cases db.auth.accounts.findTenant slug with
      | none => trivial
      | some tenant => exact backed
  | findLoginUser tenantId tenantSlug email rp =>
      refine aside rfl ?_
      simp only [CeremonyEnv.step]
      cases db.auth.accounts.findUser tenantId (env.toLowerCase email) with
      | none => trivial
      | some user => exact backed
  | findPasskeys user tenantSlug email rp =>
      simp only [Continues, observeCeremony, CeremonyEnv.step, entries]
      split
      · exact aside rfl trivial
      · exact ⟨holds.note ⟨backed, drawnIv⟩ (by simp), trivial⟩
  | deleteCredential userId id =>
      simp only [Continues, observeCeremony, CeremonyEnv.step]
      split
      · exact aside rfl trivial
      · exact ⟨holds.deleteMany _, trivial⟩
  | recordDeleted userId => exact aside rfl trivial
  | change change purged =>
      have deleted := holds.deleteMany purged
      exact ⟨⟨deleted.backed, deleted.stored⟩, trivial⟩
  | signIn phase =>
      by_cases begun : ∃ request, phase = .findCredential request
      · obtain ⟨request, rfl⟩ := begun
        exact continues_findCredential holds fun ticket read =>
          drawn_of_genuine holds.backed (genuine _ rfl) read
      · exact continues_signIn holds (not_exists.mp begun) backed
  | done outcome => exact aside rfl trivial

end Statements

/-! ## Every session goes back to a registration -/

/-- However the requests of any number of callers and the changes of the other
services interleave: each entry of the journal is backed by those before it, and
each session by the passkey of its account. -/
theorem sessions_traced
    (env : CeremonyEnv τ)
    {db : PasskeyDb}
    (noPasskeys : db.credentials.rows = [])
    {events : List (PoolEvent (Ceremony τ) CeremonyInput)}
    {final : Pool PasskeyDb (CeremonyPhase τ)}
    {journal : List CeremonyEntry}
    (run : Run ((ceremonies env).watch (observeCeremony env)) (Unforged env)
      (⟨db, []⟩, []) events (final, journal)) :
    Backed (backs env) journal ∧
      ∀ (index : Nat) (session : Session),
        final.calls[index]? =
            some (.signIn (.signIn (.done (.ok (.session session))))) →
          ∃ row, .used index row ∈ journal ∧
            row.userId = session.accessToken.sub := by
  have holds : Program.Holds (JournalHolds env)
      (fun _ journal index call => CallBacked env journal index call)
      (final, journal) := by
    apply Program.always _ _ _ run
    · refine ⟨⟨Backed.nil, ?_⟩, ?_⟩
      · intro row present
        rw [noPasskeys] at present
        contradiction
      · intro index call present
        contradiction
    · intro pool journal request _ _
      exact callBacked_begins request
    · intro pool journal index input call holds unforged present
      obtain ⟨drawnIv, fresh, genuine⟩ := unforged
      obtain ⟨data, mover⟩ := continues_step holds.ofData
        (holds.ofCall index call present) drawnIv fresh (genuine call present)
      refine ⟨data, mover, ?_⟩
      intro other bystander _ found
      exact (holds.ofCall other bystander found).append _
    · intro data journal index call _ _
      trivial
  refine ⟨holds.ofData.backed, ?_⟩
  intro index session present
  rcases holds.ofCall index _ present with
    ⟨error, isError⟩ | ⟨row, isUsed, entering⟩
  · cases Phase.done.inj isError
  · refine ⟨row, isUsed, ?_⟩
    cases entering with
    | session session isSubject => exact isSubject.symm

/-! ## A passkey is made and used -/

/-- Surroundings in which nothing is encrypted, only encoded, and an
authenticator answers a challenge with the challenge. -/
def echoEnv : CeremonyEnv Payload where
  toAuthEnv := plainEnv
  keys := plainKeys
  secrets := plainSecrets
  verifyAuthenticationResponse := fun assertion ticket row =>
    if assertion.response = ticket.challenge then some (row.signCount + 1)
    else none
  hmac := id
  generateAuthenticationOptions := optionsEnv.generateAuthenticationOptions
  userVerification := "required"
  challengeTtlSec := 300
  parse := fun text =>
    if text = "https://a.co" then
      some ⟨"https", some ⟨"a.co", .inl (by decide)⟩, none, "/"⟩
    else none
  baseDomains := ["a.co"]
  rpName := "evo.platform"
  generateRegistrationOptions := id
  verifyRegistrationResponse := fun credential ticket =>
    if credential.response = ticket.challenge then some ⟨"Y3JlZA", "key", 0⟩
    else none

/-- A challenge token that was handed out. -/
def isHandedOut (journal : List CeremonyEntry) (token : Payload) : Bool :=
  journal.any fun
    | .drawn kind userId challenge rp iv issued =>
        let handed := plainKeys.signClaims
          (echoEnv.mint kind userId challenge rp iv).claims
          echoEnv.challengeTtlSec issued
        token.kid = handed.kid && token.claims = handed.claims &&
          token.exp = handed.exp && token.iss = handed.iss
    | _ => false

/-- `Unforged`, as a test. -/
def meetsUnforged
    (state : Pool PasskeyDb (CeremonyPhase Payload) × List CeremonyEntry) :
    PoolEvent (Ceremony Payload) CeremonyInput → Bool
  | .advance index input => input.iv.length = 12 &&
      (state.2.all fun
        | .registered _ row => row.id ≠ input.fresh.id
        | _ => true) &&
      ((state.1.calls[index]?.bind CeremonyPhase.presents).all fun token =>
        isHandedOut state.2 token)
  | _ => true

theorem unforged_of_meets
    {state : Pool PasskeyDb (CeremonyPhase Payload) × List CeremonyEntry}
    {event : PoolEvent (Ceremony Payload) CeremonyInput}
    (meets : meetsUnforged state event = true) :
    Unforged echoEnv state event := by
  cases event with
  | start request => trivial
  | abandon index => trivial
  | advance index input =>
      simp only [meetsUnforged, Bool.and_eq_true, decide_eq_true_eq] at meets
      obtain ⟨⟨drawnIv, fresh⟩, handedOut⟩ := meets
      refine ⟨drawnIv, ?_, ?_⟩
      · intro other row registered
        simpa using List.all_eq_true.mp fresh _ registered
      · intro call present token presented _
        rw [present, Option.bind_some, presented, Option.all_some] at handedOut
        obtain ⟨entry, isEntry, same⟩ := List.any_eq_true.mp handedOut
        cases entry with
        | drawn kind userId challenge rp iv issued =>
            simp only [Bool.and_eq_true, decide_eq_true_eq] at same
            obtain ⟨⟨⟨sameKid, sameClaims⟩, sameExp⟩, sameIss⟩ := same
            refine ⟨echoEnv.mint kind userId challenge rp iv,
              echoEnv.challengeTtlSec, issued, ?_, ?_⟩
            · cases token
              simp only at sameKid sameClaims sameExp sameIss
              rw [sameKid, sameClaims, sameExp, sameIss]
              rfl
            · intro other purpose
              have isKind : (echoEnv.mint kind userId challenge rp iv).purpose =
                  some kind.purpose := by
                cases kind <;> rfl
              have samePurpose : kind.purpose = other.purpose :=
                Option.some.inj (isKind.symm.trans purpose)
              obtain rfl : kind = other := by
                revert samePurpose
                cases kind <;> cases other <;> decide
              exact .inr ⟨userId, challenge, rp, iv, isEntry, rfl, rfl⟩
        | _ => contradiction

/-- The session that a sign-in has ended in. -/
def CeremonyPhase.session? : CeremonyPhase τ → Option Session
  | .signIn (.signIn (.done (.ok (.session session)))) => some session
  | _ => none

theorem CeremonyPhase.eq_of_session?
    {call : CeremonyPhase τ}
    {session : Session}
    (ended : call.session? = some session) :
    call = .signIn (.signIn (.done (.ok (.session session)))) := by
  unfold CeremonyPhase.session? at ended
  split at ended
  · rw [Option.some.inj ended]
  · contradiction

/-- A statement, with a challenge that it may draw. -/
def echoed (index : Nat) (id challenge : String) :
    PoolEvent (Ceremony Payload) CeremonyInput :=
  .advance index ⟨5000, ⟨id, "raw", ""⟩, challenge, plainIv⟩

/-- The page of the ceremonies. -/
def echoPage : RpContext := ⟨"a.co", "https://a.co"⟩

def echoInput (challenge : String) : CeremonyInput :=
  ⟨5000, ⟨"", "raw", ""⟩, challenge, plainIv⟩

/-- A user registers a passkey and signs in with it. -/
def enrolling : List (PoolEvent (Ceremony Payload) CeremonyInput) :=
  [.start (.registerOptions "u1" (some "https://a.co")),
    echoed 0 "" "c1", echoed 0 "" "c1",
    .start (.registerVerify "u1" ⟨"c1", ["internal"]⟩
      (echoEnv.registrationToken "u1" "c1" echoPage (echoInput "c1"))),
    echoed 1 "" "", echoed 1 "p1" "", echoed 1 "" "",
    .start (.loginOptions none "a@b.co" (some "https://a.co")),
    echoed 2 "" "c2", echoed 2 "" "c2",
    .start (.loginVerify ⟨⟨"Y3JlZA", "c2"⟩,
      plainKeys.signClaims (echoEnv.mint .login "u1" "c2" echoPage
        plainIv).claims 300 5, none, none⟩),
    echoed 3 "" "", echoed 3 "" "", echoed 3 "" "", echoed 3 "t1" "",
    echoed 3 "" ""]

/-- The session of the passkey that was registered. -/
theorem sessions_traced_enrolling :
    ∃ final journal,
      Run ((ceremonies echoEnv).watch (observeCeremony echoEnv))
        (Unforged echoEnv) (⟨noPasskey, []⟩, []) enrolling (final, journal) ∧
      (∃ session, final.calls[3]? =
        some (.signIn (.signIn (.done (.ok (.session session)))))) ∧
      Backed (backs echoEnv) journal ∧
      ∃ row, .used 3 row ∈ journal ∧ row.userId = "u1" := by
  obtain ⟨⟨final, journal⟩, run, ends⟩ := Run.exists_of_execute
    ((ceremonies echoEnv).watch (observeCeremony echoEnv)) meetsUnforged
    (fun _ _ => unforged_of_meets) (⟨noPasskey, []⟩, []) enrolling
    (fun state => (state.1.calls[3]?.bind CeremonyPhase.session?).any
      fun session => session.accessToken.sub = "u1")
    (by decide +kernel)
  obtain ⟨session, isSession, isUser⟩ : ∃ session : Session,
      final.calls[3]? =
          some (.signIn (.signIn (.done (.ok (.session session))))) ∧
        session.accessToken.sub = "u1" := by
    obtain ⟨session, found, isUser⟩ := (Option.any_eq_true _ _).mp ends
    obtain ⟨call, present, ofCall⟩ := Option.bind_eq_some_iff.mp found
    rw [CeremonyPhase.eq_of_session? ofCall] at present
    exact ⟨session, present, of_decide_eq_true isUser⟩
  obtain ⟨backed, traced⟩ := sessions_traced echoEnv rfl run
  obtain ⟨row, isUsed, ofUser⟩ := traced 3 session isSession
  exact ⟨final, journal, run, ⟨session, isSession⟩, backed, row, isUsed,
    ofUser.trans isUser⟩

end Auth
end EvoPlatform
