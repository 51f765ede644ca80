import EvoPlatform.Auth.Console

/-!
# Parallel calls of the console

Calls whose access token has expired keep the session of the page exactly when
no answer 401 arrives while another call waits for its refresh.  As long as
this holds, the page or the one call that refreshes has the live token; once it
is broken, two refreshes of one token are on their way, and the server refuses
one of them.
-/

namespace EvoPlatform
namespace Auth

/-- The time in which calls run. -/
structure Span where
  opened : Nat
  closes : Nat

/-- The access token expires after the calls have run. -/
def AccessClaims.Lasting (claims : AccessClaims) (span : Span) : Prop :=
  span.closes / 1000 < claims.exp

/-- The access token has expired before the calls run, or expires after. -/
def AccessClaims.Dated (claims : AccessClaims) (span : Span) : Prop :=
  claims.exp ≤ span.opened / 1000 ∨ claims.Lasting span

/-- A refresh token of an account is live as long as the calls run. -/
def Current (env : AuthEnv) (span : Span) (userId : String)
    (clientId : Option String) (tokens : Tokens) (rawToken : String) : Prop :=
  ∃ row ∈ tokens.rows, row.tokenHash = env.sha256 rawToken ∧
    row.revokedAt = none ∧ span.closes ≤ row.expiresAt ∧
    row.userId = userId ∧ row.appClientId = clientId

/-- The page has a session whose access token has expired, while its refresh
token is live and its account passes the checks of a refresh; and what a
refresh issues while the calls run outlasts them. -/
structure ExpiredSession (env : AuthEnv) (span : Span) (userId : String)
    (clientId : Option String) (site : Site) : Prop where
  access : ∃ claims, site.page.access = some claims ∧
    claims.exp ≤ span.opened / 1000
  refresh : ∃ rawToken, site.page.refresh = some rawToken ∧ rawToken ≠ "" ∧
    Current env span userId clientId site.server.tokens rawToken
  admits : ∀ now, span.opened ≤ now → now ≤ span.closes →
    site.server.accounts.Admits now userId clientId
  accessLasts :
    span.closes / 1000 < span.opened / 1000 + env.accessTtlSec
  refreshLasts : span.closes ≤ span.opened + env.refreshTtlDays * 86400000

/-- A call waits for a refresh. -/
def ApiPhase.awaits : ApiPhase → Bool
  | .refreshing _ | .refreshed _ => true
  | _ => false

/-- An answer 401 to the first request of a call is about to arrive. -/
def ApiPhase.turnedAway : ApiPhase → Bool
  | .answered _ .unauthorized => true
  | _ => false

/-- A call has ended. -/
def ApiPhase.finished : ApiPhase → Bool
  | .returned _ | .signedOut => true
  | _ => false

/-- A call has cleared the session. -/
def ApiPhase.isSignedOut : ApiPhase → Bool
  | .signedOut => true
  | _ => false

/-- The calls run within the span, and what the server draws is new. -/
def Timely (env : AuthEnv) (span : Span) (pool : Pool Site ApiPhase) :
    PoolEvent Unit ApiInput → Prop
  | .advance _ input => span.opened ≤ input.now ∧ input.now ≤ span.closes ∧
      input.fresh.IsNew env pool.data.server.tokens
  | _ => True

/-- When an answer 401 arrives, no other call waits for a refresh. -/
def Alone (pool : Pool Site ApiPhase) : PoolEvent Unit ApiInput → Prop
  | .advance index _ => ∀ call ∈ pool.calls[index]?, call.turnedAway = true →
      ∀ bystander ∈ pool.calls.eraseIdx index, bystander.awaits = false
  | _ => True

/-- No call has cleared the session, the last request of each was sent with a
live access token, and the page stores the live refresh token. -/
structure Kept (env : AuthEnv) (span : Span) (pool : Pool Site ApiPhase) :
    Prop where
  calls : ∀ call ∈ pool.calls, ∃ claims,
    call = .returned (some claims) ∧ claims.isLive span.closes = true
  refresh : ∃ rawToken, pool.data.page.refresh = some rawToken ∧
    ∃ row ∈ pool.data.server.tokens.rows,
      row.tokenHash = env.sha256 rawToken ∧ row.live span.closes = true

section Decidable

variable (env : AuthEnv) (span : Span) (pool : Pool Site ApiPhase)

instance : (event : PoolEvent Unit ApiInput) →
    Decidable (Timely env span pool event)
  | .advance _ input => inferInstanceAs (Decidable (span.opened ≤ input.now ∧
      input.now ≤ span.closes ∧
      input.fresh.IsNew env pool.data.server.tokens))
  | .start _ => isTrue trivial
  | .abandon _ => isTrue trivial

end Decidable

/-! ## One refresh at a time -/

/-- A token was revoked. -/
def Spent (env : AuthEnv) (tokens : Tokens) (rawToken : String) : Prop :=
  ∃ row ∈ tokens.rows,
    row.tokenHash = env.sha256 rawToken ∧ row.revokedAt ≠ none

section Orderly

variable (env : AuthEnv) (span : Span) (userId : String)
  (clientId : Option String)

/-- What holds of a call where it stands. -/
def Stands (site : Site) : ApiPhase → Prop
  | .ready => True
  | .sent token => ∃ claims, token = some claims ∧ claims.Dated span
  | .answered token reply => reply ≠ .unauthorized →
      ∃ claims, token = some claims ∧ claims.Lasting span
  | .refreshing rawToken => site.page.refresh = some rawToken ∧
      Current env span userId clientId site.server.tokens rawToken
  | .refreshed outcome => ∃ session, outcome = .ok session ∧
      session.refreshToken ≠ "" ∧ session.accessToken.Lasting span ∧
      Current env span userId clientId site.server.tokens
        session.refreshToken ∧
      ∃ old, site.page.refresh = some old ∧ Spent env site.server.tokens old
  | .resent token => ∃ claims, token = some claims ∧ claims.Lasting span
  | .reanswered token reply => reply ≠ .unauthorized ∧
      ∃ claims, token = some claims ∧ claims.Lasting span
  | .returned token => ∃ claims, token = some claims ∧ claims.Lasting span
  | .signedOut => False

/-- At most one call waits for a refresh, and the live token is with it or with
the page. -/
structure Orderly (pool : Pool Site ApiPhase) : Prop where
  admits : ∀ now, span.opened ≤ now → now ≤ span.closes →
    pool.data.server.accounts.Admits now userId clientId
  access : ∃ claims, pool.data.page.access = some claims ∧ claims.Dated span
  refresh : ∃ rawToken, pool.data.page.refresh = some rawToken ∧
    rawToken ≠ "" ∧
    ((∀ (index : Nat) (call : ApiPhase), pool.calls[index]? = some call →
        call.awaits = false) →
      Current env span userId clientId pool.data.server.tokens rawToken)
  stands : ∀ (index : Nat) (call : ApiPhase),
    pool.calls[index]? = some call →
    Stands env span userId clientId pool.data call
  single : ∀ (left right : Nat) (leftCall rightCall : ApiPhase),
    pool.calls[left]? = some leftCall → pool.calls[right]? = some rightCall →
      leftCall.awaits = true → rightCall.awaits = true → left = right

end Orderly

section Step

variable {env : AuthEnv} {span : Span} {userId : String}
  {clientId : Option String} {pool : Pool Site ApiPhase} {index : Nat}
  {call next : ApiPhase}

/-- A call that does not wait for a refresh stands regardless of the site. -/
theorem Stands.elsewhere
    {site other : Site}
    (stands : Stands env span userId clientId site call)
    (notAwaiting : call.awaits = false) :
    Stands env span userId clientId other call := by
  cases call <;> first | exact stands | contradiction

/-- A step of a call that neither waits for a refresh nor begins to, and leaves
the site alone. -/
theorem Orderly.quiet
    (good : Orderly env span userId clientId pool)
    (present : pool.calls[index]? = some call)
    (before : call.awaits = false)
    (after : next.awaits = false)
    (stands : Stands env span userId clientId pool.data next) :
    Orderly env span userId clientId (pool.setCall index next) where
  admits := good.admits
  access := good.access
  refresh := by
    obtain ⟨rawToken, isStored, isGiven, current⟩ := good.refresh
    refine ⟨rawToken, isStored, isGiven, ?_⟩
    intro noneAwaits
    apply current
    intro other bystander found
    by_cases same : other = index
    · subst same
      rw [present] at found
      exact Option.some.inj found ▸ before
    · apply noneAwaits other bystander
      rw [Pool.setCall, List.getElem?_set_ne (Ne.symm same)]
      exact found
  stands := by
    intro other bystander found
    rcases Pool.of_getElem?_setCall found with ⟨rfl, rfl⟩ | ⟨_, found⟩
    · exact stands
    · exact good.stands other bystander found
  single := by
    intro left right leftCall rightCall leftFound rightFound leftAwaits
      rightAwaits
    rcases Pool.of_getElem?_setCall leftFound with
      ⟨rfl, rfl⟩ | ⟨_, leftFound⟩
    · rw [after] at leftAwaits
      contradiction
    · rcases Pool.of_getElem?_setCall rightFound with
        ⟨rfl, rfl⟩ | ⟨_, rightFound⟩
      · rw [after] at rightAwaits
        contradiction
      · exact good.single left right leftCall rightCall leftFound rightFound
          leftAwaits rightAwaits

/-- A step of the only call that waits for a refresh, or begins to. -/
theorem Orderly.alone
    {site : Site}
    (good : Orderly env span userId clientId pool)
    (others : ∀ other bystander, other ≠ index →
      pool.calls[other]? = some bystander → bystander.awaits = false)
    (sameAccounts : site.server.accounts = pool.data.server.accounts)
    (access : ∃ claims, site.page.access = some claims ∧ claims.Dated span)
    (refresh : ∃ rawToken, site.page.refresh = some rawToken ∧
      rawToken ≠ "" ∧ (next.awaits = false →
        Current env span userId clientId site.server.tokens rawToken))
    (present : index < pool.calls.length)
    (stands : Stands env span userId clientId site next) :
    Orderly env span userId clientId
      ({ pool with data := site }.setCall index next) where
  admits := by
    intro now opened closes
    simp only [Pool.setCall, sameAccounts]
    exact good.admits now opened closes
  access := access
  refresh := by
    obtain ⟨rawToken, isStored, isGiven, current⟩ := refresh
    refine ⟨rawToken, isStored, isGiven, ?_⟩
    intro noneAwaits
    apply current
    apply noneAwaits index next
    simp [Pool.setCall, present]
  stands := by
    intro other bystander found
    rcases Pool.of_getElem?_setCall found with ⟨rfl, rfl⟩ | ⟨apart, found⟩
    · exact stands
    · exact (good.stands other bystander found).elsewhere
        (others other bystander apart found)
  single := by
    have only : ∀ other bystander,
        ({ pool with data := site }.setCall index next).calls[other]? =
          some bystander → bystander.awaits = true → other = index := by
      intro other bystander found awaits
      rcases Pool.of_getElem?_setCall found with ⟨rfl, _⟩ | ⟨apart, found⟩
      · rfl
      · rw [others other bystander apart found] at awaits
        contradiction
    intro left right leftCall rightCall leftFound rightFound leftAwaits
      rightAwaits
    exact (only left leftCall leftFound leftAwaits).trans
      (only right rightCall rightFound rightAwaits).symm

/-- The server turns away a token that has expired before the calls run, and no
token that lasts. -/
theorem serve_of_dated
    {now : Nat}
    {handled : Bool}
    {claims : AccessClaims}
    (opened : span.opened ≤ now)
    (dated : claims.Dated span)
    (accepted : serve now handled (some claims) ≠ .unauthorized) :
    claims.Lasting span := by
  rcases dated with expired | lasting
  · have notLive : claims.isLive now = false := by
      have later : span.opened / 1000 ≤ now / 1000 :=
        Nat.div_le_div_right opened
      simp only [AccessClaims.isLive, decide_eq_false_iff_not]
      omega
    simp [serve, notLive] at accepted
  · exact lasting

theorem serve_of_lasting
    {now : Nat}
    (handled : Bool)
    {claims : AccessClaims}
    (closes : now ≤ span.closes)
    (lasting : claims.Lasting span) :
    serve now handled (some claims) ≠ .unauthorized := by
  have isLive : claims.isLive now = true := by
    have earlier : now / 1000 ≤ span.closes / 1000 :=
      Nat.div_le_div_right closes
    simp only [AccessClaims.Lasting] at lasting
    simp only [AccessClaims.isLive, decide_eq_true_eq]
    omega
  cases handled <;> simp [serve, isLive]

/-- A refresh that the server carries out spends the presented token, and the
session it answers with has the live one. -/
theorem stands_refreshed
    {now : Nat}
    {fresh : Fresh}
    {rawToken : String}
    {site : Site}
    (accessLasts :
      span.closes / 1000 < span.opened / 1000 + env.accessTtlSec)
    (refreshLasts :
      span.closes ≤ span.opened + env.refreshTtlDays * 86400000)
    (opened : span.opened ≤ now)
    (closes : now ≤ span.closes)
    (isNew : fresh.IsNew env site.server.tokens)
    (admits : site.server.accounts.Admits now userId clientId)
    (isStored : site.page.refresh = some rawToken)
    (current :
      Current env span userId clientId site.server.tokens rawToken) :
    (refreshAtOnce env now fresh site.server rawToken).1.accounts =
        site.server.accounts ∧
      Stands env span userId clientId
        { site with
          server := (refreshAtOnce env now fresh site.server rawToken).1 }
        (.refreshed (refreshAtOnce env now fresh site.server rawToken).2) := by
  obtain ⟨row, present, isHash, unrevoked, unexpired, ofUser, ofClient⟩ :=
    current
  have goesWell := refreshAtOnce_ok env now fresh present isHash unrevoked
    (closes.trans unexpired) (by rw [ofUser, ofClient]; exact admits) isNew
  have refreshed := refreshed_refreshAtOnce env now fresh site.server rawToken
  generalize refreshAtOnce env now fresh site.server rawToken = answer
    at goesWell refreshed ⊢
  obtain ⟨after, outcome⟩ := answer
  cases refreshed with
  | failed error sameAccounts tokens =>
      obtain ⟨session, isSession⟩ := goesWell
      contradiction
  | rotated grant found storedUnrevoked sameAccounts creates sameUser
      sameClient =>
      rename_i stored
      have isRow : stored = row := Tokens.eq_of_hash
        (site.server.tokens.byHash.mem_of_find? found) present
        ((site.server.tokens.byHash.key_of_find? found).trans isHash.symm)
      subst isRow
      refine ⟨sameAccounts, _, rfl, isNew.1, ?_, ?_, rawToken, isStored, ?_⟩
      · have later : span.opened / 1000 ≤ now / 1000 :=
          Nat.div_le_div_right opened
        simp only [AccessClaims.Lasting, Grant.session]
        omega
      · refine ⟨grant.token env now fresh, creates.mem_iff.mpr (Or.inr rfl),
          rfl, rfl, ?_, sameUser.trans ofUser, sameClient.trans ofClient⟩
        simp only [Grant.token]
        omega
      · obtain ⟨kept, keptPresent, _, keptHash, keptRevoked⟩ :=
          Tokens.revoked_of_revoke (fun token => token.id = stored.id) now
            present (Or.inr (by simp))
        exact ⟨kept, creates.mem_iff.mpr (Or.inl keptPresent),
          keptHash.trans isHash, keptRevoked⟩

/-- A message that arrives while no other call waits for a refresh, or that has
nothing to do with one, keeps the calls in order. -/
theorem Orderly.advance
    {input : ApiInput}
    (accessLasts :
      span.closes / 1000 < span.opened / 1000 + env.accessTtlSec)
    (refreshLasts :
      span.closes ≤ span.opened + env.refreshTtlDays * 86400000)
    (good : Orderly env span userId clientId pool)
    (timely : Timely env span pool (.advance index input))
    (alone : Alone pool (.advance index input))
    (present : pool.calls[index]? = some call) :
    Orderly env span userId clientId
      ({ pool with data := (call.step env input pool.data).1 }.setCall index
        (call.step env input pool.data).2) := by
  obtain ⟨opened, closes, isNew⟩ := timely
  have stands := good.stands index call present
  have inRange : index < pool.calls.length :=
    (List.getElem?_eq_some_iff.mp present).1
  have onlyOne : call.awaits = true → ∀ other bystander, other ≠ index →
      pool.calls[other]? = some bystander → bystander.awaits = false := by
    intro awaits other bystander apart found
    by_contra alsoAwaits
    exact apart (good.single other index bystander call found present
      (by simpa using alsoAwaits) awaits)
  cases call with
  | ready => exact good.quiet present rfl rfl good.access
  | sent token =>
      obtain ⟨claims, rfl, dated⟩ := stands
      apply good.quiet present rfl rfl
      intro accepted
      exact ⟨claims, rfl, serve_of_dated opened dated accepted⟩
  | answered token reply =>
      by_cases turnedAway : reply = .unauthorized
      · subst turnedAway
        obtain ⟨rawToken, isStored, isGiven, current⟩ := good.refresh
        have others : ∀ other bystander, other ≠ index →
            pool.calls[other]? = some bystander →
              bystander.awaits = false :=
          fun other bystander apart found => alone _ present rfl bystander
            (List.mem_eraseIdx_iff_getElem?.mpr ⟨other, apart, found⟩)
        have presents : given pool.data.page.refresh = some rawToken := by
          rw [isStored, given_some isGiven]
        have isCurrent := current (by
          intro other bystander found
          by_cases same : other = index
          · subst same
            rw [present] at found
            exact Option.some.inj found ▸ rfl
          · exact others other bystander same found)
        simp only [ApiPhase.step, if_true, presents]
        exact good.alone others rfl good.access
          ⟨rawToken, isStored, isGiven, fun _ => isCurrent⟩ inRange
          ⟨isStored, isCurrent⟩
      · simp only [ApiPhase.step, turnedAway, if_false, Site.finish]
        exact good.quiet present rfl rfl (stands turnedAway)
  | refreshing rawToken =>
      obtain ⟨isStored, current⟩ := stands
      obtain ⟨stored, storedIs, isGiven, _⟩ := good.refresh
      obtain ⟨sameAccounts, refreshed⟩ := stands_refreshed accessLasts
        refreshLasts opened closes isNew
        (good.admits input.now opened closes) isStored current
      exact good.alone (onlyOne rfl) sameAccounts good.access
        ⟨stored, storedIs, isGiven, fun notAwaiting => by contradiction⟩
        inRange refreshed
  | refreshed outcome =>
      obtain ⟨session, rfl, isGiven, lasting, current, _⟩ := stands
      exact good.alone (onlyOne rfl) rfl ⟨_, rfl, Or.inr lasting⟩
        ⟨_, rfl, isGiven, fun _ => current⟩ inRange ⟨_, rfl, lasting⟩
  | resent token =>
      obtain ⟨claims, rfl, lasting⟩ := stands
      exact good.quiet present rfl rfl
        ⟨serve_of_lasting input.handled closes lasting, claims, rfl, lasting⟩
  | reanswered token reply =>
      obtain ⟨accepted, claims, rfl, lasting⟩ := stands
      simp only [ApiPhase.step, Site.finish, accepted, if_false]
      exact good.quiet present rfl rfl ⟨claims, rfl, lasting⟩
  | returned token => exact good.quiet present rfl rfl stands
  | signedOut => contradiction

end Step

/-! ## Two refreshes of one token -/

/-- A call that will clear the session, or has. -/
def Lost (env : AuthEnv) (tokens : Tokens) : ApiPhase → Prop
  | .refreshing rawToken => Spent env tokens rawToken
  | .refreshed (.error _) => True
  | .signedOut => True
  | _ => False

/-- A call is lost, or two refreshes of one token are on their way. -/
def Doomed (env : AuthEnv) (pool : Pool Site ApiPhase) : Prop :=
  (∃ (index : Nat) (call : ApiPhase), pool.calls[index]? = some call ∧
    Lost env pool.data.server.tokens call) ∨
  ∃ (left right : Nat) (rawToken : String), left ≠ right ∧
    pool.calls[left]? = some (.refreshing rawToken) ∧
    pool.calls[right]? = some (.refreshing rawToken)

section Doomed

variable {env : AuthEnv} {pool : Pool Site ApiPhase} {index : Nat}
  {call : ApiPhase}

/-- A spent token stays spent. -/
theorem Spent.refreshAtOnce
    {db : AuthDb}
    {rawToken : String}
    (spent : Spent env db.tokens rawToken)
    (now : Nat)
    (fresh : Fresh)
    (presented : String) :
    Spent env (refreshAtOnce env now fresh db presented).1.tokens
      rawToken := by
  obtain ⟨row, present, isHash, revoked⟩ := spent
  have afterRevoke : ∀ doomed,
      Spent env (db.tokens.revoke doomed now) rawToken := by
    intro doomed
    obtain ⟨kept, keptPresent, _, keptHash, keptRevoked⟩ :=
      Tokens.revoked_of_revoke doomed now present (Or.inl revoked)
    exact ⟨kept, keptPresent, keptHash.trans isHash, keptRevoked⟩
  have refreshed := refreshed_refreshAtOnce env now fresh db presented
  generalize Auth.refreshAtOnce env now fresh db presented = answer
    at refreshed ⊢
  obtain ⟨after, outcome⟩ := answer
  cases refreshed with
  | failed error _ tokens =>
      rcases tokens with same | ⟨doomed, same⟩
      · exact same ▸ ⟨row, present, isHash, revoked⟩
      · exact same ▸ afterRevoke doomed
  | rotated grant _ _ _ creates =>
      obtain ⟨kept, keptPresent, keptHash, keptRevoked⟩ := afterRevoke _
      exact ⟨kept, creates.mem_iff.mpr (Or.inl keptPresent), keptHash,
        keptRevoked⟩

/-- The refresh of a token is refused, or spends it; that of a spent one is
refused. -/
theorem refreshAtOnce_spends
    (env : AuthEnv)
    (now : Nat)
    (fresh : Fresh)
    (db : AuthDb)
    (rawToken : String) :
    (∃ error, (refreshAtOnce env now fresh db rawToken).2 = .error error) ∨
      (¬ Spent env db.tokens rawToken ∧
        Spent env (refreshAtOnce env now fresh db rawToken).1.tokens
          rawToken) := by
  have refreshed := refreshed_refreshAtOnce env now fresh db rawToken
  generalize refreshAtOnce env now fresh db rawToken = answer at refreshed ⊢
  obtain ⟨after, outcome⟩ := answer
  cases refreshed with
  | failed error => exact Or.inl ⟨error, rfl⟩
  | rotated grant found unrevoked sameAccounts creates sameUser sameClient =>
      rename_i stored
      have present := db.tokens.byHash.mem_of_find? found
      have isHash := db.tokens.byHash.key_of_find? found
      refine Or.inr ⟨?_, ?_⟩
      · rintro ⟨row, rowPresent, rowHash, revoked⟩
        have same := Tokens.eq_of_hash rowPresent present
          (rowHash.trans isHash.symm)
        exact revoked (same ▸ unrevoked)
      · obtain ⟨kept, keptPresent, _, keptHash, keptRevoked⟩ :=
          Tokens.revoked_of_revoke (fun token => token.id = stored.id) now
            present (Or.inr (by simp))
        exact ⟨kept, creates.mem_iff.mpr (Or.inl keptPresent),
          keptHash.trans isHash, keptRevoked⟩

/-- A call that is lost stays so while others move. -/
theorem Lost.elsewhere
    {bystander : ApiPhase}
    {site : Site}
    (lost : Lost env site.server.tokens bystander)
    (input : ApiInput)
    (call : ApiPhase) :
    Lost env (call.step env input site).1.server.tokens bystander := by
  have sameServer : ∀ token reply,
      (site.finish token reply).1.server = site.server := by
    intro token reply
    unfold Site.finish
    split <;> rfl
  cases bystander with
  | refreshing rawToken =>
      cases call with
      | refreshing presented => exact lost.refreshAtOnce _ _ presented
      | answered token reply =>
          simp only [ApiPhase.step]
          split
          · split
            · exact lost
            · simpa only [sameServer] using lost
          · simpa only [sameServer] using lost
      | refreshed outcome =>
          cases outcome with
          | ok session => exact lost
          | error error => exact lost
      | reanswered token reply =>
          simpa only [ApiPhase.step, sameServer] using lost
      | _ => exact lost
  | refreshed outcome =>
      cases outcome with
      | ok session => exact lost
      | error error => trivial
  | signedOut => trivial
  | _ => exact lost

/-- A lost call that moves is still lost. -/
theorem Lost.step
    {site : Site}
    (lost : Lost env site.server.tokens call)
    (input : ApiInput) :
    Lost env (call.step env input site).1.server.tokens
      (call.step env input site).2 := by
  cases call with
  | refreshing rawToken =>
      rcases refreshAtOnce_spends env input.now input.fresh site.server
        rawToken with ⟨error, refused⟩ | ⟨notSpent, _⟩
      · simp only [ApiPhase.step, refused]
        trivial
      · exact absurd lost notSpent
  | refreshed outcome =>
      cases outcome with
      | ok session => exact lost
      | error error => trivial
  | signedOut => trivial
  | _ => exact lost.elim

theorem Doomed.advance
    (doomed : Doomed env pool)
    (input : ApiInput)
    (present : pool.calls[index]? = some call) :
    Doomed env
      ({ pool with data := (call.step env input pool.data).1 }.setCall index
        (call.step env input pool.data).2) := by
  have inRange : index < pool.calls.length :=
    (List.getElem?_eq_some_iff.mp present).1
  have mover : ({ pool with
        data := (call.step env input pool.data).1 }.setCall index
      (call.step env input pool.data).2).calls[index]? =
        some (call.step env input pool.data).2 := by
    simp [Pool.setCall, inRange]
  have others : ∀ other bystander, other ≠ index →
      pool.calls[other]? = some bystander →
        ({ pool with
            data := (call.step env input pool.data).1 }.setCall index
          (call.step env input pool.data).2).calls[other]? =
            some bystander := by
    intro other bystander apart found
    rw [Pool.setCall, List.getElem?_set_ne (Ne.symm apart)]
    exact found
  -- one of two refreshes of a token moves
  have served : ∀ other rawToken, other ≠ index →
      call = .refreshing rawToken →
      pool.calls[other]? = some (.refreshing rawToken) →
        Doomed env
          ({ pool with data := (call.step env input pool.data).1 }.setCall
            index (call.step env input pool.data).2) := by
    rintro other rawToken apart rfl found
    rcases refreshAtOnce_spends env input.now input.fresh pool.data.server
      rawToken with ⟨error, refused⟩ | ⟨_, spent⟩
    · refine Or.inl ⟨index, _, mover, ?_⟩
      simp only [ApiPhase.step, refused]
      trivial
    · exact Or.inl ⟨other, _, others other _ apart found, spent⟩
  rcases doomed with ⟨other, bystander, found, lost⟩ |
    ⟨left, right, rawToken, different, leftFound, rightFound⟩
  · by_cases same : other = index
    · subst same
      rw [present] at found
      obtain rfl := Option.some.inj found
      exact Or.inl ⟨other, _, mover, lost.step input⟩
    · exact Or.inl ⟨other, bystander, others other bystander same found,
        lost.elsewhere input call⟩
  · by_cases leftMoves : left = index
    · subst leftMoves
      rw [present] at leftFound
      exact served right rawToken (Ne.symm different)
        (Option.some.inj leftFound) rightFound
    · by_cases rightMoves : right = index
      · subst rightMoves
        rw [present] at rightFound
        exact served left rawToken different (Option.some.inj rightFound)
          leftFound
      · exact Or.inr ⟨left, right, rawToken, different,
          others left _ leftMoves leftFound,
          others right _ rightMoves rightFound⟩

end Doomed

/-! ## Runs -/

section Runs

variable {env : AuthEnv} {span : Span} {userId : String}
  {clientId : Option String} {pool : Pool Site ApiPhase} {index : Nat}
  {call : ApiPhase}

/-- A call that is turned away while another one waits for its refresh presents
the token that the other one has presented. -/
theorem Orderly.crowded
    {input : ApiInput}
    (orderly : Orderly env span userId clientId pool)
    (present : pool.calls[index]? = some call)
    (crowded : ¬ Alone pool (.advance index input)) :
    Doomed env
      ({ pool with data := (call.step env input pool.data).1 }.setCall index
        (call.step env input pool.data).2) := by
  have inRange : index < pool.calls.length :=
    (List.getElem?_eq_some_iff.mp present).1
  simp only [Alone, present, Option.mem_def, Option.some.injEq, not_forall,
    Bool.not_eq_false] at crowded
  obtain ⟨_, rfl, turnedAway, bystander, isOther, awaits⟩ := crowded
  obtain ⟨other, apart, found⟩ := List.mem_eraseIdx_iff_getElem?.mp isOther
  obtain ⟨rawToken, isStored, isGiven, _⟩ := orderly.refresh
  have presented : call.step env input pool.data =
      (pool.data, .refreshing rawToken) := by
    unfold ApiPhase.turnedAway at turnedAway
    split at turnedAway
    · simp only [ApiPhase.step, if_true, isStored, given_some isGiven]
    · contradiction
  rw [presented]
  have stillThere : ({ pool with data := pool.data }.setCall index
      (.refreshing rawToken)).calls[other]? = some bystander := by
    rw [Pool.setCall, List.getElem?_set_ne (Ne.symm apart)]
    exact found
  have stands := orderly.stands other bystander found
  cases bystander with
  | refreshing earlier =>
      obtain ⟨isPresented, _⟩ := stands
      rw [isStored] at isPresented
      obtain rfl := Option.some.inj isPresented
      exact Or.inr ⟨index, other, rawToken, Ne.symm apart,
        by simp [Pool.setCall, inRange], stillThere⟩
  | refreshed outcome =>
      obtain ⟨_, _, _, _, _, old, isOld, spent⟩ := stands
      rw [isStored] at isOld
      obtain rfl := Option.some.inj isOld
      exact Or.inl ⟨index, .refreshing rawToken,
        by simp [Pool.setCall, inRange], spent⟩
  | _ => contradiction

theorem Orderly.start
    (orderly : Orderly env span userId clientId pool) :
    Orderly env span userId clientId
      { pool with calls := pool.calls ++ [.ready] } where
  admits := orderly.admits
  access := orderly.access
  refresh := by
    obtain ⟨rawToken, isStored, isGiven, current⟩ := orderly.refresh
    refine ⟨rawToken, isStored, isGiven, ?_⟩
    intro noneAwaits
    apply current
    intro other bystander found
    apply noneAwaits other bystander
    have inRange : other < pool.calls.length :=
      (List.getElem?_eq_some_iff.mp found).1
    rw [List.getElem?_append_left inRange]
    exact found
  stands := by
    intro other bystander found
    rcases Pool.of_getElem?_append found with ⟨_, rfl⟩ | before
    · trivial
    · exact orderly.stands other bystander before
  single := by
    intro left right leftCall rightCall leftFound rightFound leftAwaits
      rightAwaits
    rcases Pool.of_getElem?_append leftFound with ⟨_, rfl⟩ | leftBefore
    · contradiction
    · rcases Pool.of_getElem?_append rightFound with ⟨_, rfl⟩ | rightBefore
      · contradiction
      · exact orderly.single left right leftCall rightCall leftBefore
          rightBefore leftAwaits rightAwaits

/-- The session of the page before any call. -/
theorem ExpiredSession.orderly
    {site : Site}
    (expired : ExpiredSession env span userId clientId site) :
    Orderly env span userId clientId ⟨site, []⟩ where
  admits := expired.admits
  access := by
    obtain ⟨claims, isStored, hasExpired⟩ := expired.access
    exact ⟨claims, isStored, Or.inl hasExpired⟩
  refresh := by
    obtain ⟨rawToken, isStored, isGiven, current⟩ := expired.refresh
    exact ⟨rawToken, isStored, isGiven, fun _ => current⟩
  stands := by
    intro index call present
    contradiction
  single := by
    intro left right leftCall rightCall leftFound
    contradiction

theorem Doomed.start
    (doomed : Doomed env pool) :
    Doomed env { pool with calls := pool.calls ++ [.ready] } := by
  have stillThere : ∀ (index : Nat) (call : ApiPhase),
      pool.calls[index]? = some call →
        (pool.calls ++ [.ready])[index]? = some call := by
    intro index call present
    have inRange : index < pool.calls.length :=
      (List.getElem?_eq_some_iff.mp present).1
    rw [List.getElem?_append_left inRange]
    exact present
  rcases doomed with ⟨index, call, present, lost⟩ |
    ⟨left, right, rawToken, different, leftFound, rightFound⟩
  · exact Or.inl ⟨index, call, stillThere index call present, lost⟩
  · exact Or.inr ⟨left, right, rawToken, different,
      stillThere left _ leftFound, stillThere right _ rightFound⟩

/-- Nothing that follows saves the session. -/
theorem doomed_of_run
    {admissible : Pool Site ApiPhase → PoolEvent Unit ApiInput → Prop}
    {start final : Pool Site ApiPhase}
    {events : List (PoolEvent Unit ApiInput)}
    (run : Run (consoleCalls env).poolStep admissible start events final)
    (doomed : Doomed env start) :
    Doomed env final := by
  refine run.invariant (Doomed env) ?_ doomed
  intro pool event next doomed _ stepped
  cases event with
  | start request =>
      obtain rfl := Option.some.inj stepped
      exact doomed.start
  | advance index input =>
      obtain ⟨call, present, rfl⟩ := Option.map_eq_some_iff.mp stepped
      exact doomed.advance input present
  | abandon index =>
      obtain ⟨call, present, rfl⟩ := Option.map_eq_some_iff.mp stepped
      exact (Pool.setCall_same present).symm ▸ doomed

/-- Once all calls have ended, the session of a doomed page is cleared. -/
theorem Doomed.not_kept
    (doomed : Doomed env pool)
    (finished : ∀ call ∈ pool.calls, call.finished = true) :
    ¬ Kept env span pool := by
  intro kept
  rcases doomed with ⟨index, call, present, lost⟩ |
    ⟨left, right, rawToken, _, leftFound, _⟩
  · obtain ⟨claims, rfl, _⟩ :=
      kept.calls call (List.mem_of_getElem? present)
    exact lost
  · have notEnded := finished _ (List.mem_of_getElem? leftFound)
    contradiction

/-- Once all calls have ended in order, the session is kept. -/
theorem Orderly.kept
    (orderly : Orderly env span userId clientId pool)
    (finished : ∀ call ∈ pool.calls, call.finished = true) :
    Kept env span pool where
  calls := by
    intro call present
    obtain ⟨index, found⟩ := List.mem_iff_getElem?.mp present
    have stands := orderly.stands index call found
    have ended := finished call present
    cases call with
    | returned token =>
        obtain ⟨claims, rfl, lasting⟩ := stands
        exact ⟨claims, rfl, decide_eq_true lasting⟩
    | signedOut => exact stands.elim
    | _ => contradiction
  refresh := by
    obtain ⟨rawToken, isStored, _, current⟩ := orderly.refresh
    obtain ⟨row, present, isHash, unrevoked, unexpired, _⟩ := current (by
      intro index call found
      have ended := finished call (List.mem_of_getElem? found)
      cases call <;> first | rfl | contradiction)
    refine ⟨rawToken, isStored, row, present, isHash, ?_⟩
    simp only [RefreshToken.live, unrevoked, Option.isNone_none,
      Bool.true_and, Bool.not_eq_eq_eq_not, Bool.not_true,
      decide_eq_false_iff_not, Nat.not_lt]
    exact unexpired

/-- From calls in order, a run keeps the session exactly when it meets the
condition at each step. -/
theorem Orderly.kept_iff
    {start final : Pool Site ApiPhase}
    {events : List (PoolEvent Unit ApiInput)}
    (accessLasts :
      span.closes / 1000 < span.opened / 1000 + env.accessTtlSec)
    (refreshLasts :
      span.closes ≤ span.opened + env.refreshTtlDays * 86400000)
    (run : Run (consoleCalls env).poolStep (Timely env span) start events
      final)
    (orderly : Orderly env span userId clientId start)
    (finished : ∀ call ∈ final.calls, call.finished = true) :
    Kept env span final ↔
      Run (consoleCalls env).poolStep
        (fun pool event => Timely env span pool event ∧ Alone pool event)
        start events final := by
  induction run with
  | nil state => exact iff_of_true (orderly.kept finished) (.nil state)
  | @cons pool next final event events timely stepped rest
      inductionHypothesis =>
      rw [Run.cons_iff stepped]
      cases event with
      | start request =>
          obtain rfl := Option.some.inj stepped
          rw [inductionHypothesis orderly.start finished]
          exact (and_iff_right ⟨trivial, trivial⟩).symm
      | abandon index =>
          obtain ⟨call, present, rfl⟩ := Option.map_eq_some_iff.mp stepped
          rw [inductionHypothesis ((Pool.setCall_same present).symm ▸ orderly)
            finished]
          exact (and_iff_right ⟨trivial, trivial⟩).symm
      | advance index input =>
          obtain ⟨call, present, rfl⟩ := Option.map_eq_some_iff.mp stepped
          by_cases alone : Alone pool (.advance index input)
          · have stays := orderly.advance accessLasts refreshLasts timely alone
              present
            rw [inductionHypothesis stays finished]
            exact (and_iff_right ⟨timely, alone⟩).symm
          · have doomed := doomed_of_run rest (orderly.crowded present alone)
            exact iff_of_false (doomed.not_kept finished)
              fun meets => alone meets.1.2

end Runs

/-- For any number of calls of a page whose access token has expired while its
refresh token is live, and every interleaving of their messages: the session is
kept exactly when no answer 401 arrives while another call waits for its
refresh. -/
theorem session_kept_iff
    (env : AuthEnv)
    (span : Span)
    {userId : String}
    {clientId : Option String}
    {site : Site}
    {events : List (PoolEvent Unit ApiInput)}
    {final : Pool Site ApiPhase}
    (expired : ExpiredSession env span userId clientId site)
    (run : Run (consoleCalls env).poolStep (Timely env span) ⟨site, []⟩ events
      final)
    (finished : ∀ call ∈ final.calls, call.finished = true) :
    Kept env span final ↔
      Run (consoleCalls env).poolStep
        (fun pool event => Timely env span pool event ∧ Alone pool event)
        ⟨site, []⟩ events final :=
  expired.orderly.kept_iff expired.accessLasts expired.refreshLasts run finished

/-! ## Two calls -/

/-- The time in which the two calls run. -/
def demoSpan : Span := ⟨1000, 2000⟩

/-- A page whose access token expires when the calls begin. -/
def demoSite : Site where
  page :=
    { access := some ⟨"u1", "a@b.co", none, none, [], none, true, false, 1⟩
      refresh := some "raw0"
      email := some "a@b.co"
      userId := some "u1"
      userName := some "" }
  server := demoSessions oneToken

theorem demoSite_expired :
    ExpiredSession plainEnv demoSpan "u1" none demoSite where
  access := ⟨_, rfl, by decide⟩
  refresh := ⟨"raw0", rfl, by decide, demoToken "k0" "raw0", by
    simp [demoSite, demoSessions, oneToken], rfl, rfl, by decide, rfl, rfl⟩
  admits := by
    intro now _ _
    refine ⟨demoUser, rfl, rfl, by decide, rfl, ?_⟩
    intro tenant client isTenant
    contradiction
  accessLasts := by decide
  refreshLasts := by decide

/-- A message of a call, with what the server would draw. -/
def message (index : Nat) (id raw : String) : PoolEvent Unit ApiInput :=
  .advance index ⟨1500, ⟨id, raw, ""⟩, true⟩

/-- The second call is turned away after the first one has refreshed. -/
def refreshedInTurn : List (PoolEvent Unit ApiInput) :=
  [.start (), .start (), message 0 "k1" "raw1", message 1 "k1" "raw1",
    message 0 "k1" "raw1", message 1 "k1" "raw1", message 0 "k1" "raw1",
    message 0 "k1" "raw1", message 0 "k2" "raw2", message 1 "k2" "raw2",
    message 0 "k2" "raw2", message 0 "k2" "raw2", message 1 "k2" "raw2",
    message 1 "k3" "raw3", message 1 "k3" "raw3", message 1 "k3" "raw3"]

/-- The second call is turned away while the first one waits. -/
def refreshedAtOnce : List (PoolEvent Unit ApiInput) :=
  [.start (), .start (), message 0 "k1" "raw1", message 1 "k1" "raw1",
    message 0 "k1" "raw1", message 1 "k1" "raw1", message 0 "k1" "raw1",
    message 1 "k1" "raw1", message 0 "k1" "raw1", message 1 "k2" "raw2",
    message 0 "k2" "raw2", message 1 "k2" "raw2", message 0 "k2" "raw2",
    message 0 "k2" "raw2"]

theorem session_kept_iff_inTurn :
    ∃ final, Run (consoleCalls plainEnv).poolStep (Timely plainEnv demoSpan)
        ⟨demoSite, []⟩ refreshedInTurn final ∧
      (Kept plainEnv demoSpan final ↔
        Run (consoleCalls plainEnv).poolStep
          (fun pool event =>
            Timely plainEnv demoSpan pool event ∧ Alone pool event)
          ⟨demoSite, []⟩ refreshedInTurn final) := by
  obtain ⟨final, run, ended⟩ := Run.exists_of_execute
    (consoleCalls plainEnv).poolStep
    (fun pool event => decide (Timely plainEnv demoSpan pool event))
    (fun _ _ passed => of_decide_eq_true passed) ⟨demoSite, []⟩
    refreshedInTurn (fun pool => pool.calls.all ApiPhase.finished)
    (by decide +kernel)
  exact ⟨final, run, session_kept_iff plainEnv demoSpan demoSite_expired run
    (List.all_eq_true.mp ended)⟩

/-- Two calls present the refresh token at the same time: the server refuses
one of them, and that one clears the session. -/
theorem parallelCalls_signOut :
    ExpiredSession plainEnv demoSpan "u1" none demoSite ∧
    ∃ final, Run (consoleCalls plainEnv).poolStep (Timely plainEnv demoSpan)
        ⟨demoSite, []⟩ refreshedAtOnce final ∧
      (∀ call ∈ final.calls, call.finished = true) ∧
      final.calls[1]? = some .signedOut ∧ final.data.page.refresh = none ∧
      ¬ Kept plainEnv demoSpan final := by
  refine ⟨demoSite_expired, ?_⟩
  obtain ⟨final, run, cleared⟩ := Run.exists_of_execute
    (consoleCalls plainEnv).poolStep
    (fun pool event => decide (Timely plainEnv demoSpan pool event))
    (fun _ _ passed => of_decide_eq_true passed) ⟨demoSite, []⟩
    refreshedAtOnce
    (fun pool => pool.calls.all ApiPhase.finished &&
      pool.calls[1]?.any ApiPhase.isSignedOut &&
        pool.data.page.refresh.isNone)
    (by decide +kernel)
  simp only [Bool.and_eq_true, Option.isNone_iff_eq_none,
    Option.any_eq_true] at cleared
  obtain ⟨⟨ended, call, present, signedOut⟩, noToken⟩ := cleared
  have isSignedOut : call = .signedOut := by
    cases call <;> first | rfl | contradiction
  subst isSignedOut
  refine ⟨final, run, List.all_eq_true.mp ended, present, noToken, ?_⟩
  intro kept
  obtain ⟨rawToken, isStored, _⟩ := kept.refresh
  rw [noToken] at isStored
  contradiction

end Auth
end EvoPlatform
