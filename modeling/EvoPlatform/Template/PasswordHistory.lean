import EvoPlatform.Foundation.Histories
import EvoPlatform.Template.Passwords

/-!
# Where the passwords of the app template come from

Every hash in the table is the last one that was written for its account, and
each was written by the sign-up of a new address, by someone who knew a password
of the account, or by someone who had a token that was mailed to its address,
once and before it expired.
-/

namespace EvoPlatform
namespace Template

open JsString (ofText)

/-! ## The last hash of an address -/

/-- The last hash that was written for an address. -/
def lastSet (sets : List PasswordSet) (email : String) : Option PasswordSet :=
  sets.reverse.find? fun set => set.email = email

theorem lastSet_append (sets : List PasswordSet) (set : PasswordSet)
    (email : String) :
    lastSet (sets ++ [set]) email =
      if set.email = email then some set else lastSet sets email := by
  rw [lastSet, List.reverse_append, List.reverse_singleton,
    List.singleton_append, List.find?_cons]
  by_cases same : set.email = email <;> simp [same, lastSet]

theorem of_lastSet
    {sets : List PasswordSet}
    {email : String}
    {set : PasswordSet}
    (last : lastSet sets email = some set) :
    set ∈ sets ∧ set.email = email :=
  ⟨List.mem_reverse.mp (List.mem_of_find?_eq_some last),
    by simpa using List.find?_some last⟩

/-! ## What allows a password to be set -/

section Allowed

variable (deployment : Deployment)

/-- A token of this address was deleted by this call before a newer one was
created, and had not expired when the call read the clock. -/
def ResetInTime (commits : List Commit) (who : Nat) (email token : String)
    (now : Int) : Prop :=
  ∃ expires, DeletedInTime commits who ⟨.reset, email, token⟩ expires ∧
    now < expires

/-- What allowed a hash to be written after those before it. -/
def Allowed (commits : List Commit) (before : List PasswordSet)
    (set : PasswordSet) : Prop :=
  match set.source with
  | .signup => ∀ earlier ∈ before, earlier.email ≠ set.email
  | .reset who token now => ResetInTime commits who set.email token now ∧
      ∃ earlier ∈ before, earlier.email = set.email
  | .change current => ∃ earlier ∈ before, earlier.email = set.email ∧
      deployment.bcrypt.compare current earlier.hash = true

/-- A hash is that of a password which the policy accepts. -/
def Screened (set : PasswordSet) : Prop :=
  deployment.newPassword set.password ∧
    ∃ salt, set.hash = deployment.bcrypt.hash salt set.password

/-- No token allows two passwords to be set. -/
def Apart (earlier later : PasswordSet) : Prop :=
  ∀ who token now who' now', earlier.source = .reset who token now →
    later.source ≠ .reset who' token now'

/-- The page reads, from the link of a mail, the address that the mail went to
and a token that was created for it. -/
def MailedTo (commits : List Commit) (mail : ResetMail) : Prop :=
  ∃ token expires,
    (∀ fallback, parseResetLink (locationHash mail.link) fallback =
      some ⟨mail.recipient, token⟩) ∧
    Commit.created .reset mail.recipient token expires ∈ commits

end Allowed

/-! ## Steps of the tokens -/

/-- The arguments of a call of `consumeToken`. -/
def Phase.call : Phase → Consumption
  | .missed call => call
  | .found call _ => call
  | .threw call => call
  | .deleted call _ => call
  | .returned call _ _ => call

section Tokens

variable {hash : String → String} {tokens next : TokenState}
  {event : TokenEvent}

/-- A step adds to what was committed. -/
theorem commits_grow
    (stepped : tokens.step hash event = some next) :
    ∃ more, next.commits = tokens.commits ++ more := by
  cases event <;> simp only [TokenState.step] at stepped <;>
    repeat' split at stepped
  all_goals first
    | contradiction
    | (obtain rfl := Option.some.inj stepped
       first
         | exact ⟨_, rfl⟩
         | exact ⟨[], (List.append_nil _).symm⟩)

/-- A call keeps its arguments from when it looks for its row. -/
theorem call_kept
    (stepped : tokens.step hash event = some next)
    {who : Nat}
    {phase : Phase}
    (stands : next.calls who = some phase) :
    (∃ earlier, tokens.calls who = some earlier ∧
      earlier.call = phase.call) ∨ event = .find who phase.call := by
  -- A call that is turned keeps the arguments of the phase that it was in.
  have turned : ∀ (other : Nat) (earlier later : Phase),
      tokens.calls other = some earlier → earlier.call = later.call →
        (tokens.turn other later).calls who = some phase →
          ∃ earlier, tokens.calls who = some earlier ∧
            earlier.call = phase.call := by
    intro other earlier later before same after
    rw [turn_calls] at after
    split at after
    · rename_i isOther
      obtain rfl := Option.some.inj after
      exact ⟨earlier, isOther ▸ before, same⟩
    · exact ⟨phase, after, rfl⟩
  cases event with
  | create purpose email raw ttlMs now =>
      simp only [TokenState.step] at stepped
      split at stepped
      all_goals
        obtain rfl := Option.some.inj stepped
        exact .inl ⟨phase, stands, rfl⟩
  | find other call =>
      simp only [TokenState.step] at stepped
      split at stepped
      · contradiction
      · obtain rfl := Option.some.inj stepped
        rw [turn_calls] at stands
        split at stands
        · rename_i isOther
          subst isOther
          right
          split at stands
          all_goals
            obtain rfl := Option.some.inj stands
            rfl
        · exact .inl ⟨phase, stands, rfl⟩
  | delete other =>
      simp only [TokenState.step] at stepped
      split at stepped
      · rename_i call row found
        split at stepped
        · obtain rfl := Option.some.inj stepped
          exact .inl (turned other _ (.threw call) found rfl stands)
        · obtain rfl := Option.some.inj stepped
          exact .inl (turned other _ (.deleted call row) found rfl stands)
      · contradiction
  | finish other now =>
      simp only [TokenState.step] at stepped
      split at stepped
      · rename_i call row deleted
        obtain rfl := Option.some.inj stepped
        exact .inl (turned other _ (.returned call now _) deleted rfl stands)
      · contradiction

end Tokens

/-! ## What holds in every state -/

section Invariant

variable (deployment : Deployment)

/-- What a call that has come so far has behind it. -/
def CallBehind (state : PasswordState) (who : Nat) : PasswordCall → Prop
  | .signingUp _ password => deployment.newPassword password
  | .requesting email => email ≠ ""
  | .mailing email raw => email ≠ "" ∧
      ∃ bytes : List UInt8, bytes ≠ [] ∧ raw = rawToken bytes ∧
        ∃ expires, Commit.created .reset email raw expires ∈
          state.tokens.commits
  | .resetting email token password => deployment.newPassword password ∧
      ∀ phase, state.tokens.calls who = some phase →
        phase.call = ⟨.reset, email, token⟩
  | .allowed email token password now => deployment.newPassword password ∧
      ResetInTime state.tokens.commits who email token now
  | .changing userId current next => deployment.newPassword next ∧
      ∃ row ∈ state.users.rows, row.id = userId ∧
        ∃ email, row.standaloneEmail = some email ∧
          ∃ set ∈ state.sets, set.email = email ∧
            deployment.bcrypt.compare current set.hash = true
  | .done => True

structure Sound (state : PasswordState) : Prop where
  tokens : TokensSound deployment.digest state.tokens
  accounts : state.users.Unique User.standaloneEmail
  platform : ∀ row ∈ state.users.rows, row.platformUserId ≠ none →
    row.passwordHash = none
  stored : ∀ row ∈ state.users.rows, ∀ email,
    row.standaloneEmail = some email →
      ∃ set, lastSet state.sets email = some set ∧
        row.passwordHash = some set.hash
  owned : ∀ set ∈ state.sets, ∃ row ∈ state.users.rows,
    row.standaloneEmail = some set.email
  allowed : Backed (fun before set => Screened deployment set ∧
    Allowed deployment state.tokens.commits before set) state.sets
  once : state.sets.Pairwise Apart
  finished : ∀ set ∈ state.sets, ∀ who token now,
    set.source = .reset who token now → state.calls who = some .done
  mailed : ∀ mail ∈ state.mails, MailedTo state.tokens.commits mail
  calls : ∀ who call, state.calls who = some call →
    CallBehind deployment state who call

end Invariant

section Kept

variable {deployment : Deployment} {state next : PasswordState}

theorem ResetInTime.append
    {commits : List Commit}
    {who : Nat}
    {email token : String}
    {now : Int}
    (inTime : ResetInTime commits who email token now)
    (more : List Commit) :
    ResetInTime (commits ++ more) who email token now := by
  obtain ⟨expires, deleted, early⟩ := inTime
  exact ⟨expires, deleted.append more, early⟩

theorem Allowed.append
    {commits : List Commit}
    {before : List PasswordSet}
    {set : PasswordSet}
    (allowed : Allowed deployment commits before set)
    (more : List Commit) :
    Allowed deployment (commits ++ more) before set := by
  cases source : set.source with
  | signup => simpa only [Allowed, source] using allowed
  | reset who token now =>
      simp only [Allowed, source] at allowed ⊢
      exact ⟨allowed.1.append more, allowed.2⟩
  | change current => simpa only [Allowed, source] using allowed

theorem MailedTo.append
    {commits : List Commit}
    {mail : ResetMail}
    (mailed : MailedTo commits mail)
    (more : List Commit) :
    MailedTo (commits ++ more) mail := by
  obtain ⟨token, expires, read, created⟩ := mailed
  exact ⟨token, expires, read, List.mem_append_left more created⟩

/-- What a later state has of an earlier one. -/
structure Grown (state next : PasswordState) : Prop where
  commits : ∃ more, next.tokens.commits = state.tokens.commits ++ more
  rows : ∀ row ∈ state.users.rows, ∀ email,
    row.standaloneEmail = some email →
      ∃ kept ∈ next.users.rows, kept.id = row.id ∧
        kept.standaloneEmail = some email
  sets : ∀ set ∈ state.sets, set ∈ next.sets

theorem CallBehind.grown
    {who : Nat}
    {call : PasswordCall}
    (behind : CallBehind deployment state who call)
    (grown : Grown state next)
    (sameCall : ∀ phase, next.tokens.calls who = some phase →
      ∃ earlier, state.tokens.calls who = some earlier ∧
        earlier.call = phase.call) :
    CallBehind deployment next who call := by
  obtain ⟨more, commits⟩ := grown.commits
  cases call with
  | signingUp email password => exact behind
  | requesting email => exact behind
  | mailing email raw =>
      obtain ⟨isGiven, bytes, drawn, isRaw, expires, created⟩ := behind
      refine ⟨isGiven, bytes, drawn, isRaw, expires, ?_⟩
      rw [commits]
      exact List.mem_append_left more created
  | resetting email token password =>
      refine ⟨behind.1, ?_⟩
      intro phase stands
      obtain ⟨earlier, before, same⟩ := sameCall phase stands
      rw [← same, behind.2 earlier before]
  | allowed email token password now =>
      refine ⟨behind.1, ?_⟩
      rw [commits]
      exact behind.2.append more
  | changing userId current password =>
      obtain ⟨screened, row, present, isUser, email, isAccount, set, isSet,
        sameEmail, verified⟩ := behind
      obtain ⟨kept, keptPresent, sameId, keptAccount⟩ :=
        grown.rows row present email isAccount
      exact ⟨screened, kept, keptPresent, sameId.trans isUser, email,
        keptAccount, set, grown.sets set isSet, sameEmail, verified⟩
  | done => trivial

theorem turned_calls (state : PasswordState) (who : Nat) (call : PasswordCall)
    (other : Nat) :
    (state.turn who call).calls other =
      if other = who then some call else state.calls other :=
  Function.update_apply _ _ _ _

/-- A call that goes on keeps the rest. -/
theorem Sound.turn
    (sound : Sound deployment state)
    {who : Nat}
    {call : PasswordCall}
    (goesOn : state.calls who ≠ some .done ∨ call = .done)
    (behind : CallBehind deployment state who call) :
    Sound deployment (state.turn who call) where
  tokens := sound.tokens
  accounts := sound.accounts
  platform := sound.platform
  stored := sound.stored
  owned := sound.owned
  allowed := sound.allowed
  once := sound.once
  finished := by
    intro set present other token now source
    have isDone := sound.finished set present other token now source
    rw [turned_calls]
    split
    · rename_i same
      subst same
      rcases goesOn with notDone | rfl
      · exact absurd isDone notDone
      · rfl
    · exact isDone
  mailed := sound.mailed
  calls := by
    intro other otherCall stands
    rw [turned_calls] at stands
    split at stands
    · rename_i same
      obtain rfl := Option.some.inj stands
      exact same ▸ behind
    · exact sound.calls other otherCall stands

/-- A step of the tokens keeps the rest. -/
theorem Sound.tokensStep
    (sound : Sound deployment state)
    (event : TokenEvent)
    {tokens : TokenState}
    (noCollision :
      TokenState.NoCollision deployment.digest state.tokens event)
    (unopened : ∀ who call, event = .find who call → state.calls who = none)
    (stepped : state.tokens.step deployment.digest event = some tokens) :
    Sound deployment { state with tokens := tokens } := by
  obtain ⟨more, commits⟩ := commits_grow stepped
  have grown : Grown state { state with tokens := tokens } :=
    { commits := ⟨more, commits⟩
      rows := fun row present email isAccount =>
        ⟨row, present, rfl, isAccount⟩
      sets := fun _ present => present }
  exact
    { tokens := sound.tokens.step noCollision stepped
      accounts := sound.accounts
      platform := sound.platform
      stored := sound.stored
      owned := sound.owned
      allowed := by
        refine Backed.mono sound.allowed ?_
        rintro before set ⟨screened, allowed⟩
        refine ⟨screened, ?_⟩
        rw [commits]
        exact allowed.append more
      once := sound.once
      finished := sound.finished
      mailed := by
        intro mail present
        rw [commits]
        exact (sound.mailed mail present).append more
      calls := by
        intro who call stands
        refine (sound.calls who call stands).grown grown ?_
        intro phase phaseStands
        rcases call_kept stepped phaseStands with kept | isFind
        · exact kept
        · rw [unopened who phase.call isFind] at stands
          contradiction }

/-! ## Hashes that are written -/

/-- Exactly the account of an address gets the hash. -/
structure Written (before after : Users) (set : PasswordSet) : Prop where
  accounts : after.Unique User.standaloneEmail
  platform : ∀ row ∈ after.rows, row.platformUserId ≠ none → row ∈ before.rows
  rows : ∀ row ∈ after.rows, ∀ email, row.standaloneEmail = some email →
    (email = set.email ∧ row.passwordHash = some set.hash) ∨
      (email ≠ set.email ∧ row ∈ before.rows)
  kept : ∀ row ∈ before.rows, ∀ email, row.standaloneEmail = some email →
    ∃ kept ∈ after.rows, kept.id = row.id ∧ kept.standaloneEmail = some email
  owned : ∃ row ∈ after.rows, row.standaloneEmail = some set.email

/-- A hash that is allowed is written, and its call is done. -/
theorem Sound.write
    (sound : Sound deployment state)
    {who : Nat}
    {users : Users}
    {set : PasswordSet}
    (written : Written state.users users set)
    (screened : Screened deployment set)
    (allowed : Allowed deployment state.tokens.commits state.sets set)
    (apart : ∀ earlier ∈ state.sets, Apart earlier set)
    (caller : ∀ other token now, set.source = .reset other token now →
      other = who) :
    Sound deployment ((state.write users set).turn who .done) := by
  have grown : Grown state ((state.write users set).turn who .done) :=
    { commits := ⟨[], (List.append_nil _).symm⟩
      rows := written.kept
      sets := fun _ present => List.mem_append_left _ present }
  refine
    { tokens := sound.tokens
      accounts := written.accounts
      platform := fun row present isPlatform =>
        sound.platform row (written.platform row present isPlatform) isPlatform
      stored := ?_
      owned := ?_
      allowed := sound.allowed.concat ⟨screened, allowed⟩
      once := ?_
      finished := ?_
      mailed := sound.mailed
      calls := ?_ }
  · intro row present email isAccount
    change ∃ last, lastSet (state.sets ++ [set]) email = some last ∧ _
    rw [lastSet_append]
    rcases written.rows row present email isAccount with
      ⟨sameEmail, hash⟩ | ⟨otherEmail, old⟩
    · exact ⟨set, if_pos sameEmail.symm, hash⟩
    · rw [if_neg (Ne.symm otherEmail)]
      exact sound.stored row old email isAccount
  · intro earlier present
    rcases List.mem_append.mp present with old | new
    · obtain ⟨row, rowPresent, isAccount⟩ := sound.owned earlier old
      obtain ⟨kept, keptPresent, _, keptAccount⟩ :=
        written.kept row rowPresent _ isAccount
      exact ⟨kept, keptPresent, keptAccount⟩
    · rw [List.mem_singleton.mp new]
      exact written.owned
  · refine List.pairwise_append.mpr
      ⟨sound.once, List.pairwise_singleton Apart set, ?_⟩
    intro earlier present last isLast
    rw [List.mem_singleton.mp isLast]
    exact apart earlier present
  · intro earlier present other token now source
    rw [turned_calls]
    rcases List.mem_append.mp present with old | new
    · split
      · rfl
      · exact sound.finished earlier old other token now source
    · rw [List.mem_singleton.mp new] at source
      rw [if_pos (caller other token now source)]
  · intro other call stands
    rw [turned_calls] at stands
    split at stands
    · obtain rfl := Option.some.inj stands
      trivial
    · exact (sound.calls other call stands).grown grown
        fun phase phaseStands => ⟨phase, phaseStands, rfl⟩

/-- The account of an address. -/
theorem Sound.account_eq_some_iff
    (sound : Sound deployment state)
    (email : String)
    (row : User) :
    state.users.account email = some row ↔
      row ∈ state.users.rows ∧ row.standaloneEmail = some email :=
  sound.accounts.findBy_eq_some_iff email row

theorem standaloneEmail_eq_some_iff (user : User) (email : String) :
    user.standaloneEmail = some email ↔
      user.platformUserId = none ∧ user.email = email := by
  rw [User.standaloneEmail]
  split
  · rename_i isOwn
    simp [isOwn]
  · rename_i isPlatform
    simp [isPlatform]

/-- A new account is written. -/
theorem Sound.written_new
    (sound : Sound deployment state)
    {id email hash : String}
    (newId : state.users.find? id = none)
    (newEmail : state.users.account email = none)
    {set : PasswordSet}
    (sameEmail : set.email = email)
    (sameHash : set.hash = hash) :
    Written state.users (state.users.put ⟨id, none, email, some hash⟩) set := by
  have isNew : ∀ row ∈ state.users.rows, row.id ≠ id := by
    intro row present sameId
    have found := state.users.find?_of_mem present
    rw [sameId, newId] at found
    contradiction
  have isFree := Table.findBy_eq_none_iff.mp newEmail
  have isAccount : User.standaloneEmail ⟨id, none, email, some hash⟩ =
      some email := rfl
  refine
    { accounts := sound.accounts.put _ ?_
      platform := ?_
      rows := ?_
      kept := ?_
      owned := ?_ }
  · rintro ⟨other, present, _, _, sameAccount⟩
    exact isFree other present (sameAccount.trans isAccount)
  · intro row present isPlatform
    rcases (state.users.mem_put_iff _ row).mp present with rfl | ⟨old, _⟩
    · exact absurd rfl isPlatform
    · exact old
  · intro row present other ofOther
    rcases (state.users.mem_put_iff _ row).mp present with rfl | ⟨old, _⟩
    · exact .inl ⟨((Option.some.inj ofOther).symm).trans sameEmail.symm,
        congrArg some sameHash.symm⟩
    · refine .inr ⟨?_, old⟩
      rintro rfl
      exact isFree row old (ofOther.trans (congrArg some sameEmail))
  · intro row present other ofOther
    exact ⟨row, (state.users.mem_put_iff _ row).mpr
      (.inr ⟨present, isNew row present⟩), rfl, ofOther⟩
  · exact ⟨_, (state.users.mem_put_iff _ _).mpr (.inl rfl),
      sameEmail ▸ isAccount⟩

/-- The hash of a stored account is written. -/
theorem Sound.written_put
    (sound : Sound deployment state)
    {row : User}
    (present : row ∈ state.users.rows)
    {set : PasswordSet}
    {hash : String}
    (isAccount : row.standaloneEmail = some set.email)
    (sameHash : set.hash = hash) :
    Written state.users (state.users.put (row.setHash hash)) set := by
  have isOwn := ((standaloneEmail_eq_some_iff row _).mp isAccount).1
  refine
    { accounts := sound.accounts.put _
        (sound.accounts.not_heldElsewhere present rfl rfl)
      platform := ?_
      rows := ?_
      kept := ?_
      owned := ⟨_, (state.users.mem_put_iff _ _).mpr (.inl rfl), isAccount⟩ }
  · intro other otherPresent isPlatform
    rcases (state.users.mem_put_iff _ other).mp otherPresent with
      rfl | ⟨old, _⟩
    · exact absurd isOwn isPlatform
    · exact old
  · intro other otherPresent email ofEmail
    rcases (state.users.mem_put_iff _ other).mp otherPresent with
      rfl | ⟨old, different⟩
    · exact .inl ⟨Option.some.inj (ofEmail.symm.trans isAccount),
        congrArg some sameHash.symm⟩
    · refine .inr ⟨?_, old⟩
      rintro rfl
      have same := sound.accounts other old row present _ ofEmail isAccount
      exact different (congrArg User.id same : other.id = row.id)
  · intro other old email ofEmail
    by_cases sameId : other.id = row.id
    · obtain rfl : other = row := by
        have found := state.users.find?_of_mem old
        rw [sameId, state.users.find?_of_mem present] at found
        exact (Option.some.inj found).symm
      exact ⟨_, (state.users.mem_put_iff _ _).mpr (.inl rfl), rfl, ofEmail⟩
    · exact ⟨other, (state.users.mem_put_iff _ other).mpr
        (.inr ⟨old, sameId⟩), rfl, ofEmail⟩

/-- `updateMany` writes the row of the only account. -/
theorem Sound.updateMany_eq
    (sound : Sound deployment state)
    {email : String}
    {row : User}
    (found : state.users.account email = some row)
    (hash : String) :
    ∀ other, other ∈ (state.users.updateMany email hash).rows ↔
      other ∈ (state.users.put (row.setHash hash)).rows := by
  obtain ⟨present, isAccount⟩ := (sound.account_eq_some_iff email row).mp found
  intro other
  rw [Table.mem_put_iff, Users.updateMany, Table.mapRows, List.mem_map]
  constructor
  · rintro ⟨old, oldPresent, rfl⟩
    split
    · rename_i ofEmail
      rw [sound.accounts old oldPresent row present email ofEmail isAccount]
      exact .inl rfl
    · rename_i otherEmail
      refine .inr ⟨oldPresent, ?_⟩
      intro sameId
      have same := state.users.find?_of_mem oldPresent
      rw [show old.id = row.id from sameId,
        state.users.find?_of_mem present] at same
      rw [← Option.some.inj same] at otherEmail
      exact otherEmail isAccount
  · rintro (rfl | ⟨old, different⟩)
    · exact ⟨row, present, if_pos isAccount⟩
    · refine ⟨other, old, if_neg ?_⟩
      intro ofEmail
      have same :=
        sound.accounts other old row present email ofEmail isAccount
      exact different (congrArg User.id same : other.id = row.id)

/-- `updateMany` writes a hash. -/
theorem Sound.written_updateMany
    (sound : Sound deployment state)
    {set : PasswordSet}
    {email hash : String}
    (found : (state.users.account email).isSome = true)
    (sameEmail : set.email = email)
    (sameHash : set.hash = hash) :
    Written state.users (state.users.updateMany email hash) set := by
  obtain ⟨row, isRow⟩ := Option.isSome_iff_exists.mp found
  obtain ⟨present, isAccount⟩ :=
    (sound.account_eq_some_iff email row).mp isRow
  have same := sound.updateMany_eq isRow hash
  have written := sound.written_put present
    (isAccount.trans (congrArg some sameEmail.symm)) sameHash
  exact
    { accounts := fun left leftPresent right rightPresent =>
        written.accounts left ((same left).mp leftPresent)
          right ((same right).mp rightPresent)
      platform := fun other present =>
        written.platform other ((same other).mp present)
      rows := fun other present => written.rows other ((same other).mp present)
      kept := by
        intro other old email ofEmail
        obtain ⟨kept, keptPresent, rest⟩ := written.kept other old email ofEmail
        exact ⟨kept, (same kept).mpr keptPresent, rest⟩
      owned := by
        obtain ⟨owner, ownerPresent, owns⟩ := written.owned
        exact ⟨owner, (same owner).mpr ownerPresent, owns⟩ }

/-- The row of a platform user is stored, over none of the app's own. -/
theorem Sound.putPlatform
    (sound : Sound deployment state)
    (row : User)
    (isPlatform : row.platformUserId ≠ none)
    (noHash : row.passwordHash = none)
    (displaced : ∀ other ∈ state.users.rows, other.id = row.id →
      other.platformUserId ≠ none) :
    Sound deployment { state with users := state.users.put row } := by
  have noAccount : row.standaloneEmail = none := if_neg isPlatform
  have members := state.users.mem_put_iff row
  have kept : ∀ other ∈ state.users.rows, ∀ email,
      other.standaloneEmail = some email →
        other ∈ (state.users.put row).rows := by
    intro other present email ofEmail
    refine (members other).mpr (.inr ⟨present, ?_⟩)
    intro sameId
    exact displaced other present sameId
      ((standaloneEmail_eq_some_iff other email).mp ofEmail).1
  have ofRow : ∀ other ∈ (state.users.put row).rows, ∀ email,
      other.standaloneEmail = some email → other ∈ state.users.rows := by
    intro other present email ofEmail
    rcases (members other).mp present with rfl | ⟨old, _⟩
    · rw [noAccount] at ofEmail
      contradiction
    · exact old
  have grown : Grown state { state with users := state.users.put row } :=
    { commits := ⟨[], (List.append_nil _).symm⟩
      rows := fun other present email ofEmail =>
        ⟨other, kept other present email ofEmail, rfl, ofEmail⟩
      sets := fun _ present => present }
  exact
    { tokens := sound.tokens
      accounts := fun left leftPresent right rightPresent value leftIs rightIs =>
        sound.accounts left (ofRow left leftPresent value leftIs)
          right (ofRow right rightPresent value rightIs) value leftIs rightIs
      platform := by
        intro other present otherPlatform
        rcases (members other).mp present with rfl | ⟨old, _⟩
        · exact noHash
        · exact sound.platform other old otherPlatform
      stored := fun other present email ofEmail =>
        sound.stored other (ofRow other present email ofEmail) email ofEmail
      owned := by
        intro set present
        obtain ⟨owner, ownerPresent, owns⟩ := sound.owned set present
        exact ⟨owner, kept owner ownerPresent _ owns, owns⟩
      allowed := sound.allowed
      once := sound.once
      finished := sound.finished
      mailed := sound.mailed
      calls := fun who call stands =>
        (sound.calls who call stands).grown grown
          fun phase phaseStands => ⟨phase, phaseStands, rfl⟩ }

/-! ## Each statement -/

theorem newPassword_of_signupForm
    {form : SignupForm}
    {email : String}
    {password : JsString}
    (parsed : form.parse deployment = some (email, password)) :
    deployment.newPassword password := by
  rw [SignupForm.parse] at parsed
  split at parsed
  · rename_i accepted
    obtain ⟨_, _, same⟩ := Option.map_eq_some_iff.mp parsed
    obtain ⟨rfl, rfl⟩ := Prod.mk.inj same
    exact accepted.2.2
  · contradiction

theorem of_resetForm
    {form : ResetForm}
    {email token : String}
    {password : JsString}
    (parsed : form.parse deployment = some (email, token, password)) :
    deployment.newPassword password ∧ token = form.token := by
  rw [ResetForm.parse] at parsed
  split at parsed
  · rename_i accepted
    obtain ⟨_, _, same⟩ := Option.map_eq_some_iff.mp parsed
    obtain ⟨rfl, rfl, rfl⟩ := same
    exact ⟨accepted.2.1, rfl⟩
  · contradiction

theorem newPassword_of_changeForm
    {form : ChangeForm}
    {current next : JsString}
    (parsed : form.parse deployment = some (current, next)) :
    deployment.newPassword next := by
  rw [ChangeForm.parse] at parsed
  split at parsed
  · rename_i accepted
    obtain ⟨rfl, rfl⟩ := Prod.mk.inj (Option.some.inj parsed)
    exact accepted.2.1
  · contradiction

/-- A call that begins has behind it what its first statement has seen. -/
theorem Sound.opens
    (sound : Sound deployment state)
    {who : Nat}
    {call : PasswordCall}
    (behind : CallBehind deployment state who call)
    (stepped : state.opens who call = some next) :
    Sound deployment next := by
  rw [PasswordState.opens] at stepped
  split at stepped
  · contradiction
  · rename_i unopened
    obtain rfl := Option.some.inj stepped
    exact sound.turn (.inl (by simp [unopened])) behind

theorem behind_signup (form : SignupForm) (who : Nat) :
    CallBehind deployment state who (state.signup deployment form) := by
  rw [PasswordState.signup]
  split
  · trivial
  · rename_i email password parsed
    split
    · trivial
    · exact newPassword_of_signupForm parsed

theorem behind_requestPasswordReset
    (addressed : ∀ text email, deployment.parseEmail text = some email →
      email ≠ "")
    (email : String)
    (who : Nat) :
    CallBehind deployment state who
      (state.requestPasswordReset deployment email) := by
  rw [PasswordState.requestPasswordReset]
  split
  · trivial
  · rename_i address parsed
    split
    · trivial
    · exact addressed email address parsed

/-- Who shows a password that verifies knows one that was set. -/
theorem Sound.behind_changePassword
    (sound : Sound deployment state)
    (userId : String)
    (form : ChangeForm)
    (who : Nat) :
    CallBehind deployment state who
      (state.changePassword deployment userId form) := by
  rw [PasswordState.changePassword]
  split
  · trivial
  · rename_i current password parsed
    split
    · trivial
    · rename_i hash isHash
      split
      · rename_i verified
        obtain ⟨row, found, rowHash⟩ := Option.bind_eq_some_iff.mp isHash
        have present := state.users.mem_of_find? found
        have isOwn : row.platformUserId = none := by
          by_contra isPlatform
          rw [sound.platform row present isPlatform] at rowHash
          contradiction
        have isAccount : row.standaloneEmail = some row.email :=
          (standaloneEmail_eq_some_iff row _).mpr ⟨isOwn, rfl⟩
        obtain ⟨set, last, setHash⟩ := sound.stored row present _ isAccount
        obtain ⟨isSet, sameEmail⟩ := of_lastSet last
        have sameHash : set.hash = hash :=
          Option.some.inj (setHash.symm.trans rowHash)
        exact ⟨newPassword_of_changeForm parsed, row, present,
          state.users.key_of_find? found, row.email, isAccount, set, isSet,
          sameEmail, sameHash ▸ verified.2⟩
      · trivial

/-- The transaction of `signup` opens the account of a new address. -/
theorem Sound.createUser
    (sound : Sound deployment state)
    {who : Nat}
    {email : String}
    {password : JsString}
    (screened : deployment.newPassword password)
    (id salt : String) :
    Sound deployment
      ((state.createUser deployment email password id salt).turn who .done) := by
  rw [PasswordState.createUser]
  split
  · exact sound.turn (.inr rfl) trivial
  · rename_i isFree
    rw [not_or, Bool.not_eq_true, Bool.not_eq_true, Option.isSome_eq_false_iff,
      Option.isSome_eq_false_iff, Option.isNone_iff_eq_none,
      Option.isNone_iff_eq_none] at isFree
    refine sound.write (sound.written_new isFree.1 isFree.2 rfl rfl)
      ⟨screened, salt, rfl⟩ ?_ ?_ ?_
    · intro earlier present sameEmail
      obtain ⟨row, rowPresent, isAccount⟩ := sound.owned earlier present
      exact Table.findBy_eq_none_iff.mp isFree.2 row rowPresent
        (isAccount.trans (congrArg some sameEmail))
    · intro earlier _ other token now other' now' _ source
      contradiction
    · intro other token now source
      contradiction

/-- `createToken` is followed by a mail to the address. -/
theorem Sound.createToken
    (sound : Sound deployment state)
    {who : Nat}
    {email : String}
    {bytes : List UInt8}
    {now : Int}
    (stands : state.calls who = some (.requesting email))
    (drawn : bytes.length = 32)
    (fresh : ∀ purpose other raw expires,
      Commit.created purpose other raw expires ∈ state.tokens.commits →
        deployment.digest (rawToken bytes) ≠ deployment.digest raw)
    (stepped : state.createToken deployment who email bytes now = some next) :
    Sound deployment next := by
  have isGiven : email ≠ "" := sound.calls who _ stands
  have notDone : state.calls who ≠ some .done := by simp [stands]
  rw [PasswordState.createToken] at stepped
  split at stepped
  · obtain rfl := Option.some.inj stepped
    exact sound.turn (.inr rfl) trivial
  · rename_i rows replaced
    obtain ⟨tokens, created, rfl⟩ := Option.map_eq_some_iff.mp stepped
    have kept := sound.tokensStep (.create .reset email
      (rawToken bytes) resetTtlMs now) fresh (by simp) created
    refine kept.turn (.inl notDone) ⟨isGiven, bytes, ?_, rfl,
      now + resetTtlMs, ?_⟩
    · rintro rfl
      contradiction
    · simp only [TokenState.step, replaced, Option.some.injEq] at created
      rw [← created]
      exact List.mem_append_right _ List.mem_cons_self

/-- A mail carries the token to the address that it was created for. -/
theorem Sound.sendMail
    (sound : Sound deployment state)
    (noFragment : '#' ∉ (appBaseUrl deployment.authUrl).toList)
    {who : Nat}
    {email raw : String}
    (stands : state.calls who = some (.mailing email raw)) :
    Sound deployment { state.turn who .done with
      mails := state.mails ++
        [⟨email, resetLink (appBaseUrl deployment.authUrl) email raw⟩] } := by
  obtain ⟨isGiven, bytes, drawn, rfl, expires, created⟩ :=
    sound.calls who _ stands
  have done : Sound deployment (state.turn who .done) :=
    sound.turn (.inr rfl) trivial
  exact
    { tokens := done.tokens
      accounts := done.accounts
      platform := done.platform
      stored := done.stored
      owned := done.owned
      allowed := done.allowed
      once := done.once
      finished := done.finished
      mailed := by
        intro mail present
        rcases List.mem_append.mp present with old | new
        · exact sound.mailed mail old
        · rw [List.mem_singleton.mp new]
          exact ⟨rawToken bytes, expires,
            parseResetLink_resetLink noFragment isGiven drawn, created⟩
      calls := done.calls }

/-- `resetPassword` looks for the token that was sent in. -/
theorem Sound.resetPassword
    (sound : Sound deployment state)
    {who : Nat}
    {email token : String}
    {password : JsString}
    {tokens : TokenState}
    (unopened : state.calls who = none)
    (screened : deployment.newPassword password)
    (noCollision : ∀ purpose other raw expires,
      Commit.created purpose other raw expires ∈ state.tokens.commits →
        deployment.digest token = deployment.digest raw → token = raw)
    (stepped : state.tokens.step deployment.digest
      (.find who ⟨.reset, email, token⟩) = some tokens) :
    Sound deployment ({ state with tokens := tokens }.turn who
      (.resetting email token password)) := by
  have isCaller : ∀ other call,
      TokenEvent.find who ⟨.reset, email, token⟩ = .find other call →
        state.calls other = none := by
    intro other call same
    obtain ⟨rfl, _⟩ := TokenEvent.find.inj same
    exact unopened
  refine (sound.tokensStep (.find who ⟨.reset, email, token⟩)
    noCollision isCaller stepped).turn
    (.inl (by simp [unopened])) ⟨screened, ?_⟩
  intro phase stands
  rcases call_kept stepped stands with ⟨earlier, before, _⟩ | isFind
  · simp [TokenState.step, before] at stepped
  · exact (TokenEvent.find.inj isFind).2.symm

/-- A call that read the clock has compared it with the expiry of its token. -/
theorem Sound.checkToken
    (sound : Sound deployment state)
    {who : Nat}
    {email token : String}
    {password : JsString}
    {now : Int}
    {tokens : TokenState}
    (stands : state.calls who = some (.resetting email token password))
    (stepped : state.tokens.step deployment.digest (.finish who now) =
      some tokens) :
    Sound deployment ({ state with tokens := tokens }.turn who
      (if PasswordState.answered tokens who then
        .allowed email token password now
      else .done)) := by
  obtain ⟨screened, sameCall⟩ := sound.calls who _ stands
  have kept := sound.tokensStep (.finish who now) trivial (by simp)
    stepped
  refine kept.turn (.inl (by simp [stands])) ?_
  split
  · rename_i accepted
    simp only [TokenState.step] at stepped
    split at stepped
    · rename_i call row deleted
      obtain rfl := Option.some.inj stepped
      have isCall : call = ⟨.reset, email, token⟩ := sameCall _ deleted
      subst isCall
      have returned := turn_calls state.tokens who
        (.returned ⟨.reset, email, token⟩ now (now < row.expires)) who
      rw [if_pos rfl] at returned
      rw [PasswordState.answered, returned] at accepted
      exact ⟨screened, kept.tokens.calls who _ returned accepted⟩
    · contradiction
  · trivial

/-- `updateMany` writes a hash for a token that has allowed none before. -/
theorem Sound.updatePassword
    (sound : Sound deployment state)
    {who : Nat}
    {email token : String}
    {password : JsString}
    {now : Int}
    (stands : state.calls who = some (.allowed email token password now))
    (salt : String) :
    Sound deployment ((state.updatePassword deployment who email token password
      now salt).turn who .done) := by
  obtain ⟨screened, inTime⟩ := sound.calls who _ stands
  rw [PasswordState.updatePassword]
  split
  · rename_i isAccount
    refine sound.write (sound.written_updateMany isAccount rfl rfl)
      ⟨screened, salt, rfl⟩ ⟨inTime, ?_⟩ ?_ ?_
    · obtain ⟨row, found⟩ := Option.isSome_iff_exists.mp isAccount
      obtain ⟨present, ofEmail⟩ := (sound.account_eq_some_iff email row).mp found
      obtain ⟨set, last, _⟩ := sound.stored row present email ofEmail
      exact ⟨set, of_lastSet last⟩
    · intro earlier present other used now' other' now'' source same
      obtain ⟨rfl, rfl, rfl⟩ := SetBy.reset.inj same
      obtain ⟨before, _, _, allowed⟩ := sound.allowed.exists_of_mem present
      simp only [Allowed, source] at allowed
      obtain ⟨⟨_, earlierDeleted, _⟩, _⟩ := allowed
      obtain ⟨_, deleted, _⟩ := inTime
      obtain rfl := sound.tokens.once _ _ _ _ earlierDeleted.deleted
        deleted.deleted rfl
      rw [sound.finished earlier present _ _ _ source] at stands
      cases Option.some.inj stands
    · intro other used now' source
      exact (SetBy.reset.inj source).1.symm
  · exact sound.turn (.inr rfl) trivial

/-- `changePassword` writes a hash for an account of which a password was
known. -/
theorem Sound.changeHash
    (sound : Sound deployment state)
    {who : Nat}
    {userId : String}
    {current password : JsString}
    (stands : state.calls who = some (.changing userId current password))
    (salt : String) :
    Sound deployment ((state.changeHash deployment userId current password
      salt).turn who .done) := by
  obtain ⟨screened, row, present, rfl, email, isAccount, known⟩ :=
    sound.calls who _ stands
  obtain ⟨isOwn, rfl⟩ := (standaloneEmail_eq_some_iff row email).mp isAccount
  rw [PasswordState.changeHash, state.users.find?_of_mem present]
  refine sound.write (sound.written_put present isAccount rfl)
    ⟨screened, salt, rfl⟩ known ?_ ?_
  · intro earlier _ other token now other' now' _ source
    contradiction
  · intro other token now source
    contradiction

/-- The row of a platform user gets no hash. -/
theorem Sound.provision
    (sound : Sound deployment state)
    (subject email id : String) :
    Sound deployment (state.provision subject email id) := by
  rw [PasswordState.provision]
  split
  · rename_i row found
    obtain ⟨present, isSubject⟩ := Table.mem_of_findBy found
    have isPlatform : row.platformUserId ≠ none := by simp [isSubject]
    refine sound.putPlatform { row with email := email } isPlatform
      (sound.platform row present isPlatform) ?_
    intro other otherPresent sameId
    have same := state.users.find?_of_mem otherPresent
    rw [show other.id = row.id from sameId,
      state.users.find?_of_mem present] at same
    rw [← Option.some.inj same]
    exact isPlatform
  · split
    · exact sound
    · rename_i isFree
      refine sound.putPlatform ⟨id, some subject, email, none⟩ (by simp) rfl ?_
      intro other present sameId
      have found := state.users.find?_of_mem present
      rw [show other.id = id from sameId] at found
      simp [found] at isFree

/-- Every statement keeps what holds. -/
theorem Sound.step
    (sound : Sound deployment state)
    (addressed : ∀ text email, deployment.parseEmail text = some email →
      email ≠ "")
    (noFragment : '#' ∉ (appBaseUrl deployment.authUrl).toList)
    {event : PasswordEvent}
    (admissible : PasswordState.Admissible deployment state event)
    (stepped : state.step deployment event = some next) :
    Sound deployment next := by
  cases event with
  | signup who form => exact sound.opens (behind_signup form who) stepped
  | createUser who id salt =>
      simp only [PasswordState.step] at stepped
      split at stepped
      · rename_i email password stands
        obtain rfl := Option.some.inj stepped
        exact sound.createUser (sound.calls who _ stands) id salt
      · contradiction
  | requestPasswordReset who email =>
      exact sound.opens (behind_requestPasswordReset addressed email who) stepped
  | createToken who bytes now =>
      simp only [PasswordState.step] at stepped
      split at stepped
      · rename_i email stands
        exact sound.createToken stands admissible.1 admissible.2 stepped
      · contradiction
  | sendMail who =>
      simp only [PasswordState.step] at stepped
      split at stepped
      · rename_i email raw stands
        obtain rfl := Option.some.inj stepped
        exact sound.sendMail noFragment stands
      · contradiction
  | resetPassword who form =>
      simp only [PasswordState.step] at stepped
      split at stepped
      · contradiction
      · rename_i unopened
        split at stepped
        · obtain rfl := Option.some.inj stepped
          exact sound.turn (.inr rfl) trivial
        · rename_i email token password parsed
          obtain ⟨screened, rfl⟩ := of_resetForm parsed
          obtain ⟨tokens, found, rfl⟩ := Option.map_eq_some_iff.mp stepped
          exact sound.resetPassword unopened screened admissible found
  | deleteToken who =>
      simp only [PasswordState.step] at stepped
      split at stepped
      · obtain ⟨tokens, deleted, rfl⟩ := Option.map_eq_some_iff.mp stepped
        exact sound.tokensStep (.delete who) trivial (by simp) deleted
      · contradiction
  | checkToken who now =>
      simp only [PasswordState.step] at stepped
      split at stepped
      · rename_i email token password stands
        obtain ⟨tokens, compared, rfl⟩ := Option.map_eq_some_iff.mp stepped
        exact sound.checkToken stands compared
      · contradiction
  | updatePassword who salt =>
      simp only [PasswordState.step] at stepped
      split at stepped
      · rename_i email token password now stands
        obtain rfl := Option.some.inj stepped
        exact sound.updatePassword stands salt
      · contradiction
  | changePassword who userId form =>
      exact sound.opens (sound.behind_changePassword userId form who) stepped
  | changeHash who salt =>
      simp only [PasswordState.step] at stepped
      split at stepped
      · rename_i userId current password stands
        obtain rfl := Option.some.inj stepped
        exact sound.changeHash stands salt
      · contradiction
  | provision subject email id =>
      obtain rfl := Option.some.inj stepped
      exact sound.provision subject email id
  | abandon who =>
      obtain rfl := Option.some.inj stepped
      exact sound.turn (.inr rfl) trivial

theorem sound_start : Sound deployment .start where
  tokens := tokensSound_start
  accounts := Table.unique_empty _
  platform := fun _ present => absurd present List.not_mem_nil
  stored := fun _ present => absurd present List.not_mem_nil
  owned := fun _ present => absurd present List.not_mem_nil
  allowed := Backed.nil
  once := List.Pairwise.nil
  finished := fun _ present => absurd present List.not_mem_nil
  mailed := fun _ present => absurd present List.not_mem_nil
  calls := by
    intro who call stands
    contradiction

/-! ## The history of the passwords -/

/-- The last hash that was written for an address decides who is let in. -/
theorem Sound.authorize_iff
    (sound : Sound deployment state)
    (email : String)
    (password : JsString) :
    (authorize deployment state.users email password).isSome = true ↔
      email ≠ "" ∧ password ≠ [] ∧
        ∃ set, lastSet state.sets email = some set ∧
          deployment.bcrypt.compare password set.hash = true := by
  rw [authorize]
  split
  · rename_i isMissing
    constructor
    · intro admitted
      contradiction
    · rintro ⟨isGiven, isPassword, _⟩
      exact absurd isMissing (not_or.mpr ⟨isGiven, isPassword⟩)
  · rename_i given
    obtain ⟨isGiven, isPassword⟩ := not_or.mp given
    constructor
    · intro admitted
      obtain ⟨row, found⟩ := Option.isSome_iff_exists.mp admitted
      obtain ⟨isAccount, verified⟩ := Option.filter_eq_some_iff.mp found
      obtain ⟨present, ofEmail⟩ :=
        (sound.account_eq_some_iff email row).mp isAccount
      obtain ⟨set, last, isHash⟩ := sound.stored row present email ofEmail
      rw [isHash] at verified
      exact ⟨isGiven, isPassword, set, last,
        (Bool.and_eq_true_iff.mp verified).2⟩
    · rintro ⟨_, _, set, last, verified⟩
      obtain ⟨isSet, rfl⟩ := of_lastSet last
      obtain ⟨row, present, ofEmail⟩ := sound.owned set isSet
      obtain ⟨other, lastOther, isHash⟩ := sound.stored row present _ ofEmail
      obtain rfl := Option.some.inj (last.symm.trans lastOther)
      obtain ⟨_, _, ⟨_, salt, hashed⟩, _⟩ := sound.allowed.exists_of_mem isSet
      have isHashed : set.hash ≠ "" := by
        rw [hashed]
        exact deployment.bcrypt.hash_ne_empty salt set.password
      rw [(sound.account_eq_some_iff set.email row).mpr ⟨present, ofEmail⟩,
        Option.filter_some, isHash]
      simp [isHashed, verified]

end Kept

/-- Who is let in, and why. -/
structure Accounted (deployment : Deployment) (state : PasswordState) :
    Prop where
  /-- The app has no password of a platform user. -/
  platform : ∀ row ∈ state.users.rows, row.platformUserId ≠ none →
    row.passwordHash = none
  /-- The last hash that was written for an address decides. -/
  admitted : ∀ email password,
    (authorize deployment state.users email password).isSome = true ↔
      email ≠ "" ∧ password ≠ [] ∧
        ∃ set, lastSet state.sets email = some set ∧
          deployment.bcrypt.compare password set.hash = true
  /-- Each hash was allowed by what came before it. -/
  allowed : ∀ before set after, state.sets = before ++ set :: after →
    Screened deployment set ∧
      Allowed deployment state.tokens.commits before set
  once : state.sets.Pairwise Apart
  /-- The page reads a token from each mail that allows nobody else to set a
  password than who reads the mails of its account. -/
  mailed : ∀ mail ∈ state.mails, ∃ token,
    (∀ fallback, parseResetLink (locationHash mail.link) fallback =
      some ⟨mail.recipient, token⟩) ∧
    ∀ set ∈ state.sets, ∀ who now, set.source = .reset who token now →
      set.email = mail.recipient

/-- In whatever order the statements of any number of calls come, the passwords
of the accounts are accounted for. -/
theorem passwords_accounted
    (deployment : Deployment)
    (addressed : ∀ text email, deployment.parseEmail text = some email →
      email ≠ "")
    (noFragment : '#' ∉ (appBaseUrl deployment.authUrl).toList)
    {events : List PasswordEvent}
    {final : PasswordState}
    (run : Run (PasswordState.step deployment)
      (PasswordState.Admissible deployment) .start events final) :
    Accounted deployment final := by
  have sound : Sound deployment final :=
    run.invariant (Sound deployment)
      (fun _ _ _ sound admissible stepped =>
        sound.step addressed noFragment admissible stepped)
      sound_start
  refine
    { platform := sound.platform
      admitted := sound.authorize_iff
      allowed := sound.allowed
      once := sound.once
      mailed := ?_ }
  intro mail present
  obtain ⟨token, expires, read, created⟩ := sound.mailed mail present
  refine ⟨token, read, ?_⟩
  intro set isSet who now source
  obtain ⟨before, _, _, allowed⟩ := sound.allowed.exists_of_mem isSet
  simp only [Allowed, source] at allowed
  obtain ⟨⟨_, deleted, _⟩, _⟩ := allowed
  obtain ⟨_, sameEmail, _⟩ := sound.tokens.createdOnce _ _ _ _ _ _ _ _
    deleted.created created rfl
  exact sameEmail

/-! ## A forgotten password -/

/-- `Admissible`, as a test. -/
def meetsAdmissible (deployment : Deployment) (state : PasswordState) :
    PasswordEvent → Bool
  | .createToken _ bytes _ => bytes.length = 32 &&
      state.tokens.commits.all fun
        | .created _ _ other _ =>
            deployment.digest (rawToken bytes) ≠ deployment.digest other
        | .deleted _ _ => true
  | .resetPassword _ form => state.tokens.commits.all fun
      | .created _ _ other _ =>
          deployment.digest form.token ≠ deployment.digest other ||
            form.token = other
      | .deleted _ _ => true
  | _ => true

theorem admissible_of_meets
    {deployment : Deployment}
    {state : PasswordState}
    {event : PasswordEvent}
    (meets : meetsAdmissible deployment state event = true) :
    PasswordState.Admissible deployment state event := by
  cases event with
  | createToken who bytes now =>
      obtain ⟨drawn, fresh⟩ := Bool.and_eq_true_iff.mp meets
      refine ⟨of_decide_eq_true drawn, ?_⟩
      intro _ _ other _ created
      simpa using List.all_eq_true.mp fresh _ created
  | resetPassword who form =>
      intro _ _ other _ created same
      simpa [same] using List.all_eq_true.mp meets _ created
  | _ => trivial

/-- The hashes of two passwords. -/
def demoHash (password : JsString) : String :=
  if password = ofText "correct horse battery staple" then
    "$2b$12$abcdefghijklmnopqrstuu0sDWleciW5uGBGYwxpcgAsh9WK4bWNy"
  else "$2b$12$zyxwvutsrqponmlkjihgfuAm3pkoi5e35/0wwKoAw.Trk5cYsywEq"

def demoDeployment : Deployment where
  parseEmail text := if text = "ada@b.c" then some text else none
  toLowerCase := Auth.asciiLowerCase
  bcrypt :=
    { hash := fun _ password => demoHash password
      compare := fun password hash => hash = demoHash password
      hash_ne_empty := by
        intro _ password
        rw [demoHash]
        split <;> decide
      compare_hash := fun _ _ => decide_eq_true rfl }
  digest raw :=
    if raw = "BwgJCgsMDQ4PEBESExQVFhcYGRobHB0eHyAhIiMkJSY" then
      "4a3823dd1b2833570546fcd346525b01409e90b4d56d4dd58b444e5e5333e321"
    else ""
  authUrl := some "https://app.b.c/"

/-- An account whose password is forgotten, and set anew. -/
def forgotten : List PasswordEvent :=
  [.signup 0 ⟨ofText "Acme", "ada@b.c", ofText "correct horse battery staple"⟩,
    .createUser 0 "c1" "abcdefghijklmnopqrstuu",
    .requestPasswordReset 1 "ada@b.c",
    .createToken 1 ((List.range 32).map fun index => UInt8.ofNat (index + 7)) 0,
    .sendMail 1,
    .resetPassword 2 ⟨"ada@b.c", "BwgJCgsMDQ4PEBESExQVFhcYGRobHB0eHyAhIiMkJSY",
      ofText "quiet otters paint the harbour",
      ofText "quiet otters paint the harbour"⟩,
    .deleteToken 2, .checkToken 2 1000,
    .updatePassword 2 "zyxwvutsrqponmlkjihgfu"]

/-- The new password lets its owner in, and the old one no longer does. -/
theorem passwords_accounted_forgotten :
    ∃ final,
      Run (PasswordState.step demoDeployment)
        (PasswordState.Admissible demoDeployment) .start forgotten final ∧
      (final.sets.length = 2 ∧ final.mails.length = 1 ∧
        (authorize demoDeployment final.users "ada@b.c"
          (ofText "quiet otters paint the harbour")).isSome = true ∧
        authorize demoDeployment final.users "ada@b.c"
          (ofText "correct horse battery staple") = none) ∧
      Accounted demoDeployment final := by
  obtain ⟨final, run, ends⟩ := Run.exists_of_execute
    (PasswordState.step demoDeployment) (meetsAdmissible demoDeployment)
    (fun _ _ => admissible_of_meets) .start forgotten
    (fun final => final.sets.length = 2 ∧ final.mails.length = 1 ∧
      (authorize demoDeployment final.users "ada@b.c"
        (ofText "quiet otters paint the harbour")).isSome = true ∧
      authorize demoDeployment final.users "ada@b.c"
        (ofText "correct horse battery staple") = none)
    (by decide +kernel)
  have addressed : ∀ text email,
      demoDeployment.parseEmail text = some email → email ≠ "" := by
    intro text email parsed
    simp only [demoDeployment] at parsed
    split at parsed
    · rename_i isAda
      rw [← Option.some.inj parsed, isAda]
      decide
    · contradiction
  exact ⟨final, run, of_decide_eq_true ends,
    passwords_accounted demoDeployment addressed (by decide +kernel) run⟩

end Template
end EvoPlatform
