import EvoPlatform.Foundation.Transition

/-!
# One-time tokens of the app template

`createToken` and `consumeToken`, one database statement at a time.  The two
statements of `createToken` are one transaction; `consumeToken` looks the row
up, deletes it, which throws when the row is gone, and then reads the clock.
-/

namespace EvoPlatform
namespace Template

inductive TokenPurpose
  | reset
  | invite
  deriving DecidableEq

def TokenPurpose.text : TokenPurpose → String
  | .reset => "reset"
  | .invite => "invite"

/-- A row of the table, in which `token` is unique. -/
structure VerificationToken where
  identifier : String
  token : String
  expires : Int
  deriving DecidableEq

abbrev Tokens := Table VerificationToken.token

def identifier (purpose : TokenPurpose) (email : String) : String :=
  purpose.text ++ ":" ++ email

/-- The row with this identifier and token. -/
def Tokens.findUnique (tokens : Tokens) (id token : String) :
    Option VerificationToken :=
  (tokens.find? token).filter fun row => row.identifier = id

/-- The transaction of `createToken`.  It changes nothing if the token is taken
by a row that stays. -/
def Tokens.replace (tokens : Tokens) (row : VerificationToken) :
    Option Tokens :=
  let kept := tokens.eraseWhere fun old => old.identifier = row.identifier
  if (kept.find? row.token).isSome then none else some (kept.put row)

/-- The arguments of `consumeToken`. -/
structure Consumption where
  purpose : TokenPurpose
  email : String
  raw : String
  deriving DecidableEq

def Consumption.id (call : Consumption) : String :=
  identifier call.purpose call.email

/-- How far a call of `consumeToken` has come. -/
inductive Phase
  /-- No row: the call returned false. -/
  | missed (call : Consumption)
  | found (call : Consumption) (row : VerificationToken)
  /-- The row was gone: the call threw. -/
  | threw (call : Consumption)
  | deleted (call : Consumption) (row : VerificationToken)
  /-- The call returned its answer at this reading of the clock. -/
  | returned (call : Consumption) (now : Int) (valid : Bool)
  deriving DecidableEq

/-- What was committed. -/
inductive Commit
  | created (purpose : TokenPurpose) (email raw : String) (expires : Int)
  | deleted (who : Nat) (call : Consumption)
  deriving DecidableEq

/-- The table, the calls of `consumeToken` by number, and, in order, what was
committed. -/
structure TokenState where
  tokens : Tokens
  calls : Nat → Option Phase
  commits : List Commit

def TokenState.start : TokenState := ⟨.empty, fun _ => none, []⟩

/-- What can happen next. -/
inductive TokenEvent
  /-- The transaction of a `createToken` that read the clock at `now`. -/
  | create (purpose : TokenPurpose) (email raw : String) (ttlMs now : Int)
  /-- A call of `consumeToken` looks for its row. -/
  | find (who : Nat) (call : Consumption)
  /-- The call deletes the row that it has found. -/
  | delete (who : Nat)
  /-- The call compares the expiry with the clock. -/
  | finish (who : Nat) (now : Int)

namespace TokenState

variable (hash : String → String)

/-- A call goes on. -/
def turn (state : TokenState) (who : Nat) (phase : Phase) : TokenState :=
  { state with calls := Function.update state.calls who (some phase) }

/-- One step of a `createToken` or a `consumeToken`. -/
def step (state : TokenState) : TokenEvent → Option TokenState
  | .create purpose email raw ttlMs now =>
      let expires := now + ttlMs
      match state.tokens.replace
          ⟨identifier purpose email, hash raw, expires⟩ with
      | none => some state
      | some tokens => some { state with
          tokens := tokens
          commits :=
            state.commits ++ [.created purpose email raw expires] }
  | .find who call =>
      match state.calls who with
      | some _ => none
      | none => some (state.turn who
          (match state.tokens.findUnique call.id (hash call.raw) with
          | none => .missed call
          | some row => .found call row))
  | .delete who =>
      match state.calls who with
      | some (.found call row) =>
          match state.tokens.findUnique call.id row.token with
          | none => some (state.turn who (.threw call))
          | some _ => some { state.turn who (.deleted call row) with
              tokens := state.tokens.erase row.token
              commits := state.commits ++ [.deleted who call] }
      | _ => none
  | .finish who now =>
      match state.calls who with
      | some (.deleted call row) =>
          some (state.turn who (.returned call now (now < row.expires)))
      | _ => none

/-- The digest of a new token is that of no earlier one, and what is consumed
has the digest of no token but itself. -/
def NoCollision (state : TokenState) : TokenEvent → Prop
  | .create _ _ raw _ _ => ∀ purpose email other expires,
      Commit.created purpose email other expires ∈ state.commits →
        hash raw ≠ hash other
  | .find _ call => ∀ purpose email other expires,
      Commit.created purpose email other expires ∈ state.commits →
        hash call.raw = hash other → call.raw = other
  | _ => True

end TokenState

/-- A call deleted the row of the token that was created for its purpose and
email, and no newer one had been created for these. -/
def DeletedInTime (commits : List Commit) (who : Nat) (call : Consumption)
    (expires : Int) : Prop :=
  ∃ before between later,
    commits = before ++
      .created call.purpose call.email call.raw expires ::
        (between ++ .deleted who call :: later) ∧
    ∀ raw expires,
      Commit.created call.purpose call.email raw expires ∉ between

theorem identifier_injective
    {purpose others : TokenPurpose}
    {email other : String}
    (same : identifier purpose email = identifier others other) :
    purpose = others ∧ email = other := by
  have units := congrArg String.toList same
  simp only [identifier, String.toList_append] at units
  cases purpose <;> cases others <;>
    simp_all [TokenPurpose.text, ← String.toList_inj]

theorem mem_of_findUnique
    {tokens : Tokens}
    {id token : String}
    {row : VerificationToken}
    (found : tokens.findUnique id token = some row) :
    row ∈ tokens.rows ∧ row.identifier = id ∧ row.token = token := by
  obtain ⟨stored, sameId⟩ := Option.filter_eq_some_iff.mp found
  exact ⟨tokens.mem_of_find? stored, of_decide_eq_true sameId,
    tokens.key_of_find? stored⟩

/-- After the transaction the table holds the new row, and the old rows with
another identifier. -/
theorem mem_of_replace
    {tokens next : Tokens}
    {row other : VerificationToken}
    (replaced : tokens.replace row = some next)
    (present : other ∈ next.rows) :
    other = row ∨
      other ∈ tokens.rows ∧ other.identifier ≠ row.identifier := by
  rw [Tokens.replace] at replaced
  split at replaced
  · cases replaced
  · obtain rfl := Option.some.inj replaced
    rcases (Table.mem_put_iff _ _ _).mp present with new | ⟨old, -⟩
    · exact .inl new
    · obtain ⟨stored, different⟩ := List.mem_filter.mp old
      exact .inr ⟨stored, by simpa using different⟩

/-! ## What the table and the calls stand for -/

section Invariant

variable (hash : String → String)

/-- A row is that of the newest token of its purpose and email, which no call
has deleted. -/
def Stands (commits : List Commit) (row : VerificationToken) : Prop :=
  ∃ purpose email raw before later,
    row.identifier = identifier purpose email ∧
    row.token = hash raw ∧
    commits = before ++ .created purpose email raw row.expires :: later ∧
    (∀ other expires,
      Commit.created purpose email other expires ∉ later) ∧
    ∀ who call, Commit.deleted who call ∈ commits → call.raw ≠ raw

/-- Tokens with one digest are one token, created once. -/
def CreatedOnce (commits : List Commit) : Prop :=
  ∀ purpose email raw expires purpose' email' raw' expires',
    Commit.created purpose email raw expires ∈ commits →
    Commit.created purpose' email' raw' expires' ∈ commits →
    hash raw = hash raw' →
    purpose = purpose' ∧ email = email' ∧ raw = raw' ∧ expires = expires'

/-- What a call that has come so far has behind it. -/
def Behind (commits : List Commit) (who : Nat) : Phase → Prop
  | .found call row =>
      row.token = hash call.raw ∧
        Commit.created call.purpose call.email call.raw row.expires ∈ commits
  | .deleted call row => DeletedInTime commits who call row.expires
  | .returned call now valid => valid = true →
      ∃ expires, DeletedInTime commits who call expires ∧ now < expires
  | _ => True

structure TokensSound (state : TokenState) : Prop where
  stored : ∀ row ∈ state.tokens.rows, Stands hash state.commits row
  createdOnce : CreatedOnce hash state.commits
  deletions : ∀ who call, Commit.deleted who call ∈ state.commits →
    ∃ expires, DeletedInTime state.commits who call expires
  once : ∀ who call who' call',
    Commit.deleted who call ∈ state.commits →
    Commit.deleted who' call' ∈ state.commits →
    call.raw = call'.raw → who = who'
  calls : ∀ who phase, state.calls who = some phase →
    Behind hash state.commits who phase

end Invariant

variable {hash : String → String} {state next : TokenState}

theorem DeletedInTime.append
    {commits : List Commit}
    {who : Nat}
    {call : Consumption}
    {expires : Int}
    (inTime : DeletedInTime commits who call expires)
    (more : List Commit) :
    DeletedInTime (commits ++ more) who call expires := by
  obtain ⟨before, between, later, rfl, newest⟩ := inTime
  exact ⟨before, between, later ++ more, by simp, newest⟩

theorem DeletedInTime.created
    {commits : List Commit}
    {who : Nat}
    {call : Consumption}
    {expires : Int}
    (inTime : DeletedInTime commits who call expires) :
    Commit.created call.purpose call.email call.raw expires ∈ commits := by
  obtain ⟨before, between, later, rfl, -⟩ := inTime
  simp

theorem DeletedInTime.deleted
    {commits : List Commit}
    {who : Nat}
    {call : Consumption}
    {expires : Int}
    (inTime : DeletedInTime commits who call expires) :
    Commit.deleted who call ∈ commits := by
  obtain ⟨before, between, later, rfl, -⟩ := inTime
  simp

theorem Behind.append
    {commits : List Commit}
    {who : Nat}
    {phase : Phase}
    (behind : Behind hash commits who phase)
    (more : List Commit) :
    Behind hash (commits ++ more) who phase := by
  cases phase with
  | missed call => trivial
  | threw call => trivial
  | found call row =>
      exact ⟨behind.1, List.mem_append_left more behind.2⟩
  | deleted call row => exact DeletedInTime.append behind more
  | returned call now valid =>
      intro accepted
      obtain ⟨expires, inTime, early⟩ := behind accepted
      exact ⟨expires, inTime.append more, early⟩

/-! ## Each step -/

theorem turn_calls (state : TokenState) (who : Nat) (phase : Phase)
    (other : Nat) :
    (state.turn who phase).calls other =
      if other = who then some phase else state.calls other :=
  Function.update_apply _ _ _ _

/-- A step that only takes a call further keeps the rest. -/
theorem TokensSound.turn
    (sound : TokensSound hash state)
    {who : Nat}
    {phase : Phase}
    (behind : Behind hash state.commits who phase) :
    TokensSound hash (state.turn who phase) where
  stored := sound.stored
  createdOnce := sound.createdOnce
  deletions := sound.deletions
  once := sound.once
  calls := by
    intro other phase' atPhase
    rw [turn_calls] at atPhase
    split at atPhase
    · rename_i same
      rw [same, ← Option.some.inj atPhase]
      exact behind
    · exact sound.calls other phase' atPhase

/-- What is found is the row of the token that was looked for. -/
theorem TokensSound.found
    (sound : TokensSound hash state)
    {call : Consumption}
    {row : VerificationToken}
    (noCollision : ∀ purpose email other expires,
      Commit.created purpose email other expires ∈ state.commits →
        hash call.raw = hash other → call.raw = other)
    (found : state.tokens.findUnique call.id (hash call.raw) = some row) :
    row.token = hash call.raw ∧
      Commit.created call.purpose call.email call.raw row.expires ∈
        state.commits := by
  obtain ⟨present, sameId, sameToken⟩ := mem_of_findUnique found
  obtain ⟨purpose, email, raw, before, later, isId, isToken, history, -, -⟩ :=
    sound.stored row present
  have created : Commit.created purpose email raw row.expires ∈
      state.commits := by
    rw [history]
    exact List.mem_append_right _ List.mem_cons_self
  obtain ⟨rfl, rfl⟩ := identifier_injective (sameId.symm.trans isId)
  have sameRaw := noCollision _ _ raw row.expires created
    (sameToken.symm.trans isToken)
  exact ⟨sameToken, sameRaw ▸ created⟩

/-- A new token leaves the rows of other identifiers standing. -/
theorem Stands.create
    {commits : List Commit}
    {row : VerificationToken}
    (stands : Stands hash commits row)
    {purpose : TokenPurpose}
    {email raw : String}
    {expires : Int}
    (other : row.identifier ≠ identifier purpose email) :
    Stands hash (commits ++ [.created purpose email raw expires]) row := by
  obtain ⟨purpose', email', raw', before, later, isId, isToken, rfl, newest,
    undeleted⟩ := stands
  refine ⟨purpose', email', raw', before,
    later ++ [.created purpose email raw expires], isId, isToken, by simp,
    ?_, ?_⟩
  · intro other' expires' present
    rcases List.mem_append.mp present with old | new
    · exact newest other' expires' old
    · obtain ⟨rfl, rfl, -, -⟩ :=
        Commit.created.inj (List.mem_singleton.mp new)
      exact other isId
  · intro who call present
    rcases List.mem_append.mp present with old | new
    · exact undeleted who call old
    · cases List.mem_singleton.mp new

/-- The transaction of `createToken` keeps what the table stands for. -/
theorem TokensSound.create
    (sound : TokensSound hash state)
    {purpose : TokenPurpose}
    {email raw : String}
    {expires : Int}
    {tokens : Tokens}
    (fresh : ∀ purpose email other expires,
      Commit.created purpose email other expires ∈ state.commits →
        hash raw ≠ hash other)
    (replaced : state.tokens.replace
      ⟨identifier purpose email, hash raw, expires⟩ = some tokens) :
    TokensSound hash { state with
      tokens := tokens
      commits := state.commits ++ [.created purpose email raw expires] } where
  stored := by
    intro row present
    rcases mem_of_replace replaced present with rfl | ⟨old, other⟩
    · refine ⟨purpose, email, raw, state.commits, [], rfl, rfl, rfl, by simp,
        ?_⟩
      intro who call deleted same
      rcases List.mem_append.mp deleted with earlier | new
      · obtain ⟨_, inTime⟩ := sound.deletions who call earlier
        exact fresh _ _ _ _ inTime.created (congrArg hash same.symm)
      · cases List.mem_singleton.mp new
    · exact (sound.stored row old).create other
  createdOnce := by
    intro purpose₁ email₁ raw₁ expires₁ purpose₂ email₂ raw₂ expires₂
      first second same
    rcases List.mem_append.mp first with firstOld | firstNew
    · rcases List.mem_append.mp second with secondOld | secondNew
      · exact sound.createdOnce _ _ _ _ _ _ _ _ firstOld secondOld same
      · obtain ⟨-, -, rfl, -⟩ :=
          Commit.created.inj (List.mem_singleton.mp secondNew)
        exact absurd same.symm (fresh _ _ _ _ firstOld)
    · obtain ⟨rfl, rfl, rfl, rfl⟩ :=
        Commit.created.inj (List.mem_singleton.mp firstNew)
      rcases List.mem_append.mp second with secondOld | secondNew
      · exact absurd same (fresh _ _ _ _ secondOld)
      · obtain ⟨rfl, rfl, rfl, rfl⟩ :=
          Commit.created.inj (List.mem_singleton.mp secondNew)
        exact ⟨rfl, rfl, rfl, rfl⟩
  deletions := by
    intro who call deleted
    rcases List.mem_append.mp deleted with earlier | new
    · obtain ⟨expires', inTime⟩ := sound.deletions who call earlier
      exact ⟨expires', inTime.append _⟩
    · cases List.mem_singleton.mp new
  once := by
    intro who call who' call' first second
    rcases List.mem_append.mp first with firstOld | firstNew
    · rcases List.mem_append.mp second with secondOld | secondNew
      · exact sound.once who call who' call' firstOld secondOld
      · cases List.mem_singleton.mp secondNew
    · cases List.mem_singleton.mp firstNew
  calls := fun who phase atPhase => (sound.calls who phase atPhase).append _

/-- Deleting the row that a call has found keeps what the table stands for. -/
theorem TokensSound.delete
    (sound : TokensSound hash state)
    {who : Nat}
    {call : Consumption}
    {row current : VerificationToken}
    (atFound : state.calls who = some (.found call row))
    (still : state.tokens.findUnique call.id row.token = some current) :
    TokensSound hash { state.turn who (.deleted call row) with
      tokens := state.tokens.erase row.token
      commits := state.commits ++ [.deleted who call] } := by
  obtain ⟨isHash, created⟩ := sound.calls who _ atFound
  obtain ⟨present, sameId, sameToken⟩ := mem_of_findUnique still
  obtain ⟨purpose, email, raw, before, later, isId, isToken, history, newest,
    undeleted⟩ := sound.stored current present
  have stored : Commit.created purpose email raw current.expires ∈
      state.commits := by
    rw [history]
    exact List.mem_append_right _ List.mem_cons_self
  -- The row that is there is that of the token that was found.
  obtain ⟨rfl, rfl, rfl, sameExpiry⟩ := sound.createdOnce _ _ _ _ _ _ _ _
    stored created (isToken.symm.trans (sameToken.trans isHash))
  have inTime : DeletedInTime (state.commits ++ [.deleted who call]) who call
      row.expires := by
    refine ⟨before, later, [], ?_, newest⟩
    rw [history, sameExpiry]
    simp
  refine
    { stored := ?_
      createdOnce := ?_
      deletions := ?_
      once := ?_
      calls := ?_ }
  · intro other kept
    obtain ⟨old, different⟩ := List.mem_filter.mp kept
    obtain ⟨purpose', email', raw', before', later', isId', isToken', history',
      newest', undeleted'⟩ := sound.stored other old
    refine ⟨purpose', email', raw', before', later' ++ [.deleted who call],
      isId', isToken', by rw [history']; simp, ?_, ?_⟩
    · intro other' expires' listed
      rcases List.mem_append.mp listed with earlier | new
      · exact newest' other' expires' earlier
      · cases List.mem_singleton.mp new
    · intro who' call' deleted
      rcases List.mem_append.mp deleted with earlier | new
      · exact undeleted' who' call' earlier
      · obtain ⟨rfl, rfl⟩ := Commit.deleted.inj (List.mem_singleton.mp new)
        intro same
        have sameRow : other.token = row.token := by
          rw [isToken', ← same, isHash]
        simp [sameRow] at different
  · intro purpose₁ email₁ raw₁ expires₁ purpose₂ email₂ raw₂ expires₂
      first second
    refine sound.createdOnce _ _ _ _ _ _ _ _ ?_ ?_
    · simpa using first
    · simpa using second
  · intro who' call' deleted
    rcases List.mem_append.mp deleted with earlier | new
    · obtain ⟨expires', earlierInTime⟩ := sound.deletions who' call' earlier
      exact ⟨expires', earlierInTime.append _⟩
    · obtain ⟨rfl, rfl⟩ := Commit.deleted.inj (List.mem_singleton.mp new)
      exact ⟨row.expires, inTime⟩
  · intro who₁ call₁ who₂ call₂ first second same
    rcases List.mem_append.mp first with firstOld | firstNew
    · rcases List.mem_append.mp second with secondOld | secondNew
      · exact sound.once _ _ _ _ firstOld secondOld same
      · obtain ⟨rfl, rfl⟩ :=
          Commit.deleted.inj (List.mem_singleton.mp secondNew)
        exact absurd same (undeleted _ _ firstOld)
    · obtain ⟨rfl, rfl⟩ := Commit.deleted.inj (List.mem_singleton.mp firstNew)
      rcases List.mem_append.mp second with secondOld | secondNew
      · exact absurd same.symm (undeleted _ _ secondOld)
      · exact (Commit.deleted.inj (List.mem_singleton.mp secondNew)).1.symm
  · intro other phase atPhase
    rw [turn_calls] at atPhase
    split at atPhase
    · rename_i same
      rw [same, ← Option.some.inj atPhase]
      exact inTime
    · exact (sound.calls other phase atPhase).append _

/-- Each step keeps what the table and the calls stand for. -/
theorem TokensSound.step
    (sound : TokensSound hash state)
    {event : TokenEvent}
    (noCollision : TokenState.NoCollision hash state event)
    (stepped : TokenState.step hash state event = some next) :
    TokensSound hash next := by
  cases event with
  | create purpose email raw ttlMs now =>
      simp only [TokenState.step] at stepped
      split at stepped
      · exact Option.some.inj stepped ▸ sound
      · rename_i tokens replaced
        exact Option.some.inj stepped ▸ sound.create noCollision replaced
  | find who call =>
      simp only [TokenState.step] at stepped
      split at stepped
      · cases stepped
      · obtain rfl := Option.some.inj stepped
        refine sound.turn ?_
        split
        · trivial
        · rename_i row found
          exact sound.found noCollision found
  | delete who =>
      simp only [TokenState.step] at stepped
      split at stepped
      · rename_i call row atFound
        split at stepped
        · exact Option.some.inj stepped ▸ sound.turn trivial
        · rename_i current still
          exact Option.some.inj stepped ▸ sound.delete atFound still
      · cases stepped
  | finish who now =>
      simp only [TokenState.step] at stepped
      split at stepped
      · rename_i call row atDeleted
        obtain rfl := Option.some.inj stepped
        refine sound.turn fun accepted => ?_
        exact ⟨row.expires, sound.calls who _ atDeleted,
          of_decide_eq_true accepted⟩
      · cases stepped

theorem tokensSound_start : TokensSound hash .start where
  stored := by
    intro row present
    cases present
  createdOnce := by
    intro _ _ _ _ _ _ _ _ first
    cases first
  deletions := by
    intro _ _ deleted
    cases deleted
  once := by
    intro _ _ _ _ first
    cases first
  calls := by
    intro _ _ atPhase
    cases atPhase

/-- A call of `consumeToken` that returns true is the only one for its token,
which was created once, for the purpose and the email of the call; it deleted
the row before any newer token was created for these, and it returns before
the token expires. -/
theorem tokens_single_use
    (hash : String → String)
    {events : List TokenEvent}
    {final : TokenState}
    (run : Run (TokenState.step hash) (TokenState.NoCollision hash) .start
      events final)
    {who : Nat}
    {call : Consumption}
    {now : Int}
    (accepted : final.calls who = some (.returned call now true)) :
    (∀ who' call' now',
      final.calls who' = some (.returned call' now' true) →
        call'.raw = call.raw → who' = who) ∧
    ∃ expires,
      (∀ purpose email expires',
        Commit.created purpose email call.raw expires' ∈ final.commits →
          purpose = call.purpose ∧ email = call.email ∧
            expires' = expires) ∧
      DeletedInTime final.commits who call expires ∧
      now < expires := by
  have sound : TokensSound hash final :=
    run.invariant (TokensSound hash)
      (fun _ _ _ sound noCollision stepped => sound.step noCollision stepped)
      tokensSound_start
  obtain ⟨expires, inTime, early⟩ := sound.calls who _ accepted rfl
  refine ⟨?_, expires, ?_, inTime, early⟩
  · intro who' call' now' accepted' same
    obtain ⟨_, inTime', -⟩ := sound.calls who' _ accepted' rfl
    exact sound.once _ _ _ _ inTime'.deleted inTime.deleted same
  · intro purpose email expires' created
    obtain ⟨samePurpose, sameEmail, -, sameExpiry⟩ :=
      sound.createdOnce _ _ _ _ _ _ _ _ created inTime.created rfl
    exact ⟨samePurpose, sameEmail, sameExpiry⟩

/-! ## Two calls that overlap -/

/-- `NoCollision`, as a test. -/
def meetsNoCollision (hash : String → String) (state : TokenState) :
    TokenEvent → Bool
  | .create _ _ raw _ _ => state.commits.all fun
      | .created _ _ other _ => hash raw ≠ hash other
      | .deleted _ _ => true
  | .find _ call => state.commits.all fun
      | .created _ _ other _ => hash call.raw ≠ hash other || call.raw = other
      | .deleted _ _ => true
  | _ => true

theorem noCollision_of_meets
    {event : TokenEvent}
    (meets : meetsNoCollision hash state event = true) :
    TokenState.NoCollision hash state event := by
  cases event with
  | create purpose email raw ttlMs now =>
      intro _ _ other _ created
      simpa using List.all_eq_true.mp meets _ created
  | find who call =>
      intro _ _ other _ created same
      simpa [same] using List.all_eq_true.mp meets _ created
  | delete who => trivial
  | finish who now => trivial

/-- The digest of one token. -/
def digestOf (raw : String) : String :=
  if raw = "dG9rZW4tMQ" then
    "09f5902d6a6afdf6a1534a8e99006780bff71ef338c03c2faa77440527518dbe"
  else ""

def twice : Consumption := ⟨.reset, "ada@b.c", "dG9rZW4tMQ"⟩

/-- Two calls find the row of one token, and both go on to delete it. -/
def overlapping : List TokenEvent :=
  [.create .reset "ada@b.c" "dG9rZW4tMQ" 3600000 0, .find 0 twice,
    .find 1 twice, .delete 1, .delete 0, .finish 1 1000]

/-- One of two overlapping calls returns true. -/
theorem overlapping_single_use :
    ∃ final,
      Run (TokenState.step digestOf) (TokenState.NoCollision digestOf) .start
        overlapping final ∧
      final.calls 0 = some (.threw twice) ∧
      ∃ expires, DeletedInTime final.commits 1 twice expires ∧
        1000 < expires := by
  obtain ⟨final, run, ends⟩ := Run.exists_of_execute
    (TokenState.step digestOf) (meetsNoCollision digestOf)
    (fun _ _ => noCollision_of_meets) .start overlapping
    (fun final => final.calls 0 = some (.threw twice) ∧
      final.calls 1 = some (.returned twice 1000 true))
    (by decide)
  obtain ⟨threw, accepted⟩ := of_decide_eq_true ends
  obtain ⟨-, expires, -, inTime, early⟩ :=
    tokens_single_use digestOf run accepted
  exact ⟨final, run, threw, expires, inTime, early⟩

end Template
end EvoPlatform
