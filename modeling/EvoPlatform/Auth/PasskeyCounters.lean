import EvoPlatform.Auth.Passkeys

/-!
# The counter of a passkey

The stored counter is what keeps an assertion from being replayed.  A record
beside the calls notes which of them has written the counter of an assertion;
such a counter is at most the stored one, as long as no other sign-in gets in
between the read of the counter and its write.
-/

namespace EvoPlatform
namespace Auth

variable {τ : Type}

/-- What `verifyAuthenticationResponse` makes of the counter of an assertion:
it answers with this counter, which is greater than the stored one unless both
are zero. -/
def ChecksCounter (env : PasskeyEnv τ) (counter : Assertion → Nat) : Prop :=
  ∀ assertion ticket row newCounter,
    env.verifyAuthenticationResponse assertion ticket row = some newCounter →
      newCounter = counter assertion ∧
        (row.signCount < newCounter ∨ newCounter = 0 ∧ row.signCount = 0)

/-- The sign-in that has written the counter of an assertion. -/
abbrev UsedBy := Assertion → Option Nat

/-- What is noted of a statement, from where it leads. -/
def noteUse (usedBy : UsedBy) (index : Nat) :
    PasskeyPhase τ → PasskeyPhase τ → UsedBy
  | .updateCredential request _ _, .findVerified .. =>
      Function.update usedBy request.credential (some index)
  | _, _ => usedBy

def observeUse (env : PasskeyEnv τ) (usedBy : UsedBy) (index : Nat)
    (input : Nat × Fresh) (db : PasskeyDb) (call : PasskeyCall τ) : UsedBy :=
  noteUse usedBy index call.phase (call.phase.step env input.1 input.2 db).2

/-- The row that the next statement of a sign-in overwrites. -/
def PasskeyPhase.overwriting : PasskeyPhase τ → Option PasskeyCredential
  | .updateCredential _ row _ => some row
  | _ => none

/-- The counters of the authenticators are positive, and every write of a
counter finds the counter that the call has read. -/
def FindsCounter (counter : Assertion → Nat)
    (state : Pool PasskeyDb (PasskeyCall τ) × UsedBy) :
    PoolEvent (LoginVerify τ) (Nat × Fresh) → Prop
  | .start request => 0 < counter request.credential
  | .advance index _ => ∀ call ∈ state.1.calls[index]?,
      ∀ row ∈ call.phase.overwriting, ∀ stored ∈ state.1.data.credentials.rows,
        stored.id = row.id → stored.signCount = row.signCount
  | .abandon _ => True

instance (counter : Assertion → Nat)
    (state : Pool PasskeyDb (PasskeyCall τ) × UsedBy) :
    (event : PoolEvent (LoginVerify τ) (Nat × Fresh)) →
      Decidable (FindsCounter counter state event)
  | .start request =>
      inferInstanceAs (Decidable (0 < counter request.credential))
  | .advance index _ =>
      inferInstanceAs (Decidable (∀ call ∈ state.1.calls[index]?,
        ∀ row ∈ call.phase.overwriting,
          ∀ stored ∈ state.1.data.credentials.rows,
            stored.id = row.id → stored.signCount = row.signCount))
  | .abandon _ => isTrue trivial

/-- A sign-in has returned a session. -/
def PasskeyCall.signedIn (call : PasskeyCall τ) : Bool :=
  match call.phase with
  | .signIn (.done (.ok (.session _))) => true
  | _ => false

/-! ## The credentials -/

/-- Every credential is still there, and its counter has not gone down. -/
def PasskeyDb.Grows (db after : PasskeyDb) : Prop :=
  ∀ row ∈ db.credentials.rows, ∃ kept ∈ after.credentials.rows,
    kept.id = row.id ∧ kept.credentialId = row.credentialId ∧
      row.signCount ≤ kept.signCount

theorem PasskeyDb.Grows.refl (db : PasskeyDb) : db.Grows db :=
  fun row present => ⟨row, present, rfl, rfl, Nat.le_refl _⟩

section Credentials

variable {db after : PasskeyDb} {id : String} {newCounter now : Nat}

theorem PasskeyDb.grows_useCredential
    (used : db.useCredential id newCounter now = some after)
    (greater : ∀ stored ∈ db.credentials.rows, stored.id = id →
      stored.signCount ≤ newCounter) :
    db.Grows after := by
  obtain ⟨stored, storedPresent, isId, written, _⟩ :=
    PasskeyDb.of_useCredential used
  intro row present
  rw [written]
  by_cases same : row.id = stored.id
  · have isRow : row = stored :=
      List.inj_on_of_nodup_map db.credentials.keysNodup present storedPresent
        same
    subst isRow
    exact ⟨_, (db.credentials.mem_put_iff _ _).mpr (Or.inl rfl), rfl, rfl,
      greater row present isId⟩
  · exact ⟨row, (db.credentials.mem_put_iff _ row).mpr (Or.inr ⟨present, same⟩),
      rfl, rfl, Nat.le_refl _⟩

theorem PasskeyDb.mem_of_findCredential
    {credentialId userId : String}
    {row : PasskeyCredential}
    (found : db.findCredential credentialId userId = some row) :
    row ∈ db.credentials.rows ∧ row.credentialId = credentialId := by
  have matching := List.find?_some found
  simp only [Bool.and_eq_true, decide_eq_true_eq] at matching
  exact ⟨List.mem_of_find?_eq_some found, matching.1⟩

end Credentials

/-! ## The calls -/

/-- The counter of a used assertion is at most the stored one. -/
def Recorded (counter : Assertion → Nat) (db : PasskeyDb) (usedBy : UsedBy) :
    Prop :=
  ∀ assertion index, usedBy assertion = some index →
    ∃ row ∈ db.credentials.rows, row.credentialId = assertion.id ∧
      counter assertion ≤ row.signCount

/-- Where a sign-in may stand. -/
inductive SigningIn (counter : Assertion → Nat) (db : PasskeyDb)
    (usedBy : UsedBy) (index : Nat) (request : LoginVerify τ) :
    PasskeyPhase τ → Prop
  | asked : 0 < counter request.credential →
      SigningIn counter db usedBy index request (.findCredential request)
  | verified (row : PasskeyCredential) :
      (∃ stored ∈ db.credentials.rows, stored.id = row.id ∧
        stored.credentialId = request.credential.id) →
      row.signCount < counter request.credential →
      SigningIn counter db usedBy index request
        (.updateCredential request row (counter request.credential))
  | used (userId : String) :
      usedBy request.credential = some index →
      SigningIn counter db usedBy index request (.findVerified request userId)
  | admitted (phase : Phase) :
      usedBy request.credential = some index →
      SigningIn counter db usedBy index request (.signIn phase)
  | refused (error : AuthError) :
      SigningIn counter db usedBy index request (.throws error)

section Calls

variable {env : PasskeyEnv τ} {counter : Assertion → Nat} {now : Nat}
  {fresh : Fresh} {db after : PasskeyDb} {usedBy noted : UsedBy} {index : Nat}
  {request : LoginVerify τ} {phase : PasskeyPhase τ}

theorem noteUse_throws (error : AuthError) :
    noteUse usedBy index phase (.throws error) = usedBy := by
  cases phase <;> rfl

/-- What a statement of a sign-in does: it leaves the credentials alone, or it
writes the counter of an assertion that no sign-in has used. -/
inductive UseEffect (counter : Assertion → Nat) (db : PasskeyDb)
    (usedBy : UsedBy) (index : Nat) : PasskeyDb → UsedBy → Prop
  | kept {after : PasskeyDb} : after.credentials = db.credentials →
      UseEffect counter db usedBy index after usedBy
  | used {after : PasskeyDb} (assertion : Assertion) :
      db.Grows after → usedBy assertion = none →
      (∃ row ∈ after.credentials.rows, row.credentialId = assertion.id ∧
        counter assertion ≤ row.signCount) →
      UseEffect counter db usedBy index after
        (Function.update usedBy assertion (some index))

theorem UseEffect.grows
    (effect : UseEffect counter db usedBy index after noted) :
    db.Grows after := by
  cases effect with
  | kept same =>
      intro row present
      exact ⟨row, same ▸ present, rfl, rfl, Nat.le_refl _⟩
  | used assertion grows => exact grows

theorem UseEffect.recorded
    (effect : UseEffect counter db usedBy index after noted)
    (recorded : Recorded counter db usedBy) :
    Recorded counter after noted := by
  cases effect with
  | kept same =>
      intro assertion caller isUsed
      rw [same]
      exact recorded assertion caller isUsed
  | used assertion grows unused stored =>
      intro other caller isUsed
      by_cases same : other = assertion
      · subst same
        exact stored
      · rw [Function.update_of_ne same] at isUsed
        obtain ⟨row, present, ofAssertion, bound⟩ :=
          recorded other caller isUsed
        obtain ⟨kept, keptPresent, _, keptCredential, grown⟩ :=
          grows row present
        exact ⟨kept, keptPresent, keptCredential.trans ofAssertion,
          Nat.le_trans bound grown⟩

/-- A used assertion stays with the sign-in that has used it. -/
theorem UseEffect.stays
    (effect : UseEffect counter db usedBy index after noted)
    {assertion : Assertion}
    {caller : Nat}
    (isUsed : usedBy assertion = some caller) :
    noted assertion = some caller := by
  cases effect with
  | kept same => exact isUsed
  | used other grows unused stored =>
      have different : assertion ≠ other := by
        rintro rfl
        rw [unused] at isUsed
        contradiction
      rw [Function.update_of_ne different]
      exact isUsed

/-- A statement of one sign-in leaves the others where they may stand. -/
theorem SigningIn.undisturbed
    {other : Nat}
    (signingIn : SigningIn counter db usedBy other request phase)
    (effect : UseEffect counter db usedBy index after noted) :
    SigningIn counter after noted other request phase := by
  cases signingIn with
  | asked positive => exact .asked positive
  | verified row present greater =>
      obtain ⟨stored, storedPresent, isRow, ofAssertion⟩ := present
      obtain ⟨kept, keptPresent, keptId, keptCredential, _⟩ :=
        effect.grows stored storedPresent
      exact .verified row ⟨kept, keptPresent, keptId.trans isRow,
        keptCredential.trans ofAssertion⟩ greater
  | used userId isUsed => exact .used userId (effect.stays isUsed)
  | admitted phase isUsed => exact .admitted phase (effect.stays isUsed)
  | refused error => exact .refused error

/-- A sign-in that goes on writes the counter of an unused assertion only. -/
theorem signingIn_step
    (checks : ChecksCounter env counter)
    (recorded : Recorded counter db usedBy)
    (signingIn : SigningIn counter db usedBy index request phase)
    (finds : ∀ row ∈ phase.overwriting, ∀ stored ∈ db.credentials.rows,
      stored.id = row.id → stored.signCount = row.signCount) :
    UseEffect counter db usedBy index (phase.step env now fresh db).1
        (noteUse usedBy index phase (phase.step env now fresh db).2) ∧
      SigningIn counter (phase.step env now fresh db).1
        (noteUse usedBy index phase (phase.step env now fresh db).2) index
        request (phase.step env now fresh db).2 := by
  have failing : ∀ error, UseEffect counter db usedBy index db
        (noteUse usedBy index phase (.throws error)) ∧
      SigningIn counter db (noteUse usedBy index phase (.throws error)) index
        request (.throws error) := by
    intro error
    rw [noteUse_throws]
    exact ⟨.kept rfl, .refused error⟩
  cases signingIn with
  | asked positive =>
      simp only [PasskeyPhase.step]
      split
      · exact failing _
      · rename_i ticket _
        split
        · exact failing _
        · rename_i row found
          split
          · exact failing _
          · rename_i newCounter accepted
            obtain ⟨rfl, greater | ⟨isZero, _⟩⟩ :=
              checks request.credential ticket row newCounter accepted
            · obtain ⟨present, ofAssertion⟩ :=
                PasskeyDb.mem_of_findCredential found
              exact ⟨.kept rfl,
                .verified row ⟨row, present, rfl, ofAssertion⟩ greater⟩
            · omega
  | verified row present greater =>
      simp only [PasskeyPhase.step]
      split
      · exact failing _
      · rename_i after used
        obtain ⟨stored, storedPresent, isRow, ofAssertion⟩ := present
        have found := finds row rfl
        have grows := PasskeyDb.grows_useCredential used
          fun other otherPresent isOther => by
            rw [found other otherPresent isOther]
            exact greater.le
        -- a used assertion has a counter that the stored one has reached
        have unused : usedBy request.credential = none := by
          cases isUsed : usedBy request.credential with
          | none => rfl
          | some caller =>
              obtain ⟨other, otherPresent, otherAssertion, bound⟩ :=
                recorded request.credential caller isUsed
              have same := db.credentialIdUnique other otherPresent stored
                storedPresent request.credential.id
                (congrArg some otherAssertion) (congrArg some ofAssertion)
              rw [same, found stored storedPresent isRow] at bound
              omega
        have written : ∃ kept ∈ after.credentials.rows,
            kept.credentialId = request.credential.id ∧
              counter request.credential ≤ kept.signCount := by
          obtain ⟨original, originalPresent, isId, put, _⟩ :=
            PasskeyDb.of_useCredential used
          have same : original = stored :=
            List.inj_on_of_nodup_map db.credentials.keysNodup originalPresent
              storedPresent (isId.trans isRow.symm)
          subst same
          rw [put]
          exact ⟨_, (db.credentials.mem_put_iff _ _).mpr (Or.inl rfl),
            ofAssertion, Nat.le_refl _⟩
        exact ⟨.used request.credential grows unused written,
          .used row.userId (Function.update_self _ _ _)⟩
  | used userId isUsed =>
      simp only [PasskeyPhase.step]
      split
      · exact failing _
      · exact ⟨.kept rfl, .admitted _ isUsed⟩
  | admitted phase isUsed =>
      cases phase <;> exact ⟨.kept rfl, .admitted _ isUsed⟩
  | refused error => exact ⟨.kept rfl, .refused error⟩

end Calls

/-! ## Runs -/

/-- The sign-ins with the record of used assertions beside them. -/
def countedSignIns (env : PasskeyEnv τ) :
    Pool PasskeyDb (PasskeyCall τ) × UsedBy →
      PoolEvent (LoginVerify τ) (Nat × Fresh) →
        Option (Pool PasskeyDb (PasskeyCall τ) × UsedBy) :=
  (passkeySignIns env).watch (observeUse env)

/-- Every sign-in stands where it may. -/
theorem signingIn_always
    {env : PasskeyEnv τ}
    {counter : Assertion → Nat}
    (checks : ChecksCounter env counter)
    {db : PasskeyDb}
    {events : List (PoolEvent (LoginVerify τ) (Nat × Fresh))}
    {final : Pool PasskeyDb (PasskeyCall τ) × UsedBy}
    (run : Run (countedSignIns env) (FindsCounter counter)
      (⟨db, []⟩, fun _ => none) events final) :
    Program.Holds (Recorded counter)
      (fun db usedBy index (call : PasskeyCall τ) =>
        SigningIn counter db usedBy index call.request call.phase) final := by
  apply Program.always _ _ _ run
  · refine ⟨?_, ?_⟩
    · intro assertion index isUsed
      contradiction
    · intro index call present
      contradiction
  · intro pool usedBy request _ positive
    exact .asked positive
  · intro pool usedBy index input call holds finds present
    obtain ⟨effect, goesOn⟩ := signingIn_step checks holds.ofData
      (holds.ofCall index call present) (finds call present)
    refine ⟨effect.recorded holds.ofData, goesOn, ?_⟩
    intro other bystander _ found
    exact (holds.ofCall other bystander found).undisturbed effect
  · intro db usedBy index call _ _
    exact .refused _

/-- The counters of the authenticators are positive, and no sign-in writes a
counter between the read and the write of another one: then no counter ever
goes down, and no assertion leads to two sign-ins. -/
theorem assertion_signsInOnce
    {env : PasskeyEnv τ}
    {counter : Assertion → Nat}
    (checks : ChecksCounter env counter)
    {db : PasskeyDb}
    {events : List (PoolEvent (LoginVerify τ) (Nat × Fresh))}
    {final : Pool PasskeyDb (PasskeyCall τ) × UsedBy}
    (run : Run (countedSignIns env) (FindsCounter counter)
      (⟨db, []⟩, fun _ => none) events final) :
    (∀ event next, FindsCounter counter final event →
      countedSignIns env final event = some next →
        final.1.data.Grows next.1.data) ∧
    ∀ (left right : Nat) (leftCall rightCall : PasskeyCall τ),
      final.1.calls[left]? = some leftCall →
      final.1.calls[right]? = some rightCall →
      leftCall.signedIn = true → rightCall.signedIn = true →
      leftCall.request.credential = rightCall.request.credential →
        left = right := by
  have holds := signingIn_always checks run
  have used : ∀ (index : Nat) (call : PasskeyCall τ),
      final.1.calls[index]? = some call → call.signedIn = true →
        final.2 call.request.credential = some index := by
    intro index call present signedIn
    have stands := holds.ofCall index call present
    unfold PasskeyCall.signedIn at signedIn
    split at signedIn
    · rename_i isSession
      rw [isSession] at stands
      cases stands with
      | admitted phase isUsed => exact isUsed
    · contradiction
  refine ⟨?_, ?_⟩
  · intro event next finds stepped
    simp only [countedSignIns, Program.watch, Option.map_eq_some_iff] at stepped
    obtain ⟨moved, poolStepped, rfl⟩ := stepped
    cases event with
    | start request =>
        obtain rfl := Option.some.inj poolStepped
        exact .refl final.1.data
    | advance index input =>
        simp only [Program.poolStep, Option.map_eq_some_iff] at poolStepped
        obtain ⟨call, present, rfl⟩ := poolStepped
        exact (signingIn_step checks holds.ofData
          (holds.ofCall index call present) (finds call present)).1.grows
    | abandon index =>
        simp only [Program.poolStep, Option.map_eq_some_iff] at poolStepped
        obtain ⟨call, present, rfl⟩ := poolStepped
        exact .refl final.1.data
  · intro left right leftCall rightCall leftPresent rightPresent leftSignedIn
      rightSignedIn same
    have leftUsed := used left leftCall leftPresent leftSignedIn
    rw [same, used right rightCall rightPresent rightSignedIn] at leftUsed
    exact (Option.some.inj leftUsed).symm

/-! ## Two sign-ins with one assertion -/

theorem checksCounter_lengthEnv :
    ChecksCounter lengthEnv fun assertion => assertion.response.length := by
  intro assertion ticket row newCounter accepted
  simp only [lengthEnv, Option.ite_none_right_eq_some,
    Option.some.injEq] at accepted
  obtain ⟨greater, rfl⟩ := accepted
  exact ⟨rfl, Or.inl greater⟩

/-- The demo user with one passkey. -/
def onePasskey : PasskeyDb where
  auth := demoSessions .empty
  credentials := ⟨[⟨"p1", "u1", "cred", "key", 3, none, none⟩],
    List.nodup_singleton "p1"⟩
  credentialIdUnique := Table.unique_of_nodup (by decide)
  countersFit := Table.every_singleton (by decide)

/-- The next statement of a sign-in. -/
def signInStatement (index : Nat) (id raw : String) :
    PoolEvent (LoginVerify Payload) (Nat × Fresh) :=
  .advance index (1000, ⟨id, raw, ""⟩)

/-- An assertion is presented again after it has signed in. -/
theorem assertion_signsInOnce_replayed :
    ∃ final, Run (countedSignIns lengthEnv)
        (FindsCounter fun assertion => assertion.response.length)
        (⟨onePasskey, []⟩, fun _ => none)
        [.start assertionFive, signInStatement 0 "" "", signInStatement 0 "" "",
          signInStatement 0 "" "", signInStatement 0 "k1" "raw1",
          signInStatement 0 "" "", .start assertionFive,
          signInStatement 1 "" ""] final ∧
      ∀ (left right : Nat) (leftCall rightCall : PasskeyCall Payload),
        final.1.calls[left]? = some leftCall →
        final.1.calls[right]? = some rightCall →
        leftCall.signedIn = true → rightCall.signedIn = true →
        leftCall.request.credential = rightCall.request.credential →
          left = right := by
  obtain ⟨final, run, _⟩ := Run.exists_of_execute (countedSignIns lengthEnv)
    (fun state event => decide (FindsCounter
      (fun assertion => assertion.response.length) state event))
    (fun _ _ passed => of_decide_eq_true passed)
    (⟨onePasskey, []⟩, fun _ => none)
    [.start assertionFive, signInStatement 0 "" "", signInStatement 0 "" "",
      signInStatement 0 "" "", signInStatement 0 "k1" "raw1",
      signInStatement 0 "" "", .start assertionFive, signInStatement 1 "" ""]
    (fun _ => true) (by decide +kernel)
  exact ⟨final, run, (assertion_signsInOnce checksCounter_lengthEnv run).2⟩

/-- Two sign-ins read the counter before either of them writes it: one
assertion leads to two sessions. -/
theorem concurrentAssertions_signInTwice :
    ∃ final, Run (countedSignIns lengthEnv) (fun _ _ => True)
        (⟨onePasskey, []⟩, fun _ => none)
        [.start assertionFive, .start assertionFive, signInStatement 0 "" "",
          signInStatement 1 "" "", signInStatement 0 "" "",
          signInStatement 0 "" "", signInStatement 0 "k1" "raw1",
          signInStatement 0 "" "", signInStatement 1 "" "",
          signInStatement 1 "" "", signInStatement 1 "k2" "raw2",
          signInStatement 1 "" ""] final ∧
      (final.1.calls.map fun call => (call.request.credential, call.signedIn)) =
        [(⟨"cred", "-----"⟩, true), (⟨"cred", "-----"⟩, true)] := by
  obtain ⟨final, run, doubled⟩ := Run.exists_of_execute
    (countedSignIns lengthEnv) (fun _ _ => true) (fun _ _ _ => trivial)
    (⟨onePasskey, []⟩, fun _ => none)
    [.start assertionFive, .start assertionFive, signInStatement 0 "" "",
      signInStatement 1 "" "", signInStatement 0 "" "",
      signInStatement 0 "" "", signInStatement 0 "k1" "raw1",
      signInStatement 0 "" "", signInStatement 1 "" "",
      signInStatement 1 "" "", signInStatement 1 "k2" "raw2",
      signInStatement 1 "" ""]
    (fun state => decide ((state.1.calls.map fun call =>
      (call.request.credential, call.signedIn)) =
        [(⟨"cred", "-----"⟩, true), (⟨"cred", "-----"⟩, true)]))
    (by decide +kernel)
  exact ⟨final, run, of_decide_eq_true doubled⟩

end Auth
end EvoPlatform
