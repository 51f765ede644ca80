import EvoPlatform.Apps.PriceTruth

/-!
# Calls on the catalogue that fail

A call looks for the rows that its write may conflict with before it writes, so
that a conflict is answered as one and not as a failed statement.  A journal
beside the calls notes the writes, and the statements whose values are refused.
Any other statement fails only when a write of another call has come between the
checks of the call and its write.
-/

namespace EvoPlatform
namespace Apps

variable {configured : Bool}

/-! ## The journal -/

/-- How many writes there were, how many of them each call had before it when it
began to read, which calls were not the last to write when they wrote, and which
have sent what the columns or their indexes do not take. -/
structure PriceJournal where
  writes : Nat
  seen : Nat → Nat
  overtaken : Nat → Bool
  refused : Nat → Bool

namespace PricePhase

/-- The first statement of a call. -/
def opens : PricePhase → Bool
  | .findApp .. => true
  | .findRefreshingApp .. => true
  | .findRemovingApp .. => true
  | _ => false

/-- A statement that writes the tables. -/
def isWrite : PricePhase → Bool
  | .create .. => true
  | .update .. => true
  | .delete .. => true
  | .createApp _ => true
  | .deleteApp _ => true
  | _ => false

end PricePhase

namespace PriceJournal

def start : PriceJournal :=
  ⟨0, fun _ => 0, fun _ => false, fun _ => false⟩

/-- What is noted of a statement. -/
def observe (journal : PriceJournal) (index : Nat) (outside : Outside)
    (_ : PriceDb) (phase : PricePhase) : PriceJournal where
  writes := if phase.isWrite then journal.writes + 1 else journal.writes
  seen := if phase.opens then
      Function.update journal.seen index journal.writes
    else journal.seen
  overtaken := if phase.isWrite && journal.seen index ≠ journal.writes then
      Function.update journal.overtaken index true
    else journal.overtaken
  refused := if phase.Sendable outside then journal.refused
    else Function.update journal.refused index true

/-- A call has been overtaken, or a statement of it refused. -/
def Blames (journal : PriceJournal) (index : Nat) : Prop :=
  journal.overtaken index = true ∨ journal.refused index = true

/-- Nothing was written since a call began to read. -/
def Current (journal : PriceJournal) (index : Nat) : Prop :=
  journal.seen index = journal.writes

end PriceJournal

/-- A new id is that of no row. -/
def NewIds (state : Pool PriceDb PricePhase × PriceJournal) :
    PoolEvent PriceRequest Outside → Prop
  | .advance _ outside => state.1.data.prices.find? outside.newId = none
  | _ => True

instance (state : Pool PriceDb PricePhase × PriceJournal) :
    (event : PoolEvent PriceRequest Outside) → Decidable (NewIds state event)
  | .start _ => isTrue trivial
  | .advance _ _ => inferInstanceAs (Decidable (_ = _))
  | .abandon _ => isTrue trivial

/-! ## What the checks of a call have established -/

/-- What a call knows of the tables when nothing was written since it began. -/
def Clear (db : PriceDb) : PricePhase → Prop
  | .describe appId _ => (db.apps.find? appId).isSome
  | .findOwner appId _ _ => (db.apps.find? appId).isSome
  | .findClash appId dto _ => (db.apps.find? appId).isSome ∧
      db.prices.findBy AppPrice.idColumn dto.stripePriceId = none
  | .create appId dto facts => (db.apps.find? appId).isSome ∧
      db.prices.findBy AppPrice.idColumn dto.stripePriceId = none ∧
      db.prices.findBy AppPrice.slotColumn
        (appId, dto.tier, facts.interval, facts.intervalCount) = none
  | .describeAgain app price => price ∈ db.prices.rows ∧ price.appId = app.id
  | .findOther app price _ => price ∈ db.prices.rows ∧ price.appId = app.id
  | .update _ price facts => price ∈ db.prices.rows ∧
      ∀ row ∈ db.prices.rows, row.slot = (price.withFacts facts).slot →
        row.id = price.id
  | .delete _ price => price ∈ db.prices.rows
  | _ => True

/-- A call ended in a failed statement. -/
def PricePhase.Failed (phase : PricePhase) : Prop :=
  phase = .done (.error .internal)

variable {db : PriceDb} {outside : Outside} {phase : PricePhase}

theorem exists_createPrice
    {appId : String}
    {dto : AddPriceDto}
    {facts : PriceFacts}
    (clear : Clear db (.create appId dto facts))
    (newId : db.prices.find? outside.newId = none) :
    ∃ after, db.createPrice
      (PricePhase.newPrice outside.newId appId dto facts) = some after := by
  obtain ⟨hasApp, idFree, slotFree⟩ := clear
  have fits : db.Fits
      (PricePhase.newPrice outside.newId appId dto facts) := by
    refine ⟨?_, ?_, hasApp⟩
    · rintro ⟨other, present, _, _, sameId⟩
      exact Table.findBy_eq_none_iff.mp idFree other present sameId
    · rintro ⟨other, present, _, _, sameSlot⟩
      exact Table.findBy_eq_none_iff.mp slotFree other present sameSlot
  refine ⟨db.putPrice _ fits, ?_⟩
  rw [PriceDb.createPrice, dif_pos fits,
    if_neg (by rw [PricePhase.newPrice, newId]; simp)]

theorem exists_updatePrice
    {app : CatalogueApp}
    {price : AppPrice}
    {facts : PriceFacts}
    (clear : Clear db (.update app price facts)) :
    ∃ after, db.updatePrice price.id facts = some after := by
  obtain ⟨present, slotFree⟩ := clear
  have fits : db.Fits (price.withFacts facts) := by
    refine ⟨db.idUnique.not_heldElsewhere present rfl rfl, ?_,
      db.ofApp price present⟩
    rintro ⟨other, otherPresent, different, _, sameSlot⟩
    exact different (slotFree other otherPresent (Option.some.inj sameSlot))
  simp only [PriceDb.updatePrice, db.prices.find?_of_mem present, dif_pos fits]
  exact ⟨_, rfl⟩

/-- Of the statements that are carried out only writes fail. -/
theorem not_failed_of_quiet
    (quiet : phase.isWrite = false)
    (running : ¬ phase.Failed) :
    ¬ (phase.carryOut configured outside db).2.Failed := by
  intro failed
  cases phase with
  | create | update | delete | createApp | deleteApp => contradiction
  | describe appId dto =>
      simp only [PricePhase.carryOut, PricePhase.Failed, describePrice] at failed
      cases answered : outside.retrieved with
      | none => simp [answered] at failed
      | some price =>
          by_cases active : price.active <;> simp [answered, active] at failed
  | describeAgain app price =>
      simp only [PricePhase.carryOut, PricePhase.Failed, describePrice] at failed
      cases answered : outside.retrieved with
      | none => simp [answered] at failed
      | some found =>
          by_cases active : found.active
          · simp only [answered, active, if_true, PricePhase.described] at failed
            split at failed <;> contradiction
          · simp [answered, active] at failed
  | done outcome => exact running failed
  | _ =>
      simp only [PricePhase.carryOut, PricePhase.Failed, PricePhase.appMissing,
        PricePhase.priceMissing, PricePhase.owned, PricePhase.clashing,
        PricePhase.overlapping, PricePhase.asking, priceUnreadable] at failed
      repeat' split at failed
      all_goals simp at failed

/-- A statement that is carried out does not fail when the checks of its call
still hold. -/
theorem not_failed_of_clear
    (clear : Clear db phase)
    (running : ¬ phase.Failed)
    (newId : db.prices.find? outside.newId = none) :
    ¬ (phase.carryOut configured outside db).2.Failed := by
  by_cases writes : phase.isWrite = true
  · intro failed
    cases phase with
    | create appId dto facts =>
        obtain ⟨after, created⟩ := exists_createPrice clear newId
        simp [PricePhase.carryOut, PricePhase.Failed, created] at failed
    | update app price facts =>
        obtain ⟨after, updated⟩ := exists_updatePrice clear
        simp [PricePhase.carryOut, PricePhase.Failed, updated] at failed
    | delete app price =>
        have stored : (db.prices.find? price.id).isSome := by
          rw [db.prices.find?_of_mem clear]
          rfl
        simp [PricePhase.carryOut, PricePhase.Failed, PriceDb.deletePrice,
          stored] at failed
    | createApp | deleteApp =>
        simp only [PricePhase.carryOut, PricePhase.Failed] at failed
        split at failed <;> contradiction
    | _ => contradiction
  · exact not_failed_of_quiet (Bool.eq_false_iff.mpr writes) running

/-- A statement that is no write leaves the tables as they are. -/
theorem tables_of_not_isWrite
    (configured : Bool)
    (outside : Outside)
    (db : PriceDb)
    (quiet : phase.isWrite = false) :
    (phase.step configured outside db).1.apps = db.apps ∧
      (phase.step configured outside db).1.prices = db.prices := by
  rcases phase.step_cases configured outside db with carried | refused
  · rw [carried]
    cases phase with
    | create | update | delete | createApp | deleteApp => contradiction
    | _ =>
        simp only [PricePhase.carryOut]
        repeat' split
        all_goals exact ⟨by trivial, by trivial⟩
  · rw [refused]
    exact ⟨rfl, rfl⟩

/-- What a call knows is about the tables alone. -/
theorem Clear.of_tables
    {after : PriceDb}
    (apps : after.apps = db.apps)
    (prices : after.prices = db.prices)
    (clear : Clear db phase) :
    Clear after phase := by
  cases phase with
  | describe | findOwner | findClash | create | describeAgain | findOther
  | update | delete => simpa only [Clear, apps, prices] using clear
  | _ => trivial

/-- A check of a call that is the last to have written adds to what it knows. -/
theorem Clear.carryOut
    (clear : Clear db phase)
    (quiet : phase.isWrite = false) :
    Clear db (phase.carryOut configured outside db).2 := by
  cases phase with
  | findApp appId dto =>
      simp only [PricePhase.carryOut, PricePhase.asking]
      split
      · trivial
      · rename_i app found
        split
        · simp only [Clear, found, Option.isSome_some]
        · trivial
  | describe appId dto =>
      simp only [PricePhase.carryOut]
      split
      · trivial
      · exact clear
  | findOwner appId dto facts =>
      simp only [PricePhase.carryOut]
      split
      · trivial
      · rename_i absent
        exact ⟨clear, absent⟩
  | findClash appId dto facts =>
      simp only [PricePhase.carryOut]
      split
      · trivial
      · rename_i absent
        exact ⟨clear.1, clear.2, absent⟩
  | findPrice app priceId =>
      simp only [PricePhase.carryOut, PricePhase.asking]
      split
      · trivial
      · rename_i price found
        obtain ⟨stored, sameApp⟩ := Option.filter_eq_some_iff.mp found
        split
        · exact ⟨db.prices.mem_of_find? stored, of_decide_eq_true sameApp⟩
        · trivial
  | describeAgain app price =>
      simp only [PricePhase.carryOut]
      split
      · trivial
      · rename_i facts described
        simp only [PricePhase.described]
        split
        · exact clear
        · rename_i sameCadence
          rw [not_or, not_not, not_not] at sameCadence
          refine ⟨clear.1, ?_⟩
          intro row present sameSlot
          have slots : row.slot = price.slot := by
            rw [sameSlot, AppPrice.slot, AppPrice.slot]
            simp [AppPrice.withFacts, sameCadence]
          rw [db.slotUnique row present price clear.1 price.slot
            (congrArg some slots) rfl]
  | findOther app price facts =>
      simp only [PricePhase.carryOut]
      split
      · trivial
      · rename_i absent
        refine ⟨clear.1, ?_⟩
        intro row present sameSlot
        by_contra different
        have found : db.prices.findBy AppPrice.slotColumn
            (app.id, price.tier, facts.interval, facts.intervalCount) =
              some row := by
          apply (db.slotUnique.findBy_eq_some_iff _ row).mpr
          refine ⟨present, ?_⟩
          rw [AppPrice.slotColumn, sameSlot, ← clear.2]
          rfl
        rw [found] at absent
        simp [different] at absent
  | findDoomed app priceId =>
      simp only [PricePhase.carryOut]
      split
      · trivial
      · rename_i price found
        exact db.prices.mem_of_find? (Option.filter_eq_some_iff.mp found).1
  | create | update | delete | createApp | deleteApp => contradiction
  | _ =>
      simp only [PricePhase.carryOut]
      repeat' split
      all_goals trivial

theorem Clear.step
    (clear : Clear db phase)
    (quiet : phase.isWrite = false) :
    Clear db (phase.step configured outside db).2 := by
  rcases phase.step_cases configured outside db with carried | refused
  · rw [carried]
    exact clear.carryOut quiet
  · rw [refused]
    rcases phase.refused_cases with ended | ended <;>
    · rw [ended]
      trivial

/-! ## Runs -/

namespace PriceJournal

variable {journal : PriceJournal} {index other : Nat}

@[simp] theorem writes_observe :
    (journal.observe index outside db phase).writes =
      if phase.isWrite then journal.writes + 1 else journal.writes :=
  rfl

theorem seen_observe_of_ne (apart : other ≠ index) :
    (journal.observe index outside db phase).seen other =
      journal.seen other := by
  simp only [observe]
  split
  · exact Function.update_of_ne apart _ _
  · rfl

theorem seen_observe_le (bounded : ∀ index, journal.seen index ≤ journal.writes)
    (other : Nat) :
    (journal.observe index outside db phase).seen other ≤
      (journal.observe index outside db phase).writes := by
  have grows : journal.writes ≤
      (journal.observe index outside db phase).writes := by
    rw [writes_observe]
    split
    · exact Nat.le_succ _
    · exact le_rfl
  refine le_trans ?_ grows
  simp only [observe]
  split
  · by_cases same : other = index
    · rw [same, Function.update_self]
    · rw [Function.update_of_ne same]
      exact bounded other
  · exact bounded other

/-- A mark that is set stays set when another is. -/
theorem update_true {marks : Nat → Bool} (noted : marks other = true) :
    Function.update marks index true other = true := by
  by_cases same : other = index
  · rw [same, Function.update_self]
  · rw [Function.update_of_ne same]
    exact noted

/-- What was noted once stays noted. -/
theorem Blames.observe (blames : journal.Blames other) :
    (journal.observe index outside db phase).Blames other := by
  simp only [Blames, PriceJournal.observe]
  refine blames.imp (fun noted => ?_) fun noted => ?_
  · split
    · exact update_true noted
    · exact noted
  · split
    · exact noted
    · exact update_true noted

/-- A statement that is refused is noted. -/
theorem blames_of_not_sendable (unsendable : ¬ phase.Sendable outside) :
    (journal.observe index outside db phase).Blames index := by
  right
  simp only [observe, if_neg unsendable, Function.update_self]

/-- After a write no call but a later one has seen all writes. -/
theorem not_current_observe (bounded : journal.seen other ≤ journal.writes)
    (writes : phase.isWrite = true) :
    ¬ (journal.observe index outside db phase).Current other := by
  have unopened : phase.opens = false := by
    cases phase <;> first | rfl | contradiction
  simp only [Current, observe, writes, unopened, Bool.false_eq_true, if_false,
    if_true]
  omega

/-- What another call has seen is current only if it was before. -/
theorem Current.of_observe (apart : other ≠ index)
    (quiet : phase.isWrite = false)
    (current : (journal.observe index outside db phase).Current other) :
    journal.Current other := by
  rw [Current, seen_observe_of_ne apart, writes_observe, quiet] at current
  exact current

end PriceJournal

/-- What holds of a call where it stands. -/
def Undisturbed (data : PriceDb) (journal : PriceJournal) (index : Nat)
    (call : PricePhase) : Prop :=
  (journal.Current index → Clear data call) ∧
    (call.Failed → journal.Blames index)

section Advance

variable {journal : PriceJournal} {index other : Nat} {bystander : PricePhase}

/-- A call that moves on knows what it has checked, and fails only if it was
overtaken or its statement is refused. -/
theorem Undisturbed.advance
    (undisturbed : Undisturbed db journal index phase)
    (bounded : ∀ index, journal.seen index ≤ journal.writes)
    (newId : db.prices.find? outside.newId = none) :
    Undisturbed (phase.step configured outside db).1
      (journal.observe index outside db phase) index
      (phase.step configured outside db).2 := by
  obtain ⟨known, failedBefore⟩ := undisturbed
  constructor
  · intro current
    by_cases writes : phase.isWrite = true
    · exact absurd current
        (PriceJournal.not_current_observe (bounded index) writes)
    · have quiet : phase.isWrite = false := Bool.eq_false_iff.mpr writes
      obtain ⟨apps, prices⟩ :=
        tables_of_not_isWrite configured outside db quiet
      have clear : Clear db phase := by
        by_cases opening : phase.opens = true
        · cases phase <;> trivial
        · apply known
          simpa [PriceJournal.Current, PriceJournal.observe, opening,
            quiet] using current
      exact (clear.step quiet).of_tables apps prices
  · intro failed
    by_cases before : phase.Failed
    · exact (failedBefore before).observe
    · by_cases sendable : phase.Sendable outside
      · rw [PricePhase.step_of_sendable sendable] at failed
        have writes : phase.isWrite = true := by
          by_contra quiet
          exact not_failed_of_quiet (Bool.eq_false_iff.mpr quiet) before failed
        have stale : ¬ journal.Current index := fun current =>
          not_failed_of_clear (known current) before newId failed
        have noted : (phase.isWrite &&
            decide (journal.seen index ≠ journal.writes)) = true := by
          rw [writes, Bool.true_and]
          exact decide_eq_true stale
        left
        simp only [PriceJournal.observe, noted, if_true, Function.update_self]
      · exact PriceJournal.blames_of_not_sendable sendable

/-- A call is not disturbed by a statement of another one. -/
theorem Undisturbed.aside
    (undisturbed : Undisturbed db journal other bystander)
    (apart : other ≠ index)
    (bounded : ∀ index, journal.seen index ≤ journal.writes) :
    Undisturbed (phase.step configured outside db).1
      (journal.observe index outside db phase) other bystander := by
  refine ⟨?_, fun failed => (undisturbed.2 failed).observe⟩
  intro current
  by_cases writes : phase.isWrite = true
  · exact absurd current
      (PriceJournal.not_current_observe (bounded other) writes)
  · have quiet : phase.isWrite = false := Bool.eq_false_iff.mpr writes
    obtain ⟨apps, prices⟩ :=
      tables_of_not_isWrite configured outside db quiet
    exact (undisturbed.1 (current.of_observe apart quiet)).of_tables apps prices

end Advance

/-- A call ends in a failed statement only if another call has written between
its first statement and its write, or if one of its statements was sent with a
value that the columns or their indexes do not take. -/
theorem failed_only_overtaken
    {final : Pool PriceDb PricePhase}
    {journal : PriceJournal}
    {events : List (PoolEvent PriceRequest Outside)}
    (run : Run ((priceCalls configured).watch PriceJournal.observe) NewIds
      (⟨db, []⟩, .start) events (final, journal)) :
    ∀ index, final.calls[index]? = some (.done (.error .internal)) →
      journal.overtaken index = true ∨ journal.refused index = true := by
  have holds : Program.Holds
      (fun _ (journal : PriceJournal) =>
        ∀ index, journal.seen index ≤ journal.writes)
      Undisturbed (final, journal) := by
    apply Program.always _ _ _ run
    · exact ⟨fun _ => le_rfl, by simp⟩
    · intro pool journal request _ _
      refine ⟨fun _ => ?_, ?_⟩
      · cases request <;> trivial
      · intro failed
        cases request <;> contradiction
    · intro pool journal index outside call holds newId present
      refine ⟨PriceJournal.seen_observe_le holds.ofData,
        Undisturbed.advance (holds.ofCall index call present) holds.ofData
          newId, ?_⟩
      intro other bystander apart found
      exact Undisturbed.aside (holds.ofCall other bystander found) apart
        holds.ofData
    · intro data journal index call _ undisturbed
      refine ⟨fun current => ?_, ?_⟩
      · have known := undisturbed.1 current
        cases call <;> trivial
      · intro failed
        cases call with
        | done outcome => exact undisturbed.2 failed
        | _ => contradiction
  intro index failed
  exact (holds.ofCall index _ failed).2 rfl

/-- Two calls register one price, and both look for it before either stores
it. -/
def sameTwice : List (PoolEvent PriceRequest Outside) :=
  [.start (.createApp ⟨"a1", "app_1", "Acme", none⟩),
    .advance 0 (proOutside "p0" "Pro"),
    .start (.add "a1" ⟨"price_1", "pro", none⟩),
    .start (.add "a1" ⟨"price_1", "pro", none⟩)] ++
  List.replicate 4 (.advance 1 (proOutside "p1" "Pro")) ++
  List.replicate 5 (.advance 2 (proOutside "p2" "Pro")) ++
  List.replicate 3 (.advance 1 (proOutside "p3" "Pro"))

theorem failed_only_overtaken_sameTwice :
    ∃ final journal,
      Run ((priceCalls true).watch PriceJournal.observe) NewIds
        (⟨.empty, []⟩, .start) sameTwice (final, journal) ∧
      final.calls[1]? = some (.done (.error .internal)) ∧
      (journal.overtaken 1 = true ∨ journal.refused 1 = true) := by
  obtain ⟨⟨final, journal⟩, run, ends⟩ := Run.exists_of_execute
    ((priceCalls true).watch PriceJournal.observe)
    (fun state event => decide (NewIds state event))
    (fun _ _ passed => of_decide_eq_true passed)
    (⟨.empty, []⟩, .start) sameTwice
    (fun state => state.1.calls[1]? = some (.done (.error .internal)))
    (by decide +kernel)
  have failed := of_decide_eq_true ends
  exact ⟨final, journal, run, failed, failed_only_overtaken run 1 failed⟩

end Apps
end EvoPlatform
