import EvoPlatform.Email.RelayBook

/-!
# No workspace's relay carries the mail of another

A message goes out through a relay that was saved for its own workspace, through
one that was saved as the default, or through that of the environment.  There
is one way around it: a relay that is saved for a workspace between the two
statements of a purge loses its workspace with the second, and is the default
from then on.
-/

namespace EvoPlatform
namespace Email

variable {secrets : Secrets} {fallback : SmtpFallback} {limits : EmailAppQuota}

/-! ## What may go wrong -/

/-- The request of a save. -/
def Change.dto : Change → Option UpsertSmtpDto
  | .created _ dto => some dto
  | .updated _ dto => some dto
  | .purged _ _ => none

/-- A purge that leaves a relay of the tenant behind. -/
def Change.Strays (book : Book) : Change → Prop
  | .purged id doomed =>
      ∃ entry ∈ book, entry.tenantId = some id ∧ doomed ≠ some entry.id
  | _ => False

instance (book : Book) : (change : Change) → Decidable (change.Strays book)
  | .created _ _ => isFalse id
  | .updated _ _ => isFalse id
  | .purged _ _ => inferInstanceAs (Decidable (∃ _ ∈ _, _ ∧ _))

/-- No purge leaves a relay behind. -/
abbrev NoStrays (changes : List Change) : Prop :=
  EachStep Book.apply (fun book change => ¬ change.Strays book) [] changes

/-- The row that a call is going to write. -/
def RelayPhase.held : RelayPhase → Option SmtpConfig
  | .update _ existing _ => some existing
  | _ => none

/-- A new id is none that a call is going to write. -/
def NewConfigIds (state : Pool RelayDb RelayPhase × RelayJournal) :
    PoolEvent RelayRequest RelayInput → Prop
  | .advance _ input => ∀ call ∈ state.1.calls, ∀ existing ∈ call.held,
      existing.id ≠ input.newId
  | _ => True

instance (state : Pool RelayDb RelayPhase × RelayJournal) :
    (event : PoolEvent RelayRequest RelayInput) →
      Decidable (NewConfigIds state event)
  | .start _ => isTrue trivial
  | .advance _ _ => inferInstanceAs (Decidable (∀ _ ∈ _, ∀ _ ∈ _, _))
  | .abandon _ => isTrue trivial

/-! ## The entries of a book -/

/-- A relay was saved for the workspace that has it, in one of some writes. -/
structure BookEntry.Own (changes : List Change) (entry : BookEntry) :
    Prop where
  tenantId : entry.saved.tenantId = entry.tenantId
  requested : ∃ change ∈ changes, change.dto = some entry.saved

/-- Every relay is its workspace's own. -/
def Book.Own (changes : List Change) (book : Book) : Prop :=
  ∀ entry ∈ book, entry.Own changes

/-- The entry of a row is that of a workspace. -/
def Book.Keeps (book : Book) (existing : SmtpConfig)
    (tenantId : Option String) : Prop :=
  ∀ entry ∈ book, entry.id = existing.id → entry.tenantId = tenantId

section Entries

variable {changes : List Change} {change : Change} {book : Book}
  {entry : BookEntry} {existing : SmtpConfig} {tenantId : Option String}

theorem BookEntry.Own.append
    (own : entry.Own changes)
    (more : List Change) :
    entry.Own (changes ++ more) := by
  obtain ⟨present, isIn, isDto⟩ := own.requested
  exact ⟨own.tenantId, present, List.mem_append_left more isIn, isDto⟩

/-- A write that may be relied upon: an update finds its row where it was, and a
purge leaves nothing behind. -/
def Change.Careful (book : Book) : Change → Prop
  | .created _ _ => True
  | .updated id dto =>
      ∀ entry ∈ book, entry.id = id → entry.tenantId = dto.tenantId
  | .purged id doomed => ¬ (Change.purged id doomed).Strays book

/-- An entry that a purge spares keeps its workspace. -/
theorem mem_apply_purged
    {id : String}
    {doomed : Option String}
    (careful : (Change.purged id doomed).Careful book)
    (present : entry ∈ book.apply (.purged id doomed)) :
    entry ∈ book := by
  obtain ⟨before, isBefore, rfl⟩ := List.mem_map.mp present
  obtain ⟨isIn, isSpared⟩ := List.mem_filter.mp isBefore
  have notDoomed : doomed ≠ some before.id := by simpa using isSpared
  have elsewhere : before.tenantId ≠ some id :=
    fun isOwn => careful ⟨before, isIn, isOwn, notDoomed⟩
  rw [BookEntry.orphaned, if_neg elsewhere]
  exact isIn

/-- Such a write leaves every relay to its own workspace. -/
theorem Book.Own.apply
    (own : book.Own changes)
    (careful : change.Careful book) :
    (book.apply change).Own (changes ++ [change]) := by
  intro entry present
  cases change with
  | created id dto =>
      rcases List.mem_append.mp present with before | new
      · exact (own entry before).append _
      · rw [List.mem_singleton.mp new]
        exact ⟨rfl, .created id dto, List.mem_append_right _ (by simp), rfl⟩
  | updated id dto =>
      obtain ⟨before, isBefore, rfl⟩ := List.mem_map.mp present
      rw [BookEntry.written]
      split
      · rename_i isWritten
        exact ⟨(careful before isBefore isWritten).symm, .updated id dto,
          List.mem_append_right _ (by simp), rfl⟩
      · exact (own before isBefore).append _
  | purged id doomed =>
      exact (own entry (mem_apply_purged careful present)).append _

/-- Such a write leaves a row that it does not create to its workspace. -/
theorem Book.Keeps.apply
    (keeps : book.Keeps existing tenantId)
    (careful : change.Careful book)
    (notNew : ∀ id dto, change = .created id dto → existing.id ≠ id) :
    (book.apply change).Keeps existing tenantId := by
  intro entry present sameId
  cases change with
  | created id dto =>
      rcases List.mem_append.mp present with before | new
      · exact keeps entry before sameId
      · rw [List.mem_singleton.mp new] at sameId
        exact absurd sameId.symm (notNew id dto rfl)
  | updated id dto =>
      obtain ⟨before, isBefore, rfl⟩ := List.mem_map.mp present
      rw [BookEntry.written] at sameId ⊢
      split at sameId
      · rename_i isWritten
        rw [if_pos isWritten]
        exact keeps before isBefore sameId
      · rename_i notWritten
        rw [if_neg notWritten]
        exact keeps before isBefore sameId
  | purged id doomed =>
      exact keeps entry (mem_apply_purged careful present) sameId

end Entries

/-! ## What holds of a call where it stands -/

/-- A call that is going to write a row finds it where it was. -/
def RelayJournal.Apart (journal : RelayJournal) : RelayPhase → Prop
  | .update dto existing _ => NoStrays journal.changes →
      (Book.after journal.changes).Keeps existing dto.tenantId
  | _ => True

/-- As long as no purge leaves a relay behind, every relay is its workspace's
own after every write. -/
structure OwnKept (secrets : Secrets) (fallback : SmtpFallback) (db : RelayDb)
    (journal : RelayJournal) : Prop where
  book : BookKept secrets fallback db journal
  own : NoStrays journal.changes → ∀ known, known <+: journal.changes →
    (Book.after known).Own known

section Statement

variable {journal : RelayJournal} {index : Nat} {input : RelayInput}
  {db : RelayDb} {phase : RelayPhase} {changes : List Change}
  {change : Change}

theorem noStrays_append_iff :
    NoStrays (changes ++ [change]) ↔
      NoStrays changes ∧ ¬ change.Strays (Book.after changes) := by
  rw [NoStrays, EachStep.append_iff, EachStep.cons_iff]
  exact and_congr_right fun _ => and_iff_left EachStep.nil

/-- A statement writes nothing, or once: a row with the new id, or the row that
the call has found. -/
theorem change_cases (input : RelayInput) (db : RelayDb) (phase : RelayPhase) :
    RelayJournal.change input db phase = [] ∨
      ∃ change, RelayJournal.change input db phase = [change] ∧
        (∀ id dto, change = .created id dto → id = input.newId) ∧
        ∀ id dto, change = .updated id dto →
          ∃ existing data, phase = .update dto existing data ∧
            id = existing.id := by
  cases phase with
  | update dto existing data =>
      simp only [RelayJournal.change]
      split
      · refine .inr ⟨_, rfl, ?_, ?_⟩
        · intro id other isCreated
          cases isCreated
        · intro id other isUpdated
          cases isUpdated
          exact ⟨existing, data, rfl, rfl⟩
      · exact .inl rfl
  | create dto data =>
      simp only [RelayJournal.change]
      split
      · refine .inr ⟨_, rfl, ?_, ?_⟩
        · intro id other isCreated
          cases isCreated
          rfl
        · intro id other isUpdated
          cases isUpdated
      · exact .inl rfl
  | deleteTenant id doomed =>
      simp only [RelayJournal.change]
      split
      · refine .inr ⟨_, rfl, ?_, ?_⟩
        · intro other dto isCreated
          cases isCreated
        · intro other dto isUpdated
          cases isUpdated
      · exact .inl rfl
  | _ => exact .inl rfl

/-- What a call writes may be relied upon. -/
theorem careful_of_noStrays
    (apart : journal.Apart phase)
    (noStrays : NoStrays (journal.changes ++ [change]))
    (found : ∀ id dto, change = .updated id dto →
      ∃ existing data, phase = .update dto existing data ∧ id = existing.id) :
    change.Careful (Book.after journal.changes) := by
  obtain ⟨before, notStray⟩ := noStrays_append_iff.mp noStrays
  cases change with
  | created id dto => trivial
  | updated id dto =>
      obtain ⟨existing, data, rfl, rfl⟩ := found id dto rfl
      exact apart before
  | purged id doomed => exact notStray

/-- The row that is found stands for an entry with its workspace. -/
theorem StandsFor.keeps
    {book : Book}
    (stands : StandsFor secrets db book)
    {tenantId : Option String}
    {existing : SmtpConfig}
    (found : db.findConfig tenantId = some existing) :
    book.Keeps existing tenantId := by
  intro entry present sameId
  obtain ⟨place, isEntry⟩ := List.mem_iff_getElem?.mp present
  obtain ⟨row, isRow, records⟩ := exists_of_forall₂ stands.flip isEntry
  have sameRow : row = existing := by
    have rowFound := db.configs.find?_of_mem (List.mem_of_getElem? isRow)
    rw [records.id, sameId,
      db.configs.find?_of_mem (List.mem_of_find?_eq_some found)] at rowFound
    exact (Option.some.inj rowFound).symm
  have isOwn : existing.tenantId = tenantId := by
    simpa using List.find?_some found
  rw [← records.tenantId, sameRow, isOwn]

theorem ownKept_step
    (kept : OwnKept secrets fallback db journal)
    (sound : journal.Sound index secrets fallback phase)
    (apart : journal.Apart phase) :
    OwnKept secrets fallback
      (phase.step secrets fallback limits input db).1
      (journal.observe index input db phase) := by
  refine ⟨bookKept_step kept.book sound, ?_⟩
  intro noStrays known isKnown
  simp only [RelayJournal.observe] at noStrays isKnown
  rcases change_cases input db phase with none | ⟨change, one, _, found⟩
  · rw [none, List.append_nil] at noStrays isKnown
    exact kept.own noStrays known isKnown
  · rw [one] at noStrays isKnown
    have before := (noStrays_append_iff.mp noStrays).1
    rcases List.prefix_concat_iff.mp isKnown with rfl | older
    · rw [Book.after_append]
      exact (kept.own before _ List.prefix_rfl).apply
        (careful_of_noStrays apart noStrays found)
    · exact kept.own before known older

/-- The row of another call stays where it was. -/
theorem apart_bystander
    {bystander : RelayPhase}
    (apart : journal.Apart phase)
    (bystanderApart : journal.Apart bystander)
    (newId : ∀ existing ∈ bystander.held, existing.id ≠ input.newId) :
    (journal.observe index input db phase).Apart bystander := by
  cases bystander with
  | update dto existing data =>
      intro noStrays
      simp only [RelayJournal.observe] at noStrays ⊢
      rcases change_cases input db phase with none | ⟨change, one, new, found⟩
      · rw [none, List.append_nil] at noStrays ⊢
        exact bystanderApart noStrays
      · rw [one] at noStrays ⊢
        rw [Book.after_append]
        apply Book.Keeps.apply
          (bystanderApart (noStrays_append_iff.mp noStrays).1)
          (careful_of_noStrays apart noStrays found)
        intro id other isCreated
        rw [new id other isCreated]
        exact newId existing rfl
  | _ => trivial

/-- A call that has found a row finds it where it was. -/
theorem apart_step
    (stands : StandsFor secrets db (Book.after journal.changes)) :
    (journal.observe index input db phase).Apart
      (phase.step secrets fallback limits input db).2 := by
  cases phase with
  | findExisting dto =>
      simp only [RelayPhase.step]
      split
      · rename_i existing found
        intro _
        simp only [RelayJournal.observe, RelayJournal.change, List.append_nil]
        exact stands.keeps found
      · trivial
  | received dto callingApp =>
      simp only [RelayPhase.step, RelayPhase.resolving]
      repeat' split
      all_goals trivial
  | assertQuota dto app =>
      simp only [RelayPhase.step, RelayPhase.resolving]
      repeat' split
      all_goals trivial
  | findOwn dto callingApp tenantId =>
      simp only [RelayPhase.step, RelayPhase.through]
      repeat' split
      all_goals trivial
  | findDefault dto callingApp =>
      simp only [RelayPhase.step, RelayPhase.through]
      repeat' split
      all_goals trivial
  | _ =>
      simp only [RelayPhase.step]
      repeat' split
      all_goals trivial

end Statement

/-! ## A run -/

theorem ownKept_of_run
    {final : Pool RelayDb RelayPhase}
    {journal : RelayJournal}
    {events : List (PoolEvent RelayRequest RelayInput)}
    (run : Run ((relayCalls secrets fallback limits).watch
        RelayJournal.observe) NewConfigIds (⟨.empty, []⟩, .start) events
      (final, journal)) :
    OwnKept secrets fallback final.data journal := by
  have holds : Program.Holds (OwnKept secrets fallback)
      (fun _ journal index phase =>
        journal.Sound index secrets fallback phase ∧ journal.Apart phase)
      (final, journal) := by
    apply Program.always _ _ _ run
    · refine ⟨⟨bookKept_start, ?_⟩, ?_⟩
      · intro _ known isKnown entry present
        rw [List.prefix_nil.mp isKnown] at present
        exact absurd present List.not_mem_nil
      · intro index phase present
        simp at present
    · intro pool journal request _ _
      cases request with
      | upsertConfig dto => exact ⟨trivial, trivial⟩
      | _ => exact ⟨trivial, trivial⟩
    · intro pool journal index input phase holds newIds present
      obtain ⟨sound, apart⟩ := holds.ofCall index phase present
      have book := holds.ofData.book
      refine ⟨ownKept_step holds.ofData sound apart,
        ⟨sound_step book.stands (book.isPast index) sound,
          apart_step book.stands⟩, ?_⟩
      intro other bystander different found
      obtain ⟨bystanderSound, bystanderApart⟩ :=
        holds.ofCall other bystander found
      exact ⟨bystanderSound.continued
          (RelayJournal.continues_observe different),
        apart_bystander apart bystanderApart
          (newIds bystander (List.mem_of_getElem? found))⟩
    · intro db journal index phase _ sound
      cases phase with
      | done outcome => exact ⟨trivial, trivial⟩
      | _ => exact ⟨trivial, trivial⟩
  exact holds.ofData

/-- The relay of a message is one of the workspace, a default, or that of the
environment. -/
theorem own_of_relayFor
    {own later : Book}
    {ownChanges laterChanges : List Change}
    {tenantId : Option String}
    {smtp : ResolvedSmtp}
    (isOwn : own.Own ownChanges)
    (laterIsOwn : later.Own laterChanges)
    (chosen : Book.relayFor fallback own later tenantId = some smtp) :
    fallback.resolved = some smtp ∨
      ∃ change, (change ∈ ownChanges ∨ change ∈ laterChanges) ∧
        ∃ saved, change.dto = some saved ∧ saved.smtp = smtp ∧
          (saved.tenantId = none ∨ saved.tenantId = presentText tenantId) := by
  unfold Book.relayFor at chosen
  split at chosen
  · rename_i entry standing
    obtain ⟨id, named, found⟩ := Option.bind_eq_some_iff.mp standing
    have isTenant : entry.tenantId = some id := by
      simpa using List.find?_some found
    have entryOwn := isOwn entry (List.mem_of_find?_eq_some found)
    obtain ⟨change, present, isDto⟩ := entryOwn.requested
    refine .inr ⟨change, .inl present, entry.saved, isDto,
      Option.some.inj chosen, .inr ?_⟩
    rw [entryOwn.tenantId, isTenant, named]
  · split at chosen
    · rename_i entry found
      have isDefault : entry.tenantId = none := by
        simpa using List.find?_some found
      have entryOwn := laterIsOwn entry (List.mem_of_find?_eq_some found)
      obtain ⟨change, present, isDto⟩ := entryOwn.requested
      refine .inr ⟨change, .inr present, entry.saved, isDto,
        Option.some.inj chosen, .inl ?_⟩
      rw [entryOwn.tenantId, isDefault]
    · exact .inl chosen

/-- In every run from empty tables in which no purge leaves a relay behind, every
message goes out with the settings of the environment, or with those that some
request saved as the default or for the workspace of the message. -/
theorem relays_apart
    {final : Pool RelayDb RelayPhase}
    {journal : RelayJournal}
    {events : List (PoolEvent RelayRequest RelayInput)}
    (run : Run ((relayCalls secrets fallback limits).watch
        RelayJournal.observe) NewConfigIds (⟨.empty, []⟩, .start) events
      (final, journal))
    (noStrays : NoStrays journal.changes) :
    ∀ delivery ∈ journal.delivered, ∃ smtp,
      delivery.mail = delivery.dto.mail smtp ∧
        (fallback.resolved = some smtp ∨
          ∃ change ∈ journal.changes, ∃ saved, change.dto = some saved ∧
            saved.smtp = smtp ∧ (saved.tenantId = none ∨
              saved.tenantId = presentText delivery.dto.tenantId)) := by
  intro delivery present
  have kept := ownKept_of_run run
  obtain ⟨⟨smtp, ⟨own, later, _, _, _, chosen⟩, isMail⟩, _, _⟩ :=
    kept.book.delivered delivery present
  refine ⟨smtp, isMail, ?_⟩
  rcases own_of_relayFor (kept.own noStrays _ (List.take_prefix own _))
      (kept.own noStrays _ (List.take_prefix later _)) chosen with
    isFallback | ⟨change, isIn, saved, isDto, isSmtp, isFor⟩
  · exact .inl isFallback
  · refine .inr ⟨change, ?_, saved, isDto, isSmtp, isFor⟩
    exact isIn.elim List.mem_of_mem_take List.mem_of_mem_take

theorem relays_apart_demoMail :
    ∃ final journal,
      Run ((relayCalls demoSecrets noFallback ⟨2, 5⟩).watch
          RelayJournal.observe) NewConfigIds (⟨.empty, []⟩, .start) demoMail
        (final, journal) ∧
      NoStrays journal.changes ∧
      (deliveredBy journal).length = 2 ∧
      ∀ delivery ∈ journal.delivered, ∃ smtp,
        delivery.mail = delivery.dto.mail smtp ∧
          (noFallback.resolved = some smtp ∨
            ∃ change ∈ journal.changes, ∃ saved, change.dto = some saved ∧
              saved.smtp = smtp ∧ (saved.tenantId = none ∨
                saved.tenantId = presentText delivery.dto.tenantId)) := by
  obtain ⟨⟨final, journal⟩, run, ends⟩ := Run.exists_of_execute
    ((relayCalls demoSecrets noFallback ⟨2, 5⟩).watch RelayJournal.observe)
    (fun state event => decide (NewConfigIds state event))
    (fun _ _ passed => of_decide_eq_true passed) (⟨.empty, []⟩, .start) demoMail
    (fun state => state.2.changes =
        [.created "s1" (demoRelay none "smtp.shared"),
          .created "s2" (demoRelay (some "t1") "smtp.own")] ∧
      (deliveredBy state.2).length = 2)
    (by decide +kernel)
  obtain ⟨changes, twice⟩ := of_decide_eq_true ends
  have noStrays : NoStrays journal.changes := by
    rw [changes, NoStrays, EachStep.cons_iff, EachStep.cons_iff]
    exact ⟨id, id, EachStep.nil⟩
  exact ⟨final, journal, run, noStrays, twice, relays_apart run noStrays⟩

-- A relay is saved for `t1` while `t1` is being purged; the mail of `t2` goes
-- out through it.
example :
    (execute ((relayCalls demoSecrets noFallback ⟨2, 5⟩).watch
        RelayJournal.observe) (fun _ _ => true) (⟨.empty, []⟩, .start)
      (demoCall 0 (.createTenant "t1") 1 ++
        demoCall 1 (.removeTenant "t1") 1 ++
        demoCall 2 (.purgeTenant "t1") 2 ++
        demoCall 3 (.upsertConfig (demoRelay (some "t1") "smtp.own")) 2 ++
        [.advance 2 (demoInput "s2")] ++
        demoCall 4 (.send (demoMessage "t2") none) 5)).any
      (fun state => deliveredBy state.2 =
        [("smtp.own", some ("mailer", demoPassword))]) = true := by
  decide +kernel

end Email
end EvoPlatform
