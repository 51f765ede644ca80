import EvoPlatform.Email.Relay
import EvoPlatform.Foundation.Simulation

/-!
# Mail goes out through the relay that was saved

What was saved is a book: for every relay the settings as they were entered,
without encryption and without constraints.  The table stands for the book
after the writes so far, and a message goes out through what the book had under
its workspace, or else as the default, while the message was being sent.
-/

namespace EvoPlatform
namespace Email

/-! ## The book -/

/-- The settings that a request enters. -/
def UpsertSmtpDto.smtp (dto : UpsertSmtpDto) : ResolvedSmtp where
  host := dto.host
  port := dto.port
  secure := dto.secure
  username := dto.username
  password := presentText dto.password
  fromAddress := dto.fromAddress

/-- A relay, with the request that saved it last. -/
structure BookEntry where
  id : String
  tenantId : Option String
  saved : UpsertSmtpDto
  deriving DecidableEq

abbrev Book := List BookEntry

/-- A write. -/
inductive Change
  | created (id : String) (dto : UpsertSmtpDto)
  | updated (id : String) (dto : UpsertSmtpDto)
  /-- A tenant is gone, and with it the relay that the transaction had found. -/
  | purged (id : String) (doomed : Option String)
  deriving DecidableEq

namespace BookEntry

def written (id : String) (dto : UpsertSmtpDto) (entry : BookEntry) :
    BookEntry :=
  if entry.id = id then { entry with saved := dto } else entry

def orphaned (id : String) (entry : BookEntry) : BookEntry :=
  if entry.tenantId = some id then { entry with tenantId := none } else entry

end BookEntry

namespace Book

def apply (book : Book) : Change → Book
  | .created id dto => book ++ [⟨id, dto.tenantId, dto⟩]
  | .updated id dto => book.map (BookEntry.written id dto)
  | .purged id doomed =>
      (book.filter fun entry => !decide (doomed = some entry.id)).map
        (BookEntry.orphaned id)

/-- The book after some writes. -/
def after (changes : List Change) : Book := changes.foldl apply []

theorem after_append (changes : List Change) (change : Change) :
    after (changes ++ [change]) = (after changes).apply change := by
  rw [after, List.foldl_append]
  rfl

/-- The relay of a tenant, or the default. -/
def standing (book : Book) (tenantId : Option String) : Option BookEntry :=
  book.find? fun entry => entry.tenantId = tenantId

/-- The relay of a message, when one book is looked up for the workspace and a
later one for the default. -/
def relayFor (fallback : SmtpFallback) (own later : Book)
    (tenantId : Option String) : Option ResolvedSmtp :=
  match (presentText tenantId).bind fun id => own.standing (some id) with
  | some entry => some entry.saved.smtp
  | none =>
      match later.standing none with
      | some entry => some entry.saved.smtp
      | none => fallback.resolved

end Book

/-! ## The journal -/

/-- A message that was handed to a transport. -/
structure Delivery where
  dto : SendEmailDto
  callingApp : Option App
  mail : Mail
  /-- How many writes there were when the message was received, and when it was
  handed on. -/
  received : Nat
  handedOn : Nat
  /-- The app was found to be enabled for the workspace. -/
  permitted : Bool

/-- The writes in order, how many there were when a call was received, which
apps were found to be enabled, and what was delivered. -/
structure RelayJournal where
  changes : List Change
  received : Nat → Nat
  permitted : Nat → Bool
  delivered : List Delivery

namespace RelayJournal

def start : RelayJournal := ⟨[], fun _ => 0, fun _ => false, []⟩

/-- What a statement writes. -/
def change (input : RelayInput) (db : RelayDb) : RelayPhase → List Change
  | .update dto existing data =>
      if (db.updateConfig existing.id data).isSome then
        [.updated existing.id dto]
      else []
  | .create dto data =>
      if (db.createConfig (data.config input.newId dto.tenantId)).isSome then
        [.created input.newId dto]
      else []
  | .deleteTenant id doomed =>
      if (db.purge id doomed).isSome then [.purged id doomed] else []
  | _ => []

/-- What a call hands to a transport. -/
def delivery (journal : RelayJournal) (index : Nat) :
    RelayPhase → List Delivery
  | .sendMail dto callingApp smtp =>
      [{ dto := dto
         callingApp := callingApp
         mail := dto.mail smtp
         received := journal.received index
         handedOn := journal.changes.length
         permitted := journal.permitted index }]
  | _ => []

/-- What is noted of a statement. -/
def observe (journal : RelayJournal) (index : Nat) (input : RelayInput)
    (db : RelayDb) (phase : RelayPhase) : RelayJournal where
  changes := journal.changes ++ change input db phase
  received :=
    match phase with
    | .received _ _ =>
        Function.update journal.received index journal.changes.length
    | _ => journal.received
  permitted :=
    match phase with
    | .findAccess _ _ =>
        if input.access then Function.update journal.permitted index true
        else journal.permitted
    | _ => journal.permitted
  delivered := journal.delivered ++ delivery journal index phase

end RelayJournal

variable {secrets : Secrets} {fallback : SmtpFallback} {limits : EmailAppQuota}

/-! ## The table stands for the book -/

/-- A row is an entry of the book. -/
structure Records (secrets : Secrets) (config : SmtpConfig)
    (entry : BookEntry) : Prop where
  id : config.id = entry.id
  tenantId : config.tenantId = entry.tenantId
  smtp : config.resolved secrets = some entry.saved.smtp

/-- The rows are the entries, in order. -/
def StandsFor (secrets : Secrets) (db : RelayDb) (book : Book) : Prop :=
  List.Forall₂ (Records secrets) db.configs.rows book

/-- What was entered is what is resolved. -/
theorem resolved_data
    {iv : List UInt8}
    (ivLength : iv.length = 12)
    (dto : UpsertSmtpDto)
    (id : String)
    (tenantId : Option String) :
    ((dto.data secrets iv).config id tenantId).resolved secrets =
      some dto.smtp := by
  cases given : presentText dto.password with
  | none =>
      simp only [SmtpConfig.resolved, SmtpData.config, UpsertSmtpDto.data, given,
        Option.map_none]
      rw [UpsertSmtpDto.smtp, given]
      rfl
  | some password =>
      have isPresent : presentText (some (encryptSecret secrets iv password)) =
          some (encryptSecret secrets iv password) := by
        simp [presentText, encryptSecret_ne_empty secrets ivLength password]
      simp only [SmtpConfig.resolved, SmtpData.config, UpsertSmtpDto.data, given,
        Option.map_some, isPresent,
        decryptSecret_encryptSecret secrets ivLength password]
      rw [UpsertSmtpDto.smtp, given]

/-- The columns of an `update` keep the id and the tenant. -/
theorem resolved_withData
    {iv : List UInt8}
    (ivLength : iv.length = 12)
    (dto : UpsertSmtpDto)
    (config : SmtpConfig) :
    (config.withData (dto.data secrets iv)).resolved secrets = some dto.smtp :=
  resolved_data ivLength dto config.id config.tenantId

theorem Records.written
    {config : SmtpConfig}
    {entry : BookEntry}
    (records : Records secrets config entry)
    {iv : List UInt8}
    (ivLength : iv.length = 12)
    (id : String)
    (dto : UpsertSmtpDto) :
    Records secrets (RelayDb.written id (dto.data secrets iv) config)
      (entry.written id dto) := by
  unfold RelayDb.written BookEntry.written
  by_cases isWritten : config.id = id
  · rw [if_pos isWritten, if_pos (records.id ▸ isWritten)]
    exact ⟨records.id, records.tenantId, resolved_withData ivLength dto config⟩
  · rw [if_neg isWritten, if_neg (records.id ▸ isWritten)]
    exact records

theorem Records.orphaned
    {config : SmtpConfig}
    {entry : BookEntry}
    (records : Records secrets config entry)
    (id : String) :
    Records secrets (config.orphaned id) (entry.orphaned id) := by
  unfold SmtpConfig.orphaned BookEntry.orphaned
  by_cases isOwn : config.tenantId = some id
  · rw [if_pos isOwn, if_pos (records.tenantId ▸ isOwn)]
    exact ⟨records.id, rfl, records.smtp⟩
  · rw [if_neg isOwn, if_neg (records.tenantId ▸ isOwn)]
    exact records

section Tables

variable {db after : RelayDb} {book : Book}

/-- A lookup in the table is one in the book. -/
theorem StandsFor.find
    (stands : StandsFor secrets db book)
    (tenantId : Option String) :
    Option.Rel (Records secrets) (db.findConfig tenantId)
      (book.standing tenantId) := by
  apply find?_of_forall₂ _ stands
  intro config entry records
  rw [records.tenantId]

theorem StandsFor.create
    (stands : StandsFor secrets db book)
    {iv : List UInt8}
    (ivLength : iv.length = 12)
    {dto : UpsertSmtpDto}
    {id : String}
    (created : db.createConfig ((dto.data secrets iv).config id dto.tenantId) =
      some after) :
    StandsFor secrets after (book.apply (.created id dto)) := by
  unfold RelayDb.createConfig at created
  split at created
  · split at created
    · contradiction
    · rename_i absent
      rw [← Option.some.inj created, StandsFor]
      have new : id ∉ db.configs.rows.map SmtpConfig.id := by
        intro present
        obtain ⟨row, isRow, rfl⟩ := List.mem_map.mp present
        have found := db.configs.find?_of_mem isRow
        exact absent (by rw [SmtpData.config]; simp [found])
      have rows : (db.configs.put
          ((dto.data secrets iv).config id dto.tenantId)).rows =
            db.configs.rows ++ [(dto.data secrets iv).config id dto.tenantId] :=
        putRow_of_new new
      rw [rows]
      have here : Records secrets ((dto.data secrets iv).config id dto.tenantId)
          ⟨id, dto.tenantId, dto⟩ :=
        ⟨rfl, rfl, resolved_data ivLength dto id dto.tenantId⟩
      exact forall₂_append_singleton stands here
  · contradiction

theorem StandsFor.update
    (stands : StandsFor secrets db book)
    {iv : List UInt8}
    (ivLength : iv.length = 12)
    {dto : UpsertSmtpDto}
    {id : String}
    {saved : SmtpConfig}
    (updated : db.updateConfig id (dto.data secrets iv) =
      some (after, saved)) :
    StandsFor secrets after (book.apply (.updated id dto)) := by
  obtain ⟨stored, _, isAfter⟩ := Option.map_eq_some_iff.mp updated
  rw [← (Prod.mk.inj isAfter).1, StandsFor]
  exact List.rel_map (fun _ _ records => records.written ivLength id dto) stands

theorem StandsFor.purge
    (stands : StandsFor secrets db book)
    {id : String}
    {doomed : Option String}
    (purged : db.purge id doomed = some after) :
    StandsFor secrets after (book.apply (.purged id doomed)) := by
  unfold RelayDb.purge at purged
  split at purged
  · split at purged
    · contradiction
    · rw [← Option.some.inj purged, StandsFor]
      have spared : List.Forall₂ (Records secrets) (db.spared doomed).rows
          (book.filter fun entry => !decide (doomed = some entry.id)) := by
        apply List.rel_filter _ stands
        intro config entry records
        dsimp only
        rw [records.id]
      exact List.rel_map (fun _ _ records => records.orphaned id) spared
  · contradiction

end Tables

/-! ## What holds of a call where it stands -/

/-- The columns are those of the request. -/
def Entered (secrets : Secrets) (dto : UpsertSmtpDto) (data : SmtpData) : Prop :=
  ∃ iv : List UInt8, iv.length = 12 ∧ data = dto.data secrets iv

namespace RelayJournal

variable (journal next : RelayJournal) (index : Nat)

/-- The book after the first writes. -/
def book (count : Nat) : Book := Book.after (journal.changes.take count)

/-- An app may use the workspace that it names. -/
def Gated (dto : SendEmailDto) (callingApp : Option App) : Prop :=
  callingApp.isSome = true → (presentText dto.tenantId).isSome = true →
    journal.permitted index = true

/-- Since a message was received its workspace had no relay at one time. -/
def Without (dto : SendEmailDto) : Prop :=
  ∃ own, journal.received index ≤ own ∧ own ≤ journal.changes.length ∧
    (presentText dto.tenantId).bind
      (fun id => (journal.book own).standing (some id)) = none

/-- A relay stood for a message since it was received, up to a number of
writes. -/
def Stood (fallback : SmtpFallback) (received handedOn : Nat)
    (dto : SendEmailDto) (smtp : ResolvedSmtp) : Prop :=
  ∃ own later, received ≤ own ∧ own ≤ later ∧ later ≤ handedOn ∧
    Book.relayFor fallback (journal.book own) (journal.book later)
      dto.tenantId = some smtp

/-- What holds of a call where it stands. -/
def Sound (secrets : Secrets) (fallback : SmtpFallback) : RelayPhase → Prop
  | .assertQuota dto app => journal.Gated index dto (some app)
  | .findOwn dto callingApp tenantId =>
      journal.Gated index dto callingApp ∧
        presentText dto.tenantId = some tenantId
  | .findDefault dto callingApp =>
      journal.Gated index dto callingApp ∧ journal.Without index dto
  | .sendMail dto callingApp smtp =>
      journal.Gated index dto callingApp ∧
        journal.Stood fallback (journal.received index) journal.changes.length
          dto smtp
  | .update dto _ data => Entered secrets dto data
  | .create dto data => Entered secrets dto data
  | _ => True

/-- A journal that was continued by what concerns other calls. -/
structure Continues : Prop where
  changes : journal.changes <+: next.changes
  received : next.received index = journal.received index
  permitted : journal.permitted index = true → next.permitted index = true

end RelayJournal

section Journals

variable {journal next : RelayJournal} {index other : Nat} {dto : SendEmailDto}
  {input : RelayInput} {db : RelayDb} {phase : RelayPhase}

/-- The book after the first writes stays what it is. -/
theorem RelayJournal.book_of_continued
    (continued : journal.changes <+: next.changes)
    {count : Nat}
    (within : count ≤ journal.changes.length) :
    next.book count = journal.book count := by
  obtain ⟨more, same⟩ := continued
  rw [book, book, ← same, List.take_append_of_le_length within]

theorem RelayJournal.Stood.mono
    {smtp : ResolvedSmtp}
    {received handedOn : Nat}
    (stood : journal.Stood fallback received handedOn dto smtp)
    (continued : journal.changes <+: next.changes)
    (within : handedOn ≤ journal.changes.length)
    {later : Nat}
    (notEarlier : handedOn ≤ later) :
    next.Stood fallback received later dto smtp := by
  obtain ⟨first, second, isSince, inOrder, isBefore, chosen⟩ := stood
  refine ⟨first, second, isSince, inOrder, isBefore.trans notEarlier, ?_⟩
  rw [book_of_continued continued (by omega), book_of_continued continued (by omega)]
  exact chosen

/-- What holds of a call keeps holding while others go on. -/
theorem RelayJournal.Sound.continued
    (sound : journal.Sound index secrets fallback phase)
    (continues : journal.Continues next index) :
    next.Sound index secrets fallback phase := by
  have gated : ∀ {dto callingApp}, journal.Gated index dto callingApp →
      next.Gated index dto callingApp := by
    intro dto callingApp gated isApp isNamed
    exact continues.permitted (gated isApp isNamed)
  cases phase with
  | assertQuota dto app => exact gated sound
  | findOwn dto callingApp tenantId => exact ⟨gated sound.1, sound.2⟩
  | findDefault dto callingApp =>
      obtain ⟨isGated, own, isSince, isPast, missing⟩ := sound
      refine ⟨gated isGated, own, ?_, ?_, ?_⟩
      · rw [continues.received]
        exact isSince
      · exact isPast.trans continues.changes.length_le
      · rw [book_of_continued continues.changes isPast]
        exact missing
  | sendMail dto callingApp smtp =>
      refine ⟨gated sound.1, ?_⟩
      rw [continues.received]
      exact sound.2.mono continues.changes le_rfl continues.changes.length_le
  | update dto existing data => exact sound
  | create dto data => exact sound
  | _ => trivial

/-- What is noted of a call concerns no other call. -/
theorem RelayJournal.continues_observe
    (apart : other ≠ index) :
    journal.Continues (journal.observe index input db phase) other := by
  refine ⟨List.prefix_append _ _, ?_, ?_⟩
  · cases phase with
    | received dto callingApp => exact Function.update_of_ne apart _ _
    | _ => rfl
  · intro permitted
    cases phase with
    | findAccess dto app =>
        simp only [observe]
        split
        · rw [Function.update_of_ne apart]
          exact permitted
        · exact permitted
    | _ => exact permitted

end Journals

/-! ## One statement -/

section Statement

variable {journal : RelayJournal} {index : Nat} {input : RelayInput}
  {db : RelayDb} {phase : RelayPhase}

/-- After a statement the table stands for the book with what it wrote. -/
theorem stands_step
    (stands : StandsFor secrets db (Book.after journal.changes))
    (sound : journal.Sound index secrets fallback phase) :
    StandsFor secrets (phase.step secrets fallback limits input db).1
      (Book.after (journal.observe index input db phase).changes) := by
  cases phase with
  | update dto existing data =>
      obtain ⟨iv, ivLength, rfl⟩ := sound
      simp only [RelayPhase.step, RelayJournal.observe, RelayJournal.change]
      cases updated : db.updateConfig existing.id (dto.data secrets iv) with
      | none => simpa using stands
      | some result =>
          obtain ⟨after, saved⟩ := result
          rw [Option.isSome_some, if_pos rfl, Book.after_append]
          exact stands.update ivLength updated
  | create dto data =>
      obtain ⟨iv, ivLength, rfl⟩ := sound
      simp only [RelayPhase.step, RelayJournal.observe, RelayJournal.change]
      cases created : db.createConfig
          ((dto.data secrets iv).config input.newId dto.tenantId) with
      | none => simpa using stands
      | some after =>
          rw [Option.isSome_some, if_pos rfl, Book.after_append]
          exact stands.create ivLength created
  | deleteTenant id doomed =>
      simp only [RelayPhase.step, RelayJournal.observe, RelayJournal.change]
      cases purged : db.purge id doomed with
      | none => simpa using stands
      | some after =>
          rw [Option.isSome_some, if_pos rfl, Book.after_append]
          exact stands.purge purged
  | createTenant id =>
      simp only [RelayPhase.step, RelayJournal.observe, RelayJournal.change,
        List.append_nil]
      cases created : db.createTenant id with
      | none => exact stands
      | some after =>
          rw [StandsFor, db.configs_createTenant created]
          exact stands
  | removeTenant id =>
      simp only [RelayPhase.step, RelayJournal.observe, RelayJournal.change,
        List.append_nil]
      cases removed : db.removeTenant id input.now with
      | none => exact stands
      | some after =>
          rw [StandsFor, db.configs_removeTenant removed]
          exact stands
  | _ =>
      simp only [RelayPhase.step, RelayJournal.observe, RelayJournal.change,
        List.append_nil]
      repeat' split
      all_goals exact stands

/-- A message that was let through looks for its relay. -/
theorem sound_resolving
    {dto : SendEmailDto}
    {callingApp : Option App}
    (gated : journal.Gated index dto callingApp)
    (isPast : journal.received index ≤ journal.changes.length) :
    journal.Sound index secrets fallback
      (RelayPhase.resolving dto callingApp) := by
  unfold RelayPhase.resolving
  split
  · rename_i tenantId named
    exact ⟨gated, named⟩
  · rename_i unnamed
    refine ⟨gated, journal.changes.length, isPast, le_rfl, ?_⟩
    rw [unnamed]
    rfl

/-- A message goes through the entry of the book that a row stands for. -/
theorem sound_through
    {dto : SendEmailDto}
    {callingApp : Option App}
    {config : SmtpConfig}
    {entry : BookEntry}
    (gated : journal.Gated index dto callingApp)
    (records : Records secrets config entry)
    (stood : journal.Stood fallback (journal.received index)
      journal.changes.length dto entry.saved.smtp) :
    journal.Sound index secrets fallback
      (RelayPhase.through secrets dto callingApp config) := by
  rw [RelayPhase.through, records.smtp]
  exact ⟨gated, stood⟩

theorem RelayJournal.book_length :
    journal.book journal.changes.length = Book.after journal.changes := by
  rw [book, List.take_length]

/-- A statement leaves the call where what should hold does. -/
theorem sound_step
    (stands : StandsFor secrets db (Book.after journal.changes))
    (isPast : journal.received index ≤ journal.changes.length)
    (sound : journal.Sound index secrets fallback phase) :
    (journal.observe index input db phase).Sound index secrets fallback
      (phase.step secrets fallback limits input db).2 := by
  cases phase with
  | received dto callingApp =>
      have isNow : (journal.observe index input db
          (.received dto callingApp)).received index =
            journal.changes.length :=
        Function.update_self _ _ _
      have noChange : (journal.observe index input db
          (.received dto callingApp)).changes = journal.changes :=
        List.append_nil _
      simp only [RelayPhase.step]
      split
      · apply sound_resolving
        · intro isApp
          contradiction
        · rw [isNow, noChange]
      · split
        · trivial
        · rename_i unnamed
          intro _ isNamed
          rw [unnamed] at isNamed
          contradiction
  | findAccess dto app =>
      simp only [RelayPhase.step]
      split
      · rename_i allowed
        intro _ _
        simp only [RelayJournal.observe, if_pos allowed]
        exact Function.update_self _ _ _
      · trivial
  | assertQuota dto app =>
      have same : journal.observe index input db (.assertQuota dto app) =
          journal := by
        simp [RelayJournal.observe, RelayJournal.change, RelayJournal.delivery]
      rw [same]
      simp only [RelayPhase.step]
      split
      · exact sound_resolving sound isPast
      · trivial
      · trivial
  | findOwn dto callingApp tenantId =>
      have same : journal.observe index input db
          (.findOwn dto callingApp tenantId) = journal := by
        simp [RelayJournal.observe, RelayJournal.change, RelayJournal.delivery]
      obtain ⟨gated, named⟩ := sound
      rw [same]
      have found := stands.find (some tenantId)
      simp only [RelayPhase.step]
      split
      · rename_i own isOwn
        rw [isOwn] at found
        cases standing : (Book.after journal.changes).standing
            (some tenantId) with
        | none =>
            rw [standing] at found
            cases found
        | some entry =>
            rw [standing] at found
            cases found with
            | some records =>
                refine sound_through gated records
                  ⟨_, _, isPast, le_rfl, le_rfl, ?_⟩
                simp [Book.relayFor, named, RelayJournal.book_length, standing]
      · rename_i noOwn
        rw [noOwn] at found
        cases standing : (Book.after journal.changes).standing
            (some tenantId) with
        | none =>
            refine ⟨gated, _, isPast, le_rfl, ?_⟩
            rw [named, RelayJournal.book_length]
            exact standing
        | some entry =>
            rw [standing] at found
            cases found
  | findDefault dto callingApp =>
      have same : journal.observe index input db
          (.findDefault dto callingApp) = journal := by
        simp [RelayJournal.observe, RelayJournal.change, RelayJournal.delivery]
      obtain ⟨gated, own, isSince, notAfter, missing⟩ := sound
      rw [same]
      have found := stands.find none
      simp only [RelayPhase.step]
      split
      · rename_i config isDefault
        rw [isDefault] at found
        cases standing : (Book.after journal.changes).standing none with
        | none =>
            rw [standing] at found
            cases found
        | some entry =>
            rw [standing] at found
            cases found with
            | some records =>
                refine sound_through gated records
                  ⟨own, _, isSince, notAfter, le_rfl, ?_⟩
                simp [Book.relayFor, missing, RelayJournal.book_length,
                  standing]
      · rename_i noDefault
        rw [noDefault] at found
        cases standing : (Book.after journal.changes).standing none with
        | none =>
            split
            · rename_i smtp isFallback
              refine ⟨gated, own, _, isSince, notAfter, le_rfl, ?_⟩
              simp [Book.relayFor, missing, RelayJournal.book_length, standing,
                isFallback]
            · trivial
        | some entry =>
            rw [standing] at found
            cases found
  | findExisting dto =>
      simp only [RelayPhase.step]
      split <;> exact ⟨input.iv, input.ivLength, rfl⟩
  | _ =>
      simp only [RelayPhase.step]
      repeat' split
      all_goals trivial

end Statement

/-! ## A run -/

/-- A message was delivered as it should be: through the relay that stood for it
while it was being sent, and for an app only where it is enabled. -/
structure RelayJournal.AsSaved (fallback : SmtpFallback)
    (journal : RelayJournal) (delivery : Delivery) : Prop where
  stood : ∃ smtp, journal.Stood fallback delivery.received delivery.handedOn
    delivery.dto smtp ∧ delivery.mail = delivery.dto.mail smtp
  inTime : delivery.handedOn ≤ journal.changes.length
  gated : delivery.callingApp.isSome = true →
    (presentText delivery.dto.tenantId).isSome = true →
      delivery.permitted = true

/-- What holds of the tables and the journal. -/
structure BookKept (secrets : Secrets) (fallback : SmtpFallback) (db : RelayDb)
    (journal : RelayJournal) : Prop where
  stands : StandsFor secrets db (Book.after journal.changes)
  isPast : ∀ index, journal.received index ≤ journal.changes.length
  delivered : ∀ delivery ∈ journal.delivered,
    journal.AsSaved fallback delivery

section Runs

variable {journal : RelayJournal} {index : Nat} {input : RelayInput}
  {db : RelayDb} {phase : RelayPhase}

theorem RelayJournal.AsSaved.mono
    {next : RelayJournal}
    {delivery : Delivery}
    (asSaved : journal.AsSaved fallback delivery)
    (continued : journal.changes <+: next.changes) :
    next.AsSaved fallback delivery := by
  obtain ⟨⟨smtp, stood, isMail⟩, inTime, gated⟩ := asSaved
  exact ⟨⟨smtp, stood.mono continued inTime le_rfl, isMail⟩,
    inTime.trans continued.length_le, gated⟩

theorem bookKept_step
    (kept : BookKept secrets fallback db journal)
    (sound : journal.Sound index secrets fallback phase) :
    BookKept secrets fallback
      (phase.step secrets fallback limits input db).1
      (journal.observe index input db phase) := by
  have continued : journal.changes <+:
      (journal.observe index input db phase).changes :=
    List.prefix_append _ _
  refine ⟨stands_step kept.stands sound, ?_, ?_⟩
  · intro other
    have before := (kept.isPast other).trans continued.length_le
    cases phase with
    | received dto callingApp =>
        by_cases same : other = index
        · subst same
          simp only [RelayJournal.observe, Function.update_self]
          exact continued.length_le
        · simp only [RelayJournal.observe, Function.update_of_ne same]
          exact before
    | _ => exact before
  · intro delivery present
    rcases List.mem_append.mp present with old | new
    · exact (kept.delivered delivery old).mono continued
    · cases phase with
      | sendMail dto callingApp smtp =>
          obtain ⟨gated, stood⟩ := sound
          rw [List.mem_singleton.mp new]
          exact ⟨⟨smtp, stood.mono continued le_rfl le_rfl, rfl⟩,
            continued.length_le, gated⟩
      | _ => exact absurd new List.not_mem_nil

theorem bookKept_start : BookKept secrets fallback .empty .start where
  stands := .nil
  isPast := fun _ => le_rfl
  delivered := fun _ present => absurd present List.not_mem_nil

/-- What holds initially is kept by every run. -/
theorem bookKept_of_run
    {admissible : Pool RelayDb RelayPhase × RelayJournal →
      PoolEvent RelayRequest RelayInput → Prop}
    {final : Pool RelayDb RelayPhase}
    {events : List (PoolEvent RelayRequest RelayInput)}
    (run : Run ((relayCalls secrets fallback limits).watch
        RelayJournal.observe) admissible (⟨.empty, []⟩, .start) events
      (final, journal)) :
    Program.Holds (BookKept secrets fallback)
      (fun _ journal index phase => journal.Sound index secrets fallback phase)
      (final, journal) := by
  apply Program.always _ _ _ run
  · refine ⟨bookKept_start, ?_⟩
    intro index phase present
    simp at present
  · intro pool journal request _ _
    cases request with
    | upsertConfig dto => trivial
    | _ => trivial
  · intro pool journal index input phase holds _ present
    have sound := holds.ofCall index phase present
    refine ⟨bookKept_step holds.ofData sound,
      sound_step holds.ofData.stands (holds.ofData.isPast index) sound, ?_⟩
    intro other bystander apart found
    exact (holds.ofCall other bystander found).continued
      (RelayJournal.continues_observe apart)
  · intro db journal index phase _ sound
    cases phase with
    | done outcome => trivial
    | _ => trivial

end Runs

/-- In every run from empty tables, of saves, sends and purges in any order, every
message that is handed to a transport goes out with the settings of one save as
they were entered, or those of the environment: there are two times, between the
message being received and being handed on, the first of which decides the relay
of its workspace, and the second the default.  A message of an app that names a
workspace is handed on only after the app was found to be enabled for it. -/
theorem relayed_as_saved
    {admissible : Pool RelayDb RelayPhase × RelayJournal →
      PoolEvent RelayRequest RelayInput → Prop}
    {final : Pool RelayDb RelayPhase}
    {journal : RelayJournal}
    {events : List (PoolEvent RelayRequest RelayInput)}
    (run : Run ((relayCalls secrets fallback limits).watch
        RelayJournal.observe) admissible (⟨.empty, []⟩, .start) events
      (final, journal)) :
    ∀ delivery ∈ journal.delivered,
      (∃ own later smtp,
        delivery.received ≤ own ∧ own ≤ later ∧ later ≤ delivery.handedOn ∧
          delivery.handedOn ≤ journal.changes.length ∧
          Book.relayFor fallback (Book.after (journal.changes.take own))
            (Book.after (journal.changes.take later)) delivery.dto.tenantId =
              some smtp ∧
          delivery.mail = delivery.dto.mail smtp) ∧
        (delivery.callingApp.isSome = true →
          (presentText delivery.dto.tenantId).isSome = true →
            delivery.permitted = true) := by
  intro delivery present
  obtain ⟨⟨smtp, ⟨own, later, isSince, inOrder, isBefore, chosen⟩, isMail⟩,
    inTime, gated⟩ := (bookKept_of_run run).ofData.delivered delivery present
  exact ⟨⟨own, later, smtp, isSince, inOrder, isBefore, inTime, chosen,
    isMail⟩, gated⟩

/-! A workspace with a relay of its own and one without send mail. -/

def noFallback : SmtpFallback := ⟨none, 587, false, none, none, ""⟩

/-- What every statement of a demonstration is told. -/
def demoInput (newId : String) : RelayInput :=
  ⟨newId, demoIv, rfl, true, 100000, some "m1"⟩

def demoRelay (tenantId : Option String) (host : String) : UpsertSmtpDto :=
  ⟨tenantId, host, 587, false, some "mailer", some demoPassword, "a@b.co"⟩

def demoMessage (tenantId : String) : SendEmailDto :=
  ⟨none, some tenantId, "c@d.co", "Hi", some "Hello", none⟩

/-- A request that is answered without interruption. -/
def demoCall (index : Nat) (request : RelayRequest) (statements : Nat) :
    List (PoolEvent RelayRequest RelayInput) :=
  .start request :: List.replicate statements
    (.advance index (demoInput ("s" ++ toString index)))

def demoMail : List (PoolEvent RelayRequest RelayInput) :=
  demoCall 0 (.createTenant "t1") 1 ++
  demoCall 1 (.upsertConfig (demoRelay none "smtp.shared")) 2 ++
  demoCall 2 (.upsertConfig (demoRelay (some "t1") "smtp.own")) 2 ++
  demoCall 3 (.send (demoMessage "t1") (some ⟨"a1", "app_1"⟩)) 6 ++
  demoCall 4 (.send (demoMessage "t2") none) 5

/-- What is delivered in a demonstration: through which host, and as whom. -/
def deliveredBy (journal : RelayJournal) :
    List (String × Option (String × String)) :=
  journal.delivered.map fun delivery => (delivery.mail.host, delivery.mail.auth)

theorem relayed_as_saved_demoMail :
    ∃ final journal,
      Run ((relayCalls demoSecrets noFallback ⟨2, 5⟩).watch
          RelayJournal.observe) (fun _ _ => True) (⟨.empty, []⟩, .start) demoMail
        (final, journal) ∧
      deliveredBy journal =
        [("smtp.own", some ("mailer", demoPassword)),
          ("smtp.shared", some ("mailer", demoPassword))] ∧
      ∀ delivery ∈ journal.delivered, ∃ own later smtp,
        delivery.received ≤ own ∧ own ≤ later ∧ later ≤ delivery.handedOn ∧
          Book.relayFor noFallback (Book.after (journal.changes.take own))
            (Book.after (journal.changes.take later)) delivery.dto.tenantId =
              some smtp ∧
          delivery.mail = delivery.dto.mail smtp := by
  obtain ⟨⟨final, journal⟩, run, ends⟩ := Run.exists_of_execute
    ((relayCalls demoSecrets noFallback ⟨2, 5⟩).watch RelayJournal.observe)
    (fun _ _ => true) (fun _ _ _ => trivial) (⟨.empty, []⟩, .start) demoMail
    (fun state => deliveredBy state.2 =
      [("smtp.own", some ("mailer", demoPassword)),
        ("smtp.shared", some ("mailer", demoPassword))])
    (by decide +kernel)
  refine ⟨final, journal, run, of_decide_eq_true ends, ?_⟩
  intro delivery present
  obtain ⟨⟨own, later, smtp, isSince, inOrder, isBefore, _, chosen, isMail⟩, _⟩ :=
    relayed_as_saved run delivery present
  exact ⟨own, later, smtp, isSince, inOrder, isBefore, chosen, isMail⟩

end Email
end EvoPlatform
