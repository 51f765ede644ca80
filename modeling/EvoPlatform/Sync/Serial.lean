import EvoPlatform.Foundation.Transition
import EvoPlatform.Sync.Client

/-!
# Operations of several tabs

The tabs of a tenant share one local database.  Every operation of the data
layer and every application of a pulled page is one transaction on it, apart
from `renameProject` and `toggleTask`, which read their row in a transaction of
its own.  A run that never writes back a stale row is a serial execution of its
operations, in the order in which they write.
-/

namespace EvoPlatform
namespace Sync

open Offline

/-! ## Serial execution -/

/-- An operation on the local database, with the ids it draws. -/
inductive Operation
  | createProject (id name : String)
  | renameProject (id name : String)
  | deleteProject (id : String)
  | addTask (projectId uuid title : String)
  | toggleTask (id : String)
  | deleteTask (id : String)
  | applyChanges (page : SyncResponse)
  deriving DecidableEq

/-- Run a whole operation, with nothing in between. -/
def Operation.run (db : TenantDatabase) (now : Nat) :
    Operation → TenantDatabase
  | .createProject id name => db.createProject id name now
  | .renameProject id name =>
      match db.projects.find? id with
      | none => db
      | some existing => db.commitRename existing name now
  | .deleteProject id => db.deleteProject id
  | .addTask projectId uuid title => db.addTask projectId uuid title now
  | .toggleTask id =>
      match db.tasks.find? id with
      | none => db
      | some task => db.commitToggle task now
  | .deleteTask id => db.deleteTask id
  | .applyChanges page => Sync.applyChanges db page

/-- Run operations one after another, each at its time. -/
def serially (db : TenantDatabase) (calls : List (Operation × Nat)) :
    TenantDatabase :=
  calls.foldl (fun db call => call.1.run db call.2) db

@[simp] theorem serially_nil (db : TenantDatabase) : serially db [] = db := rfl

@[simp] theorem serially_singleton
    (db : TenantDatabase) (operation : Operation) (now : Nat) :
    serially db [(operation, now)] = operation.run db now := rfl

theorem serially_append
    (db : TenantDatabase) (first second : List (Operation × Nat)) :
    serially db (first ++ second) = serially (serially db first) second :=
  List.foldl_append

/-! ## Interleaved execution -/

/-- The shared database and the calls of all tabs that have read their row. -/
structure Tabs where
  db : TenantDatabase
  calls : Calls

/-- What can come next: a transaction of the data layer, or that of a pulled
page. -/
inductive TabEvent
  | edit (event : Edit)
  | applyChanges (page : SyncResponse)

def Tabs.step (tabs : Tabs) : TabEvent → Option Tabs
  | .edit event =>
      (Offline.edit tabs.db tabs.calls event).map fun edited =>
        ⟨edited.1, edited.2⟩
  | .applyChanges page =>
      some { tabs with db := Sync.applyChanges tabs.db page }

/-- The operation that is called with an event; a call that has read is
continued. -/
def TabEvent.called : TabEvent → Option Operation
  | .edit (.createProject id name _) => some (.createProject id name)
  | .edit (.renameProject id name) => some (.renameProject id name)
  | .edit (.commitRename _ _) => none
  | .edit (.deleteProject id) => some (.deleteProject id)
  | .edit (.addTask projectId uuid title _) =>
      some (.addTask projectId uuid title)
  | .edit (.toggleTask id) => some (.toggleTask id)
  | .edit (.commitToggle _ _) => none
  | .edit (.deleteTask id) => some (.deleteTask id)
  | .applyChanges page => some (.applyChanges page)

/-- The calls that have not written yet. -/
def unfinished (calls : Calls) : List Operation :=
  calls.renames.map (fun call => .renameProject call.1.id call.2) ++
    calls.toggles.map fun task => .toggleTask task.id

/-- A call that writes back a row finds it as it was read, apart from what it
overwrites. -/
def WritesBackCurrent (tabs : Tabs) : TabEvent → Prop
  | .edit (.commitRename call _) =>
      ∃ stored, tabs.db.projects.find? call.1.id = some stored ∧
        stored.description = call.1.description ∧
        stored.status = call.1.status
  | .edit (.commitToggle task _) =>
      ∃ stored, tabs.db.tasks.find? task.id = some stored ∧
        stored.projectId = task.projectId ∧ stored.title = task.title ∧
        stored.done = task.done
  | _ => True

section Steps

variable {tabs next : Tabs} {event : TabEvent}

/-- The operations that are over after a step, with their times. -/
structure Finishes (tabs : Tabs) (event : TabEvent) (next : Tabs)
    (finished : List (Operation × Nat)) : Prop where
  /-- None is lost, and none is run twice. -/
  accounted : (finished.map Prod.fst ++ unfinished next.calls).Perm
    (unfinished tabs.calls ++ event.called.toList)
  result : next.db = serially tabs.db finished

/-- A call of `renameProject` that finds the row as it was does what the whole
operation does. -/
theorem run_renameProject
    {db : TenantDatabase}
    {read stored : LocalProject}
    {name : String}
    {now : Nat}
    (found : db.projects.find? read.id = some stored)
    (sameDescription : stored.description = read.description)
    (sameStatus : stored.status = read.status) :
    Operation.run db now (.renameProject read.id name) =
      db.commitRename read name now := by
  have sameId : stored.id = read.id := db.projects.key_of_find? found
  simp only [Operation.run, found, TenantDatabase.commitRename, sameId,
    sameDescription, sameStatus]

theorem run_toggleTask
    {db : TenantDatabase}
    {read stored : LocalTask}
    {now : Nat}
    (found : db.tasks.find? read.id = some stored)
    (sameProject : stored.projectId = read.projectId)
    (sameTitle : stored.title = read.title)
    (sameDone : stored.done = read.done) :
    Operation.run db now (.toggleTask read.id) = db.commitToggle read now := by
  have sameId : stored.id = read.id := db.tasks.key_of_find? found
  simp only [Operation.run, found, TenantDatabase.commitToggle, sameId,
    sameProject, sameTitle, sameDone]

/-- A whole `toggleTask` turns its task over, if there is one. -/
theorem done_toggleTask (db : TenantDatabase) (now : Nat) (id : String) :
    ((Operation.run db now (.toggleTask id)).tasks.find? id).map
        LocalTask.done =
      ((db.tasks.find? id).map LocalTask.done).map not := by
  cases found : db.tasks.find? id with
  | none => simp [Operation.run, found]
  | some task =>
      have isRow : task.id = id := db.tasks.key_of_find? found
      simp [Operation.run, found, TenantDatabase.commitToggle,
        TenantDatabase.writeTask, Table.find?_put, isRow]

/-- An operation that is called and over in one step. -/
theorem finishes_called
    {operation : Operation}
    (isCalled : event.called = some operation)
    (now : Nat)
    (sameCalls : next.calls = tabs.calls)
    (result : next.db = operation.run tabs.db now) :
    Finishes tabs event next [(operation, now)] where
  accounted := by
    rw [isCalled, sameCalls]
    exact List.perm_append_comm
  result := result

/-- Every step finishes some operations, unless it writes back a stale row. -/
theorem step_finishes
    (current : WritesBackCurrent tabs event)
    (stepped : tabs.step event = some next) :
    ∃ finished, Finishes tabs event next finished := by
  cases event with
  | applyChanges page =>
      obtain rfl := Option.some.inj stepped
      exact ⟨_, finishes_called rfl 0 rfl rfl⟩
  | edit event =>
      cases event with
      | createProject id name now =>
          obtain rfl := Option.some.inj stepped
          exact ⟨_, finishes_called rfl now rfl rfl⟩
      | deleteProject id =>
          obtain rfl := Option.some.inj stepped
          exact ⟨_, finishes_called rfl 0 rfl rfl⟩
      | addTask projectId uuid title now =>
          obtain rfl := Option.some.inj stepped
          exact ⟨_, finishes_called rfl now rfl rfl⟩
      | deleteTask id =>
          obtain rfl := Option.some.inj stepped
          exact ⟨_, finishes_called rfl 0 rfl rfl⟩
      | renameProject id name =>
          obtain rfl := Option.some.inj stepped
          cases found : tabs.db.projects.find? id with
          | none =>
              refine ⟨_, finishes_called rfl 0 rfl ?_⟩
              simp only [Operation.run, found]
          | some existing =>
              have isRow : existing.id = id :=
                tabs.db.projects.key_of_find? found
              refine ⟨[], ?_, rfl⟩
              simp only [unfinished, TabEvent.called, List.map_append,
                List.map_cons, List.map_nil, isRow, Option.toList_some,
                List.nil_append, List.append_assoc]
              exact List.perm_append_comm.append_left _
      | toggleTask id =>
          obtain rfl := Option.some.inj stepped
          cases found : tabs.db.tasks.find? id with
          | none =>
              refine ⟨_, finishes_called rfl 0 rfl ?_⟩
              simp only [Operation.run, found]
          | some task =>
              have isRow : task.id = id := tabs.db.tasks.key_of_find? found
              refine ⟨[], ?_, rfl⟩
              simp [unfinished, TabEvent.called, isRow]
      | commitRename call now =>
          obtain ⟨stored, found, sameDescription, sameStatus⟩ := current
          simp only [Tabs.step, edit] at stepped
          split at stepped
          · rename_i isOpen
            obtain rfl := Option.some.inj stepped
            refine ⟨[(.renameProject call.1.id call.2, now)], ?_,
              (run_renameProject found sameDescription sameStatus).symm⟩
            have remaining := (List.perm_cons_erase isOpen).map
              fun call : LocalProject × String =>
                Operation.renameProject call.1.id call.2
            simpa [unfinished, TabEvent.called] using
              (remaining.append_right _).symm
          · cases stepped
      | commitToggle task now =>
          obtain ⟨stored, found, sameProject, sameTitle, sameDone⟩ := current
          simp only [Tabs.step, edit] at stepped
          split at stepped
          · rename_i isOpen
            obtain rfl := Option.some.inj stepped
            refine ⟨[(.toggleTask task.id, now)], ?_,
              (run_toggleTask found sameProject sameTitle sameDone).symm⟩
            have remaining := (List.perm_cons_erase isOpen).map
              fun task : LocalTask => Operation.toggleTask task.id
            simpa [unfinished, TabEvent.called] using
              List.perm_middle.symm.trans (remaining.append_left _).symm
          · cases stepped

end Steps

/-- Whatever the tabs do and whichever pages are applied, in any order of their
transactions, the database is that after some serial execution of the operations
that were called and are over, as long as no call writes back a stale row. -/
theorem tabs_serialisable
    {db : TenantDatabase}
    {events : List TabEvent}
    {tabs : Tabs}
    (run : Run Tabs.step WritesBackCurrent ⟨db, ⟨[], []⟩⟩ events tabs) :
    ∃ serial : List (Operation × Nat),
      (serial.map Prod.fst ++ unfinished tabs.calls).Perm
        (events.filterMap TabEvent.called) ∧
      tabs.db = serially db serial := by
  suffices general : ∀ start : Tabs,
      Run Tabs.step WritesBackCurrent start events tabs →
      ∃ serial : List (Operation × Nat),
        (serial.map Prod.fst ++ unfinished tabs.calls).Perm
          (unfinished start.calls ++ events.filterMap TabEvent.called) ∧
        tabs.db = serially start.db serial from
    general _ run
  clear run
  intro start run
  induction run with
  | nil state => exact ⟨[], by simp, rfl⟩
  | @cons state next final event events current stepped _
      inductionHypothesis =>
      obtain ⟨finished, finishes⟩ := step_finishes current stepped
      obtain ⟨serial, accounted, result⟩ := inductionHypothesis
      have calledFirst : (event :: events).filterMap TabEvent.called =
          event.called.toList ++ events.filterMap TabEvent.called := by
        cases called : event.called <;> simp [called]
      refine ⟨finished ++ serial, ?_, ?_⟩
      · rw [List.map_append, List.append_assoc, calledFirst,
          ← List.append_assoc (unfinished state.calls)]
        have rest := accounted.append_left (finished.map Prod.fst)
        have first := finishes.accounted.append_right
          (events.filterMap TabEvent.called)
        rw [List.append_assoc (finished.map Prod.fst)] at first
        exact rest.trans first
      · rw [serially_append, ← finishes.result, result]

/-- A database with one task in it. -/
def withTask : TenantDatabase :=
  (TenantDatabase.empty "browser").addTask "prj_1" "0" "Buy milk" 0

/-- The task of that database, as it is read. -/
def openTask : LocalTask := ⟨"prj_1::0", "prj_1", "Buy milk", false, 0⟩

theorem tabs_serialisable_twoTabs :
    let events : List TabEvent :=
      [.edit (.toggleTask "prj_1::0"), .edit (.addTask "prj_1" "1" "Buy tea" 1),
        .edit (.commitToggle openTask 2)]
    ∃ tabs, Run Tabs.step WritesBackCurrent ⟨withTask, ⟨[], []⟩⟩ events tabs ∧
      ∃ serial : List (Operation × Nat),
        (serial.map Prod.fst ++ unfinished tabs.calls).Perm
          (events.filterMap TabEvent.called) ∧
        tabs.db = serially withTask serial := by
  intro events
  have run : Run Tabs.step WritesBackCurrent ⟨withTask, ⟨[], []⟩⟩ events
      ⟨(withTask.addTask "prj_1" "1" "Buy tea" 1).commitToggle openTask 2,
        ⟨[], []⟩⟩ := by
    have isStored : (withTask.addTask "prj_1" "1" "Buy tea" 1).tasks.find?
        openTask.id = some openTask := by
      decide +kernel
    exact .cons trivial rfl (.cons trivial rfl
      (.cons ⟨openTask, isStored, rfl, rfl, rfl⟩ rfl (.nil _)))
  exact ⟨_, run, tabs_serialisable run⟩

/-- Two tabs toggle one task and both read it first: it ends up done, which no
serial execution of the two operations does. -/
theorem tabs_lostToggle :
    (∃ tabs, Run Tabs.step (fun _ _ => True) ⟨withTask, ⟨[], []⟩⟩
        [.edit (.toggleTask "prj_1::0"), .edit (.toggleTask "prj_1::0"),
          .edit (.commitToggle openTask 1), .edit (.commitToggle openTask 2)]
        tabs ∧
      unfinished tabs.calls = [] ∧
      (tabs.db.tasks.find? "prj_1::0").map LocalTask.done = some true) ∧
    ∀ serial : List (Operation × Nat),
      (serial.map Prod.fst).Perm
        [.toggleTask "prj_1::0", .toggleTask "prj_1::0"] →
      ((serially withTask serial).tasks.find? "prj_1::0").map LocalTask.done =
        some false := by
  constructor
  · exact ⟨_, .cons trivial rfl (.cons trivial rfl (.cons trivial rfl
      (.cons trivial rfl (.nil _)))), rfl, by decide +kernel⟩
  · intro serial isSerial
    have twice : serial.map Prod.fst =
        [.toggleTask "prj_1::0", .toggleTask "prj_1::0"] := by
      have isReplicate : [Operation.toggleTask "prj_1::0",
          .toggleTask "prj_1::0"] = List.replicate 2 (.toggleTask "prj_1::0") :=
        rfl
      rw [isReplicate] at isSerial ⊢
      exact List.perm_replicate.mp isSerial
    obtain ⟨⟨_, first⟩, others, rfl, rfl, once⟩ := List.map_eq_cons_iff.mp twice
    obtain ⟨⟨_, second⟩, others, rfl, rfl, nothing⟩ :=
      List.map_eq_cons_iff.mp once
    obtain rfl := List.map_eq_nil_iff.mp nothing
    simp only [serially, List.foldl_cons, List.foldl_nil]
    rw [done_toggleTask, done_toggleTask]
    decide +kernel

end Sync
end EvoPlatform
