import Wescale.Lib.Interleaving

/-!
# The non-transactional DML job controller, goroutine by goroutine

`jobcontroller/controller.go` keeps each DML job as a row of
`mysql.non_transactional_dml_jobs` and moves it through its statuses from several goroutines: the
user's commands (`SubmitJob`, `PauseJob`, `ResumeJob`, `LaunchJob`, `CancelJob`), the scheduling
rounds of `jobManager`, `recoverJobsMetadata`, and the goroutines those start,
`prepareDMLJob` and `dmlJobBatchRunner`. The table `jc.workingTables` is meant to keep one job
per table between preparation and the end of its run.

The model is the interleaving semantics of `Interleaving`: the shared state is the job rows
and `workingTables`, the threads are the goroutines, and each thread is cut into the atomic
steps the code takes: one status read or status write (each holds `tableMutex`), one critical
section under `workingTablesMutex`, one scheduling round of `jobManager` (it holds both mutexes
for the whole round). A goroutine is a constructor of `Goroutine` with its program counter; a
command that reads a status and then writes one is two constructors, one for each step.

Every SQL statement may fail. The outside world answers each step with a `World`: whether the
step's statements succeed or its check passes, what one iteration of the runner meets, and for
each job whether now is inside its running time period and whether its table is due for
garbage collection.

The message columns, batch tables and throttling are not modelled beyond the outcomes they
give the steps above.
-/

set_option autoImplicit false

namespace Wescale.Jobcontroller

/-- The column status. -/
inductive JobStatus where
  | submitted
  | preparing
  | queued
  | postponeLaunch
  | running
  | paused
  | canceled
  | failed
  | completed
  | notInTimePeriod
  deriving DecidableEq, Repr

/-- The statuses `CancelJob` refuses and `jobManager` garbage-collects. -/
def JobStatus.isFinished : JobStatus → Bool
  | .canceled | .failed | .completed => true
  | _ => false

/-- The column fail_policy: what `dmlJobBatchRunner` does when a batch fails. -/
inductive FailPolicy where
  | skip
  | pause
  | abort
  | retryThenPause
  deriving DecidableEq, Repr

/-- A row of `mysql.non_transactional_dml_jobs`, with the columns the scheduling reads. -/
structure Job where
  uuid : String
  table : String
  status : JobStatus
  failPolicy : FailPolicy
  postponeLaunch : Bool
  deriving DecidableEq, Repr

/-- What the goroutines share: the job rows in id order, and `jc.workingTables`. -/
structure JobController where
  jobs : List Job
  workingTables : List String
  deriving DecidableEq, Repr

/-- What one iteration of `dmlJobBatchRunner` meets after its status check. -/
inductive BatchResult where
  /-- `requestThrottle` refuses: the loop goes round again. -/
  | throttled
  /-- `getBatchIDToExec` or `getBatchSQLsByID` returns an error. -/
  | queryFailed
  /-- `getBatchIDToExec` finds no batch left. -/
  | noneLeft
  /-- `execBatchAndRecord` succeeds. -/
  | executed
  /-- `execBatchAndRecord` returns an error. -/
  | execFailed
  deriving DecidableEq, Repr

/-- What the outside world answers to one atomic step. -/
structure World where
  /-- The step's SQL statements succeed, or its check passes (the PK types are supported, the
  select of the PKs finds rows). -/
  ok : Bool
  batch : BatchResult
  /-- For each job, whether now is inside its running time period (always, for a job without
  one). -/
  inTimePeriod : String → Bool
  /-- For each finished job, whether `tableGCInterval` has passed since its status was set. -/
  gcDue : String → Bool

/-! ## The job rows and `workingTables` -/

/-- `updateJobStatus`: `sqlDMLJobUpdateStatus` sets the status of the rows of `uuid`, when it
succeeds. -/
def updateJobStatus (ok : Bool) (jobs : List Job) (uuid : String) (status : JobStatus) :
    List Job :=
  if ok then jobs.map fun j => if j.uuid = uuid then { j with status := status } else j
  else jobs

/-- `getStrJobInfo`: the row its field is read from. It is an error, here `none`, when the query
fails or there is not exactly one row of `uuid`. -/
def getStrJobInfo (ok : Bool) (jobs : List Job) (uuid : String) : Option Job :=
  if ok then
    match jobs.filter (fun j => j.uuid = uuid) with
    | [j] => some j
    | _ => none
  else none

/-- `insertJobEntry`: the new row, unless the statement fails; `job_uuid` is a unique key. -/
def insertJobEntry (ok : Bool) (jobs : List Job) (job : Job) : List Job :=
  if ok ∧ jobs.all (fun j => j.uuid ≠ job.uuid) then jobs ++ [job] else jobs

/-- `sqlDMLJobDeleteJob`, as `tableGC` runs it. -/
def deleteJob (jobs : List Job) (uuid : String) : List Job :=
  jobs.filter fun j => j.uuid ≠ uuid

/-- `initDMLJobRunningMeta`: `jc.workingTables[table] = true`. -/
def initDMLJobRunningMeta (workingTables : List String) (table : String) : List String :=
  workingTables.insert table

/-- `deleteDMLJobRunningMeta`: `delete(jc.workingTables, table)`. -/
def deleteDMLJobRunningMeta (workingTables : List String) (table : String) : List String :=
  workingTables.filter fun t => t ≠ table

/-- The status of the row of `uuid`, as the properties read it. -/
def statusOf (jobs : List Job) (uuid : String) : Option JobStatus :=
  (jobs.find? fun j => j.uuid = uuid).map Job.status

section Rows

variable {jobs : List Job} {ok : Bool} {uuid v : String} {status : JobStatus}

@[simp] theorem statusOf_nil : statusOf [] v = none := rfl

theorem statusOf_cons (j : Job) :
    statusOf (j :: jobs) v = if j.uuid = v then some j.status else statusOf jobs v := by
  by_cases h : j.uuid = v <;> simp [statusOf, h]

theorem statusOf_eq_none_iff : statusOf jobs v = none ↔ v ∉ jobs.map Job.uuid := by
  induction jobs with
  | nil => simp
  | cons j js ih =>
    rw [statusOf_cons]
    by_cases h : j.uuid = v
    · simp [h]
    · simp [h, ih, Ne.symm h]

/-- With one row per uuid, each row is the row of its uuid. -/
theorem statusOf_of_mem {job : Job} (hnd : (jobs.map Job.uuid).Nodup) (hmem : job ∈ jobs) :
    statusOf jobs job.uuid = some job.status := by
  induction jobs with
  | nil => cases hmem
  | cons j js ih =>
    rw [List.map_cons, List.nodup_cons] at hnd
    rw [statusOf_cons]
    rcases List.mem_cons.mp hmem with rfl | hjs
    · simp
    · have hne : j.uuid ≠ job.uuid := fun e => hnd.1 (e ▸ List.mem_map_of_mem hjs)
      rw [if_neg hne]
      exact ih hnd.2 hjs

@[simp] theorem updateJobStatus_false : updateJobStatus false jobs uuid status = jobs := rfl

@[simp] theorem map_uuid_updateJobStatus :
    (updateJobStatus ok jobs uuid status).map Job.uuid = jobs.map Job.uuid := by
  unfold updateJobStatus
  split
  · rw [List.map_map]
    congr 1
    funext j
    by_cases h : j.uuid = uuid <;> simp [h]
  · rfl

/-- A status write leaves the other jobs as they were. -/
theorem statusOf_updateJobStatus_ne (h : v ≠ uuid) :
    statusOf (updateJobStatus ok jobs uuid status) v = statusOf jobs v := by
  cases ok with
  | false => rfl
  | true =>
    induction jobs with
    | nil => rfl
    | cons j js ih =>
      by_cases hj : j.uuid = uuid
      · have hjv : j.uuid ≠ v := fun e => h (e ▸ hj)
        simp_all [updateJobStatus, statusOf_cons]
      · simp_all [updateJobStatus, statusOf_cons]

/-- A status write that succeeds on a row sets its status. -/
theorem statusOf_updateJobStatus_self (h : statusOf jobs uuid ≠ none) :
    statusOf (updateJobStatus true jobs uuid status) uuid = some status := by
  induction jobs with
  | nil => exact absurd rfl h
  | cons j js ih =>
    by_cases hj : j.uuid = uuid
    · simp [updateJobStatus, statusOf_cons, hj]
    · rw [statusOf_cons, if_neg hj] at h
      simp_all [updateJobStatus, statusOf_cons]

theorem statusOf_deleteJob_self : statusOf (deleteJob jobs uuid) uuid = none := by
  induction jobs with
  | nil => rfl
  | cons j js ih => by_cases hj : j.uuid = uuid <;> simp_all [deleteJob, statusOf_cons]

theorem statusOf_deleteJob_ne (h : v ≠ uuid) : statusOf (deleteJob jobs uuid) v = statusOf jobs v := by
  induction jobs with
  | nil => rfl
  | cons j js ih =>
    by_cases hj : j.uuid = uuid
    · have hjv : j.uuid ≠ v := fun e => h (e ▸ hj)
      simp_all [deleteJob, statusOf_cons]
    · simp_all [deleteJob, statusOf_cons]

theorem map_uuid_deleteJob_sublist : ((deleteJob jobs uuid).map Job.uuid).Sublist (jobs.map Job.uuid) :=
  (List.filter_sublist).map Job.uuid

/-- A new row's uuid is new. -/
theorem nodup_insertJobEntry (job : Job) (h : (jobs.map Job.uuid).Nodup) :
    ((insertJobEntry ok jobs job).map Job.uuid).Nodup := by
  unfold insertJobEntry
  split
  next hnew =>
    have hfresh : job.uuid ∉ jobs.map Job.uuid := by
      intro hmem
      obtain ⟨j, hj, hju⟩ := List.mem_map.mp hmem
      have := List.all_eq_true.mp hnew.2 j hj
      simp_all
    rw [List.map_append, List.map_singleton, List.nodup_append]
    refine ⟨h, List.pairwise_singleton _ _, ?_⟩
    intro a ha b hb hab
    rw [List.mem_singleton] at hb
    rw [hab, hb] at ha
    exact hfresh ha
  next => exact h

end Rows

/-! ## The goroutines -/

/-- Where a `prepareDMLJob` goroutine stands: before each step that can fail or touches what the
goroutines share. -/
inductive PreparePc where
  /-- Step 2, `getTablePkInfo`. -/
  | getTablePkInfo
  /-- `existUnSupportedPK`. -/
  | existUnSupportedPK
  /-- Step 4, `createBatchTable` up to its status write: the select of the PKs, which fails with
  "this DML sql won't affect any rows" when it finds none, and the creation of the batch
  table. -/
  | createBatchTable
  /-- `createBatchTable` sets the status to preparing. -/
  | setPreparing
  /-- `createBatchTable` inserts the batches. -/
  | insertBatches
  /-- Step 5: the status queued, or postpone-launch. -/
  | setQueued
  /-- `notifyJobManager`, and return. -/
  | notify
  /-- `FailJob`'s status write; `FailJob` then deletes the table from `workingTables`, and
  `prepareDMLJob` goes on at `next`. -/
  | failJob (next : PreparePc)
  /-- `FailJob`'s `deleteDMLJobRunningMeta`. -/
  | deleteMeta (next : PreparePc)
  deriving DecidableEq, Repr

/-- One atomic step of `prepareDMLJob uuid`: the new shared state and where the goroutine goes
on, if it does. Each error calls `FailJob` and goes on with the next step of the function. -/
def prepareDMLJob (w : World) (jc : JobController) (uuid table : String) (postponeLaunch : Bool) :
    PreparePc → JobController × Option PreparePc
  | .getTablePkInfo => (jc, some (if w.ok then .existUnSupportedPK else .failJob .existUnSupportedPK))
  | .existUnSupportedPK => (jc, some (if w.ok then .createBatchTable else .failJob .createBatchTable))
  | .createBatchTable => (jc, some (if w.ok then .setPreparing else .failJob .setQueued))
  | .setPreparing =>
    ({ jc with jobs := updateJobStatus w.ok jc.jobs uuid .preparing },
      some (if w.ok then .insertBatches else .failJob .setQueued))
  | .insertBatches => (jc, some (if w.ok then .setQueued else .failJob .setQueued))
  | .setQueued =>
    ({ jc with
        jobs := updateJobStatus w.ok jc.jobs uuid (if postponeLaunch then .postponeLaunch else .queued) },
      some (if w.ok then .notify else .failJob .notify))
  | .notify => (jc, none)
  | .failJob next => ({ jc with jobs := updateJobStatus w.ok jc.jobs uuid .failed }, some (.deleteMeta next))
  | .deleteMeta next =>
    ({ jc with workingTables := deleteDMLJobRunningMeta jc.workingTables table }, some next)

/-- Where a `dmlJobBatchRunner` goroutine stands. -/
inductive RunnerPc where
  /-- The status running, written on entry without a look at the status. -/
  | setRunning
  /-- The head of the loop: the status read, then the time-period check. -/
  | checkStatus
  /-- The status not-in-time-period, then return. -/
  | setNotInTimePeriod
  /-- One iteration's work: the throttle, the next batch, and its execution. -/
  | execBatch
  /-- `CompleteJob`, then return. -/
  | completeJob
  /-- The fail policy pause: the status paused, then return. -/
  | setPaused
  /-- `FailJob`'s status write, then its `deleteDMLJobRunningMeta`, then `next`. -/
  | failJob (next : RunnerPc)
  /-- `FailJob`'s `deleteDMLJobRunningMeta`. -/
  | deleteMeta (next : RunnerPc)
  /-- Return. -/
  | exit
  deriving DecidableEq, Repr

/-- `CompleteJob`, under `workingTablesMutex`: the status completed and the table out of
`workingTables`; `none` when the status write fails. -/
def completeJob (ok : Bool) (jc : JobController) (uuid table : String) : Option JobController :=
  if ok then
    some ⟨updateJobStatus true jc.jobs uuid .completed, deleteDMLJobRunningMeta jc.workingTables table⟩
  else none

/-- One atomic step of `dmlJobBatchRunner uuid`. -/
def dmlJobBatchRunner (w : World) (jc : JobController) (uuid table : String) (failPolicy : FailPolicy) :
    RunnerPc → JobController × Option RunnerPc
  | .setRunning =>
    ({ jc with jobs := updateJobStatus w.ok jc.jobs uuid .running },
      some (if w.ok then .checkStatus else .failJob .checkStatus))
  | .checkStatus =>
    match getStrJobInfo w.ok jc.jobs uuid with
    | none => (jc, some (.failJob .exit))
    | some job =>
      -- a job paused or canceled by the user ends the loop
      if job.status ≠ .running then (jc, none)
      else (jc, some (if w.inTimePeriod uuid then .execBatch else .setNotInTimePeriod))
  | .setNotInTimePeriod =>
    ({ jc with jobs := updateJobStatus w.ok jc.jobs uuid .notInTimePeriod },
      if w.ok then none else some (.failJob .exit))
  | .execBatch =>
    match w.batch with
    | .throttled | .executed => (jc, some .checkStatus)
    | .queryFailed => (jc, some (.failJob .exit))
    | .noneLeft => (jc, some .completeJob)
    | .execFailed =>
      match failPolicy with
      | .abort => (jc, some (.failJob .exit))
      | .skip | .retryThenPause => (jc, some .checkStatus)
      | .pause => (jc, some .setPaused)
  | .completeJob =>
    match completeJob w.ok jc uuid table with
    | some jc' => (jc', none)
    | none => (jc, some (.failJob .exit))
  | .setPaused => ({ jc with jobs := updateJobStatus w.ok jc.jobs uuid .paused }, none)
  | .failJob next => ({ jc with jobs := updateJobStatus w.ok jc.jobs uuid .failed }, some (.deleteMeta next))
  | .deleteMeta next =>
    ({ jc with workingTables := deleteDMLJobRunningMeta jc.workingTables table }, some next)
  | .exit => (jc, none)

/-- A goroutine of the controller, at its next atomic step. A user command that reads the status
and then writes it is two constructors: the read, and the write it leads to. -/
inductive Goroutine where
  /-- `SubmitJob`, under `tableMutex`: the row of a new job, submitted. -/
  | submitJob (uuid table : String) (failPolicy : FailPolicy) (postponeLaunch : Bool)
  | pauseJob (uuid : String)
  | pauseJobWrite (uuid : String)
  | resumeJob (uuid : String)
  /-- `ResumeJob` after it read paused: the job's row, then `go dmlJobBatchRunner`. -/
  | resumeJobStart (uuid : String)
  | launchJob (uuid : String)
  | launchJobWrite (uuid : String)
  | cancelJob (uuid : String)
  | cancelJobWrite (uuid : String)
  /-- `CancelJob` after its write: the table name, then `deleteDMLJobRunningMeta`. -/
  | cancelJobDeleteMeta (uuid : String)
  /-- One scheduling round of `jobManager`, on a tick or a notification. -/
  | jobManager
  /-- `recoverJobsMetadata`: the query of all jobs, outside the mutexes. -/
  | recoverJobsMetadata
  /-- `recoverJobsMetadata` under both mutexes, over the rows it read. -/
  | recoverJobsMetadataApply (rows : List Job)
  | prepareDMLJob (uuid table : String) (postponeLaunch : Bool) (pc : PreparePc)
  | dmlJobBatchRunner (uuid table : String) (failPolicy : FailPolicy) (pc : RunnerPc)
  deriving DecidableEq, Repr

/-! ## The scheduling round -/

/-- `checkIfDmlJobCanPrepare`. -/
def checkIfDmlJobCanPrepare (workingTables : List String) (status : JobStatus) (table : String) :
    Bool :=
  if status ≠ .submitted then false
  else if table ∈ workingTables then false
  else true

/-- `checkDmlJobRunnable`: whether to start a runner, and the rows after the status
not-in-time-period it writes to a job outside its time period. -/
def checkDmlJobRunnable (inTimePeriod : Bool) (jobs : List Job) (uuid : String) (status : JobStatus) :
    Bool × List Job :=
  if status ≠ .queued ∧ status ≠ .notInTimePeriod then (false, jobs)
  else if !inTimePeriod then (false, updateJobStatus true jobs uuid .notInTimePeriod)
  else (true, jobs)

/-- What a round of `jobManager` does with one row of `sqlDMLJobGetAllJobs`, given the state so
far and the goroutines started so far. -/
def scheduleJob (w : World) (acc : JobController × List Goroutine) (job : Job) :
    JobController × List Goroutine :=
  match job.status with
  | .submitted =>
    if checkIfDmlJobCanPrepare acc.1.workingTables job.status job.table then
      ({ acc.1 with workingTables := initDMLJobRunningMeta acc.1.workingTables job.table },
        acc.2 ++ [.prepareDMLJob job.uuid job.table job.postponeLaunch .getTablePkInfo])
    else acc
  | .queued | .notInTimePeriod =>
    let r := checkDmlJobRunnable (w.inTimePeriod job.uuid) acc.1.jobs job.uuid job.status
    ({ acc.1 with jobs := r.2 },
      if r.1 then acc.2 ++ [.dmlJobBatchRunner job.uuid job.table job.failPolicy .setRunning]
      else acc.2)
  | .canceled | .failed | .completed =>
    -- tableGC deletes the row once its interval has passed
    if w.gcDue job.uuid then ({ acc.1 with jobs := deleteJob acc.1.jobs job.uuid }, acc.2) else acc
  | _ => acc

/-- One round of `jobManager`: the rows it reads, in id order, each scheduled in turn. -/
def jobManager (w : World) (jc : JobController) : JobController × List Goroutine :=
  if w.ok then jc.jobs.foldl (scheduleJob w) (jc, []) else (jc, [])

/-- What `recoverJobsMetadata` does with one row. -/
def recoverJob (acc : List String × List Goroutine) (job : Job) : List String × List Goroutine :=
  match job.status with
  | .preparing =>
    (initDMLJobRunningMeta acc.1 job.table,
      acc.2 ++ [.prepareDMLJob job.uuid job.table job.postponeLaunch .getTablePkInfo])
  | .queued | .notInTimePeriod | .paused => (initDMLJobRunningMeta acc.1 job.table, acc.2)
  | .running =>
    (initDMLJobRunningMeta acc.1 job.table,
      acc.2 ++ [.dmlJobBatchRunner job.uuid job.table job.failPolicy .setRunning])
  | _ => acc

/-! ## One atomic step -/

/-- One atomic step of a goroutine: the new shared state, and the goroutines that take its
place (its continuation, then the goroutines it starts). -/
def stepGoroutine (jc : JobController) (g : Goroutine) (w : World) :
    JobController × List Goroutine :=
  match g with
  | .submitJob uuid table failPolicy postponeLaunch =>
    ({ jc with jobs := insertJobEntry w.ok jc.jobs ⟨uuid, table, .submitted, failPolicy, postponeLaunch⟩ }, [])
  | .pauseJob uuid =>
    match getStrJobInfo w.ok jc.jobs uuid with
    | some job => (jc, if job.status = .running then [.pauseJobWrite uuid] else [])
    | none => (jc, [])
  | .pauseJobWrite uuid => ({ jc with jobs := updateJobStatus w.ok jc.jobs uuid .paused }, [])
  | .resumeJob uuid =>
    match getStrJobInfo w.ok jc.jobs uuid with
    | some job => (jc, if job.status = .paused then [.resumeJobStart uuid] else [])
    | none => (jc, [])
  | .resumeJobStart uuid =>
    match getStrJobInfo w.ok jc.jobs uuid with
    | some job => (jc, [.dmlJobBatchRunner job.uuid job.table job.failPolicy .setRunning])
    | none => (jc, [])
  | .launchJob uuid =>
    match getStrJobInfo w.ok jc.jobs uuid with
    | some job => (jc, if job.status = .postponeLaunch then [.launchJobWrite uuid] else [])
    | none => (jc, [])
  | .launchJobWrite uuid => ({ jc with jobs := updateJobStatus w.ok jc.jobs uuid .queued }, [])
  | .cancelJob uuid =>
    match getStrJobInfo w.ok jc.jobs uuid with
    | some job => (jc, if job.status.isFinished then [] else [.cancelJobWrite uuid])
    | none => (jc, [])
  | .cancelJobWrite uuid =>
    if w.ok then ({ jc with jobs := updateJobStatus true jc.jobs uuid .canceled }, [.cancelJobDeleteMeta uuid])
    else (jc, [])
  | .cancelJobDeleteMeta uuid =>
    -- an error reading table_name leaves the name empty, and the delete goes ahead
    let tableName := ((getStrJobInfo w.ok jc.jobs uuid).map Job.table).getD ""
    ({ jc with workingTables := deleteDMLJobRunningMeta jc.workingTables tableName }, [])
  | .jobManager => jobManager w jc
  | .recoverJobsMetadata => (jc, if w.ok then [.recoverJobsMetadataApply jc.jobs] else [])
  | .recoverJobsMetadataApply rows =>
    let r := rows.foldl recoverJob (jc.workingTables, [])
    ({ jc with workingTables := r.1 }, r.2)
  | .prepareDMLJob uuid table postponeLaunch pc =>
    let r := prepareDMLJob w jc uuid table postponeLaunch pc
    (r.1, r.2.toList.map (.prepareDMLJob uuid table postponeLaunch))
  | .dmlJobBatchRunner uuid table failPolicy pc =>
    let r := dmlJobBatchRunner w jc uuid table failPolicy pc
    (r.1, r.2.toList.map (.dmlJobBatchRunner uuid table failPolicy))

/-- The controller's goroutines over their shared state. -/
abbrev Config := Interleaving.Config JobController Goroutine

/-- A schedule of the controller. -/
abbrev Event := Interleaving.Event Goroutine World

/-- A schedule run from a configuration. -/
def run (c : Config) (es : List Event) : Config := c.run stepGoroutine es

end Wescale.Jobcontroller
