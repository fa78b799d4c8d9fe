import Wescale.Jobcontroller.Controller
import Wescale.Lib.Loop

/-!
# What the job controller's schedules keep, and what they break

Three properties are meant to hold under every interleaving of the controller's goroutines: a
finished status (canceled, failed, completed) stays until the row is collected; at most one
`dmlJobBatchRunner` loop runs the batches of a job; and one table has at most one active job,
the next one staying submitted.

What holds, for every configuration and every step:

* `jobManager` alone keeps the table discipline within a round: it prepares no two jobs on one
  table and none on a table in `workingTables`, and adds exactly the tables it prepares
  (`jobManager_prepares_exclusive`); it keeps every finished status (`jobManager_keepsFinished`);
  it starts a runner for every queued job inside its time period, whatever runners the job
  already has (`jobManager_starts_runner`).
* Job uuids stay unique along every run (`uniqueUuids_run`).
* A `prepareDMLJob` goroutine that has its last status write ahead sets the job queued, from
  every configuration, whatever the status was: failed by its own `FailJob` included
  (`prepareDMLJob_sets_queued`).

The three properties themselves fail, on the schedules of `job_schedules_break_status_rules`.
-/

set_option autoImplicit false

namespace Wescale.Jobcontroller

open Interleaving

/-! ## One round of `jobManager` -/

section Round

variable (w : World) (acc : JobController × List Goroutine) (job : Job)

/-- Everything `scheduleJob` can do with one row, with its guards. -/
theorem scheduleJob_cases :
    scheduleJob w acc job = acc ∨
    (job.status = .submitted ∧ job.table ∉ acc.1.workingTables ∧
      scheduleJob w acc job =
        ({ acc.1 with workingTables := initDMLJobRunningMeta acc.1.workingTables job.table },
          acc.2 ++ [.prepareDMLJob job.uuid job.table job.postponeLaunch .getTablePkInfo])) ∨
    ((job.status = .queued ∨ job.status = .notInTimePeriod) ∧ w.inTimePeriod job.uuid = true ∧
      scheduleJob w acc job =
        (acc.1, acc.2 ++ [.dmlJobBatchRunner job.uuid job.table job.failPolicy .setRunning])) ∨
    ((job.status = .queued ∨ job.status = .notInTimePeriod) ∧ w.inTimePeriod job.uuid = false ∧
      scheduleJob w acc job =
        ({ acc.1 with jobs := updateJobStatus true acc.1.jobs job.uuid .notInTimePeriod }, acc.2)) ∨
    (job.status.isFinished = true ∧ w.gcDue job.uuid = true ∧
      scheduleJob w acc job = ({ acc.1 with jobs := deleteJob acc.1.jobs job.uuid }, acc.2)) := by
  unfold scheduleJob
  cases hs : job.status
  case submitted =>
    by_cases ht : job.table ∈ acc.1.workingTables
    · simp [checkIfDmlJobCanPrepare, ht]
    · simp [checkIfDmlJobCanPrepare, ht]
  case queued | notInTimePeriod =>
    cases hp : w.inTimePeriod job.uuid <;> simp [checkDmlJobRunnable]
  case canceled | failed | completed =>
    cases hg : w.gcDue job.uuid <;> simp [JobStatus.isFinished]
  all_goals simp

end Round

/-- The table a goroutine prepares, for a `prepareDMLJob` goroutine. -/
def Goroutine.preparedTable : Goroutine → Option String
  | .prepareDMLJob _ table _ _ => some table
  | _ => none

/-- What a round keeps of `workingTables` while it goes, from `wt` at its start: the tables it
has prepared are distinct and were not working, and they are what it added. -/
structure RoundTables (wt : List String) (acc : JobController × List Goroutine) : Prop where
  nodup : (acc.2.filterMap Goroutine.preparedTable).Nodup
  fresh : ∀ t ∈ acc.2.filterMap Goroutine.preparedTable, t ∉ wt
  working : ∀ t, t ∈ acc.1.workingTables ↔ t ∈ wt ∨ t ∈ acc.2.filterMap Goroutine.preparedTable

theorem RoundTables.scheduleJob {wt : List String} {acc : JobController × List Goroutine}
    (w : World) (job : Job) (h : RoundTables wt acc) : RoundTables wt (scheduleJob w acc job) := by
  rcases scheduleJob_cases w acc job with hs | ⟨-, hfree, hs⟩ | ⟨-, -, hs⟩ | ⟨-, -, hs⟩ | ⟨-, -, hs⟩ <;>
    rw [hs]
  · exact h
  case inr.inl =>
    -- a new preparation: its table is neither working nor prepared before in the round
    have hwt : job.table ∉ wt := fun hm => hfree ((h.working _).mpr (.inl hm))
    have hprep : job.table ∉ acc.2.filterMap Goroutine.preparedTable :=
      fun hm => hfree ((h.working _).mpr (.inr hm))
    have hone : [Goroutine.prepareDMLJob job.uuid job.table job.postponeLaunch .getTablePkInfo].filterMap
        Goroutine.preparedTable = [job.table] := rfl
    refine ⟨?_, ?_, ?_⟩ <;> simp only [List.filterMap_append, hone]
    · refine List.nodup_append.mpr ⟨h.nodup, List.pairwise_singleton _ _, ?_⟩
      intro a ha b hb hab
      rw [List.mem_singleton] at hb
      rw [hab, hb] at ha
      exact hprep ha
    · intro t ht
      rcases List.mem_append.mp ht with ht | ht
      · exact h.fresh t ht
      · rw [List.mem_singleton.mp ht]
        exact hwt
    · intro t
      rw [initDMLJobRunningMeta, List.mem_insert_iff, h.working, List.mem_append, List.mem_singleton]
      tauto
  all_goals
    refine ⟨?_, ?_, ?_⟩ <;>
      simp only [List.filterMap_append, List.filterMap_cons, Goroutine.preparedTable, List.filterMap_nil,
        List.append_nil]
    · exact h.nodup
    · exact h.fresh
    · exact h.working

/-- **A round prepares each table once, and only a free one.** The tables of the `prepareDMLJob`
goroutines a round of `jobManager` starts are distinct and none of them was in
`workingTables`; after the round, `workingTables` holds exactly those and the ones before. -/
theorem jobManager_prepares_exclusive (w : World) (jc : JobController) :
    ((jobManager w jc).2.filterMap Goroutine.preparedTable).Nodup ∧
    (∀ t ∈ (jobManager w jc).2.filterMap Goroutine.preparedTable, t ∉ jc.workingTables) ∧
    ∀ t, t ∈ (jobManager w jc).1.workingTables ↔
      t ∈ jc.workingTables ∨ t ∈ (jobManager w jc).2.filterMap Goroutine.preparedTable := by
  have hstart : RoundTables jc.workingTables (jc, []) :=
    ⟨List.nodup_nil, (fun _ h => by cases h), (fun t => by simp)⟩
  have hround : RoundTables jc.workingTables (jobManager w jc) := by
    unfold jobManager
    split
    · exact List.foldl_invariant _ (fun acc job h => h.scheduleJob w job) jc.jobs hstart
    · exact hstart
  exact ⟨hround.nodup, hround.fresh, hround.working⟩

/-- From `before` to `after`, every finished job keeps its status, or its row is gone. -/
def KeepsFinished (before after : List Job) : Prop :=
  ∀ uuid s, statusOf before uuid = some s → s.isFinished = true →
    statusOf after uuid = some s ∨ statusOf after uuid = none

/-- What a round keeps of the rows while it goes, from the rows `jobs` it read: the rows still to
schedule have the status it read, and every finished job is as it was or gone. -/
structure RoundRows (jobs rest : List Job) (acc : JobController × List Goroutine) : Prop where
  nodup : (rest.map Job.uuid).Nodup
  pending : ∀ r ∈ rest, statusOf acc.1.jobs r.uuid = some r.status
  keeps : KeepsFinished jobs acc.1.jobs

theorem RoundRows.scheduleJob {jobs rest : List Job} {acc : JobController × List Goroutine}
    (w : World) (job : Job) (h : RoundRows jobs (job :: rest) acc) :
    RoundRows jobs rest (scheduleJob w acc job) := by
  have hnd := h.nodup
  rw [List.map_cons, List.nodup_cons] at hnd
  -- the rows still to come are not the row of this round
  have hother : ∀ r ∈ rest, r.uuid ≠ job.uuid := fun r hr e =>
    hnd.1 (e ▸ List.mem_map_of_mem hr)
  have hpend : ∀ r ∈ rest, statusOf acc.1.jobs r.uuid = some r.status :=
    fun r hr => h.pending r (List.mem_cons_of_mem _ hr)
  rcases scheduleJob_cases w acc job with hs | ⟨-, -, hs⟩ | ⟨-, -, hs⟩ | ⟨hq, -, hs⟩ | ⟨-, -, hs⟩ <;>
    rw [hs]
  · exact ⟨hnd.2, hpend, h.keeps⟩
  · exact ⟨hnd.2, hpend, h.keeps⟩
  · exact ⟨hnd.2, hpend, h.keeps⟩
  · -- not-in-time-period on a row read queued: no finished job is written
    refine ⟨hnd.2, fun r hr => ?_, fun u s hs hfin => ?_⟩
    · rw [statusOf_updateJobStatus_ne (hother r hr)]
      exact hpend r hr
    · have hne : u ≠ job.uuid := by
        rintro rfl
        have hcur := h.pending job List.mem_cons_self
        rcases h.keeps _ s hs hfin with hk | hk <;> rw [hcur] at hk
        · cases hk
          rcases hq with hq | hq <;> rw [hq] at hfin <;> cases hfin
        · cases hk
      rw [statusOf_updateJobStatus_ne hne]
      exact h.keeps u s hs hfin
  · refine ⟨hnd.2, fun r hr => ?_, fun u s hs hfin => ?_⟩
    · rw [statusOf_deleteJob_ne (hother r hr)]
      exact hpend r hr
    · by_cases hu : u = job.uuid
      · exact .inr (hu ▸ statusOf_deleteJob_self)
      · rw [statusOf_deleteJob_ne hu]
        exact h.keeps u s hs hfin

/-- **A round keeps every finished status**, or collects its row: its one status write goes to
jobs it read queued or not-in-time-period, in the same atomic step. -/
theorem jobManager_keepsFinished (w : World) (jc : JobController)
    (hnd : (jc.jobs.map Job.uuid).Nodup) : KeepsFinished jc.jobs (jobManager w jc).1.jobs := by
  have hkeep : KeepsFinished jc.jobs jc.jobs := fun _ _ hs _ => .inl hs
  unfold jobManager
  split
  · have hstart : RoundRows jc.jobs jc.jobs (jc, []) :=
      ⟨hnd, fun r hr => statusOf_of_mem hnd hr, hkeep⟩
    exact (List.foldl_invariant_rest (RoundRows jc.jobs) (f := scheduleJob w)
      (fun job _ _ h => h.scheduleJob w job) jc.jobs hstart).keeps
  · exact hkeep

/-- A round over a completed job and a queued one. -/
theorem jobManager_keepsFinished_completed :
    ([(⟨"job-1", "t", .completed, .pause, false⟩ : Job), ⟨"job-2", "t", .queued, .pause, false⟩].map
      Job.uuid).Nodup ∧
      KeepsFinished [⟨"job-1", "t", .completed, .pause, false⟩, ⟨"job-2", "t", .queued, .pause, false⟩]
        (jobManager ⟨true, .executed, fun _ => true, fun _ => false⟩
          ⟨[⟨"job-1", "t", .completed, .pause, false⟩, ⟨"job-2", "t", .queued, .pause, false⟩],
            []⟩).1.jobs :=
  ⟨by decide, jobManager_keepsFinished ⟨true, .executed, fun _ => true, fun _ => false⟩
    ⟨[⟨"job-1", "t", .completed, .pause, false⟩, ⟨"job-2", "t", .queued, .pause, false⟩], []⟩
    (by decide)⟩

/-- A round keeps the uuids unique. -/
theorem jobManager_nodup (w : World) (jc : JobController) (hnd : (jc.jobs.map Job.uuid).Nodup) :
    ((jobManager w jc).1.jobs.map Job.uuid).Nodup := by
  unfold jobManager
  split
  · refine List.foldl_invariant (fun acc : JobController × List Goroutine => (acc.1.jobs.map Job.uuid).Nodup)
      ?_ jc.jobs hnd
    intro acc job h
    rcases scheduleJob_cases w acc job with hs | ⟨-, -, hs⟩ | ⟨-, -, hs⟩ | ⟨-, -, hs⟩ | ⟨-, -, hs⟩ <;>
      rw [hs]
    · exact h
    · exact h
    · exact h
    · simpa using h
    · exact h.sublist map_uuid_deleteJob_sublist
  · exact hnd

/-! ## What one step does to the job rows -/

/-- The job whose status the goroutine's next step writes without reading it in that step. -/
def Goroutine.writesStatus : Goroutine → Option String
  | .pauseJobWrite uuid | .launchJobWrite uuid | .cancelJobWrite uuid => some uuid
  | .prepareDMLJob uuid _ _ pc =>
    match pc with
    | .setPreparing | .setQueued | .failJob _ => some uuid
    | _ => none
  | .dmlJobBatchRunner uuid _ _ pc =>
    match pc with
    | .setRunning | .setNotInTimePeriod | .completeJob | .setPaused | .failJob _ => some uuid
    | _ => none
  | _ => none

section Step

variable (jc : JobController) (w : World) {g : Goroutine}

/-- A writing step writes one status of its job. -/
theorem stepGoroutine_jobs_of_writesStatus {uuid : String} (h : g.writesStatus = some uuid) :
    ∃ ok status, (stepGoroutine jc g w).1.jobs = updateJobStatus ok jc.jobs uuid status := by
  cases g
  case pauseJobWrite u | launchJobWrite u => cases h; exact ⟨_, _, rfl⟩
  case cancelJobWrite u =>
    cases h
    cases hok : w.ok
    · exact ⟨false, .canceled, by simp [stepGoroutine, hok]⟩
    · exact ⟨true, .canceled, by simp [stepGoroutine, hok]⟩
  case prepareDMLJob u t pl pc =>
    cases pc <;> simp only [Goroutine.writesStatus, reduceCtorEq, Option.some.injEq] at h
    all_goals subst h; exact ⟨_, _, rfl⟩
  case dmlJobBatchRunner u t fp pc =>
    cases pc <;> simp only [Goroutine.writesStatus, reduceCtorEq, Option.some.injEq] at h
    case completeJob =>
      subst h
      cases hok : w.ok
      · exact ⟨false, .completed, by simp [stepGoroutine, dmlJobBatchRunner, completeJob, hok]⟩
      · exact ⟨true, .completed, by simp [stepGoroutine, dmlJobBatchRunner, completeJob, hok]⟩
    all_goals subst h; exact ⟨_, _, rfl⟩
  all_goals simp [Goroutine.writesStatus] at h

/-- Every other step leaves the rows alone, inserts a new row, or is a round of `jobManager`. -/
theorem stepGoroutine_jobs_of_writesStatus_none (h : g.writesStatus = none) :
    (stepGoroutine jc g w).1.jobs = jc.jobs ∨
    (∃ ok job, (stepGoroutine jc g w).1.jobs = insertJobEntry ok jc.jobs job) ∨
    (g = .jobManager ∧ stepGoroutine jc g w = jobManager w jc) := by
  cases g
  case submitJob => exact .inr (.inl ⟨_, _, rfl⟩)
  case jobManager => exact .inr (.inr ⟨rfl, rfl⟩)
  case pauseJob u | resumeJob u | resumeJobStart u | launchJob u | cancelJob u =>
    left
    simp only [stepGoroutine]
    split <;> rfl
  case prepareDMLJob u t pl pc =>
    left
    cases pc <;> simp only [Goroutine.writesStatus, reduceCtorEq] at h <;> rfl
  case dmlJobBatchRunner u t fp pc =>
    left
    cases pc <;> simp only [Goroutine.writesStatus, reduceCtorEq] at h
    case checkStatus =>
      simp only [stepGoroutine, dmlJobBatchRunner]
      split <;> (try split) <;> rfl
    case execBatch =>
      simp only [stepGoroutine, dmlJobBatchRunner]
      split <;> (try split) <;> rfl
    all_goals rfl
  all_goals first | exact .inl rfl | simp [Goroutine.writesStatus] at h

/-- Job uuids are unique: `job_uuid` is a unique key. -/
def UniqueUuids (jc : JobController) : Prop := (jc.jobs.map Job.uuid).Nodup

theorem uniqueUuids_step {jc : JobController} {w : World} (hu : UniqueUuids jc) :
    UniqueUuids (stepGoroutine jc g w).1 := by
  unfold UniqueUuids
  cases hw : g.writesStatus with
  | some uuid =>
    obtain ⟨ok, status, h⟩ := stepGoroutine_jobs_of_writesStatus jc w hw
    rw [h, map_uuid_updateJobStatus]
    exact hu
  | none =>
    rcases stepGoroutine_jobs_of_writesStatus_none jc w hw with h | ⟨ok, job, h⟩ | ⟨-, h⟩
    · rw [h]; exact hu
    · rw [h]; exact nodup_insertJobEntry job hu
    · rw [h]; exact jobManager_nodup w jc hu

end Step

/-- **Uuids stay unique along every run.** -/
theorem uniqueUuids_run (c : Config) (es : List Event) (hu : UniqueUuids c.shared) :
    UniqueUuids (run c es).shared :=
  shared_invariant UniqueUuids (fun _ _ _ h => uniqueUuids_step h) es c hu

/-- From no job, a submission and a round of `jobManager`. -/
theorem uniqueUuids_run_submit :
    UniqueUuids (⟨[], []⟩ : JobController) ∧
      UniqueUuids (run ⟨⟨[], []⟩, []⟩ [.spawn (.submitJob "job-1" "t" .pause false),
        .step 0 ⟨true, .executed, fun _ => true, fun _ => false⟩, .spawn .jobManager,
        .step 0 ⟨true, .executed, fun _ => true, fun _ => false⟩]).shared :=
  ⟨List.nodup_nil, uniqueUuids_run ⟨⟨[], []⟩, []⟩ _ List.nodup_nil⟩

/-! ## `prepareDMLJob` ends by setting the job queued -/

/-- Whether `prepareDMLJob` still has the status write of its step 5 ahead. -/
def PreparePc.beforeQueued : PreparePc → Bool
  | .notify => false
  | .failJob next | .deleteMeta next => next.beforeQueued
  | _ => true

/-- How many steps come before that write, when every statement succeeds. -/
def PreparePc.stepsToQueued : PreparePc → Nat
  | .getTablePkInfo => 5
  | .existUnSupportedPK => 4
  | .createBatchTable => 3
  | .setPreparing => 2
  | .insertBatches => 1
  | .setQueued | .notify => 0
  | .failJob next => next.stepsToQueued + 2
  | .deleteMeta next => next.stepsToQueued + 1

section Prepare

variable {w : World} {uuid table : String} {postponeLaunch : Bool}

/-- One step of `prepareDMLJob` before its last status write, every statement succeeding: it goes
on, one step nearer, and keeps the rows. -/
theorem prepareDMLJob_step_ok (jc : JobController) (uuid table : String) (postponeLaunch : Bool)
    (hok : w.ok = true) {pc : PreparePc} (hpc : pc.beforeQueued = true)
    (hq : pc ≠ .setQueued) :
    ∃ pc', (prepareDMLJob w jc uuid table postponeLaunch pc).2 = some pc' ∧
      pc'.beforeQueued = true ∧ pc'.stepsToQueued + 1 = pc.stepsToQueued ∧
      (prepareDMLJob w jc uuid table postponeLaunch pc).1.jobs.map Job.uuid = jc.jobs.map Job.uuid := by
  cases pc with
  | setQueued => exact absurd rfl hq
  | notify => cases hpc
  | failJob next =>
    exact ⟨.deleteMeta next, rfl, hpc, rfl, map_uuid_updateJobStatus⟩
  | deleteMeta next => exact ⟨next, rfl, hpc, rfl, rfl⟩
  | setPreparing =>
    exact ⟨.insertBatches, by simp [prepareDMLJob, hok], rfl, rfl, map_uuid_updateJobStatus⟩
  | getTablePkInfo => exact ⟨.existUnSupportedPK, by simp [prepareDMLJob, hok], rfl, rfl, rfl⟩
  | existUnSupportedPK => exact ⟨.createBatchTable, by simp [prepareDMLJob, hok], rfl, rfl, rfl⟩
  | createBatchTable => exact ⟨.setPreparing, by simp [prepareDMLJob, hok], rfl, rfl, rfl⟩
  | insertBatches => exact ⟨.setQueued, by simp [prepareDMLJob, hok], rfl, rfl, rfl⟩

theorem PreparePc.eq_setQueued {pc : PreparePc} (hpc : pc.beforeQueued = true)
    (h0 : pc.stepsToQueued = 0) : pc = .setQueued := by
  cases pc <;> simp_all [PreparePc.beforeQueued, PreparePc.stepsToQueued]

/-- **`prepareDMLJob` sets the job queued, whatever it was.** From every configuration in which
goroutine `i` is a `prepareDMLJob` of a job that has a row, with its last status write ahead,
that goroutine's own steps, every statement succeeding, end with the job queued (postpone-launch
when it was submitted so). The status it overwrites is not read: failed, by an earlier
`FailJob` of the same goroutine, or canceled, by the user. -/
theorem prepareDMLJob_sets_queued (hok : w.ok = true) :
    ∀ (n : Nat) (pc : PreparePc) (c : Config) (i : Nat), pc.stepsToQueued = n →
      c.threads[i]? = some (.prepareDMLJob uuid table postponeLaunch pc) →
      pc.beforeQueued = true → uuid ∈ c.shared.jobs.map Job.uuid →
      statusOf (run c (List.replicate (n + 1) (.step i w))).shared.jobs uuid =
        some (if postponeLaunch then .postponeLaunch else .queued)
  | 0, pc, c, i, hn, ht, hpc, hrow => by
    -- the last write itself
    obtain rfl := PreparePc.eq_setQueued hpc hn
    have hrow' : statusOf c.shared.jobs uuid ≠ none := fun h => statusOf_eq_none_iff.mp h hrow
    simp only [run, List.replicate, run_cons, run_nil, exec_step_of_getElem? w ht]
    simp only [stepGoroutine, prepareDMLJob, hok]
    exact statusOf_updateJobStatus_self hrow'
  | n + 1, pc, c, i, hn, ht, hpc, hrow => by
    have hq : pc ≠ .setQueued := by rintro rfl; cases hn
    obtain ⟨pc', hnext, hpc', hsteps, hjobs⟩ :=
      prepareDMLJob_step_ok c.shared uuid table postponeLaunch hok hpc hq
    have hstep : stepGoroutine c.shared (.prepareDMLJob uuid table postponeLaunch pc) w =
        ((prepareDMLJob w c.shared uuid table postponeLaunch pc).1,
          [.prepareDMLJob uuid table postponeLaunch pc']) := by
      simp only [stepGoroutine, hnext, Option.toList_some, List.map_cons, List.map_nil]
    have hi : i < c.threads.length := (List.getElem?_eq_some_iff.mp ht).1
    rw [List.replicate_succ, run, run_cons, exec_step_continue ht hstep]
    refine prepareDMLJob_sets_queued hok n pc' _ i (by omega) ?_ hpc' ?_
    · exact List.getElem?_set_self hi
    · rw [hjobs]; exact hrow

end Prepare

/-! ## Schedules that break the three rules -/

/-- The controller before any job. -/
def start : Config := ⟨⟨[], []⟩, []⟩

/-- Every statement succeeds, every job is inside its time period, no table is due for
collection, and batches execute. -/
def smooth : World := ⟨true, .executed, fun _ => true, fun _ => false⟩

/-- The select of the PKs finds no rows: "this DML sql won't affect any rows". -/
def noRows : World := { smooth with ok := false }

/-- The statuses of a job between the start of its preparation and its end. -/
def JobStatus.isActive : JobStatus → Bool
  | .preparing | .queued | .postponeLaunch | .notInTimePeriod | .running | .paused => true
  | _ => false

/-- The active jobs on a table. -/
def activeJobsOn (jobs : List Job) (table : String) : List String :=
  (jobs.filter fun j => j.table = table ∧ j.status.isActive).map Job.uuid

/-- The job whose batches a goroutine is executing: a `dmlJobBatchRunner` past the status check
of its loop. -/
def Goroutine.executesBatchesOf : Goroutine → Option String
  | .dmlJobBatchRunner uuid _ _ .execBatch => some uuid
  | _ => none

/-- How many `dmlJobBatchRunner` loops are executing the batches of a job. -/
def batchLoopsOf (c : Config) (uuid : String) : Nat :=
  (c.threads.filterMap Goroutine.executesBatchesOf).count uuid

/-- job-1 on table t is submitted, and a round starts its preparation. The select of its PKs
finds no rows, so `FailJob` sets it failed and frees t; `prepareDMLJob` goes on, up to its last
status write. -/
def failedPreparation : List Event :=
  [.spawn (.submitJob "job-1" "t" .pause false), .step 0 smooth,
    .spawn .jobManager, .step 0 smooth,
    .step 0 smooth, .step 0 smooth, .step 0 noRows, .step 0 smooth, .step 0 smooth]

/-- Then job-2 on the same table is submitted, and a round starts a runner for job-1 and the
preparation of job-2, which gets as far as the status preparing. -/
def secondJob : List Event :=
  [.spawn (.submitJob "job-2" "t" .pause false), .step 1 smooth,
    .spawn .jobManager, .step 1 smooth,
    .step 2 smooth, .step 2 smooth, .step 2 smooth, .step 2 smooth]

/-- With every statement succeeding: job-1 is prepared and queued, a round starts a runner, and
a second round comes before that runner writes running and starts another. Both runners write
running and pass the status check of their loop. -/
def twoRunners : List Event :=
  [.spawn (.submitJob "job-1" "t" .pause false), .step 0 smooth,
    .spawn .jobManager, .step 0 smooth,
    .step 0 smooth, .step 0 smooth, .step 0 smooth, .step 0 smooth, .step 0 smooth,
    .step 0 smooth, .step 0 smooth,
    .spawn .jobManager, .step 0 smooth,
    .spawn .jobManager, .step 1 smooth,
    .step 0 smooth, .step 0 smooth,
    .step 1 smooth, .step 1 smooth]

theorem job_schedules_break_status_rules :
    statusOf (run start failedPreparation).shared.jobs "job-1" = some .failed ∧
    statusOf (run start (failedPreparation ++ [.step 0 smooth])).shared.jobs "job-1" = some .queued ∧
    activeJobsOn (run start (failedPreparation ++ [.step 0 smooth] ++ secondJob)).shared.jobs "t" =
      ["job-1", "job-2"] ∧
    batchLoopsOf (run start twoRunners) "job-1" = 2 := by
  refine ⟨?_, ?_, ?_, ?_⟩ <;> decide

end Wescale.Jobcontroller
