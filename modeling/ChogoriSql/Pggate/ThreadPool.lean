import ChogoriSql.Common.Status
import ChogoriSql.System.Transition

/-! `ThreadPool` of `pggate/k2_thread_pool.h` as a transition system over its threads: the
workers' loop, the callers' `enqueue` and `wait`, and the destructor.  A step is what one
thread does between two points where another can interleave: a critical section under
`_qMutex` is one step, and so is each access to the atomic `_stop` outside it.  A condition
variable wakes a thread only when notified; a real one may also wake spuriously, which no run
is owed.  A task is an id with the ids of the tasks whose futures it waits on: the task
`K2Adapter::BatchExec` enqueues after its ops waits on theirs, and every other task waits on SKV
futures only, which resolve by assumption. -/

namespace ChogoriSql

namespace ThreadPool

structure Task where
  id : Nat
  deps : List Nat
  deriving DecidableEq, Repr

inductive WorkerPc where
  | checkStop
  | lockQueue
  | waiting
  | woken
  | running (task : Task)
  | exited
  deriving DecidableEq, Repr

def WorkerPc.runningTask : WorkerPc → Option Task
  | .running task => some task
  | _ => none

inductive WaiterPc where
  | idle
  | checking (before : List Nat)
  | blocked (before : List Nat)
  | returned (before : List Nat)
  deriving DecidableEq, Repr

inductive DestructorPc where
  | alive
  | stopped
  | joining (next : Nat)
  | returned
  deriving DecidableEq, Repr

/-- The pool: each worker's place, `_tasks`, `_stop`, the `notify_one` calls of finished
`enqueue`s still to come, one caller of `wait()`, the destructor, and the bookkeeping of every
task enqueued and every task run to its end. -/
structure Pool (n : Nat) where
  workers : Fin n → WorkerPc
  tasks : List Task
  stop : Bool
  pendingNotifies : Nat
  waiter : WaiterPc
  destructor : DestructorPc
  history : List Task
  finished : List Nat

inductive Action (n : Nat) where
  | worker (i : Fin n)
  | enqueue (task : Task)
  | notifyOne (target : Option (Fin n))
  | callWait
  | waiter
  | destructor
  deriving DecidableEq, Repr

variable {n : Nat}

def init (n : Nat) : Pool n where
  workers := fun _ => .checkStop
  tasks := []
  stop := false
  pendingNotifies := 0
  waiter := .idle
  destructor := .alive
  history := []
  finished := []

def wakeWaiter : WaiterPc → WaiterPc
  | .blocked before => .checking before
  | pc => pc

def workerStep (s : Pool n) (i : Fin n) : Option (Pool n) :=
  match s.workers i with
  | .checkStop =>
      some { s with workers := Function.update s.workers i (if s.stop then .exited else .lockQueue) }
  | .lockQueue =>
      match s.tasks with
      -- `_tasks[0]` is taken and the lock released before the task runs
      | task :: rest => some { s with workers := Function.update s.workers i (.running task), tasks := rest }
      -- `_waitNotifier.notify_all()`, then `_qNotifier.wait(lock)`, which releases the lock
      | [] => some { s with workers := Function.update s.workers i .waiting, waiter := wakeWaiter s.waiter }
  | .waiting => none
  | .woken => some { s with workers := Function.update s.workers i .checkStop }
  | .running task =>
      if ∀ dep ∈ task.deps, dep ∈ s.finished then
        some { s with workers := Function.update s.workers i .checkStop, finished := s.finished ++ [task.id] }
      else none
  | .exited => none

/-- `enqueue(task)` while the pool is alive: `push_back` under the lock.  Its `notify_one`
comes after the lock, as a step of its own.  A task only waits on tasks enqueued before it. -/
def enqueueStep (s : Pool n) (task : Task) : Option (Pool n) :=
  if s.destructor = .alive ∧ task.id ∉ s.history.map Task.id ∧
      ∀ dep ∈ task.deps, dep ∈ s.history.map Task.id then
    some { s with tasks := s.tasks ++ [task], pendingNotifies := s.pendingNotifies + 1,
                  history := s.history ++ [task] }
  else none

def notifyOneStep (s : Pool n) : Option (Fin n) → Option (Pool n)
  | some i =>
      if 0 < s.pendingNotifies ∧ s.workers i = .waiting then
        some { s with workers := Function.update s.workers i .woken,
                      pendingNotifies := s.pendingNotifies - 1 }
      else none
  | none =>
      if 0 < s.pendingNotifies ∧ ∀ i, s.workers i ≠ .waiting then
        some { s with pendingNotifies := s.pendingNotifies - 1 }
      else none

def callWaitStep (s : Pool n) : Option (Pool n) :=
  match s.waiter with
  | .idle => some { s with waiter := .checking (s.history.map Task.id) }
  | _ => none

def waiterStep (s : Pool n) : Option (Pool n) :=
  match s.waiter with
  | .checking before =>
      some { s with waiter := if s.tasks.isEmpty then .returned before else .blocked before }
  | _ => none

def destructorStep (s : Pool n) : Option (Pool n) :=
  match s.destructor with
  | .alive => some { s with stop := true, destructor := .stopped }
  | .stopped =>
      some { s with
        workers := fun i => if s.workers i = .waiting then .woken else s.workers i
        destructor := .joining 0 }
  | .joining k =>
      if h : k < n then
        if s.workers ⟨k, h⟩ = .exited then some { s with destructor := .joining (k + 1) } else none
      else some { s with destructor := .returned }
  | .returned => none

def next (s : Pool n) : Action n → Option (Pool n)
  | .worker i => workerStep s i
  | .enqueue task => enqueueStep s task
  | .notifyOne target => notifyOneStep s target
  | .callWait => callWaitStep s
  | .waiter => waiterStep s
  | .destructor => destructorStep s

theorem workerStep_frame {s t : Pool n} {i : Fin n} (stepped : workerStep s i = some t) :
    t.stop = s.stop ∧ t.destructor = s.destructor ∧ t.pendingNotifies = s.pendingNotifies ∧
      ∀ j, j ≠ i → t.workers j = s.workers j := by
  unfold workerStep at stepped
  split at stepped
  · cases stepped
    exact ⟨rfl, rfl, rfl, fun j differs => Function.update_of_ne differs _ _⟩
  · split at stepped <;> cases stepped <;>
      exact ⟨rfl, rfl, rfl, fun j differs => Function.update_of_ne differs _ _⟩
  · cases stepped
  · cases stepped
    exact ⟨rfl, rfl, rfl, fun j differs => Function.update_of_ne differs _ _⟩
  · split at stepped
    · cases stepped
      exact ⟨rfl, rfl, rfl, fun j differs => Function.update_of_ne differs _ _⟩
    · cases stepped
  · cases stepped

theorem destructorStep_ne_alive {s t : Pool n} (stepped : destructorStep s = some t) :
    t.destructor ≠ .alive := by
  unfold destructorStep at stepped
  split at stepped
  · cases stepped
    simp
  · cases stepped
    simp
  · split at stepped
    · split at stepped
      · cases stepped
        simp
      · cases stepped
    · cases stepped
      simp
  · cases stepped

/-- The state of a destructor stuck joining the first worker, which waits with no notification
to come. -/
structure Hung (first : Fin n) (s : Pool n) : Prop where
  stopped : s.stop = true
  joining : s.destructor = .joining first.val
  waits : s.workers first = .waiting
  noNotify : s.pendingNotifies = 0

theorem Hung.step {first : Fin n} (zero : first.val = 0) {s t : Pool n} {action : Action n}
    (hung : Hung first s) (stepped : next s action = some t) : Hung first t := by
  cases action with
  | worker i =>
      obtain ⟨sameStop, sameDestructor, sameNotifies, others⟩ := workerStep_frame stepped
      by_cases same : i = first
      · subst same
        simp [next, workerStep, hung.waits] at stepped
      · exact ⟨sameStop ▸ hung.stopped, sameDestructor ▸ hung.joining,
          (others first (Ne.symm same)).trans hung.waits, sameNotifies ▸ hung.noNotify⟩
  | enqueue task =>
      simp [next, enqueueStep, hung.joining] at stepped
  | notifyOne target =>
      cases target <;> simp [next, notifyOneStep, hung.noNotify] at stepped
  | callWait =>
      simp only [next, callWaitStep] at stepped
      split at stepped
      · cases stepped
        exact ⟨hung.stopped, hung.joining, hung.waits, hung.noNotify⟩
      · cases stepped
  | waiter =>
      simp only [next, waiterStep] at stepped
      split at stepped
      · cases stepped
        exact ⟨hung.stopped, hung.joining, hung.waits, hung.noNotify⟩
      · cases stepped
  | destructor =>
      have waitsAtZero : s.workers ⟨0, zero ▸ first.isLt⟩ = .waiting := by
        rw [← hung.waits]
        congr 1
        exact Fin.ext zero.symm
      have someWorker : 0 < n := zero ▸ first.isLt
      simp [next, destructorStep, hung.joining, zero, waitsAtZero] at stepped
      omega

def shutdownRace (first : Fin n) : List (Action n) :=
  [.worker first, .destructor, .destructor, .worker first]

theorem run_shutdownRace (first : Fin n) (zero : first.val = 0) :
    ∃ s, Transition.run next (init n) (shutdownRace first) = some s ∧ Hung first s := by
  simp only [Transition.run, shutdownRace, next, workerStep, destructorStep, init, Option.bind_some,
    Function.update_self, Bool.false_eq_true, if_false]
  refine ⟨_, rfl, ⟨rfl, ?_, ?_, rfl⟩⟩
  · rw [zero]
  · simp

/-- `wait()` returns on an empty queue: a task taken by a worker and still running does not
hold it back. -/
def earlyWait (first : Fin n) : List (Action n) :=
  [.enqueue ⟨0, []⟩, .worker first, .worker first, .callWait, .waiter]

theorem run_earlyWait (first : Fin n) :
    ∃ s, Transition.run next (init n) (earlyWait first) = some s ∧
      s.waiter = .returned [0] ∧ 0 ∉ s.finished := by
  simp [Transition.run, earlyWait, next, enqueueStep, workerStep, callWaitStep, waiterStep, init]

theorem shutdown_can_hang (n : Nat) (someWorker : 0 < n) :
    (∃ s, Transition.Reachable next (init n) s ∧
      ∀ t, Transition.Reachable next s t → t.destructor ≠ .returned) ∧
    (∃ s before, Transition.Reachable next (init n) s ∧ s.waiter = .returned before ∧
      ∃ id ∈ before, id ∉ s.finished) := by
  constructor
  · obtain ⟨s, ran, hung⟩ := run_shutdownRace (⟨0, someWorker⟩ : Fin n) rfl
    refine ⟨s, Transition.reachable_of_run ran, ?_⟩
    intro t reach
    have stillHung : Hung ⟨0, someWorker⟩ t :=
      Transition.Reachable.closed (fun _ _ _ hung stepped => hung.step rfl stepped) hung reach
    rw [stillHung.joining]
    simp
  · obtain ⟨s, ran, returned, running⟩ := run_earlyWait (⟨0, someWorker⟩ : Fin n)
    exact ⟨s, [0], Transition.reachable_of_run ran, returned, 0, List.mem_singleton_self 0, running⟩

theorem shutdown_can_hang_one_worker :
    0 < 1 ∧
      (∃ s, Transition.Reachable next (init 1) s ∧
        ∀ t, Transition.Reachable next s t → t.destructor ≠ .returned) ∧
      (∃ s before, Transition.Reachable next (init 1) s ∧ s.waiter = .returned before ∧
        ∃ id ∈ before, id ∉ s.finished) :=
  ⟨by decide, shutdown_can_hang 1 (by decide)⟩

def Action.isPoolStep : Action n → Bool
  | .worker _ | .notifyOne _ | .waiter => true
  | .enqueue _ | .callWait | .destructor => false

def poolNext : Pool n → Action n → Option (Pool n) :=
  Transition.restrict next Action.isPoolStep

def runningTasks (s : Pool n) : List Task :=
  Transition.collect WorkerPc.runningTask s.workers

def WorkerPc.weight : WorkerPc → Nat
  | .waiting | .exited => 0
  | .lockQueue => 2
  | .checkStop => 3
  | .woken | .running _ => 4

def WaiterPc.weight : WaiterPc → Nat
  | .checking _ => 1
  | _ => 0

def progressMeasure (s : Pool n) : Nat :=
  (∑ i, (s.workers i).weight) + 3 * s.tasks.length + 5 * s.pendingNotifies + s.waiter.weight

theorem workerStep_cases {s t : Pool n} {i : Fin n} (stepped : workerStep s i = some t) :
    (s.workers i = .checkStop ∧
      t = { s with workers := Function.update s.workers i (if s.stop then .exited else .lockQueue) }) ∨
    (∃ task rest, s.workers i = .lockQueue ∧ s.tasks = task :: rest ∧
      t = { s with workers := Function.update s.workers i (.running task), tasks := rest }) ∨
    (s.workers i = .lockQueue ∧ s.tasks = [] ∧
      t = { s with workers := Function.update s.workers i .waiting, waiter := wakeWaiter s.waiter }) ∨
    (s.workers i = .woken ∧ t = { s with workers := Function.update s.workers i .checkStop }) ∨
    (∃ task, s.workers i = .running task ∧ (∀ dep ∈ task.deps, dep ∈ s.finished) ∧
      t = { s with workers := Function.update s.workers i .checkStop,
                   finished := s.finished ++ [task.id] }) := by
  unfold workerStep at stepped
  split at stepped
  · next atPc =>
      cases stepped
      exact .inl ⟨atPc, rfl⟩
  · next atPc =>
      split at stepped
      · next task rest queue =>
          cases stepped
          exact .inr (.inl ⟨task, rest, atPc, queue, rfl⟩)
      · next queue =>
          cases stepped
          exact .inr (.inr (.inl ⟨atPc, queue, rfl⟩))
  · cases stepped
  · next atPc =>
      cases stepped
      exact .inr (.inr (.inr (.inl ⟨atPc, rfl⟩)))
  · next task atPc =>
      split at stepped
      · next ready =>
          cases stepped
          exact .inr (.inr (.inr (.inr ⟨task, atPc, ready, rfl⟩)))
      · cases stepped
  · cases stepped

theorem workerStep_eq_none {s : Pool n} {i : Fin n} (stuck : workerStep s i = none) :
    s.workers i = .waiting ∨ s.workers i = .exited ∨
      ∃ task, s.workers i = .running task ∧ ¬ ∀ dep ∈ task.deps, dep ∈ s.finished := by
  unfold workerStep at stuck
  split at stuck
  · cases stuck
  · split at stuck <;> cases stuck
  · next atPc => exact .inl atPc
  · cases stuck
  · next task atPc =>
      split at stuck
      · cases stuck
      · next unready => exact .inr (.inr ⟨task, atPc, unready⟩)
  · next atPc => exact .inr (.inl atPc)

theorem sum_weight_update (workers : Fin n → WorkerPc) (i : Fin n) (pc : WorkerPc) :
    (∑ j, (Function.update workers i pc j).weight) + (workers i).weight =
      (∑ j, (workers j).weight) + pc.weight := by
  have pointwise : (fun j => (Function.update workers i pc j).weight) =
      Function.update (fun j => (workers j).weight) i pc.weight := by
    funext j
    by_cases same : j = i
    · subst same
      simp
    · simp [Function.update_of_ne same]
  rw [pointwise]
  exact Transition.sum_update_add _ i _

theorem wakeWaiter_weight (waiter : WaiterPc) : (wakeWaiter waiter).weight ≤ waiter.weight + 1 := by
  cases waiter <;> simp [wakeWaiter, WaiterPc.weight]

theorem workerStep_lowers {s t : Pool n} {i : Fin n} (stepped : workerStep s i = some t) :
    progressMeasure t < progressMeasure s := by
  have sums := sum_weight_update s.workers i
  rcases workerStep_cases stepped with ⟨atPc, rfl⟩ | ⟨task, rest, atPc, queue, rfl⟩ |
    ⟨atPc, queue, rfl⟩ | ⟨atPc, rfl⟩ | ⟨task, atPc, -, rfl⟩
  · have moved := sums (if s.stop then .exited else .lockQueue)
    have old : (s.workers i).weight = 3 := by rw [atPc]; rfl
    have lower : (if s.stop then WorkerPc.exited else .lockQueue).weight < 3 := by
      split <;> decide
    simp only [progressMeasure]
    omega
  · have moved := sums (.running task)
    have old : (s.workers i).weight = 2 := by rw [atPc]; rfl
    have new : (WorkerPc.running task).weight = 4 := rfl
    simp only [progressMeasure, queue, List.length_cons]
    omega
  · have moved := sums .waiting
    have old : (s.workers i).weight = 2 := by rw [atPc]; rfl
    have new : WorkerPc.waiting.weight = 0 := rfl
    have woke := wakeWaiter_weight s.waiter
    simp only [progressMeasure]
    omega
  · have moved := sums .checkStop
    have old : (s.workers i).weight = 4 := by rw [atPc]; rfl
    have new : WorkerPc.checkStop.weight = 3 := rfl
    simp only [progressMeasure]
    omega
  · have moved := sums .checkStop
    have old : (s.workers i).weight = 4 := by rw [atPc]; rfl
    have new : WorkerPc.checkStop.weight = 3 := rfl
    simp only [progressMeasure]
    omega

theorem poolNext_lowers {s t : Pool n} {action : Action n} (stepped : poolNext s action = some t) :
    progressMeasure t < progressMeasure s := by
  unfold poolNext Transition.restrict at stepped
  cases action with
  | worker i => exact workerStep_lowers stepped
  | notifyOne target =>
      cases target with
      | some i =>
          simp only [Action.isPoolStep, if_true, next, notifyOneStep] at stepped
          split at stepped
          · next guard =>
              cases stepped
              have moved := sum_weight_update s.workers i .woken
              have old : (s.workers i).weight = 0 := by rw [guard.2]; rfl
              have new : WorkerPc.woken.weight = 4 := rfl
              simp only [progressMeasure]
              omega
          · cases stepped
      | none =>
          simp only [Action.isPoolStep, if_true, next, notifyOneStep] at stepped
          split at stepped
          · next guard =>
              cases stepped
              simp only [progressMeasure]
              omega
          · cases stepped
  | waiter =>
      simp only [Action.isPoolStep, if_true, next, waiterStep] at stepped
      split at stepped
      · next before atWaiter =>
          cases stepped
          have old : s.waiter.weight = 1 := by rw [atWaiter]; rfl
          have new : (if s.tasks.isEmpty then WaiterPc.returned before else .blocked before).weight = 0 := by
            split <;> rfl
          simp only [progressMeasure]
          omega
      · cases stepped
  | enqueue task => simp [Action.isPoolStep] at stepped
  | callWait => simp [Action.isPoolStep] at stepped
  | destructor => simp [Action.isPoolStep] at stepped

theorem poolNext_acc (s : Pool n) : Acc (fun t u => Transition.Step poolNext u t) s :=
  Transition.acc_of_measure (P := fun _ => True) progressMeasure (fun _ _ _ _ _ => trivial)
    (fun _ _ _ _ stepped => poolNext_lowers stepped) s trivial

/-- What holds in every state the pool reaches while it is alive: the queue is the tail of the
tasks enqueued and the workers run tasks taken before it, every task enqueued is finished,
running or queued, and a queued task has a worker awake or a notification coming. -/
structure Alive (s : Pool n) : Prop where
  destructor : s.destructor = .alive
  notStopped : s.stop = false
  noExit : ∀ i, s.workers i ≠ .exited
  fifo : ∃ taken, s.history = taken ++ s.tasks ∧ ∀ task ∈ runningTasks s, task ∈ taken
  accounted : (s.history.map Task.id).Perm
    (s.finished ++ (runningTasks s).map Task.id ++ s.tasks.map Task.id)
  distinct : (s.history.map Task.id).Nodup
  depsEarlier : ∀ k (inHistory : k < s.history.length), ∀ dep ∈ s.history[k].deps,
    dep ∈ (s.history.take k).map Task.id
  wakeup : s.tasks ≠ [] → 0 < s.pendingNotifies ∨ ∃ i, s.workers i ≠ .waiting

theorem runningTasks_update (s : Pool n) (i : Fin n) (pc : WorkerPc) :
    (Transition.collect WorkerPc.runningTask (Function.update s.workers i pc) ++
        (s.workers i).runningTask.toList).Perm (runningTasks s ++ pc.runningTask.toList) :=
  Transition.collect_update_perm _ _ _ _

theorem noExit_update {s : Pool n} (alive : Alive s) (i : Fin n) {pc : WorkerPc}
    (staying : pc ≠ .exited) : ∀ j, Function.update s.workers i pc j ≠ .exited := by
  intro j
  by_cases same : j = i
  · subst same
    rw [Function.update_self]
    exact staying
  · rw [Function.update_of_ne same]
    exact alive.noExit j

theorem awake_update (workers : Fin n → WorkerPc) (i : Fin n) {pc : WorkerPc}
    (awake : pc ≠ .waiting) : ∃ j, Function.update workers i pc j ≠ .waiting :=
  ⟨i, by rw [Function.update_self]; exact awake⟩

theorem Alive.start : Alive (init n) := by
  have noneRunning : runningTasks (init n) = [] := by
    simp [runningTasks, Transition.collect, ThreadPool.init, WorkerPc.runningTask]
  refine ⟨rfl, rfl, fun _ => by simp [ThreadPool.init], ⟨[], rfl, ?_⟩, ?_, List.nodup_nil, ?_, ?_⟩
  · simp [noneRunning]
  · simp only [noneRunning]
    simp [ThreadPool.init]
  · intro k inHistory
    simp [ThreadPool.init] at inHistory
  · intro queued
    simp [ThreadPool.init] at queued

theorem Alive.update_idle {s : Pool n} (alive : Alive s) (i : Fin n) (pc : WorkerPc)
    (pending : Nat) (waiter : WaiterPc) (wasIdle : (s.workers i).runningTask = none)
    (isIdle : pc.runningTask = none) (staying : pc ≠ .exited)
    (wakeup : s.tasks ≠ [] → 0 < pending ∨ ∃ j, Function.update s.workers i pc j ≠ .waiting) :
    Alive { s with workers := Function.update s.workers i pc, pendingNotifies := pending,
                   waiter := waiter } := by
  obtain ⟨taken, split, runningTaken⟩ := alive.fifo
  have same : (Transition.collect WorkerPc.runningTask (Function.update s.workers i pc)).Perm
      (runningTasks s) := by
    simpa [wasIdle, isIdle] using runningTasks_update s i pc
  refine ⟨alive.destructor, alive.notStopped, noExit_update alive i staying,
    ⟨taken, split, fun task running => runningTaken task (same.subset running)⟩, ?_,
    alive.distinct, alive.depsEarlier, wakeup⟩
  exact alive.accounted.trans (((same.map Task.id).symm.append_left _).append_right _)

theorem Alive.workerStep {s t : Pool n} {i : Fin n} (alive : Alive s)
    (stepped : workerStep s i = some t) : Alive t := by
  obtain ⟨taken, split, runningTaken⟩ := alive.fifo
  rcases workerStep_cases stepped with ⟨atPc, rfl⟩ | ⟨task, rest, atPc, queue, rfl⟩ |
    ⟨atPc, queue, rfl⟩ | ⟨atPc, rfl⟩ | ⟨task, atPc, ready, rfl⟩
  · -- the worker read `_stop` as `false`
    have goesOn : (if s.stop then WorkerPc.exited else .lockQueue) = .lockQueue := by
      rw [alive.notStopped]
      rfl
    rw [goesOn]
    exact alive.update_idle i .lockQueue s.pendingNotifies s.waiter (by rw [atPc]; rfl) rfl
      (by decide) fun _ => .inr (awake_update _ i (by decide))
  · -- the worker takes the head of the queue
    have grown : (Transition.collect WorkerPc.runningTask
        (Function.update s.workers i (.running task))).Perm (runningTasks s ++ [task]) := by
      simpa [atPc, WorkerPc.runningTask] using runningTasks_update s i (.running task)
    refine ⟨alive.destructor, alive.notStopped, noExit_update alive i (by simp),
      ⟨taken ++ [task], by rw [split, queue]; simp, ?_⟩, ?_, alive.distinct, alive.depsEarlier,
      fun _ => .inr (awake_update _ i (by simp))⟩
    · intro running member
      rcases List.mem_append.mp (grown.subset member) with before | taking
      · exact List.mem_append_left _ (runningTaken running before)
      · exact List.mem_append_right _ taking
    · have regrouped : s.finished ++ (runningTasks s).map Task.id ++ s.tasks.map Task.id =
          s.finished ++ (runningTasks s ++ [task]).map Task.id ++ rest.map Task.id := by
        simp [queue]
      have accounted := alive.accounted
      rw [regrouped] at accounted
      exact accounted.trans (((grown.map Task.id).symm.append_left _).append_right _)
  · -- the worker waits on an empty queue
    exact alive.update_idle i .waiting s.pendingNotifies (wakeWaiter s.waiter) (by rw [atPc]; rfl)
      rfl (by decide) fun queued => absurd queue queued
  · -- a woken worker leaves `wait`
    exact alive.update_idle i .checkStop s.pendingNotifies s.waiter (by rw [atPc]; rfl) rfl
      (by decide) fun _ => .inr (awake_update _ i (by decide))
  · -- the worker finishes its task
    have shrunk : (Transition.collect WorkerPc.runningTask
        (Function.update s.workers i .checkStop) ++ [task]).Perm (runningTasks s) := by
      simpa [atPc, WorkerPc.runningTask] using runningTasks_update s i .checkStop
    refine ⟨alive.destructor, alive.notStopped, noExit_update alive i (by decide),
      ⟨taken, split, fun running member =>
        runningTaken running (shrunk.subset (List.mem_append_left _ member))⟩, ?_,
      alive.distinct, alive.depsEarlier, fun _ => .inr (awake_update _ i (by decide))⟩
    have middle : (s.finished ++ (Transition.collect WorkerPc.runningTask
        (Function.update s.workers i .checkStop) ++ [task]).map Task.id ++
          s.tasks.map Task.id).Perm (s.finished ++ [task.id] ++ (Transition.collect
        WorkerPc.runningTask (Function.update s.workers i .checkStop)).map Task.id ++
          s.tasks.map Task.id) := by
      simp only [List.map_append, List.map_cons, List.map_nil, List.append_assoc,
        List.singleton_append]
      exact List.perm_middle.append_left _
    exact alive.accounted.trans ((((shrunk.map Task.id).symm.append_left _).append_right _).trans
      middle)

theorem Alive.enqueueStep {s t : Pool n} {task : Task} (alive : Alive s)
    (stepped : enqueueStep s task = some t) : Alive t := by
  unfold ThreadPool.enqueueStep at stepped
  split at stepped
  · next guard =>
      cases stepped
      obtain ⟨-, fresh, depsBefore⟩ := guard
      obtain ⟨taken, split, runningTaken⟩ := alive.fifo
      refine ⟨alive.destructor, alive.notStopped, alive.noExit,
        ⟨taken, by rw [split, List.append_assoc], runningTaken⟩, ?_, ?_, ?_,
        fun _ => .inl (Nat.succ_pos _)⟩
      · show ((s.history ++ [task]).map Task.id).Perm
          (s.finished ++ (runningTasks s).map Task.id ++ (s.tasks ++ [task]).map Task.id)
        simpa [List.append_assoc] using alive.accounted.append_right [task.id]
      · rw [List.map_append]
        refine List.nodup_append.mpr ⟨alive.distinct, List.nodup_singleton _, ?_⟩
        intro a old b new same
        simp only [List.map_cons, List.map_nil, List.mem_singleton] at new
        subst new
        exact fresh (same ▸ old)
      · intro k inHistory dep isDep
        rw [List.length_append, List.length_singleton] at inHistory
        by_cases old : k < s.history.length
        · rw [List.getElem_append_left old] at isDep
          rw [List.take_append_of_le_length (Nat.le_of_lt old)]
          exact alive.depsEarlier k old dep isDep
        · have last : k = s.history.length := by omega
          subst last
          rw [List.getElem_append_right (Nat.le_refl _)] at isDep
          rw [List.take_left']
          · exact depsBefore dep (by simpa using isDep)
          · rfl
  · cases stepped

theorem Alive.step (someWorker : 0 < n) {s t : Pool n} {action : Action n} (alive : Alive s)
    (stepped : next s action = some t) (stillAlive : t.destructor = .alive) : Alive t := by
  cases action with
  | worker i => exact alive.workerStep stepped
  | enqueue task => exact alive.enqueueStep stepped
  | notifyOne target =>
      cases target with
      | some i =>
          simp only [next, notifyOneStep] at stepped
          split at stepped
          · next guard =>
              cases stepped
              exact alive.update_idle i .woken (s.pendingNotifies - 1) s.waiter
                (by rw [guard.2]; rfl) rfl (by decide) fun _ => .inr (awake_update _ i (by decide))
          · cases stepped
      | none =>
          simp only [next, notifyOneStep] at stepped
          split at stepped
          · next guard =>
              cases stepped
              obtain ⟨taken, split, runningTaken⟩ := alive.fifo
              exact ⟨alive.destructor, alive.notStopped, alive.noExit, ⟨taken, split, runningTaken⟩,
                alive.accounted, alive.distinct, alive.depsEarlier,
                fun _ => .inr ⟨⟨0, someWorker⟩, guard.2 _⟩⟩
          · cases stepped
  | callWait =>
      simp only [next, callWaitStep] at stepped
      split at stepped
      · cases stepped
        exact ⟨alive.destructor, alive.notStopped, alive.noExit, alive.fifo, alive.accounted,
          alive.distinct, alive.depsEarlier, alive.wakeup⟩
      · cases stepped
  | waiter =>
      simp only [next, waiterStep] at stepped
      split at stepped
      · cases stepped
        exact ⟨alive.destructor, alive.notStopped, alive.noExit, alive.fifo, alive.accounted,
          alive.distinct, alive.depsEarlier, alive.wakeup⟩
      · cases stepped
  | destructor => exact absurd stillAlive (destructorStep_ne_alive stepped)

theorem alive_of_next {s t : Pool n} {action : Action n} (stepped : next s action = some t)
    (alive : t.destructor = .alive) : s.destructor = .alive := by
  cases action with
  | worker i => exact (workerStep_frame stepped).2.1 ▸ alive
  | enqueue task =>
      simp only [next, ThreadPool.enqueueStep] at stepped
      split at stepped
      · next guard => exact guard.1
      · cases stepped
  | notifyOne target =>
      cases target <;> simp only [next, notifyOneStep] at stepped <;> split at stepped <;>
        first | (cases stepped; exact alive) | cases stepped
  | callWait =>
      simp only [next, callWaitStep] at stepped
      split at stepped
      · cases stepped
        exact alive
      · cases stepped
  | waiter =>
      simp only [next, waiterStep] at stepped
      split at stepped
      · cases stepped
        exact alive
      · cases stepped
  | destructor =>
      exact absurd alive (destructorStep_ne_alive stepped)

theorem Alive.of_reachable (someWorker : 0 < n) {s : Pool n}
    (reach : Transition.Reachable next (init n) s) (alive : s.destructor = .alive) : Alive s := by
  induction reach with
  | refl => exact Alive.start
  | tail _ step ih =>
      obtain ⟨action, stepped⟩ := step
      exact (ih (alive_of_next stepped alive)).step someWorker stepped alive

theorem Alive.poolStep (someWorker : 0 < n) {s t : Pool n} {action : Action n} (alive : Alive s)
    (stepped : poolNext s action = some t) : Alive t := by
  unfold ThreadPool.poolNext Transition.restrict at stepped
  split at stepped
  · next pool =>
      refine alive.step someWorker stepped ?_
      cases action with
      | worker i => exact (workerStep_frame stepped).2.1.trans alive.destructor
      | notifyOne target =>
          cases target <;> simp only [next, notifyOneStep] at stepped <;> split at stepped <;>
            first | (cases stepped; exact alive.destructor) | cases stepped
      | waiter =>
          simp only [next, waiterStep] at stepped
          split at stepped
          · cases stepped
            exact alive.destructor
          · cases stepped
      | enqueue task => simp [Action.isPoolStep] at pool
      | callWait => simp [Action.isPoolStep] at pool
      | destructor => simp [Action.isPoolStep] at pool
  · cases stepped

theorem WorkerPc.runningTask_eq_some {pc : WorkerPc} {task : Task}
    (picked : pc.runningTask = some task) : pc = .running task := by
  cases pc <;> simp [WorkerPc.runningTask] at picked
  rw [picked]

theorem getElem_mem_taken {history taken tasks : List Task} (split : history = taken ++ tasks)
    {j : Nat} (inTaken : j < taken.length) (inHistory : j < history.length) :
    history[j] ∈ taken := by
  subst split
  rw [List.getElem_append_left inTaken]
  exact List.getElem_mem inTaken

theorem index_lt_of_taken {history taken tasks : List Task} (split : history = taken ++ tasks)
    (distinct : (history.map Task.id).Nodup) {k : Nat} (inHistory : k < history.length)
    (isTaken : history[k] ∈ taken) : k < taken.length := by
  obtain ⟨p, inTaken, atP⟩ := List.getElem_of_mem isTaken
  have inHistoryP : p < history.length := by
    rw [split, List.length_append]
    omega
  have same : history[p] = history[k] := by
    rw [← atP]
    subst split
    exact List.getElem_append_left inTaken
  have placed := (List.Nodup.getElem_inj_iff (List.Nodup.of_map Task.id distinct)).mp same
  omega

theorem Alive.noneRunning {s : Pool n} (alive : Alive s)
    (terminal : Transition.Terminal poolNext s) : runningTasks s = [] := by
  obtain ⟨taken, split, runningTaken⟩ := alive.fifo
  have blocked : ∀ task ∈ runningTasks s, ∃ dep ∈ task.deps, dep ∉ s.finished := by
    intro task running
    obtain ⟨i, picked⟩ := Transition.mem_collect.mp running
    have atPc := WorkerPc.runningTask_eq_some picked
    rcases workerStep_eq_none (terminal (.worker i)) with waits | exits | ⟨other, atOther, unready⟩
    · rw [atPc] at waits
      cases waits
    · rw [atPc] at exits
      cases exits
    · rw [atPc] at atOther
      cases atOther
      simpa using unready
  have inHistory : ∀ task ∈ runningTasks s, task ∈ s.history := fun task running =>
    split ▸ List.mem_append_left _ (runningTaken task running)
  -- by strong induction on the place in the history of a running task
  suffices never : ∀ k (inHistory : k < s.history.length), s.history[k] ∉ runningTasks s by
    apply List.eq_nil_iff_forall_not_mem.mpr
    intro task running
    obtain ⟨k, bound, atK⟩ := List.getElem_of_mem (inHistory task running)
    exact never k bound (atK ▸ running)
  intro k
  induction k using Nat.strong_induction_on with
  | _ k ih =>
      intro inHistoryK running
      obtain ⟨dep, isDep, unfinished⟩ := blocked _ running
      obtain ⟨depTask, inTake, named⟩ := List.mem_map.mp (alive.depsEarlier k inHistoryK dep isDep)
      obtain ⟨j, inTakeJ, atJ⟩ := List.getElem_of_mem inTake
      have before : j < k := by
        simp only [List.length_take] at inTakeJ
        omega
      have inHistoryJ : j < s.history.length := by omega
      have depIsJ : depTask = s.history[j] := by
        rw [← atJ, List.getElem_take]
      have takenK := index_lt_of_taken split alive.distinct inHistoryK (runningTaken _ running)
      have depTaken : depTask ∈ taken :=
        depIsJ ▸ getElem_mem_taken split (by omega) inHistoryJ
      have notQueued : dep ∉ s.tasks.map Task.id := by
        intro queued
        have apart : (taken.map Task.id).Disjoint (s.tasks.map Task.id) := by
          apply List.disjoint_of_nodup_append
          rw [← List.map_append, ← split]
          exact alive.distinct
        exact apart (named ▸ List.mem_map_of_mem depTaken) queued
      have accountedDep := alive.accounted.subset
        (List.mem_map.mpr ⟨depTask, depIsJ ▸ List.getElem_mem inHistoryJ, named⟩)
      simp only [List.mem_append] at accountedDep
      rcases accountedDep with (finished | runningDep) | queued
      · exact unfinished finished
      · obtain ⟨other, otherRunning, otherNamed⟩ := List.mem_map.mp runningDep
        have sameTask : other = s.history[j] :=
          List.inj_on_of_nodup_map alive.distinct (inHistory other otherRunning)
            (List.getElem_mem inHistoryJ) (by rw [otherNamed, ← named, depIsJ])
        exact ih j before inHistoryJ (sameTask ▸ otherRunning)
      · exact notQueued queued

theorem Alive.terminal (someWorker : 0 < n) {s : Pool n} (alive : Alive s)
    (terminal : Transition.Terminal poolNext s) :
    s.tasks = [] ∧ runningTasks s = [] ∧ ∀ i, s.workers i = .waiting := by
  have noneRunning := alive.noneRunning terminal
  have allWaiting : ∀ i, s.workers i = .waiting := by
    intro i
    rcases workerStep_eq_none (terminal (.worker i)) with waits | exits | ⟨task, atPc, -⟩
    · exact waits
    · exact absurd exits (alive.noExit i)
    · have running : task ∈ runningTasks s := Transition.mem_collect.mpr ⟨i, by rw [atPc]; rfl⟩
      rw [noneRunning] at running
      cases running
  refine ⟨?_, noneRunning, allWaiting⟩
  by_contra queued
  rcases alive.wakeup queued with pending | ⟨i, awake⟩
  · have woke := terminal (.notifyOne (some ⟨0, someWorker⟩))
    simp [poolNext, Transition.restrict, Action.isPoolStep, next, notifyOneStep, pending,
      allWaiting] at woke
  · exact awake (allWaiting i)

def batchStep (acc : Status × Option String) : Except String Status → Status × Option String
  | .ok execStatus => (if execStatus.isOk then acc.1 else execStatus, acc.2)
  | .error exception => (acc.1, some exception)

def batchExecResult (results : List (Except String Status)) : Except String Status :=
  match results.foldl batchStep (Status.OK, none) with
  | (_, some exception) => .error exception
  | (status, none) => .ok status

theorem foldl_batchStep_exception_none (results : List (Except String Status))
    (acc : Status × Option String) :
    (results.foldl batchStep acc).2 = none ↔ acc.2 = none ∧ ∀ r ∈ results, ∃ st, r = .ok st := by
  induction results generalizing acc with
  | nil => simp
  | cons result rest ih =>
      rw [List.foldl_cons, ih]
      cases result with
      | ok execStatus => simp [batchStep]
      | error exception => simp [batchStep]

theorem foldl_batchStep_exception_mem (results : List (Except String Status))
    (acc : Status × Option String) {exception : String}
    (found : (results.foldl batchStep acc).2 = some exception) :
    acc.2 = some exception ∨ .error exception ∈ results := by
  induction results generalizing acc with
  | nil => exact .inl found
  | cons result rest ih =>
      rw [List.foldl_cons] at found
      rcases ih _ found with fromAcc | later
      · cases result with
        | ok execStatus => exact .inl fromAcc
        | error thrown =>
            simp only [batchStep, Option.some.injEq] at fromAcc
            rw [fromAcc]
            exact .inr List.mem_cons_self
      · exact .inr (List.mem_cons_of_mem _ later)

theorem foldl_batchStep_status (results : List (Except String Status)) (acc : Status × Option String) :
    (results.foldl batchStep acc).1 = acc.1 ∨
      ((results.foldl batchStep acc).1.isOk = false ∧ .ok (results.foldl batchStep acc).1 ∈ results) := by
  induction results generalizing acc with
  | nil => exact .inl rfl
  | cons result rest ih =>
      rw [List.foldl_cons]
      rcases ih (batchStep acc result) with same | ⟨failed, inRest⟩
      · rw [same]
        cases result with
        | ok execStatus =>
            by_cases passed : execStatus.isOk = true
            · left
              simp [batchStep, passed]
            · right
              simp only [batchStep, passed, Bool.false_eq_true, if_false]
              exact ⟨by simp, List.mem_cons_self⟩
        | error thrown => exact .inl rfl
      · exact .inr ⟨failed, List.mem_cons_of_mem _ inRest⟩

theorem foldl_batchStep_failed (results : List (Except String Status)) (acc : Status × Option String)
    (failure : acc.1.isOk = false ∨ ∃ st, .ok st ∈ results ∧ st.isOk = false) :
    (results.foldl batchStep acc).1.isOk = false := by
  induction results generalizing acc with
  | nil =>
      rcases failure with failed | ⟨st, member, -⟩
      · exact failed
      · cases member
  | cons result rest ih =>
      rw [List.foldl_cons]
      apply ih
      rcases failure with failed | ⟨st, member, stFailed⟩
      · left
        cases result with
        | ok execStatus =>
            by_cases passed : execStatus.isOk = true
            · simp only [batchStep, passed, if_true]
              exact failed
            · simp only [batchStep, passed, Bool.false_eq_true, if_false]
        | error thrown => exact failed
      · rcases List.mem_cons.mp member with first | later
        · left
          subst first
          simp [batchStep, stFailed]
        · exact .inr ⟨st, later, stFailed⟩

theorem batchExecResult_spec (results : List (Except String Status)) :
    ((∃ e, .error e ∈ results) → ∃ e, batchExecResult results = .error e ∧ .error e ∈ results) ∧
      ((∀ e, .error e ∉ results) → (∃ st, .ok st ∈ results ∧ st.isOk = false) →
        ∃ st, batchExecResult results = .ok st ∧ .ok st ∈ results ∧ st.isOk = false) ∧
      ((∀ r ∈ results, ∃ st, r = .ok st ∧ st.isOk = true) → batchExecResult results = .ok Status.OK) := by
  have noException := foldl_batchStep_exception_none results (Status.OK, none)
  have thrownFrom := @foldl_batchStep_exception_mem results (Status.OK, none)
  have statusFrom := foldl_batchStep_status results (Status.OK, none)
  have failedKept := foldl_batchStep_failed results (Status.OK, none)
  unfold batchExecResult
  rcases folded : results.foldl batchStep (Status.OK, none) with ⟨status, exception⟩
  rw [folded] at noException thrownFrom statusFrom failedKept
  refine ⟨?_, ?_, ?_⟩
  · rintro ⟨e, thrown⟩
    cases exception with
    | none =>
        obtain ⟨st, isOk⟩ := (noException.mp rfl).2 _ thrown
        cases isOk
    | some exception =>
        refine ⟨exception, rfl, ?_⟩
        rcases thrownFrom rfl with fromStart | member
        · cases fromStart
        · exact member
  · intro noneThrown someFailed
    cases exception with
    | some exception =>
        rcases thrownFrom rfl with fromStart | member
        · cases fromStart
        · exact absurd member (noneThrown exception)
    | none =>
        have failed : status.isOk = false := failedKept (.inr someFailed)
        rcases statusFrom with same | ⟨-, member⟩
        · have stayed : status = Status.OK := same
          rw [stayed] at failed
          cases failed
        · exact ⟨status, rfl, member, failed⟩
  · intro allOk
    cases exception with
    | some exception =>
        rcases thrownFrom rfl with fromStart | member
        · cases fromStart
        · obtain ⟨st, isSt, -⟩ := allOk _ member
          cases isSt
    | none =>
        rcases statusFrom with same | ⟨failed, member⟩
        · have stayed : status = Status.OK := same
          rw [stayed]
        · obtain ⟨st, isSt, passed⟩ := allOk _ member
          cases isSt
          rw [passed] at failed
          cases failed

theorem pool_runs_every_task (n : Nat) (someWorker : 0 < n) {s : Pool n}
    (reachable : Transition.Reachable next (init n) s) (alive : s.destructor = .alive) :
    Acc (fun t u => Transition.Step poolNext u t) s ∧
      (∀ t, Transition.Reachable poolNext s t → Transition.Terminal poolNext t →
        t.tasks = [] ∧ runningTasks t = [] ∧ t.finished.Nodup ∧
          t.finished.Perm (t.history.map Task.id)) ∧
      ∀ results : List (Except String Status),
        ((∃ e, .error e ∈ results) → ∃ e, batchExecResult results = .error e ∧ .error e ∈ results) ∧
        ((∀ e, .error e ∉ results) → (∃ st, .ok st ∈ results ∧ st.isOk = false) →
          ∃ st, batchExecResult results = .ok st ∧ .ok st ∈ results ∧ st.isOk = false) ∧
        ((∀ r ∈ results, ∃ st, r = .ok st ∧ st.isOk = true) →
          batchExecResult results = .ok Status.OK) := by
  have start := Alive.of_reachable someWorker reachable alive
  refine ⟨poolNext_acc s, ?_, batchExecResult_spec⟩
  intro t reach terminal
  have aliveT : Alive t :=
    Transition.Reachable.closed (fun _ _ _ holds stepped => holds.poolStep someWorker stepped)
      start reach
  obtain ⟨queueEmpty, noneRunning, -⟩ := aliveT.terminal someWorker terminal
  have everything := aliveT.accounted
  rw [queueEmpty, noneRunning] at everything
  simp only [List.map_nil, List.append_nil] at everything
  exact ⟨queueEmpty, noneRunning, everything.nodup_iff.mp aliveT.distinct, everything.symm⟩

/-- `BatchExec` of two ops on a pool of one worker: the ops `0` and `1` (an `Exec` each) and the
task that waits on their futures are enqueued, and the worker takes op `0`. -/
def batchExecRun : List (Action 1) :=
  [.enqueue ⟨0, []⟩, .enqueue ⟨1, []⟩, .enqueue ⟨2, [0, 1]⟩, .worker 0, .worker 0]

theorem run_batchExecRun :
    ∃ s, Transition.run next (init 1) batchExecRun = some s ∧ s.destructor = .alive ∧
      s.workers 0 = .running ⟨0, []⟩ ∧ s.tasks = [⟨1, []⟩, ⟨2, [0, 1]⟩] ∧
      s.history = [⟨0, []⟩, ⟨1, []⟩, ⟨2, [0, 1]⟩] := by
  simp [Transition.run, batchExecRun, next, enqueueStep, workerStep, init]

theorem pool_runs_every_task_batchExec :
    ∃ s, Transition.Reachable next (init 1) s ∧ s.destructor = .alive ∧
      s.workers 0 = .running ⟨0, []⟩ ∧ s.tasks = [⟨1, []⟩, ⟨2, [0, 1]⟩] ∧
      (Acc (fun t u => Transition.Step poolNext u t) s ∧
        (∀ t, Transition.Reachable poolNext s t → Transition.Terminal poolNext t →
          t.tasks = [] ∧ runningTasks t = [] ∧ t.finished.Nodup ∧
            t.finished.Perm (t.history.map Task.id)) ∧
        ∀ results : List (Except String Status),
          ((∃ e, .error e ∈ results) → ∃ e, batchExecResult results = .error e ∧ .error e ∈ results) ∧
          ((∀ e, .error e ∉ results) → (∃ st, .ok st ∈ results ∧ st.isOk = false) →
            ∃ st, batchExecResult results = .ok st ∧ .ok st ∈ results ∧ st.isOk = false) ∧
          ((∀ r ∈ results, ∃ st, r = .ok st ∧ st.isOk = true) →
            batchExecResult results = .ok Status.OK)) := by
  obtain ⟨s, ran, alive, running, queued, -⟩ := run_batchExecRun
  have reachable := Transition.reachable_of_run ran
  exact ⟨s, reachable, alive, running, queued, pool_runs_every_task 1 (by decide) reachable alive⟩

end ThreadPool

end ChogoriSql
