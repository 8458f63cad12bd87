import ChogoriSql.System.Transition

/-! `PGK2Client` of `pggate/k2_seastar_app.cc` and the request queues of `pggate/k2_queue_defs.h`
as a transition system: the producers' `pushQ`, the poller's `do_until` loop over `_pollForWork`,
`gracefulStop` with its final drain, and the resolution of the futures the visitors return.
`pushQ`, and `pollQ` of one queue with the synchronous part of every visitor it calls, are each one
step under `requestQMutex`; the eleven `pollQ` calls of one `_pollForWork` run in any order, as the
arguments of `when_all_succeed` are evaluated.  The SKV client is outside this repository: each of
its futures resolves in a step of its own, with a value or an exception, and whether a request's
transaction is in `_txns` and whether a call throws before it returns its future are answers of
the environment.  The reactor's steps interleave here more freely than on seastar's one thread, so
what holds of every run here holds of seastar's runs. -/

namespace ChogoriSql

namespace PGK2Client

inductive RequestQueue where
  | beginTxQ
  | endTxQ
  | schemaGetTxQ
  | schemaCreateTxQ
  | collectionCreateTxQ
  | collectionDropTxQ
  | scanReadCreateTxQ
  | scanReadTxQ
  | readTxQ
  | writeTxQ
  | updateTxQ
  deriving DecidableEq, Repr

def pollForWorkQueues : List RequestQueue :=
  [.beginTxQ, .endTxQ, .schemaGetTxQ, .schemaCreateTxQ, .scanReadTxQ, .readTxQ, .writeTxQ,
    .scanReadCreateTxQ, .updateTxQ, .collectionCreateTxQ, .collectionDropTxQ]

theorem mem_pollForWorkQueues (queue : RequestQueue) : queue ∈ pollForWorkQueues := by
  cases queue <;> decide

instance : Fintype RequestQueue where
  elems := pollForWorkQueues.toFinset
  complete queue := List.mem_toFinset.mpr (mem_pollForWorkQueues queue)

inductive Completion where
  | value
  | exception (what : String)
  deriving DecidableEq, Repr

inductive Pending where
  | stopped
  | skv
  deriving DecidableEq, Repr

inductive Visit where
  | settled (completion : Completion)
  | pending (future : Pending)
  deriving DecidableEq, Repr

structure VisitEnv where
  txnFound : Bool
  throws : Option String
  deriving DecidableEq, Repr

/-- The shape of every `_poll*Q` visitor: after `_stop`, the failed future `handle_exception`
completes; for the visitors that look the request's transaction up in `_txns`, the
`invalid txn id` result set at once; otherwise the SKV call, whose synchronous throw `pollQ`
catches and sets. -/
def visit (looksUpTxn stop : Bool) (env : VisitEnv) : Visit :=
  if stop then .pending .stopped
  else if looksUpTxn && !env.txnFound then .settled .value
  else
    match env.throws with
    | some what => .settled (.exception what)
    | none => .pending .skv

def pollBeginQ : Bool → VisitEnv → Visit := visit false
def pollEndQ : Bool → VisitEnv → Visit := visit true
def pollSchemaGetQ : Bool → VisitEnv → Visit := visit false
def pollSchemaCreateQ : Bool → VisitEnv → Visit := visit false
def pollCreateCollectionQ : Bool → VisitEnv → Visit := visit false
def pollDropCollectionQ : Bool → VisitEnv → Visit := visit false
def pollReadQ : Bool → VisitEnv → Visit := visit true
def pollCreateScanReadQ : Bool → VisitEnv → Visit := visit false
def pollScanReadQ : Bool → VisitEnv → Visit := visit true
def pollWriteQ : Bool → VisitEnv → Visit := visit true
def pollUpdateQ : Bool → VisitEnv → Visit := visit true

def RequestQueue.visitor : RequestQueue → Bool → VisitEnv → Visit
  | .beginTxQ => pollBeginQ
  | .endTxQ => pollEndQ
  | .schemaGetTxQ => pollSchemaGetQ
  | .schemaCreateTxQ => pollSchemaCreateQ
  | .collectionCreateTxQ => pollCreateCollectionQ
  | .collectionDropTxQ => pollDropCollectionQ
  | .scanReadCreateTxQ => pollCreateScanReadQ
  | .scanReadTxQ => pollScanReadQ
  | .readTxQ => pollReadQ
  | .writeTxQ => pollWriteQ
  | .updateTxQ => pollUpdateQ

inductive PollerPc where
  | idle
  | polling (left : List RequestQueue)
  | waiting
  | done
  deriving DecidableEq, Repr

inductive StopPc where
  | notCalled
  | shutdownSet
  | awaitingPoller
  | stoppingClient
  | draining (left : List RequestQueue)
  | drainWaiting
  | stopped
  | failed
  deriving DecidableEq, Repr

/-- The app on shard 0 after `start()`: the shared queues of request ids, `shutdown`, `_stop`,
the visitor futures `when_all_succeed` waits on, where the poller and `gracefulStop` are, every
request passed to `pushQ`, and every value or exception set on each request's promise. -/
structure App where
  queues : RequestQueue → List Nat
  shutdown : Bool
  stop : Bool
  inFlight : List (Nat × Pending)
  poller : PollerPc
  stopper : StopPc
  pushed : List Nat
  promises : Nat → List Completion

inductive Action where
  | pushQ (queue : RequestQueue) (id : Nat)
  | poller
  | poll (queue : RequestQueue) (envs : Nat → VisitEnv)
  | drain (queue : RequestQueue) (envs : Nat → VisitEnv)
  | resolved (id : Nat) (completion : Completion)
  | handled (id : Nat)
  | gracefulStop
  | clientStopped (succeeded : Bool)

def init : App where
  queues := fun _ => []
  shutdown := false
  stop := false
  inFlight := []
  poller := .idle
  stopper := .notCalled
  pushed := []
  promises := fun _ => []

namespace App

def setPromise (s : App) (id : Nat) (completion : Completion) : App :=
  { s with promises := Function.update s.promises id (s.promises id ++ [completion]) }

def settle (s : App) (id : Nat) : Visit → App
  | .settled completion => s.setPromise id completion
  | .pending future => { s with inFlight := s.inFlight ++ [(id, future)] }

/-- `pollQ(q, visitor)`: under the lock, each request of `q` in turn leaves the queue and is
handed to the visitor, which sees `_stop` as it is now. -/
def pollQ (s : App) (queue : RequestQueue) (visitor : Bool → VisitEnv → Visit)
    (envs : Nat → VisitEnv) : App :=
  (s.queues queue).foldl (fun t id => t.settle id (visitor s.stop (envs id)))
    { s with queues := Function.update s.queues queue [] }

def pushQ (s : App) (queue : RequestQueue) (id : Nat) : App :=
  if s.shutdown then
    { s with pushed := s.pushed ++ [id] }.setPromise id (.exception "queue processing has been shutdown")
  else
    { s with queues := Function.update s.queues queue (s.queues queue ++ [id]),
             pushed := s.pushed ++ [id] }

def resolve (s : App) (id : Nat) (future : Pending) (completion : Completion) : App :=
  { s.setPromise id completion with inFlight := s.inFlight.erase (id, future) }

end App

def pushQStep (s : App) (queue : RequestQueue) (id : Nat) : Option App :=
  if id ∈ s.pushed then none else some (s.pushQ queue id)

def pollerStep (s : App) : Option App :=
  match s.poller with
  | .idle => some { s with poller := if s.stop then .done else .polling pollForWorkQueues }
  | .polling [] => some { s with poller := .waiting }
  | .polling (_ :: _) => none
  | .waiting => if s.inFlight = [] then some { s with poller := .idle } else none
  | .done => none

def pollStep (s : App) (queue : RequestQueue) (envs : Nat → VisitEnv) : Option App :=
  match s.poller with
  | .polling left =>
      if queue ∈ left then
        some { s.pollQ queue queue.visitor envs with poller := .polling (left.erase queue) }
      else none
  | _ => none

def drainStep (s : App) (queue : RequestQueue) (envs : Nat → VisitEnv) : Option App :=
  match s.stopper with
  | .draining left =>
      if queue ∈ left then
        some { s.pollQ queue queue.visitor envs with stopper := .draining (left.erase queue) }
      else none
  | _ => none

def resolvedStep (s : App) (id : Nat) (completion : Completion) : Option App :=
  if (id, Pending.skv) ∈ s.inFlight then some (s.resolve id .skv completion) else none

def handledStep (s : App) (id : Nat) : Option App :=
  if (id, Pending.stopped) ∈ s.inFlight then
    some (s.resolve id .stopped (.exception "seastar app has been shutdown"))
  else none

/-- `gracefulStop()`: `shutdown` under the lock, `_stop`, then the continuations on `_poller`, on
`_client->gracefulStop()` (`clientStoppedStep`) and on the final `_pollForWork()`. -/
def gracefulStopStep (s : App) : Option App :=
  match s.stopper with
  | .notCalled => some { s with shutdown := true, stopper := .shutdownSet }
  | .shutdownSet => some { s with stop := true, stopper := .awaitingPoller }
  | .awaitingPoller => if s.poller = .done then some { s with stopper := .stoppingClient } else none
  | .stoppingClient => none
  | .draining [] => some { s with stopper := .drainWaiting }
  | .draining (_ :: _) => none
  | .drainWaiting => if s.inFlight = [] then some { s with stopper := .stopped } else none
  | .stopped => none
  | .failed => none

/-- `.then` runs the drain only after `_client->gracefulStop()` resolves with a value; its failure
fails the future `gracefulStop` returns. -/
def clientStoppedStep (s : App) (succeeded : Bool) : Option App :=
  match s.stopper with
  | .stoppingClient =>
      some { s with stopper := if succeeded then .draining pollForWorkQueues else .failed }
  | _ => none

def next (s : App) : Action → Option App
  | .pushQ queue id => pushQStep s queue id
  | .poller => pollerStep s
  | .poll queue envs => pollStep s queue envs
  | .drain queue envs => drainStep s queue envs
  | .resolved id completion => resolvedStep s id completion
  | .handled id => handledStep s id
  | .gracefulStop => gracefulStopStep s
  | .clientStopped succeeded => clientStoppedStep s succeeded

def StopPc.pastPoller : StopPc → Bool
  | .stoppingClient | .draining _ | .drainWaiting | .stopped | .failed => true
  | _ => false

def StopPc.hasDrained (queue : RequestQueue) : StopPc → Bool
  | .draining left => !left.contains queue
  | .drainWaiting | .stopped => true
  | _ => false

namespace App

def placed (s : App) (id : Nat) : Nat :=
  (∑ queue, (s.queues queue).count id) + (s.inFlight.map Prod.fst).count id + (s.promises id).length

variable {s : App} {id : Nat} {completion : Completion}

@[simp] theorem setPromise_queues : (s.setPromise id completion).queues = s.queues := rfl
@[simp] theorem setPromise_shutdown : (s.setPromise id completion).shutdown = s.shutdown := rfl
@[simp] theorem setPromise_stop : (s.setPromise id completion).stop = s.stop := rfl
@[simp] theorem setPromise_inFlight : (s.setPromise id completion).inFlight = s.inFlight := rfl
@[simp] theorem setPromise_poller : (s.setPromise id completion).poller = s.poller := rfl
@[simp] theorem setPromise_stopper : (s.setPromise id completion).stopper = s.stopper := rfl
@[simp] theorem setPromise_pushed : (s.setPromise id completion).pushed = s.pushed := rfl

theorem length_promises_setPromise (other : Nat) :
    ((s.setPromise id completion).promises other).length = (s.promises other).length + [id].count other := by
  by_cases same : other = id
  · subst same
    simp [setPromise]
  · simp [setPromise, same, Ne.symm same]

theorem placed_setPromise (other : Nat) :
    (s.setPromise id completion).placed other = s.placed other + [id].count other := by
  rw [placed, placed, length_promises_setPromise]
  simp only [setPromise_queues, setPromise_inFlight]
  omega

theorem placed_settle (other : Nat) (visit : Visit) :
    (s.settle id visit).placed other = s.placed other + [id].count other := by
  cases visit with
  | settled completion => exact placed_setPromise other
  | pending future =>
      simp only [settle, placed, List.map_append, List.map_cons, List.map_nil, List.count_append]
      omega

theorem foldl_settle_frame (visits : Nat → Visit) :
    ∀ (ids : List Nat) (t : App), ∃ inFlight promises,
      ids.foldl (fun u id => u.settle id (visits id)) t =
        { t with inFlight := inFlight, promises := promises }
  | [], t => ⟨t.inFlight, t.promises, rfl⟩
  | id :: ids, t => by
      obtain ⟨inFlight, promises, folded⟩ := foldl_settle_frame visits ids (t.settle id (visits id))
      rw [List.foldl_cons, folded]
      cases visits id <;> exact ⟨inFlight, promises, rfl⟩

theorem placed_foldl_settle (visits : Nat → Visit) (other : Nat) :
    ∀ (ids : List Nat) (t : App),
      (ids.foldl (fun u id => u.settle id (visits id)) t).placed other = t.placed other + ids.count other
  | [], t => rfl
  | id :: ids, t => by
      rw [List.foldl_cons, placed_foldl_settle visits other ids, placed_settle, List.count_singleton,
        List.count_cons]
      omega

variable {queue : RequestQueue} {visitor : Bool → VisitEnv → Visit} {envs : Nat → VisitEnv}

theorem pollQ_frame : ∃ inFlight promises, s.pollQ queue visitor envs =
    { s with queues := Function.update s.queues queue [], inFlight := inFlight, promises := promises } :=
  foldl_settle_frame _ _ _

theorem placed_pollQ (other : Nat) : (s.pollQ queue visitor envs).placed other = s.placed other := by
  have cleared := Transition.sum_comp_update_add (List.count other) s.queues queue []
  rw [pollQ, placed_foldl_settle]
  simp only [placed, List.count_nil, Nat.add_zero] at cleared ⊢
  omega

theorem pushQ_frame : ∃ queues promises, s.pushQ queue id =
    { s with queues := queues, pushed := s.pushed ++ [id], promises := promises } := by
  unfold pushQ
  split
  · exact ⟨_, _, rfl⟩
  · exact ⟨_, _, rfl⟩

theorem queues_pushQ_of_shutdown (shut : s.shutdown = true) : (s.pushQ queue id).queues = s.queues := by
  simp [pushQ, shut]

theorem placed_pushQ (other : Nat) :
    (s.pushQ queue id).placed other = s.placed other + [id].count other := by
  unfold pushQ
  split
  · exact placed_setPromise other
  · have appended := Transition.sum_comp_update_add (List.count other) s.queues queue
      (s.queues queue ++ [id])
    simp only [placed, List.count_append] at appended ⊢
    omega

theorem resolve_frame (future : Pending) : ∃ promises, s.resolve id future completion =
    { s with inFlight := s.inFlight.erase (id, future), promises := promises } :=
  ⟨_, rfl⟩

theorem placed_resolve {future : Pending} (waited : (id, future) ∈ s.inFlight) (other : Nat) :
    (s.resolve id future completion).placed other = s.placed other := by
  have counted := ((List.perm_cons_erase waited).map Prod.fst).count_eq other
  have promised := @length_promises_setPromise s id completion other
  simp only [List.map_cons, List.count_cons] at counted
  rw [List.count_singleton] at promised
  simp only [placed, resolve, setPromise] at promised ⊢
  omega

end App

theorem StopPc.pastPoller_of_hasDrained {pc : StopPc} {queue : RequestQueue}
    (drained : pc.hasDrained queue = true) : pc.pastPoller = true := by
  cases pc <;> simp_all [StopPc.hasDrained, StopPc.pastPoller]

section Steps

variable {s t : App}

theorem pushQStep_some {queue : RequestQueue} {id : Nat} (stepped : pushQStep s queue id = some t) :
    id ∉ s.pushed ∧ t = s.pushQ queue id := by
  obtain ⟨fresh, pushed⟩ := Option.ite_none_left_eq_some.mp stepped
  exact ⟨fresh, (Option.some.inj pushed).symm⟩

theorem pollerStep_cases (stepped : pollerStep s = some t) :
    (s.poller = .idle ∧ t = { s with poller := if s.stop then .done else .polling pollForWorkQueues }) ∨
      (s.poller = .polling [] ∧ t = { s with poller := .waiting }) ∨
      (s.poller = .waiting ∧ s.inFlight = [] ∧ t = { s with poller := .idle }) := by
  unfold pollerStep at stepped
  split at stepped
  · rename_i idle
    exact .inl ⟨idle, (Option.some.inj stepped).symm⟩
  · rename_i polled
    exact .inr (.inl ⟨polled, (Option.some.inj stepped).symm⟩)
  · cases stepped
  · rename_i waiting
    split at stepped
    · rename_i idle
      exact .inr (.inr ⟨waiting, idle, (Option.some.inj stepped).symm⟩)
    · cases stepped
  · cases stepped

theorem pollStep_some {queue : RequestQueue} {envs : Nat → VisitEnv}
    (stepped : pollStep s queue envs = some t) :
    ∃ left, s.poller = .polling left ∧ queue ∈ left ∧
      t = { s.pollQ queue queue.visitor envs with poller := .polling (left.erase queue) } := by
  unfold pollStep at stepped
  split at stepped
  · rename_i left polling
    split at stepped
    · rename_i listed
      exact ⟨left, polling, listed, (Option.some.inj stepped).symm⟩
    · cases stepped
  · cases stepped

theorem drainStep_some {queue : RequestQueue} {envs : Nat → VisitEnv}
    (stepped : drainStep s queue envs = some t) :
    ∃ left, s.stopper = .draining left ∧ queue ∈ left ∧
      t = { s.pollQ queue queue.visitor envs with stopper := .draining (left.erase queue) } := by
  unfold drainStep at stepped
  split at stepped
  · rename_i left draining
    split at stepped
    · rename_i listed
      exact ⟨left, draining, listed, (Option.some.inj stepped).symm⟩
    · cases stepped
  · cases stepped

theorem resolvedStep_some {id : Nat} {completion : Completion}
    (stepped : resolvedStep s id completion = some t) :
    (id, Pending.skv) ∈ s.inFlight ∧ t = s.resolve id .skv completion := by
  obtain ⟨waited, resolved⟩ := Option.ite_none_right_eq_some.mp stepped
  exact ⟨waited, (Option.some.inj resolved).symm⟩

theorem handledStep_some {id : Nat} (stepped : handledStep s id = some t) :
    (id, Pending.stopped) ∈ s.inFlight ∧
      t = s.resolve id .stopped (.exception "seastar app has been shutdown") := by
  obtain ⟨waited, handled⟩ := Option.ite_none_right_eq_some.mp stepped
  exact ⟨waited, (Option.some.inj handled).symm⟩

theorem gracefulStopStep_cases (stepped : gracefulStopStep s = some t) :
    (s.stopper = .notCalled ∧ t = { s with shutdown := true, stopper := .shutdownSet }) ∨
      (s.stopper = .shutdownSet ∧ t = { s with stop := true, stopper := .awaitingPoller }) ∨
      (s.stopper = .awaitingPoller ∧ s.poller = .done ∧ t = { s with stopper := .stoppingClient }) ∨
      (s.stopper = .draining [] ∧ t = { s with stopper := .drainWaiting }) ∨
      (s.stopper = .drainWaiting ∧ s.inFlight = [] ∧ t = { s with stopper := .stopped }) := by
  unfold gracefulStopStep at stepped
  split at stepped
  · rename_i called
    exact .inl ⟨called, (Option.some.inj stepped).symm⟩
  · rename_i shut
    exact .inr (.inl ⟨shut, (Option.some.inj stepped).symm⟩)
  · rename_i awaiting
    split at stepped
    · rename_i done
      exact .inr (.inr (.inl ⟨awaiting, done, (Option.some.inj stepped).symm⟩))
    · cases stepped
  · cases stepped
  · rename_i drained
    exact .inr (.inr (.inr (.inl ⟨drained, (Option.some.inj stepped).symm⟩)))
  · cases stepped
  · rename_i waiting
    split at stepped
    · rename_i idle
      exact .inr (.inr (.inr (.inr ⟨waiting, idle, (Option.some.inj stepped).symm⟩)))
    · cases stepped
  · cases stepped
  · cases stepped

theorem clientStoppedStep_some {succeeded : Bool} (stepped : clientStoppedStep s succeeded = some t) :
    s.stopper = .stoppingClient ∧
      t = { s with stopper := if succeeded then .draining pollForWorkQueues else .failed } := by
  unfold clientStoppedStep at stepped
  split at stepped
  · rename_i stopping
    exact ⟨stopping, (Option.some.inj stepped).symm⟩
  · cases stepped

end Steps

/-- What every reachable state keeps: each request passed to `pushQ` is in exactly one place, a
queue, the futures waited on or its promise set once, and no other request is anywhere;
`shutdown` is set once `gracefulStop` has begun; the drain comes after the poller's end, and a
queue it has polled stays empty. -/
structure Handoff (s : App) : Prop where
  accounted : ∀ id, s.placed id = s.pushed.count id
  distinct : s.pushed.Nodup
  shutdownSet : s.stopper ≠ .notCalled → s.shutdown = true
  pollerDone : s.stopper.pastPoller = true → s.poller = .done
  drained : ∀ queue, s.stopper.hasDrained queue = true → s.queues queue = []
  stoppedIdle : s.stopper = .stopped → s.inFlight = []

namespace Handoff

variable {s t : App}

theorem init : Handoff init where
  accounted id := by simp [App.placed, PGK2Client.init]
  distinct := List.nodup_nil
  shutdownSet called := absurd rfl called
  pollerDone past := by cases past
  drained _ drained := by cases drained
  stoppedIdle stopped := by cases stopped

theorem pushQ (inv : Handoff s) {queue : RequestQueue} {id : Nat} (fresh : id ∉ s.pushed) :
    Handoff (s.pushQ queue id) := by
  obtain ⟨queues, promises, pushed⟩ := @App.pushQ_frame s id queue
  refine ⟨fun other => ?_, ?_, ?_, ?_, fun other drained => ?_, ?_⟩
  · rw [App.placed_pushQ, inv.accounted other, pushed, List.count_append]
  · rw [pushed]
    exact inv.distinct.append (List.nodup_singleton id) (by simpa using fresh)
  · rw [pushed]
    exact inv.shutdownSet
  · rw [pushed]
    exact inv.pollerDone
  · have pastCalled : s.stopper ≠ .notCalled := by
      intro called
      rw [pushed, called] at drained
      cases drained
    rw [App.queues_pushQ_of_shutdown (inv.shutdownSet pastCalled)]
    rw [pushed] at drained
    exact inv.drained other drained
  · rw [pushed]
    exact inv.stoppedIdle

theorem withPoller (inv : Handoff s) {pc : PollerPc} (running : s.poller ≠ .done) :
    Handoff { s with poller := pc } where
  accounted := inv.accounted
  distinct := inv.distinct
  shutdownSet := inv.shutdownSet
  pollerDone past := absurd (inv.pollerDone past) running
  drained := inv.drained
  stoppedIdle := inv.stoppedIdle

theorem pollQ (inv : Handoff s) {queue : RequestQueue} {envs : Nat → VisitEnv} {left : List RequestQueue}
    (polling : s.poller = .polling left) :
    Handoff { s.pollQ queue queue.visitor envs with poller := .polling (left.erase queue) } := by
  -- while the poller polls, `gracefulStop` has not passed its wait on `_poller`
  have running : s.stopper.pastPoller ≠ true := fun past => by
    rw [inv.pollerDone past] at polling
    cases polling
  have placed : ∀ other, (s.pollQ queue queue.visitor envs).placed other = s.placed other :=
    App.placed_pollQ
  obtain ⟨inFlight, promises, polled⟩ := @App.pollQ_frame s queue queue.visitor envs
  rw [polled] at placed ⊢
  refine ⟨fun other => (placed other).trans (inv.accounted other), inv.distinct, inv.shutdownSet,
    fun past => absurd past running, fun _ drained => absurd (StopPc.pastPoller_of_hasDrained drained) running,
    fun stopped => absurd (by rw [stopped]; rfl) running⟩

theorem drainQ (inv : Handoff s) {queue : RequestQueue} {envs : Nat → VisitEnv}
    {left : List RequestQueue} (draining : s.stopper = .draining left) :
    Handoff { s.pollQ queue queue.visitor envs with stopper := .draining (left.erase queue) } := by
  have called : s.stopper ≠ .notCalled := by simp [draining]
  have done : s.poller = .done := inv.pollerDone (by simp [draining, StopPc.pastPoller])
  have placed : ∀ other, (s.pollQ queue queue.visitor envs).placed other = s.placed other :=
    App.placed_pollQ
  obtain ⟨inFlight, promises, polled⟩ := @App.pollQ_frame s queue queue.visitor envs
  rw [polled] at placed ⊢
  refine ⟨fun other => (placed other).trans (inv.accounted other), inv.distinct,
    fun _ => inv.shutdownSet called, fun _ => done, fun other drained => ?_,
    fun stopped => by cases stopped⟩
  show Function.update s.queues queue [] other = []
  by_cases same : other = queue
  · rw [same, Function.update_self]
  · rw [Function.update_of_ne same]
    have notLeft : other ∉ left.erase queue := by simpa [StopPc.hasDrained] using drained
    apply inv.drained other
    simpa [draining, StopPc.hasDrained] using fun listed => notLeft ((List.mem_erase_of_ne same).mpr listed)

theorem resolve (inv : Handoff s) {id : Nat} {future : Pending} {completion : Completion}
    (waited : (id, future) ∈ s.inFlight) : Handoff (s.resolve id future completion) := by
  have placed : ∀ other, (s.resolve id future completion).placed other = s.placed other :=
    App.placed_resolve waited
  obtain ⟨promises, resolved⟩ := @App.resolve_frame s id completion future
  rw [resolved] at placed ⊢
  refine ⟨fun other => (placed other).trans (inv.accounted other), inv.distinct, inv.shutdownSet,
    inv.pollerDone, inv.drained, fun stopped => ?_⟩
  rw [inv.stoppedIdle stopped] at waited
  cases waited

theorem withShutdown (inv : Handoff s) : Handoff { s with shutdown := true } :=
  ⟨inv.accounted, inv.distinct, fun _ => rfl, inv.pollerDone, inv.drained, inv.stoppedIdle⟩

theorem withStop (inv : Handoff s) : Handoff { s with stop := true } :=
  ⟨inv.accounted, inv.distinct, inv.shutdownSet, inv.pollerDone, inv.drained, inv.stoppedIdle⟩

theorem withStopper (inv : Handoff s) {pc : StopPc} (called : pc ≠ .notCalled → s.shutdown = true)
    (past : pc.pastPoller = true → s.poller = .done)
    (drained : ∀ queue, pc.hasDrained queue = true → s.queues queue = [])
    (idle : pc = .stopped → s.inFlight = []) : Handoff { s with stopper := pc } :=
  ⟨inv.accounted, inv.distinct, called, past, drained, idle⟩

theorem gracefulStopStep (inv : Handoff s) (stepped : gracefulStopStep s = some t) : Handoff t := by
  rcases gracefulStopStep_cases stepped with ⟨called, rfl⟩ | ⟨shut, rfl⟩ | ⟨awaiting, done, rfl⟩ |
    ⟨draining, rfl⟩ | ⟨waiting, idle, rfl⟩
  · exact inv.withShutdown.withStopper (fun _ => rfl) (by simp [StopPc.pastPoller])
      (by simp [StopPc.hasDrained]) (by simp)
  · exact inv.withStop.withStopper (fun _ => inv.shutdownSet (by simp [shut]))
      (by simp [StopPc.pastPoller]) (by simp [StopPc.hasDrained]) (by simp)
  · exact inv.withStopper (fun _ => inv.shutdownSet (by simp [awaiting])) (fun _ => done)
      (by simp [StopPc.hasDrained]) (by simp)
  · exact inv.withStopper (fun _ => inv.shutdownSet (by simp [draining]))
      (fun _ => inv.pollerDone (by simp [draining, StopPc.pastPoller]))
      (fun queue _ => inv.drained queue (by simp [draining, StopPc.hasDrained])) (by simp)
  · exact inv.withStopper (fun _ => inv.shutdownSet (by simp [waiting]))
      (fun _ => inv.pollerDone (by simp [waiting, StopPc.pastPoller]))
      (fun queue _ => inv.drained queue (by simp [waiting, StopPc.hasDrained])) (fun _ => idle)

theorem clientStoppedStep (inv : Handoff s) {succeeded : Bool}
    (stepped : clientStoppedStep s succeeded = some t) : Handoff t := by
  obtain ⟨stopping, rfl⟩ := clientStoppedStep_some stepped
  have called := inv.shutdownSet (by simp [stopping])
  have done := inv.pollerDone (by simp [stopping, StopPc.pastPoller])
  cases succeeded
  · exact inv.withStopper (fun _ => called) (fun _ => done) (by simp [StopPc.hasDrained]) (by simp)
  · -- the drain has polled nothing yet: every queue is still to come
    exact inv.withStopper (fun _ => called) (fun _ => done)
      (fun queue drained => by simp [StopPc.hasDrained, mem_pollForWorkQueues] at drained) (by simp)

theorem step (inv : Handoff s) {action : Action} (stepped : next s action = some t) : Handoff t := by
  cases action with
  | pushQ queue id =>
      obtain ⟨fresh, rfl⟩ := pushQStep_some stepped
      exact inv.pushQ fresh
  | poller =>
      rcases pollerStep_cases stepped with ⟨idle, rfl⟩ | ⟨polling, rfl⟩ | ⟨waiting, -, rfl⟩
      · exact inv.withPoller (by simp [idle])
      · exact inv.withPoller (by simp [polling])
      · exact inv.withPoller (by simp [waiting])
  | poll queue envs =>
      obtain ⟨left, polling, -, rfl⟩ := pollStep_some stepped
      exact inv.pollQ polling
  | drain queue envs =>
      obtain ⟨left, draining, -, rfl⟩ := drainStep_some stepped
      exact inv.drainQ draining
  | resolved id completion =>
      obtain ⟨waited, rfl⟩ := resolvedStep_some stepped
      exact inv.resolve waited
  | handled id =>
      obtain ⟨waited, rfl⟩ := handledStep_some stepped
      exact inv.resolve waited
  | gracefulStop => exact inv.gracefulStopStep stepped
  | clientStopped succeeded => exact inv.clientStoppedStep stepped

theorem of_reachable (reachable : Transition.Reachable next PGK2Client.init s) : Handoff s :=
  Transition.Reachable.closed (fun _ _ _ inv stepped => inv.step stepped) Handoff.init reachable

theorem stopped (inv : Handoff s) (stopped : s.stopper = .stopped) :
    (∀ queue, s.queues queue = []) ∧ s.inFlight = [] ∧
      ∀ id ∈ s.pushed, (s.promises id).length = 1 := by
  have empty : ∀ queue, s.queues queue = [] := fun queue =>
    inv.drained queue (by rw [stopped]; rfl)
  have idle := inv.stoppedIdle stopped
  refine ⟨empty, idle, fun id pushed => ?_⟩
  have counted := inv.accounted id
  rw [List.count_eq_one_of_mem inv.distinct pushed] at counted
  simpa [App.placed, empty, idle] using counted

end Handoff

section Progress

variable {s t : App}

end Progress

end PGK2Client

end ChogoriSql
