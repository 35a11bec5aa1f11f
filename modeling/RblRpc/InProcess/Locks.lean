import Mathlib.Logic.Function.Basic
import RblRpc.Backend.BackEnd
import RblRpc.Lib.Machine
import RblRpc.Lib.WaitFor

/-!
# The mutexes of `InProcessInvoker`

The threads that meet at the mutexes of the in-process invokers and of the back end: callers of
`invoke`, of `disconnect_from_backend` and of the constructor, pool threads, and the thread in
`shutdown`.  A point is a place between two actions of such a thread; taking a mutex is an action
of its own, and leaving a guarded block goes with its last action.

* `Point` — the places of the five functions; `Point.wants` is the mutex locked next.
* `InProcess.act` — one action of a thread, as the code takes it.
* `lockMachine` — every interleaving.
-/

namespace RblRpc

open Transition WaitFor

abbrev ThreadId := ℕ

inductive Mutex where
  /-- `SynchronisedBackEndState::m_mutex`, a recursive one. -/
  | state
  /-- `InProcessInvoker::m_mutex`. -/
  | invoker (i : ManagerId)
  /-- `NotificationObject::mutex`. -/
  | notification (i : ManagerId)
  deriving DecidableEq

/-- The places of `InProcessInvoker::invoke`, with `BackEnd::invoke` and `after_post` inlined. -/
inductive InvokePoint where
  | lock
  | connected
  | startLock
  | start
  | check
  | endLock
  | endRpc
  | waitLock
  | wait
  | asleep
  | wakeLock
  | woken
  | leave
  deriving DecidableEq

/-- The places of `disconnect_from_backend`. -/
inductive DisconnectPoint where
  | lock
  | connected
  | signalLock
  | signal
  | leave
  deriving DecidableEq

/-- The places of `operator()`. -/
inductive OperatorPoint where
  | dispatch
  | endLock
  | endRpc
  | notifyLock
  | notify
  deriving DecidableEq

/-- The places of `shutdown` and `shutdown_step`; in `signal slots` the slots are still to be
called. -/
inductive ShutdownPoint where
  | initiateLock
  | initiate
  | step
  | stopLock
  | stop
  | countLock
  | count
  | managersLock
  | managers
  | signal (slots : List ManagerId)
  | testLock
  | test
  deriving DecidableEq

/-- The place of a thread.  `disconnect_from_backend` is called by the application (or by the
destructor), or by the signal with slots still to be called. -/
inductive Point where
  | idle
  | register (i : ManagerId) (locked : Bool)
  | invoke (i : ManagerId) (p : InvokePoint)
  | disconnect (i : ManagerId) (p : DisconnectPoint) (slots : Option (List ManagerId))
  | operator (i : ManagerId) (p : OperatorPoint)
  | shutdown (p : ShutdownPoint)
  deriving DecidableEq

namespace Point

/-- The mutex that is locked next. -/
def wants : Point → Option Mutex
  | .register _ false => some .state
  | .invoke i .lock | .disconnect i .lock _ => some (.invoker i)
  | .invoke _ .startLock | .invoke _ .endLock | .disconnect _ .signalLock _
  | .operator _ .endLock => some .state
  | .invoke i .waitLock | .invoke i .wakeLock | .operator i .notifyLock => some (.notification i)
  | .shutdown .initiateLock | .shutdown .stopLock | .shutdown .countLock
  | .shutdown .managersLock | .shutdown .testLock => some .state
  | _ => none

/-- The thread is inside a block guarded by the back end's mutex. -/
def holdsState : Point → Bool
  | .register _ locked => locked
  | .invoke _ p => p = .start || p = .endRpc
  | .disconnect _ p slots => slots.isSome || p = .signal
  | .operator _ p => p = .endRpc
  | .shutdown p => match p with
    | .initiate | .stop | .count | .managers | .signal _ | .test => true
    | _ => false
  | .idle => false

/-- The invoker whose mutex the thread holds. -/
def holdsInvoker : Point → Option ManagerId
  | .invoke i p => if p = .lock then none else some i
  | .disconnect i p _ => if p = .lock then none else some i
  | _ => none

/-- The invoker whose notification object the thread has locked. -/
def holdsNotification : Point → Option ManagerId
  | .invoke i p => if p = .wait ∨ p = .woken then some i else none
  | .operator i p => if p = .notify then some i else none
  | _ => none

def holds (p : Point) : Mutex → Bool
  | .state => p.holdsState
  | .invoker i => p.holdsInvoker = some i
  | .notification i => p.holdsNotification = some i

/-- The mutex that the next action unlocks; within the signal the back end's one stays locked. -/
def releases : Point → Option Mutex
  | .register _ true => some .state
  | .invoke _ .start | .invoke _ .endRpc => some .state
  | .invoke i .wait | .invoke i .woken => some (.notification i)
  | .invoke i .leave => some (.invoker i)
  | .disconnect _ .signal none => some .state
  | .disconnect i .leave _ => some (.invoker i)
  | .operator _ .endRpc => some .state
  | .operator i .notify => some (.notification i)
  | .shutdown .initiate | .shutdown .stop | .shutdown .count | .shutdown (.signal [])
  | .shutdown .test => some .state
  | _ => none

/-- The thread is in `f_disc_invoker_sig()`. -/
def signalling : Point → Bool
  | .shutdown (.signal _) | .disconnect _ _ (some _) => true
  | _ => false

/-- The invoker whose mutex the thread holds with the back end's mutex still to be locked. -/
def inside : Point → Option ManagerId
  | .invoke i .connected | .invoke i .startLock | .invoke i .start | .invoke i .check
  | .invoke i .endLock => some i
  | .disconnect i .connected none | .disconnect i .signalLock none => some i
  | _ => none

end Point

/-- What the threads share: the back end's state, the posted invokers, and `m_connected` and the
flag of the notification object of each invoker. -/
structure InProcess where
  state : SynchronisedBackEndState := { acceptingRequests := true }
  queue : List ManagerId := []
  connected : ManagerId → Bool := fun _ => false
  ready : ManagerId → Bool := fun _ => false

namespace InProcess

/-- An action of `InProcessInvoker::invoke`; `accepts` says whether the checks of
`BackEnd::invoke` pass.  `wait` may return without a notification. -/
def actInvoke (i : ManagerId) (accepts : Bool) (d : InProcess) : InvokePoint → Point × InProcess
  | .lock => (.invoke i .connected, d)
  | .connected => (.invoke i (if d.connected i then .startLock else .leave), d)
  | .startLock => (.invoke i .start, d)
  | .start => match d.state.startARequest with
    | (true, s) => (.invoke i .check, { d with state := s })
    | (false, s) => (.invoke i .leave, { d with state := s })
  | .check =>
    if accepts then (.invoke i .waitLock, { d with queue := d.queue ++ [i] })
    else (.invoke i .endLock, d)
  | .endLock => (.invoke i .endRpc, d)
  | .endRpc => (.invoke i .leave, { d with state := d.state.endARequest })
  | .waitLock => (.invoke i .wait, d)
  | .wait => (.invoke i (if d.ready i then .leave else .asleep), d)
  | .asleep => (.invoke i .wakeLock, d)
  | .wakeLock => (.invoke i .woken, d)
  | .woken => (.invoke i .leave, d)
  | .leave => (.idle, d)

/-- An action of `disconnect_from_backend`. -/
def actDisconnect (i : ManagerId) (slots : Option (List ManagerId)) (d : InProcess) :
    DisconnectPoint → Point × InProcess
  | .lock => (.disconnect i .connected slots, d)
  | .connected =>
    (.disconnect i .signalLock slots, { d with connected := Function.update d.connected i false })
  | .signalLock => (.disconnect i .signal slots, d)
  | .signal => (.disconnect i .leave slots, { d with state := d.state.disconnectManager i })
  | .leave => match slots with
    | none => (.idle, d)
    | some slots => (.shutdown (.signal slots), d)

/-- An action of `operator()`. -/
def actOperator (i : ManagerId) (d : InProcess) : OperatorPoint → Point × InProcess
  | .dispatch => (.operator i .endLock, d)
  | .endLock => (.operator i .endRpc, d)
  | .endRpc => (.operator i .notifyLock, { d with state := d.state.endARequest })
  | .notifyLock => (.operator i .notify, d)
  | .notify => (.idle, { d with ready := Function.update d.ready i true })

/-- An action of `shutdown`.  The state of the shutdown is read and written without the mutex; a
slot that is no longer connected is not called. -/
def actShutdown (d : InProcess) : ShutdownPoint → Point × InProcess
  | .initiateLock => (.shutdown .initiate, d)
  | .initiate => match d.state.checkAndInitiateShutdown with
    | (true, s) => (.shutdown .step, { d with state := s })
    | (false, s) => (.idle, { d with state := s })
  | .step =>
    (.shutdown (match d.state.shutdownState with
      | .shutdownInitiated => .stopLock
      | .shutdownWaitingOnActiveRpcEnd => .countLock
      | .shutdownWaitingOnManagerDisconections => .testLock
      | _ => .step), d)
  | .stopLock => (.shutdown .stop, d)
  | .stop =>
    (.shutdown .countLock, { d with
      state := d.state.stopAcceptingRequests.setShutdownState .shutdownWaitingOnActiveRpcEnd })
  | .countLock => (.shutdown .count, d)
  | .count =>
    if d.state.activeRpcCount = 0 then
      (.shutdown .managersLock, { d with
        state := d.state.setShutdownState .shutdownWaitingOnManagerDisconections })
    else (.shutdown .step, d)
  | .managersLock => (.shutdown .managers, d)
  | .managers => (.shutdown (.signal d.state.slots), d)
  | .signal [] => (.shutdown .testLock, d)
  | .signal (i :: slots) =>
    if i ∈ d.state.slots then (.disconnect i .lock (some slots), d)
    else (.shutdown (.signal slots), d)
  | .testLock => (.shutdown .test, d)
  | .test => (.idle, d)

/-- An action of the constructor. -/
def actRegister (i : ManagerId) (d : InProcess) : Bool → Point × InProcess
  | false => (.register i true, d)
  | true =>
    (.idle, { d with
      connected := Function.update d.connected i true
      state := d.state.registerInvokerManager i })

/-- The next action of a thread. -/
def act (accepts : Bool) (d : InProcess) : Point → Point × InProcess
  | .idle => (.idle, d)
  | .register i locked => d.actRegister i locked
  | .invoke i p => d.actInvoke i accepts p
  | .disconnect i p slots => d.actDisconnect i slots p
  | .operator i p => d.actOperator i p
  | .shutdown p => d.actShutdown p

end InProcess

/-- What a thread starts. -/
inductive Call where
  | register (i : ManagerId)
  | invoke (i : ManagerId)
  | disconnect (i : ManagerId)
  | operator (i : ManagerId)
  | shutdown
  deriving DecidableEq

/-- A thread starts a call, or takes its next action. -/
inductive LockLabel where
  | start (t : ThreadId) (call : Call)
  | step (t : ThreadId) (accepts : Bool)
  deriving DecidableEq

/-- The thread a label is about. -/
def LockLabel.thread : LockLabel → ThreadId
  | .start t _ | .step t _ => t

/-- The threads, the owners of the mutexes, and what is shared. -/
structure Locks where
  owner : Mutex → Option ThreadId := fun _ => none
  point : ThreadId → Point := fun _ => .idle
  data : InProcess := {}

namespace Locks

/-- A call starts: a generated method calls `reset` before `invoke`, and a pool thread takes a
posted invoker. -/
def startCall (d : InProcess) : Call → Point × InProcess
  | .register i => (.register i false, d)
  | .invoke i => (.invoke i .lock, { d with ready := Function.update d.ready i false })
  | .disconnect i => (.disconnect i .lock none, d)
  | .operator i => (.operator i .dispatch, { d with queue := d.queue.erase i })
  | .shutdown => (.shutdown .initiateLock, d)

/-- The owners after the action at `p`. -/
def ownerAfter (t : ThreadId) (p : Point) (owner : Mutex → Option ThreadId) :
    Mutex → Option ThreadId :=
  match p.wants, p.releases with
  | some m, _ => Function.update owner m (some t)
  | none, some m => Function.update owner m none
  | none, none => owner

def fire (w : Locks) : LockLabel → Locks
  | .start t call =>
    let (q, d) := startCall w.data call
    { w with point := Function.update w.point t q, data := d }
  | .step t accepts =>
    let (q, d) := w.data.act accepts (w.point t)
    { owner := ownerAfter t (w.point t) w.owner
      point := Function.update w.point t q
      data := d }

/-- The thread can lock `m`: it is free, or it is the recursive one and the thread has it. -/
def free (w : Locks) (t : ThreadId) (m : Mutex) : Bool :=
  w.owner m = none || (m = .state && w.owner m = some t)

/-- A thread starts one call at a time; the constructor makes a new invoker. -/
def enabled (w : Locks) : LockLabel → Bool
  | .start t call => w.point t = .idle && match call with
    | .register i => decide (i ∉ w.data.state.slots)
    | .operator i => decide (i ∈ w.data.queue)
    | _ => true
  | .step t _ => w.point t ≠ .idle && match (w.point t).wants with
    | some m => w.free t m
    | none => true

/-- Who holds, and who waits for, which mutex. -/
def situation (w : Locks) : Situation ThreadId Mutex where
  holds t m := w.owner m = some t
  waits t m := (w.point t).wants = some m

end Locks

/-- Every interleaving of the threads, from a back end without invokers. -/
def lockMachine : Machine Locks LockLabel Empty where
  guard := Locks.enabled
  fire w l := .ok (w.fire l)

end RblRpc
