import RblRpc.Backend.BackEnd
import RblRpc.InProcess.Locks
import RblRpc.Lib.Locking
import RblRpc.Lib.Machine
import RblRpc.Tcp.FrontEnd

/-!
# The life of the TCP front ends

Model of the functions of `TcpFrontEnd` that are called from outside of its event loop (the
constructor, `start`, `stop`, `disconnect_from_backend`), of the io thread of each front end, and of
`disconect_managers`, with the mutexes at which these meet.  A point is a place between two actions
of a thread; locking a mutex is an action of its own, and leaving a guarded block goes with its
last action.  Of the connections of a front end only the operations in flight are counted, and
those that were left with none.

* `LifePoint` — the places; `LifePoint.discipline` says which mutexes are held there.
* `Handler.run` — a handler that the io thread takes, up to the first mutex.
* `ServerData.act` — one action of a thread, as the code takes it.
* `lifeCycleMachine` — every interleaving.
-/

namespace RblRpc

open Transition Locking

inductive FrontEndMutex where
  /-- `SynchronisedBackEndState::m_mutex`, a recursive one. -/
  | state
  /-- `TcpFrontEnd::m_mutex`. -/
  | frontEnd (i : ManagerId)
  /-- The mutex of `m_shutdown_notification`. -/
  | notification (i : ManagerId)
  deriving DecidableEq

/-- The threads of the application and of the pool, and the `m_thread` of each front end. -/
inductive ServerThread where
  | user (t : ThreadId)
  | io (i : ManagerId)
  deriving DecidableEq

/-! ## Places -/

/-- The places of the constructor, with `register_invoker_manager` inlined. -/
inductive ConstructPoint where
  | useable
  | stateLock
  | mutexLock
  | connect
  | slot
  deriving DecidableEq

/-- How `disconnect_from_backend` ends: it returns because the shutdown was initiated before,
because the slot was no longer connected, or at its end; or it throws. -/
inductive StopEnd where
  | initiated
  | notConnected
  | disconnected
  | threw
  deriving DecidableEq

/-- The places of `disconnect_from_backend`; `poll n` is the head of its loop, with
`shutdown_count` at `n`. -/
inductive StopPoint where
  | lock
  | initiated
  | connectedLock
  | connected
  | post
  | waitLock
  | wait
  | asleep
  | wakeLock
  | woken
  | poll (shutdownCount : ℕ)
  | disconnectLock
  | disconnect
  | leave (e : StopEnd)
  deriving DecidableEq

/-- The places of `disconect_managers`; in `signal slots` the slots are still to be called, and at
`unwind` one has thrown. -/
inductive ManagersPoint where
  | lock
  | slots
  | signal (slots : List ManagerId)
  | unwind
  deriving DecidableEq

/-- The places of `operator()` of a connection, past its dispatch. -/
inductive AnswerPoint where
  | endLock
  | endRpc
  | write
  deriving DecidableEq

/-- The places of an io thread: before it is created, in `run` between two handlers, at the
mutexes of `BackEnd::invoke`, in `shutdown_handler`, and past `run`. -/
inductive IoServicePoint where
  | unborn
  | run
  | startLock
  | start
  | endLock
  | endRpc
  | close
  | sweep
  | notifyLock
  | notify
  | returned
  deriving DecidableEq

/-- The place of a thread.  `disconnect_from_backend` is called by the application (in `stop`, which
the destructor calls too), or by the signal with slots still to be called. -/
inductive LifePoint where
  | idle
  | construct (i : ManagerId) (p : ConstructPoint)
  | start (i : ManagerId) (locked : Bool)
  | disconnect (i : ManagerId) (p : StopPoint) (slots : Option (List ManagerId))
  | managers (p : ManagersPoint)
  | accepting (value : Bool) (locked : Bool)
  | answer (i : ManagerId) (p : AnswerPoint)
  | io (i : ManagerId) (p : IoServicePoint)
  deriving DecidableEq

namespace LifePoint

/-- The mutex that is locked next. -/
def wants : LifePoint → Option FrontEndMutex
  | .construct _ .stateLock | .managers .lock | .accepting _ false | .answer _ .endLock
  | .io _ .startLock | .io _ .endLock => some .state
  | .disconnect _ .connectedLock _ | .disconnect _ .disconnectLock _ => some .state
  | .construct i .mutexLock | .start i false | .disconnect i .lock _ => some (.frontEnd i)
  | .disconnect i .waitLock _ | .disconnect i .wakeLock _ | .io i .notifyLock =>
    some (.notification i)
  | _ => none

/-- The thread is inside a block guarded by the back end's mutex. -/
def holdsState : LifePoint → Bool
  | .construct _ p => p = .mutexLock || p = .connect || p = .slot
  | .disconnect _ p slots => slots.isSome || p = .connected || p = .disconnect
  | .managers p => p ≠ .lock
  | .accepting _ locked => locked
  | .answer _ p => p = .endRpc
  | .io _ p => p = .start || p = .endRpc
  | _ => false

/-- The front end whose mutex the thread holds. -/
def holdsFrontEnd : LifePoint → Option ManagerId
  | .construct i p => if p = .connect then some i else none
  | .start i locked => if locked then some i else none
  | .disconnect i p _ => if p = .lock then none else some i
  | _ => none

/-- The front end whose notification object the thread has locked. -/
def holdsNotification : LifePoint → Option ManagerId
  | .disconnect i p _ => if p = .wait ∨ p = .woken then some i else none
  | .io i p => if p = .notify then some i else none
  | _ => none

def holds (p : LifePoint) : FrontEndMutex → Bool
  | .state => p.holdsState
  | .frontEnd i => p.holdsFrontEnd = some i
  | .notification i => p.holdsNotification = some i

/-- The mutex that the next action unlocks; within the signal the back end's one stays locked. -/
def releases : LifePoint → Option FrontEndMutex
  | .construct i .connect | .start i true | .disconnect i (.leave _) _ => some (.frontEnd i)
  | .construct _ .slot | .managers (.signal []) | .managers .unwind | .accepting _ true
  | .answer _ .endRpc | .io _ .start | .io _ .endRpc => some .state
  | .disconnect _ .connected none | .disconnect _ .disconnect none => some .state
  | .disconnect i .wait _ | .disconnect i .woken _ | .io i .notify => some (.notification i)
  | _ => none

/-- The mutexes at the places. -/
def discipline : Discipline LifePoint FrontEndMutex where
  wants := wants
  releases := releases
  holds := holds
  recursive m := m = .state
  holds_of_releases {p m} h := by
    revert h
    fun_cases releases p <;> intro h <;> cases h <;>
      simp [holds, holdsState, holdsFrontEnd, holdsNotification]
  releases_of_wants {p m} h := by
    revert h
    fun_cases wants p <;> intro h <;> first | rfl | cases h

end LifePoint

/-! ## What the threads share -/

/-- The operations that an io thread waits for.  A read of a header is cancelled when its socket is
closed; its handler is still to be called. -/
inductive PendingOperation where
  | accept
  | header
  | body
  | write
  | cancelled
  deriving DecidableEq

/-- The operations in flight, the connections whose header could not be read, which stay in
`m_connections` with an idle `io_state`, and the requests that the pool has. -/
structure IoWork where
  pending : PendingOperation → ℕ := fun _ => 0
  dead : ℕ := 0
  pooled : ℕ := 0

namespace IoWork

def begin (op : PendingOperation) (w : IoWork) : IoWork :=
  { w with pending := Function.update w.pending op (w.pending op + 1) }

/-- The operation is done, and its handler called. -/
def done (op : PendingOperation) (w : IoWork) : IoWork :=
  { w with pending := Function.update w.pending op (w.pending op - 1) }

/-- No operation is in flight. -/
def idle (w : IoWork) : Bool :=
  [PendingOperation.accept, .header, .body, .write, .cancelled].all (w.pending · = 0)

/-- A connection is left to itself. -/
def lose (w : IoWork) : IoWork := { w with dead := w.dead + 1 }

/-- The connections with an idle `io_state`. -/
def inactive (w : IoWork) : ℕ := w.pending .header + w.dead

/-- The idle connections are closed. -/
def closeInactive (w : IoWork) : IoWork :=
  { w with
    pending := Function.update (Function.update w.pending .cancelled
      (w.pending .cancelled + w.pending .header)) .header 0
    dead := 0 }

def toPool (w : IoWork) : IoWork := { w with pooled := w.pooled + 1 }

def fromPool (w : IoWork) : IoWork := { w with pooled := w.pooled - 1 }

end IoWork

/-- The members of a `TcpFrontEnd`, with what is left to do in its `m_io_service`: `posted` counts
the `shutdown_handler`s in it, `stopped` says that `run` has returned; `notified` is the flag of
`m_shutdown_notification`. -/
structure FrontEndLife where
  allocated : Bool := false
  constructed : Bool := false
  connectedToBackend : Bool := false
  started : Bool := false
  acceptingRequests : Bool := false
  shutdownInitiated : Bool := false
  notified : Bool := false
  acceptorOpen : Bool := false
  posted : ℕ := 0
  work : IoWork := {}
  stopped : Bool := false

namespace FrontEndLife

def onWork (g : IoWork → IoWork) (f : FrontEndLife) : FrontEndLife := { f with work := g f.work }

/-- Nothing is left to do. -/
def exhausted (f : FrontEndLife) : Bool := f.posted = 0 && f.work.idle

end FrontEndLife

/-- What `run` does next: call the handler of an operation, without or with an error, call
`shutdown_handler`, or return. -/
inductive Handler where
  | completed (op : PendingOperation) (ok : Bool)
  | shutdown
  | none
  deriving DecidableEq

namespace Handler

def ready (f : FrontEndLife) : Handler → Bool
  | .completed op _ => 0 < f.work.pending op
  | .shutdown => 0 < f.posted
  | .none => f.exhausted

/-- A handler, up to the first mutex.  `succeeds`: closing a socket succeeds.  A header that was
read before its connection was closed disconnects the connection again, which throws. -/
def run (succeeds : Bool) (f : FrontEndLife) :
    Handler → Except TcpFault (IoServicePoint × FrontEndLife)
  | .completed .accept true =>
    .ok (.run, f.onWork fun w => ((w.done .accept).begin .header).begin .accept)
  | .completed .header true =>
    if f.shutdownInitiated then
      if succeeds then .ok (.run, f.onWork (·.done .header)) else .error .frontEndException
    else .ok (.run, f.onWork fun w => (w.done .header).begin .body)
  | .completed .header false => .ok (.run, f.onWork fun w => (w.done .header).lose)
  | .completed .cancelled true => .error .frontEndException
  | .completed .body true => .ok (.startLock, f.onWork (·.done .body))
  | .completed .write true => .ok (.run, f.onWork fun w => (w.done .write).begin .header)
  | .completed op _ => .ok (.run, f.onWork (·.done op))
  | .shutdown => .ok (.close, { f with posted := f.posted - 1, shutdownInitiated := true })
  | .none => .ok (.returned, { f with stopped := true })

end Handler

/-- The back end's `m_is_sealed` and state, and the front ends. -/
structure ServerData where
  useable : Bool := false
  state : SynchronisedBackEndState := {}
  frontEnd : ManagerId → FrontEndLife := fun _ => {}

/-- What the world around a thread decides in an action: the handler an io thread takes, and
whether what it calls succeeds. -/
structure Choice where
  handler : Handler := .none
  succeeds : Bool := true
  deriving DecidableEq

namespace ServerData

def modify (i : ManagerId) (f : FrontEndLife → FrontEndLife) (d : ServerData) : ServerData :=
  { d with frontEnd := Function.update d.frontEnd i (f (d.frontEnd i)) }

def setState (s : SynchronisedBackEndState) (d : ServerData) : ServerData := { d with state := s }

/-- An action of the constructor. -/
def actConstruct (i : ManagerId) (d : ServerData) : ConstructPoint → LifePoint × ServerData
  | .useable => (if d.useable then .construct i .stateLock else .idle, d)
  | .stateLock => (.construct i .mutexLock, d)
  | .mutexLock => (.construct i .connect, d)
  | .connect => (.construct i .slot, d.modify i fun f => { f with connectedToBackend := true })
  | .slot =>
    (.idle, (d.setState (d.state.registerInvokerManager i)).modify i
      fun f => { f with constructed := true })

/-- An action of `start`; `opens`: the port can be bound. -/
def actStart (i : ManagerId) (opens : Bool) (d : ServerData) : Bool → LifePoint × ServerData
  | false => (.start i true, d)
  | true =>
    if !(d.frontEnd i).started && opens then
      (.idle, d.modify i fun f =>
        { f.onWork (·.begin .accept) with
          acceptorOpen := true, acceptingRequests := true, started := true })
    else (.idle, d)

/-- An action of `disconnect_from_backend`.  `wait` may return without a notification. -/
def actDisconnect (i : ManagerId) (slots : Option (List ManagerId)) (d : ServerData) :
    StopPoint → LifePoint × ServerData
  | .lock => (.disconnect i .initiated slots, d)
  | .initiated =>
    (.disconnect i (if (d.frontEnd i).shutdownInitiated then .leave .initiated
      else .connectedLock) slots, d)
  | .connectedLock => (.disconnect i .connected slots, d)
  | .connected =>
    (.disconnect i (if i ∈ d.state.slots then .post else .leave .notConnected) slots, d)
  | .post =>
    (.disconnect i .waitLock slots, d.modify i fun f => { f with posted := f.posted + 1 })
  | .waitLock => (.disconnect i .wait slots, d)
  | .wait => (.disconnect i (if (d.frontEnd i).notified then .poll 5 else .asleep) slots, d)
  | .asleep => (.disconnect i .wakeLock slots, d)
  | .wakeLock => (.disconnect i .woken slots, d)
  | .woken => (.disconnect i (.poll 5) slots, d)
  | .poll n =>
    (.disconnect i (if (d.frontEnd i).stopped then .disconnectLock
      else match n with
        | 0 => .leave .threw
        | n + 1 => .poll n) slots, d)
  | .disconnectLock => (.disconnect i .disconnect slots, d)
  | .disconnect =>
    (.disconnect i (.leave .disconnected) slots, d.setState (d.state.disconnectManager i))
  | .leave e => match slots with
    | none => (.idle, d)
    | some slots => (.managers (if e = .threw then .unwind else .signal slots), d)

/-- An action of `disconect_managers`; a slot that is no longer connected is not called. -/
def actManagers (d : ServerData) : ManagersPoint → LifePoint
  | .lock => .managers .slots
  | .slots => .managers (.signal d.state.slots)
  | .signal [] => .idle
  | .signal (i :: slots) =>
    if i ∈ d.state.slots then .disconnect i .lock (some slots) else .managers (.signal slots)
  | .unwind => .idle

/-- `begin_accepting_requests` or `stop_accepting_requests`. -/
def actAccepting (value : Bool) (d : ServerData) : Bool → LifePoint × ServerData
  | false => (.accepting value true, d)
  | true =>
    (.idle, d.setState
      (if value then d.state.beginAcceptingRequests else d.state.stopAcceptingRequests))

/-- An action of `operator()`; the response is written even when nothing runs the io service. -/
def actAnswer (i : ManagerId) (d : ServerData) : AnswerPoint → LifePoint × ServerData
  | .endLock => (.answer i .endRpc, d)
  | .endRpc => (.answer i .write, d.setState d.state.endARequest)
  | .write => (.idle, d.modify i (·.onWork (·.begin .write)))

/-- An action of an io thread.  In `start` a request that passes the checks is posted to the pool;
the acceptor can be closed once.  The loop in `sweep` is taken to visit every idle connection,
though it is undefined where there is one (`LifeWorld.defined`). -/
def actIo (c : Choice) (i : ManagerId) (d : ServerData) :
    IoServicePoint → Except TcpFault (LifePoint × ServerData)
  | .unborn => .ok (.io i .run, d)
  | .run => do
    let (p, f) ← c.handler.run c.succeeds (d.frontEnd i)
    return (.io i p, d.modify i fun _ => f)
  | .startLock => .ok (.io i .start, d)
  | .start => match d.state.startARequest with
    | (true, s) =>
      if c.succeeds then
        .ok (.io i .run, (d.setState s).modify i (·.onWork (·.toPool)))
      else .ok (.io i .endLock, d.setState s)
    | (false, s) => .ok (.io i .run, (d.setState s).modify i (·.onWork (·.begin .write)))
  | .endLock => .ok (.io i .endRpc, d)
  | .endRpc =>
    .ok (.io i .run, (d.setState d.state.endARequest).modify i (·.onWork (·.begin .write)))
  | .close =>
    if c.succeeds && (d.frontEnd i).acceptorOpen then
      .ok (.io i .sweep, d.modify i fun f => { f with acceptorOpen := false })
    else .error .frontEndException
  | .sweep =>
    if c.succeeds then .ok (.io i .notifyLock, d.modify i (·.onWork (·.closeInactive)))
    else .error .frontEndException
  | .notifyLock => .ok (.io i .notify, d)
  | .notify => .ok (.io i .run, d.modify i fun f => { f with notified := true })
  | .returned => .ok (.io i .returned, d)

/-- The next action of a thread. -/
def act (c : Choice) (d : ServerData) : LifePoint → Except TcpFault (LifePoint × ServerData)
  | .idle => .ok (.idle, d)
  | .construct i p => .ok (d.actConstruct i p)
  | .start i locked => .ok (d.actStart i c.succeeds locked)
  | .disconnect i p slots => .ok (d.actDisconnect i slots p)
  | .managers p => .ok (d.actManagers p, d)
  | .accepting value locked => .ok (d.actAccepting value locked)
  | .answer i p => .ok (d.actAnswer i p)
  | .io i p => d.actIo c i p

end ServerData

/-- What a thread starts; `startBackEnd` is `BackEnd::start`. -/
inductive LifeCall where
  | startBackEnd
  | accepting (value : Bool)
  | construct (i : ManagerId)
  | start (i : ManagerId)
  | stop (i : ManagerId)
  | managers
  | answer (i : ManagerId)
  deriving DecidableEq

/-- A thread starts a call, or takes its next action. -/
inductive LifeLabel where
  | start (t : ThreadId) (call : LifeCall)
  | step (t : ServerThread) (choice : Choice)
  deriving DecidableEq

/-- The threads with the owners of the mutexes, and what is shared. -/
structure LifeWorld where
  threads : Threads ServerThread LifePoint FrontEndMutex
  data : ServerData

namespace LifeWorld

def point (w : LifeWorld) (t : ServerThread) : LifePoint := w.threads.point t

/-- A call starts.  A sealed back end is not started again, and a pool thread takes a posted
request. -/
def startCall (d : ServerData) : LifeCall → LifePoint × ServerData
  | .startBackEnd =>
    if d.useable then (.idle, d) else (.accepting true false, { d with useable := true })
  | .accepting value => (.accepting value false, d)
  | .construct i => (.construct i .useable, d.modify i fun f => { f with allocated := true })
  | .start i => (.start i false, d)
  | .stop i => (.disconnect i .lock none, d)
  | .managers => (.managers .lock, d)
  | .answer i => (.answer i .endLock, d.modify i (·.onWork (·.fromPool)))

/-- A front end is constructed once, and used when it is. -/
def callable (d : ServerData) : LifeCall → Bool
  | .construct i => !(d.frontEnd i).allocated
  | .start i | .stop i => (d.frontEnd i).constructed
  | .answer i => 0 < (d.frontEnd i).work.pooled
  | _ => true

/-- The io thread is created by `start`, and calls the handlers that are ready. -/
def runnable (c : Choice) (d : ServerData) : LifePoint → Bool
  | .idle | .io _ .returned => false
  | .io i .unborn => (d.frontEnd i).started
  | .io i .run => c.handler.ready (d.frontEnd i)
  | _ => true

def enabled (w : LifeWorld) : LifeLabel → Bool
  | .start t call => w.point (.user t) = .idle && callable w.data call
  | .step t c => runnable c w.data (w.point t) && LifePoint.discipline.ready w.threads t

/-- The step is not one into the loop of `shutdown_handler` over an idle connection, which erases
the element that it stands at. -/
def defined (w : LifeWorld) : LifeLabel → Bool
  | .start _ _ => true
  | .step t _ => match w.point t with
    | .io i .sweep => (w.data.frontEnd i).work.inactive = 0
    | _ => true

def fire (w : LifeWorld) : LifeLabel → Except TcpFault LifeWorld
  | .start t call =>
    let (q, d) := startCall w.data call
    .ok { threads := w.threads.place (.user t) q, data := d }
  | .step t c => do
    let (q, d) ← w.data.act c (w.point t)
    return { threads := LifePoint.discipline.move w.threads t q, data := d }

/-- No thread has started. -/
def init : LifeWorld where
  threads :=
    { owner _ := none
      point
        | .user _ => .idle
        | .io i => .io i .unborn }
  data := {}

end LifeWorld

/-- Every interleaving of the threads, from a back end without front ends.  An exception in a
handler ends the process. -/
def lifeCycleMachine : Machine LifeWorld LifeLabel TcpFault where
  guard := LifeWorld.enabled
  fire := LifeWorld.fire

end RblRpc
