import RblRpc.Lib.Machine

/-!
# Atomic objects

What concurrent clients see of an object when each of their calls takes effect at one moment
between the call and its answer.

* `AtomicObject` — the meaning of the operations, one at a time, and of the changes that no client
  asks for.
* `AtomicObject.Trace` — the histories of the object: calls, effects, answers and changes.
* `Trace.serial` — **the effects of a history, in its order, are an execution without
  concurrency.**
* `Trace.conversation` — **each client's calls, effects and answers follow one another**: a call
  takes effect once before it is answered, and the answer is the one of the effect.
* `Trace.frame` — a history does not depend on the clients that take no part in it.
* `Machine.Implements` — a machine whose steps are moves of the object; `Implements.trace`: so are
  its runs.
-/

namespace Transition

/-- An object with states `Q` that clients `C` call with operations `Op`.  A call is given a ticket
when it arrives; what it does is said of the state in which it takes effect. -/
structure AtomicObject (Q C Op T Res E : Type) where
  ticket : Q → C → Op → T
  applies : Q → C → Op → T → Q → Res → Prop
  moves : Q → E → Q → Prop

namespace AtomicObject

variable {Q C Op T Res E : Type} {o : AtomicObject Q C Op T Res E}

/-- Where a client is: it has no call under way, its call has yet to take effect, or to be
answered. -/
inductive Turn (Op T Res : Type) where
  | idle
  | asked (op : Op) (t : T)
  | answered (res : Res)

/-- The state of the object, and where each client is. -/
@[ext] structure Config (Q C Op T Res : Type) where
  state : Q
  turns : C → Turn Op T Res

/-- What happens in a history. -/
inductive Event (C Op Res E : Type) where
  | call (c : C) (op : Op)
  | effect (c : C) (op : Op) (res : Res)
  | answer (c : C) (res : Res)
  | env (e : E)

variable [DecidableEq C]

def Config.setTurn (c : C) (t : Turn Op T Res) (s : Config Q C Op T Res) : Config Q C Op T Res :=
  { s with turns := Function.update s.turns c t }

def Config.setState (q : Q) (s : Config Q C Op T Res) : Config Q C Op T Res := { s with state := q }

@[simp] theorem Config.setTurn_self (c : C) (t : Turn Op T Res) (s : Config Q C Op T Res) :
    (s.setTurn c t).turns c = t :=
  Function.update_self ..

@[simp] theorem Config.setTurn_state (c : C) (t : Turn Op T Res) (s : Config Q C Op T Res) :
    (s.setTurn c t).state = s.state := rfl

theorem Config.setTurn_setTurn (c : C) (t t' : Turn Op T Res) (s : Config Q C Op T Res) :
    (s.setTurn c t).setTurn c t' = s.setTurn c t' := by
  unfold setTurn
  rw [Function.update_idem]

theorem Config.setTurn_eq_self {c : C} {t : Turn Op T Res} {s : Config Q C Op T Res}
    (h : s.turns c = t) : s.setTurn c t = s := by
  unfold setTurn
  rw [← h, Function.update_eq_self]

/-- Only the state changed. -/
theorem Config.setState_setTurn {c : C} {t : Turn Op T Res} {s : Config Q C Op T Res}
    (h : s.turns c = t) (q : Q) : (s.setState q).setTurn c t = s.setState q :=
  setTurn_eq_self h

theorem Config.setTurn_ne {c c' : C} (t : Turn Op T Res) (s : Config Q C Op T Res) (h : c' ≠ c) :
    (s.setTurn c t).turns c' = s.turns c' :=
  Function.update_of_ne h _ _

/-- What can happen next. -/
inductive Step (o : AtomicObject Q C Op T Res E) (s : Config Q C Op T Res) :
    Event C Op Res E → Config Q C Op T Res → Prop
  | call {c : C} {op : Op} (h : s.turns c = .idle) :
    Step o s (.call c op) (s.setTurn c (.asked op (o.ticket s.state c op)))
  | effect {c : C} {op : Op} {t : T} {q : Q} {res : Res} (h : s.turns c = .asked op t)
    (ha : o.applies s.state c op t q res) :
    Step o s (.effect c op res) ((s.setState q).setTurn c (.answered res))
  | answer {c : C} {res : Res} (h : s.turns c = .answered res) :
    Step o s (.answer c res) (s.setTurn c .idle)
  | env {e : E} {q : Q} (h : o.moves s.state e q) : Step o s (.env e) (s.setState q)

/-- The histories of an object. -/
inductive Trace (o : AtomicObject Q C Op T Res E) :
    Config Q C Op T Res → List (Event C Op Res E) → Config Q C Op T Res → Prop
  | nil (s : Config Q C Op T Res) : Trace o s [] s
  | cons {s s' s'' : Config Q C Op T Res} {e : Event C Op Res E} {es : List (Event C Op Res E)}
    (h : Step o s e s') (hs : Trace o s' es s'') : Trace o s (e :: es) s''

variable {s s' s'' : Config Q C Op T Res} {es es' : List (Event C Op Res E)} {c : C}

namespace Trace

theorem single {e : Event C Op Res E} (h : Step o s e s') : Trace o s [e] s' :=
  .cons h (.nil s')

theorem append (h : Trace o s es s') (h' : Trace o s' es' s'') : Trace o s (es ++ es') s'' := by
  induction h with
  | nil => exact h'
  | cons hstep _ ih => exact .cons hstep (ih h')

/-- A call that takes effect at once. -/
theorem atOnce {op : Op} {q : Q} {res : Res} (h : s.turns c = .idle)
    (ha : o.applies s.state c op (o.ticket s.state c op) q res) :
    o.Trace s [.call c op, .effect c op res] ((s.setState q).setTurn c (.answered res)) := by
  have hasked : (s.setTurn c (.asked op (o.ticket s.state c op))).turns c =
      .asked op (o.ticket s.state c op) := Config.setTurn_self ..
  have heffect := Step.effect (o := o) hasked ha
  have hend : ((s.setTurn c (.asked op (o.ticket s.state c op))).setState q).setTurn c
      (.answered res) = (s.setState q).setTurn c (.answered res) :=
    Config.setTurn_setTurn c _ _ (s.setState q)
  rw [hend] at heffect
  exact .cons (.call h) (.single heffect)

end Trace

/-! ## The effects, one at a time -/

/-- An effect or a change of its own accord. -/
inductive Act (C Op Res E : Type) where
  | effect (c : C) (op : Op) (res : Res)
  | env (e : E)

/-- An execution without concurrency; each operation takes effect with some ticket. -/
inductive Serial (o : AtomicObject Q C Op T Res E) : Q → List (Act C Op Res E) → Q → Prop
  | nil (q : Q) : Serial o q [] q
  | effect {q q' q'' : Q} {c : C} {op : Op} {t : T} {res : Res} {as : List (Act C Op Res E)}
    (h : o.applies q c op t q' res) (hs : Serial o q' as q'') :
    Serial o q (.effect c op res :: as) q''
  | env {q q' q'' : Q} {e : E} {as : List (Act C Op Res E)} (h : o.moves q e q')
    (hs : Serial o q' as q'') : Serial o q (.env e :: as) q''

/-- What an event does to the object. -/
def Event.act : Event C Op Res E → Option (Act C Op Res E)
  | .effect c op res => some (.effect c op res)
  | .env e => some (.env e)
  | _ => none

/-- **The effects of a history are an execution without concurrency.** -/
theorem Trace.serial (h : Trace o s es s') : Serial o s.state (es.filterMap Event.act) s'.state := by
  induction h with
  | nil s => exact .nil s.state
  | cons hstep _ ih =>
    cases hstep with
    | call => exact ih
    | effect _ ha => exact .effect ha ih
    | answer => exact ih
    | env hm => exact .env hm ih

/-- The call that an event is. -/
def Event.called : Event C Op Res E → Option (C × Op)
  | .call c op => some (c, op)
  | _ => none

/-! ## The conversation of a client -/

/-- What a client takes part in. -/
inductive Utterance (Op Res : Type) where
  | call (op : Op)
  | effect (op : Op) (res : Res)
  | answer (res : Res)
  deriving DecidableEq

/-- An event of client `c`. -/
def Event.of (c : C) : Event C Op Res E → Option (Utterance Op Res)
  | .call c' op => if c' = c then some (.call op) else none
  | .effect c' op res => if c' = c then some (.effect op res) else none
  | .answer c' res => if c' = c then some (.answer res) else none
  | .env _ => none

/-- A call takes effect, and is answered with what came of it, before the next call. -/
inductive Conversation : Turn Op T Res → List (Utterance Op Res) → Turn Op T Res → Prop
  | nil (t : Turn Op T Res) : Conversation t [] t
  | call {op : Op} {t : T} {us : List (Utterance Op Res)} {u : Turn Op T Res}
    (h : Conversation (.asked op t) us u) : Conversation .idle (.call op :: us) u
  | effect {op : Op} {t : T} {res : Res} {us : List (Utterance Op Res)} {u : Turn Op T Res}
    (h : Conversation (.answered res) us u) :
    Conversation (.asked op t) (.effect op res :: us) u
  | answer {res : Res} {us : List (Utterance Op Res)} {u : Turn Op T Res}
    (h : Conversation .idle us u) : Conversation (.answered res) (.answer res :: us) u

/-- An event of another client leaves the turn of `c`, and is not of its conversation. -/
theorem Step.other {e : Event C Op Res E} (h : Step o s e s') (hc : e.of c = none) :
    s'.turns c = s.turns c := by
  cases h with
  | call => exact Config.setTurn_ne _ _ fun he => by simp [Event.of, he] at hc
  | effect => exact Config.setTurn_ne _ _ fun he => by simp [Event.of, he] at hc
  | answer => exact Config.setTurn_ne _ _ fun he => by simp [Event.of, he] at hc
  | env => rfl

/-- **Each client's calls, effects and answers follow one another.** -/
theorem Trace.conversation (h : Trace o s es s') (c : C) :
    Conversation (s.turns c) (es.filterMap (Event.of c)) (s'.turns c) := by
  induction h with
  | nil s => exact .nil _
  | @cons s s₁ s₂ e es hstep _ ih =>
    cases hc : e.of c with
    | none =>
      rw [List.filterMap_cons_none hc, ← hstep.other hc]
      exact ih
    | some u =>
      rw [List.filterMap_cons_some hc]
      cases hstep with
      | @call c' op hidle =>
        by_cases he : c' = c
        · subst he
          rw [Event.of, if_pos rfl] at hc
          cases hc
          rw [Config.setTurn_self] at ih
          rw [hidle]
          exact .call ih
        · simp [Event.of, he] at hc
      | @effect c' op t q res hasked _ =>
        by_cases he : c' = c
        · subst he
          rw [Event.of, if_pos rfl] at hc
          cases hc
          rw [Config.setTurn_self] at ih
          rw [hasked]
          exact .effect ih
        · simp [Event.of, he] at hc
      | @answer c' res hans =>
        by_cases he : c' = c
        · subst he
          rw [Event.of, if_pos rfl] at hc
          cases hc
          rw [Config.setTurn_self] at ih
          rw [hans]
          exact .answer ih
        · simp [Event.of, he] at hc
      | env => cases hc

/-! ## Other clients -/

/-- Some clients are elsewhere. -/
def Config.override (u : C → Option (Turn Op T Res)) (s : Config Q C Op T Res) :
    Config Q C Op T Res :=
  { s with turns := fun c => (u c).getD (s.turns c) }

omit [DecidableEq C] in
theorem Config.override_turns {u : C → Option (Turn Op T Res)} {c : C} (h : u c = none)
    (s : Config Q C Op T Res) : (s.override u).turns c = s.turns c := by
  show (u c).getD (s.turns c) = s.turns c
  rw [h, Option.getD_none]

theorem Config.override_setTurn {u : C → Option (Turn Op T Res)} {c : C} (h : u c = none)
    (t : Turn Op T Res) (s : Config Q C Op T Res) :
    (s.setTurn c t).override u = (s.override u).setTurn c t := by
  refine Config.ext rfl (funext fun c' => ?_)
  by_cases hc : c' = c
  · subst hc
    rw [override_turns h, setTurn_self, setTurn_self]
  · rw [setTurn_ne t _ hc]
    show (u c').getD ((s.setTurn c t).turns c') = (u c').getD (s.turns c')
    rw [setTurn_ne t s hc]

/-- **The frame rule**: a history does not depend on where the clients are that take no part in
it. -/
theorem Trace.frame (h : Trace o s es s') {u : C → Option (Turn Op T Res)}
    (hes : ∀ c, u c ≠ none → ∀ e ∈ es, e.of c = none) :
    Trace o (s.override u) es (s'.override u) := by
  induction h with
  | nil s => exact .nil _
  | @cons s s₁ s₂ e es hstep _ ih =>
    refine .cons ?_ (ih fun c hc e he => hes c hc e (List.mem_cons_of_mem _ he))
    have hfree : ∀ c, e.of c ≠ none → u c = none := by
      intro c hc
      by_contra hu
      exact hc (hes c hu e List.mem_cons_self)
    cases hstep with
    | @call c op hidle =>
      have hu := hfree c (by simp [Event.of])
      rw [Config.override_setTurn hu]
      exact .call ((Config.override_turns hu s).trans hidle)
    | @effect c op t q res hasked ha =>
      have hu := hfree c (by simp [Event.of])
      rw [Config.override_setTurn hu]
      exact .effect ((Config.override_turns hu s).trans hasked) ha
    | @answer c res hans =>
      have hu := hfree c (by simp [Event.of])
      rw [Config.override_setTurn hu]
      exact .answer ((Config.override_turns hu s).trans hans)
    | env hm => exact .env hm

end AtomicObject

/-! ## Machines that implement an object -/

namespace Machine

open AtomicObject

variable {S L F Q C Op T Res E : Type} [DecidableEq C]

/-- Under the invariant `I`, a step of the machine is what `events` says of the object; `abs` is the
state of the object that a state of the machine stands for. -/
structure Implements (m : Machine S L F) (o : AtomicObject Q C Op T Res E) (I : S → Prop)
    (abs : S → Config Q C Op T Res) (events : S → L → List (Event C Op Res E)) : Prop where
  keeps : ∀ s l s', I s → m.guard s l = true → m.fire s l = .ok s' → I s'
  step : ∀ s l s', I s → m.guard s l = true → m.fire s l = .ok s' →
    o.Trace (abs s) (events s l) (abs s')

/-- **The runs of an implementation are histories of the object.** -/
theorem Implements.trace {m : Machine S L F} {o : AtomicObject Q C Op T Res E} {I : S → Prop}
    {abs : S → Config Q C Op T Res} {events : S → L → List (Event C Op Res E)}
    (h : m.Implements o I abs events) {s s' : S} {tr : List (S × L)} (hrun : m.Run s tr (.ok s'))
    (hs : I s) : o.Trace (abs s) (tr.flatMap fun p => events p.1 p.2) (abs s') := by
  generalize hr : (Except.ok s' : Except F S) = r at hrun
  induction hrun with
  | done => cases hr; exact .nil _
  | fault => cases hr
  | @step s s₁ l tr r hg hf _ ih =>
    rw [List.flatMap_cons]
    exact (h.step s l s₁ hs hg hf).append (ih (h.keeps s l s₁ hs hg hf) hr)

end Machine

end Transition
