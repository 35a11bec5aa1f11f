import RblRpc.Common.OidName

/-!
# Error codes, exceptions and faults

`rpc_errors.h`: the error codes of the back end and of the invokers, and the exceptions that
carry them.  A `Fault` is where a run ends without an exception: a failed `BOOST_ASSERT`, a null or
dangling pointer that is dereferenced, an access out of range.
-/

namespace RblRpc

/-- The categories of `boost::system::error_code`; `service` is that of a service's own codes. -/
inductive ErrorCategory where
  | system
  | misc
  | rpcBackend
  | invoker
  | service
  deriving DecidableEq, Repr

/-- `boost::system::error_code`. -/
structure ErrorCode where
  value : Int := 0
  category : ErrorCategory := .system
  deriving DecidableEq, Repr

/-- `operator bool`. -/
def ErrorCode.isError (e : ErrorCode) : Bool := e.value ≠ 0

/-- `error_codes::e_code`. -/
inductive ECode where
  | success
  | backendSealed
  | backendInitializationError
  | backendIdentifierCollision
  | backendTeardownError
  | invokeNoServiceWithOrdinalError
  | invokeNoRequestWithOrdinalError
  | invokeClientNotSubscribed
  | invokeRequestStringParseError
  | invokeResponseStringSerializeError
  | clientTargetTypeMismatch
  | clientSourceTypeMismatch
  | notEstablished
  | allreadyEstablished
  | subscribeNoServiceWithOrdinal
  | allreadySubscribed
  | notSubscribed
  | listMethodNoServiceWithOrdinal
  | notAcceptingRequests
  deriving DecidableEq, Repr

def ECode.value : ECode → Int
  | .success => 0
  | .backendSealed => 1
  | .backendInitializationError => 2
  | .backendIdentifierCollision => 3
  | .backendTeardownError => 4
  | .invokeNoServiceWithOrdinalError => 5
  | .invokeNoRequestWithOrdinalError => 6
  | .invokeClientNotSubscribed => 7
  | .invokeRequestStringParseError => 8
  | .invokeResponseStringSerializeError => 9
  | .clientTargetTypeMismatch => 10
  | .clientSourceTypeMismatch => 11
  | .notEstablished => 12
  | .allreadyEstablished => 13
  | .subscribeNoServiceWithOrdinal => 14
  | .allreadySubscribed => 15
  | .notSubscribed => 16
  | .listMethodNoServiceWithOrdinal => 17
  | .notAcceptingRequests => 18

/-- `error_code(x, rpc_backend_error)`. -/
def ECode.code (e : ECode) : ErrorCode := ⟨e.value, .rpcBackend⟩

/-- Every code but the first is an error. -/
theorem ECode.isError_code (e : ECode) : e.code.isError = decide (e ≠ .success) := by
  cases e <;> rfl

/-- `BackEndException` with its error infos. -/
structure BackEndException where
  errorCode : Option ErrorCode := none
  serviceName : Option Bytes := none
  serviceErrorCode : Option ErrorCode := none
  deriving DecidableEq

/-- The `BOOST_ASSERT`s of the code. -/
inductive Assertion where
  | startRpc
  | endRpc
  | establishClient
  | poolSize
  | contiguousOrdinals
  | cookieSizeOnce
  | cookieOrdinalRange
  | cookieOrdinalRegistered
  | activateOrdinalRange
  | activateOnce
  | subscribeService
  | dispatchTableHole
  | clientConnected
  | clientsManaged
  | resetInactive
  deriving DecidableEq, Repr

/-- The message of an assertion. -/
def Assertion.message : Assertion → String
  | .startRpc => "RPC SHOULD BE INACTIVE, IN ORDER TO START A NEW ONE"
  | .endRpc => "RPC SHOULD BE ACTIVE, IN ORDER TO STOP IT!"
  | .establishClient => "CANNOT ESTABLISH A CLIENT TWICE"
  | .poolSize => "thread pool must have >=1 threads"
  | .contiguousOrdinals => "ordinal neels to be contigous"
  | .cookieSizeOnce => "SIZE MAY ONLY BE SET ONCE"
  | .cookieOrdinalRange => "SERVICE ORDINAL TO RETRIEVE COOKIE IS OUT OF RANGE, THIS SHOULD HAVE" ++
      " BEEN VERIFIED EARLIER"
  | .cookieOrdinalRegistered => "THE ORIDNAL PROVIDED DOES NOT REFER TO A REGISTERED SERVICE, THIS" ++
      " SHOULD HAVE BEEN VERFIEID EARLIER"
  | .activateOrdinalRange => "SERVICE ORDINAL IS OUT OF RANGE, THIS SHOULD HAVE BEEN VERIFIED EARLIER"
  | .activateOnce => "SERVICE ALLREADY ACTIVE"
  | .subscribeService => "THERE SHOULD BE A SERVICE IN THE CONTEXT OF A CLIENT-SERVICE-SUBSCRIPTION"
  | .dispatchTableHole => "THERE SHOULD BE NO HOLE IN THE DISPATCH TABLE"
  | .clientConnected => "the client was not present in the connected client set"
  | .clientsManaged => " Every connected client is managed by a connected manager. " ++
      " All clients should have been disconected if the managers have."
  | .resetInactive => "THE FLAG THAT REPRESENTS ACTIVE RPC SHOULD NOT BE SET WHEN RESETING AN" ++
      " OBJECT FOR RPC"

/-- Where a run ends. -/
inductive Fault where
  | assertion (a : Assertion)
  | invalidPointer
  | outOfRange
  deriving DecidableEq, Repr

/-- `BOOST_ASSERT_MSG(b, message)`. -/
def boostAssert (b : Bool) (a : Assertion) : Except Fault Unit :=
  if b then .ok () else .error (.assertion a)

@[simp] theorem boostAssert_true (a : Assertion) : boostAssert true a = .ok () := rfl

@[simp] theorem boostAssert_false (a : Assertion) :
    boostAssert false a = .error (.assertion a) := rfl

/-- A sequence succeeds when both parts do. -/
theorem bind_eq_ok {ε α β : Type} {x : Except ε α} {f : α → Except ε β} {b : β} :
    x >>= f = .ok b ↔ ∃ a, x = .ok a ∧ f a = .ok b := by
  cases x <;> simp [bind, Except.bind]

/-- A sequence fails when the first part does, or the second after it. -/
theorem bind_eq_error {ε α β : Type} {x : Except ε α} {f : α → Except ε β} {e : ε} :
    x >>= f = .error e ↔ x = .error e ∨ ∃ a, x = .ok a ∧ f a = .error e := by
  cases x <;> simp [bind, Except.bind]

/-- A map after a sequence is one after its second part. -/
theorem bind_eq_map {ε α β γ : Type} {x : Except ε α} {f : α → Except ε γ} {f' : α → Except ε β}
    {g : β → γ} (h : ∀ a, f a = (f' a).map g) : (x >>= f) = (x >>= f').map g := by
  cases x with
  | error e => rfl
  | ok a => exact h a

/-- Sequences whose parts correspond under a map do. -/
theorem bind_map_eq_map {ε α α' β γ : Type} {x : Except ε α} {x' : Except ε α'} {g : α → α'}
    {f : α → Except ε β} {f' : α' → Except ε γ} {k : β → γ} (hx : x' = x.map g)
    (hf : ∀ a, f' (g a) = (f a).map k) : (x' >>= f') = (x >>= f).map k := by
  subst hx
  cases x with
  | error e => rfl
  | ok a => exact hf a

theorem mapError_eq_ok {E F α : Type} {x : Except E α} {g : E → F} {a : α} :
    x.mapError g = .ok a ↔ x = .ok a := by
  cases x <;> simp [Except.mapError]

theorem mapError_eq_error {E F α : Type} {x : Except E α} {g : E → F} {f : F} :
    x.mapError g = .error f ↔ ∃ e, x = .error e ∧ g e = f := by
  cases x <;> simp [Except.mapError]

/-- What a loop over a list collects. -/
theorem mem_of_mapM {ε α β : Type} {f : α → Except ε β} {l : List α} {bs : List β}
    (h : l.mapM f = .ok bs) (b : β) : b ∈ bs ↔ ∃ a ∈ l, f a = .ok b := by
  induction l generalizing bs with
  | nil =>
    cases h
    simp
  | cons a l ih =>
    rw [List.mapM_cons] at h
    obtain ⟨b₁, hb₁, h⟩ := bind_eq_ok.mp h
    obtain ⟨bs₁, hbs₁, h⟩ := bind_eq_ok.mp h
    cases h
    rw [List.mem_cons, ih hbs₁]
    simp [hb₁, eq_comm]

/-- A loop that ends has gone through every element. -/
theorem ok_of_mapM {ε α β : Type} {f : α → Except ε β} {l : List α} {bs : List β}
    (h : l.mapM f = .ok bs) {a : α} (ha : a ∈ l) : ∃ b ∈ bs, f a = .ok b := by
  induction l generalizing bs with
  | nil => cases ha
  | cons a' l ih =>
    rw [List.mapM_cons] at h
    obtain ⟨b₁, hb₁, h⟩ := bind_eq_ok.mp h
    obtain ⟨bs₁, hbs₁, h⟩ := bind_eq_ok.mp h
    cases h
    rcases List.mem_cons.mp ha with rfl | ha
    · exact ⟨b₁, List.mem_cons_self, hb₁⟩
    · obtain ⟨b, hb, hf⟩ := ih hbs₁ ha
      exact ⟨b, List.mem_cons_of_mem _ hb, hf⟩

/-- A loop whose body returns on every element ends. -/
theorem mapM_total {ε α β : Type} {f : α → Except ε β} {l : List α}
    (h : ∀ a ∈ l, ∃ b, f a = .ok b) : ∃ bs, l.mapM f = .ok bs := by
  induction l with
  | nil => exact ⟨[], rfl⟩
  | cons a l ih =>
    obtain ⟨b, hb⟩ := h a List.mem_cons_self
    obtain ⟨bs, hbs⟩ := ih fun a' ha' => h a' (List.mem_cons_of_mem _ ha')
    refine ⟨b :: bs, ?_⟩
    rw [List.mapM_cons, hb, hbs]
    rfl

/-- A loop collects the list whose elements its body returns in turn. -/
theorem mapM_of_getElem? {ε α β : Type} {f : α → Except ε β} {l : List α} {bs : List β}
    (hlen : bs.length = l.length)
    (h : ∀ (j : ℕ) a b, l[j]? = some a → bs[j]? = some b → f a = .ok b) : l.mapM f = .ok bs := by
  induction l generalizing bs with
  | nil =>
    rw [List.eq_nil_of_length_eq_zero hlen]
    rfl
  | cons a l ih =>
    cases bs with
    | nil => cases hlen
    | cons b bs =>
      have hrest : l.mapM f = .ok bs :=
        ih (Nat.succ.inj hlen) fun j a' b' ha' hb' => h (j + 1) a' b' ha' hb'
      rw [List.mapM_cons, h 0 a b rfl rfl, hrest]
      rfl

/-- What a loop over different elements collects is as different as its body makes it. -/
theorem pairwise_of_mapM {ε α β : Type} {R : α → α → Prop} {S : β → β → Prop}
    {f : α → Except ε β} {l : List α} {bs : List β} (h : l.mapM f = .ok bs) (hl : l.Pairwise R)
    (hf : ∀ a ∈ l, ∀ a' ∈ l, R a a' → ∀ b b', f a = .ok b → f a' = .ok b' → S b b') :
    bs.Pairwise S := by
  induction l generalizing bs with
  | nil =>
    cases h
    exact .nil
  | cons a l ih =>
    rw [List.mapM_cons] at h
    obtain ⟨b₁, hb₁, h⟩ := bind_eq_ok.mp h
    obtain ⟨bs₁, hbs₁, h⟩ := bind_eq_ok.mp h
    cases h
    obtain ⟨hhead, hl⟩ := List.pairwise_cons.mp hl
    refine .cons (fun b hb => ?_) (ih hbs₁ hl fun x hx x' hx' =>
      hf x (List.mem_cons_of_mem _ hx) x' (List.mem_cons_of_mem _ hx'))
    obtain ⟨a', ha', hb'⟩ := (mem_of_mapM hbs₁ b).mp hb
    exact hf a List.mem_cons_self a' (List.mem_cons_of_mem _ ha') (hhead a' ha') b₁ b hb₁ hb'

theorem boostAssert_eq_ok {b : Bool} {a : Assertion} {u : Unit} :
    boostAssert b a = .ok u ↔ b = true := by
  cases b <;> simp

end RblRpc
