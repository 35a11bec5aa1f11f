import RblRpc.Backend.BasicProtocol
import RblRpc.Client.GeneratedTables
import RblRpc.Lib.Template

/-!
# What the generated headers say

The generated files are read line by line.  The lines count that declare a name, that fill a table
and that do something in a function; a statement that spans two lines is read at the one that tells
it from others.

* `Statement` — a line that counts; `headerReader` — what it looks like.
* `blocks` — the functions and classes of a header, with what is in them.
* `WellFormed` — the names of a header do not clash; `Compiles` — nor do they with those around it.
* `runDispatch` — the run of a dispatch function; `runClientMethod` — that of a method of a client.
* `dispatchTable`, `methodMap` — the run of the constructors.
-/

namespace RblRpc

open Template

/-- What a dispatch function does: `m_in`, `m_out` and `res` are its variables. -/
inductive DispatchStep where
  | declareInput (type : Bytes)
  | declareOutput (type : Bytes)
  | parseRequest
  | unlessResult
  | assignError (code : ECode)
  | setError (error : ClientResponseErrorType)
  | leave
  | callImpl (method : Bytes)
  | serializeResponse
  deriving DecidableEq

/-- What a method of a client does. -/
inductive MethodStep where
  | methodId (ordinal : ℕ)
  | reset
  | setOrdinals
  | serializeRequest
  | invoke
  | unlessSuccess
  | throwError
  | parseResponse
  deriving DecidableEq

inductive Statement where
  | nameSpace (name : Bytes)
  | dummyTag (name : Bytes)
  | skelClass (name : Bytes)
  | skelMethod (name input output : Bytes)
  | dispatchFunction (name : Bytes)
  | dispatchStep (s : DispatchStep)
  | serviceClass (name : Bytes)
  | setDispatchEntry (name : Bytes) (ordinal : ℕ) (function : Bytes)
  | clientClass (name : Bytes)
  | setMethodEntry (name : Bytes) (ordinal : ℕ)
  | clientMethod (name input output : Bytes)
  | methodStep (s : MethodStep)
  deriving DecidableEq

/-- The number that digits stand for. -/
def decimal (b : Bytes) : ℕ := Nat.ofDigitChars 10 (b.map fun c => Char.ofNat c.toNat) 0

/-- A kind of statement takes the words of a line. -/
inductive Rule where
  | plain (s : Statement)
  | nameSpace
  | dummyTag
  | skelClass
  | skelMethod
  | dispatchFunction
  | declareInput
  | declareOutput
  | callImpl
  | serviceClass
  | setDispatchEntry
  | clientClass
  | setMethodEntry
  | clientMethod
  | methodId
  deriving DecidableEq

def Rule.statement : Rule → List Bytes → Option Statement
  | .plain s, [] => some s
  | .nameSpace, [n] => some (.nameSpace n)
  | .dummyTag, [n] => some (.dummyTag n)
  | .skelClass, [c] => some (.skelClass c)
  | .skelMethod, [n, i, o] => some (.skelMethod n i o)
  | .dispatchFunction, [f] => some (.dispatchFunction f)
  | .declareInput, [t] => some (.dispatchStep (.declareInput t))
  | .declareOutput, [t] => some (.dispatchStep (.declareOutput t))
  | .callImpl, [m] => some (.dispatchStep (.callImpl m))
  | .serviceClass, [c] => some (.serviceClass c)
  | .setDispatchEntry, [n, i, f] => some (.setDispatchEntry n (decimal i) f)
  | .clientClass, [c] => some (.clientClass c)
  | .setMethodEntry, [n, i] => some (.setMethodEntry n (decimal i))
  | .clientMethod, [n, i, o] => some (.clientMethod n i o)
  | .methodId, [i] => some (.methodStep (.methodId (decimal i)))
  | _, _ => none

/-- A `$` is a hole. -/
def pattern (s : String) : Pattern UInt8 :=
  (ascii s).map fun c => if c = 36 then .hole else .lit c

def headerRules : List (Pattern UInt8 × Rule) :=
  [(pattern "void $(T_IMPL & impl,ClientCookie & client_cookie_in,ClientData & cd)",
      .dispatchFunction),
    (pattern "$ m_in;", .declareInput),
    (pattern "$ m_out;", .declareOutput),
    (pattern "bool res = m_in.ParseFromString(cd.request().request_string());",
      .plain (.dispatchStep .parseRequest)),
    (pattern "if(!res)", .plain (.dispatchStep .unlessResult)),
    (pattern "error_codes::RBL_BACKEND_INVOKE_REQUEST_STRING_PARSE_ERROR,",
      .plain (.dispatchStep (.assignError .invokeRequestStringParseError))),
    (pattern "error_codes::RBL_BACKEND_INVOKE_RESPONSE_STRING_SERIALIZE_ERROR,",
      .plain (.dispatchStep (.assignError .invokeResponseStringSerializeError))),
    (pattern "cd.response().set_error(basic_protocol::REQUEST_STRING_PARSE_ERROR);",
      .plain (.dispatchStep (.setError .requestStringParseError))),
    (pattern "cd.response().set_error(basic_protocol::REQUEST_STRING_SERIALIZE_ERROR);",
      .plain (.dispatchStep (.setError .requestStringSerializeError))),
    (pattern "return;", .plain (.dispatchStep .leave)),
    (pattern "impl.$(client_cookie_in,cd,m_in,m_out);", .callImpl),
    (pattern "res = m_out.SerializeToString( cd.response().mutable_response_string());",
      .plain (.dispatchStep .serializeResponse)),
    (pattern "class $ : public rubble::rpc::ServiceBase", .serviceClass),
    (pattern "m_dispatch_table.SetEntry( common::Oid(\"$\",$), & $<T_IMPL>);", .setDispatchEntry),
    (pattern "class $: public rubble::rpc::ClientServiceBase ", .clientClass),
    (pattern "m_service_method_map.SetEntry(common::Oid(\"$\",$),-1);", .setMethodEntry),
    (pattern "void $(const $ & req, $ & res)", .clientMethod),
    (pattern "static const boost::uint16_t method_id = $;", .methodId),
    (pattern "m_invoker.reset();", .plain (.methodStep .reset)),
    (pattern "m_invoker.request().set_service_ordinal(service_ordinal());" ++
      pattern "m_invoker.request().set_request_ordinal( * m_service_method_map[method_id]);",
      .plain (.methodStep .setOrdinals)),
    (pattern "req.SerializeToString(m_invoker.request().mutable_request_string());",
      .plain (.methodStep .serializeRequest)),
    (pattern "m_invoker.invoke();", .plain (.methodStep .invoke)),
    (pattern "if(m_invoker.response().error() != rubble::rpc::basic_protocol::REQUEST_SUCCESS)",
      .plain (.methodStep .unlessSuccess)),
    (pattern "RBL_INVOKER_THROW_EXCEPTION(m_invoker.response().error());",
      .plain (.methodStep .throwError)),
    (pattern "res.ParseFromString(m_invoker.response().response_string());",
      .plain (.methodStep .parseResponse)),
    (pattern "namespace $ \x7b", .nameSpace),
    (pattern "struct $\x7b\x7d;", .dummyTag),
    (pattern "class $", .skelClass),
    (pattern "void $(ClientCookie &,ClientData &,$ & ,$ & )\x7b\x7d", .skelMethod)]

/-- Blanks in front of a line say nothing. -/
def headerReader : Reader UInt8 Rule where
  word := isIdentifierChar
  blank := 32
  newline := 10
  rules := headerRules
  blank_word := rfl
  newline_word := rfl

/-- The statements of a header. -/
def statements (header : Bytes) : List Statement :=
  (headerReader.read header).filterMap fun found => found.1.statement found.2

/-! ## Functions and classes -/

/-- Each statement that begins a section, with those up to the next. -/
def sections (begins : Statement → Bool) : List Statement → List (Statement × List Statement)
  | [] => []
  | s :: ss =>
    if begins s then (s, ss.takeWhile (!begins ·)) :: sections begins ss else sections begins ss

namespace Statement

def dispatchStep? : Statement → Option DispatchStep
  | dispatchStep s => some s
  | _ => none

def methodStep? : Statement → Option MethodStep
  | methodStep s => some s
  | _ => none

def setDispatchEntry? : Statement → Option (Bytes × ℕ × Bytes)
  | setDispatchEntry n i f => some (n, i, f)
  | _ => none

def setMethodEntry? : Statement → Option (Bytes × ℕ)
  | setMethodEntry n i => some (n, i)
  | _ => none

def nameSpace? : Statement → Option Bytes
  | nameSpace n => some n
  | _ => none

/-- The name that a statement adds to the namespace. -/
def declared? : Statement → Option Bytes
  | dummyTag n | skelClass n | dispatchFunction n | serviceClass n | clientClass n => some n
  | _ => none

/-- A function or a class begins. -/
def declares (s : Statement) : Bool := s.declared?.isSome

/-- The name that a statement adds to a class, with the types that it takes. -/
def member? : Statement → Option (Bytes × Bytes × Bytes)
  | skelMethod n i o | clientMethod n i o => some (n, i, o)
  | _ => none

/-- A method with a body begins. -/
def beginsMethod : Statement → Bool
  | clientMethod _ _ _ => true
  | _ => false

end Statement

/-- The functions and classes of a header, with what is in them. -/
def blocks (header : Bytes) : List (Statement × List Statement) :=
  sections Statement.declares (statements header)

/-- The definitions of a dispatch function. -/
def definitions (header : Bytes) (function : Bytes) : List (List DispatchStep) :=
  (blocks header).filterMap fun d =>
    if d.1 = .dispatchFunction function then some (d.2.filterMap Statement.dispatchStep?) else none

/-- The one definition of a function, which the header must not define twice. -/
def definition (header : Bytes) (function : Bytes) : Option (List DispatchStep) :=
  match definitions header function with
  | [body] => some body
  | _ => none

/-- The body of the constructor of a service. -/
def serviceEntries (header : Bytes) (service : Bytes) : List (Bytes × ℕ × Bytes) :=
  (blocks header).flatMap fun d =>
    if d.1 = .serviceClass service then d.2.filterMap Statement.setDispatchEntry? else []

/-- The class of a client: its constructor and its methods. -/
def clientBody (header : Bytes) (service : Bytes) : List Statement :=
  (blocks header).flatMap fun d =>
    if d.1 = .clientClass (service ++ ascii "_client") then d.2 else []

def clientEntries (header : Bytes) (service : Bytes) : List (Bytes × ℕ) :=
  ((clientBody header service).takeWhile (!Statement.beginsMethod ·)).filterMap
    Statement.setMethodEntry?

/-! ## Names -/

/-- The keywords of C++, and the words that the headers use or that `rpc` declares. -/
def reservedWords : List Bytes :=
  ["alignas", "alignof", "and", "and_eq", "asm", "auto", "bitand", "bitor", "bool", "break", "case",
    "catch", "char", "char8_t", "char16_t", "char32_t", "class", "co_await", "co_return",
    "co_yield", "compl", "concept", "const", "const_cast", "consteval", "constexpr", "constinit",
    "continue", "decltype", "default", "delete", "do", "double", "dynamic_cast", "else", "enum",
    "explicit", "export", "extern", "false", "float", "for", "friend", "goto", "if", "inline",
    "int", "long", "mutable", "namespace", "new", "noexcept", "not", "not_eq", "nullptr",
    "operator", "or", "or_eq", "private", "protected", "public", "register", "reinterpret_cast",
    "requires", "return", "short", "signed", "sizeof", "static", "static_assert", "static_cast",
    "struct", "switch", "template", "this", "thread_local", "throw", "true", "try", "typedef",
    "typeid", "typename", "typeof", "union", "unsigned", "using", "virtual", "void", "volatile",
    "wchar_t", "while", "xor", "xor_eq",
    -- in the functions and classes of the server's header
    "NULL", "T", "T_IMPL", "boost", "cd", "client_cookie", "client_cookie_in", "common",
    "contains_function_at_ordinal", "dispatch", "dispatch_function", "ec", "error_codes",
    "ff_produce_method_list", "from_client_string", "get_impl", "impl", "init", "lmr",
    "m_dispatch_table", "m_impl", "m_in", "m_ordinal", "m_out", "name", "ordinal",
    "produce_method_list", "ptr", "require_tracking", "res", "rpc_backend_error", "rubble",
    "set_ordinal", "shp", "std", "subscribe", "t_client_cookie", "teardown", "to_client_string",
    "unsubscribe",
    -- in the classes of the client's header
    "invoker", "invoker_error", "is_subscribed", "m_invoker", "m_is_subscribed",
    "m_method_count", "m_service_method_map", "m_service_ordinal", "method_id",
    "rbl_invoker_error_code", "remap_ordinals", "req", "scptr", "service_ordinal",
    "set_is_subscribed", "set_service_ordinal", "shptr", "t_service_method_map",
    -- in `rubble::rpc`
    "BackEnd", "BackEndException", "Buffer", "ClientCookie", "ClientCookieBase", "ClientData",
    "ClientServiceBase", "ClientServiceCookies", "ConnectedClientsSet", "InvokerBase",
    "InvokerError", "InvokerException", "RpcBackEndError", "ServiceBase", "ServiceClientFactory",
    "rbl_backend_error_code", "rbl_backend_service_error_code", "rbl_backend_service_name",
    "tag_error_code", "tag_invoker_error_code", "tag_service_error_code",
    "tag_service_name"].map ascii

/-- The namespace of `BasicProtocol.proto`, in which dispatch functions find the errors. -/
def basicProtocolName : Bytes := ascii "basic_protocol"

/-- The names that a header adds to its namespace. -/
def declaredNames (header : Bytes) : List Bytes :=
  (blocks header).filterMap (·.1.declared?)

/-- The members of the classes of a header, class by class. -/
def classMembers (header : Bytes) : List (Option Bytes × List (Bytes × Bytes × Bytes)) :=
  (blocks header).map fun d => (d.1.declared?, d.2.filterMap Statement.member?)

/-- No member of a class has the name of the class, of a type that one takes, or of another. -/
def MembersFit (words : List Bytes) (c : Option Bytes × List (Bytes × Bytes × Bytes)) : Prop :=
  (c.2.map (·.1)).Nodup ∧
    ∀ m ∈ c.2, m.1 ∉ words ∧ some m.1 ≠ c.1 ∧ ∀ m' ∈ c.2, m.1 ≠ m'.2.1 ∧ m.1 ≠ m'.2.2

instance (words : List Bytes) (c : Option Bytes × List (Bytes × Bytes × Bytes)) :
    Decidable (MembersFit words c) :=
  inferInstanceAs (Decidable (_ ∧ _))

/-- **The names of a header do not clash**: none is declared twice, no class or member has another
meaning where it is used, and behind a class `basic_protocol` nothing is declared. -/
def WellFormed (words : List Bytes) (header : Bytes) : Prop :=
  (declaredNames header).Nodup ∧ (∀ n ∈ declaredNames header, n ∉ words) ∧
    basicProtocolName ∉ (declaredNames header).dropLast ∧
      ∀ c ∈ classMembers header, MembersFit words c

instance (words : List Bytes) (header : Bytes) : Decidable (WellFormed words header) :=
  inferInstanceAs (Decidable (_ ∧ _))

theorem WellFormed.mono {words words' : List Bytes} {header : Bytes} (hwords : words ⊆ words')
    (h : WellFormed words' header) : WellFormed words header := by
  obtain ⟨hnodup, hdeclared, hlast, hmembers⟩ := h
  refine ⟨hnodup, fun n hn hmem => hdeclared n hn (hwords hmem), hlast, fun c hc => ?_⟩
  obtain ⟨hdifferent, hmember⟩ := hmembers c hc
  exact ⟨hdifferent, fun m hm =>
    ⟨fun hmem => (hmember m hm).1 (hwords hmem), (hmember m hm).2⟩⟩

/-- What the headers that a header includes bring: macros, and the names that the messages of the
`.proto` file have in its namespace. -/
structure Included where
  macros : List Bytes
  messages : List Bytes

def Included.words (inc : Included) : List Bytes := reservedWords ++ inc.macros

/-- **A header compiles** if what it includes is found: it stands in a namespace inside
`rubble::rpc`, its names do not clash with each other nor with the messages, and the types of its
members are messages. -/
structure Compiles (inc : Included) (header : Bytes) : Prop where
  nameSpaces : ∃ n ns, (statements header).filterMap Statement.nameSpace? =
    ascii "rubble" :: ascii "rpc" :: n :: ns ∧ (∀ m ∈ n :: ns, m ∉ inc.words) ∧
      basicProtocolName ∉ ns
  wellFormed : WellFormed inc.words header
  messages : ∀ n ∈ inc.messages, n ∉ inc.words ∧ n ≠ basicProtocolName
  declared : ∀ n ∈ declaredNames header, n ∉ inc.messages
  types : ∀ c ∈ classMembers header, ∀ m ∈ c.2, m.2.1 ∈ inc.messages ∧ m.2.2 ∈ inc.messages

/-- The definitions of a method, with the types of its request and response. -/
def methodDefinitions (header : Bytes) (service method : Bytes) :
    List (Bytes × Bytes × List MethodStep) :=
  if WellFormed reservedWords header then
    (sections Statement.beginsMethod (clientBody header service)).filterMap fun d =>
      match d.1 with
      | .clientMethod n input output =>
        if n = method then some (input, output, d.2.filterMap Statement.methodStep?) else none
      | _ => none
  else []

/-! ## Constructors -/

/-- The `SetEntry` calls of a constructor. -/
def setEntries {M : Type} [Inhabited M] :
    List (Bytes × ℕ × M) → OidContainer M → Except StdException (OidContainer M)
  | [], c => .ok c
  | (name, i, m) :: es, c => do
    let id ← Oid.make name (UInt32.ofNat i)
    match c.setEntry ⟨id, m⟩ with
    | (_, .error x) => .error x
    | (c', .ok _) => setEntries es c'

/-- The constructor of a service: none if the names of the header clash. -/
def dispatchTable (header : Bytes) (service : Bytes) :
    Option (Except StdException (OidContainer (List DispatchStep))) := do
  guard (WellFormed reservedWords header)
  let entries ← (serviceEntries header service).mapM fun e => do
    return (e.1, e.2.1, ← definition header e.2.2)
  return setEntries entries .empty

/-- The constructor of a client: none if the names of the header clash. -/
def methodMap (header : Bytes) (service : Bytes) :
    Option (Except StdException (OidContainer UInt16)) := do
  guard (WellFormed reservedWords header)
  return setEntries ((clientEntries header service).map fun e =>
    (e.1, e.2, ClientServiceBase.unbound)) .empty

/-! ## Functions -/

/-- The messages of a file, by the names of their types, and the implementation of a service. -/
structure DispatchEnv (M : Type) where
  codec : Bytes → MessageCodec M
  impl : Bytes → BackEnd → ClientData → M → Except Fault (BackEnd × ClientData × M)

/-- The variables of a dispatch function. -/
structure DispatchState (M : Type) where
  backEnd : BackEnd
  clientData : ClientData
  inputType : Bytes := []
  outputType : Bytes := []
  m_in : M
  m_out : M
  res : Bool := false

variable {M : Type}

def stepDispatch (env : DispatchEnv M) (s : DispatchState M) :
    DispatchStep → Except Fault (DispatchState M)
  | .declareInput t => .ok { s with inputType := t }
  | .declareOutput t => .ok { s with outputType := t }
  | .parseRequest =>
    let parsed := (env.codec s.inputType).parseFromString s.clientData.request.requestString
    .ok { s with res := parsed.1, m_in := parsed.2 }
  | .assignError e => .ok { s with clientData := s.clientData.assignError e }
  | .setError e => .ok { s with clientData := s.clientData.setError e }
  | .callImpl m => do
    let (b, cd, m_out) ← env.impl m s.backEnd s.clientData s.m_in
    return { s with backEnd := b, clientData := cd, m_out := m_out }
  | .serializeResponse =>
    let output := (env.codec s.outputType).serializeToString s.m_out
    let response := { s.clientData.response with responseString := some (output.getD []) }
    .ok { s with clientData := { s.clientData with response := response }, res := output.isSome }
  | .unlessResult | .leave => .ok s

/-- The run of a dispatch function; the block behind `if(!res)` is skipped up to its `return`. -/
def runDispatch (env : DispatchEnv M) :
    Bool → List DispatchStep → DispatchState M → Except Fault (BackEnd × ClientData)
  | _, [], s => .ok (s.backEnd, s.clientData)
  | true, .leave :: ss, s => runDispatch env false ss s
  | true, _ :: ss, s => runDispatch env true ss s
  | false, .leave :: _, s => .ok (s.backEnd, s.clientData)
  | false, .unlessResult :: ss, s => runDispatch env s.res ss s
  | false, st :: ss, s => do
    let s ← stepDispatch env s st
    runDispatch env false ss s

/-- The variables of a method of a client. -/
structure MethodState (M : Type) where
  methodId : UInt16 := 0
  request : ClientRequest := {}
  res : M

/-- The run of a method; a statement behind `if` is skipped. -/
def runClientMethod {F σ : Type} (inv : InvokerBase F σ) (input output : MessageCodec M) (req : M)
    (o : ClientServiceBase) : Bool → List MethodStep → MethodState M → ClientCall F σ M
  | _, [], s => pure s.res
  | true, _ :: ss, s => runClientMethod inv input output req o false ss s
  | false, .methodId n :: ss, s =>
    runClientMethod inv input output req o false ss { s with methodId := UInt16.ofNat n }
  | false, .reset :: ss, s => do
    InvokerBase.call fun t => (inv.reset t).map ((), ·)
    runClientMethod inv input output req o false ss s
  | false, .setOrdinals :: ss, s => do
    let serviceOrdinal ← .ofOption .uninitialized o.serviceOrdinal
    let requestOrdinal ← .ofOption .nullPointer (o.serviceMethodMap.atOrdinal s.methodId)
    runClientMethod inv input output req o false ss
      { s with request := { s.request with
          serviceOrdinal := serviceOrdinal.toUInt32
          requestOrdinal := requestOrdinal.toUInt32 } }
  | false, .serializeRequest :: ss, s =>
    runClientMethod inv input output req o false ss
      { s with request := { s.request with
          requestString := (input.serializeToString req).getD [] } }
  | false, .invoke :: ss, s => do
    modify (inv.setRequest s.request)
    let _ ← InvokerBase.call inv.invoke
    runClientMethod inv input output req o false ss s
  | false, .unlessSuccess :: ss, s => do
    let response := inv.response (← get)
    runClientMethod inv input output req o (response.getError = .requestSuccess) ss s
  | false, .throwError :: _, _ => do
    .ofExcept (.error (.invoker (inv.response (← get)).getError))
  | false, .parseResponse :: ss, s => do
    let response := inv.response (← get)
    runClientMethod inv input output req o false ss
      { s with res := (output.parseFromString response.getResponseString).2 }

/-! ## What a generated function is -/

/-- The dispatch function of a method. -/
def dispatchSteps (input output method : Bytes) : List DispatchStep :=
  [.declareInput input, .declareOutput output, .parseRequest, .unlessResult,
    .assignError .invokeRequestStringParseError, .setError .requestStringParseError, .leave,
    .callImpl method, .serializeResponse, .unlessResult,
    .assignError .invokeResponseStringSerializeError, .setError .requestStringSerializeError,
    .leave]

/-- The method of a client with a number. -/
def methodSteps (i : ℕ) : List MethodStep :=
  [.methodId i, .reset, .setOrdinals, .serializeRequest, .invoke, .unlessSuccess, .throwError,
    .parseResponse]

/-- **The dispatch function parses, calls and serialises.** -/
theorem runDispatch_dispatchSteps (env : DispatchEnv M) (input output method : Bytes)
    (b : BackEnd) (cd : ClientData) (m_in m_out : M) :
    runDispatch env false (dispatchSteps input output method)
        { backEnd := b, clientData := cd, m_in := m_in, m_out := m_out } =
      runMethod (env.codec input) (env.codec output) (env.impl method) b cd := by
  simp only [dispatchSteps, runDispatch, stepDispatch, runMethod, bind, Except.bind]
  cases hparse : (env.codec input).parseFromString cd.request.requestString with
  | mk res m_in =>
    cases res with
    | false => rfl
    | true =>
      simp only [runDispatch, stepDispatch, bind, Except.bind]
      cases env.impl method b cd m_in with
      | error f => rfl
      | ok r =>
        obtain ⟨b', cd', m_out⟩ := r
        simp only [pure, Except.pure]
        cases houtput : (env.codec output).serializeToString m_out <;> rfl

/-- Calls that read the state first, and do the same then. -/
theorem get_bind_congr {F E S α : Type} {f g : S → Call F E S α}
    (h : ∀ s, (f s).runOn s = (g s).runOn s) :
    ((get : Call F E S S) >>= f) = (get : Call F E S S) >>= g := by
  funext s
  have hf := Call.runOn_bind_of_ok (g := f) (Call.runOn_get s)
  have hg := Call.runOn_bind_of_ok (g := g) (Call.runOn_get s)
  exact hf.trans ((h s).trans hg.symm)

/-- **The method of a client fills in a request and invokes.** -/
theorem runClientMethod_methodSteps {F σ : Type} (inv : InvokerBase F σ)
    (input output : MessageCodec M) (req : M) (o : ClientServiceBase) (i : ℕ) (res : M) :
    runClientMethod inv input output req o false (methodSteps i) { res := res } =
      o.callMethod inv input output (UInt16.ofNat i) req := by
  simp only [methodSteps, runClientMethod, ClientServiceBase.callMethod]
  refine congrArg _ (funext fun _ => congrArg _ (funext fun so => congrArg _ (funext fun ro =>
    congrArg _ (funext fun _ => congrArg _ (funext fun _ => get_bind_congr fun s => ?_)))))
  rw [ClientServiceBase.readResponse]
  by_cases h : (inv.response s).getError = .requestSuccess
  · rw [decide_eq_true h, if_neg (not_not.mpr h)]
    rfl
  · rw [decide_eq_false h, if_pos h]
    rfl

end RblRpc
