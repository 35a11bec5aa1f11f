import RblRpc.Client.GeneratedTables
import RblRpc.Codegen.Printer

/-!
# The code generator

`RblRpcGenerator::Generate` and the functions that it calls for each service.  Every function is
the list of the calls that it makes on its printer.

* `FileDescriptor` — the description of a `.proto` file, as protoc hands it over.
* `Boost` — the functions of Boost that take names apart.
* `createService`, `createClientService` — the classes of a service.
* `generate` — the two files with what is printed to them.
-/

namespace RblRpc

/-! ## Descriptions -/

/-- A name in a description. -/
structure Identifier where
  str : Bytes
  valid : isProtoIdentifier str = true

/-- A method, with the names of its message types. -/
structure MethodDescriptor where
  name : Identifier
  inputType : Identifier
  outputType : Identifier

structure ServiceDescriptor where
  name : Identifier
  methods : List MethodDescriptor

/-- The package is a dotted name; the name of the file is any path. -/
structure FileDescriptor where
  name : Bytes
  package : List Identifier
  services : List ServiceDescriptor

def ServiceDescriptor.methodCount (sd : ServiceDescriptor) : ℕ := sd.methods.length

def FileDescriptor.packageName (file : FileDescriptor) : Bytes :=
  [46].intercalate (file.package.map Identifier.str)

/-- `path::stem`, `path::parent_path` and the tokens of `char_separator(".")`. -/
structure Boost where
  stem : Bytes → Bytes
  parentPath : Bytes → Bytes
  tokens : Bytes → List Bytes

/-- The tokens of a string are parts of it without the separator. -/
def Boost.Lawful (boost : Boost) : Prop :=
  ∀ s, ∀ token ∈ boost.tokens s, ∀ c ∈ token, c ∈ s ∧ c ≠ 46

/-- The tokens of a string behind the part of one. -/
def tokensFrom : Bytes → Bytes → List Bytes
  | token, [] => if token = [] then [] else [token]
  | token, c :: cs =>
    if c = 46 then (if token = [] then tokensFrom [] cs else token :: tokensFrom [] cs)
    else tokensFrom (token ++ [c]) cs

/-- On relative paths without empty parts. -/
def Boost.posix : Boost where
  stem p :=
    let name := (p.reverse.takeWhile (· ≠ 47)).reverse
    if name = [46] ∨ name = [46, 46] ∨ (46 : UInt8) ∉ name then name
    else ((name.reverse.dropWhile (· ≠ 46)).drop 1).reverse
  parentPath p := ((p.reverse.dropWhile (· ≠ 47)).drop 1).reverse
  tokens := tokensFrom []

theorem tokensFrom_chars {P : UInt8 → Prop} {token s : Bytes} (ht : ∀ c ∈ token, P c)
    (hs : ∀ c ∈ s, c ≠ 46 → P c) : ∀ t ∈ tokensFrom token s, ∀ c ∈ t, P c := by
  induction s generalizing token with
  | nil =>
    intro t hmem
    rw [tokensFrom] at hmem
    split at hmem
    · exact absurd hmem List.not_mem_nil
    · rwa [List.mem_singleton.mp hmem]
  | cons c cs ih =>
    have hcs : ∀ d ∈ cs, d ≠ 46 → P d := fun d hd => hs d (List.mem_cons_of_mem c hd)
    have hfresh : ∀ t ∈ tokensFrom [] cs, ∀ d ∈ t, P d :=
      ih (fun d hd => absurd hd List.not_mem_nil) hcs
    intro t hmem
    rw [tokensFrom] at hmem
    split at hmem
    · split at hmem
      · exact hfresh t hmem
      · rcases List.mem_cons.mp hmem with rfl | hmem
        · exact ht
        · exact hfresh t hmem
    · rename_i hc
      refine ih ?_ hcs t hmem
      intro d hd
      rcases List.mem_append.mp hd with hd | hd
      · exact ht d hd
      · rw [List.mem_singleton.mp hd]
        exact hs c List.mem_cons_self hc

theorem Boost.posix_lawful : Boost.posix.Lawful := fun _ =>
  tokensFrom_chars (fun _ hc => absurd hc List.not_mem_nil) fun _ hc h => ⟨hc, h⟩

/-- `lexical_cast` of a number to a string. -/
def lexicalCast (n : ℕ) : Bytes := (Nat.toDigits 10 n).map fun c => c.toNat.toUInt8

/-! ## The classes of the server -/

def skelFunction (md : MethodDescriptor) : List PrinterCall :=
  [print "void $METHOD_NAME$(ClientCookie &,ClientData &,$I$ & ,$O$ & )\x7b\x7d\n"
    [("METHOD_NAME", md.name.str), ("I", md.inputType.str), ("O", md.outputType.str)]]

def createDispatchFunctions (sd : ServiceDescriptor) : List PrinterCall :=
  sd.methods.flatMap fun method => [
    print "template<typename T_IMPL>\n" [],
    print "void $SERV_NAME$_$METHOD_NAME$(T_IMPL & impl,ClientCookie & client_cookie_in,ClientData & cd)\n"
      [("SERV_NAME", sd.name.str), ("METHOD_NAME", method.name.str)],
    print "\x7b\n" [],
    .indent,
    print "$M_IN$ m_in;\n" [("M_IN", method.inputType.str)],
    print "$M_OUT$ m_out;\n" [("M_OUT", method.outputType.str)],
    print "bool res = m_in.ParseFromString(cd.request().request_string());\n" [],
    print "if(!res)\n" [],
    print "\x7b\n" [],
    print "  cd.error_code().assign(\n" [],
    print "    error_codes::RBL_BACKEND_INVOKE_REQUEST_STRING_PARSE_ERROR,\n" [],
    print "    rpc_backend_error);\n" [],
    print "  cd.response().set_error(basic_protocol::REQUEST_STRING_PARSE_ERROR);\n" [],
    print "  return;\n" [],
    print "\x7d\n\n" [],
    print "impl.$M_NAME$(client_cookie_in,cd,m_in,m_out);\n\n" [("M_NAME", method.name.str)],
    print "//TODO test for rpc call error;\n" [],
    print "res = m_out.SerializeToString( cd.response().mutable_response_string());\n" [],
    print "if(!res)\n" [],
    print "\x7b\n" [],
    print "  cd.error_code().assign(\n" [],
    print "    error_codes::RBL_BACKEND_INVOKE_RESPONSE_STRING_SERIALIZE_ERROR,\n" [],
    print "    rpc_backend_error);\n" [],
    print "  cd.response().set_error(basic_protocol::REQUEST_STRING_SERIALIZE_ERROR);\n" [],
    print "  return;\n" [],
    print "\x7d\n" [],
    .outdent,
    print "\x7d\n\n" []]

def createConstructor (sd : ServiceDescriptor) : List PrinterCall :=
  [print "$SERV_NAME$()\n" [("SERV_NAME", sd.name.str)],
    print "\x7b\n" [],
    .indent] ++
  (sd.methods.zipIdx.flatMap fun method => [
    print "m_dispatch_table.SetEntry( common::Oid(\"$MN$\",$I$), & $SERV_NAME$_$MN$<T_IMPL>);\n"
      [("MN", method.1.name.str), ("I", lexicalCast method.2), ("SERV_NAME", sd.name.str)]]) ++
  [.outdent,
    print "\x7d\n" []]

def createDispatchFunction : List PrinterCall :=
  [print "virtual bool contains_function_at_ordinal(boost::uint16_t ordinal)\n" [],
    print "\x7b\n" [],
    .indent,
    print "return !(m_dispatch_table[ordinal] == NULL);\n" [],
    .outdent,
    print "\x7d\n" [],
    print "virtual void dispatch(ClientCookie & client_cookie,ClientData & cd)\n" [],
    print "\x7b\n" [],
    .indent,
    print "(*m_dispatch_table[cd.request().request_ordinal()])(m_impl,client_cookie,cd);\n" [],
    .outdent,
    print "\x7d\n" []]

/-- The dummy tag and the skeleton of an implementation. -/
def skelClass (sd : ServiceDescriptor) : List PrinterCall :=
  [print "struct $SERV_NAME$_dummy_tag\x7b\x7d;\n\n" [("SERV_NAME", sd.name.str)],
    print "template<typename T>\n" [],
    print "class $SERV_NAME$_skel\n\x7b\n" [("SERV_NAME", sd.name.str)],
    print "public:\n" [],
    .indent,
    print "typedef ClientCookieBase t_client_cookie;\n" [],
    print "void init(boost::system::error_code & ec) \x7b\x7d\n" [],
    print "void teardown(boost::system::error_code & ec) \x7b\x7d\n" [],
    print "void subscribe(ClientCookie & client_cookie, ClientData & cd,\n" [],
    print "  std::string * from_client_string, std::string * to_client_string) \x7b\x7d\n" [],
    print "void unsubscribe(ClientCookie & client_cookie, ClientData & cd) \x7b\x7d\n" []] ++
  sd.methods.flatMap skelFunction ++
  [.outdent,
    print "private:\n" [],
    print "\x7d;\n\n" []]

/-- The class of the service. -/
def serviceClass (sd : ServiceDescriptor) : List PrinterCall :=
  [print "template<typename T_IMPL=$SERV_NAME$_skel<$SERV_NAME$_dummy_tag> >\n"
      [("SERV_NAME", sd.name.str)],
    print "class $SERV_NAME$ : public rubble::rpc::ServiceBase\n\x7b\n"
      [("SERV_NAME", sd.name.str)],
    print "public:\n" [],
    .indent,
    print "typedef void (*dispatch_function) (T_IMPL &,ClientCookie &,ClientData&) ;\n" []] ++
  createConstructor sd ++
  createDispatchFunction ++
  [print "T_IMPL & impl() \x7breturn m_impl;\x7d\n" [],
    print "virtual void init(boost::system::error_code & ec) \x7b return m_impl.init(ec); \x7d;\n"
      [],
    print "virtual void teardown(boost::system::error_code & ec) \x7b return m_impl.teardown(ec); \x7d;\n"
      [],
    print "virtual void subscribe(ClientCookie & client_cookie, ClientData & cd,\n" [],
    print "  std::string * from_client_string, std::string * to_client_string)\n" [],
    print "  \x7b m_impl.subscribe(client_cookie,cd,from_client_string, to_client_string); \x7d\n"
      [],
    print "virtual void unsubscribe(ClientCookie & client_cookie, ClientData & cd)\n" [],
    print "  \x7b m_impl.unsubscribe(client_cookie,cd); \x7d \n" [],
    print "virtual const char * name() \x7b return \"$S_NAME$\"; \x7d\n"
      [("S_NAME", sd.name.str)],
    print "virtual bool require_tracking() \n" [],
    print "  \x7b return !(boost::is_same<ClientCookieBase, typename T_IMPL::t_client_cookie>::value); \x7d\n"
      [],
    print "const T_IMPL & get_impl() const \x7b return m_impl; \x7d\n" [],
    print "    virtual void produce_method_list(rubble::rpc::basic_protocol::ListMethodsResponse & lmr)"
      [],
    print "  \x7b ff_produce_method_list(m_dispatch_table,lmr);\x7d\n" [],
    .outdent,
    print "private:\n" [],
    .indent,
    print "T_IMPL m_impl;\n" [],
    print "common::OidContainer<common::Oid,dispatch_function> m_dispatch_table;\n" [],
    .outdent,
    print "\x7d;\n\n" []]

def createService (sd : ServiceDescriptor) : List PrinterCall :=
  .indent :: (skelClass sd ++ createDispatchFunctions sd ++ serviceClass sd ++ [.outdent])

/-! ## The class of the client -/

/-- The method that sends the request of a call.  The block of its body outdents twice. -/
def clientMethod (method : MethodDescriptor) (i : ℕ) : List PrinterCall :=
  [print "void $MN$(const $IP$ & req, $OP$ & res)\n\x7b\n"
      [("MN", method.name.str), ("IP", method.inputType.str), ("OP", method.outputType.str)],
    .indent,
    print "static const boost::uint16_t method_id = $I$;\n" [("I", lexicalCast i)],
    print "m_invoker.reset();\n" [],
    print "m_invoker.request().set_service_ordinal(service_ordinal());" [],
    print "m_invoker.request().set_request_ordinal( * m_service_method_map[method_id]);\n" [],
    print "req.SerializeToString(m_invoker.request().mutable_request_string());\n\n" [],
    print "m_invoker.invoke();\n" [],
    print "if(m_invoker.response().error() != rubble::rpc::basic_protocol::REQUEST_SUCCESS)\n" [],
    print "\x7b\n  RBL_INVOKER_THROW_EXCEPTION(m_invoker.response().error());\n \x7d\n\n" [],
    print "res.ParseFromString(m_invoker.response().response_string());\n" [],
    .outdent,
    .outdent,
    print "\x7d\n" []]

def createClientService (sd : ServiceDescriptor) : List PrinterCall :=
  [.indent,
    print "class $CN$_client: public rubble::rpc::ClientServiceBase \n\x7b\n"
      [("CN", sd.name.str)],
    print "public:\n" [],
    .indent,
    print "typedef boost::scoped_ptr<$CN$_client> scptr;\n\n" [("CN", sd.name.str)],
    print "typedef boost::shared_ptr<$CN$_client> shptr;\n\n" [("CN", sd.name.str)],
    print "$CN$_client(InvokerBase & invoker)\n  : ClientServiceBase(invoker, $MC$)\n"
      [("CN", sd.name.str), ("MC", lexicalCast sd.methodCount)],
    print "\x7b\n" [],
    .indent] ++
  (sd.methods.zipIdx.flatMap fun method => [
    print "m_service_method_map.SetEntry(common::Oid(\"$MN$\",$I$),-1);\n"
      [("MN", method.1.name.str), ("I", lexicalCast method.2)]]) ++
  [.outdent,
    print "\x7d\n" []] ++
  (sd.methods.zipIdx.flatMap fun method => clientMethod method.1 method.2) ++
  [.outdent,
    print "private:\n" [],
    print "\x7d;\n" [],
    .outdent]

/-! ## The files -/

/-- The loop that opens the namespaces.  A token is printed as a template. -/
def openNamespaces (namespaceStrings : List Bytes) : List PrinterCall :=
  namespaceStrings.zipIdx.flatMap fun ns =>
    if ns.2 = namespaceStrings.length then [print "\n" []]
    else [
      print "namespace " [],
      .print (ns.1.takeWhile (· ≠ 0)) [],
      print " \x7b\n" []]

/-- The loop that closes them, with one turn more. -/
def closeNamespaces (nsCount : ℕ) : List PrinterCall :=
  if nsCount ≠ 0 then
    (List.range (nsCount + 1)).flatMap fun i =>
      if i = nsCount then [print "\n" []]
      else if i = 0 then [print "\x7d" []]
      else [print " \x7d" []]
  else []

/-- A file that is opened, and the calls on its printer. -/
structure OutputFile where
  name : Bytes
  calls : List PrinterCall

def serverFile (boost : Boost) (file : FileDescriptor) : OutputFile :=
  let stem := boost.stem file.name
  let pbufName := boost.parentPath file.name ++ stem ++ ascii ".pb.h"
  let stem2 := stem ++ ascii "_SERVER_RBLRPC_H"
  let namespaceStrings := boost.tokens file.packageName
  { name := stem ++ ascii "-server.rblrpc.h"
    calls :=
      [print "#ifndef RBL_RPC_GEN_$STEM$_SERVER_H\n" [("STEM", stem2)],
        print "#define RBL_RPC_GEN_$STEM$_SERVER_H\n\n" [("STEM", stem2)],
        print "#include \"$incl$\" \n" [("incl", pbufName)],
        print "#include <$incl$> \n" [("incl", ascii "rpc/backend/ClientServiceCookies.h")],
        print "#include <$incl$> \n" [("incl", ascii "rpc/backend/ServiceBase.h")],
        print "#include <$incl$> \n" [("incl", ascii "rpc/common/rpc_errors.h")],
        print "#include <$incl$> \n" [("incl", ascii "boost/cstdint.hpp")],
        print "#include <$incl$> \n\n" [("incl", ascii "boost/type_traits/is_same.hpp")]] ++
      openNamespaces namespaceStrings ++
      file.services.flatMap createService ++
      closeNamespaces namespaceStrings.length ++
      [print "#endif" []] }

def clientFile (boost : Boost) (file : FileDescriptor) : OutputFile :=
  let stem := boost.stem file.name
  let pbufName := boost.parentPath file.name ++ stem ++ ascii ".pb.h"
  let stem3 := stem ++ ascii "_CLIENT_RBLRPC_H"
  let namespaceStrings := boost.tokens file.packageName
  { name := stem ++ ascii "-client.rblrpc.h"
    calls :=
      [print "#ifndef RBL_RPC_GEN_$STEM$_CLIENT_H\n" [("STEM", stem3)],
        print "#define RBL_RPC_GEN_$STEM$_CLIENT_H\n\n" [("STEM", stem3)],
        print "#include \"$incl$\" \n" [("incl", pbufName)],
        print "#include \"$incl$\" \n" [("incl", ascii "rpc/client/ClientBase.h")],
        print "#include <$incl$> \n\n" [("incl", ascii "boost/cstdint.hpp")]] ++
      openNamespaces namespaceStrings ++
      file.services.flatMap createClientService ++
      closeNamespaces namespaceStrings.length ++
      [print "#endif\n" []] }

/-- `Generate` returns true, with both files written. -/
def generate (boost : Boost) (file : FileDescriptor) : Bool × List OutputFile :=
  (true, [serverFile boost file, clientFile boost file])

end RblRpc
