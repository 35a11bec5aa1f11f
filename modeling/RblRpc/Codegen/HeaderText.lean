import RblRpc.Codegen.Emission

/-!
# What is read of the generated headers

The functions of the generator one by one, with what the reader finds in their texts.

* `dispatchFunction_reads`, `clientMethod_reads` and the others — what is read of every function.
* `serverStatements`, `clientStatements` — what the two headers say of a service.
* `statements_serverFile`, `statements_clientFile` — **the statements of the two headers.**
-/

namespace RblRpc

open Template

/-! ## The functions of the server -/

theorem Identifier.printable (n : Identifier) : Printable n.str :=
  ⟨(identifier_legal n.valid).1, n.chars⟩

/-- The name of the dispatch function of a method. -/
def ServiceDescriptor.dispatchName (sd : ServiceDescriptor) (md : MethodDescriptor) : Bytes :=
  sd.name.str ++ 95 :: md.name.str

/-- A dispatch function is a head and the statements of its body. -/
theorem dispatchFunction_reads (sd : ServiceDescriptor) (md : MethodDescriptor) :
    Reads (createDispatchFunctions { sd with methods := [md] })
      (.dispatchFunction (sd.dispatchName md) ::
        (dispatchSteps md.inputType.str md.outputType.str md.name.str).map .dispatchStep) := by
  refine Reads.of_foresee
    [(.dispatchFunction, [[.var sd.name.str, .lit 95, .var md.name.str]]),
      (.declareInput, [[.var md.inputType.str]]),
      (.declareOutput, [[.var md.outputType.str]]),
      (.plain (.dispatchStep .parseRequest), []),
      (.plain (.dispatchStep .unlessResult), []),
      (.plain (.dispatchStep (.assignError .invokeRequestStringParseError)), []),
      (.plain (.dispatchStep (.setError .requestStringParseError)), []),
      (.plain (.dispatchStep .leave), []),
      (.callImpl, [[.var md.name.str]]),
      (.plain (.dispatchStep .serializeResponse), []),
      (.plain (.dispatchStep .unlessResult), []),
      (.plain (.dispatchStep (.assignError .invokeResponseStringSerializeError)), []),
      (.plain (.dispatchStep (.setError .requestStringSerializeError)), []),
      (.plain (.dispatchStep .leave), [])] ?_ ?_ ?_
  · simp [Reader.found, render, Rule.statement, dispatchSteps, ServiceDescriptor.dispatchName]
  · simp [createDispatchFunctions, Identifier.printable]
  · simp only [createDispatchFunctions, List.flatMap_cons, List.flatMap_nil, List.append_nil,
      pieces_print, pieces_indent, pieces_outdent, headerReader, headerRules, pattern,
      List.map_cons, List.map_nil]
    repeat rw [ascii_ofList]
    set_option maxRecDepth 4000 in rfl

theorem createDispatchFunctions_reads (sd : ServiceDescriptor) :
    Reads (createDispatchFunctions sd) (sd.methods.flatMap fun md =>
      .dispatchFunction (sd.dispatchName md) ::
        (dispatchSteps md.inputType.str md.outputType.str md.name.str).map .dispatchStep) := by
  have heq : createDispatchFunctions sd =
      sd.methods.flatMap fun md => createDispatchFunctions { sd with methods := [md] } := by
    simp only [createDispatchFunctions, List.flatMap_cons, List.flatMap_nil, List.append_nil]
  rw [heq]
  exact Reads.flatMap fun md _ => dispatchFunction_reads sd md

theorem skelFunction_reads (md : MethodDescriptor) : Reads (skelFunction md)
    [.skelMethod md.name.str md.inputType.str md.outputType.str] := by
  refine Reads.of_foresee
    [(.skelMethod, [[.var md.name.str], [.var md.inputType.str], [.var md.outputType.str]])]
    ?_ ?_ ?_
  · simp [Reader.found, render, Rule.statement]
  · simp [skelFunction, Identifier.printable]
  · simp only [skelFunction, List.flatMap_cons, List.flatMap_nil, List.append_nil,
      pieces_print, headerReader, headerRules, pattern, List.map_cons, List.map_nil]
    repeat rw [ascii_ofList]
    rfl

/-- The skeleton of an implementation, and the tag that it is instantiated with. -/
def ServiceDescriptor.skelName (sd : ServiceDescriptor) : Bytes := sd.name.str ++ ascii "_skel"

def ServiceDescriptor.dummyTagName (sd : ServiceDescriptor) : Bytes :=
  sd.name.str ++ ascii "_dummy_tag"

/-- A skeleton has the methods. -/
theorem skelClass_reads (sd : ServiceDescriptor) :
    Reads (skelClass sd) (.dummyTag sd.dummyTagName :: .skelClass sd.skelName ::
      sd.methods.map fun md =>
        .skelMethod md.name.str md.inputType.str md.outputType.str) := by
  have hhead : Reads [
      print "struct $SERV_NAME$_dummy_tag\x7b\x7d;\n\n" [("SERV_NAME", sd.name.str)],
      print "template<typename T>\n" [],
      print "class $SERV_NAME$_skel\n\x7b\n" [("SERV_NAME", sd.name.str)],
      print "public:\n" [],
      .indent,
      print "typedef ClientCookieBase t_client_cookie;\n" [],
      print "void init(boost::system::error_code & ec) \x7b\x7d\n" [],
      print "void teardown(boost::system::error_code & ec) \x7b\x7d\n" [],
      print "void subscribe(ClientCookie & client_cookie, ClientData & cd,\n" [],
      print "  std::string * from_client_string, std::string * to_client_string) \x7b\x7d\n" [],
      print "void unsubscribe(ClientCookie & client_cookie, ClientData & cd) \x7b\x7d\n" []]
      [.dummyTag sd.dummyTagName, .skelClass sd.skelName] := by
    refine Reads.of_foresee
      [(.dummyTag, [.var sd.name.str :: (ascii "_dummy_tag").map .lit]),
        (.skelClass, [.var sd.name.str :: (ascii "_skel").map .lit])] ?_ ?_ ?_
    · simp [Reader.found, render, Rule.statement, List.flatMap_map, ServiceDescriptor.skelName,
        ServiceDescriptor.dummyTagName]
    · simp [Identifier.printable]
    · simp only [List.flatMap_cons, List.flatMap_nil, List.append_nil, pieces_print, pieces_indent,
        headerReader, headerRules, pattern, List.map_cons, List.map_nil]
      repeat rw [ascii_ofList]
      set_option maxRecDepth 4000 in rfl
  rw [skelClass]
  refine (hhead.append (Reads.map fun md _ => skelFunction_reads md)).behind
    (Reads.of_silent ?_ ?_)
  · simp
  · simp only [List.flatMap_cons, List.flatMap_nil, List.append_nil, pieces_print,
      pieces_outdent, headerReader, headerRules, pattern, List.map_nil]
    repeat rw [ascii_ofList]
    rfl

theorem decimal_lexicalCast (n : ℕ) : decimal (lexicalCast n) = n := by
  have hback : ((Nat.toDigits 10 n).map fun c => c.toNat.toUInt8).map
      (fun c => Char.ofNat c.toNat) = Nat.toDigits 10 n := by
    rw [List.map_map]
    conv_rhs => rw [← List.map_id (Nat.toDigits 10 n)]
    refine List.map_congr_left fun c hc => ?_
    have hdigit := Char.isDigit_iff_toNat.mp
      (Nat.isDigit_of_mem_toDigits (by decide) (by decide) hc)
    have hlt : c.toNat < 256 := by
      have hle : c.toNat ≤ 57 := hdigit.2
      omega
    show Char.ofNat c.toNat.toUInt8.toNat = c
    rw [UInt8.toNat_ofNat', Nat.mod_eq_of_lt hlt, Char.ofNat_toNat]
  rw [decimal, lexicalCast, hback, Nat.ofDigitChars_ten_toDigits]

theorem printable_lexicalCast (n : ℕ) : Printable (lexicalCast n) := by
  refine ⟨?_, fun c hc => ?_⟩
  · intro h
    exact Nat.toDigits_ne_nil (List.map_eq_nil_iff.mp h)
  · obtain ⟨d, hd, rfl⟩ := List.mem_map.mp hc
    have hdigit := Char.isDigit_iff_toNat.mp
      (Nat.isDigit_of_mem_toDigits (by decide) (by decide) hd)
    obtain ⟨hge, hle⟩ : 48 ≤ d.toNat ∧ d.toNat ≤ 57 := hdigit
    have htoNat : d.toNat.toUInt8.toNat = d.toNat := by
      rw [UInt8.toNat_ofNat']
      omega
    rw [isIdentifierChar]
    simp only [UInt8.le_iff_toNat_le, htoNat]
    simp [hge, hle]

/-- An entry of a constructor. -/
theorem dispatchEntry_reads (sd : ServiceDescriptor) (md : MethodDescriptor) (i : ℕ) :
    Reads [print
      "m_dispatch_table.SetEntry( common::Oid(\"$MN$\",$I$), & $SERV_NAME$_$MN$<T_IMPL>);\n"
      [("MN", md.name.str), ("I", lexicalCast i), ("SERV_NAME", sd.name.str)]]
      [.setDispatchEntry md.name.str i (sd.dispatchName md)] := by
  refine Reads.of_foresee
    [(.setDispatchEntry, [[.var md.name.str], [.var (lexicalCast i)],
      [.var sd.name.str, .lit 95, .var md.name.str]])] ?_ ?_ ?_
  · simp [Reader.found, render, Rule.statement, decimal_lexicalCast,
      ServiceDescriptor.dispatchName]
  · simp [Identifier.printable, printable_lexicalCast]
  · simp only [List.flatMap_cons, List.flatMap_nil, List.append_nil, pieces_print, headerReader,
      headerRules, pattern, List.map_cons, List.map_nil]
    repeat rw [ascii_ofList]
    rfl

theorem createConstructor_reads (sd : ServiceDescriptor) :
    Reads (createConstructor sd) (sd.methods.zipIdx.map fun method =>
      .setDispatchEntry method.1.name.str method.2 (sd.dispatchName method.1)) := by
  rw [createConstructor]
  refine ((Reads.of_silent ?_ ?_).before
    (Reads.map fun method _ => dispatchEntry_reads sd method.1 method.2)).behind
      (Reads.of_silent ?_ ?_)
  · simp [Identifier.printable]
  · simp only [List.flatMap_cons, List.flatMap_nil, List.append_nil, pieces_print, pieces_indent,
      headerReader, headerRules, pattern, List.map_cons, List.map_nil]
    repeat rw [ascii_ofList]
    rfl
  · simp
  · simp only [List.flatMap_cons, List.flatMap_nil, List.append_nil, pieces_print, pieces_outdent,
      headerReader, headerRules, pattern, List.map_nil]
    repeat rw [ascii_ofList]
    rfl

theorem createDispatchFunction_reads : Reads createDispatchFunction [] := by
  refine Reads.of_silent ?_ ?_
  · simp [createDispatchFunction]
  · simp only [createDispatchFunction, List.flatMap_cons, List.flatMap_nil, List.append_nil,
      pieces_print, pieces_indent, pieces_outdent, headerReader, headerRules, pattern,
      List.map_nil]
    repeat rw [ascii_ofList]
    set_option maxRecDepth 4000 in rfl

/-- The class of a service has its name and the entries. -/
theorem serviceClass_reads (sd : ServiceDescriptor) :
    Reads (serviceClass sd) (.serviceClass sd.name.str :: sd.methods.zipIdx.map fun method =>
      .setDispatchEntry method.1.name.str method.2 (sd.dispatchName method.1)) := by
  have hhead : Reads [print "template<typename T_IMPL=$SERV_NAME$_skel<$SERV_NAME$_dummy_tag> >\n"
      [("SERV_NAME", sd.name.str)],
    print "class $SERV_NAME$ : public rubble::rpc::ServiceBase\n\x7b\n"
      [("SERV_NAME", sd.name.str)],
    print "public:\n" [],
    .indent,
    print "typedef void (*dispatch_function) (T_IMPL &,ClientCookie &,ClientData&) ;\n" []]
      [.serviceClass sd.name.str] := by
    refine Reads.of_foresee
      [(.serviceClass, [[.var sd.name.str]])] ?_ ?_ ?_
    · simp [Reader.found, render, Rule.statement]
    · simp [Identifier.printable]
    · simp only [List.flatMap_cons, List.flatMap_nil, List.append_nil, pieces_print, pieces_indent,
        headerReader, headerRules, pattern, List.map_cons, List.map_nil]
      repeat rw [ascii_ofList]
      set_option maxRecDepth 4000 in rfl
  rw [serviceClass]
  refine ((hhead.append (createConstructor_reads sd)).behind createDispatchFunction_reads).behind
    (Reads.of_silent ?_ ?_)
  · simp [Identifier.printable]
  · simp only [List.flatMap_cons, List.flatMap_nil, List.append_nil, pieces_print, pieces_indent,
      pieces_outdent, headerReader, headerRules, pattern, List.map_cons, List.map_nil]
    repeat rw [ascii_ofList]
    set_option maxRecDepth 8000 in rfl

/-- The statements of the classes and functions of a service. -/
def serverStatements (sd : ServiceDescriptor) : List Statement :=
  (.dummyTag sd.dummyTagName :: .skelClass sd.skelName :: sd.methods.map fun md =>
    .skelMethod md.name.str md.inputType.str md.outputType.str) ++
  (sd.methods.flatMap fun md =>
    .dispatchFunction (sd.dispatchName md) ::
      (dispatchSteps md.inputType.str md.outputType.str md.name.str).map .dispatchStep) ++
  .serviceClass sd.name.str :: sd.methods.zipIdx.map fun method =>
    .setDispatchEntry method.1.name.str method.2 (sd.dispatchName method.1)

theorem createService_reads (sd : ServiceDescriptor) :
    Reads (createService sd) (serverStatements sd) := by
  have h := ((skelClass_reads sd).append (createDispatchFunctions_reads sd)).append
    (serviceClass_reads sd)
  exact (h.behind Reads.nil.outdent).indent

/-! ## The functions of the client -/

theorem clientMethod_reads (md : MethodDescriptor) (i : ℕ) :
    Reads (clientMethod md i) (.clientMethod md.name.str md.inputType.str md.outputType.str ::
      (methodSteps i).map .methodStep) := by
  refine Reads.of_foresee
    [(.clientMethod, [[.var md.name.str], [.var md.inputType.str], [.var md.outputType.str]]),
      (.methodId, [[.var (lexicalCast i)]]),
      (.plain (.methodStep .reset), []),
      (.plain (.methodStep .setOrdinals), []),
      (.plain (.methodStep .serializeRequest), []),
      (.plain (.methodStep .invoke), []),
      (.plain (.methodStep .unlessSuccess), []),
      (.plain (.methodStep .throwError), []),
      (.plain (.methodStep .parseResponse), [])] ?_ ?_ ?_
  · simp [Reader.found, render, Rule.statement, methodSteps, decimal_lexicalCast]
  · simp [clientMethod, Identifier.printable, printable_lexicalCast]
  · simp only [clientMethod, List.flatMap_cons, List.flatMap_nil, List.append_nil, pieces_print,
      pieces_indent, pieces_outdent, headerReader, headerRules, pattern, List.map_cons,
      List.map_nil]
    repeat rw [ascii_ofList]
    set_option maxRecDepth 4000 in rfl

theorem methodEntry_reads (md : MethodDescriptor) (i : ℕ) :
    Reads [print "m_service_method_map.SetEntry(common::Oid(\"$MN$\",$I$),-1);\n"
      [("MN", md.name.str), ("I", lexicalCast i)]] [.setMethodEntry md.name.str i] := by
  refine Reads.of_foresee
    [(.setMethodEntry, [[.var md.name.str], [.var (lexicalCast i)]])] ?_ ?_ ?_
  · simp [Reader.found, render, Rule.statement, decimal_lexicalCast]
  · simp [Identifier.printable, printable_lexicalCast]
  · simp only [List.flatMap_cons, List.flatMap_nil, List.append_nil, pieces_print, headerReader,
      headerRules, pattern, List.map_cons, List.map_nil]
    repeat rw [ascii_ofList]
    rfl

/-- The class of a client. -/
def ServiceDescriptor.clientName (sd : ServiceDescriptor) : Bytes :=
  sd.name.str ++ ascii "_client"

/-- The statements of the class of a client. -/
def clientStatements (sd : ServiceDescriptor) : List Statement :=
  .clientClass sd.clientName ::
    (sd.methods.zipIdx.map fun method => .setMethodEntry method.1.name.str method.2) ++
    sd.methods.zipIdx.flatMap fun method =>
      .clientMethod method.1.name.str method.1.inputType.str method.1.outputType.str ::
        (methodSteps method.2).map .methodStep

theorem createClientService_reads (sd : ServiceDescriptor) :
    Reads (createClientService sd) (clientStatements sd) := by
  have hhead : Reads [.indent,
      print "class $CN$_client: public rubble::rpc::ClientServiceBase \n\x7b\n"
        [("CN", sd.name.str)],
      print "public:\n" [],
      .indent,
      print "typedef boost::scoped_ptr<$CN$_client> scptr;\n\n" [("CN", sd.name.str)],
      print "typedef boost::shared_ptr<$CN$_client> shptr;\n\n" [("CN", sd.name.str)],
      print "$CN$_client(InvokerBase & invoker)\n  : ClientServiceBase(invoker, $MC$)\n"
        [("CN", sd.name.str), ("MC", lexicalCast sd.methodCount)],
      print "\x7b\n" [],
      .indent] [.clientClass sd.clientName] := by
    refine Reads.of_foresee
      [(.clientClass, [.var sd.name.str :: (ascii "_client").map .lit])] ?_ ?_ ?_
    · simp [Reader.found, render, Rule.statement, List.flatMap_map, ServiceDescriptor.clientName]
    · simp [Identifier.printable, printable_lexicalCast]
    · simp only [List.flatMap_cons, List.flatMap_nil, List.append_nil, pieces_print, pieces_indent,
        headerReader, headerRules, pattern, List.map_cons, List.map_nil]
      repeat rw [ascii_ofList]
      set_option maxRecDepth 4000 in rfl
  rw [createClientService]
  refine (((hhead.append (Reads.map fun method _ => methodEntry_reads method.1 method.2)).behind
    (Reads.of_silent ?_ ?_)).append
      (Reads.flatMap fun method _ => clientMethod_reads method.1 method.2)).behind
    (Reads.of_silent ?_ ?_)
  · simp
  · simp only [List.flatMap_cons, List.flatMap_nil, List.append_nil, pieces_print, pieces_outdent,
      headerReader, headerRules, pattern, List.map_nil]
    repeat rw [ascii_ofList]
    rfl
  · simp
  · simp only [List.flatMap_cons, List.flatMap_nil, List.append_nil, pieces_print, pieces_outdent,
      headerReader, headerRules, pattern, List.map_nil]
    repeat rw [ascii_ofList]
    rfl

/-! ## The files -/

/-- A turn of the loop that opens the namespaces. -/
theorem openNamespace_reads {t : Bytes} (h : ∀ c ∈ t, isIdentifierChar c = true) :
    Reads [print "namespace " [], .print (t.takeWhile (· ≠ 0)) [], print " \x7b\n" []]
      (if t = [] then [] else [.nameSpace t]) := by
  have htoken : t.takeWhile (· ≠ 0) = t := List.takeWhile_eq_self_iff.mpr fun c hc =>
    decide_eq_true fun hzero => by
      have hchar := h c hc
      rw [hzero] at hchar
      revert hchar
      decide
  have htext : (PrinterCall.print t []).text = t := by
    have hplain := segments_plain fun hc => (brace_of_identifierChar (h 36 hc)).2 rfl
    rw [PrinterCall.text, hplain, List.flatMap_map]
    exact List.flatMap_singleton' t
  rw [htoken]
  split
  · rename_i hnil
    subst hnil
    have hvalues : (PrinterCall.print [] []).values = [] := rfl
    refine Reads.of_silent (by simp [hvalues]) ?_
    simp only [List.flatMap_cons, List.flatMap_nil, List.append_nil, pieces_print, headerReader,
      headerRules, pattern, List.map_nil]
    repeat rw [ascii_ofList]
    rfl
  · rename_i hne
    have hline : Reads [print "namespace $T$ \x7b\n" [("T", t)]] [.nameSpace t] := by
      refine Reads.of_foresee [(.nameSpace, [[.var t]])] ?_ (by simpa using ⟨hne, h⟩) ?_
      · simp [Reader.found, render, Rule.statement]
      · simp only [List.flatMap_cons, List.flatMap_nil, List.append_nil, pieces_print,
          headerReader, headerRules, pattern, List.map_cons, List.map_nil]
        repeat rw [ascii_ofList]
        rfl
    refine hline.of_text ?_
    simp only [List.flatMap_cons, List.flatMap_nil, List.append_nil, htext]
    rw [print, print, print, PrinterCall.text, PrinterCall.text, PrinterCall.text]
    simp only [List.map_cons, List.map_nil]
    repeat rw [ascii_ofList]
    simp [segments, segmentsFrom, Segment.value]

/-- The namespaces that a file opens.  An empty token opens none. -/
def openedNamespaces (tokens : List Bytes) : List Statement :=
  tokens.flatMap fun t => if t = [] then [] else [.nameSpace t]

/-- The loop that opens the namespaces. -/
theorem openNamespaces_reads {tokens : List Bytes}
    (h : ∀ t ∈ tokens, ∀ c ∈ t, isIdentifierChar c = true) :
    Reads (openNamespaces tokens) (openedNamespaces tokens) := by
  have hloop : openNamespaces tokens = tokens.flatMap fun t =>
      [print "namespace " [], .print (t.takeWhile (· ≠ 0)) [], print " \x7b\n" []] := by
    conv_rhs => rw [← List.zipIdx_map_fst 0 tokens, List.flatMap_map]
    refine List.flatMap_congr fun ns hns => ?_
    exact if_neg (openNamespaces_turn hns)
  rw [hloop]
  exact Reads.flatMap fun t ht => openNamespace_reads (h t ht)

/-- The loop that closes them prints one line. -/
theorem closeNamespaces_pieces (n : ℕ) :
    (closeNamespaces n).flatMap PrinterCall.pieces = [] ∨
      ∃ ps, (closeNamespaces n).flatMap PrinterCall.pieces = .lit 125 :: (ps ++ [.lit 10]) ∧
        ∀ q ∈ ps, q.isLit 10 = false := by
  cases n with
  | zero => exact .inl rfl
  | succ n =>
    have hopen : PrinterCall.pieces (print "\x7d" []) = [.lit 125] := by
      rw [pieces_print]
      repeat rw [ascii_ofList]
      rfl
    have hmore : PrinterCall.pieces (print " \x7d" []) = [.lit 32, .lit 125] := by
      rw [pieces_print]
      repeat rw [ascii_ofList]
      rfl
    have hend : PrinterCall.pieces (print "\n" []) = [.lit 10] := by
      rw [pieces_print]
      repeat rw [ascii_ofList]
      rfl
    have hturn : ∀ i < n, (if i + 1 = n + 1 then [print "\n" []]
        else if i + 1 = 0 then [print "\x7d" []] else [print " \x7d" []]) =
        [print " \x7d" []] := by
      intro i hi
      rw [if_neg (by omega), if_neg (by omega)]
    refine .inr ⟨(List.range n).flatMap fun _ => [.lit 32, .lit 125], ?_, ?_⟩
    · rw [closeNamespaces, if_pos (Nat.succ_ne_zero n), List.range_succ, List.range_succ_eq_map,
        List.flatMap_append, List.flatMap_cons, List.flatMap_map, List.flatMap_singleton,
        if_pos rfl, if_neg (by omega), if_pos rfl, List.flatMap_append, List.flatMap_append,
        List.flatMap_singleton, List.flatMap_singleton, hopen, hend, List.flatMap_assoc]
      have hturns : ((List.range n).flatMap fun i => (if i + 1 = n + 1 then [print "\n" []]
          else if i + 1 = 0 then [print "\x7d" []] else [print " \x7d" []]).flatMap
            PrinterCall.pieces) = (List.range n).flatMap fun _ => [.lit 32, .lit 125] := by
        refine List.flatMap_congr fun i hi => ?_
        rw [hturn i (List.mem_range.mp hi), List.flatMap_singleton, hmore]
      exact congrArg (fun ps => [Piece.lit 125] ++ ps ++ [Piece.lit 10]) hturns
    · intro q hq
      obtain ⟨i, -, hi⟩ := List.mem_flatMap.mp hq
      simp only [List.mem_cons, List.not_mem_nil, or_false] at hi
      rcases hi with rfl | rfl <;> rfl

theorem closeNamespaces_reads (n : ℕ) : Reads (closeNamespaces n) [] := by
  have hvalues : (closeNamespaces n).flatMap PrinterCall.values = [] := by
    rw [closeNamespaces]
    split
    · rw [List.flatMap_assoc, List.flatMap_eq_nil_iff]
      intro i _
      split <;> (try split) <;> simp
    · rfl
  rcases closeNamespaces_pieces n with hnil | ⟨ps, hps, hfree⟩
  · refine Reads.of_text .nil ?_
    rw [flatMap_text, hnil]
    rfl
  · refine ⟨?_, statements_skipped (.inr rfl) (by simp [hvalues]) ?_⟩
    · rw [flatMap_text, hps]
      rw [← List.cons_append, render_append]
      exact .inr ⟨_, rfl⟩
    · rw [hps, ← List.cons_append, List.splitOnP_append_cons _ _ rfl, List.splitOnP_nil,
        List.splitOnP_eq_singleton (List.forall_mem_cons.mpr ⟨rfl, hfree⟩)]
      rfl

variable {boost : Boost} {printer : Printer} {file : FileDescriptor}

/-- The parts of its path are on one line each. -/
structure FileDescriptor.OneLine (file : FileDescriptor) (boost : Boost) : Prop where
  stem : (10 : UInt8) ∉ boost.stem file.name
  parentPath : (10 : UInt8) ∉ boost.parentPath file.name

/-- Around the classes there are the namespaces. -/
theorem framed_statements {tokens : List Bytes} {first last : List PrinterCall}
    {services : List ServiceDescriptor} {f : ServiceDescriptor → List PrinterCall}
    {g : ServiceDescriptor → List Statement}
    (htokens : ∀ t ∈ tokens, ∀ c ∈ t, isIdentifierChar c = true) (hfirst : Reads first [])
    (hservices : ∀ sd, Reads (f sd) (g sd))
    (hlast : statements (last.flatMap PrinterCall.text) = []) :
    statements ((first ++ openNamespaces tokens ++ services.flatMap f ++
      closeNamespaces tokens.length ++ last).flatMap PrinterCall.text) =
        openedNamespaces tokens ++ services.flatMap g := by
  have hbody := ((hfirst.before (openNamespaces_reads htokens)).append
    (Reads.flatMap fun sd (_ : sd ∈ services) => hservices sd)).behind
    (closeNamespaces_reads tokens.length)
  rw [List.flatMap_append, statements_append hbody.closed, hbody.statements, hlast,
    List.append_nil]

/-- **The server's header** has the functions and classes of the services, and nothing else. -/
theorem statements_serverFile (hb : boost.Lawful) (hp : printer.Indents)
    (hname : file.OneLine boost) :
    statements (printer.written (serverFile boost file).calls) =
      openedNamespaces (boost.tokens file.packageName) ++
        file.services.flatMap serverStatements := by
  obtain ⟨hstem, hparent⟩ := hname
  rw [statements_written hp (serverFile_given hb)]
  refine framed_statements hb.token_chars (Reads.of_skipped (.inl rfl) ?_ ?_) createService_reads
    (statements_skipped (.inl rfl) ?_ ?_)
  · simp only [List.flatMap_cons, List.flatMap_nil, values_print, List.map_cons, List.map_nil]
    repeat rw [ascii_ofList]
    simp [hstem, hparent]
  · simp only [List.flatMap_cons, List.flatMap_nil, List.append_nil, pieces_print, headerReader,
      List.map_cons, List.map_nil]
    repeat rw [ascii_ofList]
    set_option maxRecDepth 4000 in rfl
  · simp
  · simp only [List.flatMap_cons, List.flatMap_nil, List.append_nil, pieces_print, List.map_nil]
    repeat rw [ascii_ofList]
    rfl

/-- **The client's header** has the classes of the services. -/
theorem statements_clientFile (hb : boost.Lawful) (hp : printer.Indents)
    (hname : file.OneLine boost) :
    statements (printer.written (clientFile boost file).calls) =
      openedNamespaces (boost.tokens file.packageName) ++
        file.services.flatMap clientStatements := by
  obtain ⟨hstem, hparent⟩ := hname
  rw [statements_written hp (clientFile_given hb)]
  refine framed_statements hb.token_chars (Reads.of_skipped (.inl rfl) ?_ ?_)
    createClientService_reads (statements_skipped (.inl rfl) ?_ ?_)
  · simp only [List.flatMap_cons, List.flatMap_nil, values_print, List.map_cons, List.map_nil]
    repeat rw [ascii_ofList]
    simp [hstem, hparent]
  · simp only [List.flatMap_cons, List.flatMap_nil, List.append_nil, pieces_print, headerReader,
      List.map_cons, List.map_nil]
    repeat rw [ascii_ofList]
    set_option maxRecDepth 4000 in rfl
  · simp
  · simp only [List.flatMap_cons, List.flatMap_nil, List.append_nil, pieces_print, List.map_nil]
    repeat rw [ascii_ofList]
    rfl

end RblRpc
