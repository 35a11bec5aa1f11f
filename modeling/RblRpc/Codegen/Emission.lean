import RblRpc.Codegen.Header
import RblRpc.Codegen.WellNested

/-!
# Texts of calls

What is read of the text of a run of calls on a printer, if its templates decide that.

* `Printer.Indents` — what the library promises of the lines of the output.
* `statements_written` — indentation says nothing.
* `Reads` — the statements of a run of calls, which ends its last line.
* `Reads.of_foresee` — **the templates decide** what is read, whatever the names are.
* `statements_skipped` — directives and braces, whatever stands behind.
-/

namespace RblRpc

open Template

/-! ## The lines of the output -/

/-- A text without the blanks at the starts of its lines. -/
def withoutIndent : Bool → Bytes → Bytes
  | _, [] => []
  | fresh, c :: cs =>
    if fresh && c == 32 then withoutIndent true cs else c :: withoutIndent (c == 10) cs

/-- The texts stand in the output, one after the other, with blanks added at the starts of lines.
An `Outdent` without its `Indent` does nothing but log an error in a build without assertions. -/
def Printer.Indents (printer : Printer) : Prop :=
  ∀ calls, allGiven calls = true →
    withoutIndent true (printer.written calls) =
      withoutIndent true (calls.flatMap PrinterCall.text)

/-- A line whose blanks in front are gone, or are not to go. -/
def frontOf (fresh : Bool) (ls : List Bytes) : List Bytes :=
  match ls with
  | [] => []
  | l :: ls => (if fresh then headerReader.unindent l else l) :: ls.map headerReader.unindent

theorem splitOnP_withoutIndent (fresh : Bool) (b : Bytes) :
    (withoutIndent fresh b).splitOnP (· = 10) = frontOf fresh (b.splitOnP (· = 10)) := by
  induction b generalizing fresh with
  | nil => cases fresh <;> rfl
  | cons c cs ih =>
    rw [withoutIndent, List.splitOnP_cons_eq_if_modifyHead]
    obtain ⟨l, ls, hsplit⟩ := List.exists_cons_of_ne_nil (List.splitOnP_ne_nil (· = (10 : UInt8)) cs)
    split
    · rename_i hblank
      simp only [Bool.and_eq_true, beq_iff_eq] at hblank
      obtain ⟨rfl, rfl⟩ := hblank
      rw [ih, hsplit]
      rfl
    · rename_i hblank
      rw [List.splitOnP_cons_eq_if_modifyHead, ih, hsplit]
      by_cases hc : c = 10
      · subst hc
        cases fresh <;> rfl
      · have hc' : (c == 10) = false := beq_false_of_ne hc
        rw [if_neg (by simp [hc]), if_neg (by simp [hc]), hc']
        cases fresh with
        | false => rfl
        | true =>
          have hkept : headerReader.unindent (c :: l) = c :: l := by
            have h32 : c ≠ 32 := by simpa using hblank
            exact List.dropWhile_cons_of_neg (by simp [headerReader, h32])
          show (c :: l) :: _ = headerReader.unindent (c :: l) :: _
          rw [hkept]

theorem lines_withoutIndent (b : Bytes) :
    headerReader.lines b = (withoutIndent true b).splitOnP (· = 10) := by
  rw [splitOnP_withoutIndent, Reader.lines]
  obtain ⟨l, ls, hsplit⟩ := List.exists_cons_of_ne_nil (List.splitOnP_ne_nil (· = (10 : UInt8)) b)
  show (b.splitOnP (· = 10)).map headerReader.unindent = _
  rw [hsplit]
  rfl

/-- Indentation says nothing. -/
theorem statements_congr {a b : Bytes} (h : withoutIndent true a = withoutIndent true b) :
    statements a = statements b := by
  rw [statements, statements, Reader.read, Reader.read, lines_withoutIndent, lines_withoutIndent, h]

theorem statements_written {printer : Printer} {calls : List PrinterCall} (h : printer.Indents)
    (hgiven : allGiven calls = true) :
    statements (printer.written calls) = statements (calls.flatMap PrinterCall.text) :=
  statements_congr (h calls hgiven)

/-- The blanks of an indented text are at the starts of lines: `fresh` says whether one begins for
the printer, and `start` whether nothing but blanks is on the line. -/
theorem indentText_withoutIndent {blanks : ℕ} {fresh start : Bool} {b rest rest' : Bytes}
    (hstart : fresh = true → start = true)
    (h : ∀ start', ((indentText blanks fresh b).2 = true → start' = true) →
      withoutIndent start' rest = withoutIndent start' rest') :
    withoutIndent start ((indentText blanks fresh b).1 ++ rest) =
      withoutIndent start (b ++ rest') := by
  induction b generalizing fresh start with
  | nil => exact h start hstart
  | cons c cs ih =>
    have hpad : ∀ n s, withoutIndent true (List.replicate n 32 ++ s) = withoutIndent true s := by
      intro n s
      induction n with
      | zero => rfl
      | succ n ihn => exact ihn
    have hdrop : withoutIndent start ((indentText blanks fresh (c :: cs)).1 ++ rest) =
        withoutIndent start (c :: ((indentText blanks (c == 10) cs).1 ++ rest)) := by
      rw [indentText]
      cases fresh with
      | false => rfl
      | true =>
        rw [hstart rfl, if_pos rfl, List.append_assoc, hpad]
        rfl
    rw [hdrop, List.cons_append, withoutIndent, withoutIndent]
    split
    · rename_i hc
      simp only [Bool.and_eq_true, beq_iff_eq] at hc
      obtain ⟨-, rfl⟩ := hc
      exact ih (fun hf => absurd hf Bool.false_ne_true) h
    · rw [ih id h]

theorem indentCalls_withoutIndent {level : ℕ} {fresh start : Bool} {calls : List PrinterCall}
    (hstart : fresh = true → start = true) :
    withoutIndent start (indentCalls level fresh calls) =
      withoutIndent start (calls.flatMap PrinterCall.text) := by
  induction calls generalizing level fresh start with
  | nil => rfl
  | cons c cs ih =>
    cases c with
    | print text vars => exact indentText_withoutIndent hstart fun _ h => ih h
    | indent => exact ih hstart
    | outdent => exact ih hstart

theorem Printer.indenting_indents : Printer.indenting.Indents :=
  fun _ _ => indentCalls_withoutIndent fun _ => rfl

/-! ## Templates -/

/-- A segment as a piece of a template.  The values stand for the variables. -/
def Segment.piece (vars : List (Bytes × Bytes)) : Segment → Option (Piece UInt8 Bytes)
  | .char c => some (.lit c)
  | .var name => (vars.lookup name).map .var
  | .unclosed => none

/-- A name or a number. -/
def Printable (b : Bytes) : Prop := b ≠ [] ∧ ∀ c ∈ b, isIdentifierChar c = true

namespace PrinterCall

def pieces : PrinterCall → List (Piece UInt8 Bytes)
  | print text vars => (segments text).filterMap (Segment.piece vars)
  | indent => []
  | outdent => []

/-- The values of the variables. -/
def values : PrinterCall → List Bytes
  | print _ vars => vars.map (·.2)
  | indent => []
  | outdent => []

/-- The text of a call is that of its template. -/
theorem text_eq_render (c : PrinterCall) : c.text = render id c.pieces := by
  cases c with
  | indent => rfl
  | outdent => rfl
  | print text vars =>
    show (segments text).flatMap (Segment.value vars) =
      ((segments text).filterMap (Segment.piece vars)).flatMap _
    induction segments text with
    | nil => rfl
    | cons s ss ih =>
      rw [List.flatMap_cons, ih]
      cases s with
      | char c => rfl
      | unclosed => rfl
      | var name =>
        rw [Segment.value]
        cases hlookup : vars.lookup name with
        | none => rw [List.filterMap_cons_none (by rw [Segment.piece, hlookup]; rfl)]; rfl
        | some v =>
          rw [List.filterMap_cons_some (by rw [Segment.piece, hlookup]; rfl), List.flatMap_cons]
          rfl

theorem mem_values {c : PrinterCall} {b : Bytes} (hb : .var b ∈ c.pieces) : b ∈ c.values := by
  cases c with
  | indent => exact absurd hb List.not_mem_nil
  | outdent => exact absurd hb List.not_mem_nil
  | print text vars =>
    obtain ⟨s, -, heq⟩ := List.mem_filterMap.mp hb
    cases s with
    | char c => cases heq
    | unclosed => cases heq
    | var name =>
      obtain ⟨v, hlookup, heq⟩ := Option.map_eq_some_iff.mp heq
      cases heq
      obtain ⟨l₁, l₂, rfl, -⟩ := List.lookup_eq_some_iff.mp hlookup
      exact List.mem_map_of_mem (f := (·.2)) (by simp : (name, b) ∈ l₁ ++ (name, b) :: l₂)

end PrinterCall

section

variable {text : String} {vars : List (String × Bytes)}

@[simp] theorem pieces_print : PrinterCall.pieces (print text vars) =
    (segments (ascii text)).filterMap (Segment.piece (vars.map fun v => (ascii v.1, v.2))) := rfl

@[simp] theorem pieces_indent : PrinterCall.pieces .indent = [] := rfl

@[simp] theorem pieces_outdent : PrinterCall.pieces .outdent = [] := rfl

@[simp] theorem values_print : PrinterCall.values (print text vars) = vars.map (·.2) := by
  rw [print, PrinterCall.values, List.map_map]
  rfl

@[simp] theorem values_indent : PrinterCall.values .indent = [] := rfl

@[simp] theorem values_outdent : PrinterCall.values .outdent = [] := rfl

/-- The text of a run of calls. -/
theorem flatMap_text (calls : List PrinterCall) :
    calls.flatMap PrinterCall.text = render id (calls.flatMap PrinterCall.pieces) := by
  rw [render, List.flatMap_assoc]
  exact List.flatMap_congr fun c _ => c.text_eq_render

/-- A variable of a run has a value of one of its calls. -/
theorem mem_flatMap_values {calls : List PrinterCall} {b : Bytes}
    (hb : .var b ∈ calls.flatMap PrinterCall.pieces) : b ∈ calls.flatMap PrinterCall.values := by
  obtain ⟨c, hc, hmem⟩ := List.mem_flatMap.mp hb
  exact List.mem_flatMap.mpr ⟨c, hc, PrinterCall.mem_values hmem⟩

end

/-! ## What is read of a run of calls -/

/-- The calls end their last line, and these statements are read of their texts. -/
structure Reads (calls : List PrinterCall) (ss : List Statement) : Prop where
  closed : headerReader.Closed (calls.flatMap PrinterCall.text)
  statements : statements (calls.flatMap PrinterCall.text) = ss

theorem headerReader_blank : headerReader.Blank := by
  simp only [Reader.Blank, headerReader, headerRules, pattern]
  repeat rw [ascii_ofList]
  rfl

theorem statements_append {a b : Bytes} (h : headerReader.Closed a) :
    statements (a ++ b) = statements a ++ statements b := by
  rw [statements, Reader.read_append headerReader_blank h, List.filterMap_append]
  rfl

namespace Reads

variable {calls cs : List PrinterCall} {ss ss' : List Statement}

theorem nil : Reads [] [] :=
  ⟨.inl rfl, by rw [RblRpc.statements]; exact congrArg _ (Reader.read_nil headerReader_blank)⟩

theorem append (h : Reads calls ss) (h' : Reads cs ss') : Reads (calls ++ cs) (ss ++ ss') := by
  refine ⟨?_, ?_⟩
  · rw [List.flatMap_append]
    exact h.closed.append h'.closed
  · rw [List.flatMap_append, statements_append h.closed, h.statements, h'.statements]

theorem before (h : Reads calls []) (h' : Reads cs ss) : Reads (calls ++ cs) ss := h.append h'

theorem behind (h : Reads calls ss) (h' : Reads cs []) : Reads (calls ++ cs) ss := by
  have hall := h.append h'
  rwa [List.append_nil] at hall

theorem flatMap {α : Type} {xs : List α} {f : α → List PrinterCall} {g : α → List Statement}
    (h : ∀ x ∈ xs, Reads (f x) (g x)) : Reads (xs.flatMap f) (xs.flatMap g) := by
  induction xs with
  | nil => exact nil
  | cons x xs ih =>
    rw [List.flatMap_cons, List.flatMap_cons]
    exact (h x List.mem_cons_self).append (ih fun y hy => h y (List.mem_cons_of_mem x hy))

theorem map {α : Type} {xs : List α} {f : α → List PrinterCall} {g : α → Statement}
    (h : ∀ x ∈ xs, Reads (f x) [g x]) : Reads (xs.flatMap f) (xs.map g) := by
  have h' := flatMap h
  rwa [← List.map_eq_flatMap] at h'

theorem indent (h : Reads calls ss) : Reads (.indent :: calls) ss := ⟨h.closed, h.statements⟩

theorem outdent (h : Reads calls ss) : Reads (.outdent :: calls) ss := ⟨h.closed, h.statements⟩

/-- **The templates decide** what is read. -/
theorem of_foresee (out : List (Rule × List (List (Piece UInt8 Bytes))))
    (hss : ((out.map (Reader.found id)).filterMap fun found => found.1.statement found.2) = ss)
    (hvalues : ∀ b ∈ calls.flatMap PrinterCall.values, Printable b)
    (hout : (headerReader.ends (calls.flatMap PrinterCall.pieces),
      headerReader.foresee (calls.flatMap PrinterCall.pieces)) = (true, some out)) :
    Reads calls ss := by
  obtain ⟨hends, hout⟩ := Prod.mk.inj hout
  refine ⟨?_, ?_⟩
  · rw [flatMap_text]
    exact Reader.closed_render hends
  · have hworded : Worded headerReader.word id (calls.flatMap PrinterCall.pieces) :=
      fun b hb => hvalues b (mem_flatMap_values hb)
    rw [RblRpc.statements, flatMap_text, Reader.read_render hworded hout, hss]

/-- Nothing is read of templates none of whose lines counts. -/
theorem of_silent (hvalues : ∀ b ∈ calls.flatMap PrinterCall.values, Printable b)
    (hout : (headerReader.ends (calls.flatMap PrinterCall.pieces),
      headerReader.foresee (calls.flatMap PrinterCall.pieces)) = (true, some [])) :
    Reads calls [] := of_foresee [] rfl hvalues hout

/-- Other calls with the same text. -/
theorem of_text (h : Reads cs ss)
    (htext : calls.flatMap PrinterCall.text = cs.flatMap PrinterCall.text) : Reads calls ss := by
  refine ⟨?_, ?_⟩
  · rw [htext]
    exact h.closed
  · rw [htext, h.statements]

end Reads

theorem headerReader_skips {a : UInt8} (ha : a = 35 ∨ a = 125) : headerReader.Skips a := by
  simp only [Reader.Skips, headerReader, headerRules, pattern]
  repeat rw [ascii_ofList]
  rcases ha with rfl | rfl
  · exact ⟨by decide, fun _ => rfl⟩
  · exact ⟨by decide, fun _ => rfl⟩

/-- Directives and braces say nothing, whatever stands behind. -/
theorem statements_skipped {calls : List PrinterCall} {a : UInt8} (ha : a = 35 ∨ a = 125)
    (hvalues : ∀ b ∈ calls.flatMap PrinterCall.values, (10 : UInt8) ∉ b)
    (h : ((calls.flatMap PrinterCall.pieces).splitOnP (Piece.isLit 10)).all
      (fun l => l.head?.all (Piece.isLit a)) = true) :
    statements (calls.flatMap PrinterCall.text) = [] := by
  have hunbroken : headerReader.Unbroken id (calls.flatMap PrinterCall.pieces) :=
    fun b hb => hvalues b (mem_flatMap_values hb)
  rw [statements, flatMap_text, Reader.read_skipped headerReader_blank (headerReader_skips ha)
    hunbroken]
  · rfl
  · intro l hl q hq
    have hlit := (Option.all_eq_true _ _).mp (List.all_eq_true.mp h l hl) q hq
    cases q with
    | lit b => rw [show b = a from of_decide_eq_true hlit]
    | var b => cases hlit

theorem Reads.of_skipped {calls : List PrinterCall} {a : UInt8} (ha : a = 35 ∨ a = 125)
    (hvalues : ∀ b ∈ calls.flatMap PrinterCall.values, (10 : UInt8) ∉ b)
    (h : (headerReader.ends (calls.flatMap PrinterCall.pieces),
      ((calls.flatMap PrinterCall.pieces).splitOnP (Piece.isLit 10)).all
        fun l => l.head?.all (Piece.isLit a)) = (true, true)) : Reads calls [] := by
  obtain ⟨hends, hlines⟩ := Prod.mk.inj h
  refine ⟨?_, statements_skipped ha hvalues hlines⟩
  rw [flatMap_text]
  exact Reader.closed_render hends

end RblRpc
