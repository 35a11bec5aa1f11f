import RblRpc.Common.OidName
import RblRpc.Lib.Nesting

/-!
# The printer

`Printer` of the protocol buffer library writes texts with the values of their variables, and
indents the lines by as much as `Indent` and `Outdent` say.

* `PrinterCall` — the calls of the generator on a printer.
* `segments` — a template, taken apart at its delimiters.
* `Printer.Lawful` — what the library promises of the output.
* `indentation`, `outline` — the steps of a run of calls and the braces of its texts.
* `Printer.Lawful.braces_written` — the braces of the output are those of the texts.
* `Printer.indenting` — a printer that keeps the promise.
-/

namespace RblRpc

open DyckStep Nesting

/-- A call on a printer.  `Print` has a template and the values of its variables. -/
inductive PrinterCall where
  | print (text : Bytes) (vars : List (Bytes × Bytes))
  | indent
  | outdent

/-- A template consists of characters and variables; the last one may lack its delimiter. -/
inductive Segment where
  | char (c : UInt8)
  | var (name : Bytes)
  | unclosed

/-- The rest of a template, behind a delimiter and the part of a name, or outside of names.  Two
delimiters in a row stand for the character. -/
def segmentsFrom : Option Bytes → Bytes → List Segment
  | none, [] => []
  | none, c :: cs => if c = 36 then segmentsFrom (some []) cs else .char c :: segmentsFrom none cs
  | some _, [] => [.unclosed]
  | some name, c :: cs =>
    if c = 36 then (if name = [] then .char 36 else .var name) :: segmentsFrom none cs
    else segmentsFrom (some (name ++ [c])) cs

/-- The delimiter is `$`. -/
def segments (text : Bytes) : List Segment := segmentsFrom none text

def Segment.value (vars : List (Bytes × Bytes)) : Segment → Bytes
  | .char c => [c]
  | .var name => (vars.lookup name).getD []
  | .unclosed => []

/-- Whether a variable is among the names that have a value. -/
def Segment.given (names : List Bytes) : Segment → Bool
  | .char _ => true
  | .var name => names.contains name
  | .unclosed => false

namespace PrinterCall

/-- What a call prints, apart from indentation. -/
def text : PrinterCall → Bytes
  | print text vars => (segments text).flatMap (Segment.value vars)
  | indent => []
  | outdent => []

/-- Every variable of the template has a value. -/
def given : PrinterCall → Bool
  | print text vars => (segments text).all (Segment.given (vars.map (·.1)))
  | indent => true
  | outdent => true

def step : PrinterCall → Option DyckStep
  | print _ _ => none
  | indent => some U
  | outdent => some D

end PrinterCall

/-- `Print` with literals for the template and the names of the variables. -/
def print (text : String) (vars : List (String × Bytes)) : PrinterCall :=
  .print (ascii text) (vars.map fun v => (ascii v.1, v.2))

/-- `{` opens and `}` closes. -/
def brace (c : UInt8) : Option DyckStep :=
  if c = 123 then some U else if c = 125 then some D else none

def braces (b : Bytes) : List DyckStep := b.filterMap brace

/-- The `Indent` and `Outdent` calls of a run. -/
def indentation (calls : List PrinterCall) : List DyckStep := calls.filterMap PrinterCall.step

/-- The braces that a run prints. -/
def outline (calls : List PrinterCall) : List DyckStep := calls.flatMap fun c => braces c.text

/-- Every template of a run has the values of its variables. -/
def allGiven (calls : List PrinterCall) : Bool := calls.all PrinterCall.given

/-- A run without errors: all variables have values, and no `Outdent` lacks its `Indent`. -/
structure Proper (calls : List PrinterCall) : Prop where
  given : allGiven calls = true
  covered : ∀ p, p <+: indentation calls → p.count D ≤ p.count U

/-- The output of a printer after a run of calls. -/
structure Printer where
  written : List PrinterCall → Bytes

/-- The texts stand in the output, one after the other, with blanks added for indentation. -/
def Printer.Lawful (printer : Printer) : Prop :=
  ∀ calls, Proper calls →
    (printer.written calls).filter (· ≠ 32) = (calls.flatMap PrinterCall.text).filter (· ≠ 32)

/-! ## Braces of a template -/

@[simp] theorem braces_append (a b : Bytes) : braces (a ++ b) = braces a ++ braces b :=
  List.filterMap_append

theorem braces_flatMap {α : Type} (l : List α) (f : α → Bytes) :
    braces (l.flatMap f) = l.flatMap fun x => braces (f x) := by
  induction l with
  | nil => rfl
  | cons x l ih => rw [List.flatMap_cons, List.flatMap_cons, braces_append, ih]

theorem braces_eq_nil {b : Bytes} : braces b = [] ↔ ∀ c ∈ b, brace c = none :=
  List.filterMap_eq_nil_iff

theorem braces_filter (b : Bytes) : braces (b.filter (· ≠ 32)) = braces b := by
  rw [braces, List.filterMap_filter]
  refine List.filterMap_congr fun c _ => ?_
  by_cases h : c = 32
  · subst h
    rfl
  · simp [h]

/-- The braces of the characters of a template. -/
def template (text : Bytes) : List DyckStep :=
  (segments text).flatMap fun
    | .char c => (brace c).toList
    | .var _ => []
    | .unclosed => []

/-- Values without braces add none. -/
theorem braces_text {text : Bytes} {vars : List (Bytes × Bytes)}
    (h : ∀ v ∈ vars, braces v.2 = []) :
    braces (PrinterCall.print text vars).text = template text := by
  rw [PrinterCall.text, braces_flatMap, template]
  refine List.flatMap_congr fun s _ => ?_
  cases s with
  | char c => cases hc : brace c <;> simp [Segment.value, braces, hc]
  | var name =>
    show braces ((vars.lookup name).getD []) = []
    cases hval : vars.lookup name with
    | none => rfl
    | some value =>
      obtain ⟨l₁, l₂, rfl, -⟩ := List.lookup_eq_some_iff.mp hval
      exact h (name, value) (by simp)
  | unclosed => rfl

/-- The variables of a template, in order. -/
def holes (text : Bytes) : List Bytes :=
  (segments text).flatMap fun
    | .char _ => []
    | .var name => [name]
    | .unclosed => []

/-- A template without braces prints those of its values. -/
theorem braces_holes {text : Bytes} {vars : List (Bytes × Bytes)} (h : template text = []) :
    braces (PrinterCall.print text vars).text =
      (holes text).flatMap fun name => braces ((vars.lookup name).getD []) := by
  rw [PrinterCall.text, braces_flatMap, holes, List.flatMap_assoc]
  refine List.flatMap_congr fun s hs => ?_
  have hnone := List.flatMap_eq_nil_iff.mp h s hs
  cases s with
  | char c =>
    have hc : brace c = none := by simpa using hnone
    simp [Segment.value, braces, hc]
  | var name => simp [Segment.value]
  | unclosed => rfl

/-! ## Runs of calls -/

section Runs

variable {calls cs cs' : List PrinterCall} {text : String} {vars : List (String × Bytes)}

@[simp] theorem indentation_nil : indentation [] = [] := rfl

@[simp] theorem indentation_print :
    indentation (print text vars :: cs) = indentation cs := rfl

@[simp] theorem indentation_indent : indentation (.indent :: cs) = U :: indentation cs := rfl

@[simp] theorem indentation_outdent : indentation (.outdent :: cs) = D :: indentation cs := rfl

@[simp] theorem indentation_append :
    indentation (cs ++ cs') = indentation cs ++ indentation cs' := List.filterMap_append

@[simp] theorem indentation_flatMap {α : Type} (l : List α) (f : α → List PrinterCall) :
    indentation (l.flatMap f) = l.flatMap fun x => indentation (f x) := by
  induction l with
  | nil => rfl
  | cons x l ih => rw [List.flatMap_cons, List.flatMap_cons, indentation_append, ih]

@[simp] theorem outline_nil : outline [] = [] := rfl

@[simp] theorem outline_append : outline (cs ++ cs') = outline cs ++ outline cs' :=
  List.flatMap_append

@[simp] theorem outline_flatMap {α : Type} (l : List α) (f : α → List PrinterCall) :
    outline (l.flatMap f) = l.flatMap fun x => outline (f x) := List.flatMap_assoc

theorem outline_cons (c : PrinterCall) : outline (c :: cs) = braces c.text ++ outline cs :=
  List.flatMap_cons

@[simp] theorem outline_indent : outline (.indent :: cs) = outline cs := by
  rw [outline_cons]
  rfl

@[simp] theorem outline_outdent : outline (.outdent :: cs) = outline cs := by
  rw [outline_cons]
  rfl

/-- None of the values has a brace. -/
def Plain (vars : List (String × Bytes)) : Prop := ∀ v ∈ vars, braces v.2 = []

@[simp] theorem plain_nil : Plain [] := fun _ hv => absurd hv List.not_mem_nil

@[simp] theorem plain_cons {name : String} {value : Bytes} :
    Plain ((name, value) :: vars) ↔ braces value = [] ∧ Plain vars := List.forall_mem_cons

@[simp] theorem outline_print (h : Plain vars) :
    outline (print text vars :: cs) = template (ascii text) ++ outline cs := by
  rw [outline_cons, print, braces_text]
  rintro _ hv
  obtain ⟨v, hmem, rfl⟩ := List.mem_map.mp hv
  exact h v hmem

/-- A template with this one variable and no braces. -/
def OneHole (text name : String) : Prop :=
  template (ascii text) = [] ∧ holes (ascii text) = [ascii name]

/-- It is looked for in the characters of the literals. -/
theorem OneHole.of_chars {l m : List Char} (ht : template (l.map fun c => c.toNat.toUInt8) = [])
    (hh : holes (l.map fun c => c.toNat.toUInt8) = [m.map fun c => c.toNat.toUInt8]) :
    OneHole (String.ofList l) (String.ofList m) := by
  rw [OneHole, ascii_ofList, ascii_ofList]
  exact ⟨ht, hh⟩

theorem outline_hole {name : String} {value : Bytes} (h : OneHole text name) :
    outline (print text [(name, value)] :: cs) = braces value ++ outline cs := by
  rw [outline_cons, print, braces_holes h.1, h.2]
  simp

@[simp] theorem allGiven_nil : allGiven [] = true := rfl

theorem allGiven_cons (c : PrinterCall) : allGiven (c :: cs) = (c.given && allGiven cs) := rfl

@[simp] theorem allGiven_indent : allGiven (.indent :: cs) = allGiven cs := by
  rw [allGiven_cons, PrinterCall.given, Bool.true_and]

@[simp] theorem allGiven_outdent : allGiven (.outdent :: cs) = allGiven cs := by
  rw [allGiven_cons, PrinterCall.given, Bool.true_and]

/-- Whether the variables of a template are given depends on their names only. -/
@[simp] theorem allGiven_print : allGiven (print text vars :: cs) =
    ((segments (ascii text)).all (Segment.given (vars.map fun v => ascii v.1)) &&
      allGiven cs) := by
  rw [allGiven_cons, print, PrinterCall.given, List.map_map]
  rfl

@[simp] theorem allGiven_append : allGiven (cs ++ cs') = (allGiven cs && allGiven cs') :=
  List.all_append

theorem allGiven_flatMap {α : Type} {l : List α} {f : α → List PrinterCall}
    (h : ∀ x ∈ l, allGiven (f x) = true) : allGiven (l.flatMap f) = true := by
  rw [allGiven, List.all_flatMap, List.all_eq_true]
  exact h

/-- The output has the braces of the texts. -/
theorem Printer.Lawful.braces_written {printer : Printer} (h : printer.Lawful)
    (hp : Proper calls) : braces (printer.written calls) = outline calls := by
  rw [← braces_filter, h calls hp, braces_filter, braces_flatMap, outline]

end Runs

/-! ## A printer -/

/-- A text on lines that are indented by so many blanks, and whether a new line begins then. -/
def indentText (blanks : ℕ) : Bool → Bytes → Bytes × Bool
  | fresh, [] => ([], fresh)
  | fresh, c :: cs =>
    ((if fresh then List.replicate blanks 32 else []) ++ c :: (indentText blanks (c == 10) cs).1,
      (indentText blanks (c == 10) cs).2)

/-- The output from a level of indentation on. -/
def indentCalls : ℕ → Bool → List PrinterCall → Bytes
  | _, _, [] => []
  | level, fresh, .indent :: cs => indentCalls (level + 1) fresh cs
  | level, fresh, .outdent :: cs => indentCalls (level - 1) fresh cs
  | level, fresh, .print text vars :: cs =>
    (indentText (2 * level) fresh (PrinterCall.print text vars).text).1 ++
      indentCalls level (indentText (2 * level) fresh (PrinterCall.print text vars).text).2 cs

def Printer.indenting : Printer where
  written := indentCalls 0 true

theorem indentText_blanks (blanks : ℕ) (fresh : Bool) (b : Bytes) :
    (indentText blanks fresh b).1.filter (· ≠ 32) = b.filter (· ≠ 32) := by
  induction b generalizing fresh with
  | nil => rfl
  | cons c cs ih =>
    have hpad : (if fresh = true then List.replicate blanks (32 : UInt8) else []).filter
        (· ≠ 32) = [] := by
      cases fresh <;> simp
    rw [indentText, List.filter_append, hpad, List.nil_append, List.filter_cons, List.filter_cons,
      ih]

theorem indentCalls_blanks (level : ℕ) (fresh : Bool) (calls : List PrinterCall) :
    (indentCalls level fresh calls).filter (· ≠ 32) =
      (calls.flatMap PrinterCall.text).filter (· ≠ 32) := by
  induction calls generalizing level fresh with
  | nil => rfl
  | cons c cs ih =>
    cases c with
    | print text vars =>
      rw [indentCalls, List.filter_append, indentText_blanks, ih, List.flatMap_cons,
        List.filter_append]
    | indent => exact ih (level + 1) fresh
    | outdent => exact ih (level - 1) fresh

theorem Printer.indenting_lawful : Printer.indenting.Lawful :=
  fun calls _ => indentCalls_blanks 0 true calls

end RblRpc
