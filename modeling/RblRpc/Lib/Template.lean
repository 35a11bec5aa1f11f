import Mathlib.Data.List.Basic

/-!
# Reading back what templates printed

A template is a text with variables, which are printed with words in their places.  A pattern is
matched against a text; the words in the holes of one that fits are found again, if they stand apart
from the characters around them.  Which lines of a printed text a pattern fits can be said of the
template, before the words are known.

* `scan` — the words that a text has in the holes of a pattern.
* `scan_text` — **printing and scanning is a round trip.**
* `clash`, `scan_eq_none` — a template none of whose texts a pattern fits, whatever the words.
* `Reader` — the rules by which the lines of a text are read.
* `Reader.foresee`, `Reader.read_render` — **what is read of a text, said of its template.**
* `Reader.read_skipped` — lines that are skipped, whatever is printed on them.
* `Reader.read_append` — texts behind each other.
-/

namespace Template

/-- A character or a hole of a pattern. -/
inductive Item (α : Type) where
  | lit (a : α)
  | hole
  deriving DecidableEq

abbrev Pattern (α : Type) := List (Item α)

/-- A character, or a word in the place of a hole. -/
inductive Token (α β : Type) where
  | lit (a : α)
  | word (b : β)

variable {α β γ : Type}

namespace Token

def item : Token α β → Item α
  | lit a => .lit a
  | word _ => .hole

def value : Token α β → Option β
  | lit _ => none
  | word b => some b

def map (f : β → γ) : Token α β → Token α γ
  | lit a => .lit a
  | word b => .word (f b)

def text : Token α (List α) → List α
  | lit a => [a]
  | word b => b

/-- A word has a character, and none but those of words. -/
def Sound (word : α → Bool) : Token α (List α) → Prop
  | .lit _ => True
  | .word b => b ≠ [] ∧ ∀ a ∈ b, word a = true

end Token

def text (ts : List (Token α (List α))) : List α := ts.flatMap Token.text

def words (ts : List (Token α β)) : List β := ts.filterMap Token.value

variable {word : α → Bool} {p : Pattern α} {ts us : List (Token α (List α))} {s : List α} {a : α}

@[simp] theorem text_nil : text ([] : List (Token α (List α))) = [] := rfl

@[simp] theorem text_lit : text (.lit a :: ts) = a :: text ts := rfl

@[simp] theorem text_word {b : List α} : text (.word b :: ts) = b ++ text ts := rfl

theorem items_map (f : β → γ) (ts : List (Token α β)) :
    (ts.map (Token.map f)).map Token.item = ts.map Token.item := by
  rw [List.map_map]
  refine List.map_congr_left fun t _ => ?_
  cases t <;> rfl

theorem words_map (f : β → γ) (ts : List (Token α β)) :
    words (ts.map (Token.map f)) = (words ts).map f := by
  rw [words, words, List.filterMap_map, List.map_filterMap]
  refine List.filterMap_congr fun t _ => ?_
  cases t <;> rfl

/-! ## Scanning -/

/-- Behind a hole a word ends. -/
def spaced (word : α → Bool) : Pattern α → Bool
  | [] => true
  | .lit _ :: p => spaced word p
  | .hole :: p => (match p with
    | [] => true
    | .lit a :: _ => !word a
    | .hole :: _ => false) && spaced word p

/-- No character of a word at the start. -/
def Stops (word : α → Bool) (s : List α) : Prop := ∀ a ∈ s.head?, word a = false

theorem takeWhile_of_stops {b : List α} (hb : ∀ a ∈ b, word a = true) (hs : Stops word s) :
    (b ++ s).takeWhile word = b ∧ (b ++ s).dropWhile word = s := by
  rw [List.takeWhile_append_of_pos hb, List.dropWhile_append_of_pos hb]
  cases s with
  | nil => simp
  | cons a s =>
    have ha : word a = false := hs a rfl
    rw [List.takeWhile_cons, List.dropWhile_cons]
    simp [ha]

theorem stops_of_spaced (h : spaced word (.hole :: ts.map Token.item) = true) :
    Stops word (text ts) := by
  cases ts with
  | nil => intro a ha; cases ha
  | cons t ts =>
    cases t with
    | lit c =>
      intro a ha
      cases ha
      simp only [List.map_cons, Token.item, spaced, Bool.and_eq_true, Bool.not_eq_true'] at h
      exact h.1
    | word b => simp [Token.item, spaced] at h

variable [DecidableEq α]

/-- The words in the holes; a hole takes all characters of words that follow. -/
def scan (word : α → Bool) : Pattern α → List α → Option (List (List α))
  | [], [] => some []
  | [], _ :: _ => none
  | .lit _ :: _, [] => none
  | .lit a :: p, b :: s => if a = b then scan word p s else none
  | .hole :: p, s =>
    if s.takeWhile word = [] then none
    else (scan word p (s.dropWhile word)).map (s.takeWhile word :: ·)

/-- **Printing and scanning is a round trip.** -/
theorem scan_text (hs : ∀ t ∈ ts, t.Sound word) (h : spaced word (ts.map Token.item) = true) :
    scan word (ts.map Token.item) (text ts) = some (words ts) := by
  induction ts with
  | nil => rfl
  | cons t ts ih =>
    have hts := fun u hu => hs u (List.mem_cons_of_mem t hu)
    cases t with
    | lit a =>
      show (if a = a then scan word (ts.map Token.item) (text ts) else none) = _
      rw [if_pos rfl, ih hts h]
      rfl
    | word b =>
      obtain ⟨hne, hb⟩ := hs (.word b) List.mem_cons_self
      obtain ⟨htake, hdrop⟩ := takeWhile_of_stops hb (stops_of_spaced h)
      have hrest : spaced word (ts.map Token.item) = true := by
        simp only [List.map_cons, Token.item, spaced, Bool.and_eq_true] at h
        exact h.2
      rw [List.map_cons, text_word, Token.item, scan, htake, hdrop, if_neg hne, ih hts hrest]
      rfl

/-! ## Patterns that do not fit -/

/-- A place in a pattern: whether a hole has begun, and what is behind it. -/
abbrev Place (α : Type) := Bool × Pattern α

def stepItem (word : α → Bool) (a : α) : Pattern α → Option (Place α)
  | [] => none
  | .lit b :: p => if b = a then some (false, p) else none
  | .hole :: p => if word a then some (true, p) else none

/-- One more character of the text. -/
def step (word : α → Bool) (a : α) : Place α → Option (Place α)
  | (false, p) => stepItem word a p
  | (true, p) => if word a then some (true, p) else stepItem word a p

def walk (word : α → Bool) : Place α → List α → Option (Place α)
  | q, [] => some q
  | q, a :: s => (step word a q).bind fun q' => walk word q' s

theorem walk_append {t : List α} (q : Place α) :
    walk word q (s ++ t) = (walk word q s).bind fun q' => walk word q' t := by
  induction s generalizing q with
  | nil => rfl
  | cons a s ih =>
    show (step word a q).bind (fun q' => walk word q' (s ++ t)) = _
    cases hq : step word a q with
    | none => simp [walk, hq]
    | some q' => simp [walk, hq, ih]

/-- **A scan walks to the end of the pattern.** -/
theorem walk_of_scan :
    (∀ {p : Pattern α} {vs}, scan word p s = some vs → ∃ b, walk word (false, p) s = some (b, [])) ∧
      ∀ {p : Pattern α} {vs}, scan word p (s.dropWhile word) = some vs →
        ∃ b, walk word (true, p) s = some (b, []) := by
  induction s with
  | nil =>
    refine ⟨fun {p vs} h => ?_, fun {p vs} h => ?_⟩ <;>
    · rcases p with _ | ⟨_ | _, p⟩
      · exact ⟨_, rfl⟩
      · cases h
      · cases h
  | cons a s ih =>
    have hplain : ∀ {p : Pattern α} {vs}, scan word p (a :: s) = some vs →
        ∃ b, (stepItem word a p).bind (fun q => walk word q s) = some (b, []) := by
      intro p vs h
      rcases p with _ | ⟨c | _, p⟩
      · cases h
      · by_cases hc : c = a
        · rw [scan, if_pos hc] at h
          rw [stepItem, if_pos hc]
          exact ih.1 h
        · rw [scan, if_neg hc] at h
          cases h
      · cases ha : word a with
        | false => simp [scan, ha] at h
        | true =>
          simp only [scan, List.takeWhile_cons, List.dropWhile_cons, ha, if_true,
            reduceCtorEq, if_false, Option.map_eq_some_iff] at h
          obtain ⟨vs', h', -⟩ := h
          simp only [stepItem, ha, if_true]
          exact ih.2 h'
    refine ⟨hplain, fun {p vs} h => ?_⟩
    cases ha : word a with
    | true =>
      simp only [List.dropWhile_cons, ha, if_true] at h
      show ∃ b, (if word a = true then some (true, p) else stepItem word a p).bind _ = _
      rw [if_pos ha]
      exact ih.2 h
    | false =>
      simp only [List.dropWhile_cons, ha, Bool.false_eq_true, if_false] at h
      show ∃ b, (if word a = true then some (true, p) else stepItem word a p).bind _ = _
      rw [if_neg (by simp [ha])]
      exact hplain h

/-- The places behind a word. -/
def afterWord (word : α → Bool) : Pattern α → List (Place α)
  | [] => []
  | .lit a :: p => if word a then (false, p) :: afterWord word p else []
  | .hole :: p => [(true, p)]

def behind (word : α → Bool) : Place α → List (Place α)
  | (false, p) => afterWord word p
  | (true, p) => [(true, p)]

/-- All places that texts of these items lead to. -/
def reach (word : α → Bool) : List (Place α) → Pattern α → List (Place α)
  | qs, [] => qs
  | qs, .lit a :: t => reach word (qs.filterMap (step word a)) t
  | qs, .hole :: t => reach word (qs.flatMap (behind word)) t

/-- No text of the items leads to the end of the pattern. -/
def clash (word : α → Bool) (p t : Pattern α) : Bool :=
  (reach word [(false, p)] t).all fun q => !q.2.isEmpty

theorem walk_begun {b : List α} (hb : ∀ a ∈ b, word a = true) :
    walk word (true, p) b = some (true, p) := by
  induction b with
  | nil => rfl
  | cons a b ih =>
    rw [walk, step, if_pos (hb a List.mem_cons_self), Option.bind_some,
      ih fun c hc => hb c (List.mem_cons_of_mem a hc)]

theorem mem_behind {b : List α} {q q' : Place α} (hne : b ≠ []) (hb : ∀ a ∈ b, word a = true)
    (h : walk word q b = some q') : q' ∈ behind word q := by
  obtain ⟨begun, p⟩ := q
  cases begun with
  | true =>
    rw [walk_begun hb] at h
    cases h
    exact List.mem_singleton_self _
  | false =>
    show q' ∈ afterWord word p
    induction b generalizing p with
    | nil => exact absurd rfl hne
    | cons a b ih =>
      have hrest := fun c hc => hb c (List.mem_cons_of_mem a hc)
      obtain ⟨q₁, h₁, h₂⟩ := Option.bind_eq_some_iff.mp h
      rcases p with _ | ⟨c | _, p⟩
      · cases h₁
      · by_cases hc : c = a
        · have h₁ : (if c = a then some (false, p) else none) = some q₁ := h₁
          rw [if_pos hc] at h₁
          cases h₁
          rw [afterWord, if_pos (hc ▸ hb a List.mem_cons_self), List.mem_cons]
          cases b with
          | nil =>
            cases h₂
            exact .inl rfl
          | cons d b => exact .inr (ih (List.cons_ne_nil d b) hrest p h₂)
        · have h₁ : (if c = a then some (false, p) else none) = some q₁ := h₁
          rw [if_neg hc] at h₁
          cases h₁
      · have h₁ : (if word a = true then some (true, p) else none) = some q₁ := h₁
        rw [if_pos (hb a List.mem_cons_self)] at h₁
        cases h₁
        rw [walk_begun hrest] at h₂
        cases h₂
        exact List.mem_singleton_self _

/-- **The walks along the texts of a template.** -/
theorem walk_mem_reach (hs : ∀ t ∈ ts, t.Sound word) {qs : List (Place α)} {q q' : Place α}
    (hq : q ∈ qs) (h : walk word q (text ts) = some q') : q' ∈ reach word qs (ts.map Token.item) := by
  induction ts generalizing qs q with
  | nil =>
    cases h
    exact hq
  | cons t ts ih =>
    have hts := fun u hu => hs u (List.mem_cons_of_mem t hu)
    cases t with
    | lit a =>
      obtain ⟨q₁, h₁, h₂⟩ := Option.bind_eq_some_iff.mp h
      exact ih hts (List.mem_filterMap.mpr ⟨q, hq, h₁⟩) h₂
    | word b =>
      obtain ⟨hne, hb⟩ := hs (.word b) List.mem_cons_self
      rw [text_word, walk_append] at h
      obtain ⟨q₁, h₁, h₂⟩ := Option.bind_eq_some_iff.mp h
      exact ih hts (List.mem_flatMap.mpr ⟨q, hq, mem_behind hne hb h₁⟩) h₂

/-- **A pattern that clashes with a template** fits none of its texts. -/
theorem scan_eq_none (hs : ∀ t ∈ ts, t.Sound word)
    (h : clash word p (ts.map Token.item) = true) : scan word p (text ts) = none := by
  rw [Option.eq_none_iff_forall_ne_some]
  intro vs hscan
  obtain ⟨b, hwalk⟩ := walk_of_scan.1 hscan
  have hmem := walk_mem_reach hs (List.mem_singleton_self (false, p)) hwalk
  have hall := List.all_eq_true.mp h _ hmem
  cases hall

/-! ## Templates -/

/-- A character or a variable of a template. -/
inductive Piece (α ι : Type) where
  | lit (a : α)
  | var (i : ι)
  deriving DecidableEq

variable {ι : Type}

/-- The text of a template. -/
def render (val : ι → List α) (ps : List (Piece α ι)) : List α :=
  ps.flatMap fun
    | .lit a => [a]
    | .var i => val i

/-- The value of every variable is a word. -/
def Worded (word : α → Bool) (val : ι → List α) (ps : List (Piece α ι)) : Prop :=
  ∀ i, .var i ∈ ps → val i ≠ [] ∧ ∀ a ∈ val i, word a = true

variable {val : ι → List α} {ps qs : List (Piece α ι)}

omit [DecidableEq α] in
@[simp] theorem render_append : render val (ps ++ qs) = render val ps ++ render val qs :=
  List.flatMap_append

omit [DecidableEq α] in
theorem Worded.subset (h : Worded word val ps) (hsub : qs ⊆ ps) : Worded word val qs :=
  fun i hi => h i (hsub hi)

/-- The word that a run of characters of words and of words makes, and what is behind it. -/
def leading (word : α → Bool) :
    List (Token α (List (Piece α ι))) → List (Piece α ι) × List (Token α (List (Piece α ι)))
  | [] => ([], [])
  | .word b :: ts => (b, ts)
  | .lit a :: ts =>
    if word a then (.lit a :: (leading word ts).1, (leading word ts).2) else ([], .lit a :: ts)

/-- Variables, with the characters of words beside them, are words. -/
def merge (word : α → Bool) : List (Piece α ι) → List (Token α (List (Piece α ι)))
  | [] => []
  | .lit a :: ps => match merge word ps with
    | .word b :: ts => if word a then .word (.lit a :: b) :: ts else .lit a :: .word b :: ts
    | ts => .lit a :: ts
  | .var i :: ps => .word (.var i :: (leading word (merge word ps)).1) ::
    (leading word (merge word ps)).2

/-- The tokens of the text. -/
def tokens (val : ι → List α) (ts : List (Token α (List (Piece α ι)))) : List (Token α (List α)) :=
  ts.map (Token.map (render val))

omit [DecidableEq α] in
theorem leading_text {ts : List (Token α (List (Piece α ι)))}
    (h : ∀ t ∈ tokens val ts, t.Sound word) :
    render val (leading word ts).1 ++ text (tokens val (leading word ts).2) = text (tokens val ts) ∧
      (∀ a ∈ render val (leading word ts).1, word a = true) ∧
        ∀ t ∈ tokens val (leading word ts).2, t.Sound word := by
  induction ts with
  | nil => exact ⟨rfl, fun a ha => absurd ha List.not_mem_nil, h⟩
  | cons t ts ih =>
    have hts := fun u hu => h u (List.mem_cons_of_mem _ hu)
    cases t with
    | word b => exact ⟨rfl, (h (.word (render val b)) List.mem_cons_self).2, hts⟩
    | lit a =>
      obtain ⟨htext, hword, hrest⟩ := ih hts
      rw [leading]
      cases ha : word a with
      | false =>
        rw [if_neg Bool.false_ne_true]
        exact ⟨rfl, fun c hc => absurd hc List.not_mem_nil, h⟩
      | true =>
        rw [if_pos rfl]
        refine ⟨?_, fun c hc => ?_, hrest⟩
        · exact congrArg (a :: ·) htext
        · rcases List.mem_cons.mp hc with rfl | hc
          · exact ha
          · exact hword c hc

omit [DecidableEq α] in
/-- **Merging** leaves the text. -/
theorem merge_text (h : Worded word val ps) :
    text (tokens val (merge word ps)) = render val ps ∧
      ∀ t ∈ tokens val (merge word ps), t.Sound word := by
  induction ps with
  | nil => exact ⟨rfl, fun t ht => absurd ht List.not_mem_nil⟩
  | cons q qs ih =>
    obtain ⟨htext, hsound⟩ := ih (h.subset (List.subset_cons_self q qs))
    cases q with
    | lit a =>
      rw [merge]
      split
      · rename_i b rs heq
        rw [heq] at htext hsound
        have hb := hsound (.word (render val b)) List.mem_cons_self
        split
        · rename_i ha
          refine ⟨congrArg (a :: ·) htext, fun r hr => ?_⟩
          rcases List.mem_cons.mp hr with rfl | hr
          · exact ⟨List.cons_ne_nil a _, List.forall_mem_cons.mpr ⟨ha, hb.2⟩⟩
          · exact hsound r (List.mem_cons_of_mem _ hr)
        · refine ⟨congrArg (a :: ·) htext, fun r hr => ?_⟩
          rcases List.mem_cons.mp hr with rfl | hr
          · trivial
          · exact hsound r hr
      · refine ⟨congrArg (a :: ·) htext, fun r hr => ?_⟩
        rcases List.mem_cons.mp hr with rfl | hr
        · trivial
        · exact hsound r hr
    | var i =>
      obtain ⟨hne, hi⟩ := h i List.mem_cons_self
      obtain ⟨hlead, hword, hrest⟩ := leading_text hsound
      rw [merge]
      refine ⟨?_, fun r hr => ?_⟩
      · show (val i ++ render val _) ++ text (tokens val _) = val i ++ render val qs
        rw [List.append_assoc, hlead, htext]
      · rcases List.mem_cons.mp hr with rfl | hr
        · refine ⟨List.append_ne_nil_of_left_ne_nil hne _, fun d hd => ?_⟩
          rcases List.mem_append.mp hd with hd | hd
          · exact hi d hd
          · exact hword d hd
        · exact hrest r hr

/-! ## Lines -/

/-- What the lines of a text are taken for: blanks in front of one are dropped, and the first rule
whose pattern fits it reads it. -/
structure Reader (α ρ : Type) where
  word : α → Bool
  blank : α
  newline : α
  rules : List (Pattern α × ρ)
  blank_word : word blank = false
  newline_word : word newline = false

/-- The piece is this character. -/
def Piece.isLit (a : α) : Piece α ι → Bool
  | .lit b => b = a
  | .var _ => false

namespace Reader

variable {ρ : Type} (g : Reader α ρ)

def unindent (s : List α) : List α := s.dropWhile (· = g.blank)

def lines (s : List α) : List (List α) := (s.splitOnP (· = g.newline)).map g.unindent

def readBy : List (Pattern α × ρ) → List α → Option (ρ × List (List α))
  | [], _ => none
  | (p, r) :: rules, s => match scan g.word p s with
    | some vs => some (r, vs)
    | none => readBy rules s

/-- A line that has no blanks in front. -/
def line (s : List α) : Option (ρ × List (List α)) := g.readBy g.rules s

/-- **What is read of a text.** -/
def read (s : List α) : List (ρ × List (List α)) := (g.lines s).filterMap g.line

/-! ### What will be read -/

/-- The rule that reads the lines of these items, or none; it is not known if a pattern fits some
of them only. -/
def chooseBy : List (Pattern α × ρ) → Pattern α → Option (Option ρ)
  | [], _ => some none
  | (p, r) :: rules, t =>
    if p = t ∧ spaced g.word t = true then some (some r)
    else if clash g.word p t then chooseBy rules t
    else none

def foreseeLine (ps : List (Piece α ι)) : Option (Option (ρ × List (List (Piece α ι)))) :=
  let ts := merge g.word (ps.dropWhile (Piece.isLit g.blank))
  (g.chooseBy g.rules (ts.map Token.item)).map fun r => r.map (·, words ts)

def foreseeLines : List (List (Piece α ι)) → Option (List (ρ × List (List (Piece α ι))))
  | [] => some []
  | l :: ls => (g.foreseeLine l).bind fun r => (foreseeLines ls).map (r.toList ++ ·)

/-- What is read of the texts of a template. -/
def foresee (ps : List (Piece α ι)) : Option (List (ρ × List (List (Piece α ι)))) :=
  g.foreseeLines (ps.splitOnP (Piece.isLit g.newline))

/-- The last line of the texts ends. -/
def ends (ps : List (Piece α ι)) : Bool := ps.foldl (fun _ p => p.isLit g.newline) true

variable {g} {s t : List α}

/-- What was foreseen, with the words. -/
def found (val : ι → List α) (x : ρ × List (List (Piece α ι))) : ρ × List (List α) :=
  (x.1, x.2.map (render val))

theorem readBy_of_chooseBy {rules : List (Pattern α × ρ)} {r : Option ρ}
    (hs : ∀ t ∈ ts, t.Sound g.word) (h : g.chooseBy rules (ts.map Token.item) = some r) :
    g.readBy rules (text ts) = r.map (·, words ts) := by
  induction rules with
  | nil =>
    cases h
    rfl
  | cons rule rules ih =>
    obtain ⟨p, r'⟩ := rule
    rw [chooseBy] at h
    rw [readBy]
    split at h
    · rename_i hfits
      cases h
      rw [hfits.1, scan_text hs hfits.2]
      rfl
    · split at h
      · rename_i hclash
        rw [scan_eq_none hs hclash]
        exact ih h
      · cases h

theorem unindent_render (hs : Worded g.word val ps) :
    g.unindent (render val ps) = render val (ps.dropWhile (Piece.isLit g.blank)) := by
  induction ps with
  | nil => rfl
  | cons q qs ih =>
    cases q with
    | lit a =>
      show g.unindent (a :: render val qs) = _
      rw [unindent, List.dropWhile_cons, List.dropWhile_cons]
      by_cases ha : a = g.blank
      · rw [if_pos (decide_eq_true ha), if_pos (show Piece.isLit g.blank (.lit a) = true from
          decide_eq_true ha)]
        exact ih (hs.subset (List.subset_cons_self _ qs))
      · rw [if_neg (by simp [ha]), if_neg (by simp [Piece.isLit, ha])]
        rfl
    | var i =>
      obtain ⟨hne, hb⟩ := hs i List.mem_cons_self
      obtain ⟨a, c, hval⟩ := List.exists_cons_of_ne_nil hne
      have ha : a ≠ g.blank := by
        intro heq
        have hword := hb a (hval ▸ List.mem_cons_self)
        rw [heq, g.blank_word] at hword
        cases hword
      show g.unindent (val i ++ render val qs) = val i ++ render val qs
      rw [hval, unindent, List.cons_append, List.dropWhile_cons, if_neg (by simp [ha])]

theorem line_of_foreseeLine {out : Option (ρ × List (List (Piece α ι)))} (hs : Worded g.word val ps)
    (h : g.foreseeLine ps = some out) :
    g.line (g.unindent (render val ps)) = out.map (found val) := by
  have hdrop : Worded g.word val (ps.dropWhile (Piece.isLit g.blank)) :=
    hs.subset (List.dropWhile_suffix _).subset
  obtain ⟨htext, hsound⟩ := merge_text hdrop
  obtain ⟨r, hr, rfl⟩ := Option.map_eq_some_iff.mp h
  rw [← items_map (render val)] at hr
  rw [unindent_render hs, ← htext, line, readBy_of_chooseBy hsound hr, tokens, words_map]
  cases r <;> rfl

/-- The variables are on one line each. -/
def Unbroken (g : Reader α ρ) (val : ι → List α) (ps : List (Piece α ι)) : Prop :=
  ∀ i, .var i ∈ ps → g.newline ∉ val i

omit [DecidableEq α] in
theorem unbroken_of_worded (hs : Worded g.word val ps) : g.Unbroken val ps := by
  intro i hi hmem
  have hword := (hs i hi).2 g.newline hmem
  rw [g.newline_word] at hword
  cases hword

theorem splitOnP_render (hs : g.Unbroken val ps) :
    (render val ps).splitOnP (· = g.newline) =
      (ps.splitOnP (Piece.isLit g.newline)).map (render val) := by
  induction ps with
  | nil => rfl
  | cons q qs ih =>
    have hqs := ih fun i hi => hs i (List.mem_cons_of_mem q hi)
    obtain ⟨l, ls, hsplit⟩ := List.exists_cons_of_ne_nil
      (List.splitOnP_ne_nil (Piece.isLit g.newline) qs)
    rw [hsplit] at hqs
    cases q with
    | lit a =>
      show (a :: render val qs).splitOnP _ = _
      rw [List.splitOnP_cons_eq_if_modifyHead, List.splitOnP_cons_eq_if_modifyHead, hqs,
        hsplit]
      by_cases ha : a = g.newline
      · rw [if_pos (decide_eq_true ha), if_pos (show Piece.isLit g.newline (.lit a) = true from
          decide_eq_true ha)]
        rfl
      · rw [if_neg (by simp [ha]), if_neg (by simp [Piece.isLit, ha])]
        rfl
    | var i =>
      have hfree := hs i List.mem_cons_self
      rw [List.splitOnP_cons_eq_if_modifyHead, hsplit,
        if_neg (show ¬Piece.isLit g.newline (.var i) = true from Bool.false_ne_true)]
      show (val i ++ render val qs).splitOnP _ = (val i ++ render val l) :: ls.map (render val)
      generalize val i = b at hfree
      induction b with
      | nil => exact hqs
      | cons a b ihb =>
        rw [List.mem_cons, not_or] at hfree
        rw [List.cons_append, List.splitOnP_cons_eq_if_modifyHead,
          if_neg (by simpa using Ne.symm hfree.1), ihb hfree.2]
        rfl

omit [DecidableEq α] in
theorem subset_of_mem_splitOnP {p : β → Bool} {xs l : List β} (h : l ∈ xs.splitOnP p) :
    l ⊆ xs := by
  induction xs generalizing l with
  | nil =>
    rw [List.splitOnP_nil, List.mem_singleton] at h
    rw [h]
    exact List.Subset.refl []
  | cons x xs ih =>
    rw [List.splitOnP_cons_eq_if_modifyHead] at h
    split at h
    · rcases List.mem_cons.mp h with rfl | h
      · exact List.nil_subset _
      · exact List.subset_cons_of_subset x (ih h)
    · obtain ⟨l₀, ls, hsplit⟩ := List.exists_cons_of_ne_nil (List.splitOnP_ne_nil p xs)
      rw [hsplit, List.modifyHead_cons, List.mem_cons] at h
      rw [hsplit] at ih
      rcases h with rfl | h
      · exact List.cons_subset_cons x (ih List.mem_cons_self)
      · exact List.subset_cons_of_subset x (ih (List.mem_cons_of_mem l₀ h))

/-- **What is read of a text, said of its template.** -/
theorem read_render {out : List (ρ × List (List (Piece α ι)))} (hs : Worded g.word val ps)
    (h : g.foresee ps = some out) : g.read (render val ps) = out.map (found val) := by
  rw [read, lines, splitOnP_render (unbroken_of_worded hs)]
  have hlines : ∀ l ∈ ps.splitOnP (Piece.isLit g.newline), Worded g.word val l :=
    fun l hl => hs.subset (subset_of_mem_splitOnP hl)
  rw [foresee] at h
  generalize ps.splitOnP (Piece.isLit g.newline) = ls at h hlines
  induction ls generalizing out with
  | nil =>
    cases h
    rfl
  | cons l ls ih =>
    obtain ⟨r, hr, h⟩ := Option.bind_eq_some_iff.mp h
    obtain ⟨rest, hrest, rfl⟩ := Option.map_eq_some_iff.mp h
    have hl := line_of_foreseeLine (hlines l List.mem_cons_self) hr
    have hls := ih hrest fun l' hl' => hlines l' (List.mem_cons_of_mem l hl')
    rw [List.map_cons, List.map_cons]
    cases r with
    | none =>
      rw [List.filterMap_cons_none hl]
      exact hls
    | some r =>
      rw [List.filterMap_cons_some hl, hls]
      rfl

/-- No line that begins with this character is read. -/
def Skips (g : Reader α ρ) (a : α) : Prop := a ≠ g.blank ∧ ∀ s, g.line (a :: s) = none

/-- An empty line is not read. -/
def Blank (g : Reader α ρ) : Prop := g.line [] = none

/-- **Lines that begin alike** are skipped, whatever is behind. -/
theorem read_skipped (hg : g.Blank) (ha : g.Skips a) (hs : g.Unbroken val ps)
    (h : ∀ l ∈ ps.splitOnP (Piece.isLit g.newline), ∀ q ∈ l.head?, q = .lit a) :
    g.read (render val ps) = [] := by
  rw [read, lines, splitOnP_render hs, List.map_map, List.filterMap_eq_nil_iff]
  intro s hmem
  obtain ⟨l, hl, rfl⟩ := List.mem_map.mp hmem
  cases l with
  | nil => exact hg
  | cons q l =>
    obtain rfl := h _ hl q rfl
    show g.line (g.unindent (a :: render val l)) = none
    rw [unindent, List.dropWhile_cons, if_neg (by simpa using ha.1)]
    exact ha.2 _

/-! ### Texts behind each other -/

/-- The text is empty, or its last line ends. -/
def Closed (g : Reader α ρ) (s : List α) : Prop := s = [] ∨ ∃ t, s = t ++ [g.newline]

theorem closed_render (h : g.ends ps = true) : g.Closed (render val ps) := by
  rcases List.eq_nil_or_concat' ps with rfl | ⟨qs, q, rfl⟩
  · exact .inl rfl
  · rw [ends, List.foldl_append] at h
    cases q with
    | var i => cases h
    | lit a =>
      obtain rfl : a = g.newline := of_decide_eq_true h
      rw [render_append]
      exact .inr ⟨_, rfl⟩

theorem read_nil (hg : g.Blank) : g.read [] = [] := by
  rw [read, lines, List.splitOnP_nil]
  exact List.filterMap_cons_none hg

/-- **Text by text.** -/
theorem read_append (hg : g.Blank) (hs : g.Closed s) : g.read (s ++ t) = g.read s ++ g.read t := by
  rcases hs with rfl | ⟨u, rfl⟩
  · rw [read_nil hg]
    rfl
  · have hsplit : ∀ v : List α, (u ++ [g.newline] ++ v).splitOnP (· = g.newline) =
        u.splitOnP (· = g.newline) ++ v.splitOnP (· = g.newline) := by
      intro v
      rw [List.append_assoc]
      exact List.splitOnP_append_cons u v (decide_eq_true rfl)
    have hlast := hsplit []
    rw [List.append_nil, List.splitOnP_nil] at hlast
    rw [read, read, read, lines, lines, lines, hsplit, hlast, List.map_append, List.map_append,
      List.filterMap_append, List.filterMap_append]
    have hnone : ([[]].map g.unindent).filterMap g.line = [] := List.filterMap_cons_none hg
    rw [hnone, List.append_nil]

omit [DecidableEq α] in
theorem Closed.append (hs : g.Closed s) (ht : g.Closed t) : g.Closed (s ++ t) := by
  rcases ht with rfl | ⟨u, rfl⟩
  · rwa [List.append_nil]
  · exact .inr ⟨s ++ u, (List.append_assoc ..).symm⟩

end Reader

end Template
