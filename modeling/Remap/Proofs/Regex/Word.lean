import Remap.Proofs.Regex.Iteration
import Remap.Proofs.Text.Search
/-!
# Looking for a word

An expression that is a row of characters becomes a chain of instructions, one for each of them. A
run along such a chain succeeds where the word stands in the text and nowhere else, and what a run
that failed leaves behind as tried cannot make a later one fail. So a search finds the first
occurrence of the word.

Main statements: `spells_ofNode` and `find_eq_cutFirst`.
-/

namespace Remap.Regex

/-! ## Chains of instructions -/

/-- From the instruction `pc` a program reads the word `w` and accepts. -/
inductive Spells (p : Program) : List Char → Nat → Prop
  | accept {pc : Nat} : p[pc]? = some .accept → Spells p [] pc
  | char {c : Char} {w : List Char} {pc next : Nat} :
      p[pc]? = some (.char c next) → Spells p w next → Spells p (c :: w) pc

/-- The expression of a word. -/
def Node.word (w : List Char) : Node := .concat (w.map .char)

theorem getElem?_push_of_some {p : Program} {pc : Nat} {i j : Instr} (h : p[pc]? = some i) :
    (p.push j)[pc]? = some i := by
  have hlt := (Array.getElem?_eq_some_iff.mp h).1
  rw [Array.getElem?_push, if_neg (by omega), h]

theorem Spells.push {p : Program} {w : List Char} {pc : Nat} (h : Spells p w pc) (i : Instr) :
    Spells (p.push i) w pc := by
  induction h with
  | accept h => exact .accept (getElem?_push_of_some h)
  | char h _ ih => exact .char (getElem?_push_of_some h) ih

theorem Spells.cons {p : Program} {w : List Char} {pc : Nat} (h : Spells p w pc) (c : Char) :
    Spells (p.push (.char c pc)) (c :: w) p.size := by
  refine .char ?_ (h.push _)
  rw [Array.getElem?_push, if_pos rfl]

/-- Writing a word in front of a chain gives a chain. -/
theorem spells_emit {p : Program} {w : List Char} {pc : Nat} (h : Spells p w pc) (v : List Char) :
    Spells ((Node.word v).emit pc p).2 (v ++ w) ((Node.word v).emit pc p).1 := by
  induction v with
  | nil => exact h
  | cons c v ih =>
    cases v with
    | nil => exact h.cons c
    | cons d v => exact ih.cons c

/-- The automaton of a word is a chain that reads it. -/
theorem spells_ofNode (w : List Char) :
    Spells (Automaton.ofNode (.word w)).program w (Automaton.ofNode (.word w)).entry := by
  have h : Spells #[.accept] [] 0 := .accept rfl
  have := spells_emit h w
  rw [List.append_nil] at this
  exact this

/-- From an instruction one word is read at most. -/
theorem Spells.unique {p : Program} {v w : List Char} {pc : Nat} (hv : Spells p v pc)
    (hw : Spells p w pc) : v = w := by
  induction hv generalizing w with
  | accept h =>
    cases hw with
    | accept => rfl
    | char h' => rw [h] at h'; cases h'
  | char h _ ih =>
    cases hw with
    | accept h' => rw [h] at h'; cases h'
    | char h' hw =>
      rw [h] at h'
      cases h'
      rw [ih hw]

/-! ## Running along a chain -/

variable {p : Program} {text : Array Char}

/-- A word stands at a place of the text if its first character does, and the rest behind it. -/
theorem cons_prefix_drop_iff {c : Char} {w : List Char} {pos : Nat} :
    c :: w <+: text.toList.drop pos ↔ text[pos]? = some c ∧ w <+: text.toList.drop (pos + 1) := by
  rw [← Array.getElem?_toList]
  cases hd : text.toList.drop pos with
  | nil =>
    have : text.toList[pos]? = none := List.getElem?_eq_none (List.drop_eq_nil_iff.mp hd)
    simp [this]
  | cons d ds =>
    have hhead : text.toList[pos]? = some d := by
      rw [← List.head?_drop, hd]
      rfl
    have htail : text.toList.drop (pos + 1) = ds := by
      rw [← List.tail_drop, hd]
      rfl
    rw [List.cons_prefix_cons, hhead, htail, Option.some.injEq, eq_comm]

/-- Whatever has been tried at `pos` or later reads a word that does not stand there. -/
def Barren (p : Program) (text : Array Char) (pos : Nat) (tried : Tried) : Prop :=
  ∀ pc q w, (pc, q) ∈ tried → pos ≤ q → Spells p w pc → ¬ w <+: text.toList.drop q

theorem barren_empty (p : Program) (text : Array Char) (pos : Nat) : Barren p text pos ∅ := by
  intro pc q w h
  exact absurd h Std.HashSet.not_mem_empty

theorem Barren.mono {pos pos' : Nat} {tried : Tried} (h : Barren p text pos tried)
    (hle : pos ≤ pos') : Barren p text pos' tried :=
  fun pc q w hm hq => h pc q w hm (Nat.le_trans hle hq)

/-- What is tried at a place does not count further on. -/
theorem Barren.insert_lt {pos pc at' : Nat} {tried : Tried} (h : Barren p text pos tried)
    (hlt : at' < pos) : Barren p text pos (tried.insert (pc, at')) := by
  intro pc' q w hm hq
  rcases Std.HashSet.mem_insert.mp hm with he | hm
  · have := beq_iff_eq.mp he
    cases this
    omega
  · exact h pc' q w hm hq

/-- What reads a word that does not stand there may be tried. -/
theorem Barren.insert_failing {pos pc at' : Nat} {tried : Tried} {w : List Char}
    (h : Barren p text pos tried) (hw : Spells p w pc) (hf : ¬ w <+: text.toList.drop at') :
    Barren p text pos (tried.insert (pc, at')) := by
  intro pc' q v hm hq hv
  rcases Std.HashSet.mem_insert.mp hm with he | hm
  · have := beq_iff_eq.mp he
    cases this
    rw [hv.unique hw]
    exact hf
  · exact h pc' q v hm hq hv

/-- A run along a chain fails where its word does not stand, and leaves nothing behind that could
hinder another. -/
theorem explore_of_not_isPrefix {w : List Char} {pc pos from' : Nat} {tried : Tried} (fuel : Nat)
    (marks : Marks) (hw : Spells p w pc) (hf : ¬ w <+: text.toList.drop pos)
    (hb : Barren p text from' tried) :
    ∃ tried', explore p text fuel pc pos marks tried = (none, tried') ∧
      Barren p text from' tried' := by
  -- what is tried on the way reads a rest of the word that does not stand there either
  induction fuel generalizing w pc pos tried with
  | zero => exact ⟨tried, rfl, hb⟩
  | succ fuel ih =>
    rw [explore]
    split
    · exact ⟨tried, rfl, hb⟩
    · have hb' := hb.insert_failing hw hf
      cases hw with
      | accept => exact absurd List.nil_prefix hf
      | @char c w _ next hc hnext =>
        rw [hc]
        dsimp only
        split
        next hpos =>
          have hf' : ¬ w <+: text.toList.drop (pos + 1) :=
            fun h => hf (cons_prefix_drop_iff.mpr ⟨hpos, h⟩)
          exact ih hnext hf' hb'
        next => exact ⟨_, rfl, hb'⟩

/-- A run along a chain succeeds where its word stands. -/
theorem explore_of_isPrefix {w : List Char} {fuel pc pos : Nat} {tried : Tried} (marks : Marks)
    (hw : Spells p w pc) (hp : w <+: text.toList.drop pos) (hb : Barren p text pos tried)
    (hfuel : w.length < fuel) :
    ∃ tried', explore p text fuel pc pos marks tried = (some (pos + w.length, marks), tried') := by
  -- nothing that was tried can be in the way: it would have to read the same word
  induction hw generalizing fuel pos tried with
  | @accept pc hc =>
    cases fuel with
    | zero => cases hfuel
    | succ fuel =>
      have hnew : ¬ tried.contains (pc, pos) = true :=
        fun h => hb pc pos [] h (Nat.le_refl _) (.accept hc) List.nil_prefix
      rw [explore, if_neg hnew, hc]
      exact ⟨_, rfl⟩
  | @char c w pc next hc hw ih =>
    cases fuel with
    | zero => cases hfuel
    | succ fuel =>
      have hnew : ¬ tried.contains (pc, pos) = true :=
        fun h => hb pc pos (c :: w) h (Nat.le_refl _) (.char hc hw) hp
      obtain ⟨hpos, hp'⟩ := cons_prefix_drop_iff.mp hp
      have hb' : Barren p text (pos + 1) (tried.insert (pc, pos)) :=
        (hb.mono (Nat.le_succ pos)).insert_lt (Nat.lt_succ_self pos)
      have hfuel' : w.length < fuel := by simpa using hfuel
      obtain ⟨tried', h⟩ := ih hp' hb' hfuel'
      rw [explore, if_neg hnew, hc]
      dsimp only
      rw [if_pos hpos, h, List.length_cons, Nat.add_assoc, Nat.add_comm 1]
      exact ⟨tried', rfl⟩

/-! ## Searching -/

/-- The occurrence of a word `n` characters long that stands behind `k` characters from `start`. -/
def Match.after (start n k : Nat) : Match where
  start := start + k
  stop := start + k + n

namespace Automaton

variable {a : Automaton} {w : List Char}

/-- The fuel of a search is enough for any word that stands in the text. -/
theorem length_lt_fuel {pos : Nat} (hw : Spells a.program w a.entry)
    (hp : w <+: text.toList.drop pos) : w.length < a.fuel text := by
  have hle : w.length ≤ text.size := by
    have hlen := hp.length_le
    have hsize : text.toList.length = text.size := Array.length_toList
    rw [List.length_drop, hsize] at hlen
    omega
  have hpos : 0 < a.program.size := by
    cases hw with
    | accept h => exact Nat.zero_lt_of_lt (Array.getElem?_eq_some_iff.mp h).1
    | char h _ => exact Nat.zero_lt_of_lt (Array.getElem?_eq_some_iff.mp h).1
  have : 1 * (text.size + 1) ≤ a.program.size * (text.size + 1) := Nat.mul_le_mul_right _ hpos
  unfold fuel
  omega

/-- From place to place the first occurrence of the word is found. -/
theorem findAmong_eq_cutFirst {count start : Nat} {tried : Tried}
    (hw : Spells a.program w a.entry) (hne : w ≠ [])
    (hcount : text.size + 1 ≤ start + count) (hb : Barren a.program text start tried) :
    a.findAmong text count start tried =
      (Text.cutFirst w (text.toList.drop start)).map
        fun x => .after start w.length x.1.length := by
  induction count generalizing start tried with
  | zero =>
    rw [List.drop_eq_nil_of_le (by rw [Array.length_toList]; omega), Text.cutFirst_nil hne]
    rfl
  | succ count ih =>
    rw [findAmong]
    -- a start without the word leaves traces that do not matter for later ones
    by_cases hp : w <+: text.toList.drop start
    · obtain ⟨tried', h⟩ :=
        explore_of_isPrefix [] hw hp hb (length_lt_fuel hw hp)
      rw [h, Text.cutFirst_of_isPrefix hp]
      rfl
    · obtain ⟨tried', h, hb'⟩ :=
        explore_of_not_isPrefix (a.fuel text) [] hw hp hb
      rw [h]
      dsimp only
      rw [ih (by omega) (hb'.mono (Nat.le_succ start))]
      cases hd : text.toList.drop start with
      | nil =>
        rw [← List.tail_drop, hd]
        simp [Text.cutFirst_nil hne]
      | cons c cs =>
        rw [hd] at hp
        rw [← List.tail_drop, hd, List.tail_cons, Text.cutFirst_cons_of_not_isPrefix hp,
          Option.map_map]
        congr 1
        funext x
        simp only [Match.after, Function.comp_apply, List.length_cons, Match.mk.injEq, and_true]
        omega

/-- A search finds the first occurrence of the word. -/
theorem find_eq_cutFirst (hw : Spells a.program w a.entry) (hne : w ≠ []) (start : Nat) :
    a.find text start =
      (Text.cutFirst w (text.toList.drop start)).map
        fun x => .after start w.length x.1.length :=
  findAmong_eq_cutFirst hw hne (by omega) (barren_empty _ _ _)

/-- No occurrence of the word is passed over for being empty. -/
theorem findNext_eq_cutFirst (hw : Spells a.program w a.entry) (hne : w ≠ []) (start : Nat)
    (last : Option Nat) :
    a.findNext text start last =
      (Text.cutFirst w (text.toList.drop start)).map
        fun x => .after start w.length x.1.length := by
  have hlen : 0 < w.length := List.length_pos_iff.mpr hne
  rw [findNext, find_eq_cutFirst hw hne]
  cases Text.cutFirst w (text.toList.drop start) with
  | none => rfl
  | some x =>
    have hstop : ¬ (Match.after start w.length x.1.length).start =
        (Match.after start w.length x.1.length).stop := by
      simp only [Match.after]
      omega
    simp only [Option.map_some]
    rw [if_neg fun h => hstop h.1]

end Automaton
end Remap.Regex
