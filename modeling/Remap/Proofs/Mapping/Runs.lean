import Remap.Proofs.Mapping.Spaces
/-!
# Runs of backslashes

How an `s` in a replacement is read depends on the whole run of backslashes before it: the `s` of a
single one is a space, and a longer run loses one of its backslashes. All other runs stand for
themselves. A text is written in runs in exactly one way, each as long as it can be, and it is read
run by run.

Main statements: `unescapeSpaces_run_append` and `unescapeSpaces_inRuns`.
-/

namespace Remap

/-- A run of backslashes, perhaps an empty one, and the other character behind it. -/
structure BackslashRun where
  length : Nat
  next : Char
  next_ne : next ≠ '\\' := by decide
  deriving DecidableEq, Repr

namespace BackslashRun

/-- The run as it is written. -/
def toText (r : BackslashRun) : List Char := List.replicate r.length '\\' ++ [r.next]

/-- What the run stands for in a replacement. -/
def meaning (r : BackslashRun) : List Char :=
  if r.next = 's' ∧ r.length = 1 then [' ']
  else if r.next = 's' ∧ 2 ≤ r.length then List.replicate (r.length - 1) '\\' ++ ['s']
  else r.toText

/-- The run with one more backslash. -/
def longer (r : BackslashRun) : BackslashRun := { r with length := r.length + 1 }

theorem toText_longer (r : BackslashRun) : r.longer.toText = '\\' :: r.toText := by
  rw [toText, longer, List.replicate_succ, List.cons_append]
  rfl

end BackslashRun

/-! ## Reading a run -/

/-- The backslashes of a run with no `s` behind it stand for themselves. -/
theorem unescapeSpaces_replicate_append (n : Nat) {cs : List Char}
    (hb : cs.head? ≠ some '\\') (hs : cs.head? ≠ some 's') :
    unescapeSpaces (List.replicate n '\\' ++ cs) =
      List.replicate n '\\' ++ unescapeSpaces cs := by
  induction n with
  | zero => rfl
  | succ n ih =>
    rw [List.replicate_succ, List.cons_append, unescapeSpaces_cons, ih, List.cons_append]
    -- a backslash of the run could only be read with what follows if that were `s` or `\s`
    · rintro -
      cases n with
      | zero => exact hs
      | succ n => exact fun h => absurd (Option.some.inj h) (by decide)
    · rintro - r h
      cases n with
      | zero => exact hb (congrArg List.head? h)
      | succ n =>
        have hrest : List.replicate n '\\' ++ cs = 's' :: r := (List.cons.inj h).2
        cases n with
        | zero => exact hs (congrArg List.head? hrest)
        | succ n => exact absurd (List.cons.inj hrest).1 (by decide)

/-- Of two or more backslashes with an `s` behind them, all but the last two stand for
themselves. -/
theorem unescapeSpaces_replicate_s (n : Nat) (cs : List Char) :
    unescapeSpaces (List.replicate (n + 2) '\\' ++ 's' :: cs) =
      List.replicate (n + 1) '\\' ++ 's' :: unescapeSpaces cs := by
  induction n with
  | zero => rfl
  | succ n ih =>
    rw [List.replicate_succ, List.cons_append, unescapeSpaces_cons, ih]
    · rfl
    · exact fun _ h => absurd (Option.some.inj h) (by decide)
    · rintro - r h
      exact absurd (List.cons.inj (List.cons.inj h).2).1 (by decide)

/-- A run is read by itself, whatever comes behind it. -/
theorem unescapeSpaces_run_append (r : BackslashRun) (cs : List Char) :
    unescapeSpaces (r.toText ++ cs) = r.meaning ++ unescapeSpaces cs := by
  obtain ⟨n, c, hc⟩ := r
  have htext : (BackslashRun.mk n c hc).toText ++ cs = List.replicate n '\\' ++ c :: cs := by
    rw [BackslashRun.toText, List.append_assoc, List.singleton_append]
  have hcons : c ≠ 's' ∨ n = 0 →
      unescapeSpaces (List.replicate n '\\' ++ c :: cs) =
        List.replicate n '\\' ++ c :: unescapeSpaces cs := by
    intro h
    have hchar : unescapeSpaces (c :: cs) = c :: unescapeSpaces cs :=
      unescapeSpaces_cons (fun h => absurd h hc) (fun h => absurd h hc)
    rcases h with h | rfl
    · rw [unescapeSpaces_replicate_append, hchar]
      · exact fun he => hc (Option.some.inj he)
      · exact fun he => h (Option.some.inj he)
    · exact hchar
  rw [htext, BackslashRun.meaning]
  dsimp only
  -- one backslash before `s`, more of them, or anything else: the cases of the meaning
  split
  next h =>
    obtain ⟨rfl, rfl⟩ := h
    rfl
  next hone =>
    split
    next h =>
      obtain ⟨rfl, hn⟩ := h
      obtain ⟨k, rfl⟩ := Nat.exists_eq_add_of_le' hn
      rw [unescapeSpaces_replicate_s, List.append_assoc]
      rfl
    next htwo =>
      have hlength : c ≠ 's' ∨ n = 0 := by
        by_cases hs : c = 's'
        · have h1 : n ≠ 1 := fun hn => hone ⟨hs, hn⟩
          have h2 : ¬ 2 ≤ n := fun hn => htwo ⟨hs, hn⟩
          exact .inr (by omega)
        · exact .inl hs
      rw [hcons hlength, BackslashRun.toText, List.append_assoc]
      rfl

/-! ## Texts in runs -/

/-- A text as the runs of backslashes in it: those with another character behind them, and the
backslashes at its end. -/
structure InRuns where
  runs : List BackslashRun
  atEnd : Nat
  deriving DecidableEq, Repr

namespace InRuns

/-- The text that is written in these runs. -/
def toText (x : InRuns) : List Char :=
  x.runs.flatMap BackslashRun.toText ++ List.replicate x.atEnd '\\'

/-- What the text stands for in a replacement. -/
def meaning (x : InRuns) : List Char :=
  x.runs.flatMap BackslashRun.meaning ++ List.replicate x.atEnd '\\'

/-- The runs of a text that begins with one more backslash. -/
def longer : InRuns → InRuns
  | ⟨[], n⟩ => ⟨[], n + 1⟩
  | ⟨r :: rs, n⟩ => ⟨r.longer :: rs, n⟩

/-- The runs in a text. -/
def ofText : List Char → InRuns
  | [] => ⟨[], 0⟩
  | c :: cs =>
    if hc : c = '\\' then (ofText cs).longer
    else ⟨⟨0, c, hc⟩ :: (ofText cs).runs, (ofText cs).atEnd⟩

theorem toText_longer (x : InRuns) : x.longer.toText = '\\' :: x.toText := by
  obtain ⟨runs, n⟩ := x
  cases runs with
  | nil => exact List.replicate_succ
  | cons r rs =>
    rw [longer, toText, toText, List.flatMap_cons, r.toText_longer]
    rfl

theorem toText_ofText (text : List Char) : (ofText text).toText = text := by
  induction text with
  | nil => rfl
  | cons c cs ih =>
    rw [ofText]
    split
    next hc => rw [toText_longer, ih, hc]
    next hc => exact congrArg (c :: ·) ih

/-- The first run of a text is found, whatever comes behind it. -/
theorem ofText_run_append (r : BackslashRun) (cs : List Char) :
    ofText (r.toText ++ cs) = ⟨r :: (ofText cs).runs, (ofText cs).atEnd⟩ := by
  obtain ⟨n, c, hc⟩ := r
  induction n with
  | zero => exact dif_neg hc
  | succ n ih =>
    rw [show BackslashRun.mk (n + 1) c hc = (BackslashRun.mk n c hc).longer from rfl,
      BackslashRun.toText_longer, List.cons_append, ofText, dif_pos rfl, ih]
    rfl

theorem ofText_replicate (n : Nat) : ofText (List.replicate n '\\') = ⟨[], n⟩ := by
  induction n with
  | zero => rfl
  | succ n ih =>
    rw [List.replicate_succ, ofText, dif_pos rfl, ih]
    rfl

/-- A text is written in no other runs than its own. -/
theorem ofText_toText (x : InRuns) : ofText x.toText = x := by
  obtain ⟨runs, n⟩ := x
  induction runs with
  | nil => exact ofText_replicate n
  | cons r rs ih =>
    have htext : (InRuns.mk (r :: rs) n).toText = r.toText ++ (InRuns.mk rs n).toText := by
      rw [toText, List.flatMap_cons, List.append_assoc]
      rfl
    rw [htext, ofText_run_append, ih]

/-- A text is read run by run. -/
theorem unescapeSpaces_toText (x : InRuns) : unescapeSpaces x.toText = x.meaning := by
  obtain ⟨runs, n⟩ := x
  rw [toText, meaning]
  induction runs with
  | nil =>
    have hend := @unescapeSpaces_replicate_append n [] nofun nofun
    rwa [List.append_nil, unescapeSpaces, List.append_nil] at hend
  | cons r rs ih =>
    rw [List.flatMap_cons, List.append_assoc, unescapeSpaces_run_append, ih, List.flatMap_cons,
      List.append_assoc]

end InRuns

/-- Every text is written in runs of backslashes in exactly one way, and a replacement stands for
what its runs stand for, one after the other. -/
theorem unescapeSpaces_inRuns (text : List Char) :
    ∃ x : InRuns, x.toText = text ∧ (∀ y : InRuns, y.toText = text → y = x) ∧
      unescapeSpaces text = x.meaning := by
  refine ⟨.ofText text, InRuns.toText_ofText text, ?_, ?_⟩
  · rintro y rfl
    exact (InRuns.ofText_toText y).symm
  · rw [← InRuns.unescapeSpaces_toText, InRuns.toText_ofText]

end Remap
