import Mathlib.Logic.ExistsUnique
import Remap.Mapping.Rule
import Remap.Proofs.Text.Replacing
/-!
# Cutting a text at a word

The pieces of a text are what a word leaves of it when it is cut out wherever it occurs, one
occurrence behind the other. A text has pieces in one way only, and a literal rule puts its
replacement between them.

Main statements: `Text.arePieces_pieces`, `Text.ArePieces.eq_pieces` and `Rule.apply_eq_join`.
-/

namespace Remap

namespace Text

variable {w cs p : List Char} {ps : List (List Char)}

/-- Texts that give `cs` when they are joined by the word `w`. Where the word follows one of them,
it stands there for the first time, and the last of them does not have it. -/
structure ArePieces (w cs : List Char) (ps : List (List Char)) : Prop where
  join_eq : join w ps = cs
  first : ∀ p ∈ ps.dropLast, FirstAt w (p ++ w) p []
  last : ∃ p, ps.getLast? = some p ∧ ¬ w <:+: p

theorem ArePieces.ne_nil (h : ArePieces w cs ps) : ps ≠ [] := by
  rintro rfl
  obtain ⟨p, hp, -⟩ := h.last
  cases hp

theorem arePieces_singleton : ArePieces w cs [p] ↔ p = cs ∧ ¬ w <:+: cs := by
  constructor
  · intro h
    obtain ⟨q, hq, habsent⟩ := h.last
    cases hq
    obtain rfl : p = cs := h.join_eq
    exact ⟨rfl, habsent⟩
  · rintro ⟨rfl, habsent⟩
    exact ⟨rfl, fun q hq => absurd hq List.not_mem_nil, p, rfl, habsent⟩

/-- Whether an occurrence is the first one does not depend on what follows it. -/
theorem firstAt_append_iff (hw : w ≠ []) (a : List Char) :
    FirstAt w (p ++ w ++ a) p a ↔ FirstAt w (p ++ w) p [] := by
  have hend := firstAt_iff_absent (b := p) (a := []) hw
  rw [List.append_nil] at hend
  rw [firstAt_iff_absent hw, hend]

/-- A piece with others behind it ends at the first occurrence of the word. -/
theorem arePieces_cons_iff (hw : w ≠ []) (hps : ps ≠ []) :
    ArePieces w cs (p :: ps) ↔ ∃ a, FirstAt w cs p a ∧ ArePieces w a ps := by
  have hdrop : (p :: ps).dropLast = p :: ps.dropLast := List.dropLast_cons_of_ne_nil hps
  have hlast : (p :: ps).getLast? = ps.getLast? := List.getLast?_cons_of_ne_nil hps
  constructor
  · intro h
    have heq : p ++ w ++ join w ps = cs := by rw [← join_cons hps, h.join_eq]
    have hfirst : FirstAt w (p ++ w) p [] := h.first p (by rw [hdrop]; exact List.mem_cons_self)
    -- a piece is first in the text if it is first in what stands before the next piece
    refine ⟨join w ps, heq ▸ (firstAt_append_iff hw _).mpr hfirst, rfl, ?_, ?_⟩
    · intro q hq
      exact h.first q (by rw [hdrop]; exact List.mem_cons_of_mem p hq)
    · rw [← hlast]
      exact h.last
  · rintro ⟨a, hfirst, h⟩
    obtain rfl := hfirst.eq
    refine ⟨by rw [join_cons hps, h.join_eq], ?_, by rw [hlast]; exact h.last⟩
    intro q hq
    rw [hdrop] at hq
    rcases List.mem_cons.mp hq with rfl | hq
    · exact (firstAt_append_iff hw a).mp hfirst
    · exact h.first q hq

/-- The pieces that are found from the left are such texts. -/
theorem arePieces_pieces (hw : w ≠ []) (cs : List Char) : ArePieces w cs (pieces w cs) := by
  induction cs using occurrence_ind hw with
  | absent cs habsent =>
    rw [pieces_of_cutFirst_none hw ((cutFirst_eq_none_iff hw).mpr habsent)]
    exact arePieces_singleton.mpr ⟨rfl, habsent⟩
  | found cs b a hfirst ih =>
    rw [pieces_of_cutFirst hw (cutFirst_eq_some_iff.mpr hfirst)]
    exact (arePieces_cons_iff hw (pieces_ne_nil w a)).mpr ⟨a, hfirst, ih⟩

/-- There are no other pieces. -/
theorem ArePieces.eq_pieces (hw : w ≠ []) (h : ArePieces w cs ps) : ps = pieces w cs := by
  induction ps generalizing cs with
  | nil => exact absurd rfl h.ne_nil
  | cons p ps ih =>
    by_cases hps : ps = []
    · subst hps
      obtain ⟨rfl, habsent⟩ := arePieces_singleton.mp h
      rw [pieces_of_cutFirst_none hw ((cutFirst_eq_none_iff hw).mpr habsent)]
    · obtain ⟨a, hfirst, hrest⟩ := (arePieces_cons_iff hw hps).mp h
      rw [pieces_of_cutFirst hw (cutFirst_eq_some_iff.mpr hfirst), ih hrest]

end Text

/-- A text has pieces around a word in exactly one way, and a literal rule gives these pieces with
its replacement, as it stands, in the places of the word. -/
theorem Rule.apply_eq_join {w : List Char} (hw : w ≠ []) (text : List Char) :
    (∃! ps, Text.ArePieces w text ps) ∧
      ∀ ps, Text.ArePieces w text ps → ∀ new,
        Rule.apply ⟨.literal w, new⟩ text = Text.join new ps := by
  constructor
  · exact ⟨_, Text.arePieces_pieces hw text, fun qs hqs => hqs.eq_pieces hw⟩
  · intro ps hps new
    rw [hps.eq_pieces hw]
    rfl

/-- The word overlaps itself, and the replacement has it and dollars too. -/
theorem Rule.apply_eq_join_overlapping_itself :
    "aba".toList ≠ [] ∧
      Text.ArePieces "aba".toList "ababa aba".toList ["".toList, "ba ".toList, "".toList] ∧
      Rule.apply ⟨.literal "aba".toList, "$&aba".toList⟩ "ababa aba".toList =
        "$&ababa $&aba".toList := by
  have hw : "aba".toList ≠ [] := by decide
  have hpieces : Text.pieces "aba".toList "ababa aba".toList =
      ["".toList, "ba ".toList, "".toList] := by cbv
  have h : Text.ArePieces "aba".toList "ababa aba".toList
      ["".toList, "ba ".toList, "".toList] := hpieces ▸ Text.arePieces_pieces hw _
  refine ⟨hw, h, ?_⟩
  rw [(Rule.apply_eq_join hw _).2 _ h]
  rfl

end Remap
