import Remap.Proofs.Files.Listing
import Remap.Proofs.Unicode.Lowercase
/-!
# Terms that are typed as they are shown

A listing compares small letters, and those of a capital sigma depend on what stands around it. So
an entry that contains a term character for character is listed if the capital sigmas of the term
end a word in what is shown exactly where they do in the term, and otherwise it can be missed.

Main statement: `FileTree.mem_listDirectory_of_typed`.
-/

namespace Remap.FileTree

variable {t : FileTree} {current l : Location} {look : Look Id} {dir root : Path} {e : Listed}
  {term before after : List Char}

theorem mem_listDirectory_iff (hdash : isDash dir = false) {text : List Char} :
    text ∈ Id.run (listDirectory look term dir root) ↔
      ∃ e ∈ Id.run (look.list dir), e.shown dir root = text ∧
        Unicode.lowercase term <:+: Unicode.lowercase text := by
  have hlist : Id.run (listDirectory look term dir root) = _ := listDirectory_of_not_dash hdash
  rw [hlist, listing_eq]
  constructor
  · intro h
    obtain ⟨e, he, rfl⟩ := List.mem_map.mp h
    obtain ⟨he, hm⟩ := List.mem_filter.mp he
    exact ⟨e, List.mem_mergeSort.mp he, rfl, mentions_iff.mp hm⟩
  · rintro ⟨e, he, rfl, hm⟩
    exact List.mem_map.mpr
      ⟨e, List.mem_filter.mpr ⟨List.mem_mergeSort.mpr he, mentions_iff.mpr hm⟩, rfl⟩

/-- An entry that contains a term as it was typed is listed, if the capital sigmas of the term are
final ones in the entry exactly where they are in the term. -/
theorem mem_listDirectory_of_typed (hdash : isDash dir = false) (hl : t.find current dir = .ok l)
    (hlook : (look.list dir).Perm (t.list current dir)) (he : t.Contains l e)
    (htyped : e.shown dir root = before ++ term ++ after)
    (hsigmas : Unicode.KeepsSigmas before term after) :
    e.shown dir root ∈ Id.run (listDirectory look term dir root) := by
  have hdelivered : e ∈ Id.run (look.list dir) := hlook.mem_iff.mpr ((mem_list hl).mpr he)
  refine (mem_listDirectory_iff hdash).mpr ⟨e, hdelivered, rfl, ?_⟩
  rw [htyped]
  exact Unicode.lowercase_infix hsigmas

/-- A directory `w` with two files, one whose name ends with a capital sigma and one in whose name a
letter follows it. -/
def sigmas : FileTree :=
  ((empty.put [] ['w'] .directory).put [['w']] ['Α', 'Σ'] (.file (.text []))).put [['w']]
    ['Α', 'Σ', 'Α'] (.file (.text []))

theorem find_sigmas : sigmas.find [] ⟨"/w".toList⟩ = .ok [['w']] := by cbv

theorem not_dash_sigmas : isDash ⟨"/w".toList⟩ = false := by decide

/-- A capital sigma between two letters is found, typed with the second of them. -/
theorem mem_listDirectory_of_typed_inner :
    isDash ⟨"/w".toList⟩ = false ∧
    sigmas.find [] ⟨"/w".toList⟩ = .ok [['w']] ∧
    sigmas.Contains [['w']] ⟨['Α', 'Σ', 'Α'], false⟩ ∧
    Listed.shown ⟨"/w".toList⟩ ⟨"/w".toList⟩ ⟨['Α', 'Σ', 'Α'], false⟩ =
      ['Α'] ++ ['Σ', 'Α'] ++ [] ∧
    Unicode.KeepsSigmas ['Α'] ['Σ', 'Α'] [] ∧
    Listed.shown ⟨"/w".toList⟩ ⟨"/w".toList⟩ ⟨['Α', 'Σ', 'Α'], false⟩ ∈
      Id.run (listDirectory (sigmas.look []) ['Σ', 'Α'] ⟨"/w".toList⟩ ⟨"/w".toList⟩) := by
  have hat : sigmas.at? [['Α', 'Σ', 'Α'], ['w']] = some (.file (.text [])) := by cbv
  have hentry : sigmas.Contains [['w']] ⟨['Α', 'Σ', 'Α'], false⟩ := ⟨_, hat, rfl⟩
  have hshown : Listed.shown ⟨"/w".toList⟩ ⟨"/w".toList⟩ ⟨['Α', 'Σ', 'Α'], false⟩ =
      ['Α'] ++ ['Σ', 'Α'] ++ [] := by cbv
  have hkeeps : Unicode.KeepsSigmas ['Α'] ['Σ', 'Α'] [] := by
    intro u v h
    cases u with
    | nil =>
      -- the letter behind the sigma makes it part of a word, whatever stands before it
      obtain ⟨-, rfl⟩ := List.cons.inj h
      simp [Unicode.endsWord, Unicode.meetsCased_alpha]
    | cons c u =>
      obtain ⟨-, h⟩ := List.cons.inj h
      have hmem : 'Σ' ∈ ['Α'] := h ▸ List.mem_append_right u List.mem_cons_self
      exact absurd hmem (by decide)
  exact ⟨not_dash_sigmas, find_sigmas, hentry, hshown, hkeeps,
    mem_listDirectory_of_typed not_dash_sigmas find_sigmas (List.Perm.refl _) hentry hshown hkeeps⟩

/-- A capital sigma that ends a name is missed when it is typed alone, where it does not end a
word. -/
theorem listDirectory_misses_final_sigma :
    isDash ⟨"/w".toList⟩ = false ∧
    sigmas.find [] ⟨"/w".toList⟩ = .ok [['w']] ∧
    sigmas.Contains [['w']] ⟨['Α', 'Σ'], false⟩ ∧
    Listed.shown ⟨"/w".toList⟩ ⟨"/w".toList⟩ ⟨['Α', 'Σ'], false⟩ = ['Α'] ++ ['Σ'] ++ [] ∧
    Listed.shown ⟨"/w".toList⟩ ⟨"/w".toList⟩ ⟨['Α', 'Σ'], false⟩ ∉
      Id.run (listDirectory (sigmas.look []) ['Σ'] ⟨"/w".toList⟩ ⟨"/w".toList⟩) := by
  have hat : sigmas.at? [['Α', 'Σ'], ['w']] = some (.file (.text [])) := by cbv
  have hshown : Listed.shown ⟨"/w".toList⟩ ⟨"/w".toList⟩ ⟨['Α', 'Σ'], false⟩ =
      ['Α'] ++ ['Σ'] ++ [] := by cbv
  refine ⟨not_dash_sigmas, find_sigmas, ⟨_, hat, rfl⟩, hshown, ?_⟩
  rw [mem_listDirectory_iff not_dash_sigmas, hshown]
  rintro ⟨-, -, -, hmentions⟩
  have hterm : Unicode.lowercase ['Σ'] = ['σ'] := by
    rw [Unicode.lowercase, Unicode.lowerFrom, if_pos rfl]
    rfl
  have hname : Unicode.lowercase (['Α'] ++ ['Σ'] ++ []) = ['α', 'ς'] := by
    show Unicode.lowerFrom [] ['Α', 'Σ'] = ['α', 'ς']
    rw [Unicode.lowerFrom, Unicode.lowerFrom, if_neg (by decide), if_pos rfl,
      Unicode.meetsCased_alpha]
    rfl
  rw [hterm, hname] at hmentions
  exact absurd hmentions (by decide)

end Remap.FileTree
