import Remap.Path.Basic
/-!
# File trees

A tree has a directory at its top. Every other entry is a file, a directory or a link, and stands
in a directory under a name. `FileTree.at?` gives the entry at a location, and `FileTree.put` is the
one way to change a tree: it puts an entry into a directory, under a name that an entry can have and
no directory has.

Main statement: `FileTree.at?_put`, by which nothing changes at any other location.
-/

namespace Remap

/-- What a file holds: text, or bytes that are no text. -/
inductive Content
  | text (cs : List Char)
  | binary (bytes : List UInt8)
  deriving DecidableEq, Repr

def Content.ofBytes (bytes : ByteArray) : Content :=
  match String.fromUTF8? bytes with
  | some s => text s.toList
  | none => binary bytes.toList

/-- How many bytes a text takes in UTF-8. -/
def byteCount : List Char → Nat
  | [] => 0
  | c :: cs => c.utf8Size + byteCount cs

theorem byteCount_append (a b : List Char) : byteCount (a ++ b) = byteCount a + byteCount b := by
  induction a with
  | nil => simp [byteCount]
  | cons c cs ih => rw [List.cons_append, byteCount, byteCount, ih, Nat.add_assoc]

theorem length_le_byteCount (text : List Char) : text.length ≤ byteCount text := by
  induction text with
  | nil => exact Nat.le_refl _
  | cons c cs ih =>
    have := c.utf8Size_pos
    rw [List.length_cons, byteCount]
    omega

def maxNameBytes : Nat := 255

/-- A name that an entry can have. -/
structure EntryName (name : List Char) : Prop where
  idle : ¬ Path.idle name = true
  up : name ≠ ['.', '.']
  noSlash : '/' ∉ name
  short : byteCount name ≤ maxNameBytes
  noNul : '\x00' ∉ name

instance (name : List Char) : Decidable (EntryName name) :=
  decidable_of_iff
    (¬ Path.idle name = true ∧ name ≠ ['.', '.'] ∧ '/' ∉ name ∧ byteCount name ≤ maxNameBytes ∧
      '\x00' ∉ name)
    ⟨fun ⟨hi, hu, hs, hb, hn⟩ => ⟨hi, hu, hs, hb, hn⟩,
      fun ⟨hi, hu, hs, hb, hn⟩ => ⟨hi, hu, hs, hb, hn⟩⟩

inductive Node
  | file (content : Content)
  | directory
  | link (target : Path)
  deriving DecidableEq, Repr

/-- What an entry can be: no link has a NUL in its target. -/
def Node.Possible : Node → Prop
  | link target => '\x00' ∉ target.text
  | _ => True

instance : DecidablePred Node.Possible
  | .link target => inferInstanceAs (Decidable ('\x00' ∉ target.text))
  | .file _ => .isTrue trivial
  | .directory => .isTrue trivial

/-- The names that lead to an entry from the top, the innermost first. -/
abbrev Location := List (List Char)

def Location.path (l : Location) : Path := ⟨'/' :: Path.ofParts l.reverse⟩

/-- Entries at their locations, each in a directory, under a name that it can have. -/
structure FileTree where
  entries : List (Location × Node)
  distinct : (entries.map Prod.fst).Nodup
  anchored : ∀ e ∈ entries, ∃ name dir,
    e.1 = name :: dir ∧ (dir = [] ∨ (dir, Node.directory) ∈ entries)
  named : ∀ e ∈ entries, ∀ name ∈ e.1.head?, EntryName name
  possible : ∀ e ∈ entries, e.2.Possible

namespace FileTree

def empty : FileTree := ⟨[], List.nodup_nil, by simp, by simp, by simp⟩

def at? (t : FileTree) : Location → Option Node
  | [] => some .directory
  | l => t.entries.lookup l

/-- The names and entries in the directory at a location. -/
def children (t : FileTree) (dir : Location) : List (List Char × Node) :=
  t.entries.filterMap fun (l, node) =>
    match l with
    | name :: above => if above = dir then some (name, node) else none
    | [] => none

theorem mem_of_lookup {es : List (Location × Node)} {l : Location} {node : Node}
    (h : es.lookup l = some node) : (l, node) ∈ es := by
  obtain ⟨front, back, rfl, -⟩ := List.lookup_eq_some_iff.1 h
  exact List.mem_append_right front List.mem_cons_self

theorem lookup_of_mem {es : List (Location × Node)} {l : Location} {node : Node}
    (hd : (es.map Prod.fst).Nodup) (h : (l, node) ∈ es) : es.lookup l = some node := by
  induction es with
  | nil => cases h
  | cons e es ih =>
    rw [List.map_cons, List.nodup_cons] at hd
    rw [List.lookup_cons]
    rcases List.mem_cons.1 h with rfl | h
    · simp
    · have : l ≠ e.1 := by rintro rfl; exact hd.1 (List.mem_map.2 ⟨_, h, rfl⟩)
      simp [beq_false_of_ne this, ih hd.2 h]

theorem mem_entries_of_at? {t : FileTree} {l : Location} {node : Node} (hl : l ≠ [])
    (h : t.at? l = some node) : (l, node) ∈ t.entries := by
  cases l with
  | nil => exact absurd rfl hl
  | cons => exact mem_of_lookup h

theorem mem_children {t : FileTree} {dir : Location} {name : List Char} {node : Node} :
    (name, node) ∈ t.children dir ↔ t.at? (name :: dir) = some node := by
  constructor
  · intro h
    obtain ⟨⟨l, n⟩, hm, he⟩ := List.mem_filterMap.1 h
    cases l with
    | nil => simp at he
    | cons x above =>
      simp only [Option.ite_none_right_eq_some, Option.some.injEq, Prod.mk.injEq] at he
      obtain ⟨rfl, rfl, rfl⟩ := he
      exact lookup_of_mem t.distinct hm
  · intro h
    exact List.mem_filterMap.2 ⟨_, mem_of_lookup h, by simp⟩

theorem nodup_children (t : FileTree) (dir : Location) :
    ((t.children dir).map Prod.fst).Nodup := by
  have h := t.distinct
  unfold children
  generalize t.entries = es at h
  induction es with
  | nil => simp
  | cons e es ih =>
    obtain ⟨l, node⟩ := e
    rw [List.map_cons, List.nodup_cons] at h
    rw [List.filterMap_cons]
    split
    · exact ih h.2
    next x hx =>
      cases l with
      | nil => simp at hx
      | cons name above =>
        simp only [Option.ite_none_right_eq_some, Option.some.injEq] at hx
        obtain ⟨rfl, rfl⟩ := hx
        rw [List.map_cons, List.nodup_cons]
        -- another child of this name would be a second entry at one location
        refine ⟨fun hm => h.1 ?_, ih h.2⟩
        obtain ⟨c, hc, hn⟩ := List.mem_map.1 hm
        obtain ⟨⟨l, node'⟩, hl, he⟩ := List.mem_filterMap.1 hc
        cases l with
        | nil => simp at he
        | cons y ys =>
          simp only [Option.ite_none_right_eq_some, Option.some.injEq] at he
          obtain ⟨rfl, rfl⟩ := he
          cases hn
          exact List.mem_map.2 ⟨_, hl, rfl⟩

/-- Every entry stands in a directory. -/
theorem at?_tail {t : FileTree} {name : List Char} {dir : Location} {node : Node}
    (h : t.at? (name :: dir) = some node) : t.at? dir = some .directory := by
  obtain ⟨n, d, he, hd⟩ := t.anchored _ (mem_of_lookup h)
  cases he
  cases dir with
  | nil => rfl
  | cons =>
    rcases hd with hd | hd
    · cases hd
    · exact lookup_of_mem t.distinct hd

theorem entryName_of_at? {t : FileTree} {name : List Char} {dir : Location} {node : Node}
    (h : t.at? (name :: dir) = some node) : EntryName name :=
  t.named _ (mem_of_lookup h) name rfl

theorem possible_of_at? {t : FileTree} {l : Location} {node : Node} (h : t.at? l = some node) :
    node.Possible := by
  cases l with
  | nil => cases h; trivial
  | cons => exact t.possible _ (mem_of_lookup h)

/-- The tree has a place for an entry: a directory in which no directory has the name. -/
structure Admits (t : FileTree) (dir : Location) (name : List Char) (node : Node) : Prop where
  directory : t.at? dir = some .directory
  free : t.at? (name :: dir) ≠ some .directory
  named : EntryName name
  possible : node.Possible

instance (t : FileTree) (dir : Location) (name : List Char) (node : Node) :
    Decidable (t.Admits dir name node) :=
  decidable_of_iff
    (t.at? dir = some .directory ∧ t.at? (name :: dir) ≠ some .directory ∧ EntryName name ∧
      node.Possible)
    ⟨fun ⟨hd, hf, hn, hp⟩ => ⟨hd, hf, hn, hp⟩, fun ⟨hd, hf, hn, hp⟩ => ⟨hd, hf, hn, hp⟩⟩

/-- The tree with an entry put into a directory under a name. It stays as it is if it has no place
for the entry. -/
def put (t : FileTree) (dir : Location) (name : List Char) (node : Node) : FileTree :=
  if h : t.Admits dir name node then
    { entries := t.entries.filter (·.1 ≠ name :: dir) ++ [(name :: dir, node)]
      distinct := by
        rw [List.map_append, List.nodup_append]
        refine ⟨?_, by simp, ?_⟩
        · exact t.distinct.sublist (List.filter_sublist.map _)
        · intro l hl l' hl'
          obtain ⟨e, he, rfl⟩ := List.mem_map.1 hl
          have := (List.mem_filter.1 he).2
          simp_all
      anchored := by
        intro e he
        rcases List.mem_append.1 he with he | he
        · -- the entry stands in a directory that is not replaced
          obtain ⟨n, d, h1, h2⟩ := t.anchored e (List.mem_filter.1 he).1
          refine ⟨n, d, h1, h2.imp_right fun hd => List.mem_append_left _ ?_⟩
          refine List.mem_filter.2 ⟨hd, ?_⟩
          simp only [decide_eq_true_eq, ne_eq]
          rintro rfl
          exact h.free (lookup_of_mem t.distinct hd)
        · cases List.mem_singleton.1 he
          refine ⟨name, dir, rfl, ?_⟩
          by_cases hd : dir = []
          · exact .inl hd
          · refine .inr (List.mem_append_left _
              (List.mem_filter.2 ⟨mem_entries_of_at? hd h.directory, ?_⟩))
            simp
      named := List.forall_mem_append.2 ⟨fun e he => t.named e (List.mem_filter.1 he).1,
        List.forall_mem_singleton.2 fun x hx => Option.some.inj hx ▸ h.named⟩
      possible := List.forall_mem_append.2 ⟨fun e he => t.possible e (List.mem_filter.1 he).1,
        List.forall_mem_singleton.2 h.possible⟩ }
  else t

theorem lookup_filter_append {es : List (Location × Node)} {k l : Location} {node : Node} :
    (es.filter (·.1 ≠ k) ++ [(k, node)]).lookup l
      = if l = k then some node else es.lookup l := by
  induction es with
  | nil =>
    by_cases h : l = k
    · simp [h]
    · simp [List.lookup_cons, h, beq_false_of_ne h]
  | cons e es ih =>
    -- entries at `k` are dropped, the others are passed by
    by_cases he : e.1 = k
    · rw [List.filter_cons_of_neg (by simp [he]), ih, List.lookup_cons]
      by_cases h : l = k
      · simp [h]
      · have : l ≠ e.1 := by rw [he]; exact h
        simp [h, beq_false_of_ne this]
    · rw [List.filter_cons_of_pos (by simp [he]), List.cons_append, List.lookup_cons, ih,
        List.lookup_cons]
      by_cases h : l = e.1
      · subst h
        simp [he]
      · simp [beq_false_of_ne h]

/-- An entry that was put is found at its location, and nothing else has changed. -/
theorem at?_put {t : FileTree} {dir : Location} {name : List Char} {node : Node}
    (h : t.Admits dir name node) (l : Location) :
    (t.put dir name node).at? l = if l = name :: dir then some node else t.at? l := by
  cases l with
  | nil => simp [at?]
  | cons x xs => rw [put, dif_pos h]; exact lookup_filter_append

end FileTree
end Remap
