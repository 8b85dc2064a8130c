import Remap.Files.Tree
/-!
# Offsets in bytes

A place in a text can be given by the number of bytes before it. A part of a text can be cut out only
between places where a character ends: `cutAt?` and `slice?` give nothing for all other offsets. An
ASCII character is known by its byte, since no other character begins with a byte of that kind.

Main statements: `slice?_eq_some_iff` and `firstByte_eq_iff`.
-/

namespace Remap.Text

variable {a b c cs front back : List Char} {n : Nat}

/-! ## Cutting -/

/-- A text in two parts, of which the first takes `n` bytes, if a character ends there. -/
def cutAt? : Nat → List Char → Option (List Char × List Char)
  | 0, cs => some ([], cs)
  | _ + 1, [] => none
  | n + 1, c :: cs =>
    if c.utf8Size ≤ n + 1 then
      (cutAt? (n + 1 - c.utf8Size) cs).map fun (front, back) => (c :: front, back)
    else none

/-- The part of a text between two offsets, if they are in order and a character ends at each. -/
def slice? (start stop : Nat) (cs : List Char) : Option (List Char) := do
  let (front, _) ← cutAt? stop cs
  let (_, part) ← cutAt? start front
  return part

/-- The offset of the first `d`, if there is one. -/
def offset? (d : Char) : List Char → Option Nat
  | [] => none
  | c :: cs => if c = d then some 0 else (offset? d cs).map (c.utf8Size + ·)

theorem cutAt?_cons (n : Nat) (c : Char) (cs : List Char) :
    cutAt? (c.utf8Size + n) (c :: cs) =
      (cutAt? n cs).map fun (front, back) => (c :: front, back) := by
  obtain ⟨k, hk⟩ := Nat.exists_eq_add_of_le' c.utf8Size_pos
  have hn : c.utf8Size + n = (k + n) + 1 := by omega
  have hsize : c.utf8Size ≤ (k + n) + 1 := by omega
  have hrest : (k + n) + 1 - c.utf8Size = n := by omega
  rw [hn, cutAt?, if_pos hsize, hrest]

theorem cutAt?_append (front back : List Char) :
    cutAt? (byteCount front) (front ++ back) = some (front, back) := by
  induction front with
  | nil => rw [byteCount, List.nil_append, cutAt?]
  | cons c front ih =>
    rw [byteCount, List.cons_append, cutAt?_cons, ih]
    rfl

/-- A text is cut only where a character ends. -/
theorem cutAt?_eq_some_iff :
    cutAt? n cs = some (front, back) ↔ cs = front ++ back ∧ byteCount front = n := by
  constructor
  · intro h
    fun_induction cutAt? n cs generalizing front with
    | case1 =>
      cases h
      exact ⟨rfl, rfl⟩
    | case2 => cases h
    | case3 n c cs hsize ih =>
      obtain ⟨⟨front', back'⟩, hcut, hpair⟩ := Option.map_eq_some_iff.mp h
      cases hpair
      obtain ⟨hcs, hcount⟩ := ih hcut
      refine ⟨congrArg (c :: ·) hcs, ?_⟩
      rw [byteCount]
      omega
    | case4 => cases h
  · rintro ⟨rfl, rfl⟩
    exact cutAt?_append front back

/-- A part of a text is found between the offsets at its ends, and nowhere else. -/
theorem slice?_eq_some_iff {start stop : Nat} {part : List Char} :
    slice? start stop cs = some part ↔
      ∃ a c, cs = a ++ part ++ c ∧ byteCount a = start ∧ byteCount (a ++ part) = stop := by
  unfold slice?
  constructor
  · intro h
    obtain ⟨⟨front, c⟩, hstop, h⟩ := Option.bind_eq_some_iff.mp h
    obtain ⟨⟨a, b⟩, hstart, hpart⟩ := Option.bind_eq_some_iff.mp h
    cases hpart
    obtain ⟨rfl, hb⟩ := cutAt?_eq_some_iff.mp hstop
    obtain ⟨rfl, ha⟩ := cutAt?_eq_some_iff.mp hstart
    exact ⟨a, c, rfl, ha, hb⟩
  · rintro ⟨a, c, rfl, rfl, rfl⟩
    have hstop := cutAt?_append (a ++ part) c
    have hstart := cutAt?_append a part
    exact Option.bind_eq_some_iff.mpr
      ⟨(a ++ part, c), hstop, Option.bind_eq_some_iff.mpr ⟨(a, part), hstart, rfl⟩⟩

theorem slice?_append (a b c : List Char) :
    slice? (byteCount a) (byteCount (a ++ b)) (a ++ b ++ c) = some b :=
  slice?_eq_some_iff.mpr ⟨a, c, rfl, rfl, rfl⟩

theorem slice?_front (front back : List Char) :
    slice? 0 (byteCount front) (front ++ back) = some front :=
  slice?_append [] front back

theorem slice?_back (front back : List Char) :
    slice? (byteCount front) (byteCount (front ++ back)) (front ++ back) = some back := by
  have h := slice?_append front back []
  rwa [List.append_nil] at h

theorem offset?_append {d : Char} (h : d ∉ front) (back : List Char) :
    offset? d (front ++ d :: back) = some (byteCount front) := by
  induction front with
  | nil => exact if_pos rfl
  | cons c front ih =>
    rw [List.mem_cons, not_or] at h
    rw [List.cons_append, offset?, if_neg (Ne.symm h.1), ih h.2]
    rfl

theorem offset?_of_not_mem {d : Char} (h : d ∉ cs) : offset? d cs = none := by
  induction cs with
  | nil => rfl
  | cons c cs ih =>
    rw [List.mem_cons, not_or] at h
    rw [offset?, if_neg (Ne.symm h.1), ih h.2]
    rfl

/-! ## Bytes -/

/-- The bytes of a text in UTF-8. -/
def bytes (cs : List Char) : List UInt8 := cs.flatMap String.utf8EncodeChar

theorem length_bytes (cs : List Char) : (bytes cs).length = byteCount cs := by
  induction cs with
  | nil => rfl
  | cons c cs ih =>
    rw [bytes, List.flatMap_cons, List.length_append, String.length_utf8EncodeChar, byteCount, ← ih]
    rfl

/-- The byte of an ASCII character. -/
def byte (c : Char) : UInt8 := UInt8.ofNat c.toNat

/-- The byte with which a character begins. -/
def firstByte (c : Char) : UInt8 := (String.utf8EncodeChar c).headD 0

theorem toNat_byte {c : Char} (h : c.toNat < 128) : (byte c).toNat = c.toNat := by
  rw [byte, UInt8.toNat_ofNat', Nat.mod_eq_of_lt]
  omega

theorem utf8EncodeChar_of_lt {c : Char} (h : c.toNat < 128) : String.utf8EncodeChar c = [byte c] := by
  have hle : c.val.toNat ≤ 127 := Nat.le_of_lt_succ h
  unfold String.utf8EncodeChar
  exact if_pos hle

/-- Only ASCII characters begin with a byte below 128. -/
theorem le_toNat_firstByte {c : Char} (h : 128 ≤ c.toNat) : 128 ≤ (firstByte c).toNat := by
  have hnot : ¬ c.val.toNat ≤ 127 := Nat.not_le.mpr h
  unfold firstByte String.utf8EncodeChar
  dsimp only
  rw [if_neg hnot]
  split
  · simp only [List.headD_cons, UInt8.toNat_ofNat']
    omega
  · split
    · simp only [List.headD_cons, UInt8.toNat_ofNat']
      omega
    · simp only [List.headD_cons, UInt8.toNat_ofNat']
      omega

theorem firstByte_of_lt {c : Char} (h : c.toNat < 128) : firstByte c = byte c := by
  rw [firstByte, utf8EncodeChar_of_lt h]
  rfl

/-- An ASCII character is known by its byte. -/
theorem firstByte_eq_iff {c d : Char} (hd : d.toNat < 128) : firstByte c = byte d ↔ c = d := by
  constructor
  · intro h
    have hbyte := congrArg UInt8.toNat h
    rw [toNat_byte hd] at hbyte
    by_cases hc : c.toNat < 128
    · rw [firstByte_of_lt hc, toNat_byte hc] at hbyte
      exact Char.toNat_inj.mp hbyte
    · have := le_toNat_firstByte (Nat.not_lt.mp hc)
      omega
  · rintro rfl
    exact firstByte_of_lt hd

/-- Behind an ASCII character the next one begins. -/
theorem getElem?_bytes_cons {c : Char} (hc : c.toNat < 128) (n : Nat) (cs : List Char) :
    (bytes (c :: cs))[n + 1]? = (bytes cs)[n]? := by
  rw [bytes, List.flatMap_cons, utf8EncodeChar_of_lt hc]
  rfl

theorem getElem?_bytes_zero (cs : List Char) : (bytes cs)[0]? = cs.head?.map firstByte := by
  cases cs with
  | nil => rfl
  | cons c cs =>
    obtain ⟨b, bs, hb⟩ := List.exists_cons_of_ne_nil (String.utf8EncodeChar_ne_nil (c := c))
    rw [bytes, List.flatMap_cons, List.head?_cons, Option.map_some, firstByte, hb]
    rfl

end Remap.Text
