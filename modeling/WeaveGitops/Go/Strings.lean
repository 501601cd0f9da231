import Mathlib.Data.List.Basic

/-!
# Go strings and `unicode/utf8`

A Go `string` is a sequence of bytes with no promise of being UTF-8: a query parameter can
carry any bytes once it is percent-decoded. The model keeps strings as byte lists, and the
parts of `unicode/utf8` the JSON codec of the auth server relies on:

* `decodeRune` is `utf8.DecodeRune`: the rune at the start of a byte slice and its size, or
  `RuneError` of size 1 on a byte that starts no UTF-8 sequence;
* `encodeRune` is `utf8.EncodeRune`;
* `runes s` lists what the loop `for i < len(s) { r, size := DecodeRune(s[i:]); …; i += size }`
  visits, which is how `encoding/json` walks a string (`flatMap_snd_runes`: the pieces put
  back together are `s`);
* `coerceUTF8 s` is `s` with each byte that starts no sequence replaced by the encoding of
  U+FFFD, what `encoding/json` makes of a string (`coerceUTF8_of_validString`: nothing changes
  for valid UTF-8).

The central fact is `decodeRune_piece`: what `decodeRune` takes from a string is a single byte
or a valid sequence, which decodes the same whatever follows it and which `encodeRune` gives
back.
-/

namespace WeaveGitops.Go

/-- A byte, Go's `byte` (`uint8`). -/
abbrev Byte := Fin 256

/-- A Go `string` or `[]byte`: bytes, not necessarily UTF-8. -/
abbrev GoString := List Byte

/-- Go's conversion `byte(n)`, which keeps the low eight bits. -/
def byte (n : Nat) : Byte := Fin.ofNat n

/-- The byte of an ASCII character. -/
def ch (c : Char) : Byte := ⟨c.toNat % 256, Nat.mod_lt _ (by decide)⟩

/-- The bytes of an ASCII string literal. -/
def lit (s : String) : GoString := s.toList.map ch

@[simp] theorem byte_val (n : Nat) : (byte n).val = n % 256 := rfl

@[simp] theorem ch_val (c : Char) : (ch c).val = c.toNat % 256 := rfl

/-- The bytes of a literal of ASCII characters are ASCII; the premise is decided on the
literal's characters. -/
theorem lit_ascii {s : String} (h : s.toList.all (·.toNat < 0x80)) :
    ∀ b ∈ lit s, b.val < 0x80 := by
  intro b hb
  obtain ⟨c, hc, rfl⟩ := List.mem_map.1 hb
  have hc := of_decide_eq_true (List.all_eq_true.1 h c hc)
  rw [ch_val, Nat.mod_eq_of_lt (by omega)]
  exact hc

@[simp] theorem byte_val_self (b : Byte) : byte b.val = b :=
  Fin.ext (Nat.mod_eq_of_lt b.isLt)

/-- The bytes `"` and `\`, which JSON escapes and Go writes as character literals. -/
def quoteByte : Byte := 0x22

/-- The byte `\`. -/
def backslash : Byte := 0x5C

/-- A Go `error`, by the text its `Error()` method returns. -/
structure GoError where
  msg : GoString
  deriving DecidableEq

/-- A run-time panic, by its message. -/
structure GoPanic where
  msg : GoString
  deriving DecidableEq

/-- The panic of a method call whose receiver is a nil pointer that the method dereferences. -/
def nilDereference : GoPanic :=
  ⟨lit "runtime error: invalid memory address or nil pointer dereference"⟩

/-! ## Decoding and encoding runes -/

/-- `utf8.RuneError`, U+FFFD. Runes (Go's `rune`, a code point) are natural numbers here: the
runes of this model are never negative. -/
def RuneError : Nat := 0xFFFD

/-- The least value the second byte of a sequence led by `b` may take, Go's `acceptRanges`
(which excludes overlong encodings). -/
def acceptLo (b : Byte) : Nat :=
  if b.val = 0xE0 then 0xA0 else if b.val = 0xF0 then 0x90 else 0x80

/-- The greatest value the second byte of a sequence led by `b` may take (which excludes
surrogates and values past U+10FFFF). -/
def acceptHi (b : Byte) : Nat :=
  if b.val = 0xED then 0x9F else if b.val = 0xF4 then 0x8F else 0xBF

/-- `utf8.DecodeRune`: the rune at the start of `p` and its size. Go reads the size and the
accept range of a leading byte from its `first` table: size 2 for `0xC2 .. 0xDF`, 3 for
`0xE0 .. 0xEF`, 4 for `0xF0 .. 0xF4`, none for the other bytes of `0x80` or more. The masks
`p0 & mask2` and `b & maskx` are written as remainders, the shifts as products. -/
def decodeRune : GoString → Nat × Nat
  | [] => (RuneError, 0)
  | p0 :: p =>
    if p0.val < 0x80 then (p0.val, 1)
    else if p0.val < 0xC2 ∨ 0xF4 < p0.val then (RuneError, 1)
    else match p with
      | [] => (RuneError, 1)
      | b1 :: p =>
        if b1.val < acceptLo p0 ∨ acceptHi p0 < b1.val then (RuneError, 1)
        else if p0.val ≤ 0xDF then (p0.val % 0x20 * 0x40 + b1.val % 0x40, 2)
        else match p with
          | [] => (RuneError, 1)
          | b2 :: p =>
            if b2.val < 0x80 ∨ 0xBF < b2.val then (RuneError, 1)
            else if p0.val ≤ 0xEF then
              (p0.val % 0x10 * 0x1000 + b1.val % 0x40 * 0x40 + b2.val % 0x40, 3)
            else match p with
              | [] => (RuneError, 1)
              | b3 :: _ =>
                if b3.val < 0x80 ∨ 0xBF < b3.val then (RuneError, 1)
                else (p0.val % 8 * 0x40000 + b1.val % 0x40 * 0x1000 + b2.val % 0x40 * 0x40 +
                  b3.val % 0x40, 4)

/-- The three bytes of a rune of `0x800 .. 0xFFFF`. -/
def encodeRune3 (r : Nat) : GoString :=
  [byte (0xE0 + r / 0x1000), byte (0x80 + r / 0x40 % 0x40), byte (0x80 + r % 0x40)]

/-- `utf8.EncodeRune`: the UTF-8 bytes of `r`, those of `RuneError` for a surrogate or a value
past U+10FFFF. The `|` of disjoint bits is written as `+`. -/
def encodeRune (r : Nat) : GoString :=
  if r ≤ 0x7F then [byte r]
  else if r ≤ 0x7FF then [byte (0xC0 + r / 0x40), byte (0x80 + r % 0x40)]
  else if 0x10FFFF < r ∨ (0xD800 ≤ r ∧ r ≤ 0xDFFF) then encodeRune3 RuneError
  else if r ≤ 0xFFFF then encodeRune3 r
  else [byte (0xF0 + r / 0x40000), byte (0x80 + r / 0x1000 % 0x40),
    byte (0x80 + r / 0x40 % 0x40), byte (0x80 + r % 0x40)]

theorem acceptLo_spec (b : Byte) : 0x80 ≤ acceptLo b ∧ (b.val = 0xE0 → acceptLo b = 0xA0) ∧
    (b.val = 0xF0 → acceptLo b = 0x90) := by
  unfold acceptLo; split_ifs <;> omega

theorem acceptHi_spec (b : Byte) : acceptHi b ≤ 0xBF ∧ (b.val = 0xED → acceptHi b = 0x9F) ∧
    (b.val = 0xF4 → acceptHi b = 0x8F) := by
  unfold acceptHi; split_ifs <;> omega

/-! ### Valid sequences, forwards -/

section Sequences

variable {p0 b1 b2 b3 : Byte}

theorem decodeRune_rune2 (t : GoString) (h0 : 0xC2 ≤ p0.val) (h0' : p0.val ≤ 0xDF)
    (h1 : acceptLo p0 ≤ b1.val) (h1' : b1.val ≤ acceptHi p0) :
    decodeRune (p0 :: b1 :: t) = (p0.val % 0x20 * 0x40 + b1.val % 0x40, 2) := by
  have c0 : ¬p0.val < 0x80 := by omega
  have c1 : ¬(p0.val < 0xC2 ∨ 0xF4 < p0.val) := by omega
  have c2 : ¬(b1.val < acceptLo p0 ∨ acceptHi p0 < b1.val) := by omega
  simp only [decodeRune, c0, c1, c2, h0', if_false, if_true]

theorem decodeRune_rune3 (t : GoString) (h0 : 0xDF < p0.val) (h0' : p0.val ≤ 0xEF)
    (h1 : acceptLo p0 ≤ b1.val) (h1' : b1.val ≤ acceptHi p0) (h2 : 0x80 ≤ b2.val)
    (h2' : b2.val ≤ 0xBF) :
    decodeRune (p0 :: b1 :: b2 :: t) =
      (p0.val % 0x10 * 0x1000 + b1.val % 0x40 * 0x40 + b2.val % 0x40, 3) := by
  have c0 : ¬p0.val < 0x80 := by omega
  have c1 : ¬(p0.val < 0xC2 ∨ 0xF4 < p0.val) := by omega
  have c2 : ¬(b1.val < acceptLo p0 ∨ acceptHi p0 < b1.val) := by omega
  have c3 : ¬p0.val ≤ 0xDF := by omega
  have c4 : ¬(b2.val < 0x80 ∨ 0xBF < b2.val) := by omega
  simp only [decodeRune, c0, c1, c2, c3, c4, h0', if_false, if_true]

theorem decodeRune_rune4 (t : GoString) (h0 : 0xEF < p0.val) (h0' : p0.val ≤ 0xF4)
    (h1 : acceptLo p0 ≤ b1.val) (h1' : b1.val ≤ acceptHi p0) (h2 : 0x80 ≤ b2.val)
    (h2' : b2.val ≤ 0xBF) (h3 : 0x80 ≤ b3.val) (h3' : b3.val ≤ 0xBF) :
    decodeRune (p0 :: b1 :: b2 :: b3 :: t) = (p0.val % 8 * 0x40000 + b1.val % 0x40 * 0x1000 +
      b2.val % 0x40 * 0x40 + b3.val % 0x40, 4) := by
  have c0 : ¬p0.val < 0x80 := by omega
  have c1 : ¬(p0.val < 0xC2 ∨ 0xF4 < p0.val) := by omega
  have c2 : ¬(b1.val < acceptLo p0 ∨ acceptHi p0 < b1.val) := by omega
  have c3 : ¬p0.val ≤ 0xDF := by omega
  have c4 : ¬(b2.val < 0x80 ∨ 0xBF < b2.val) := by omega
  have c5 : ¬p0.val ≤ 0xEF := by omega
  have c6 : ¬(b3.val < 0x80 ∨ 0xBF < b3.val) := by omega
  simp only [decodeRune, c0, c1, c2, c3, c4, c5, c6, if_false]

theorem encodeRune_two {r : Nat} (h1 : 0x7F < r) (h2 : r ≤ 0x7FF) :
    encodeRune r = [byte (0xC0 + r / 0x40), byte (0x80 + r % 0x40)] := by
  rw [encodeRune, if_neg (show ¬r ≤ 0x7F by omega), if_pos h2]

theorem encodeRune_three {r : Nat} (h1 : 0x7FF < r) (h2 : r ≤ 0xFFFF)
    (h3 : r < 0xD800 ∨ 0xDFFF < r) : encodeRune r = encodeRune3 r := by
  rw [encodeRune, if_neg (show ¬r ≤ 0x7F by omega), if_neg (show ¬r ≤ 0x7FF by omega),
    if_neg (show ¬(0x10FFFF < r ∨ (0xD800 ≤ r ∧ r ≤ 0xDFFF)) by omega), if_pos h2]

theorem encodeRune_four {r : Nat} (h1 : 0xFFFF < r) (h2 : r ≤ 0x10FFFF) :
    encodeRune r = [byte (0xF0 + r / 0x40000), byte (0x80 + r / 0x1000 % 0x40),
      byte (0x80 + r / 0x40 % 0x40), byte (0x80 + r % 0x40)] := by
  rw [encodeRune, if_neg (show ¬r ≤ 0x7F by omega), if_neg (show ¬r ≤ 0x7FF by omega),
    if_neg (show ¬(0x10FFFF < r ∨ (0xD800 ≤ r ∧ r ≤ 0xDFFF)) by omega),
    if_neg (show ¬r ≤ 0xFFFF by omega)]

theorem encodeRune_rune2 (h0 : 0xC2 ≤ p0.val) (h0' : p0.val ≤ 0xDF) (h1 : 0x80 ≤ b1.val)
    (h1' : b1.val ≤ 0xBF) : encodeRune (p0.val % 0x20 * 0x40 + b1.val % 0x40) = [p0, b1] := by
  rw [encodeRune_two] <;> try omega
  simp only [List.cons.injEq, Fin.ext_iff, byte_val, and_true]
  constructor <;> omega

theorem encodeRune_rune3 (h0 : 0xE0 ≤ p0.val) (h0' : p0.val ≤ 0xEF) (h1 : 0x80 ≤ b1.val)
    (h1' : b1.val ≤ 0xBF) (hE0 : p0.val = 0xE0 → 0xA0 ≤ b1.val)
    (hED : p0.val = 0xED → b1.val ≤ 0x9F) (h2 : 0x80 ≤ b2.val) (h2' : b2.val ≤ 0xBF) :
    encodeRune (p0.val % 0x10 * 0x1000 + b1.val % 0x40 * 0x40 + b2.val % 0x40) =
      [p0, b1, b2] := by
  rw [encodeRune_three] <;> try omega
  simp only [encodeRune3, List.cons.injEq, Fin.ext_iff, byte_val, and_true]
  clear hE0 hED
  refine ⟨?_, ?_, ?_⟩ <;> omega

theorem encodeRune_rune4 (h0 : 0xF0 ≤ p0.val) (h0' : p0.val ≤ 0xF4) (h1 : 0x80 ≤ b1.val)
    (h1' : b1.val ≤ 0xBF) (hF0 : p0.val = 0xF0 → 0x90 ≤ b1.val)
    (hF4 : p0.val = 0xF4 → b1.val ≤ 0x8F) (h2 : 0x80 ≤ b2.val) (h2' : b2.val ≤ 0xBF)
    (h3 : 0x80 ≤ b3.val) (h3' : b3.val ≤ 0xBF) :
    encodeRune (p0.val % 8 * 0x40000 + b1.val % 0x40 * 0x1000 + b2.val % 0x40 * 0x40 +
      b3.val % 0x40) = [p0, b1, b2, b3] := by
  rw [encodeRune_four] <;> try omega
  simp only [List.cons.injEq, Fin.ext_iff, byte_val, and_true]
  clear hF0 hF4
  refine ⟨?_, ?_, ?_, ?_⟩ <;> omega

end Sequences

/-! ### What `decodeRune` finds -/

/-- What `decodeRune` finds at the start of a string, with the bytes it takes: an ASCII byte, a
byte that starts no sequence (`RuneError`), or a valid sequence of two to four bytes, which
decodes the same whatever follows it and which `encodeRune` gives back. -/
inductive Piece : Nat × GoString → Prop
  | ascii {b : Byte} : b.val < 0x80 → Piece (b.val, [b])
  | invalid {b : Byte} : 0x80 ≤ b.val → Piece (RuneError, [b])
  | multi {r : Nat} {p0 : Byte} {bs : GoString} : 0xC2 ≤ p0.val → bs ≠ [] →
      bs.length ≤ 3 → encodeRune r = p0 :: bs →
      (∀ t, decodeRune (p0 :: bs ++ t) = (r, bs.length + 1)) → Piece (r, p0 :: bs)

theorem piece_invalid_take (p0 : Byte) (p : GoString) (h : 0x80 ≤ p0.val) :
    Piece (RuneError, (p0 :: p).take 1) ∧ 1 ≤ 1 ∧ 1 ≤ (p0 :: p).length :=
  ⟨.invalid h, le_refl _, by simp⟩

/-- **`decodeRune` on a non-empty string** takes one to all of its bytes, and what it takes is
a `Piece`. -/
theorem decodeRune_piece {s : GoString} (hs : s ≠ []) :
    Piece ((decodeRune s).1, s.take (decodeRune s).2) ∧ 1 ≤ (decodeRune s).2 ∧
      (decodeRune s).2 ≤ s.length := by
  obtain ⟨p0, p, rfl⟩ := List.exists_cons_of_ne_nil hs
  obtain ⟨hlo, hE0, hF0⟩ := acceptLo_spec p0
  obtain ⟨hhi, hED, hF4⟩ := acceptHi_spec p0
  by_cases c0 : p0.val < 0x80
  · simp only [decodeRune, c0, if_true, List.take_succ_cons, List.take_zero]
    exact ⟨.ascii c0, le_refl _, by simp⟩
  have bad := piece_invalid_take p0 p (by omega)
  by_cases c1 : p0.val < 0xC2 ∨ 0xF4 < p0.val
  · simpa only [decodeRune, c0, c1, if_true, if_false] using bad
  rcases p with _ | ⟨b1, p⟩
  · simpa only [decodeRune, c0, c1, if_false] using bad
  by_cases c2 : b1.val < acceptLo p0 ∨ acceptHi p0 < b1.val
  · simpa only [decodeRune, c0, c1, c2, if_true, if_false] using bad
  by_cases c3 : p0.val ≤ 0xDF
  · rw [decodeRune_rune2 p (by omega) c3 (by omega) (by omega)]
    refine ⟨.multi (by omega) (List.cons_ne_nil _ _) (by simp)
      (encodeRune_rune2 (by omega) c3 (by omega) (by omega))
      (fun t => decodeRune_rune2 t (by omega) c3 (by omega) (by omega)), by omega, by simp⟩
  rcases p with _ | ⟨b2, p⟩
  · simpa only [decodeRune, c0, c1, c2, c3, if_false] using bad
  by_cases c4 : b2.val < 0x80 ∨ 0xBF < b2.val
  · simpa only [decodeRune, c0, c1, c2, c3, c4, if_true, if_false] using bad
  by_cases c5 : p0.val ≤ 0xEF
  · rw [decodeRune_rune3 p (by omega) c5 (by omega) (by omega) (by omega) (by omega)]
    refine ⟨.multi (by omega) (List.cons_ne_nil _ _) (by simp)
      (encodeRune_rune3 (by omega) c5 (by omega) (by omega) (by omega) (by omega) (by omega)
        (by omega))
      (fun t => decodeRune_rune3 t (by omega) c5 (by omega) (by omega) (by omega) (by omega)),
      by omega, by simp⟩
  rcases p with _ | ⟨b3, p⟩
  · simpa only [decodeRune, c0, c1, c2, c3, c4, c5, if_false] using bad
  by_cases c6 : b3.val < 0x80 ∨ 0xBF < b3.val
  · simpa only [decodeRune, c0, c1, c2, c3, c4, c5, c6, if_true, if_false] using bad
  rw [decodeRune_rune4 p (by omega) (by omega) (by omega) (by omega) (by omega) (by omega)
    (by omega) (by omega)]
  refine ⟨.multi (by omega) (List.cons_ne_nil _ _) (by simp)
    (encodeRune_rune4 (by omega) (by omega) (by omega) (by omega) (by omega) (by omega)
      (by omega) (by omega) (by omega) (by omega))
    (fun t => decodeRune_rune4 t (by omega) (by omega) (by omega) (by omega) (by omega)
      (by omega) (by omega) (by omega)), by omega, by simp⟩

/-! ## Walking a string rune by rune -/

theorem decodeRune_size_pos (c : Byte) (t : GoString) : 0 < (decodeRune (c :: t)).2 :=
  (decodeRune_piece (List.cons_ne_nil c t)).2.1

/-- The runes of `s` with the bytes of each, as the loop
`for i < len(s) { r, size := utf8.DecodeRune(s[i:]); …; i += size }` visits them. -/
def runes (s : GoString) : List (Nat × GoString) :=
  if h : s = [] then []
  else ((decodeRune s).1, s.take (decodeRune s).2) :: runes (s.drop (decodeRune s).2)
termination_by s.length
decreasing_by
  have := (decodeRune_piece h).2.1
  have := List.length_pos.2 h
  simp only [List.length_drop]
  omega

@[simp] theorem runes_nil : runes [] = [] := by
  rw [runes, dif_pos rfl]

theorem runes_cons (b : Byte) (t : GoString) :
    runes (b :: t) = ((decodeRune (b :: t)).1, (b :: t).take (decodeRune (b :: t)).2) ::
      runes ((b :: t).drop (decodeRune (b :: t)).2) := by
  rw [runes, dif_neg (List.cons_ne_nil b t)]

/-- The pieces the loop visits make up the string again. -/
theorem flatMap_snd_runes (s : GoString) : (runes s).flatMap Prod.snd = s := by
  induction s using runes.induct with
  | case1 => simp
  | case2 s hs ih => rw [runes, dif_neg hs, List.flatMap_cons, ih, List.take_append_drop]

theorem piece_of_mem_runes {s : GoString} {p : Nat × GoString} (h : p ∈ runes s) : Piece p := by
  induction s using runes.induct with
  | case1 => simp at h
  | case2 s hs ih =>
    rw [runes, dif_neg hs, List.mem_cons] at h
    rcases h with rfl | h
    · exact (decodeRune_piece hs).1
    · exact ih h

/-- Whether `decodeRune` takes a single byte that starts no sequence (the test
`r == utf8.RuneError && size == 1`). -/
def isInvalid (p : Nat × GoString) : Bool :=
  p.1 == RuneError && p.2.length == 1

/-- `utf8.ValidString`: no byte of `s` fails to decode. -/
def validString (s : GoString) : Bool :=
  (runes s).all fun p => !isInvalid p

/-- What `encoding/json` makes of one rune of a string: the bytes of the rune, or those of
U+FFFD for a byte that starts no sequence. -/
def coerceRune (p : Nat × GoString) : GoString :=
  if isInvalid p then encodeRune RuneError else p.2

/-- `s` with each byte that starts no UTF-8 sequence replaced by the encoding of U+FFFD: what
`encoding/json` makes of a string, as its encoder and its decoder both coerce to valid UTF-8. -/
def coerceUTF8 (s : GoString) : GoString :=
  (runes s).flatMap coerceRune

theorem coerceUTF8_of_validString {s : GoString} (h : validString s = true) :
    coerceUTF8 s = s := by
  conv_rhs => rw [← flatMap_snd_runes s]
  refine List.flatMap_congr fun p hp => ?_
  have := List.all_eq_true.1 h p hp
  simp only [Bool.not_eq_true', Bool.not_eq_false] at this
  simp [coerceRune, this]

theorem length_coerceRune (p : Nat × GoString) :
    (coerceRune p).length = p.2.length + if isInvalid p then 2 else 0 := by
  unfold coerceRune
  split_ifs with h
  · simp only [isInvalid, Bool.and_eq_true, beq_iff_eq] at h
    rw [h.2]
    rfl
  · rfl

theorem length_flatMap_coerceRune (ps : List (Nat × GoString)) :
    (ps.flatMap coerceRune).length = (ps.flatMap Prod.snd).length + 2 * ps.countP isInvalid := by
  induction ps with
  | nil => rfl
  | cons p ps ih =>
    simp only [List.flatMap_cons, List.length_append, List.countP_cons, length_coerceRune, ih]
    split_ifs <;> omega

/-- The coercion adds two bytes for each byte that starts no sequence, which becomes the three
bytes of U+FFFD. -/
theorem length_coerceUTF8 (s : GoString) :
    (coerceUTF8 s).length = s.length + 2 * (runes s).countP isInvalid := by
  rw [coerceUTF8, length_flatMap_coerceRune, flatMap_snd_runes]

/-- **A string the coercion leaves as it is is valid UTF-8**: a byte that starts no sequence
would have grown to three. -/
theorem validString_of_coerceUTF8 {s : GoString} (h : coerceUTF8 s = s) : validString s = true := by
  have hlen := congrArg List.length h
  rw [length_coerceUTF8] at hlen
  have hzero : (runes s).countP isInvalid = 0 := by omega
  simpa [validString, List.countP_eq_zero] using hzero

theorem coerceUTF8_eq_self_iff (s : GoString) : coerceUTF8 s = s ↔ validString s = true :=
  ⟨validString_of_coerceUTF8, coerceUTF8_of_validString⟩

theorem runes_of_ascii {s : GoString} (h : ∀ b ∈ s, b.val < 0x80) :
    runes s = s.map fun b => (b.val, [b]) := by
  induction s with
  | nil => simp
  | cons b t ih =>
    have hb : decodeRune (b :: t) = (b.val, 1) := by simp [decodeRune, h b (List.mem_cons_self b t)]
    rw [runes_cons, hb, List.drop_one, List.tail_cons, ih fun c hc => h c (List.mem_cons_of_mem b hc)]
    rfl

/-- An ASCII string is left as it is. -/
theorem coerceUTF8_of_ascii {s : GoString} (h : ∀ b ∈ s, b.val < 0x80) : coerceUTF8 s = s := by
  rw [coerceUTF8, runes_of_ascii h, List.flatMap_map]
  conv_rhs => rw [← List.flatMap_singleton' s]
  refine List.flatMap_congr fun b hb => ?_
  have : b.val ≠ RuneError := by have := h b hb; unfold RuneError; omega
  simp [coerceRune, isInvalid, this]

end WeaveGitops.Go
