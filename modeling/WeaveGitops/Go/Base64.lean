import WeaveGitops.Go.Strings

/-!
# `encoding/base64`, standard encoding

The auth server carries its session state in a cookie as `base64.StdEncoding` of a JSON
document, and decodes the cookie with `StdEncoding.DecodeString`. The model has both
directions:

* `encodeToString` turns each three bytes into four characters of the alphabet `A–Z a–z 0–9
  + /`, and pads a last one or two bytes with `=`;
* `decodeString` drops carriage returns and line feeds, as Go's decoder skips them wherever
  they stand, and decodes four characters at a time; it fails on a character outside the
  alphabet, on missing or misplaced padding and on anything after the padding. Like Go's
  non-strict decoder it ignores the bits a padded quantum leaves over.

`decodeString_encodeToString` is the round trip.
-/

namespace WeaveGitops.Go.Base64

/-- `encodeStd[i]`, the `i`-th character of the standard alphabet. -/
def encodeStd (i : Nat) : Byte :=
  if i < 26 then byte (0x41 + i)
  else if i < 52 then byte (0x61 + (i - 26))
  else if i < 62 then byte (0x30 + (i - 52))
  else if i = 62 then ch '+'
  else ch '/'

/-- `decodeMap[c]`: the value of an alphabet character, `none` for any other byte. -/
def decodeMap (c : Byte) : Option Nat :=
  if 0x41 ≤ c.val ∧ c.val ≤ 0x5A then some (c.val - 0x41)
  else if 0x61 ≤ c.val ∧ c.val ≤ 0x7A then some (c.val - 0x61 + 26)
  else if 0x30 ≤ c.val ∧ c.val ≤ 0x39 then some (c.val - 0x30 + 52)
  else if c.val = 0x2B then some 62
  else if c.val = 0x2F then some 63
  else none

/-- `StdPadding`, the character `=`. -/
def padChar : Byte := ch '='

/-- `StdEncoding.EncodeToString`. Go reads three bytes as `val = a<<16 | b<<8 | c` and writes
`encode[val>>18&0x3F]` and so on; the four indices are written out below. -/
def encodeToString : GoString → GoString
  | a :: b :: c :: rest =>
    [encodeStd (a.val / 4), encodeStd (a.val % 4 * 16 + b.val / 16),
      encodeStd (b.val % 16 * 4 + c.val / 64), encodeStd (c.val % 64)] ++ encodeToString rest
  | [a, b] =>
    [encodeStd (a.val / 4), encodeStd (a.val % 4 * 16 + b.val / 16), encodeStd (b.val % 16 * 4),
      padChar]
  | [a] => [encodeStd (a.val / 4), encodeStd (a.val % 4 * 16), padChar, padChar]
  | [] => []

theorem encodeStd_lt (i : Nat) : (encodeStd i).val < 0x80 := by
  unfold encodeStd
  split_ifs <;> simp [ch] <;> omega

/-- The encoding is ASCII: each character is of the alphabet or the padding. -/
theorem encodeToString_ascii : ∀ s : GoString, ∀ b ∈ encodeToString s, b.val < 0x80
  | _ :: _ :: _ :: rest => by
    simpa [encodeToString, encodeStd_lt] using encodeToString_ascii rest
  | [_, _] | [_] | [] => by simp [encodeToString, encodeStd_lt, padChar, ch] <;> decide

theorem encodeToString_eq_nil_iff : ∀ {s : GoString}, encodeToString s = [] ↔ s = []
  | _ :: _ :: _ :: _ | [_, _] | [_] | [] => by simp [encodeToString]

/-- Go's `decodeQuantum`, run until the input ends, on input with no line breaks: four
characters give three bytes; `xx==` and `xxx=` end the input with one or two bytes. -/
def decodeQuanta : GoString → Option GoString
  | [] => some []
  | c0 :: c1 :: c2 :: c3 :: rest =>
    match decodeMap c0, decodeMap c1, decodeMap c2, decodeMap c3 with
    | some a, some b, some c, some d =>
      ([byte (a * 4 + b / 16), byte (b % 16 * 16 + c / 4), byte (c % 4 * 64 + d)] ++ ·) <$>
        decodeQuanta rest
    | some a, some b, some c, none =>
      if c3 = padChar ∧ rest = [] then some [byte (a * 4 + b / 16), byte (b % 16 * 16 + c / 4)]
      else none
    | some a, some b, none, _ =>
      if c2 = padChar ∧ c3 = padChar ∧ rest = [] then some [byte (a * 4 + b / 16)] else none
    | _, _, _, _ => none
  | _ => none

/-- Whether a byte is one of the line breaks `\r` and `\n` the decoder skips. -/
def isLineBreak (c : Byte) : Bool :=
  c.val == 13 || c.val == 10

/-- `StdEncoding.DecodeString`: the decoded bytes, or `none` for Go's `CorruptInputError`. -/
def decodeString (s : GoString) : Option GoString :=
  decodeQuanta (s.filter fun c => !isLineBreak c)

/-! ## The round trip -/

theorem decodeMap_encodeStd : ∀ i : Fin 64, decodeMap (encodeStd i.val) = some i.val := by
  decide

theorem decodeMap_padChar : decodeMap padChar = none := by
  decide

theorem isLineBreak_padChar : isLineBreak padChar = false := by
  decide

theorem isLineBreak_encodeStd (i : Nat) : isLineBreak (encodeStd i) = false := by
  unfold isLineBreak encodeStd
  split_ifs <;> simp <;> omega

theorem filter_encodeToString (b : GoString) :
    (encodeToString b).filter (fun c => !isLineBreak c) = encodeToString b := by
  induction b using encodeToString.induct with
  | case1 a b c rest ih =>
    rw [encodeToString, List.filter_append, ih]
    simp [isLineBreak_encodeStd]
  | case2 | case3 => simp [encodeToString, isLineBreak_encodeStd, isLineBreak_padChar]
  | case4 => rfl

theorem decodeQuanta_encodeToString (b : GoString) : decodeQuanta (encodeToString b) = some b := by
  induction b using encodeToString.induct with
  | case1 a b c rest ih =>
    rw [encodeToString, List.cons_append, List.cons_append, List.cons_append, List.cons_append,
      decodeQuanta, decodeMap_encodeStd ⟨_, by omega⟩, decodeMap_encodeStd ⟨_, by omega⟩,
      decodeMap_encodeStd ⟨_, by omega⟩, decodeMap_encodeStd ⟨_, by omega⟩]
    simp only [ih, Option.map_eq_map, Option.map_some', List.cons_append, List.nil_append,
      Option.some.injEq, List.cons.injEq, Fin.ext_iff, byte_val, and_true]
    refine ⟨?_, ?_, ?_⟩ <;> omega
  | case2 a b =>
    rw [encodeToString, decodeQuanta, decodeMap_encodeStd ⟨_, by omega⟩,
      decodeMap_encodeStd ⟨_, by omega⟩, decodeMap_encodeStd ⟨_, by omega⟩, decodeMap_padChar]
    simp only [and_true, if_true, Option.some.injEq, List.cons.injEq, Fin.ext_iff, byte_val]
    constructor <;> omega
  | case3 a =>
    rw [encodeToString, decodeQuanta, decodeMap_encodeStd ⟨_, by omega⟩,
      decodeMap_encodeStd ⟨_, by omega⟩, decodeMap_padChar]
    simp only [and_true, if_true, Option.some.injEq, List.cons.injEq, Fin.ext_iff, byte_val]
    omega
  | case4 => rfl

/-- **Base64 round trip**: decoding what `EncodeToString` produced gives the bytes back. -/
theorem decodeString_encodeToString (b : GoString) :
    decodeString (encodeToString b) = some b := by
  rw [decodeString, filter_encodeToString, decodeQuanta_encodeToString]

end WeaveGitops.Go.Base64
