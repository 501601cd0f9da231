import WeaveGitops.Go.Json

/-!
# The JSON decoder reads back what the encoder writes

A string the encoder writes is read back by the scanner as one string literal, and `unquote`
turns its body into the string with each byte that starts no UTF-8 sequence replaced by
U+FFFD:

* `lexString_escapeString`: the scanner stops at the closing quote the encoder writes, and
  not before;
* `unquote_escapeString`: the body unquotes to `coerceUTF8 s`;
* `parse_encodeStruct`: a struct of strings the encoder writes parses back to an object with
  the same members in the same order, each coerced to UTF-8.

Each of the first two is proved one piece at a time: `Lexes x` and `Unquotes x y` say that
the scanner and `unquote` read the bytes `x` the same way whatever follows them, and each kind
of piece the encoder emits (a byte copied as it is, a two-character escape, a `\uXXXX` escape,
a multi-byte sequence) gets one lemma.
-/

namespace WeaveGitops.Go.Json

/-! ## The scanner -/

/-- The string scanner reads the bytes `x` as part of a string literal, whatever follows. -/
def Lexes (x : GoString) : Prop :=
  ∀ t, lexString .inString (x ++ t) = (lexString .inString t).map fun r => (x ++ r.1, r.2)

theorem Lexes.nil : Lexes [] := fun t => by simp

theorem Lexes.append {x y : GoString} (hx : Lexes x) (hy : Lexes y) : Lexes (x ++ y) := fun t => by
  rw [List.append_assoc, hx, hy, Option.map_map]
  simp [Function.comp_def]

/-- A byte the scanner copies: neither a quote, nor a backslash, nor a control character. -/
theorem lexes_plain {c : Byte} (hq : c ≠ quoteByte) (hb : c ≠ backslash) (hc : 0x20 ≤ c.val) :
    Lexes [c] := fun t => by
  simp [lexString, stringStep, hq, hb, show ¬c.val < 0x20 by omega]

theorem lexes_escape {e : Byte} (he : isEscapable e = true) : Lexes [backslash, e] := fun t => by
  simp [lexString, stringStep, he, Option.map_map, Function.comp_def,
    show backslash ≠ quoteByte by decide]

theorem lexes_u {h1 h2 h3 h4 : Byte} (h : (hexValue h1).isSome ∧ (hexValue h2).isSome ∧
    (hexValue h3).isSome ∧ (hexValue h4).isSome) : Lexes [backslash, ch 'u', h1, h2, h3, h4] :=
  fun t => by
    simp [lexString, stringStep, h, Option.map_map, Function.comp_def,
      show backslash ≠ quoteByte by decide, show isEscapable (ch 'u') = false by decide]

theorem lexes_high {x : GoString} (h : ∀ b ∈ x, 0x80 ≤ b.val) : Lexes x := by
  induction x with
  | nil => exact Lexes.nil
  | cons b x ih =>
    have hb := h b (List.mem_cons_self b x)
    exact Lexes.append (x := [b])
      (lexes_plain (fun e => absurd hb (by rw [e]; decide))
        (fun e => absurd hb (by rw [e]; decide)) (by omega))
      (ih fun c hc => h c (List.mem_cons_of_mem b hc))

theorem hexValue_hex {i : Nat} (h : i < 16) : hexValue (hex i) = some i :=
  (by decide : ∀ i : Fin 16, hexValue (hex i) = some i.val) ⟨i, h⟩

/-- The bytes of a rune of two or more bytes all have the high bit set. -/
theorem encodeRune_high {r : Nat} (h : 0x7F < r) : ∀ b ∈ encodeRune r, 0x80 ≤ b.val := by
  unfold encodeRune encodeRune3 RuneError
  split_ifs <;> simp <;> omega

/-- A valid sequence of two or more bytes encodes a rune past ASCII. -/
theorem lt_of_encodeRune_eq {r : Nat} {p0 : Byte} {bs : GoString} (he : encodeRune r = p0 :: bs)
    (hbs : bs ≠ []) : 0x7F < r := by
  by_contra hr
  rw [encodeRune, if_pos (by omega), List.cons.injEq] at he
  exact hbs he.2.symm

theorem escapeRune_ascii {b : Byte} (hb : b.val < 0x80) : escapeRune (b.val, [b]) = escapeASCII b := by
  simp [escapeRune, hb]

theorem escapeRune_invalid (b : Byte) :
    escapeRune (RuneError, [b]) = [backslash, ch 'u', ch 'f', ch 'f', ch 'f', ch 'd'] := by
  simp [escapeRune, isInvalid, RuneError]

theorem escapeRune_multi {r : Nat} {p0 : Byte} {bs : GoString} (hr : 0x7F < r) (hbs : bs ≠ []) :
    escapeRune (r, p0 :: bs) = if r = 0x2028 ∨ r = 0x2029 then
      [backslash, ch 'u', ch '2', ch '0', ch '2', hex (r % 16)] else p0 :: bs := by
  have : ¬r < 0x80 := by omega
  simp [escapeRune, isInvalid, this, hbs]

theorem lexes_escapeASCII {b : Byte} (hb : b.val < 0x80) : Lexes (escapeASCII b) := by
  unfold escapeASCII
  split_ifs with h1 h2
  · simp only [htmlSafe, decide_eq_true_eq] at h1
    exact lexes_plain h1.2.2.1 h1.2.2.2.1 h1.1
  · exact lexes_escape (by rcases h2 with rfl | rfl <;> decide)
  · exact lexes_escape (by decide)
  · exact lexes_escape (by decide)
  · exact lexes_escape (by decide)
  · exact lexes_u ⟨by decide, by decide, by simp [hexValue_hex, show b.val / 16 < 16 by omega],
      by simp [hexValue_hex, Nat.mod_lt]⟩

/-- **Each rune the encoder writes is scanned as part of the string.** -/
theorem lexes_escapeRune {p : Nat × GoString} (hp : Piece p) : Lexes (escapeRune p) := by
  cases hp with
  | ascii hb => rw [escapeRune_ascii hb]; exact lexes_escapeASCII hb
  | invalid => rw [escapeRune_invalid]; exact lexes_u (by decide)
  | multi _ hbs _ he _ =>
    have hr := lt_of_encodeRune_eq he hbs
    rw [escapeRune_multi hr hbs]
    split_ifs
    · exact lexes_u ⟨by decide, by decide, by decide, by simp [hexValue_hex, Nat.mod_lt]⟩
    · exact lexes_high (he ▸ encodeRune_high hr)

theorem lexes_flatMap {ps : List (Nat × GoString)} {f : Nat × GoString → GoString}
    (h : ∀ p ∈ ps, Lexes (f p)) : Lexes (ps.flatMap f) := by
  induction ps with
  | nil => exact Lexes.nil
  | cons p ps ih =>
    exact Lexes.append (h p (List.mem_cons_self p ps)) (ih fun q hq => h q (List.mem_cons_of_mem p hq))

/-- The scanner reads an encoded string up to the closing quote the encoder writes. -/
theorem lexString_escapeString (s rest : GoString) :
    lexString .inString (escapeString s ++ quoteByte :: rest) = some (escapeString s, rest) := by
  have hq : lexString .inString (quoteByte :: rest) = some ([], rest) := by simp [lexString]
  rw [escapeString, lexes_flatMap (fun p hp => lexes_escapeRune (piece_of_mem_runes hp)), hq]
  simp

/-! ## Unquoting -/

/-- `unquote` turns the bytes `x` into `y`, whatever follows them. -/
def Unquotes (x y : GoString) : Prop :=
  ∀ t, unquote (x ++ t) = (unquote t).map (y ++ ·)

theorem Unquotes.nil : Unquotes [] [] := fun t => by simp

theorem Unquotes.append {x y x' y' : GoString} (h : Unquotes x y) (h' : Unquotes x' y') :
    Unquotes (x ++ x') (y ++ y') := fun t => by
  rw [List.append_assoc, h, h', Option.map_map]
  simp [Function.comp_def]

theorem unquotes_ascii {c : Byte} (hb : c ≠ backslash) (hq : c ≠ quoteByte) (hc : 0x20 ≤ c.val)
    (h80 : c.val < 0x80) : Unquotes [c] [c] := fun t => by
  rw [List.singleton_append, unquote.eq_def]
  simp only [hb, hq, show ¬c.val < 0x20 by omega, h80, or_self, if_false, if_true]
  rfl

theorem unquotes_high {p0 : Byte} {bs : GoString} {r : Nat} (h : 0x80 ≤ p0.val)
    (hd : ∀ t, decodeRune (p0 :: bs ++ t) = (r, bs.length + 1)) :
    Unquotes (p0 :: bs) (encodeRune r) := fun t => by
  have hb : p0 ≠ backslash := fun e => absurd h (by rw [e]; decide)
  have hq : p0 ≠ quoteByte := fun e => absurd h (by rw [e]; decide)
  rw [List.cons_append, unquote.eq_def]
  simp only [hb, hq, show ¬p0.val < 0x20 by omega, show ¬p0.val < 0x80 by omega, or_self,
    if_false]
  rw [← List.cons_append, hd t, List.drop_append_eq_append_drop]
  simp

theorem unquotes_escape {e : Byte} (he : e = quoteByte ∨ e = backslash) :
    Unquotes [backslash, e] [e] := fun t => by
  have he' : e = quoteByte ∨ e = backslash ∨ e = ch '/' ∨ e.val = 0x27 := by tauto
  rw [List.cons_append, List.cons_append, List.nil_append, unquote.eq_def]
  simp only [he', if_true]
  rfl

theorem unquotes_n : Unquotes [backslash, ch 'n'] [byte 0x0A] := fun t => by
  rw [List.cons_append, List.cons_append, List.nil_append, unquote.eq_def]
  simp +decide only [if_true, if_false]
  rfl

theorem unquotes_r : Unquotes [backslash, ch 'r'] [byte 0x0D] := fun t => by
  rw [List.cons_append, List.cons_append, List.nil_append, unquote.eq_def]
  simp +decide only [if_true, if_false]
  rfl

theorem unquotes_t : Unquotes [backslash, ch 't'] [byte 0x09] := fun t => by
  rw [List.cons_append, List.cons_append, List.nil_append, unquote.eq_def]
  simp +decide only [if_true, if_false]
  rfl

/-- A `\uXXXX` escape of a rune that is not a surrogate. -/
theorem unquotes_u {h1 h2 h3 h4 : Byte} {v : Nat}
    (hv : getu4 [backslash, ch 'u', h1, h2, h3, h4] = some v) (hs : ¬(0xD800 ≤ v ∧ v < 0xE000)) :
    Unquotes [backslash, ch 'u', h1, h2, h3, h4] (encodeRune v) := fun t => by
  have hv' : getu4 (backslash :: ch 'u' :: h1 :: h2 :: h3 :: h4 :: t) = some v := hv
  simp only [List.cons_append, List.nil_append]
  rw [unquote.eq_def]
  simp +decide only [if_true, if_false, hv', hs]
  rfl

theorem encodeRune_ascii {r : Nat} (h : r ≤ 0x7F) : encodeRune r = [byte r] := by
  rw [encodeRune, if_pos h]

theorem unquotes_escapeASCII {b : Byte} (hb : b.val < 0x80) : Unquotes (escapeASCII b) [b] := by
  unfold escapeASCII
  split_ifs with h1 h2 h3 h4 h5
  · simp only [htmlSafe, decide_eq_true_eq] at h1
    exact unquotes_ascii h1.2.2.2.1 h1.2.2.1 h1.1 hb
  · exact unquotes_escape h2
  · exact (Fin.ext (by simp [h3]) : byte 0x0A = b) ▸ unquotes_n
  · exact (Fin.ext (by simp [h4]) : byte 0x0D = b) ▸ unquotes_r
  · exact (Fin.ext (by simp [h5]) : byte 0x09 = b) ▸ unquotes_t
  · have hv : getu4 [backslash, ch 'u', ch '0', ch '0', hex (b.val / 16), hex (b.val % 16)] =
        some b.val := by
      simp [getu4, hexValue_hex, show b.val / 16 < 16 by omega, Nat.mod_lt,
        show hexValue (ch '0') = some 0 by decide]
      omega
    have := unquotes_u hv (by omega)
    rwa [encodeRune_ascii (by omega), byte_val_self] at this

/-- **Each rune the encoder writes unquotes to the rune, coerced to UTF-8.** -/
theorem unquotes_escapeRune {p : Nat × GoString} (hp : Piece p) :
    Unquotes (escapeRune p) (coerceRune p) := by
  cases hp with
  | @ascii b hb =>
    have : coerceRune (b.val, [b]) = [b] := by
      simp [coerceRune, isInvalid, RuneError, show b.val ≠ 0xFFFD by omega]
    rw [escapeRune_ascii hb, this]
    exact unquotes_escapeASCII hb
  | invalid =>
    rw [escapeRune_invalid, show coerceRune (RuneError, _) = encodeRune RuneError by
      simp [coerceRune, isInvalid]]
    exact unquotes_u (by decide) (by decide)
  | @multi r p0 bs h0 hbs _ he hd =>
    have hr := lt_of_encodeRune_eq he hbs
    have hc : coerceRune (r, p0 :: bs) = p0 :: bs := by simp [coerceRune, isInvalid, hbs]
    rw [escapeRune_multi hr hbs, hc]
    split_ifs with h28
    · have hv : getu4 [backslash, ch 'u', ch '2', ch '0', ch '2', hex (r % 16)] = some r := by
        simp [getu4, hexValue_hex, Nat.mod_lt, show hexValue (ch '0') = some 0 by decide,
          show hexValue (ch '2') = some 2 by decide]
        omega
      exact he ▸ unquotes_u hv (by omega)
    · exact he ▸ unquotes_high (by omega) hd

theorem unquotes_flatMap {ps : List (Nat × GoString)} {f g : Nat × GoString → GoString}
    (h : ∀ p ∈ ps, Unquotes (f p) (g p)) : Unquotes (ps.flatMap f) (ps.flatMap g) := by
  induction ps with
  | nil => exact Unquotes.nil
  | cons p ps ih =>
    exact Unquotes.append (h p (List.mem_cons_self p ps))
      (ih fun q hq => h q (List.mem_cons_of_mem p hq))

/-- **String round trip**: the body the encoder writes unquotes to the string, with each byte
that starts no UTF-8 sequence replaced by U+FFFD. -/
theorem unquote_escapeString (s : GoString) : unquote (escapeString s) = some (coerceUTF8 s) := by
  have := unquotes_flatMap (fun p hp => unquotes_escapeRune (piece_of_mem_runes (s := s) hp)) []
  rw [List.append_nil, unquote.eq_1] at this
  simpa [escapeString, coerceUTF8] using this

/-! ## Parsing an encoded struct -/

theorem encodeString_append (s rest : GoString) :
    encodeString s ++ rest = quoteByte :: (escapeString s ++ quoteByte :: rest) := by
  simp [encodeString]

theorem parseString_escapeString (s rest : GoString) :
    parseString (escapeString s ++ quoteByte :: rest) = some (coerceUTF8 s, rest) := by
  simp [parseString, lexString_escapeString, unquote_escapeString]

theorem parseValue_encodeString (fuel depth : Nat) (s rest : GoString) :
    parseValue (fuel + 1) depth (quoteByte :: (escapeString s ++ quoteByte :: rest)) =
      some (.string (coerceUTF8 s), rest) := by
  rw [parseValue, skipSpace_cons (by decide)]
  simp +decide only [if_false, if_true]
  simp [parseString_escapeString]

theorem parseMembers_encodeFields (m depth : Nat) (f : GoString × GoString)
    (fs : List (GoString × GoString)) (n : Nat) (hn : fs.length ≤ n) (rest : GoString) :
    parseMembers (parseValue (m + 1) depth) (n + 1)
        (encodeString f.1 ++ ch ':' :: encodeString f.2 ++ encodeFields fs ++ byte 0x7D :: rest) =
      some ((f :: fs).map (fun f => (coerceUTF8 f.1, .string (coerceUTF8 f.2))), rest) := by
  induction fs generalizing f n with
  | nil =>
    rw [parseMembers]
    simp +decide only [encodeString_append, List.cons_append, List.append_assoc, List.nil_append,
      skipSpace_cons, parseString_escapeString, parseValue_encodeString, encodeFields, if_false,
      if_true]
    rfl
  | cons g fs ih =>
    obtain ⟨n, rfl⟩ : ∃ k, n = k + 1 := ⟨n - 1, by simp at hn; omega⟩
    have hm := ih g n (by simpa using hn)
    simp only [encodeString_append, List.cons_append, List.append_assoc] at hm
    rw [parseMembers]
    simp +decide only [encodeString_append, List.cons_append, List.append_assoc, List.nil_append,
      skipSpace_cons, parseString_escapeString, parseValue_encodeString, encodeFields, if_false,
      if_true, hm]
    rfl

theorem length_encodeFields (fs : List (GoString × GoString)) :
    fs.length ≤ (encodeFields fs).length := by
  induction fs with
  | nil => simp [encodeFields]
  | cons f fs ih => simp [encodeFields]; omega

/-- **Struct round trip**: a struct of strings the encoder writes parses back to an object with
the same members, in the same order, each name and value coerced to UTF-8. -/
theorem parse_encodeStruct (f : GoString × GoString) (fs : List (GoString × GoString)) :
    parse (encodeStruct (f :: fs)) =
      some (.object ((f :: fs).map fun f => (coerceUTF8 f.1, .string (coerceUTF8 f.2)))) := by
  have hlen := length_encodeFields fs
  obtain ⟨n, hn, hL⟩ : ∃ n, fs.length ≤ n ∧ (encodeStruct (f :: fs)).length = n + 1 :=
    ⟨(encodeStruct (f :: fs)).length - 1, by simp [encodeStruct]; omega,
      by simp [encodeStruct]⟩
  have hm := parseMembers_encodeFields n 1 f fs n hn []
  simp only [encodeString_append, List.cons_append, List.append_assoc] at hm
  rw [parse, hL, parseValue, encodeStruct]
  simp +decide only [encodeString_append, List.cons_append, List.append_assoc, skipSpace_cons,
    if_true, if_false, hm]
  rfl

/-- A body that parses as a whole decodes as what it parses to: `Decode` reads its first value. -/
theorem decode_of_parse {S : Type} {fields : List (StringField S)} {data : GoString} {st : S}
    {v : JsonValue} (h : parse data = some v) : decode fields data st = unmarshalValue fields v st := by
  unfold parse at h
  split at h
  · rename_i v' rest hp
    split_ifs at h
    cases h
    simp [decode, hp]
  · cases h

end WeaveGitops.Go.Json
