import WeaveGitops.Go.Strings

/-!
# `encoding/json`, as far as strings and flat objects go

The auth server writes its session state with `json.Marshal` and reads it back with
`json.Unmarshal`. The model covers what those two need:

* the string encoder of `encodeState.string` with HTML escaping (`encodeString`), which walks a
  string rune by rune (`runes`), writes a byte that starts no UTF-8 sequence as the escape of
  U+FFFD, and U+2028 and U+2029 as escapes too;
* the scanner's string states (`lexString`), which accept any byte from `0x20` up except `"`
  and `\` inside a string, and the escapes `\" \\ \/ \b \f \n \r \t \uXXXX`;
* `unquote`, Go's `unquoteBytes` after the quotes are stripped, which decodes the escapes,
  joins surrogate pairs, and coerces what is not UTF-8 to U+FFFD;
* a parser of JSON values (`parseValue`) and `parse`, the syntax check `checkValid` together
  with the first phase of `Unmarshal`: a value, then nothing but white space;
* how `Unmarshal` picks the field a key goes to (`selectField`): the field of that name, else
  the first whose name the key matches under the case fold `foldFunc` chose for it, which for
  a name with `k` or `s` also matches the Kelvin sign and the long s (`equalFoldRight`).

Go's decoder validates the whole input with its scanner before decoding; `parse` fails exactly
where the scanner reports a syntax error, and its value is what the decoder walks. The scanner
also refuses more than `maxNestingDepth` arrays and objects open at once, which `parseValue`
counts (`parseValue_deep`). Numbers are kept as their text, since no field of the auth server is
a number.
-/

namespace WeaveGitops.Go.Json

/-! ## Bytes of the JSON syntax -/

/-- White space: space, tab, line feed and carriage return. -/
def isSpace (c : Byte) : Bool :=
  c.val == 0x20 || c.val == 0x09 || c.val == 0x0A || c.val == 0x0D

/-- The bytes after leading white space (`scanSkipSpace`). -/
def skipSpace (s : GoString) : GoString :=
  s.dropWhile isSpace

/-- The value of a hexadecimal digit. -/
def hexValue (c : Byte) : Option Nat :=
  if 0x30 ≤ c.val ∧ c.val ≤ 0x39 then some (c.val - 0x30)
  else if 0x61 ≤ c.val ∧ c.val ≤ 0x66 then some (c.val - 0x61 + 10)
  else if 0x41 ≤ c.val ∧ c.val ≤ 0x46 then some (c.val - 0x41 + 10)
  else none

/-- `hex[i]`, the lowercase digit the encoder writes for `i < 16`. -/
def hex (i : Nat) : Byte :=
  if i < 10 then byte (0x30 + i) else byte (0x61 + (i - 10))

/-- A decimal digit. -/
def isDigit (c : Byte) : Bool :=
  decide (0x30 ≤ c.val ∧ c.val ≤ 0x39)

/-! ## Encoding a string -/

/-- `htmlSafeSet[b]`: the ASCII bytes the encoder copies as they are. It escapes the control
characters, `"` and `\`, and `<`, `>` and `&` since `json.Marshal` escapes HTML. -/
def htmlSafe (b : Byte) : Bool :=
  decide (0x20 ≤ b.val ∧ b.val < 0x80 ∧ b ≠ quoteByte ∧ b ≠ backslash ∧ b.val ≠ 0x3C ∧
    b.val ≠ 0x3E ∧ b.val ≠ 0x26)

/-- What the encoder writes for an ASCII byte. -/
def escapeASCII (b : Byte) : GoString :=
  if htmlSafe b then [b]
  else if b = quoteByte ∨ b = backslash then [backslash, b]
  else if b.val = 0x0A then [backslash, ch 'n']
  else if b.val = 0x0D then [backslash, ch 'r']
  else if b.val = 0x09 then [backslash, ch 't']
  else [backslash, ch 'u', ch '0', ch '0', hex (b.val / 16), hex (b.val % 16)]

/-- What the encoder writes for one rune of a string and the bytes that encode it: one
iteration of the loop of `encodeState.string`. -/
def escapeRune (p : Nat × GoString) : GoString :=
  if p.1 < 0x80 then escapeASCII (byte p.1)
  else if isInvalid p then [backslash, ch 'u', ch 'f', ch 'f', ch 'f', ch 'd']
  else if p.1 = 0x2028 ∨ p.1 = 0x2029 then [backslash, ch 'u', ch '2', ch '0', ch '2', hex (p.1 % 16)]
  else p.2

/-- The encoded bytes of a string, between its quotes. -/
def escapeString (s : GoString) : GoString :=
  (runes s).flatMap escapeRune

/-- `encodeState.string s true`: a JSON string literal for `s`. -/
def encodeString (s : GoString) : GoString :=
  quoteByte :: escapeString s ++ [quoteByte]

/-! ## Scanning and unquoting a string -/

/-- The characters that may follow `\` other than `u`. -/
def isEscapable (e : Byte) : Bool :=
  e == quoteByte || e == backslash || e == ch '/' || e == ch 'b' || e == ch 'f' ||
    e == ch 'n' || e == ch 'r' || e == ch 't'

/-- The scanner's states inside a string literal: `stateInString`, `stateInStringEsc`, and
`stateInStringEscU`, `stateInStringEscU1`, `stateInStringEscU12`, `stateInStringEscU123` as
`escU k` after `k` hex digits. -/
inductive StringState
  | inString
  | esc
  | escU (k : Nat)
  deriving DecidableEq

/-- One byte of a string literal read in state `st`: the next state, or `none` for a syntax
error. The closing quote is left to `lexString`. -/
def stringStep : StringState → Byte → Option StringState
  | .inString, c => if c = backslash then some .esc else if c.val < 0x20 then none else some .inString
  | .esc, c => if isEscapable c then some .inString else if c = ch 'u' then some (.escU 0) else none
  | .escU k, c =>
    if (hexValue c).isSome then some (if k = 3 then .inString else .escU (k + 1)) else none

/-- The scanner inside a string literal, from state `st`: the bytes before the closing quote
and the bytes after it, or `none` on a syntax error or a missing closing quote. -/
def lexString (st : StringState) : GoString → Option (GoString × GoString)
  | [] => none
  | c :: s =>
    if st = .inString ∧ c = quoteByte then some ([], s)
    else match stringStep st c with
      | none => none
      | some st' => (lexString st' s).map fun r => (c :: r.1, r.2)

/-- `getu4`: the value of `\uXXXX` at the start of `s`, `none` where Go returns `-1`. -/
def getu4 : GoString → Option Nat
  | c0 :: c1 :: h1 :: h2 :: h3 :: h4 :: _ =>
    if c0 = backslash ∧ c1 = ch 'u' then do
      let d1 ← hexValue h1
      let d2 ← hexValue h2
      let d3 ← hexValue h3
      let d4 ← hexValue h4
      some (((d1 * 16 + d2) * 16 + d3) * 16 + d4)
    else none
  | _ => none

/-- `utf16.DecodeRune`: the rune of a surrogate pair, or `RuneError`. The second argument is
`none` where `getu4` found no escape. -/
def decodeUTF16 (r1 : Nat) : Option Nat → Nat
  | some r2 =>
    if 0xD800 ≤ r1 ∧ r1 < 0xDC00 ∧ 0xDC00 ≤ r2 ∧ r2 < 0xE000 then
      (r1 - 0xD800) * 0x400 + (r2 - 0xDC00) + 0x10000
    else RuneError
  | none => RuneError

/-- `unquoteBytes` on the bytes between the quotes: the string a literal denotes, or `none`.
Go first returns the bytes as they are when they hold no escape and no invalid UTF-8; the loop
below gives the same bytes there. -/
def unquote (s : GoString) : Option GoString :=
  match s with
  | [] => some []
  | c :: t =>
    if c = backslash then
      match t with
      | [] => none
      | e :: t =>
        if e = quoteByte ∨ e = backslash ∨ e = ch '/' ∨ e.val = 0x27 then (e :: ·) <$> unquote t
        else if e = ch 'b' then (byte 0x08 :: ·) <$> unquote t
        else if e = ch 'f' then (byte 0x0C :: ·) <$> unquote t
        else if e = ch 'n' then (byte 0x0A :: ·) <$> unquote t
        else if e = ch 'r' then (byte 0x0D :: ·) <$> unquote t
        else if e = ch 't' then (byte 0x09 :: ·) <$> unquote t
        else if e = ch 'u' then
          match getu4 (c :: e :: t) with
          | none => none
          | some rr =>
            if 0xD800 ≤ rr ∧ rr < 0xE000 then
              if decodeUTF16 rr (getu4 (t.drop 4)) ≠ RuneError then
                (encodeRune (decodeUTF16 rr (getu4 (t.drop 4))) ++ ·) <$> unquote (t.drop 10)
              else (encodeRune RuneError ++ ·) <$> unquote (t.drop 4)
            else (encodeRune rr ++ ·) <$> unquote (t.drop 4)
        else none
    else if c = quoteByte ∨ c.val < 0x20 then none
    else if c.val < 0x80 then (c :: ·) <$> unquote t
    else (encodeRune (decodeRune (c :: t)).1 ++ ·) <$>
      unquote ((c :: t).drop (decodeRune (c :: t)).2)
termination_by s.length
decreasing_by
  all_goals simp_wf
  all_goals first
    | omega
    | exact Nat.sub_lt (Nat.succ_pos _) (decodeRune_size_pos _ _)
    | exact decodeRune_size_pos _ _

/-! ## Values -/

/-- A JSON value, as the decoder sees it. -/
inductive JsonValue
  | null
  | bool (b : Bool)
  | number (text : GoString)
  | string (s : GoString)
  | array (elems : List JsonValue)
  | object (members : List (GoString × JsonValue))

/-- The digits at the start of `s`, at least one, and the bytes after them. -/
def lexDigits (s : GoString) : Option (GoString × GoString) :=
  match s.span isDigit with
  | ([], _) => none
  | r => some r

/-- The fraction and exponent parts of a number (`stateDot`, `stateE` and the states after
them), after its integer part `acc`. -/
def lexFraction (acc s : GoString) : Option (GoString × GoString) := do
  let (acc, s) ← match s with
    | c :: t => if c = ch '.' then (lexDigits t).map fun r => (acc ++ c :: r.1, r.2) else some (acc, s)
    | [] => some (acc, s)
  match s with
  | c :: t =>
    if c = ch 'e' ∨ c = ch 'E' then
      match t with
      | d :: u =>
        if d = ch '+' ∨ d = ch '-' then (lexDigits u).map fun r => (acc ++ c :: d :: r.1, r.2)
        else (lexDigits t).map fun r => (acc ++ c :: r.1, r.2)
      | [] => none
    else some (acc, s)
  | [] => some (acc, s)

/-- A number at the start of `s` (`stateNeg`, `state0`, `state1` and the states after them). -/
def lexNumber (s : GoString) : Option (GoString × GoString) :=
  let (sign, s) : GoString × GoString := match s with
    | c :: t => if c = ch '-' then ([c], t) else ([], c :: t)
    | [] => ([], [])
  match s with
  | c :: t =>
    if c = ch '0' then lexFraction (sign ++ [c]) t
    else if 0x31 ≤ c.val ∧ c.val ≤ 0x39 then
      let r := t.span isDigit
      lexFraction (sign ++ c :: r.1) r.2
    else none
  | [] => none

/-- A string literal at the start of `s`, after its opening quote, unquoted. -/
def parseString (s : GoString) : Option (GoString × GoString) := do
  let (raw, rest) ← lexString .inString s
  let v ← unquote raw
  some (v, rest)

/-- The members of an object after `{` and a first non-blank byte other than `}`, each
value read by `value`; `fuel` bounds their number. -/
def parseMembers (value : GoString → Option (JsonValue × GoString)) :
    Nat → GoString → Option (List (GoString × JsonValue) × GoString)
  | 0, _ => none
  | fuel + 1, s =>
    match skipSpace s with
    | c :: t =>
      if c ≠ quoteByte then none
      else match parseString t with
        | none => none
        | some (key, t) =>
          match skipSpace t with
          | d :: t =>
            if d ≠ ch ':' then none
            else match value t with
              | none => none
              | some (v, t) =>
                match skipSpace t with
                | e :: t =>
                  if e = ch ',' then
                    (fun r => ((key, v) :: r.1, r.2)) <$> parseMembers value fuel t
                  else if e.val = 0x7D then some ([(key, v)], t)
                  else none
                | [] => none
          | [] => none
    | [] => none

/-- The elements of an array after `[` and a first non-blank byte other than `]`. -/
def parseElements (value : GoString → Option (JsonValue × GoString)) :
    Nat → GoString → Option (List JsonValue × GoString)
  | 0, _ => none
  | fuel + 1, s =>
    match value s with
    | none => none
    | some (v, t) =>
      match skipSpace t with
      | e :: t =>
        if e = ch ',' then (fun r => (v :: r.1, r.2)) <$> parseElements value fuel t
        else if e = ch ']' then some ([v], t)
        else none
      | [] => none

/-- `maxNestingDepth`: the most arrays and objects the scanner lets be open at once. -/
def maxNestingDepth : Nat := 10000

/-- A JSON value after white space at the start of `s`, and the bytes after it, inside `depth`
open arrays and objects. An array or object that would open more than `maxNestingDepth` is the
error of `pushParseState`. `fuel` bounds the nesting depth and the length of each object and
array; `parse` gives the length of the input, which no input exhausts. -/
def parseValue : Nat → Nat → GoString → Option (JsonValue × GoString)
  | 0, _, _ => none
  | fuel + 1, depth, s =>
    match skipSpace s with
    | [] => none
    | c :: t =>
      if c.val = 0x7B then
        if maxNestingDepth < depth + 1 then none
        else match skipSpace t with
        | d :: u =>
          if d.val = 0x7D then some (.object [], u)
          else
            (fun r => (.object r.1, r.2)) <$> parseMembers (parseValue fuel (depth + 1)) fuel t
        | [] => none
      else if c = ch '[' then
        if maxNestingDepth < depth + 1 then none
        else match skipSpace t with
        | d :: u =>
          if d = ch ']' then some (.array [], u)
          else (fun r => (.array r.1, r.2)) <$> parseElements (parseValue fuel (depth + 1)) fuel t
        | [] => none
      else if c = quoteByte then (fun r => (.string r.1, r.2)) <$> parseString t
      else if (c :: t).take 4 = lit "true" then some (.bool true, (c :: t).drop 4)
      else if (c :: t).take 5 = lit "false" then some (.bool false, (c :: t).drop 5)
      else if (c :: t).take 4 = lit "null" then some (.null, (c :: t).drop 4)
      else (fun r => (.number r.1, r.2)) <$> lexNumber (c :: t)

/-- `checkValid` and the first phase of `Unmarshal`: the value `data` holds, or `none` for a
`SyntaxError`, which includes anything but white space after the value. -/
def parse (data : GoString) : Option JsonValue :=
  match parseValue (data.length + 1) 0 data with
  | some (v, rest) => if skipSpace rest = [] then some v else none
  | none => none

theorem skipSpace_cons {c : Byte} (h : isSpace c = false) (t : GoString) :
    skipSpace (c :: t) = c :: t := by
  simp [skipSpace, List.dropWhile_cons, h]

/-- **The scanner's depth limit.** Inside `depth` open arrays and objects, a value that opens
`k + 1` arrays at once is refused when that passes `maxNestingDepth`, whatever follows. -/
theorem parseValue_deep (k : Nat) : ∀ (fuel depth : Nat) (rest : GoString),
    maxNestingDepth < depth + (k + 1) →
      parseValue fuel depth (List.replicate (k + 1) (ch '[') ++ rest) = none := by
  induction k with
  | zero =>
    rintro (_ | fuel) depth rest h
    · rfl
    · rw [parseValue]
      simp +decide only [List.replicate, List.cons_append, skipSpace_cons, if_false, if_true]
      rw [if_pos h]
  | succ k ih =>
    rintro (_ | fuel) depth rest h
    · rfl
    rw [parseValue]
    simp +decide only [List.replicate, List.cons_append, skipSpace_cons, if_false, if_true]
    split_ifs
    · rfl
    rcases fuel with _ | fuel
    · rfl
    rw [parseElements, ← List.cons_append, ← List.replicate_succ,
      ih (fuel + 1) (depth + 1) rest (by omega)]
    rfl

/-- A document that opens more than `maxNestingDepth` arrays at once does not parse. -/
theorem parse_deep (rest : GoString) :
    parse (List.replicate (maxNestingDepth + 1) (ch '[') ++ rest) = none := by
  rw [parse, parseValue_deep maxNestingDepth _ 0 rest (by decide)]

/-! ## Structs of strings -/

/-- The fields of a struct of strings after the first, as `structEncoder.encode` writes them:
each after a comma, as `"name":value`. -/
def encodeFields : List (GoString × GoString) → GoString
  | [] => []
  | f :: fs => ch ',' :: encodeString f.1 ++ ch ':' :: encodeString f.2 ++ encodeFields fs

/-- `structEncoder.encode` for a struct whose fields are all strings, given as pairs of a JSON
name and a value. Go writes `{` before the first field and `,` before each other one, and `}`
at the end (`{}` for a struct with no fields). -/
def encodeStruct : List (GoString × GoString) → GoString
  | [] => [byte 0x7B, byte 0x7D]
  | f :: fs => byte 0x7B :: encodeString f.1 ++ ch ':' :: encodeString f.2 ++ encodeFields fs ++
    [byte 0x7D]

/-- An ASCII letter. -/
def isLetter (c : Byte) : Bool :=
  decide ((0x41 ≤ c.val ∧ c.val ≤ 0x5A) ∨ (0x61 ≤ c.val ∧ c.val ≤ 0x7A))

/-- Go's `asciiEqualFold`, the fold `foldFunc` gives a name of ASCII bytes without `k`, `K`,
`s` or `S` (or `simpleLetterEqualFold`, which it gives a name of letters only and which agrees
with it there): the same length, and each byte equal, or, where the name has a letter, equal up
to `caseMask`. -/
def equalFold : GoString → GoString → Bool
  | [], [] => true
  | s :: ss, t :: ts =>
    (s == t || (isLetter s && s.val &&& 0xDF == t.val &&& 0xDF)) && equalFold ss ts
  | _, _ => false

/-- `smallLongEss`, U+017F, which folds to `s`. -/
def smallLongEss : Nat := 0x17F

/-- `kelvin`, U+212A, which folds to `k`. -/
def kelvin : Nat := 0x212A

/-- Go's `equalFoldRight`, the fold `foldFunc` gives a name of ASCII bytes with a `k`, `K`, `s`
or `S`. An ASCII byte of the key matches a byte of the name as in `equalFold`. A rune of the key
past ASCII matches an `s` or `S` of the name when it is U+017F and a `k` or `K` when it is
U+212A, and nothing else. For an ASCII byte `sb`, Go's test `'A' <= sb&caseMask <= 'Z'` is
`isLetter sb`. -/
def equalFoldRight : GoString → GoString → Bool
  | [], t => t.isEmpty
  | _ :: _, [] => false
  | sb :: s, tb :: t =>
    if tb.val < 0x80 then
      (sb == tb || (isLetter sb && sb.val &&& 0xDF == tb.val &&& 0xDF)) && equalFoldRight s t
    else
      (if sb = ch 's' ∨ sb = ch 'S' then (decodeRune (tb :: t)).1 == smallLongEss
        else if sb = ch 'k' ∨ sb = ch 'K' then (decodeRune (tb :: t)).1 == kelvin
        else false) &&
        equalFoldRight s ((tb :: t).drop (decodeRune (tb :: t)).2)

/-- A byte `foldFunc` calls special: one whose `b & caseMask` is `K` or `S`. -/
def isSpecialFold (b : Byte) : Bool :=
  b.val &&& 0xDF == 0x4B || b.val &&& 0xDF == 0x53

/-- `foldFunc`, for a name of ASCII bytes: `equalFoldRight` when it has a special letter,
otherwise `asciiEqualFold` or `simpleLetterEqualFold`, both `equalFold` here. Go gives a name
with a byte past ASCII `bytes.EqualFold`, which no struct of the model needs: their names are
ASCII (`StringField.name_ascii`). -/
def foldFunc (name : GoString) : GoString → GoString → Bool :=
  if name.any isSpecialFold then equalFoldRight else equalFold

/-- A field of type `string` of a struct `S`, by its JSON name, which is ASCII, and how a value
is stored into it. -/
structure StringField (S : Type) where
  name : GoString
  name_ascii : ∀ b ∈ name, b.val < 0x80
  set : S → GoString → S

variable {S : Type}

/-- The field `Unmarshal` stores a key into: the field whose name is the key, otherwise the
first whose name the key matches under the field's `foldFunc`, otherwise none (the member is
skipped). -/
def selectField (fields : List (StringField S)) (key : GoString) : Option (StringField S) :=
  match fields.find? (·.name == key) with
  | some f => some f
  | none => fields.find? fun f => foldFunc f.name f.name key

/-- One member of an object stored into a struct of strings: a string replaces the field,
`null` leaves it, and any other value is an `UnmarshalTypeError`, which Go records and returns
once the object is read. -/
def storeMember (fields : List (StringField S)) (st : S) (m : GoString × JsonValue) :
    Option S :=
  match selectField fields m.1 with
  | none => some st
  | some f =>
    match m.2 with
    | .string s => some (f.set st s)
    | .null => some st
    | _ => none

/-- A decoded value stored into a struct of strings that starts as `st`: the members of an
object in order, a later member overriding an earlier one; `null` leaves the struct; any
other value is an `UnmarshalTypeError`. -/
def unmarshalValue (fields : List (StringField S)) (v : JsonValue) (st : S) : Option S :=
  match v with
  | .object ms => ms.foldlM (storeMember fields) st
  | .null => some st
  | _ => none

/-- `json.Unmarshal(data, &st)` for a struct of strings: `none` for any error. -/
def unmarshal (fields : List (StringField S)) (data : GoString) (st : S) : Option S :=
  (parse data).bind fun v => unmarshalValue fields v st

/-- `json.NewDecoder(body).Decode(&st)` for a struct of strings: the first value of the stream,
whatever follows it; an empty stream is `io.EOF`, an error. -/
def decode (fields : List (StringField S)) (body : GoString) (st : S) : Option S :=
  (parseValue (body.length + 1) 0 body).bind fun r => unmarshalValue fields r.1 st

/-! ## What the folds match -/

/-- On a key of ASCII bytes, `equalFoldRight` is `equalFold`: the two differ only on runes past
ASCII. -/
theorem equalFoldRight_of_ascii : ∀ {name key : GoString}, (∀ b ∈ key, b.val < 0x80) →
    equalFoldRight name key = equalFold name key
  | [], [], _ => rfl
  | [], _ :: _, _ => rfl
  | _ :: _, [], _ => rfl
  | _ :: _, tb :: _, h => by
    rw [equalFoldRight, if_pos (h tb (List.mem_cons_self _ _)), equalFold,
      equalFoldRight_of_ascii fun b hb => h b (List.mem_cons_of_mem _ hb)]

/-- On a key of ASCII bytes, every field's fold is `equalFold`. -/
theorem foldFunc_of_ascii (name : GoString) {key : GoString} (h : ∀ b ∈ key, b.val < 0x80) :
    foldFunc name name key = equalFold name key := by
  unfold foldFunc
  split_ifs
  exacts [equalFoldRight_of_ascii h, rfl]

/-- The key that spells each `s` of a name as U+017F, `ſ`, whose bytes are `C5 BF`. -/
def longS (name : GoString) : GoString :=
  name.flatMap fun b => if b = ch 's' then [byte 0xC5, byte 0xBF] else [b]

theorem longS_cons (b : Byte) (name : GoString) :
    longS (b :: name) = (if b = ch 's' then [byte 0xC5, byte 0xBF] else [b]) ++ longS name :=
  rfl

/-- `equalFoldRight` matches an ASCII name with the key that spells its `s` as `ſ`, which no
exact match and no `equalFold` does: `Unmarshal` stores a key `paſſword` into a field named
`password`. -/
theorem equalFoldRight_longS : ∀ {name : GoString}, (∀ b ∈ name, b.val < 0x80) →
    equalFoldRight name (longS name) = true
  | [], _ => rfl
  | b :: name, h => by
    have ih := equalFoldRight_longS fun c hc => h c (List.mem_cons_of_mem _ hc)
    by_cases hs : b = ch 's'
    · subst hs
      have hd : decodeRune (byte 0xC5 :: byte 0xBF :: longS name) = (smallLongEss, 2) :=
        decodeRune_rune2 _ (by decide) (by decide) (by decide) (by decide)
      rw [longS_cons, if_pos rfl, List.cons_append, List.cons_append, List.nil_append]
      simp only [equalFoldRight]
      rw [if_neg (by decide), hd]
      simpa using ih
    · rw [longS_cons, if_neg hs, List.cons_append, List.nil_append]
      simp [equalFoldRight, h b (List.mem_cons_self b name), ih]

example : equalFoldRight (lit "password") (longS (lit "password")) = true ∧
    equalFold (lit "password") (longS (lit "password")) = false := by
  decide

end WeaveGitops.Go.Json
