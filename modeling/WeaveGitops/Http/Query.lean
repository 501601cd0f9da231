import Mathlib.Data.List.Basic
import WeaveGitops.Http.Request

/-!
# Query strings of `net/url`

What reads a query string back: `url.QueryUnescape`, `url.ParseQuery` (as `URL.Query()` and
`Request.FormValue` call it, dropping its error) and the `RawQuery` that `url.Parse` cuts out of
a URL. With the encoder of the previous module they make a round trip:

* `queryUnescape_queryEscape`: `QueryUnescape` undoes `QueryEscape`;
* `parseQuery_encodeValues`: `ParseQuery` gives back, in order, the pairs `Values.Encode`
  wrote, since an escaped key or value holds no `&`, `=` or `;`.
-/

namespace WeaveGitops.Http

open WeaveGitops.Go

/-- `ishex`: a hexadecimal digit, in either case. -/
def ishex (c : Byte) : Bool :=
  decide ((0x30 ≤ c.val ∧ c.val ≤ 0x39) ∨ (0x61 ≤ c.val ∧ c.val ≤ 0x66) ∨
    (0x41 ≤ c.val ∧ c.val ≤ 0x46))

/-- `unhex`: the value of a hexadecimal digit, `0` for any other byte. -/
def unhex (c : Byte) : Nat :=
  if 0x30 ≤ c.val ∧ c.val ≤ 0x39 then c.val - 0x30
  else if 0x61 ≤ c.val ∧ c.val ≤ 0x66 then c.val - 0x61 + 10
  else if 0x41 ≤ c.val ∧ c.val ≤ 0x46 then c.val - 0x41 + 10
  else 0

/-- `url.QueryUnescape`: `%XX` becomes the byte `0xXX` and `+` a space; a `%` not followed by two
hexadecimal digits is an `EscapeError` (`none`). Go checks the whole string before it builds the
result; the single pass here fails on the same strings. -/
def queryUnescape : GoString → Option GoString
  | [] => some []
  | c :: s =>
    if c = ch '%' then
      match s with
      | h1 :: h2 :: rest =>
        if ishex h1 ∧ ishex h2 then (byte (unhex h1 * 16 + unhex h2) :: ·) <$> queryUnescape rest
        else none
      | _ => none
    else if c = ch '+' then (ch ' ' :: ·) <$> queryUnescape s
    else (c :: ·) <$> queryUnescape s

theorem queryUnescape_cons_of_ne {c : Byte} (h : c ≠ ch '%') (s : GoString) :
    queryUnescape (c :: s) = if c = ch '+' then (ch ' ' :: ·) <$> queryUnescape s
      else (c :: ·) <$> queryUnescape s := by
  rw [queryUnescape.eq_def]
  simp only [if_neg h]

theorem queryUnescape_escape (h1 h2 : Byte) (rest : GoString) :
    queryUnescape (ch '%' :: h1 :: h2 :: rest) = if ishex h1 ∧ ishex h2 then
      (byte (unhex h1 * 16 + unhex h2) :: ·) <$> queryUnescape rest else none := by
  rw [queryUnescape.eq_2, if_pos rfl]

/-- `strings.Cut(s, sep)` for a one-byte separator: what stands before and after the first
`sep`, the whole string and `""` when there is none. -/
def cut (sep : Byte) (s : GoString) : GoString × GoString :=
  (s.takeWhile (· != sep), (s.dropWhile (· != sep)).drop 1)

/-- One segment of a query: the unescaped key and value around its first `=`, or `none` where
`ParseQuery` skips it: an empty segment, one holding a `;`, or one with a bad escape. -/
def parseSegment (seg : GoString) : Option (GoString × GoString) :=
  if seg = [] ∨ ch ';' ∈ seg then none
  else
    match queryUnescape (cut (ch '=') seg).1, queryUnescape (cut (ch '=') seg).2 with
    | some k, some v => some (k, v)
    | _, _ => none

/-- `url.ParseQuery` with its error dropped, as `URL.Query()` drops it: the pairs of the
segments between the `&`, in order. A `url.Values` maps a key to its values in order and `Get`
reads the first, which is `lookup` on these pairs. -/
def parseQuery (q : GoString) : List (GoString × GoString) :=
  (q.splitOn (ch '&')).filterMap parseSegment

/-- The `RawQuery` of `url.Parse(s)` when it succeeds: what follows the first `?`, up to the
fragment, which `Parse` cuts off first at the first `#`. The checks that make `Parse` fail are
not modelled. -/
def rawQuery (s : GoString) : GoString :=
  ((s.takeWhile (· != ch '#')).dropWhile (· != ch '?')).drop 1

/-! ## What `QueryEscape` writes -/

/-- The sixteen digits `QueryEscape` writes are hexadecimal and unreserved, and `unhex` reads
each back. -/
theorem upperhex_spec : ∀ i < 16,
    ishex (upperhex i) = true ∧ unhex (upperhex i) = i ∧ isUnreserved (upperhex i) = true := by
  decide

/-- Every byte `QueryEscape` writes is `+`, `%` or unreserved. -/
theorem mem_queryEscape {b : Byte} : ∀ {s : GoString}, b ∈ queryEscape s →
    b = ch '+' ∨ b = ch '%' ∨ isUnreserved b = true
  | [], h => absurd h (List.not_mem_nil b)
  | c :: s, h => by
    rw [queryEscape, List.mem_append] at h
    rcases h with h | h
    · split_ifs at h with h1 h2
      · exact .inl (List.mem_singleton.1 h)
      · exact .inr (.inr (List.mem_singleton.1 h ▸ h2))
      · simp only [List.mem_cons, List.mem_singleton, List.not_mem_nil, or_false] at h
        rcases h with rfl | rfl | rfl
        · exact .inr (.inl rfl)
        · exact .inr (.inr (upperhex_spec _
            (Nat.div_lt_of_lt_mul (show c.val < 16 * 16 by omega))).2.2)
        · exact .inr (.inr (upperhex_spec _ (Nat.mod_lt _ (by decide))).2.2)
    · exact mem_queryEscape h

/-- So a reserved byte other than `+` and `%`, such as `&`, `=`, `;`, `?` or `#`, never stands
in an escaped string. -/
theorem not_mem_queryEscape {b : Byte} (hb : b ≠ ch '+' ∧ b ≠ ch '%' ∧ isUnreserved b = false)
    (s : GoString) : b ∉ queryEscape s := fun h => by
  rcases mem_queryEscape h with h | h | h
  exacts [hb.1 h, hb.2.1 h, absurd h (by rw [hb.2.2]; decide)]

/-- Nor in an encoded pair, when it is not `=`. -/
theorem not_mem_encodePair {b : Byte}
    (hb : b ≠ ch '=' ∧ b ≠ ch '+' ∧ b ≠ ch '%' ∧ isUnreserved b = false)
    (kv : GoString × GoString) : b ∉ encodePair kv := by
  simp only [encodePair, List.mem_append, List.mem_cons, not_or]
  exact ⟨not_mem_queryEscape hb.2 kv.1, hb.1, not_mem_queryEscape hb.2 kv.2⟩

/-- `QueryUnescape` undoes `QueryEscape`. -/
@[simp] theorem queryUnescape_queryEscape : ∀ s, queryUnescape (queryEscape s) = some s
  | [] => by simp [queryEscape, queryUnescape]
  | c :: s => by
    have ih := queryUnescape_queryEscape s
    by_cases hsp : c = ch ' '
    · subst hsp
      simp [queryEscape, queryUnescape_cons_of_ne (show ch '+' ≠ ch '%' by decide), ih]
    by_cases hu : isUnreserved c
    · have h1 : c ≠ ch '%' := by rintro rfl; exact absurd hu (by decide)
      have h2 : c ≠ ch '+' := by rintro rfl; exact absurd hu (by decide)
      simp [queryEscape, queryUnescape_cons_of_ne h1, hsp, hu, h2, ih]
    · obtain ⟨hx1, hu1, -⟩ :=
        upperhex_spec _ (Nat.div_lt_of_lt_mul (show c.val < 16 * 16 by omega))
      obtain ⟨hx2, hu2, -⟩ := upperhex_spec _ (Nat.mod_lt c.val (by decide))
      have hc : byte (c.val / 16 * 16 + c.val % 16) = c := by
        ext
        simp only [byte, Fin.ofNat, Nat.div_add_mod', Nat.mod_eq_of_lt c.isLt]
      simp [queryEscape, hsp, hu, queryUnescape_escape, hx1, hx2, hu1, hu2, hc, ih]

/-! ## `ParseQuery` reads back what `Values.Encode` wrote -/

theorem mem_intercalate {α : Type} {x b : α} :
    ∀ {ls : List (List α)}, b ∈ [x].intercalate ls → b = x ∨ ∃ l ∈ ls, b ∈ l
  | [], h => by simp [List.intercalate] at h
  | [l], h => .inr ⟨l, List.mem_singleton_self l, by simpa [List.intercalate] using h⟩
  | l :: l' :: ls, h => by
    have : [x].intercalate (l :: l' :: ls) = l ++ x :: [x].intercalate (l' :: ls) := by
      simp [List.intercalate]
    rw [this, List.mem_append, List.mem_cons] at h
    rcases h with h | h | h
    · exact .inr ⟨l, List.mem_cons_self _ _, h⟩
    · exact .inl h
    · rcases mem_intercalate h with h | ⟨l'', hl, h⟩
      exacts [.inl h, .inr ⟨l'', List.mem_cons_of_mem _ hl, h⟩]

theorem cut_encodePair (kv : GoString × GoString) :
    cut (ch '=') (encodePair kv) = (queryEscape kv.1, queryEscape kv.2) := by
  have hk : ∀ b ∈ queryEscape kv.1, (b != ch '=') = true := fun b hb => by
    simpa using ne_of_mem_of_not_mem hb (not_mem_queryEscape (by decide) kv.1)
  simp [cut, encodePair, List.takeWhile_append_of_pos hk, List.dropWhile_append_of_pos hk]

/-- `ParseQuery` reads each segment back as its pair. -/
theorem parseSegment_encodePair (kv : GoString × GoString) :
    parseSegment (encodePair kv) = some kv := by
  rw [parseSegment, if_neg (not_or.2 ⟨by simp [encodePair], not_mem_encodePair (by decide) kv⟩),
    cut_encodePair]
  simp

/-- **`ParseQuery` inverts `Values.Encode`**: it reads back the pairs, in order. -/
theorem parseQuery_encodeValues (vs : List (GoString × GoString)) :
    parseQuery (encodeValues vs) = vs := by
  rcases eq_or_ne vs [] with rfl | hvs
  · rfl
  have hsep : ∀ l ∈ vs.map encodePair, ch '&' ∉ l := by
    simp only [List.mem_map]
    rintro _ ⟨kv, -, rfl⟩
    exact not_mem_encodePair (by decide) kv
  rw [parseQuery, encodeValues, List.splitOn_intercalate _ _ hsep (by simpa using hvs),
    List.filterMap_map]
  simp [Function.comp_def, parseSegment_encodePair]

/-- The `RawQuery` of a URL written as an endpoint with neither query nor fragment, `?`, and an
encoded query. -/
theorem rawQuery_encodeValues {u : GoString} (hq : ch '?' ∉ u) (hf : ch '#' ∉ u)
    (vs : List (GoString × GoString)) :
    rawQuery (u ++ ch '?' :: encodeValues vs) = encodeValues vs := by
  have hv : ch '#' ∉ encodeValues vs := fun h => by
    rcases mem_intercalate h with h | ⟨l, hl, h⟩
    · exact absurd h (by decide)
    · obtain ⟨kv, -, rfl⟩ := List.mem_map.1 hl
      exact not_mem_encodePair (by decide) kv h
  have hu : ∀ b ∈ u, (b != ch '?') = true := fun b hb => by
    simpa using ne_of_mem_of_not_mem hb hq
  rw [rawQuery, List.takeWhile_eq_self_iff.2 ?_, List.dropWhile_append_of_pos hu]
  · simp
  · intro b hb
    simp only [List.mem_append, List.mem_cons] at hb
    rcases hb with hb | rfl | hb
    · simpa using ne_of_mem_of_not_mem hb hf
    · decide
    · simpa using ne_of_mem_of_not_mem hb hv

end WeaveGitops.Http
