import WeaveGitops.Go.JsonRoundTrip
import WeaveGitops.Auth.Callback

/-!
# What `UserInfo` answers

`UserInfo` answers `200` only through `toJson`, whose body is `json.Marshal` of a `UserInfo`
with the email and nil groups. The encoder of `Go/Json.lean` writes structs of strings only, so
this body is written out as `toJson` has it, and `parse_userInfoBody` reads it back: an object
whose `email` is the email coerced to UTF-8 and whose `groups` is `null`.

`userInfo_ok` says what every `200` of `UserInfo` is: the answer to a GET with an `id_token`
cookie, setting no cookie, whose body reads back as the subject the local verifier found in the
cookie or, when it rejected the cookie, as the email the provider's user-info endpoint gave for
it on a server with a provider. The sign-in page reads `email` from that body.
-/

namespace WeaveGitops.Auth

open WeaveGitops.Go WeaveGitops.Go.Json WeaveGitops.Http

/-! ## The body read back -/

theorem parseValue_null (fuel depth : Nat) (rest : GoString) :
    parseValue (fuel + 1) depth (lit "null" ++ rest) = some (.null, rest) := by
  rw [parseValue]
  simp +decide [lit, skipSpace_cons]

theorem ascii_groups : ∀ b ∈ lit "groups", b.val < 0x80 :=
  lit_ascii (by decide)

theorem parseMembers_groups (m depth k : Nat) (rest : GoString) :
    parseMembers (parseValue (m + 1) depth) (k + 1)
      (encodeString (lit "groups") ++ ch ':' :: (lit "null" ++ byte 0x7D :: rest)) =
      some ([(lit "groups", .null)], rest) := by
  rw [parseMembers]
  simp +decide only [encodeString_append, List.cons_append, List.append_assoc, List.nil_append,
    skipSpace_cons, parseString_escapeString, parseValue_null, if_false, if_true,
    coerceUTF8_of_ascii ascii_groups]

theorem parseMembers_userInfo (m depth k : Nat) (email rest : GoString) :
    parseMembers (parseValue (m + 1) depth) (k + 2)
      (encodeString (lit "email") ++ ch ':' :: encodeString email ++ ch ',' ::
        (encodeString (lit "groups") ++ ch ':' :: (lit "null" ++ byte 0x7D :: rest))) =
      some ([(lit "email", .string (coerceUTF8 email)), (lit "groups", .null)], rest) := by
  have he : coerceUTF8 (lit "email") = lit "email" :=
    coerceUTF8_of_ascii (lit_ascii (by decide))
  have hm := parseMembers_groups m depth k rest
  simp only [encodeString_append, List.cons_append, List.append_assoc] at hm
  rw [parseMembers]
  simp +decide only [encodeString_append, List.cons_append, List.append_assoc, List.nil_append,
    skipSpace_cons, parseString_escapeString, parseValue_encodeString, if_false, if_true, he, hm]
  rfl

/-- The body `toJson` writes parses as the object of the email, coerced to UTF-8, and `null`
groups. -/
theorem parse_userInfoBody (email : GoString) :
    parse (byte 0x7B :: encodeString (lit "email") ++ ch ':' :: encodeString email ++
      lit ",\"groups\":null" ++ [byte 0x7D]) =
      some (.object [(lit "email", .string (coerceUTF8 email)), (lit "groups", .null)]) := by
  have htail : lit ",\"groups\":null" ++ [byte 0x7D] =
      ch ',' :: (encodeString (lit "groups") ++ ch ':' :: (lit "null" ++ byte 0x7D :: [])) := by
    rw [encodeString, escapeString, runes_of_ascii ascii_groups]
    decide
  obtain ⟨n, hL⟩ : ∃ n, (byte 0x7B :: encodeString (lit "email") ++ ch ':' ::
      encodeString email ++ lit ",\"groups\":null" ++ [byte 0x7D]).length = n + 3 :=
    ⟨(byte 0x7B :: encodeString (lit "email") ++ ch ':' :: encodeString email ++
      lit ",\"groups\":null" ++ [byte 0x7D]).length - 3, by simp [encodeString]; omega⟩
  have hm := parseMembers_userInfo (n + 2) 1 (n + 1) email []
  simp only [encodeString_append, List.cons_append, List.append_assoc] at hm
  rw [parse, hL, List.append_assoc, htail, parseValue]
  simp +decide only [encodeString_append, List.cons_append, List.append_assoc, skipSpace_cons,
    if_true, if_false, hm]
  rfl

/-! ## The answers of `UserInfo` -/

theorem respond_toJson (email : GoString) :
    respond (toJson email) = some ⟨200, [], [], none, byte 0x7B :: encodeString (lit "email") ++
      ch ':' :: encodeString email ++ lit ",\"groups\":null" ++ [byte 0x7D]⟩ :=
  rfl

/-- **What a `200` of `UserInfo` is.** Whatever the request and the collaborators, a `200`
answers a GET with an `id_token` cookie and sets no cookie. Its body parses as an object whose
`email` is, coerced to UTF-8, the subject the local verifier found in the cookie or, when the
verifier rejected it, the email the provider's user-info endpoint gave for the cookie on a
server with a provider; its `groups` is `null`. -/
theorem userInfo_ok {s : AuthServer} {env : Env} {r : Request} {resp : Response}
    (h : respond (s.userInfo env r) = some resp) (h200 : resp.status = 200) :
    r.method = methodGet ∧ resp.cookies = [] ∧ ∃ c email, r.cookie idTokenCookieName = some c ∧
      (env.verifyToken c = .ok email ∨ (∃ e, env.verifyToken c = .error e) ∧
        s.provider.isSome ∧ env.providerUserInfo c = .ok email) ∧
      parse resp.body =
        some (.object [(lit "email", .string (coerceUTF8 email)), (lit "groups", .null)]) := by
  unfold AuthServer.userInfo at h
  split_ifs at h with hm
  · cases h; cases h200
  refine ⟨not_not.1 hm, ?_⟩
  cases hc : r.cookie idTokenCookieName with
  | none => rw [hc] at h; cases h; cases h200
  | some c =>
    simp only [hc] at h
    cases hv : env.verifyToken c with
    | ok subject =>
      simp only [hv, respond_toJson, Option.some.injEq] at h
      subst h
      exact ⟨rfl, c, subject, rfl, .inl hv, parse_userInfoBody subject⟩
    | error e =>
      simp only [hv] at h
      cases hp : s.provider with
      | none => simp only [hp] at h; cases h
      | some p =>
        simp only [hp, respond_call_cons] at h
        cases hu : env.providerUserInfo c with
        | error e' =>
          simp only [hu, respond_httpError, Option.some.injEq] at h
          subst h; cases h200
        | ok email =>
          simp only [hu, respond_toJson, Option.some.injEq] at h
          subst h
          exact ⟨rfl, c, email, rfl, .inr ⟨⟨e, hv⟩, rfl, hu⟩, parse_userInfoBody email⟩

theorem userInfo_ok_admin :
    let env : Env := { grantingEnv with verifyToken := fun _ => .ok (lit "admin") }
    let r := exampleRequest methodGet (lit "/oauth2/userinfo") [] [(idTokenCookieName, lit "t")]
    ∃ resp, respond (issuerServer.userInfo env r) = some resp ∧ resp.status = 200 ∧
      r.method = methodGet ∧ resp.cookies = [] ∧ ∃ c email, r.cookie idTokenCookieName = some c ∧
        (env.verifyToken c = .ok email ∨ (∃ e, env.verifyToken c = .error e) ∧
          issuerServer.provider.isSome ∧ env.providerUserInfo c = .ok email) ∧
        parse resp.body =
          some (.object [(lit "email", .string (coerceUTF8 email)), (lit "groups", .null)]) := by
  intro env r
  exact ⟨_, rfl, rfl, userInfo_ok rfl rfl⟩

end WeaveGitops.Auth
