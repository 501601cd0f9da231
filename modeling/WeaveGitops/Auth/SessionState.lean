import WeaveGitops.Go.JsonRoundTrip
import WeaveGitops.Http.Query
import WeaveGitops.Auth.Callback

/-!
# The session state through the browser

`startAuthFlow` puts the session state into the state cookie and the authorize URL as
`base64(json.Marshal(state))`, and `Callback` reads it back with `DecodeString` and
`json.Unmarshal`. The round trip gives back the nonce and the return URL coerced to UTF-8
(`decodeState_encodeState`): the JSON encoder writes each byte that starts no UTF-8 sequence
as U+FFFD, so a return URL that is not valid UTF-8 comes back changed (`sessionState_invalid_utf8`,
where one byte `FF` comes back as the three of U+FFFD), and any other comes back as it was
(`coerceUTF8_eq_self_iff`).

`sessionState_round_trip` carries this through `Callback`: a callback that presents the state
as cookie and parameter passes every check and redirects to the return URL. What carries the
state from the authorize URL to the callback is the provider, which reads it from the URL's
query: `startAuthFlow_authorize_query` says that `ParseQuery` reads there the same `state` as the
cookie's, with the client, the redirect URL and the scopes.
-/

namespace WeaveGitops.Auth

open WeaveGitops.Go WeaveGitops.Go.Json WeaveGitops.Http

theorem unmarshal_marshalSessionState (n u : GoString) :
    unmarshalSessionState (marshalSessionState ⟨n, u⟩) = some ⟨coerceUTF8 n, coerceUTF8 u⟩ := by
  have hn : coerceUTF8 (lit "n") = lit "n" := coerceUTF8_of_ascii (lit_ascii (by decide))
  have hr : coerceUTF8 (lit "return_url") = lit "return_url" :=
    coerceUTF8_of_ascii (lit_ascii (by decide))
  rw [unmarshalSessionState, marshalSessionState, unmarshal, parse_encodeStruct]
  simp only [List.map, hn, hr, Option.bind_some]
  rfl

/-- The session state decoded from the value `startAuthFlow` writes: the nonce and the return
URL, coerced to UTF-8. -/
theorem decodeState_encodeState (n u : GoString) :
    (Base64.decodeString (Base64.encodeToString (marshalSessionState ⟨n, u⟩))).bind
      unmarshalSessionState = some ⟨coerceUTF8 n, coerceUTF8 u⟩ := by
  rw [Base64.decodeString_encodeToString, Option.some_bind, unmarshal_marshalSessionState]

/-- A GET to `Callback` with no `error`, a code, and as state cookie and parameter the encoded
session state of `n` and `u`, on a server with a provider whose exchange and verification
succeed, passes its checks with that session state, issues the tokens and redirects to `u`
coerced to UTF-8. -/
theorem respond_callback_of_state {s : AuthServer} {p : Provider} (hp : s.provider = some p)
    {env : Env} {r : Request} {n u : GoString} {tok : Token} {raw : GoString}
    (hm : r.method = methodGet) (he : r.formValue (lit "error") = [])
    (hc : r.formValue (lit "code") ≠ [])
    (hck : r.cookie stateCookieName = some (Base64.encodeToString (marshalSessionState ⟨n, u⟩)))
    (hs : r.formValue (lit "state") = Base64.encodeToString (marshalSessionState ⟨n, u⟩))
    (hx : env.exchange (r.formValue (lit "code")) = .ok tok) (hi : tok.idToken = some raw)
    (hv : env.verify raw = .ok ()) :
    callbackChecks r = .ok (r.formValue (lit "code"), ⟨coerceUTF8 n, coerceUTF8 u⟩) ∧
    respond (s.callback env r) = some ⟨303, [], s.createCookie env.now idTokenCookieName raw ::
      ((if tok.refreshToken ≠ [] then
        [s.createCookie env.now refreshTokenCookieName tok.refreshToken] else []) ++
        [clearCookie stateCookieName]), some (coerceUTF8 u), []⟩ := by
  obtain ⟨b, hb, hub⟩ := Option.bind_eq_some.1 (decodeState_encodeState n u)
  have hok : callbackChecks r = .ok (r.formValue (lit "code"), ⟨coerceUTF8 n, coerceUTF8 u⟩) :=
    callbackChecks_eq_ok.2 ⟨hm, he, rfl, hc, _, b, hck, hs, hb, hub⟩
  refine ⟨hok, ?_⟩
  simp only [AuthServer.callback, hok, AuthServer.callbackExchange,
    AuthServer.oauth2Config_of_provider hp, hx, hi, AuthServer.verifier_of_provider hp, hv,
    respond_call_cons, respond_issueTokens]

/-- **The session state round trip.** `startAuthFlow`, with a nonce `n` and a return URL `u`,
writes one value `state` to the state cookie and to the authorize URL. Decoding it gives back
both coerced to UTF-8: the nonce as it was, since it is base64, and the return URL as it was
exactly when it is valid UTF-8. A GET to `Callback` with no `error`, a code, and `state` as cookie and
as parameter passes every check with that session state and, when the exchange and the ID token
verification succeed on a server with a provider, redirects with `303` to the coerced return
URL. -/
theorem sessionState_round_trip (n u : GoString) :
    let state := Base64.encodeToString (marshalSessionState ⟨n, u⟩)
    (∀ (s : AuthServer) (p : Provider) (env : Env) (r : Request), s.provider = some p →
      generateNonce env = .ok n → returnUrlOf r = u →
      ∃ cfg, s.oauth2Config [scopeProfile] = .ok cfg ∧
        s.startAuthFlow env r = [.rw (.setCookie (s.createCookie env.now stateCookieName state)),
          .rw (.redirect (cfg.authCodeURL state) 303)]) ∧
    (Base64.decodeString state).bind unmarshalSessionState = some ⟨coerceUTF8 n, coerceUTF8 u⟩ ∧
    (∀ env, generateNonce env = .ok n → coerceUTF8 n = n) ∧
    (coerceUTF8 u = u ↔ validString u = true) ∧
    ∀ (s : AuthServer) (p : Provider) (env : Env) (r : Request) (tok : Token) (raw : GoString),
      s.provider = some p → r.method = methodGet → r.formValue (lit "error") = [] →
      r.formValue (lit "code") ≠ [] → r.cookie stateCookieName = some state →
      r.formValue (lit "state") = state → env.exchange (r.formValue (lit "code")) = .ok tok →
      tok.idToken = some raw → env.verify raw = .ok () →
      callbackChecks r = .ok (r.formValue (lit "code"), ⟨coerceUTF8 n, coerceUTF8 u⟩) ∧
      ∃ resp, respond (s.callback env r) = some resp ∧ resp.status = 303 ∧
        resp.location = some (coerceUTF8 u) := by
  intro state
  refine ⟨fun s p env r hp hn hu => ?_, decodeState_encodeState n u,
    fun env hn => coerceUTF8_of_generateNonce hn, coerceUTF8_eq_self_iff u,
    fun s p env r tok raw hp hm he hc hck hs hx hi hv => ?_⟩
  · subst hu
    exact startAuthFlow_eq hp hn r
  obtain ⟨hok, hr⟩ := respond_callback_of_state hp hm he hc hck hs hx hi hv
  exact ⟨hok, _, hr, rfl, rfl⟩

theorem sessionState_round_trip_empty :
    let state := Base64.encodeToString (marshalSessionState ⟨[], []⟩)
    let r := exampleRequest methodGet (lit "/oauth2/callback")
      [(lit "code", lit "c"), (lit "state", state)] [(lit "state", state)]
    callbackChecks r = .ok (lit "c", ⟨coerceUTF8 [], coerceUTF8 []⟩) ∧
      ∃ resp, respond (issuerServer.callback grantingEnv r) = some resp ∧ resp.status = 303 ∧
        resp.location = some (coerceUTF8 []) := by
  intro state r
  exact (sessionState_round_trip [] []).2.2.2.2 issuerServer _ grantingEnv r _ (lit "raw") rfl rfl
    (by decide) (by decide) rfl rfl rfl rfl rfl

theorem marshalSessionState_ne_nil (st : SessionState) : marshalSessionState st ≠ [] := by
  simp [marshalSessionState, encodeStruct]

/-- **The authorize URL carries the state cookie.** On a server with a provider whose
authorization endpoint has neither query nor fragment, `startAuthFlow` sets the state cookie to
`state` and redirects to the endpoint, `?`, and a query from which `ParseQuery` reads, in order,
the client id, the redirect URL when there is one, the response type `code`, the five scopes
separated by spaces, and the same `state`. -/
theorem startAuthFlow_authorize_query {s : AuthServer} {p : Provider} (hp : s.provider = some p)
    (hq : ch '?' ∉ p.endpoint.authURL) (hf : ch '#' ∉ p.endpoint.authURL) {env : Env}
    {nonce : GoString} (hn : generateNonce env = .ok nonce) (r : Request) :
    let state := Base64.encodeToString (marshalSessionState ⟨nonce, returnUrlOf r⟩)
    ∃ url, s.startAuthFlow env r = [.rw (.setCookie (s.createCookie env.now stateCookieName state)),
        .rw (.redirect url 303)] ∧
      url = p.endpoint.authURL ++ ch '?' :: rawQuery url ∧
      parseQuery (rawQuery url) = [(lit "client_id", s.config.clientID)] ++
        (if s.config.redirectURL = [] then [] else [(lit "redirect_uri", s.config.redirectURL)]) ++
        [(lit "response_type", lit "code"),
          (lit "scope", lit "profile openid offline_access email groups"), (lit "state", state)] := by
  intro state
  obtain ⟨cfg, hcfg, hflow⟩ := startAuthFlow_eq hp hn r
  rw [AuthServer.oauth2Config_of_provider hp, Except.ok.injEq] at hcfg
  subst hcfg
  have hst : state ≠ [] := fun h =>
    marshalSessionState_ne_nil _ (Base64.encodeToString_eq_nil_iff.1 h)
  have hsc : [ch ' '].intercalate (forcedScopes.foldl ensureScope [scopeProfile]) =
      lit "profile openid offline_access email groups" := by decide
  refine ⟨_, hflow, ?_⟩
  simp only [OAuth2Config.authCodeURL, if_neg hq, if_false, rawQuery_encodeValues hq hf,
    parseQuery_encodeValues]
  simp [hst, hsc, show forcedScopes.foldl ensureScope [scopeProfile] ≠ [] by decide]

theorem startAuthFlow_authorize_query_issuer :
    let r := exampleRequest methodGet (lit "/oauth2") [] []
    let state := Base64.encodeToString
      (marshalSessionState ⟨Base64.encodeToString (List.replicate 32 0), lit "/oauth2"⟩)
    ∃ url, issuerServer.startAuthFlow grantingEnv r =
        [.rw (.setCookie (issuerServer.createCookie 0 stateCookieName state)),
          .rw (.redirect url 303)] ∧
      url = lit "/authorize" ++ ch '?' :: rawQuery url ∧
      parseQuery (rawQuery url) = [(lit "client_id", lit "client"),
        (lit "redirect_uri", lit "/oauth2/callback"), (lit "response_type", lit "code"),
        (lit "scope", lit "profile openid offline_access email groups"), (lit "state", state)] :=
  @startAuthFlow_authorize_query issuerServer _ rfl (by decide) (by decide) grantingEnv _ rfl _

theorem coerceUTF8_ff : coerceUTF8 [byte 0xFF] = [byte 0xEF, byte 0xBF, byte 0xBD] := by
  rw [coerceUTF8, runes_cons]
  simp [decodeRune, coerceRune, isInvalid, encodeRune, encodeRune3, RuneError]

/-- A return URL that is the single byte `0xFF` comes back as the encoding of U+FFFD. -/
theorem sessionState_invalid_utf8 :
    (Base64.decodeString (Base64.encodeToString (marshalSessionState ⟨[], [byte 0xFF]⟩))).bind
      unmarshalSessionState = some ⟨[], [byte 0xEF, byte 0xBF, byte 0xBD]⟩ := by
  rw [decodeState_encodeState, coerceUTF8_ff]
  simp [coerceUTF8]

end WeaveGitops.Auth
