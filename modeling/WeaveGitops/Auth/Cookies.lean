import WeaveGitops.Auth.Callback

/-!
# Which responses issue an identity

The identity cookies are `id_token` and `refresh_token`. Each handler sets cookies in one place
at most (`signIn_setCookie`, `oauth2Flow_setCookie`, `userInfo_not_setCookie`,
`logout_setCookie`, and `callback_respond_cases` for `Callback`), and `response_cookie_cases`
puts them together: the list of every cookie a response can set. `identity_cookie_issuance`
reads the identity cookies off it: a response sets one to a non-empty value only when `SignIn`
accepted a password (the signed token, with `200`) or when `Callback` verified the ID token of a
successful exchange (that token, with `303`), and only `Callback` sets a refresh token.
`response_cookie_attributes` reads the attributes off the same list: no cookie is ever `Secure`,
and every cookie is either made by `createCookie` or a cleared one.
-/

namespace WeaveGitops.Auth

open WeaveGitops.Go WeaveGitops.Go.Json WeaveGitops.Http

/-- `SignIn` sets a cookie only on its success path: the signed token as `id_token`, with
`200`. -/
theorem signIn_setCookie {s : AuthServer} {env : Env} {r : Request} {c : Cookie}
    (h : Event.rw (.setCookie c) ∈ s.signIn env r) :
    r.method = methodPost ∧ ∃ lr secret signed, decode loginRequestFields r.body ⟨[]⟩ = some lr ∧
      env.getSecret adminPasswordHashKey = .ok secret ∧
      env.compareHashAndPassword (lookup secret.data (lit "password")) lr.password = .ok () ∧
      env.sign = .ok signed ∧ c = s.createCookie env.now idTokenCookieName signed ∧
      s.signIn env r = [.rw (.setCookie c), .rw (.writeHeader 200)] := by
  unfold AuthServer.signIn at h ⊢
  by_cases hm : r.method = methodPost
  swap
  · simp [hm] at h
  refine ⟨hm, ?_⟩
  simp only [hm, ne_eq, not_true_eq_false, if_false] at h ⊢
  obtain ⟨lr, hd⟩ : ∃ lr, decode loginRequestFields r.body ⟨[]⟩ = some lr := by
    cases hd : decode loginRequestFields r.body ⟨[]⟩ with
    | none => simp [hd, httpError, Http.error] at h
    | some lr => exact ⟨lr, rfl⟩
  obtain ⟨secret, hg⟩ : ∃ secret, env.getSecret adminPasswordHashKey = .ok secret := by
    cases hg : env.getSecret adminPasswordHashKey with
    | error e => simp [hd, hg, httpError, Http.error] at h
    | ok secret => exact ⟨secret, rfl⟩
  have hb : env.compareHashAndPassword (lookup secret.data (lit "password")) lr.password =
      .ok () := by
    cases hb : env.compareHashAndPassword (lookup secret.data (lit "password")) lr.password with
    | error e => simp [hd, hg, hb] at h
    | ok u => rfl
  obtain ⟨signed, hs⟩ : ∃ signed, env.sign = .ok signed := by
    cases hs : env.sign with
    | error e => simp [hd, hg, hb, hs] at h
    | ok signed => exact ⟨signed, rfl⟩
  have hc : c = s.createCookie env.now idTokenCookieName signed := by
    simpa [hd, hg, hb, hs] using h
  subst hc
  exact ⟨lr, secret, signed, hd, hg, hb, hs, rfl, by simp [hd, hg, hb, hs]⟩

/-- `OAuth2Flow` sets only the state cookie, to the state of the nonce it draws and the
request's return URL. -/
theorem oauth2Flow_setCookie {s : AuthServer} {env : Env} {r : Request} {c : Cookie}
    (h : Event.rw (.setCookie c) ∈ s.oauth2Flow env r) : ∃ nonce, generateNonce env = .ok nonce ∧
      c = s.createCookie env.now stateCookieName
        (Base64.encodeToString (marshalSessionState ⟨nonce, returnUrlOf r⟩)) := by
  unfold AuthServer.oauth2Flow AuthServer.startAuthFlow at h
  split_ifs at h
  · simp [httpError, Http.error] at h
  · split at h
    · simp [httpError, Http.error] at h
    · rename_i nonce hn
      split at h
      · simp at h
      · exact ⟨nonce, hn, by simpa using h⟩

theorem userInfo_not_setCookie (s : AuthServer) (env : Env) (r : Request) (c : Cookie) :
    Event.rw (.setCookie c) ∉ s.userInfo env r := by
  unfold AuthServer.userInfo
  split_ifs
  · simp
  · repeat' split
    all_goals simp [httpError, Http.error, toJson]

/-- `Logout` sets only the cleared `id_token` cookie. -/
theorem logout_setCookie {s : AuthServer} {env : Env} {r : Request} {c : Cookie}
    (h : Event.rw (.setCookie c) ∈ s.logout env r) : c = clearCookie idTokenCookieName := by
  unfold AuthServer.logout at h
  split_ifs at h <;> simp_all

/-- **Every cookie a response sets.** `OAuth2Flow` sets the state of the nonce it drew; a
`Callback` that issued tokens (a `303`) sets the verified ID token, the refresh token when there
is one, and the cleared state; a `SignIn` that accepted the password (a `200`) sets the signed
token; `Logout` clears the ID token. No other response sets a cookie. -/
theorem response_cookie_cases {s : AuthServer} {route : Route} {env : Env} {r : Request}
    {resp : Response} (h : respond (s.handler route env r) = some resp) {c : Cookie}
    (hc : c ∈ resp.cookies) :
    (route = .oauth2Flow ∧ ∃ nonce, generateNonce env = .ok nonce ∧
      c = s.createCookie env.now stateCookieName
        (Base64.encodeToString (marshalSessionState ⟨nonce, returnUrlOf r⟩))) ∨
    (route = .callback ∧ resp.status = 303 ∧ ∃ code st tok raw,
      callbackChecks r = .ok (code, st) ∧ env.exchange code = .ok tok ∧
      tok.idToken = some raw ∧ env.verify raw = .ok () ∧
      (c = s.createCookie env.now idTokenCookieName raw ∨
        (tok.refreshToken ≠ [] ∧ c = s.createCookie env.now refreshTokenCookieName tok.refreshToken) ∨
        c = clearCookie stateCookieName)) ∨
    (route = .signIn ∧ resp.status = 200 ∧ r.method = methodPost ∧ ∃ lr secret signed,
      decode loginRequestFields r.body ⟨[]⟩ = some lr ∧
      env.getSecret adminPasswordHashKey = .ok secret ∧
      env.compareHashAndPassword (lookup secret.data (lit "password")) lr.password = .ok () ∧
      env.sign = .ok signed ∧ c = s.createCookie env.now idTokenCookieName signed) ∨
    (route = .logout ∧ c = clearCookie idTokenCookieName) := by
  have hmem := mem_cookies_of_respond h hc
  cases route with
  | oauth2Flow => exact .inl ⟨rfl, oauth2Flow_setCookie hmem⟩
  | callback =>
    rcases callback_respond_cases s env r with ⟨code, st, p, tok, raw, hck, -, hx, hi, hv, hcb⟩ | hno
    · simp only [AuthServer.handler, hcb, respond_call_cons, respond_issueTokens,
        Option.some.injEq] at h
      subst h
      refine .inr (.inl ⟨rfl, rfl, code, st, tok, raw, hck, hx, hi, hv, ?_⟩)
      simp only [List.mem_cons, List.mem_append] at hc
      rcases hc with rfl | hc | rfl | hc
      · exact .inl rfl
      · split_ifs at hc with hr
        · exact .inr (.inl ⟨hr, List.mem_singleton.1 hc⟩)
        · simp at hc
      · exact .inr (.inr rfl)
      · simp at hc
    · simp [(hno resp h).2.1] at hc
  | signIn =>
    obtain ⟨hm, lr, secret, signed, hd, hg, hb, hs, rfl, ht⟩ := signIn_setCookie hmem
    have hr : resp.status = 200 := by
      simp only [AuthServer.handler, ht] at h
      cases h
      rfl
    exact .inr (.inr (.inl ⟨rfl, hr, hm, lr, secret, signed, hd, hg, hb, hs, rfl⟩))
  | userInfo => exact absurd hmem (userInfo_not_setCookie s env r c)
  | logout => exact .inr (.inr (.inr ⟨rfl, @logout_setCookie s env r c hmem⟩))

/-- **Identity cookies.** A response sets `id_token` to a non-empty value only as the `200` of
a `SignIn` whose password bcrypt accepted, to the token the signer returned, or as the `303` of
a `Callback` that passed its checks and exchanged its code for a token whose ID token verified,
to that ID token; and it sets `refresh_token` to a non-empty value only as such a `303`, to the
refresh token of the exchange. -/
theorem identity_cookie_issuance (s : AuthServer) (route : Route) (env : Env) (r : Request)
    (resp : Response) (h : respond (s.handler route env r) = some resp) (c : Cookie)
    (hc : c ∈ resp.cookies) (hv : c.value ≠ []) :
    (c.name = idTokenCookieName →
      (route = .signIn ∧ resp.status = 200 ∧ r.method = methodPost ∧ ∃ lr secret,
        decode loginRequestFields r.body ⟨[]⟩ = some lr ∧
        env.getSecret adminPasswordHashKey = .ok secret ∧
        env.compareHashAndPassword (lookup secret.data (lit "password")) lr.password = .ok () ∧
        env.sign = .ok c.value) ∨
      (route = .callback ∧ resp.status = 303 ∧ ∃ code st tok,
        callbackChecks r = .ok (code, st) ∧ env.exchange code = .ok tok ∧
        tok.idToken = some c.value ∧ env.verify c.value = .ok ())) ∧
    (c.name = refreshTokenCookieName → route = .callback ∧ resp.status = 303 ∧
      ∃ code st tok raw, callbackChecks r = .ok (code, st) ∧ env.exchange code = .ok tok ∧
        tok.refreshToken = c.value ∧ tok.idToken = some raw ∧ env.verify raw = .ok ()) := by
  have hid : idTokenCookieName ≠ refreshTokenCookieName := by decide
  rcases response_cookie_cases h hc with ⟨-, _, -, rfl⟩ |
    ⟨rfl, hs, code, st, tok, raw, hck, hx, hi, hvf, rfl | ⟨-, rfl⟩ | rfl⟩ |
    ⟨rfl, hs, hm, lr, secret, signed, hd, hg, hb, hsg, rfl⟩ | ⟨-, rfl⟩
  · rw [AuthServer.createCookie_name]
    exact ⟨fun e => absurd e (by decide), fun e => absurd e (by decide)⟩
  · exact ⟨fun _ => .inr ⟨rfl, hs, code, st, tok, hck, hx, hi, hvf⟩, fun e => absurd e hid⟩
  · exact ⟨fun e => absurd e.symm hid, fun _ => ⟨rfl, hs, code, st, tok, raw, hck, hx, rfl, hi, hvf⟩⟩
  · exact absurd rfl hv
  · exact ⟨fun _ => .inl ⟨rfl, hs, hm, lr, secret, hd, hg, hb, hsg⟩, fun e => absurd e hid⟩
  · exact absurd rfl hv

theorem identity_cookie_issuance_callback :
    let r := exampleRequest methodGet (lit "/oauth2/callback")
      [(lit "code", lit "c"), (lit "state", lit "bnVsbA==")] [(lit "state", lit "bnVsbA==")]
    let c := issuerServer.createCookie 0 refreshTokenCookieName (lit "refresh")
    let resp : Response := ⟨303, [], [issuerServer.createCookie 0 idTokenCookieName (lit "raw"), c,
      clearCookie stateCookieName], some [], []⟩
    respond (issuerServer.handler .callback grantingEnv r) = some resp ∧ c ∈ resp.cookies ∧
      c.value ≠ [] ∧ (c.name = refreshTokenCookieName → resp.status = 303) := by
  intro r c resp
  have h : respond (issuerServer.handler .callback grantingEnv r) = some resp := by decide
  have hc : c ∈ resp.cookies := by simp [resp]
  exact ⟨h, hc, by decide,
    fun e => ((identity_cookie_issuance _ _ _ _ _ h c hc (by decide)).2 e).2.1⟩

/-! ## The attributes of a cookie -/

/-- **No cookie is `Secure`.** Every cookie a response sets, on any route and whatever the
request and the collaborators answer, has path `/` and is not `Secure`, so a browser sends the
tokens over plain HTTP as well. Either `createCookie` made it, `HttpOnly` and expiring
`TokenDuration` after the request, or it is a cleared cookie: empty, expired at the epoch, and
not `HttpOnly`. -/
theorem response_cookie_attributes {s : AuthServer} {route : Route} {env : Env} {r : Request}
    {resp : Response} (h : respond (s.handler route env r) = some resp) {c : Cookie}
    (hc : c ∈ resp.cookies) :
    c.path = lit "/" ∧ c.secure = false ∧
      ((c.httpOnly = true ∧ c.expires = env.now + s.config.tokenDuration) ∨
        (c.value = [] ∧ c.expires = 0 ∧ c.httpOnly = false)) := by
  rcases response_cookie_cases h hc with ⟨-, _, -, rfl⟩ |
    ⟨-, -, _, _, _, _, -, -, -, -, rfl | ⟨-, rfl⟩ | rfl⟩ |
    ⟨-, -, -, _, _, _, -, -, -, -, rfl⟩ | ⟨-, rfl⟩ <;>
  simp [AuthServer.createCookie, clearCookie]

theorem response_cookie_attributes_logout :
    let r := exampleRequest methodPost (lit "/oauth2/logout") [] []
    let resp : Response := ⟨200, [], [clearCookie idTokenCookieName], none, []⟩
    respond (issuerServer.handler .logout grantingEnv r) = some resp ∧
      ∀ c ∈ resp.cookies, c.path = lit "/" ∧ c.secure = false ∧
        ((c.httpOnly = true ∧ c.expires = grantingEnv.now + issuerServer.config.tokenDuration) ∨
          (c.value = [] ∧ c.expires = 0 ∧ c.httpOnly = false)) := by
  intro r resp
  have h : respond (issuerServer.handler .logout grantingEnv r) = some resp := by decide
  exact ⟨h, fun c hc => response_cookie_attributes h hc⟩

end WeaveGitops.Auth
