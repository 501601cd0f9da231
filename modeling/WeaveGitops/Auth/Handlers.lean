import WeaveGitops.Go.Base64
import WeaveGitops.Auth.Server

/-!
# The handlers of the auth server

`OAuth2Flow`, `Callback`, `SignIn`, `UserInfo` and `Logout`, as `RegisterAuthServer` mounts
them, each a function of the server, what its collaborators answer (`Env`) and the request,
returning what it does (`Trace`).

`Callback` is cut at the exchange: `callbackChecks` is its sequence of checks, each of which
ends the request with `405` or `400`, and `callbackExchange` the rest. `callbackExit` says once
how a `Callback` can end (`CallbackExit`), and the claims about it are case analyses over that
statement.
-/

namespace WeaveGitops.Auth

open WeaveGitops.Go WeaveGitops.Go.Json WeaveGitops.Http

/-- `generateNonce`: 32 random bytes in standard base64. -/
def generateNonce (env : Env) : Except GoError GoString :=
  Base64.encodeToString <$> env.randRead

/-! ## Starting the flow -/

/-- The `returnUrl` of `startAuthFlow`: the `return_url` query parameter, or the request's URL
when it is empty. -/
def returnUrlOf (r : Request) : GoString :=
  let returnUrl := r.url.queryGet (lit "return_url")
  if returnUrl = [] then r.url.string else returnUrl

/-- `startAuthFlow`: a nonce, the return URL, the encoded session state, the state cookie and
the redirect to the provider. -/
def AuthServer.startAuthFlow (s : AuthServer) (env : Env) (r : Request) : Trace :=
  match generateNonce env with
  | .error e => httpError (lit "failed to generate nonce: " ++ e.msg) 500
  | .ok nonce =>
    let state := Base64.encodeToString (marshalSessionState ⟨nonce, returnUrlOf r⟩)
    match s.oauth2Config [scopeProfile] with
    | .error p => [.panic p]
    | .ok cfg =>
      [.rw (.setCookie (s.createCookie env.now stateCookieName state)),
        .rw (.redirect (cfg.authCodeURL state) 303)]

/-- A nonce is ASCII, so valid UTF-8. -/
theorem coerceUTF8_of_generateNonce {env : Env} {nonce : GoString}
    (h : generateNonce env = .ok nonce) : coerceUTF8 nonce = nonce := by
  obtain ⟨b, -, rfl⟩ : ∃ b, env.randRead = .ok b ∧ Base64.encodeToString b = nonce := by
    cases hr : env.randRead with
    | error e => simp [generateNonce, hr] at h
    | ok b => simp only [generateNonce, hr] at h; cases h; exact ⟨b, rfl, rfl⟩
  exact coerceUTF8_of_ascii (Base64.encodeToString_ascii b)

/-- **What `startAuthFlow` does** on a server with a provider once it has a nonce: it sets the
state cookie to the encoded session state of the nonce and the return URL, and redirects with
`303` to the authorize URL built with that same state. -/
theorem startAuthFlow_eq {s : AuthServer} {p : Provider} (hp : s.provider = some p) {env : Env}
    {nonce : GoString} (hn : generateNonce env = .ok nonce) (r : Request) :
    let state := Base64.encodeToString (marshalSessionState ⟨nonce, returnUrlOf r⟩)
    ∃ cfg, s.oauth2Config [scopeProfile] = .ok cfg ∧
      s.startAuthFlow env r = [.rw (.setCookie (s.createCookie env.now stateCookieName state)),
        .rw (.redirect (cfg.authCodeURL state) 303)] := by
  obtain ⟨cfg, hc⟩ : ∃ cfg, s.oauth2Config [scopeProfile] = .ok cfg :=
    ⟨_, AuthServer.oauth2Config_of_provider hp _⟩
  exact ⟨cfg, hc, by simp only [AuthServer.startAuthFlow, hn, hc]⟩

/-- `OAuth2Flow`. -/
def AuthServer.oauth2Flow (s : AuthServer) (env : Env) (r : Request) : Trace :=
  if !s.oidcEnabled then httpError (lit "oidc provider not configured") 400
  else s.startAuthFlow env r

/-! ## The callback -/

/-- The checks `Callback` makes before the exchange, in order: the method, the `error` and
`code` form values, the state cookie, the `state` form value against it, and the decoding of
the cookie. The code and the session state, or the events of the request's end. -/
def callbackChecks (r : Request) : Except Trace (GoString × SessionState) :=
  if r.method ≠ methodGet then .error [.rw (.addHeader (lit "Allow") (lit "GET")), .rw (.writeHeader 405)]
  else if r.formValue (lit "error") ≠ [] then .error [.rw (.writeHeader 400)]
  else if r.formValue (lit "code") = [] then .error [.rw (.writeHeader 400)]
  else
    match r.cookie stateCookieName with
    | none => .error [.rw (.writeHeader 400)]
    | some cookie =>
      if r.formValue (lit "state") ≠ cookie then .error [.rw (.writeHeader 400)]
      else
        match Base64.decodeString cookie with
        | none => .error [.rw (.writeHeader 400)]
        | some b =>
          match unmarshalSessionState b with
          | none => .error [.rw (.writeHeader 400)]
          | some state => .ok (r.formValue (lit "code"), state)

/-- The end of a successful `Callback`: the ID token cookie, the refresh token cookie when the
provider sent a refresh token, the state cookie cleared, and the redirect to the return URL. -/
def AuthServer.issueTokens (s : AuthServer) (now : Int) (raw refresh returnURL : GoString) : Trace :=
  .rw (.setCookie (s.createCookie now idTokenCookieName raw)) ::
    ((if refresh ≠ [] then [.rw (.setCookie (s.createCookie now refreshTokenCookieName refresh))]
      else []) ++ [.rw (.setCookie (clearCookie stateCookieName)), .rw (.redirect returnURL 303)])

/-- `Callback` after its checks: the exchange of the code, the ID token of the response, its
verification, and the tokens issued. -/
def AuthServer.callbackExchange (s : AuthServer) (env : Env) (code : GoString)
    (state : SessionState) : Trace :=
  match s.oauth2Config [] with
  | .error p => [.panic p]
  | .ok _ =>
    .call (.exchange code) ::
      match env.exchange code with
      | .error _ => [.rw (.writeHeader 500)]
      | .ok token =>
        match token.idToken with
        | none => httpError (lit "no id_token in token response") 500
        | some raw =>
          match s.verifier with
          | .error p => [.panic p]
          | .ok () =>
            .call (.verify raw) ::
              match env.verify raw with
              | .error e => httpError (lit "failed to verify ID token: " ++ e.msg) 500
              | .ok () => s.issueTokens env.now raw token.refreshToken state.returnURL

/-- `Callback`. -/
def AuthServer.callback (s : AuthServer) (env : Env) (r : Request) : Trace :=
  match callbackChecks r with
  | .error t => t
  | .ok (code, state) => s.callbackExchange env code state

/-! ## How `Callback` ends -/

/-- **The checks of `Callback` pass** exactly when the request is a GET with no `error`, a
code, a state cookie, a `state` form value equal to it, and a cookie that decodes. -/
theorem callbackChecks_eq_ok {r : Request} {code : GoString} {st : SessionState} :
    callbackChecks r = .ok (code, st) ↔
      r.method = methodGet ∧ r.formValue (lit "error") = [] ∧ code = r.formValue (lit "code") ∧
        code ≠ [] ∧ ∃ c b, r.cookie stateCookieName = some c ∧ r.formValue (lit "state") = c ∧
          Base64.decodeString c = some b ∧ unmarshalSessionState b = some st := by
  constructor
  · intro h
    unfold callbackChecks at h
    split_ifs at h with h1 h2 h3
    split at h
    · cases h
    · rename_i c hc
      split_ifs at h with h4
      split at h
      · cases h
      · rename_i b hb
        split at h
        · cases h
        · rename_i st' hu
          cases h
          simp only [not_not] at h1 h2 h4
          exact ⟨h1, h2, rfl, h3, c, b, hc, h4, hb, hu⟩
  · rintro ⟨h1, h2, rfl, h3, c, b, hc, h4, hb, hu⟩
    simp [callbackChecks, h1, h2, h3, hc, h4, hb, hu]

/-- A failed check ends a GET with `400`, and any other method with `405` and `Allow: GET`. -/
theorem callbackChecks_eq_error {r : Request} {t : Trace} (h : callbackChecks r = .error t) :
    (r.method ≠ methodGet ∧ t = [.rw (.addHeader (lit "Allow") (lit "GET")), .rw (.writeHeader 405)]) ∨
      (r.method = methodGet ∧ t = [.rw (.writeHeader 400)]) := by
  unfold callbackChecks at h
  split_ifs at h with h1
  · exact .inl ⟨h1, (Except.error.inj h).symm⟩
  all_goals
    refine .inr ⟨not_not.1 h1, ?_⟩
    repeat' split at h
    all_goals first | exact (Except.error.inj h).symm | cases h

/-- How a `Callback` ends. -/
inductive CallbackExit (s : AuthServer) (env : Env) (r : Request) : Trace → Prop
  /-- A check fails before the exchange. -/
  | rejected {t} : callbackChecks r = .error t → CallbackExit s env r t
  /-- There is no provider: reading its endpoint for the exchange panics. -/
  | noProvider {code st} : callbackChecks r = .ok (code, st) → s.provider = none →
      CallbackExit s env r [.panic nilDereference]
  /-- The exchange fails. -/
  | exchangeFailed {code st p e} : callbackChecks r = .ok (code, st) → s.provider = some p →
      env.exchange code = .error e →
      CallbackExit s env r [.call (.exchange code), .rw (.writeHeader 500)]
  /-- The token response has no ID token. -/
  | noIDToken {code st p tok} : callbackChecks r = .ok (code, st) → s.provider = some p →
      env.exchange code = .ok tok → tok.idToken = none →
      CallbackExit s env r (.call (.exchange code) ::
        httpError (lit "no id_token in token response") 500)
  /-- The ID token does not verify. -/
  | verifyFailed {code st p tok raw e} : callbackChecks r = .ok (code, st) →
      s.provider = some p → env.exchange code = .ok tok → tok.idToken = some raw →
      env.verify raw = .error e →
      CallbackExit s env r (.call (.exchange code) :: .call (.verify raw) ::
        httpError (lit "failed to verify ID token: " ++ e.msg) 500)
  /-- The tokens are issued. -/
  | issued {code st p tok raw} : callbackChecks r = .ok (code, st) → s.provider = some p →
      env.exchange code = .ok tok → tok.idToken = some raw → env.verify raw = .ok () →
      CallbackExit s env r (.call (.exchange code) :: .call (.verify raw) ::
        s.issueTokens env.now raw tok.refreshToken st.returnURL)

/-- **Every `Callback` ends in one of the ways of `CallbackExit`.** -/
theorem callbackExit (s : AuthServer) (env : Env) (r : Request) :
    CallbackExit s env r (s.callback env r) := by
  unfold AuthServer.callback
  split
  · exact .rejected ‹_›
  rename_i code st hc
  unfold AuthServer.callbackExchange
  cases hp : s.provider with
  | none => rw [AuthServer.oauth2Config_of_none hp]; exact .noProvider hc hp
  | some p =>
    rw [AuthServer.oauth2Config_of_provider hp]
    cases hx : env.exchange code with
    | error e => exact .exchangeFailed hc hp hx
    | ok tok =>
      dsimp only
      cases hi : tok.idToken with
      | none => exact .noIDToken hc hp hx hi
      | some raw =>
        rw [AuthServer.verifier_of_provider hp]
        dsimp only
        cases hv : env.verify raw with
        | error e => exact .verifyFailed hc hp hx hi hv
        | ok u => exact .issued hc hp hx hi hv

/-! ## Sign-in, user info and logout -/

/-- `LoginRequest`, the body of a sign-in. -/
structure LoginRequest where
  password : GoString
  deriving DecidableEq

/-- The one field of `LoginRequest`, `password`. -/
def loginRequestFields : List (StringField LoginRequest) :=
  [⟨lit "password", lit_ascii (by decide), fun _ v => ⟨v⟩⟩]

/-- The secret holding the admin password hash. -/
def adminPasswordHashKey : ObjectKey :=
  ⟨lit "wego-system", lit "admin-password-hash"⟩

/-- `SignIn`. -/
def AuthServer.signIn (s : AuthServer) (env : Env) (r : Request) : Trace :=
  if r.method ≠ methodPost then [.rw (.addHeader (lit "Allow") (lit "POST")), .rw (.writeHeader 405)]
  else
    match decode loginRequestFields r.body ⟨[]⟩ with
    | none => httpError (lit "Failed to read request body.") 400
    | some loginRequest =>
      match env.getSecret adminPasswordHashKey with
      | .error _ => httpError (lit "Please ensure that a password has been set.") 400
      | .ok secret =>
        match env.compareHashAndPassword (lookup secret.data (lit "password"))
            loginRequest.password with
        | .error _ => [.rw (.writeHeader 401)]
        | .ok () =>
          match env.sign with
          | .error _ => [.rw (.writeHeader 500)]
          | .ok signed =>
            [.rw (.setCookie (s.createCookie env.now idTokenCookieName signed)),
              .rw (.writeHeader 200)]

/-- `toJson(rw, UserInfo{Email: email})`: the JSON of the user info, with `groups` nil. -/
def toJson (email : GoString) : Trace :=
  [.rw (.write (byte 0x7B :: encodeString (lit "email") ++ ch ':' :: encodeString email ++
    lit ",\"groups\":null" ++ [byte 0x7D]))]

/-- `UserInfo`: the subject of a token the local verifier accepts, otherwise the email the
provider's user-info endpoint gives for the cookie. -/
def AuthServer.userInfo (s : AuthServer) (env : Env) (r : Request) : Trace :=
  if r.method ≠ methodGet then [.rw (.addHeader (lit "Allow") (lit "GET")), .rw (.writeHeader 405)]
  else
    match r.cookie idTokenCookieName with
    | none => [.rw (.writeHeader 400)]
    | some c =>
      match env.verifyToken c with
      | .ok subject => toJson subject
      | .error _ =>
        match s.provider with
        | none => [.panic nilDereference]
        | some _ =>
          .call (.userInfo c) ::
            match env.providerUserInfo c with
            | .error e => httpError (lit "failed to query user info endpoint: " ++ e.msg) 401
            | .ok email => toJson email

/-- `Logout`. -/
def AuthServer.logout (_s : AuthServer) (_env : Env) (r : Request) : Trace :=
  if r.method ≠ methodPost then [.rw (.writeHeader 405)]
  else [.rw (.setCookie (clearCookie idTokenCookieName)), .rw (.writeHeader 200)]

/-! ## Routes -/

/-- The handlers of the auth server. -/
inductive Route
  | oauth2Flow
  | callback
  | signIn
  | userInfo
  | logout
  deriving DecidableEq

/-- The handler of a route. -/
def AuthServer.handler (s : AuthServer) : Route → Env → Request → Trace
  | .oauth2Flow => s.oauth2Flow
  | .callback => s.callback
  | .signIn => s.signIn
  | .userInfo => s.userInfo
  | .logout => s.logout

/-- `RegisterAuthServer`: the pattern each handler is mounted at under `base`. -/
def registerAuthServer (base : GoString) : List (GoString × Route) :=
  [(base, .oauth2Flow), (base ++ lit "/callback", .callback), (base ++ lit "/sign_in", .signIn),
    (base ++ lit "/userinfo", .userInfo), (base ++ lit "/logout", .logout)]

end WeaveGitops.Auth
