import WeaveGitops.Auth.Cookies
import WeaveGitops.Auth.NilProvider
import WeaveGitops.Auth.SessionState

/-!
# A browser against the auth server

The server keeps no session: the state cookie is its only memory of a login in progress, and
`Callback` exchanges a code only when the `state` parameter equals that cookie. This module
follows one browser through a whole run to say what that buys. The browser keeps the cookies
the responses set, one per name, and may forget any of them (it expires, or the user clears
it). Everything else in a request (the route, the method, the URL, the form values, the body)
is chosen by whoever makes the browser send it, a page of another site included.

`response_cookie_cases` says once which cookies a response can set, and `cookieSetBy_run`
carries such a fact over a whole run: a cookie the browser holds is empty or was set by a visit
of the run, and what the visit's handler was given is the request the browser sent there, with
the cookies it held after the steps before (`SetBy`). For the state cookie,
`exchange_state_issued` follows: in any run, an exchange of a code presents as `state` the state
cookie, and that is the encoded session state of a nonce an `OAuth2Flow` of the run drew and of
the return URL it was asked for. For the identity cookies, `identity_cookie_provenance`: a
non-empty `id_token` in the browser comes from a `SignIn` that accepted the password or from a
`Callback` that verified the ID token, and that `Callback` was sent with the browser's own state
cookie as its `state` parameter (`StateChecked`), which a page of another site that makes the
browser send it can meet only by knowing that cookie. On a server with no issuer,
`issuerless_admin_only`: only the admin password logs in, as a `Callback` that passes its checks
panics on the nil provider and sets nothing, and the browser never holds a refresh token.
`login_flow_completes` is the other direction for
the flow through the provider: a browser that starts the flow and comes back with the state it
was given and a code the provider honours ends logged in, and `login_needs_fresh_state` says
that it logs in once per flow: between two `Callback` visits that log in, the browser has
started a new flow. `cookie_frame` is the frame rule: a visit changes only the cookies its route
writes, so a run that visits no route writing a cookie, and does not forget it, leaves that
cookie as it was. Its counterpart for what a visit reads is `handler_send_congr`, and from it
`refresh_token_write_only`: no handler reads the refresh token, so two browsers that differ only
in it are answered alike after any run.
-/

namespace WeaveGitops.Auth

open WeaveGitops.Go WeaveGitops.Go.Json WeaveGitops.Http

/-- The browser's cookies, by name and value, newest first. -/
abbrev Jar := List (GoString × GoString)

/-- The jar after a `Set-Cookie`: the cookie replaces any other of its name. A cleared cookie
(empty, expired at the epoch) stays with its empty value; a browser deletes it, which a `forget`
step does. -/
def Jar.set (jar : Jar) (c : Cookie) : Jar :=
  (c.name, c.value) :: jar.filter (·.1 != c.name)

/-- The jar after a response, which sets its cookies in order; a handler that panics sends no
response and sets none. -/
def Jar.receive (jar : Jar) : Option Response → Jar
  | none => jar
  | some resp => resp.cookies.foldl Jar.set jar

/-- The request as the browser sends it: the one asked for, with the browser's cookies. -/
def Jar.send (jar : Jar) (r : Request) : Request :=
  { r with cookies := jar }

/-- One step of a run. -/
inductive Step
  /-- The browser sends a request to a route; the server's collaborators answer `env`. -/
  | visit (route : Route) (env : Env) (r : Request)
  /-- A cookie expires, or the user clears it. -/
  | forget (name : GoString)

/-- The jar after a step. -/
def Jar.step (s : AuthServer) (jar : Jar) : Step → Jar
  | .visit route env r => jar.receive (respond (s.handler route env (jar.send r)))
  | .forget name => jar.filter (·.1 != name)

/-- The jar after a run. -/
def Jar.run (s : AuthServer) (jar : Jar) (steps : List Step) : Jar :=
  steps.foldl (Jar.step s) jar

theorem Jar.run_append (s : AuthServer) (jar : Jar) (xs ys : List Step) :
    Jar.run s jar (xs ++ ys) = Jar.run s (Jar.run s jar xs) ys :=
  List.foldl_append _ _ _ _

theorem mem_set {jar : Jar} {c : Cookie} {n v : GoString} (h : (n, v) ∈ jar.set c) :
    (n = c.name ∧ v = c.value) ∨ (n, v) ∈ jar := by
  rcases List.mem_cons.1 h with h | h
  · exact .inl (Prod.mk.inj h)
  · exact .inr (List.mem_filter.1 h).1

theorem mem_foldl_set {n v : GoString} :
    ∀ {cs : List Cookie} {jar : Jar}, (n, v) ∈ cs.foldl Jar.set jar →
      (n, v) ∈ jar ∨ ∃ c ∈ cs, c.name = n ∧ c.value = v
  | [], _, h => .inl h
  | c :: cs, jar, h => by
    rw [List.foldl_cons] at h
    rcases mem_foldl_set h with h | ⟨c', hc', e⟩
    · rcases mem_set h with ⟨rfl, rfl⟩ | h
      · exact .inr ⟨c, List.mem_cons_self _ _, rfl, rfl⟩
      · exact .inl h
    · exact .inr ⟨c', List.mem_cons_of_mem _ hc', e⟩

theorem mem_of_cookie_send {jar : Jar} {r : Request} {n v : GoString}
    (h : (jar.send r).cookie n = some v) : (n, v) ∈ jar := by
  obtain ⟨⟨n', v'⟩, hf, rfl⟩ := Option.map_eq_some'.1 h
  obtain rfl : n' = n := by simpa using List.find?_some hf
  exact List.mem_of_find?_eq_some hf

/-! ## Where a cookie of the jar comes from

A cookie's provenance is a predicate `Sets` on a visit and a value. When every response sets the
cookie `name` either empty or to a value `Sets` allows for that visit (the step fact), every
such cookie of the jar after a run is empty or was set by a visit of the run (the run fact),
and `Sets` holds of the request as the browser sent it at that visit: with the cookies of the
jar it held after the steps before. -/

theorem Jar.run_concat (s : AuthServer) (jar : Jar) (steps : List Step) (st : Step) :
    Jar.run s jar (steps ++ [st]) = (Jar.run s jar steps).step s st :=
  List.foldl_concat _ _ _ _

section Provenance

variable {s : AuthServer} {j₀ : Jar} {name : GoString}
  {Sets : Route → Env → Request → GoString → Prop}

/-- A value a visit of the run from `j₀` set: `Sets` holds of the visit, of the request as the
browser sent it from the jar the steps before the visit left, and of the value. -/
def SetBy (s : AuthServer) (j₀ : Jar) (Sets : Route → Env → Request → GoString → Prop)
    (steps : List Step) (v : GoString) : Prop :=
  ∃ pre route env r post, steps = pre ++ Step.visit route env r :: post ∧
    Sets route env ((Jar.run s j₀ pre).send r) v

/-- Every cookie `name` of the jar after the run from `j₀` is empty or set by a visit of the
run. -/
def CookieSetBy (s : AuthServer) (j₀ : Jar) (name : GoString)
    (Sets : Route → Env → Request → GoString → Prop) (steps : List Step) : Prop :=
  ∀ v, (name, v) ∈ Jar.run s j₀ steps → v = [] ∨ SetBy s j₀ Sets steps v

/-- What every response does to the cookie `name`: set it empty, or to a value `Sets` allows. -/
def SetsOnly (s : AuthServer) (name : GoString) (Sets : Route → Env → Request → GoString → Prop) :
    Prop :=
  ∀ {route env r resp c}, respond (s.handler route env r) = some resp → c ∈ resp.cookies →
    c.name = name → c.value = [] ∨ Sets route env r c.value

theorem SetBy.append {steps : List Step} {v : GoString} (h : SetBy s j₀ Sets steps v)
    (more : List Step) : SetBy s j₀ Sets (steps ++ more) v := by
  obtain ⟨pre, route, env, r, post, rfl, hs⟩ := h
  exact ⟨pre, route, env, r, post ++ more, by simp, hs⟩

/-- A step keeps the provenance, the step added to the run. -/
theorem CookieSetBy.step (hsets : SetsOnly s name Sets) {steps : List Step}
    (hi : CookieSetBy s j₀ name Sets steps) (st : Step) :
    CookieSetBy s j₀ name Sets (steps ++ [st]) := by
  intro v hv
  rw [Jar.run_concat] at hv
  have old : (name, v) ∈ Jar.run s j₀ steps →
      v = [] ∨ SetBy s j₀ Sets (steps ++ [st]) v :=
    fun h => (hi v h).imp_right (·.append [st])
  cases st with
  | forget n => exact old (List.mem_filter.1 hv).1
  | visit route env r =>
    rw [Jar.step] at hv
    cases hr : respond (s.handler route env ((Jar.run s j₀ steps).send r)) with
    | none => rw [hr] at hv; exact old hv
    | some resp =>
      rw [hr] at hv
      rcases mem_foldl_set hv with hv | ⟨c, hc, hn, rfl⟩
      · exact old hv
      · exact (hsets hr hc hn).imp_right fun h => ⟨steps, route, env, r, [], rfl, h⟩

/-- A run keeps the provenance, its steps added to the run. -/
theorem CookieSetBy.run (hsets : SetsOnly s name Sets) :
    ∀ (steps : List Step) {pre : List Step}, CookieSetBy s j₀ name Sets pre →
      CookieSetBy s j₀ name Sets (pre ++ steps)
  | [], _, hi => by simpa using hi
  | st :: steps, pre, hi => by
    rw [show pre ++ st :: steps = pre ++ [st] ++ steps by simp]
    exact CookieSetBy.run hsets steps (hi.step hsets st)

/-- After any run from an empty jar, every cookie `name` is empty or set by a visit of the
run. -/
theorem cookieSetBy_run (hsets : SetsOnly s name Sets) (steps : List Step) :
    CookieSetBy s [] name Sets steps :=
  have hnil : CookieSetBy s [] name Sets [] := fun _ h => by cases h
  hnil.run hsets steps

end Provenance

/-! ## The state cookie -/

/-- What `OAuth2Flow` sets the state cookie to: the encoded session state of the nonce it draws
and of the request's return URL. -/
def FlowState (route : Route) (env : Env) (r : Request) (v : GoString) : Prop :=
  route = .oauth2Flow ∧ ∃ nonce, generateNonce env = .ok nonce ∧
    v = Base64.encodeToString (marshalSessionState ⟨nonce, returnUrlOf r⟩)

/-- Only `OAuth2Flow` sets a state; `Callback` sets the state cookie only to clear it. -/
theorem setsOnly_flowState (s : AuthServer) : SetsOnly s stateCookieName FlowState := by
  intro route env r resp c h hc hn
  rcases response_cookie_cases h hc with ⟨rfl, nonce, hnonce, rfl⟩ |
    ⟨-, -, _, _, _, _, -, -, -, -, rfl | ⟨-, rfl⟩ | rfl⟩ | ⟨-, -, -, _, _, _, -, -, -, -, rfl⟩ |
    ⟨-, rfl⟩
  · exact .inr ⟨rfl, nonce, hnonce, rfl⟩
  · exact absurd hn (by simp only [AuthServer.createCookie_name]; decide)
  · exact absurd hn (by simp only [AuthServer.createCookie_name]; decide)
  · exact .inl rfl
  · exact absurd hn (by simp only [AuthServer.createCookie_name]; decide)
  · exact absurd hn (by decide)

/-- Only `Callback` exchanges a code. -/
theorem route_of_exchange {s : AuthServer} {route : Route} {env : Env} {r : Request}
    {code : GoString} (h : Event.call (.exchange code) ∈ s.handler route env r) :
    route = .callback := by
  cases route with
  | callback => rfl
  | oauth2Flow | signIn | userInfo | logout =>
    simp only [AuthServer.handler, AuthServer.oauth2Flow, AuthServer.startAuthFlow,
      AuthServer.signIn, AuthServer.userInfo, AuthServer.logout] at h
    split_ifs at h <;> (repeat' split at h) <;> simp [httpError, Http.error, toJson] at h

/-- The checks of `Callback` pass only with a non-empty state cookie: an empty one decodes to no
session state. -/
theorem state_ne_nil_of_callbackChecks {r : Request} {code : GoString} {st : SessionState}
    (h : callbackChecks r = .ok (code, st)) :
    ∃ c, r.cookie stateCookieName = some c ∧ r.formValue (lit "state") = c ∧ c ≠ [] := by
  obtain ⟨-, -, -, -, c, b, hck, hs, hb, hu⟩ := callbackChecks_eq_ok.1 h
  refine ⟨c, hck, hs, ?_⟩
  rintro rfl
  cases hb
  exact absurd hu (by rw [show unmarshalSessionState [] = none from rfl]; exact Option.noConfusion)

/-- **Every exchange presents an issued state.** After any run from an empty jar, a request
the browser sends, to any route and with any method, URL and form values, makes the server
exchange a code only at `Callback`, only when its `state` parameter is the browser's state
cookie, and only when an `OAuth2Flow` visit of the run set that state. -/
theorem exchange_state_issued (s : AuthServer) (steps : List Step) (route : Route) (env : Env)
    (r : Request) (code : GoString)
    (h : Event.call (.exchange code) ∈ s.handler route env ((Jar.run s [] steps).send r)) :
    route = .callback ∧
      ((Jar.run s [] steps).send r).cookie stateCookieName = some (r.formValue (lit "state")) ∧
      SetBy s [] FlowState steps (r.formValue (lit "state")) := by
  obtain rfl := route_of_exchange h
  obtain ⟨st, hc⟩ := exchange_mem_callback h
  obtain ⟨c, hck, hs, hne⟩ := state_ne_nil_of_callbackChecks hc
  change r.formValue (lit "state") = c at hs
  subst hs
  exact ⟨rfl, hck, (cookieSetBy_run (setsOnly_flowState s) steps _
    (mem_of_cookie_send hck)).resolve_left hne⟩

/-- `OAuth2Flow` on a server with a provider sets the state cookie, whatever the jar held. -/
theorem run_oauth2Flow {s : AuthServer} {p : Provider} (hp : s.provider = some p) {env : Env}
    {nonce : GoString} (hn : generateNonce env = .ok nonce) (jar : Jar) (r : Request) :
    Jar.run s jar [.visit .oauth2Flow env r] = jar.set (s.createCookie env.now stateCookieName
      (Base64.encodeToString (marshalSessionState ⟨nonce, returnUrlOf r⟩))) := by
  have hen : s.oidcEnabled = true := by rw [← s.provider_isSome_iff, hp]; rfl
  obtain ⟨cfg, -, hflow⟩ := startAuthFlow_eq hp hn (Jar.send jar r)
  show Jar.receive jar (respond (s.oauth2Flow env (Jar.send jar r))) = _
  simp only [AuthServer.oauth2Flow, hen, Bool.not_true, Bool.false_eq_true, if_false, hflow]
  rfl

theorem exchange_state_issued_flow :
    let steps := [Step.visit .oauth2Flow grantingEnv (exampleRequest methodGet (lit "/oauth2") [] [])]
    let state := Base64.encodeToString (marshalSessionState
      ⟨Base64.encodeToString (List.replicate 32 0), lit "/oauth2"⟩)
    let r := exampleRequest methodGet (lit "/oauth2/callback")
      [(lit "code", lit "c"), (lit "state", state)] []
    Event.call (.exchange (lit "c")) ∈
      issuerServer.handler .callback grantingEnv ((Jar.run issuerServer [] steps).send r) ∧
      SetBy issuerServer [] FlowState steps state := by
  intro steps state r
  have hjar : Jar.run issuerServer [] steps = [(stateCookieName, state)] :=
    @run_oauth2Flow issuerServer _ rfl grantingEnv (Base64.encodeToString (List.replicate 32 0))
      rfl [] _
  obtain ⟨b, hb, hu⟩ := Option.bind_eq_some.1
    (decodeState_encodeState (Base64.encodeToString (List.replicate 32 0)) (lit "/oauth2"))
  have hok : callbackChecks ((Jar.run issuerServer [] steps).send r) = .ok (lit "c",
      ⟨coerceUTF8 (Base64.encodeToString (List.replicate 32 0)), coerceUTF8 (lit "/oauth2")⟩) :=
    callbackChecks_eq_ok.2 ⟨rfl, rfl, rfl, by decide, state, b, by rw [hjar]; rfl, rfl, hb, hu⟩
  have h : Event.call (.exchange (lit "c")) ∈
      issuerServer.handler .callback grantingEnv ((Jar.run issuerServer [] steps).send r) := by
    show _ ∈ AuthServer.callback _ _ _
    rw [AuthServer.callback, hok]
    simp only [AuthServer.callbackExchange,
      AuthServer.oauth2Config_of_provider (show issuerServer.provider = _ from rfl)]
    exact List.mem_cons_self _ _
  exact ⟨h, (exchange_state_issued _ _ _ _ _ _ h).2.2⟩

/-! ## The identity cookies -/

/-- What the anti-forgery check of `Callback` asks of a request: a GET with no `error` and a
code, whose `state` parameter is the state cookie the request carries and decodes to a session
state. -/
def StateChecked (r : Request) : Prop :=
  r.method = methodGet ∧ r.formValue (lit "error") = [] ∧ r.formValue (lit "code") ≠ [] ∧
    r.cookie stateCookieName = some (r.formValue (lit "state")) ∧
    ∃ st, (Base64.decodeString (r.formValue (lit "state"))).bind unmarshalSessionState = some st

/-- The checks of `Callback` are the anti-forgery check, and they pass on the request's code. -/
theorem stateChecked_of_callbackChecks {r : Request} {code : GoString} {st : SessionState}
    (h : callbackChecks r = .ok (code, st)) :
    StateChecked r ∧ code = r.formValue (lit "code") := by
  obtain ⟨hm, he, rfl, hc, c, b, hck, hs, hb, hu⟩ := callbackChecks_eq_ok.1 h
  refine ⟨⟨hm, he, hc, by rw [hs]; exact hck, st, ?_⟩, rfl⟩
  rw [hs, hb]
  exact hu

/-- The token of a `SignIn` whose password bcrypt accepted: the signed token. -/
def SignedIn (route : Route) (env : Env) (r : Request) (v : GoString) : Prop :=
  route = .signIn ∧ r.method = methodPost ∧ ∃ lr secret,
    decode loginRequestFields r.body ⟨[]⟩ = some lr ∧
    env.getSecret adminPasswordHashKey = .ok secret ∧
    env.compareHashAndPassword (lookup secret.data (lit "password")) lr.password = .ok () ∧
    env.sign = .ok v

/-- What a response sets `id_token` to: the signed token of a `SignIn` whose password bcrypt
accepted, or the ID token of a `Callback` that passed the anti-forgery check, whose exchange of
the request's code returned that token and whose verifier accepted it. -/
def IdentityToken (route : Route) (env : Env) (r : Request) (v : GoString) : Prop :=
  SignedIn route env r v ∨
  (route = .callback ∧ StateChecked r ∧ ∃ tok,
    env.exchange (r.formValue (lit "code")) = .ok tok ∧ tok.idToken = some v ∧
    env.verify v = .ok ())

/-- What a response sets `refresh_token` to: the refresh token of a `Callback` that passed the
anti-forgery check and issued tokens. -/
def RefreshToken (route : Route) (env : Env) (r : Request) (v : GoString) : Prop :=
  route = .callback ∧ StateChecked r ∧ ∃ tok raw,
    env.exchange (r.formValue (lit "code")) = .ok tok ∧ tok.refreshToken = v ∧
    tok.idToken = some raw ∧ env.verify raw = .ok ()

theorem setsOnly_identityToken (s : AuthServer) :
    SetsOnly s idTokenCookieName IdentityToken := by
  intro route env r resp c h hc hn
  rcases response_cookie_cases h hc with ⟨-, _, -, rfl⟩ |
    ⟨rfl, -, code, st, tok, raw, hck, hx, hi, hv, rfl | ⟨-, rfl⟩ | rfl⟩ |
    ⟨rfl, -, hm, lr, secret, signed, hd, hg, hb, hs, rfl⟩ | ⟨-, rfl⟩
  · exact absurd hn (by simp only [AuthServer.createCookie_name]; decide)
  · obtain ⟨hsc, rfl⟩ := stateChecked_of_callbackChecks hck
    exact .inr (.inr ⟨rfl, hsc, tok, hx, hi, hv⟩)
  · exact absurd hn (by simp only [AuthServer.createCookie_name]; decide)
  · exact .inl rfl
  · exact .inr (.inl ⟨rfl, hm, lr, secret, hd, hg, hb, hs⟩)
  · exact .inl rfl

theorem setsOnly_refreshToken (s : AuthServer) :
    SetsOnly s refreshTokenCookieName RefreshToken := by
  intro route env r resp c h hc hn
  rcases response_cookie_cases h hc with ⟨-, _, -, rfl⟩ |
    ⟨rfl, -, code, st, tok, raw, hck, hx, hi, hv, rfl | ⟨-, rfl⟩ | rfl⟩ |
    ⟨-, -, -, _, _, _, -, -, -, -, rfl⟩ | ⟨-, rfl⟩
  · exact absurd hn (by simp only [AuthServer.createCookie_name]; decide)
  · exact absurd hn (by simp only [AuthServer.createCookie_name]; decide)
  · obtain ⟨hsc, rfl⟩ := stateChecked_of_callbackChecks hck
    exact .inr ⟨rfl, hsc, tok, raw, hx, rfl, hi, hv⟩
  · exact .inl rfl
  · exact absurd hn (by simp only [AuthServer.createCookie_name]; decide)
  · exact .inl rfl

/-- **No identity without a login.** After any run from an empty jar, a non-empty `id_token`
the browser holds was set by a visit of the run, on the request the browser sent there with the
cookies it held then: a `SignIn` whose password bcrypt accepted, to the signed token, or a
`Callback` whose `state` parameter was the browser's own state cookie, whose exchange of the
request's code returned the ID token and whose verifier accepted it. A non-empty
`refresh_token` was set by such a `Callback`, to the refresh token of its exchange. -/
theorem identity_cookie_provenance (s : AuthServer) (steps : List Step) :
    CookieSetBy s [] idTokenCookieName IdentityToken steps ∧
      CookieSetBy s [] refreshTokenCookieName RefreshToken steps :=
  ⟨cookieSetBy_run (setsOnly_identityToken s) steps,
    cookieSetBy_run (setsOnly_refreshToken s) steps⟩

/-- Without an issuer no response sets an identity cookie but `SignIn`'s: a `Callback` that
passes its checks panics on the nil provider, and sends no response. -/
theorem setsOnly_signedIn_of_no_issuer {s : AuthServer} (hs : s.config.issuerURL = []) :
    SetsOnly s idTokenCookieName SignedIn ∧
      SetsOnly s refreshTokenCookieName fun _ _ _ _ => False := by
  have hcb : ∀ {env r code st}, callbackChecks r = .ok (code, st) →
      respond (s.handler .callback env r) = none := fun hck => by
    rw [AuthServer.handler, callback_panics_of_no_issuer hs _ hck]
    exact respond_eq_none_of_panic (List.mem_singleton_self _)
  constructor
  all_goals
    intro route env r resp c h hc hn
    rcases response_cookie_cases h hc with ⟨-, _, -, rfl⟩ | ⟨rfl, -, _, _, -, -, hck, -⟩ |
      ⟨rfl, -, hm, lr, secret, signed, hd, hg, hb, hsg, rfl⟩ | ⟨-, rfl⟩
    · exact absurd hn (by simp only [AuthServer.createCookie_name]; decide)
    · rw [hcb hck] at h
      cases h
  -- left for each cookie: the `SignIn` and the `Logout` cases
  · exact .inr ⟨rfl, hm, lr, secret, hd, hg, hb, hsg⟩
  · exact .inl rfl
  · exact absurd hn (by simp only [AuthServer.createCookie_name]; decide)
  · exact .inl rfl

/-- **Without an issuer, only the admin password logs in.** On a server with no issuer, after
any run from an empty jar, a non-empty `id_token` the browser holds was set by a `SignIn` POST
of the run whose password bcrypt accepted, to the signed token, and every `refresh_token` it
holds is empty: a `Callback` that passes its checks panics on the nil provider and sets
nothing. -/
theorem issuerless_admin_only {s : AuthServer} (hs : s.config.issuerURL = []) (steps : List Step) :
    CookieSetBy s [] idTokenCookieName SignedIn steps ∧
      ∀ v, (refreshTokenCookieName, v) ∈ Jar.run s [] steps → v = [] := by
  refine ⟨cookieSetBy_run (setsOnly_signedIn_of_no_issuer hs).1 steps, fun v hv => ?_⟩
  obtain h | ⟨_, _, _, _, _, -, ⟨⟩⟩ :=
    @cookieSetBy_run s refreshTokenCookieName (fun _ _ _ _ => False)
      (setsOnly_signedIn_of_no_issuer hs).2 steps v hv
  exact h

theorem issuerless_admin_only_callback :
    let steps := [Step.visit .callback grantingEnv (exampleRequest methodGet
      (lit "/oauth2/callback") [(lit "code", lit "c"), (lit "state", lit "bnVsbA==")] [])]
    issuerlessServer.config.issuerURL = [] ∧
      CookieSetBy issuerlessServer [] idTokenCookieName SignedIn steps ∧
      ∀ v, (refreshTokenCookieName, v) ∈ Jar.run issuerlessServer [] steps → v = [] :=
  ⟨rfl, issuerless_admin_only rfl _⟩

/-! ## The login flow -/

/-- **The login flow completes.** On a server with a provider, a browser with no cookies that
starts the flow, then comes back to `Callback` with a GET carrying no `error`, a code and the
state `OAuth2Flow` gave it, where the exchange of the code returns an ID token that verifies,
ends the run holding that ID token, the refresh token if there is one, and a cleared state
cookie; the `Callback` is a `303` to the return URL the flow started with. -/
theorem login_flow_completes {s : AuthServer} {p : Provider} (hp : s.provider = some p)
    {env₁ env₂ : Env} {nonce : GoString} (hn : generateNonce env₁ = .ok nonce) (r₁ r₂ : Request)
    (hm : r₂.method = methodGet) (he : r₂.formValue (lit "error") = [])
    (hs : r₂.formValue (lit "state") =
      Base64.encodeToString (marshalSessionState ⟨nonce, returnUrlOf r₁⟩))
    (hc : r₂.formValue (lit "code") ≠ []) {tok : Token} {raw : GoString}
    (hx : env₂.exchange (r₂.formValue (lit "code")) = .ok tok) (hi : tok.idToken = some raw)
    (hv : env₂.verify raw = .ok ()) :
    Jar.run s [] [.visit .oauth2Flow env₁ r₁, .visit .callback env₂ r₂] =
      (stateCookieName, []) :: ((if tok.refreshToken ≠ [] then
        [(refreshTokenCookieName, tok.refreshToken)] else []) ++ [(idTokenCookieName, raw)]) ∧
    ∃ resp, respond (s.callback env₂ ((Jar.run s [] [.visit .oauth2Flow env₁ r₁]).send r₂)) =
      some resp ∧ resp.status = 303 ∧ resp.location = some (coerceUTF8 (returnUrlOf r₁)) := by
  have h₁ := run_oauth2Flow hp hn [] r₁
  have hr := (@respond_callback_of_state s p hp env₂
    ((Jar.run s [] [.visit .oauth2Flow env₁ r₁]).send r₂) _ _ _ _ hm he hc (by rw [h₁]; rfl) hs hx
    hi hv).2
  refine ⟨?_, _, hr, rfl, rfl⟩
  show Jar.receive (Jar.run s [] [.visit .oauth2Flow env₁ r₁]) (respond (s.callback env₂
    ((Jar.run s [] [.visit .oauth2Flow env₁ r₁]).send r₂))) = _
  rw [hr, h₁]
  split_ifs <;> rfl

theorem login_flow_completes_grantingEnv :
    let r₁ := exampleRequest methodGet (lit "/oauth2") [] []
    let state := Base64.encodeToString (marshalSessionState
      ⟨Base64.encodeToString (List.replicate 32 0), lit "/oauth2"⟩)
    let r₂ := exampleRequest methodGet (lit "/oauth2/callback")
      [(lit "code", lit "c"), (lit "state", state)] []
    Jar.run issuerServer [] [.visit .oauth2Flow grantingEnv r₁, .visit .callback grantingEnv r₂] =
      [(stateCookieName, []), (refreshTokenCookieName, lit "refresh"), (idTokenCookieName, lit "raw")] := by
  intro r₁ state r₂
  have hs : r₂.formValue (lit "state") = state := by
    show lookup [(lit "code", lit "c"), (lit "state", state)] (lit "state") = state
    rw [lookup_cons, if_neg (by decide), lookup_cons, if_pos rfl]
  exact (@login_flow_completes issuerServer _ rfl grantingEnv grantingEnv _ rfl r₁ r₂ rfl rfl hs
    (by decide) _ _ rfl rfl rfl).1.trans rfl

/-! ## A state logs in once -/

/-- A `Callback` visit from the jar that logs in: its response is the `303` of issued tokens. -/
def LogsIn (s : AuthServer) (jar : Jar) (env : Env) (r : Request) : Prop :=
  ∃ resp, respond (s.callback env (jar.send r)) = some resp ∧ resp.status = 303

theorem mem_set_self {jar : Jar} {c : Cookie} {v : GoString} (h : (c.name, v) ∈ jar.set c) :
    v = c.value := by
  rcases List.mem_cons.1 h with h | h
  · exact (Prod.mk.inj h).2
  · simp at h

theorem cookie_send_set (jar : Jar) (c : Cookie) (r : Request) :
    ((jar.set c).send r).cookie c.name = some c.value := by
  simp [Request.cookie, Jar.send, Jar.set]

/-- A visit that logs in leaves the state cookie empty: `Callback` clears it last. -/
theorem state_empty_of_logsIn {s : AuthServer} {jar : Jar} {env : Env} {r : Request}
    (h : LogsIn s jar env r) {v : GoString}
    (hv : (stateCookieName, v) ∈ jar.step s (.visit .callback env r)) : v = [] := by
  obtain ⟨resp, hr, h303⟩ := h
  rcases callback_respond_cases s env (jar.send r) with
    ⟨code, st, p, tok, raw, -, -, -, -, -, hcb⟩ | hno
  · rw [hcb, respond_call_cons, respond_call_cons, respond_issueTokens] at hr
    have hr' : respond (s.handler .callback env (jar.send r)) = some resp := by
      rw [AuthServer.handler, hcb, respond_call_cons, respond_call_cons, respond_issueTokens, hr]
    rw [Jar.step, hr'] at hv
    cases hr
    simp only [Jar.receive, List.foldl_cons, List.foldl_append, List.foldl_nil] at hv
    exact mem_set_self (c := clearCookie stateCookieName) hv
  · exact absurd h303 (hno resp hr).1

/-- **A state logs in once.** In any run, between two `Callback` visits that log in there is an
`OAuth2Flow` visit: the first clears the state cookie, a login needs a non-empty one, and only
`OAuth2Flow` sets it to a non-empty value. -/
theorem login_needs_fresh_state (s : AuthServer) (pre mid : List Step) {env env' : Env}
    {r r' : Request} (h₁ : LogsIn s (Jar.run s [] pre) env r)
    (h₂ : LogsIn s (Jar.run s [] (pre ++ .visit .callback env r :: mid)) env' r') :
    ∃ env'' r'', Step.visit .oauth2Flow env'' r'' ∈ mid := by
  have hempty : CookieSetBy s ((Jar.run s [] pre).step s (.visit .callback env r))
      stateCookieName FlowState [] :=
    fun v hv => .inl (state_empty_of_logsIn h₁ hv)
  have hrun : Jar.run s [] (pre ++ .visit .callback env r :: mid) =
      ((Jar.run s [] pre).step s (.visit .callback env r)).run s mid := by
    simp [Jar.run, List.foldl_append]
  obtain ⟨resp, hr, h303⟩ := h₂
  rw [hrun] at hr
  rcases callback_respond_cases s env' ((((Jar.run s [] pre).step s
      (.visit .callback env r)).run s mid).send r') with ⟨code, st, -, -, -, hck, -⟩ | hno
  · obtain ⟨c, hc, -, hne⟩ := state_ne_nil_of_callbackChecks hck
    obtain ⟨pre', route, e, q, post, rfl, rfl, -⟩ :=
      (CookieSetBy.run (setsOnly_flowState s) mid hempty c (mem_of_cookie_send hc)).resolve_left hne
    exact ⟨e, _, List.mem_append_right _ (List.mem_cons_self _ _)⟩
  · exact absurd h303 (hno resp hr).1

theorem login_needs_fresh_state_flow :
    let r₁ := exampleRequest methodGet (lit "/oauth2") [] []
    let state := Base64.encodeToString (marshalSessionState
      ⟨Base64.encodeToString (List.replicate 32 0), lit "/oauth2"⟩)
    let r₂ := exampleRequest methodGet (lit "/oauth2/callback")
      [(lit "code", lit "c"), (lit "state", state)] []
    let flow := Step.visit .oauth2Flow grantingEnv r₁
    LogsIn issuerServer (Jar.run issuerServer [] [flow]) grantingEnv r₂ ∧
      LogsIn issuerServer (Jar.run issuerServer [] ([flow] ++ .visit .callback grantingEnv r₂ :: [flow]))
        grantingEnv r₂ ∧
      ∃ env'' r'', Step.visit .oauth2Flow env'' r'' ∈ [flow] := by
  intro r₁ state r₂ flow
  have hs : r₂.formValue (lit "state") = state := by
    show lookup [(lit "code", lit "c"), (lit "state", state)] (lit "state") = state
    rw [lookup_cons, if_neg (by decide), lookup_cons, if_pos rfl]
  have hlog : ∀ jar : Jar, (jar.send r₂).cookie stateCookieName = some state →
      LogsIn issuerServer jar grantingEnv r₂ := fun jar hck =>
    ⟨_, (@respond_callback_of_state issuerServer _ rfl grantingEnv (jar.send r₂) _ _ _ _ rfl rfl
      (by show r₂.formValue (lit "code") ≠ []; decide) hck hs rfl rfl rfl).2, rfl⟩
  have hflow := @run_oauth2Flow issuerServer _ rfl grantingEnv _ rfl
  have h₁ : LogsIn issuerServer (Jar.run issuerServer [] [flow]) grantingEnv r₂ :=
    hlog _ (by rw [hflow [] r₁]; exact cookie_send_set _ _ r₂)
  have h₂ : LogsIn issuerServer (Jar.run issuerServer []
      ([flow] ++ .visit .callback grantingEnv r₂ :: [flow])) grantingEnv r₂ :=
    hlog _ (by
      rw [show [flow] ++ .visit .callback grantingEnv r₂ :: [flow] =
        [flow, .visit .callback grantingEnv r₂] ++ [flow] from rfl, Jar.run_append, hflow]
      exact cookie_send_set _ _ r₂)
  exact ⟨h₁, h₂, (login_needs_fresh_state _ _ _ h₁ h₂)⟩

/-! ## Which visits change a cookie -/

/-- The names of the cookies a route's responses may set: `OAuth2Flow` the state, `Callback`
the two tokens and the state, `SignIn` and `Logout` the ID token, `UserInfo` none. -/
def writes : Route → List GoString
  | .oauth2Flow => [stateCookieName]
  | .callback => [idTokenCookieName, refreshTokenCookieName, stateCookieName]
  | .signIn => [idTokenCookieName]
  | .userInfo => []
  | .logout => [idTokenCookieName]

/-- The value of the cookie `n` in the jar, as `r.Cookie(n)` finds it in a request the browser
sends. -/
def Jar.cookie (jar : Jar) (n : GoString) : Option GoString :=
  (jar.find? (·.1 == n)).map (·.2)

theorem name_mem_writes {s : AuthServer} {route : Route} {env : Env} {r : Request}
    {resp : Response} (h : respond (s.handler route env r) = some resp) {c : Cookie}
    (hc : c ∈ resp.cookies) : c.name ∈ writes route := by
  rcases response_cookie_cases h hc with ⟨rfl, _, -, rfl⟩ |
    ⟨rfl, -, _, _, _, _, -, -, -, -, rfl | ⟨-, rfl⟩ | rfl⟩ |
    ⟨rfl, -, -, _, _, _, -, -, -, -, rfl⟩ | ⟨rfl, rfl⟩ <;> simp [writes, clearCookie]

theorem Jar.cookie_filter (jar : Jar) (m n : GoString) :
    Jar.cookie (jar.filter (·.1 != m)) n = if m = n then none else jar.cookie n := by
  rw [Jar.cookie, Jar.cookie, List.find?_filter]
  split_ifs with h
  · subst h
    simp
  · congr 2
    funext a
    by_cases ha : a.1 = n
    · simp [ha, Ne.symm h]
    · simp [ha]

theorem Jar.cookie_set (jar : Jar) (c : Cookie) (n : GoString) :
    (jar.set c).cookie n = if c.name = n then some c.value else jar.cookie n := by
  by_cases h : c.name = n
  · simp [Jar.cookie, Jar.set, h]
  · have := Jar.cookie_filter jar c.name n
    rw [if_neg h] at this
    rw [if_neg h, ← this, Jar.set, Jar.cookie, List.find?_cons, beq_false_of_ne h]
    rfl

theorem Jar.cookie_foldl_set {n : GoString} :
    ∀ {cs : List Cookie} {jar : Jar}, (∀ c ∈ cs, c.name ≠ n) →
      (cs.foldl Jar.set jar).cookie n = jar.cookie n
  | [], _, _ => rfl
  | c :: cs, jar, h => by
    rw [List.foldl_cons, Jar.cookie_foldl_set fun c' hc' => h c' (List.mem_cons_of_mem _ hc'),
      Jar.cookie_set, if_neg (h c (List.mem_cons_self _ _))]

/-- A visit to a route that does not write the cookie `n` leaves it as it was. -/
theorem Jar.cookie_step_visit (s : AuthServer) (jar : Jar) {route : Route} (env : Env)
    (r : Request) {n : GoString} (hn : n ∉ writes route) :
    (jar.step s (.visit route env r)).cookie n = jar.cookie n := by
  rw [Jar.step]
  cases hr : respond (s.handler route env (jar.send r)) with
  | none => rfl
  | some resp =>
    exact Jar.cookie_foldl_set fun c hc e => hn (e ▸ name_mem_writes hr hc)

/-- **What a visit never changes.** In any run from any jar, a cookie keeps its value unless a
visit to a route that writes it (`writes`) or the browser's forgetting it comes between: `SignIn`
and `Logout` change only the ID token, `OAuth2Flow` only the state, and `UserInfo` no cookie, so
a run without `Callback` keeps the refresh token, through a `Logout` too. -/
theorem cookie_frame (s : AuthServer) (n : GoString) :
    ∀ (steps : List Step) (jar : Jar),
      (∀ route env r, Step.visit route env r ∈ steps → n ∉ writes route) →
      Step.forget n ∉ steps → (Jar.run s jar steps).cookie n = jar.cookie n
  | [], _, _, _ => rfl
  | st :: steps, jar, hv, hf => by
    have hrest := cookie_frame s n steps (jar.step s st)
      (fun route env r h => hv route env r (List.mem_cons_of_mem _ h))
      (fun h => hf (List.mem_cons_of_mem _ h))
    show (Jar.run s (jar.step s st) steps).cookie n = _
    rw [hrest]
    cases st with
    | visit route env r =>
      exact Jar.cookie_step_visit s jar env r (hv route env r (List.mem_cons_self _ _))
    | forget m =>
      rw [Jar.step, Jar.cookie_filter, if_neg]
      rintro rfl
      exact hf (List.mem_cons_self _ _)

theorem cookie_frame_logout :
    let r := exampleRequest methodPost (lit "/oauth2/logout") [] []
    let steps := [Step.visit .userInfo grantingEnv r, .visit .logout grantingEnv r]
    (Jar.run issuerServer [(refreshTokenCookieName, lit "t")] steps).cookie refreshTokenCookieName =
      some (lit "t") := by
  intro r steps
  refine (cookie_frame issuerServer refreshTokenCookieName steps _ ?_ (by simp [steps])).trans rfl
  intro route env q h
  simp only [steps, List.mem_cons, Step.visit.injEq, List.not_mem_nil, or_false] at h
  rcases h with ⟨rfl, -, -⟩ | ⟨rfl, -, -⟩ <;> decide

/-! ## Which cookies a visit reads -/

/-- The names of the cookies a route's handler reads: `Callback` the state, `UserInfo` the ID
token, the others none. -/
def reads : Route → List GoString
  | .callback => [stateCookieName]
  | .userInfo => [idTokenCookieName]
  | .oauth2Flow | .signIn | .logout => []

/-- A handler sees of the browser's cookies only those its route reads: two jars that agree on
them give the same trace. -/
theorem handler_send_congr (s : AuthServer) (route : Route) (env : Env) (r : Request)
    {jar jar' : Jar} (h : ∀ n ∈ reads route, jar.cookie n = jar'.cookie n) :
    s.handler route env (jar.send r) = s.handler route env (jar'.send r) := by
  cases route with
  | oauth2Flow => rfl
  | signIn => rfl
  | logout => rfl
  | callback =>
    have hc : (jar.send r).cookie stateCookieName = (jar'.send r).cookie stateCookieName :=
      h _ (List.mem_singleton_self _)
    simp only [AuthServer.handler, AuthServer.callback, callbackChecks, hc]
    rfl
  | userInfo =>
    have hc : (jar.send r).cookie idTokenCookieName = (jar'.send r).cookie idTokenCookieName :=
      h _ (List.mem_singleton_self _)
    simp only [AuthServer.handler, AuthServer.userInfo, hc]
    rfl

/-- Two jars that agree on every cookie but `n`. -/
def Jar.AgreeBut (n : GoString) (jar jar' : Jar) : Prop :=
  ∀ m, m ≠ n → jar.cookie m = jar'.cookie m

theorem Jar.AgreeBut.foldl_set {n : GoString} :
    ∀ (cs : List Cookie) {jar jar' : Jar}, jar.AgreeBut n jar' →
      (cs.foldl Jar.set jar).AgreeBut n (cs.foldl Jar.set jar')
  | [], _, _, h => h
  | c :: cs, _, _, h => Jar.AgreeBut.foldl_set cs fun m hm => by
    rw [Jar.cookie_set, Jar.cookie_set, h m hm]

/-- One step keeps two jars agreeing on every cookie but one no route reads. -/
theorem Jar.AgreeBut.step (s : AuthServer) {n : GoString} (hn : ∀ route, n ∉ reads route)
    {jar jar' : Jar} (h : jar.AgreeBut n jar') : ∀ st : Step, (jar.step s st).AgreeBut n (jar'.step s st)
  | .visit route env r => by
    rw [Jar.step, Jar.step, handler_send_congr s route env r fun m hm =>
      h m fun e => hn route (e ▸ hm)]
    cases respond (s.handler route env (jar'.send r)) with
    | none => exact h
    | some resp => exact Jar.AgreeBut.foldl_set resp.cookies h
  | .forget k => fun m hm => by
    rw [Jar.step, Jar.step, Jar.cookie_filter, Jar.cookie_filter, h m hm]

theorem Jar.AgreeBut.run (s : AuthServer) {n : GoString} (hn : ∀ route, n ∉ reads route) :
    ∀ (steps : List Step) {jar jar' : Jar}, jar.AgreeBut n jar' →
      (Jar.run s jar steps).AgreeBut n (Jar.run s jar' steps)
  | [], _, _, h => h
  | st :: steps, _, _, h => Jar.AgreeBut.run s hn steps (h.step s hn st)

/-- **The refresh token is never read.** No handler reads the `refresh_token` cookie: two
browsers whose cookies differ only in it, after the same run from there, get the same trace,
and so the same response, for any next request to any route. The server stores the refresh
token and never uses it. -/
theorem refresh_token_write_only (s : AuthServer) (pre : List Step) {jar jar' : Jar}
    (h : jar.AgreeBut refreshTokenCookieName jar') (route : Route) (env : Env) (r : Request) :
    s.handler route env ((Jar.run s jar pre).send r) =
      s.handler route env ((Jar.run s jar' pre).send r) := by
  have hn : ∀ route, refreshTokenCookieName ∉ reads route := by
    intro route; cases route <;> decide
  exact handler_send_congr s route env r fun m hm =>
    Jar.AgreeBut.run s hn pre h m fun e => hn route (e ▸ hm)

theorem refresh_token_write_only_userInfo :
    let r := exampleRequest methodGet (lit "/oauth2/userinfo") [] []
    issuerServer.handler .userInfo grantingEnv
        ((Jar.run issuerServer [(refreshTokenCookieName, lit "t")] []).send r) =
      issuerServer.handler .userInfo grantingEnv ((Jar.run issuerServer [] []).send r) := by
  intro r
  refine refresh_token_write_only issuerServer [] (fun m hm => ?_) .userInfo grantingEnv r
  simp [Jar.cookie, Ne.symm hm]

end WeaveGitops.Auth
