import Mathlib.Data.List.Nodup
import WeaveGitops.Go.Json
import WeaveGitops.Http.Response

/-!
# The auth server and what it depends on

`AuthServer` is the server `NewAuthServer` builds: its configuration and the OIDC provider it
discovered. The provider is there exactly when an issuer is configured, an invariant the
structure carries as a field (`AuthServer.provider_isSome`); an issuer-less server, for the
admin-password login, has no provider, and every method Go calls on the provider then panics
on the nil pointer (`verifier`, `oauth2Config`).

The server's collaborators are not modelled: `Env` holds what each of them answers during one
request (the clock, the random source, the token exchange, the ID-token verifier, the user-info
endpoint, the Kubernetes secret, bcrypt, the token signer, the principal resolvers). A handler
is a function of the server, an `Env` and the request, and its events record which of the
collaborators it called (`Call`).

The module also has the session state of the OIDC flow and its JSON codec, and
`oauth2Config_scopes`: the scopes `oauth2Config` requests are the given ones followed by each
of `openid`, `offline_access`, `email` and `groups` that is missing, and applying it to its own
scopes changes nothing.
-/

namespace WeaveGitops.Auth

open WeaveGitops.Go WeaveGitops.Go.Json WeaveGitops.Http

/-- `StateCookieName`. -/
def stateCookieName : GoString := lit "state"

/-- `IDTokenCookieName`. -/
def idTokenCookieName : GoString := lit "id_token"

/-- `RefreshTokenCookieName`. -/
def refreshTokenCookieName : GoString := lit "refresh_token"

/-- `scopeProfile`. -/
def scopeProfile : GoString := lit "profile"

/-- `scopeEmail`. -/
def scopeEmail : GoString := lit "email"

/-- `scopeGroups`. -/
def scopeGroups : GoString := lit "groups"

/-- `oidc.ScopeOpenID`. -/
def scopeOpenID : GoString := lit "openid"

/-- `oidc.ScopeOfflineAccess`. -/
def scopeOfflineAccess : GoString := lit "offline_access"

/-! ## The server -/

/-- `OIDCConfig`, which is all of `AuthConfig`. `tokenDuration` is in nanoseconds. -/
structure OIDCConfig where
  issuerURL : GoString
  clientID : GoString
  clientSecret : GoString
  redirectURL : GoString
  tokenDuration : Int
  deriving DecidableEq

/-- `oauth2.Endpoint`. -/
structure Endpoint where
  authURL : GoString
  tokenURL : GoString
  deriving DecidableEq

/-- An `oidc.Provider` found by discovery, by the endpoint it publishes. -/
structure Provider where
  endpoint : Endpoint
  deriving DecidableEq

/-- An `AuthServer` built by `NewAuthServer`: it has a provider exactly when an issuer is
configured. -/
structure AuthServer where
  config : OIDCConfig
  provider : Option Provider
  provider_isSome : provider.isSome = decide (config.issuerURL ≠ [])

/-- `NewAuthServer`: discovery of the provider when an issuer is configured (`discover` is
`oidc.NewProvider`), then the HMAC secret from the random source. -/
def newAuthServer (discover : GoString → Except GoError Provider)
    (randRead : Except GoError GoString) (config : OIDCConfig) : Except GoError AuthServer :=
  if h : config.issuerURL ≠ [] then
    match discover config.issuerURL with
    | .error e => .error ⟨lit "could not create provider: " ++ e.msg⟩
    | .ok p =>
      match randRead with
      | .error e => .error ⟨lit "could not generate random HMAC secret: " ++ e.msg⟩
      | .ok _ => .ok ⟨config, some p, by simp [h]⟩
  else
    match randRead with
    | .error e => .error ⟨lit "could not generate random HMAC secret: " ++ e.msg⟩
    | .ok _ => .ok ⟨config, none, by simpa using h⟩

/-- `oidcEnabled`. -/
def AuthServer.oidcEnabled (s : AuthServer) : Bool :=
  decide (s.config.issuerURL ≠ [])

theorem AuthServer.provider_isSome_iff (s : AuthServer) : s.provider.isSome = s.oidcEnabled :=
  s.provider_isSome

/-- `verifier()`: `s.provider.Verifier(...)`, which dereferences the provider. The verifier has
no state the model needs; its answers are `Env.verify`. -/
def AuthServer.verifier (s : AuthServer) : Except GoPanic Unit :=
  match s.provider with
  | some _ => .ok ()
  | none => .error nilDereference

theorem AuthServer.verifier_of_provider {s : AuthServer} {p : Provider} (h : s.provider = some p) :
    s.verifier = .ok () := by
  simp [AuthServer.verifier, h]

/-! ## OAuth2 configuration -/

/-- `oauth2.Config`. -/
structure OAuth2Config where
  clientID : GoString
  clientSecret : GoString
  endpoint : Endpoint
  redirectURL : GoString
  scopes : List GoString
  deriving DecidableEq

/-- `contains`. -/
def contains (ss : List GoString) (s : GoString) : Bool :=
  ss.any (· == s)

/-- One of the four blocks of `oauth2Config`: `if !contains(scopes, x) { scopes = append(scopes,
x) }`. -/
def ensureScope (scopes : List GoString) (x : GoString) : List GoString :=
  if !contains scopes x then scopes ++ [x] else scopes

/-- `oauth2Config(scopes)`: the scopes with `openid`, `offline_access`, `email` and `groups`
ensured in that order, and the provider's endpoint, read through the provider pointer. -/
def AuthServer.oauth2Config (s : AuthServer) (scopes : List GoString) :
    Except GoPanic OAuth2Config :=
  let scopes := ensureScope scopes scopeOpenID
  let scopes := ensureScope scopes scopeOfflineAccess
  let scopes := ensureScope scopes scopeEmail
  let scopes := ensureScope scopes scopeGroups
  match s.provider with
  | none => .error nilDereference
  | some p => .ok ⟨s.config.clientID, s.config.clientSecret, p.endpoint, s.config.redirectURL, scopes⟩

theorem AuthServer.oauth2Config_of_none {s : AuthServer} (h : s.provider = none)
    (scopes : List GoString) : s.oauth2Config scopes = .error nilDereference := by
  simp [AuthServer.oauth2Config, h]

/-- The scopes `oauth2Config` ensures, in its order. -/
def forcedScopes : List GoString :=
  [scopeOpenID, scopeOfflineAccess, scopeEmail, scopeGroups]

/-- With a provider, `oauth2Config` ensures each of `forcedScopes` in turn. -/
theorem AuthServer.oauth2Config_of_provider {s : AuthServer} {p : Provider}
    (h : s.provider = some p) (scopes : List GoString) :
    s.oauth2Config scopes = .ok ⟨s.config.clientID, s.config.clientSecret, p.endpoint,
      s.config.redirectURL, forcedScopes.foldl ensureScope scopes⟩ := by
  simp [AuthServer.oauth2Config, h, forcedScopes]

/-- `Config.AuthCodeURL(state)`: the authorization endpoint and the query `Values.Encode` writes,
its keys in sorted order; `redirect_uri`, `scope` and `state` only when non-empty. -/
def OAuth2Config.authCodeURL (c : OAuth2Config) (state : GoString) : GoString :=
  let vs := [(lit "client_id", c.clientID)] ++
    (if c.redirectURL = [] then [] else [(lit "redirect_uri", c.redirectURL)]) ++
    [(lit "response_type", lit "code")] ++
    (if c.scopes = [] then [] else [(lit "scope", [ch ' '].intercalate c.scopes)]) ++
    (if state = [] then [] else [(lit "state", state)])
  c.endpoint.authURL ++ (if ch '?' ∈ c.endpoint.authURL then ch '&' else ch '?') :: encodeValues vs

/-! ## Cookies and the session state -/

/-- `createCookie(name, value)`, expiring `TokenDuration` after `now`. -/
def AuthServer.createCookie (s : AuthServer) (now : Int) (name value : GoString) : Cookie :=
  ⟨name, value, lit "/", now + s.config.tokenDuration, true, false⟩

@[simp] theorem AuthServer.createCookie_name (s : AuthServer) (now : Int) (name value : GoString) :
    (s.createCookie now name value).name = name := rfl

@[simp] theorem AuthServer.createCookie_value (s : AuthServer) (now : Int) (name value : GoString) :
    (s.createCookie now name value).value = value := rfl

/-- `clearCookie(name)`: an empty value that expired at the epoch. -/
def clearCookie (name : GoString) : Cookie :=
  ⟨name, [], lit "/", 0, false, false⟩

/-- `SessionState`, carried by the `state` cookie and parameter. -/
structure SessionState where
  nonce : GoString
  returnURL : GoString
  deriving DecidableEq

/-- The fields of `SessionState` by their JSON names, `n` and `return_url`. -/
def sessionStateFields : List (StringField SessionState) :=
  [⟨lit "n", lit_ascii (by decide), fun st v => { st with nonce := v }⟩,
    ⟨lit "return_url", lit_ascii (by decide), fun st v => { st with returnURL := v }⟩]

/-- `json.Marshal(SessionState{...})`, which cannot fail on a struct of strings. -/
def marshalSessionState (st : SessionState) : GoString :=
  encodeStruct [(lit "n", st.nonce), (lit "return_url", st.returnURL)]

/-- `json.Unmarshal(b, &state)` into a zero `SessionState`. -/
def unmarshalSessionState (b : GoString) : Option SessionState :=
  unmarshal sessionStateFields b ⟨[], []⟩

/-! ## Collaborators -/

/-- The token the exchange returns: its refresh token, and its `id_token` extra field when that
is a string (`token.Extra("id_token").(string)`). -/
structure Token where
  refreshToken : GoString
  idToken : Option GoString
  deriving DecidableEq

/-- A `ctrlclient.ObjectKey`. -/
structure ObjectKey where
  namespace_ : GoString
  name : GoString
  deriving DecidableEq

/-- A `corev1.Secret`, by its data. -/
structure Secret where
  data : List (GoString × GoString)
  deriving DecidableEq

/-- What the collaborators of the handlers answer during one request. -/
structure Env where
  /-- `time.Now()`, in nanoseconds. -/
  now : Int
  /-- `rand.Read` into the nonce's 32 bytes. -/
  randRead : Except GoError GoString
  /-- `oauth2Config(nil).Exchange(ctx, code)`. -/
  exchange : GoString → Except GoError Token
  /-- `verifier().Verify(ctx, rawIDToken)`. -/
  verify : GoString → Except GoError Unit
  /-- `provider.UserInfo` with the token as access token: the user's email. -/
  providerUserInfo : GoString → Except GoError GoString
  /-- `kubernetesClient.Get` of a secret. -/
  getSecret : ObjectKey → Except GoError Secret
  /-- `bcrypt.CompareHashAndPassword(hash, password)`. -/
  compareHashAndPassword : GoString → GoString → Except GoError Unit
  /-- `tokenSignerVerifier.Sign()`. -/
  sign : Except GoError GoString
  /-- `tokenSignerVerifier.Verify(token)`: the subject of the claims. -/
  verifyToken : GoString → Except GoError GoString
  /-- `multi.Principal(r)`, the composite principal resolver: a principal or nil, and an error
  or nil. -/
  principal : Request → Option UserPrincipal × Option GoError

/-- The calls to collaborators whose order the claims look at. -/
inductive Call
  /-- The code-for-token exchange at the provider's token endpoint. -/
  | exchange (code : GoString)
  /-- Verification of a raw ID token. -/
  | verify (rawIDToken : GoString)
  /-- A query of the provider's user-info endpoint. -/
  | userInfo (accessToken : GoString)
  /-- The composite principal resolver. -/
  | principal (r : Request)
  /-- The next handler of the middleware. -/
  | next (r : Request)
  deriving DecidableEq

/-- What a handler does for one request. -/
abbrev Trace := List (Event Call)

/-- `http.Error` as events. -/
def httpError (msg : GoString) (code : Nat) : Trace :=
  (Http.error msg code).map .rw

/-! ## Concrete servers and collaborators

The concrete cases after the theorems run on these: a server with an issuer, one without, and
collaborators that grant everything (a token with an ID token, a verified token, a password
that matches) except the local verifier, which rejects every token, and the principal
resolvers, which find no credential. -/

/-- A configuration with the given issuer. -/
def exampleConfig (issuer : GoString) : OIDCConfig :=
  ⟨issuer, lit "client", lit "secret", lit "/oauth2/callback", 3600⟩

/-- A server with an issuer and its provider. -/
def issuerServer : AuthServer :=
  ⟨exampleConfig (lit "issuer"), some ⟨⟨lit "/authorize", lit "/token"⟩⟩, by decide⟩

/-- A server with no issuer, as for the admin-password login. -/
def issuerlessServer : AuthServer :=
  ⟨exampleConfig [], none, by decide⟩

/-- Collaborators that grant what they are asked. -/
def grantingEnv : Env where
  now := 0
  randRead := .ok (List.replicate 32 0)
  exchange := fun _ => .ok ⟨lit "refresh", some (lit "raw")⟩
  verify := fun _ => .ok ()
  providerUserInfo := fun _ => .ok (lit "user")
  getSecret := fun _ => .ok ⟨[(lit "password", lit "hash")]⟩
  compareHashAndPassword := fun _ _ => .ok ()
  sign := .ok (lit "signed")
  verifyToken := fun _ => .error ⟨lit "invalid token"⟩
  principal := fun _ => (none, some ⟨lit "no credential"⟩)

/-- A request to `path` with a method, form values and cookies. -/
def exampleRequest (method path : GoString) (form cookies : List (GoString × GoString)) :
    Request :=
  ⟨method, ⟨path, [], path⟩, form, cookies, [], ⟨[]⟩⟩

/-! ## The scopes of `oauth2Config` -/

@[simp] theorem contains_eq_decide (ss : List GoString) (x : GoString) :
    contains ss x = decide (x ∈ ss) := by
  rw [contains, Bool.eq_iff_iff, List.any_eq_true, decide_eq_true_iff]
  exact ⟨fun ⟨y, hy, e⟩ => beq_iff_eq.1 e ▸ hy, fun h => ⟨x, h, beq_self_eq_true x⟩⟩

theorem foldl_ensureScope (ss : List GoString) {xs : List GoString} (hxs : xs.Nodup) :
    xs.foldl ensureScope ss = ss ++ xs.filter fun x => !contains ss x := by
  induction xs generalizing ss with
  | nil => simp
  | cons x xs ih =>
    obtain ⟨hx, hxs⟩ := List.nodup_cons.1 hxs
    rw [List.foldl_cons, ih _ hxs]
    by_cases h : x ∈ ss
    · simp [ensureScope, h]
    · simp only [ensureScope, contains_eq_decide, h, decide_False, Bool.not_false, if_true,
        List.filter_cons, List.cons_append, List.append_assoc, List.singleton_append]
      exact congrArg _ (congrArg _ (List.filter_congr fun y hy => by
        simp [show y ≠ x from fun e => hx (e ▸ hy)]))

theorem oauth2Config_eq {s : AuthServer} {ss : List GoString} {cfg : OAuth2Config}
    (h : s.oauth2Config ss = .ok cfg) : ∃ p, s.provider = some p ∧
      cfg = ⟨s.config.clientID, s.config.clientSecret, p.endpoint, s.config.redirectURL,
        forcedScopes.foldl ensureScope ss⟩ := by
  cases hp : s.provider with
  | none => rw [AuthServer.oauth2Config_of_none hp] at h; cases h
  | some p =>
    rw [AuthServer.oauth2Config_of_provider hp] at h
    exact ⟨p, rfl, (Except.ok.inj h).symm⟩

theorem count_filter_forcedScopes (ss : List GoString) (x : GoString) :
    (forcedScopes.filter fun y => !contains ss y).count x =
      if x ∈ forcedScopes ∧ x ∉ ss then 1 else 0 := by
  have hnd : (forcedScopes.filter fun y => !contains ss y).Nodup :=
    (show forcedScopes.Nodup by decide).filter _
  split_ifs with hx
  · convert List.count_eq_one_of_mem (a := x) hnd (by simpa using hx)
  · exact List.count_eq_zero_of_not_mem (by simp; tauto)

/-- **The scopes of `oauth2Config`**: the given scopes, then each of `openid`,
`offline_access`, `email` and `groups` they lack, in that order. So the given scopes are a
prefix, all four are requested, each is added once at most and nothing else is added, and
`oauth2Config` applied to its own scopes gives the same configuration. -/
theorem oauth2Config_scopes {s : AuthServer} {ss : List GoString} {cfg : OAuth2Config}
    (h : s.oauth2Config ss = .ok cfg) :
    cfg.scopes = ss ++ forcedScopes.filter (fun x => !contains ss x) ∧ ss <+: cfg.scopes ∧
      (∀ x ∈ forcedScopes, x ∈ cfg.scopes) ∧
      (∀ x, cfg.scopes.count x = ss.count x + if x ∈ forcedScopes ∧ x ∉ ss then 1 else 0) ∧
      s.oauth2Config cfg.scopes = .ok cfg := by
  have hnd : forcedScopes.Nodup := by decide
  obtain ⟨p, hp, rfl⟩ := oauth2Config_eq h
  have hsc : forcedScopes.foldl ensureScope ss = ss ++ forcedScopes.filter fun x => !contains ss x :=
    foldl_ensureScope ss hnd
  have hall : ∀ x ∈ forcedScopes, x ∈ forcedScopes.foldl ensureScope ss := fun x hx => by
    by_cases h : x ∈ ss <;> simp [hsc, h, hx]
  refine ⟨hsc, hsc ▸ List.prefix_append _ _, hall, fun x => ?_, ?_⟩
  · rw [hsc, List.count_append, count_filter_forcedScopes]
  · have : forcedScopes.foldl ensureScope (forcedScopes.foldl ensureScope ss) =
        forcedScopes.foldl ensureScope ss := by
      rw [foldl_ensureScope _ hnd, List.filter_eq_nil_iff.2 (by simpa using hall),
        List.append_nil]
    rw [AuthServer.oauth2Config_of_provider hp, this]

theorem oauth2Config_scopes_profile :
    ∃ cfg, issuerServer.oauth2Config [scopeProfile] = .ok cfg ∧
      cfg.scopes = [scopeProfile, scopeOpenID, scopeOfflineAccess, scopeEmail, scopeGroups] ∧
      issuerServer.oauth2Config cfg.scopes = .ok cfg := by
  obtain ⟨cfg, h⟩ : ∃ cfg, issuerServer.oauth2Config [scopeProfile] = .ok cfg := ⟨_, rfl⟩
  exact ⟨cfg, h, (oauth2Config_scopes h).1.trans (by decide), (oauth2Config_scopes h).2.2.2.2⟩

end WeaveGitops.Auth
