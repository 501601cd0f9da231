import WeaveGitops.Auth.Callback

/-!
# The nil provider

`NewAuthServer` leaves the provider nil when no issuer is configured, and `OAuth2Flow` guards
against that with `oidcEnabled`. `Callback` and `UserInfo` do not:

* `callback_panics_of_no_issuer`: a `Callback` that passes its checks reads the endpoint of the
  nil provider for the exchange;
* `userInfo_panics_of_no_issuer`: a `UserInfo` whose cookie the local verifier rejects calls
  the user-info endpoint of the nil provider.

Both panic, and the client gets no status. With an issuer configured, no handler panics
(`respond_handler_isSome`).
-/

namespace WeaveGitops.Auth

open WeaveGitops.Go WeaveGitops.Go.Json WeaveGitops.Http

theorem AuthServer.provider_eq_none {s : AuthServer} (hs : s.config.issuerURL = []) :
    s.provider = none := by
  simpa [hs] using s.provider_isSome

theorem AuthServer.exists_provider {s : AuthServer} (hs : s.config.issuerURL ≠ []) :
    ∃ p, s.provider = some p :=
  Option.isSome_iff_exists.1 (by simpa [hs] using s.provider_isSome)

theorem callback_panics_of_no_issuer {s : AuthServer} (hs : s.config.issuerURL = []) (env : Env)
    {r : Request} {code : GoString} {st : SessionState} (h : callbackChecks r = .ok (code, st)) :
    s.callback env r = [.panic nilDereference] := by
  simp [AuthServer.callback, h, AuthServer.callbackExchange,
    AuthServer.oauth2Config_of_none (AuthServer.provider_eq_none hs)]

theorem userInfo_panics_of_no_issuer {s : AuthServer} (hs : s.config.issuerURL = []) {env : Env}
    {r : Request} {c : GoString} {e : GoError} (hm : r.method = methodGet)
    (hc : r.cookie idTokenCookieName = some c) (hv : env.verifyToken c = .error e) :
    s.userInfo env r = [.panic nilDereference] := by
  simp [AuthServer.userInfo, hm, hc, hv, AuthServer.provider_eq_none hs]

/-- On a server with no issuer, a `Callback` whose state cookie and parameter are both
`bnVsbA==` (the base64 of `null`, which decodes to the zero session state) and a `UserInfo`
with a cookie the local verifier rejects both panic on the nil provider and get no response. -/
theorem issuerless_callback_userInfo_panic :
    respond (issuerlessServer.callback grantingEnv (exampleRequest methodGet
      (lit "/oauth2/callback") [(lit "code", lit "c"), (lit "state", lit "bnVsbA==")]
      [(lit "state", lit "bnVsbA==")])) = none ∧
    respond (issuerlessServer.userInfo grantingEnv (exampleRequest methodGet
      (lit "/oauth2/userinfo") [] [(lit "id_token", lit "expired")])) = none := by
  have hc : issuerlessServer.callback grantingEnv (exampleRequest methodGet
      (lit "/oauth2/callback") [(lit "code", lit "c"), (lit "state", lit "bnVsbA==")]
      [(lit "state", lit "bnVsbA==")]) = [.panic nilDereference] :=
    @callback_panics_of_no_issuer _ rfl grantingEnv _ _ ⟨[], []⟩ rfl
  have hu : issuerlessServer.userInfo grantingEnv (exampleRequest methodGet
      (lit "/oauth2/userinfo") [] [(lit "id_token", lit "expired")]) = [.panic nilDereference] :=
    userInfo_panics_of_no_issuer rfl rfl rfl rfl
  rw [hc, hu]
  exact ⟨respond_eq_none_of_panic (List.mem_singleton_self _),
    respond_eq_none_of_panic (List.mem_singleton_self _)⟩

/-! ## With an issuer -/

theorem respond_isSome_of_no_panic {t : Trace} (h : ∀ p, Event.panic p ∉ t) :
    (respond t).isSome := by
  suffices ∀ w, (run w t).isSome by simp [respond, this]
  induction t with
  | nil => simp [run]
  | cons e t ih =>
    intro w
    cases e with
    | rw op => exact ih (fun p hp => h p (List.mem_cons_of_mem _ hp)) _
    | call c => exact ih (fun p hp => h p (List.mem_cons_of_mem _ hp)) _
    | panic p => exact absurd (List.mem_cons_self _ _) (h p)

theorem not_mem_panic_httpError (msg : GoString) (code : Nat) (p : GoPanic) :
    Event.panic p ∉ httpError msg code := by
  simp [httpError, Http.error]

theorem not_mem_panic_issueTokens (s : AuthServer) (now : Int) (raw refresh url : GoString)
    (p : GoPanic) : Event.panic p ∉ s.issueTokens now raw refresh url := by
  unfold AuthServer.issueTokens
  split_ifs <;> simp

theorem not_mem_panic_callback {s : AuthServer} (hs : s.config.issuerURL ≠ []) (env : Env)
    (r : Request) (p : GoPanic) : Event.panic p ∉ s.callback env r := by
  generalize ht : s.callback env r = t
  have hx := callbackExit s env r
  rw [ht] at hx
  cases hx with
  | rejected h => rcases callbackChecks_eq_error h with ⟨-, rfl⟩ | ⟨-, rfl⟩ <;> simp
  | noProvider _ hp => obtain ⟨q, hq⟩ := AuthServer.exists_provider hs; simp [hp] at hq
  | exchangeFailed => simp
  | noIDToken => simp [not_mem_panic_httpError]
  | verifyFailed => simp [not_mem_panic_httpError]
  | issued => simp [not_mem_panic_issueTokens]

/-- With an issuer, no handler panics: the provider they read is there. -/
theorem not_mem_panic_handler {s : AuthServer} (hs : s.config.issuerURL ≠ []) (route : Route)
    (env : Env) (r : Request) (p : GoPanic) : Event.panic p ∉ s.handler route env r := by
  obtain ⟨q, hq⟩ := AuthServer.exists_provider hs
  cases route with
  | callback => exact not_mem_panic_callback hs env r p
  | oauth2Flow | signIn | userInfo | logout =>
    simp only [AuthServer.handler, AuthServer.oauth2Flow, AuthServer.startAuthFlow,
      AuthServer.signIn, AuthServer.userInfo, AuthServer.logout,
      AuthServer.oauth2Config_of_provider hq, hq]
    split_ifs <;> (repeat' split) <;> simp [httpError, Http.error, toJson]

/-- **With an issuer configured, every request to every handler gets a response.** -/
theorem respond_handler_isSome {s : AuthServer} (hs : s.config.issuerURL ≠ []) (route : Route)
    (env : Env) (r : Request) : (respond (s.handler route env r)).isSome :=
  respond_isSome_of_no_panic fun p => not_mem_panic_handler hs route env r p

theorem respond_handler_isSome_issuerServer :
    issuerServer.config.issuerURL ≠ [] ∧
      (respond (issuerServer.handler .callback grantingEnv
        (exampleRequest methodGet (lit "/oauth2/callback") [] []))).isSome :=
  ⟨by decide, respond_handler_isSome (by decide) _ _ _⟩

end WeaveGitops.Auth
