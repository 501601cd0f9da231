import WeaveGitops.Auth.Callback

/-!
# The API auth middleware

`WithAPIAuth` wraps a handler (`next`, whose calls are the events `Call.next`): a request to a
public route goes to `next` as it is; any other request goes to `next` only when the composite
principal resolver finds a principal without an error, in a clone of the request whose context
carries the principal; otherwise it gets `401` with a fixed body.

Building the middleware reads the provider's verifier when OIDC is enabled, which the invariant
of `AuthServer` makes safe (`withAPIAuth_eq_ok`). `withAPIAuth_spec` is the contract.
-/

namespace WeaveGitops.Auth

open WeaveGitops.Go WeaveGitops.Http

/-- `Principal(ctx)`: the principal the context carries, nil when it carries none. -/
def principal (ctx : Context) : Option UserPrincipal :=
  match ctx.value .principal with
  | some (.principal p) => p
  | _ => none

/-- `WithPrincipal(ctx, p)`. -/
def withPrincipal (ctx : Context) (p : Option UserPrincipal) : Context :=
  ctx.withValue .principal (.principal p)

@[simp] theorem principal_withPrincipal (ctx : Context) (p : Option UserPrincipal) :
    principal (withPrincipal ctx p) = p := by
  simp [principal, withPrincipal]

/-- `IsPublicRoute`. -/
def isPublicRoute (u : URL) (publicRoutes : List GoString) : Bool :=
  publicRoutes.any (u.path == ·)

theorem isPublicRoute_iff (u : URL) (publicRoutes : List GoString) :
    isPublicRoute u publicRoutes = true ↔ u.path ∈ publicRoutes := by
  rw [isPublicRoute, List.any_eq_true]
  exact ⟨fun ⟨y, hy, e⟩ => (beq_iff_eq.1 e).symm ▸ hy, fun h => ⟨_, h, beq_self_eq_true _⟩⟩

/-- The handler `WithAPIAuth` returns, for one request. -/
def serveAPIAuth (publicRoutes : List GoString) (env : Env) (r : Request) : Trace :=
  if isPublicRoute r.url publicRoutes then [.call (.next r)]
  else
    .call (.principal r) ::
      match env.principal r with
      | (some p, none) => [.call (.next (r.clone (withPrincipal r.ctx (some p))))]
      | _ => httpError (lit "Authentication required") 401

/-- `WithAPIAuth(next, srv, publicRoutes)`: the verifier is read when OIDC is enabled, to build
the header and cookie resolvers, and the handler is returned. -/
def withAPIAuth (s : AuthServer) (publicRoutes : List GoString) :
    Except GoPanic (Env → Request → Trace) :=
  match (if s.oidcEnabled then s.verifier else .ok ()) with
  | .error p => .error p
  | .ok () => .ok (serveAPIAuth publicRoutes)

/-- **Building the middleware never panics**: the verifier is read only when OIDC is enabled,
and then the server has a provider. -/
theorem withAPIAuth_eq_ok (s : AuthServer) (publicRoutes : List GoString) :
    withAPIAuth s publicRoutes = .ok (serveAPIAuth publicRoutes) := by
  unfold withAPIAuth
  split
  · rename_i p h
    split_ifs at h with he
    obtain ⟨q, hq⟩ := Option.isSome_iff_exists.1 ((s.provider_isSome_iff).trans he)
    rw [AuthServer.verifier_of_provider hq] at h
    cases h
  · rfl

/-- **The contract of `WithAPIAuth`.** A request to a public route is passed to `next` unchanged
without consulting the resolver. Any other request consults the resolver once; with a principal
and no error, `next` gets a clone of the request whose context carries the principal; otherwise
`next` is not called and the response is `401` with the body `Authentication required`,
whatever the error. -/
theorem withAPIAuth_spec (s : AuthServer) (publicRoutes : List GoString) (env : Env)
    (r : Request) : ∃ h, withAPIAuth s publicRoutes = .ok h ∧
      (r.url.path ∈ publicRoutes → h env r = [.call (.next r)]) ∧
      (r.url.path ∉ publicRoutes → ∀ p, env.principal r = (some p, none) →
        h env r = [.call (.principal r), .call (.next (r.clone (withPrincipal r.ctx (some p))))] ∧
          principal (r.clone (withPrincipal r.ctx (some p))).ctx = some p) ∧
      (r.url.path ∉ publicRoutes → (∀ p, env.principal r ≠ (some p, none)) →
        (∀ r', Event.call (.next r') ∉ h env r) ∧
        respond (h env r) = some ⟨401, [(lit "Content-Type", lit "text/plain; charset=utf-8"),
          (lit "X-Content-Type-Options", lit "nosniff")], [], none,
          lit "Authentication required" ++ [byte 0x0A]⟩) := by
  refine ⟨_, withAPIAuth_eq_ok s publicRoutes, fun hp => ?_, fun hp p he => ?_, fun hp hn => ?_⟩
  · simp [serveAPIAuth, (isPublicRoute_iff _ _).2 hp]
  · have : isPublicRoute r.url publicRoutes = false :=
      Bool.eq_false_iff.2 fun h => hp ((isPublicRoute_iff _ _).1 h)
    simp [serveAPIAuth, this, he, Request.clone]
  · have : isPublicRoute r.url publicRoutes = false :=
      Bool.eq_false_iff.2 fun h => hp ((isPublicRoute_iff _ _).1 h)
    have hm : (match env.principal r with
        | (some p, none) => [Event.call (Call.next (r.clone (withPrincipal r.ctx (some p))))]
        | _ => httpError (lit "Authentication required") 401) =
          httpError (lit "Authentication required") 401 := by
      split
      · rename_i p h; exact absurd h (hn p)
      · rfl
    simp only [serveAPIAuth, this, hm, Bool.false_eq_true, if_false, respond_call_cons,
      respond_httpError, and_true]
    simp [httpError, Http.error]

end WeaveGitops.Auth
