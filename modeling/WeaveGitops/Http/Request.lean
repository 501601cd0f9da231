import WeaveGitops.Go.Strings

/-!
# Requests of `net/http`

What the auth handlers and the middleware read from an `*http.Request`:

* the method, compared with `http.MethodGet` and `http.MethodPost`;
* the URL: its path (`IsPublicRoute`), its query (`URL.Query().Get`) and `URL.String()`;
* the form (`FormValue`), the cookies (`Cookie`), the body and the context (`Context`, `Clone`).

Parsing the request line, the query, the form and the `Cookie` header is `net/http`'s work and
is not modelled here: a request holds their results. The module also has `url.QueryEscape` and
`Values.Encode`, with which `oauth2` writes the authorize URL, and `http.Cookie`; reading such a
query back is the next module's.
-/

namespace WeaveGitops.Http

open WeaveGitops.Go

/-- `http.MethodGet`. -/
def methodGet : GoString := lit "GET"

/-- `http.MethodPost`. -/
def methodPost : GoString := lit "POST"

/-- `Values.Get` and the like: the value of the first pair with the key, `""` when none has
it. -/
def lookup (vs : List (GoString × GoString)) (key : GoString) : GoString :=
  match vs.find? (·.1 == key) with
  | some kv => kv.2
  | none => []

theorem lookup_cons (k v key : GoString) (vs : List (GoString × GoString)) :
    lookup ((k, v) :: vs) key = if k = key then v else lookup vs key := by
  by_cases h : k = key <;> simp [lookup, List.find?_cons, h]

/-! ## URLs -/

/-- A parsed URL, with what the handlers read of it: the path, the query parameters in order,
and `String()`, the URL written back out, which is kept as given. -/
structure URL where
  path : GoString
  query : List (GoString × GoString)
  string : GoString
  deriving DecidableEq

/-- `u.Query().Get(key)`. -/
def URL.queryGet (u : URL) (key : GoString) : GoString :=
  lookup u.query key

/-- The unreserved bytes, which `url.QueryEscape` copies: letters, digits and `-_.~`. -/
def isUnreserved (c : Byte) : Bool :=
  decide ((0x41 ≤ c.val ∧ c.val ≤ 0x5A) ∨ (0x61 ≤ c.val ∧ c.val ≤ 0x7A) ∨
    (0x30 ≤ c.val ∧ c.val ≤ 0x39)) || c == ch '-' || c == ch '_' || c == ch '.' || c == ch '~'

/-- `"0123456789ABCDEF"[i]`. -/
def upperhex (i : Nat) : Byte :=
  if i < 10 then byte (0x30 + i) else byte (0x41 + (i - 10))

/-- `url.QueryEscape`: a space becomes `+`, a reserved byte `%XX`. -/
def queryEscape : GoString → GoString
  | [] => []
  | c :: s =>
    (if c = ch ' ' then [ch '+']
      else if isUnreserved c then [c]
      else [ch '%', upperhex (c.val / 16), upperhex (c.val % 16)]) ++ queryEscape s

/-- What `Values.Encode` writes for one pair: `k=v`, both escaped. -/
def encodePair (kv : GoString × GoString) : GoString :=
  queryEscape kv.1 ++ ch '=' :: queryEscape kv.2

/-- `Values.Encode` on pairs already sorted by key: the pairs joined by `&`. -/
def encodeValues (vs : List (GoString × GoString)) : GoString :=
  [ch '&'].intercalate (vs.map encodePair)

/-! ## Cookies, contexts and requests -/

/-- An `http.Cookie` as the handlers build it. `expires` is the expiry in nanoseconds since the
Unix epoch. -/
structure Cookie where
  name : GoString
  value : GoString
  path : GoString
  expires : Int
  httpOnly : Bool
  secure : Bool
  deriving DecidableEq

/-- `UserPrincipal`, the identity the middleware attaches to a request: an id and groups. -/
structure UserPrincipal where
  id : GoString
  groups : List GoString
  deriving DecidableEq

/-- The keys of context values: `principalCtxKey{}`, and the keys of other packages. -/
inductive ContextKey
  | principal
  | other (n : Nat)
  deriving DecidableEq

/-- A context value: a `*UserPrincipal`, possibly nil, or a value of another package. -/
inductive ContextValue
  | principal (p : Option UserPrincipal)
  | other (n : Nat)
  deriving DecidableEq

/-- A `context.Context`: the values it carries, the innermost first. -/
structure Context where
  values : List (ContextKey × ContextValue)
  deriving DecidableEq

/-- `ctx.Value(key)`: the innermost value for the key. -/
def Context.value (ctx : Context) (key : ContextKey) : Option ContextValue :=
  (ctx.values.find? (·.1 == key)).map (·.2)

/-- `context.WithValue(ctx, key, v)`. -/
def Context.withValue (ctx : Context) (key : ContextKey) (v : ContextValue) : Context :=
  ⟨(key, v) :: ctx.values⟩

@[simp] theorem Context.value_withValue (ctx : Context) (k : ContextKey) (v : ContextValue) :
    (ctx.withValue k v).value k = some v := by
  simp [Context.value, Context.withValue]

/-- An `*http.Request`: the method, the URL, the form values (`r.Form` after `ParseForm`), the
cookies of its `Cookie` header by name and value, the body and the context. -/
structure Request where
  method : GoString
  url : URL
  form : List (GoString × GoString)
  cookies : List (GoString × GoString)
  body : GoString
  ctx : Context
  deriving DecidableEq

/-- `r.FormValue(key)`. -/
def Request.formValue (r : Request) (key : GoString) : GoString :=
  lookup r.form key

/-- `r.Cookie(name)`: the value of the first cookie of that name, `none` for
`http.ErrNoCookie`. -/
def Request.cookie (r : Request) (name : GoString) : Option GoString :=
  (r.cookies.find? (·.1 == name)).map (·.2)

/-- `r.Clone(ctx)`: the same request with another context. -/
def Request.clone (r : Request) (ctx : Context) : Request :=
  { r with ctx := ctx }

end WeaveGitops.Http
