import WeaveGitops.Http.Request

/-!
# Responses of `net/http`

A handler answers through the calls it makes on its `http.ResponseWriter` (`WriterOp`), and the
writer is a state machine (`Writer.apply`):

* until the status is written, `Header().Add`, `Header().Set` and `http.SetCookie` change the
  header and the cookies; afterwards they have no effect, as the header has been sent;
* `WriteHeader` writes the status once; a later call is superfluous and ignored;
* `Write` writes the status 200 first when none was written, then the bytes;
* `http.Redirect` writes the status and the location it is given. How Go turns that URL into
  the `Location` header (a relative path made absolute, non-ASCII bytes escaped) and the short
  HTML body it writes for a GET are not modelled.

The header is what the handler sets; those `net/http` adds itself when it sends the response
(`Date`, `Content-Length`, a `Content-Type` sniffed from the first `Write`) are not modelled.

A handler's run is a list of events: its calls to the writer, its calls to collaborators, and a
panic when it panics. `respond` is what the client receives: nothing after a panic, which the
server recovers by closing the connection, otherwise the final state of the writer, with the
status 200 when the handler wrote none. `respond_eq_none_of_panic` and `mem_cookies_of_respond`
are the run lemmas the claims use: a panic anywhere loses the response, and every cookie of a
response was set by the handler.
-/

namespace WeaveGitops.Http

open WeaveGitops.Go

/-- The calls a handler makes on its `http.ResponseWriter`. -/
inductive WriterOp
  /-- `rw.Header().Add(key, value)`. -/
  | addHeader (key value : GoString)
  /-- `rw.Header().Set(key, value)`. -/
  | setHeader (key value : GoString)
  /-- `http.SetCookie(rw, c)`, which adds a `Set-Cookie` header. -/
  | setCookie (c : Cookie)
  /-- `rw.WriteHeader(code)`. -/
  | writeHeader (code : Nat)
  /-- `rw.Write(b)`. -/
  | write (b : GoString)
  /-- `http.Redirect(rw, r, url, code)`. -/
  | redirect (url : GoString) (code : Nat)
  deriving DecidableEq

/-- The state of a response writer. -/
structure Writer where
  header : List (GoString × GoString)
  cookies : List Cookie
  status : Option Nat
  location : Option GoString
  body : GoString
  deriving DecidableEq

/-- A fresh writer. -/
def Writer.init : Writer := ⟨[], [], none, none, []⟩

/-- One call on the writer. -/
def Writer.apply (w : Writer) : WriterOp → Writer
  | .addHeader k v => if w.status.isNone then { w with header := w.header ++ [(k, v)] } else w
  | .setHeader k v =>
    if w.status.isNone then { w with header := w.header.filter (·.1 != k) ++ [(k, v)] } else w
  | .setCookie c => if w.status.isNone then { w with cookies := w.cookies ++ [c] } else w
  | .writeHeader code => if w.status.isNone then { w with status := some code } else w
  | .write b => { w with status := some (w.status.getD 200), body := w.body ++ b }
  | .redirect url code =>
    if w.status.isNone then { w with status := some code, location := some url } else w

/-- `http.Error(rw, msg, code)`: a plain-text content type, `nosniff`, the status, and the
message with a line feed (`fmt.Fprintln`). -/
def error (msg : GoString) (code : Nat) : List WriterOp :=
  [.setHeader (lit "Content-Type") (lit "text/plain; charset=utf-8"),
    .setHeader (lit "X-Content-Type-Options") (lit "nosniff"), .writeHeader code,
    .write (msg ++ [byte 0x0A])]

/-- What the client receives. -/
structure Response where
  status : Nat
  header : List (GoString × GoString)
  cookies : List Cookie
  location : Option GoString
  body : GoString
  deriving DecidableEq

/-- The response a writer has made once the handler returns: the status 200 when the handler
wrote none. -/
def Writer.response (w : Writer) : Response :=
  ⟨w.status.getD 200, w.header, w.cookies, w.location, w.body⟩

/-! ## Runs of a handler -/

/-- What a handler does, in order: a call on the writer, a call to a collaborator of type `C`,
or a panic. -/
inductive Event (C : Type)
  | rw (op : WriterOp)
  | call (c : C)
  | panic (p : GoPanic)
  deriving DecidableEq

variable {C : Type}

/-- The writer after the events, or `none` once the handler panics. -/
def run (w : Writer) : List (Event C) → Option Writer
  | [] => some w
  | .rw op :: t => run (w.apply op) t
  | .call _ :: t => run w t
  | .panic _ :: _ => none

/-- The response to a request whose handler ran the events `t`. -/
def respond (t : List (Event C)) : Option Response :=
  (run Writer.init t).map Writer.response

@[simp] theorem respond_call_cons (c : C) (t : List (Event C)) :
    respond (.call c :: t) = respond t := rfl

theorem run_eq_none_of_panic {w : Writer} {t : List (Event C)} {p : GoPanic}
    (h : Event.panic p ∈ t) : run w t = none := by
  induction t generalizing w with
  | nil => simp at h
  | cons e t ih =>
    cases e with
    | rw op => exact ih (by simpa using h)
    | call c => exact ih (by simpa using h)
    | panic q => rfl

/-- **A panic loses the response**, wherever it happens. -/
theorem respond_eq_none_of_panic {t : List (Event C)} {p : GoPanic} (h : Event.panic p ∈ t) :
    respond t = none := by
  simp [respond, run_eq_none_of_panic h]

theorem mem_cookies_apply {w : Writer} {op : WriterOp} {c : Cookie}
    (h : c ∈ (w.apply op).cookies) : c ∈ w.cookies ∨ op = .setCookie c := by
  cases op with
  | setCookie c' =>
    simp only [Writer.apply] at h
    split_ifs at h
    · rcases List.mem_append.1 h with h | h
      · exact .inl h
      · exact .inr (by rw [List.mem_singleton.1 h])
    · exact .inl h
  | _ =>
    simp only [Writer.apply] at h
    try split_ifs at h
    all_goals exact .inl h

theorem mem_cookies_run {w w' : Writer} {t : List (Event C)} (h : run w t = some w')
    {c : Cookie} (hc : c ∈ w'.cookies) : c ∈ w.cookies ∨ Event.rw (.setCookie c) ∈ t := by
  induction t generalizing w with
  | nil => cases h; exact .inl hc
  | cons e t ih =>
    cases e with
    | rw op =>
      rcases ih h with h' | h'
      · rcases mem_cookies_apply h' with h'' | rfl
        · exact .inl h''
        · simp
      · simp [h']
    | call _ => simpa using ih h
    | panic _ => cases h

/-- **Every cookie of a response was set by the handler.** -/
theorem mem_cookies_of_respond {t : List (Event C)} {resp : Response} (h : respond t = some resp)
    {c : Cookie} (hc : c ∈ resp.cookies) : Event.rw (.setCookie c) ∈ t := by
  obtain ⟨w, hw, rfl⟩ := Option.map_eq_some'.1 h
  simpa [Writer.init] using mem_cookies_run hw hc

end WeaveGitops.Http
