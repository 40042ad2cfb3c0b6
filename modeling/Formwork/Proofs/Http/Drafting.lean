import Formwork.Http.Context
import Formwork.Proofs.Sequence

/-! # Drafting that fails

What each operation on a response comes to, as one equation, and what a failed one leaves behind.
Headers are checked and routes looked up before anything is written. An encoder writes straight
into the body, and the status is set before it starts, so that one that gives up halfway has
changed both (`Operation.left_of_error`).
-/

namespace Formwork

namespace Context

variable {c : Context}

theorem run_setHeader (name value : String) :
    (setHeader name value).run c =
      if Header.isToken name && Header.isValue (Utf8.encode value) then
        (.ok (), { c with
          headers := c.headers.set (Text.lowerAscii name) (Utf8.encode value) })
      else (.error .invalidHeader, c) := by
  unfold setHeader
  split <;> rfl

theorem run_setContentType (type : String) :
    (setContentType type).run c =
      if Header.isValue (Utf8.encode type) then
        (.ok (), { c with headers := c.headers.set "content-type" (Utf8.encode type) })
      else (.error .invalidHeader, c) := by
  have hname : Header.isToken "content-type" = true := by decide +kernel
  have hlower : Text.lowerAscii "content-type" = "content-type" := by decide +kernel
  rw [setContentType, run_setHeader, hname, hlower, Bool.true_and]

theorem run_redirect (url : String) (status : Nat) :
    (redirect url status).run c =
      if Header.isToken "location" && Header.isValue (Utf8.encode url) then
        (.ok (), { c with
          status, headers := c.headers.set (Text.lowerAscii "location") (Utf8.encode url) })
      else (.error .invalidHeader, c) := by
  rw [redirect, run_bind, run_setHeader]
  by_cases hvalid : (Header.isToken "location" && Header.isValue (Utf8.encode url)) = true
  · rw [if_pos hvalid, if_pos hvalid]
    rfl
  · rw [if_neg hvalid, if_neg hvalid]

theorem run_redirectToRoute (name : String) (params : List (String × String)) (status : Nat) :
    (redirectToRoute name params status).run c =
      match c.urlFor name params with
      | .ok url => (redirect url status).run c
      | .error e => (.error (.route e), c) := by
  unfold redirectToRoute
  rw [run_bind]
  change (match c.urlFor name params with
    | .ok url => redirect url status
    | .error e => throw (.route e) : Drafting Unit).run c = _
  cases c.urlFor name params <;> rfl

theorem run_writeEncoding (e : Encoding) :
    (writeEncoding e).run c =
      if e.isComplete then
        (.ok (), { c with
          headers := c.headers.set "content-type" (Utf8.encode "application/json")
          body := c.body ++ e.octets ++ [0x0A] })
      else (.error .unencodable, { c with body := c.body ++ e.octets }) := by
  have hvalue : Header.isValue (Utf8.encode "application/json") = true := by decide +kernel
  obtain ⟨octets, isComplete⟩ := e
  cases isComplete with
  | false => rfl
  | true =>
      change (setContentType "application/json").run
        { c with body := c.body ++ octets ++ [0x0A] } = _
      rw [run_setContentType, if_pos hvalue, if_pos rfl]

theorem run_writeEncodingWith (status : Nat) (e : Encoding) :
    (writeEncodingWith status e).run c = (writeEncoding e).run (c.withStatus status) := rfl

/-- The response as far as it is drafted. -/
def draft (c : Context) : Response := ⟨c.status, c.headers, c.body⟩

end Context

/-! ## Operations -/

/-- An operation on a response that may fail. -/
inductive Operation where
  | setHeader (name value : String)
  | setContentType (type : String)
  | redirect (url : String) (status : Nat)
  | redirectToRoute (name : String) (params : List (String × String)) (status : Nat)
  | writeEncoding (e : Encoding)
  | writeEncodingWith (status : Nat) (e : Encoding)

namespace Operation

variable {op : Operation} {c later : Context} {error : ResponseError}

/-- Carries the operation out. -/
def run : Operation → Drafting Unit
  | setHeader name value => Context.setHeader name value
  | setContentType type => Context.setContentType type
  | redirect url status => Context.redirect url status
  | redirectToRoute name params status => Context.redirectToRoute name params status
  | writeEncoding e => Context.writeEncoding e
  | writeEncodingWith status e => Context.writeEncodingWith status e

/-- What the operation has done where it fails. -/
def leave (c : Context) : Operation → Context
  | writeEncoding e => { c with body := c.body ++ e.octets }
  | writeEncodingWith status e => { c with status, body := c.body ++ e.octets }
  | _ => c

/-- Were the operation to fail, nothing of it would be seen in the response. -/
def IsTraceless (c : Context) : Operation → Prop
  | writeEncoding e => e.octets = []
  | writeEncodingWith status e => status = c.status ∧ e.octets = []
  | _ => True

theorem draft_leave_iff : (op.leave c).draft = c.draft ↔ op.IsTraceless c := by
  cases op <;> simp [leave, IsTraceless, Context.draft]

theorem eq_leave_of_error (h : op.run.run c = (.error error, later)) : later = op.leave c := by
  -- Each equation has one branch that fails; the others contradict `h`.
  cases op with
  | setHeader name value =>
      rw [run, Context.run_setHeader] at h
      split at h <;> cases h
      rfl
  | setContentType type =>
      rw [run, Context.run_setContentType] at h
      split at h <;> cases h
      rfl
  | redirect url status =>
      rw [run, Context.run_redirect] at h
      split at h <;> cases h
      rfl
  | redirectToRoute name params status =>
      rw [run, Context.run_redirectToRoute] at h
      split at h
      · rw [Context.run_redirect] at h
        split at h <;> cases h
        rfl
      · cases h
        rfl
  | writeEncoding e =>
      rw [run, Context.run_writeEncoding] at h
      split at h <;> cases h
      rfl
  | writeEncodingWith status e =>
      rw [run, Context.run_writeEncodingWith, Context.run_writeEncoding] at h
      split at h <;> cases h
      rfl

/-- A failed operation leaves the context as it was but for what an encoder wrote and for the status
set in front of it. The response is the same exactly if these come to nothing. -/
theorem left_of_error (h : op.run.run c = (.error error, later)) :
    later = op.leave c ∧ (later.draft = c.draft ↔ op.IsTraceless c) := by
  obtain rfl := eq_leave_of_error h
  exact ⟨rfl, draft_leave_iff⟩

/-- A page half drafted. -/
def greeting : Context :=
  { site := ⟨{}, ⟨∅⟩, none⟩
    now := 0
    request := { method := "GET", uri := { path := "/" } }
    params := ∅
    route := "/"
    body := Utf8.encode "hello" }

theorem greeting_not_redirected :
    ∃ later, (redirect "/a\nb" 302).run.run greeting = (.error .invalidHeader, later) ∧
      later.draft = greeting.draft := by
  have h : (redirect "/a\nb" 302).run.run greeting = (.error .invalidHeader, greeting) := by
    rw [run, Context.run_redirect, if_neg (by decide +kernel)]
  exact ⟨greeting, h, (left_of_error h).2.2 trivial⟩

/-- A map whose keys are no texts: the encoder has written its brace before it sees the first
key. -/
theorem greeting_keeps_brace :
    ∃ later, (writeEncodingWith 201 ⟨Utf8.encode "\x7b", false⟩).run.run greeting =
        (.error .unencodable, later) ∧
      later.draft = ⟨201, [], Utf8.encode "hello\x7b"⟩ ∧ later.draft ≠ greeting.draft := by
  refine ⟨_, rfl, rfl, ?_⟩
  intro h
  cases congrArg Response.status h

end Operation

end Formwork
