import DrainGuard.Watch.Source
import DrainGuard.Proofs.Calls

/-!
# What a look asks and finds

A look at the metadata service side by side with the record of its requests. The record has what
became of each of them, and what the look finds is read off from that.

- **Answers** (`Exchange.token?`, `Exchange.Tells`): what an answer tells. The token and the
  document do not share a reading: only the document can be missing.
- **Requests** (`Network.request_makes`, `Network.token_eq`, `Network.fetch_eq`): a look is its
  requests, each with a reading of the answer.
- **Records** (`Network.Headed`, `Network.Looked`, `Network.fetch_makes`): what may stand in the
  record of a look, beside what the look finds.
- **Looks** (`Network.fetch_exchanges`): one request for the document, after one for a token if
  there has to be one. The status of the document says that it is missing, or nothing.
-/

namespace DrainGuard

/-! ## Answers -/

/-- The token that an exchange gives: the text of a readable body, without the blanks around it,
unless the status tells of an error. -/
def Exchange.token? : Exchange → Option String
  | .answered status (.ok bytes) =>
    if 400 ≤ status ∧ status ≤ 599 then none else some (Text.trim (Text.ofBytes bytes))
  | _ => none

/-- What an exchange for the document tells. -/
inductive Exchange.Tells : Exchange → Except Failure (Option Notice) → Prop where
  /-- There is no document. -/
  | missing (body : Except String (List UInt8)) : Tells (.answered 404 body) (.ok none)
  /-- The document is a notice. -/
  | notice {status : Nat} (h : status ≠ 404) {bytes : List UInt8} {n : Notice}
    (hn : Notice.ofDocument (Text.ofBytes bytes) = .ok n) :
    Tells (.answered status (.ok bytes)) (.ok (some n))
  /-- The document is no notice. -/
  | garbled {status : Nat} (h : status ≠ 404) {bytes : List UInt8} {f : Failure}
    (hf : Notice.ofDocument (Text.ofBytes bytes) = .error f) :
    Tells (.answered status (.ok bytes)) (.error f)
  /-- The document cannot be read. -/
  | unreadable {status : Nat} (h : status ≠ 404) (m : String) :
    Tells (.answered status (.error m)) (.error (.metadataUnreachable m))
  /-- There is no answer. -/
  | silent (m : String) : Tells (.unreachable m) (.error (.metadataUnreachable m))

theorem Notice.ofDocument_isTransient {text : String} {f : Failure}
    (h : ofDocument text = .error f) : f.isTransient := by
  unfold ofDocument at h
  split at h
  · cases h
  · cases h
    rfl

namespace Exchange.Tells

variable {e : Exchange} {r : Except Failure (Option Notice)}

theorem eq_none_iff (h : e.Tells r) : r = .ok none ↔ ∃ body, e = .answered 404 body := by
  cases h with
  | missing body => exact iff_of_true rfl ⟨body, rfl⟩
  | notice hs | garbled hs | unreadable hs => simp [hs]
  | silent m => simp

theorem eq_some_iff (h : e.Tells r) {n : Notice} : r = .ok (some n) ↔ ∃ status bytes,
    e = .answered status (.ok bytes) ∧ status ≠ 404 ∧
      Notice.ofDocument (Text.ofBytes bytes) = .ok n := by
  cases h with
  | missing body =>
    constructor
    · intro h'
      cases h'
    · rintro ⟨_, _, ⟨⟩, hs, -⟩
      exact (hs rfl).elim
  | notice hs hn =>
    constructor
    · rintro ⟨⟩
      exact ⟨_, _, rfl, hs, hn⟩
    · rintro ⟨_, _, ⟨⟩, -, hn'⟩
      exact congrArg (Except.map some) (hn.symm.trans hn')
  | garbled hs hf => simp [hf]
  | unreadable | silent => simp

theorem isTransient (h : e.Tells r) {f : Failure} (hf : r = .error f) : f.isTransient := by
  cases h with
  | missing | notice => cases hf
  | garbled _ hdocument =>
    cases hf
    exact Notice.ofDocument_isTransient hdocument
  | unreadable | silent =>
    cases hf
    rfl

end Exchange.Tells

/-- What a request that was made answers. -/
def Exchange.answer : Exchange → Except Failure (Nat × Except String (List UInt8))
  | .answered status body => .ok (status, body)
  | .unreachable m => .error (.metadataUnreachable m)

/-! ## Requests -/

namespace Network

variable {σ : Type} {net : Network σ} {s : MetadataSettings} {w w' : σ}

/-- The network with a record of the requests and of what became of them. -/
def recorded (net : Network σ) : Network (σ × List (Request × Exchange)) where
  exchange := recording net.exchange

theorem request_makes (net : Network σ) (r : Request) (w : σ) :
    Makes (net.request r) (net.recorded.request r) w [(r, (net.exchange r w).1)]
      (net.exchange r w).1.answer (net.exchange r w).2 where
  plain := by
    show net.request r w = _
    unfold request
    rcases net.exchange r w with ⟨m | ⟨status, body⟩, w'⟩ <;> rfl
  recorded before := by
    have hcall : net.recorded.exchange r (w, before) = ((net.exchange r w).1,
        (net.exchange r w).2, before ++ [(r, (net.exchange r w).1)]) := rfl
    show net.recorded.request r (w, before) = _
    rw [request, hcall]
    rcases net.exchange r w with ⟨m | ⟨status, body⟩, w'⟩ <;> rfl

/-- The request for a token. -/
def tokenRequest (url : String) : Request := ⟨.put, url, [(lifetimeHeader, lifetime)]⟩

/-- The token in the answer to the request for one. -/
def tokenIn (url : String) (a : Nat × Except String (List UInt8)) : Except Failure String :=
  if isError a.1 then
    .error (.metadataUnreachable ("HTTP status " ++ toString a.1 ++ " for url (" ++ url ++ ")"))
  else (textOf a.2).map Text.trim

theorem token_eq (net : Network σ) (url : String) : net.token url =
    net.request (tokenRequest url) >>= fun a => ExceptT.mk (pure (tokenIn url a)) := by
  refine congrArg (net.request (tokenRequest url) >>= ·) (funext fun ⟨status, body⟩ => ?_)
  dsimp only [tokenIn]
  split
  · rfl
  · cases body <;> rfl

/-- The notice in the answer to the request for the document. -/
def noticeIn (a : Nat × Except String (List UInt8)) : Except Failure (Option Notice) :=
  if a.1 = notFound then .ok none
  else textOf a.2 >>= fun text => (Notice.ofDocument text).map some

theorem fetch_eq (net : Network σ) (s : MetadataSettings) : net.fetch s =
    net.headers s >>= fun headers => net.request ⟨.get, s.endpoint, headers⟩ >>= fun a =>
      ExceptT.mk (pure (noticeIn a)) := by
  refine congrArg (net.headers s >>= ·) (funext fun headers =>
    congrArg (net.request ⟨.get, s.endpoint, headers⟩ >>= ·) (funext fun ⟨status, body⟩ => ?_))
  dsimp only [noticeIn]
  split
  · rfl
  · cases body with
    | error m => rfl
    | ok bytes =>
      have hread (f : String → ExceptT Failure (StateM σ) (Option Notice)) :
          (ExceptT.mk (pure (textOf (.ok bytes))) >>= f) = f (Text.ofBytes bytes) := rfl
      rw [hread]
      show _ = ExceptT.mk (pure ((Notice.ofDocument (Text.ofBytes bytes)).map some))
      split
      · next h => rw [h]; rfl
      · next h => rw [h]; rfl

theorem isError_iff {status : Nat} : isError status = true ↔ 400 ≤ status ∧ status ≤ 599 := by
  simp only [isError, Bool.and_eq_true, decide_eq_true_eq]

/-- An exchange gives the token, or the failure that the service cannot be reached. -/
theorem tokenIn_cases (url : String) (e : Exchange) :
    (∃ token, e.token? = some token ∧ e.answer >>= tokenIn url = .ok token) ∨
      e.token? = none ∧ ∃ m, e.answer >>= tokenIn url = .error (.metadataUnreachable m) := by
  rcases e with m | ⟨status, m | bytes⟩
  · exact .inr ⟨rfl, m, rfl⟩
  · refine .inr ⟨rfl, ?_⟩
    show ∃ m', tokenIn url (status, .error m) = _
    unfold tokenIn
    split
    · exact ⟨_, rfl⟩
    · exact ⟨m, rfl⟩
  · by_cases h : isError status = true
    · refine .inr ⟨if_pos (isError_iff.mp h), ?_⟩
      show ∃ m, tokenIn url (status, .ok bytes) = _
      rw [tokenIn, if_pos h]
      exact ⟨_, rfl⟩
    · exact .inl ⟨_, if_neg (mt isError_iff.mpr h), if_neg h⟩

/-! ## Records -/

/-- What the headers of the request for the document take. -/
inductive Headed (s : MetadataSettings) :
    List (Request × Exchange) → Except Failure (List (String × String)) → Prop where
  /-- Requests need no token. -/
  | plain (h : s.tokenEndpoint = none) : Headed s [] (.ok [])
  /-- There is a token for the request. -/
  | granted {url token : String} {e : Exchange} (h : s.tokenEndpoint = some url)
    (ht : e.token? = some token) (hv : isHeaderValue token = true) :
    Headed s [(tokenRequest url, e)] (.ok [(tokenHeader, token)])
  /-- There is none, or none that a header can carry. -/
  | denied {url : String} {e : Exchange} (h : s.tokenEndpoint = some url)
    (ht : ∀ token, e.token? = some token → isHeaderValue token = false) (m : String) :
    Headed s [(tokenRequest url, e)] (.error (.metadataUnreachable m))

/-- The headers that a token goes into. -/
def headersFor (token : String) : Except Failure (List (String × String)) :=
  if isHeaderValue token then .ok [(tokenHeader, token)]
  else .error (.metadataUnreachable "failed to parse header value")

theorem headers_makes (net : Network σ) (s : MetadataSettings) (w : σ) : ∃ log r w',
    Makes (net.headers s) (net.recorded.headers s) w log r w' ∧ Headed s log r := by
  cases hurl : s.tokenEndpoint with
  | none =>
    refine ⟨[], .ok [], w, ?_, .plain hurl⟩
    unfold headers
    rw [hurl]
    exact .result (.ok []) w
  | some url =>
    -- for any world, since the network with the record has to be taken apart likewise
    have heq {τ : Type} (net : Network τ) : net.headers s =
        net.token url >>= fun token => ExceptT.mk (pure (headersFor token)) := by
      unfold headers
      rw [hurl]
      refine congrArg (net.token url >>= ·) (funext fun token => ?_)
      unfold headersFor
      split <;> rfl
    have hmakes := (request_makes net (tokenRequest url) w).bind_result (tokenIn url)
    rw [← token_eq, ← token_eq] at hmakes
    have hheaders := hmakes.bind_result headersFor
    rw [← heq, ← heq] at hheaders
    refine ⟨_, _, _, hheaders, ?_⟩
    rcases tokenIn_cases url (net.exchange (tokenRequest url) w).1 with
      ⟨token, htoken, hr⟩ | ⟨hnone, m, hr⟩
    · rw [hr]
      show Headed s _ (headersFor token)
      unfold headersFor
      split
      · next hvalue => exact .granted hurl htoken hvalue
      · next hvalue =>
        refine .denied hurl (fun token' h => ?_) _
        cases htoken.symm.trans h
        exact Bool.eq_false_iff.mpr hvalue
    · rw [hr]
      refine .denied hurl (fun token h => ?_) m
      cases hnone.symm.trans h

theorem tells_noticeIn (e : Exchange) : e.Tells (e.answer >>= noticeIn) := by
  rcases e with m | ⟨status, body⟩
  · exact .silent m
  show Exchange.Tells _ (noticeIn (status, body))
  unfold noticeIn
  split
  · next h =>
    cases h
    exact .missing body
  · next h =>
    cases body with
    | error m => exact .unreadable h m
    | ok bytes =>
      show Exchange.Tells _ ((Notice.ofDocument (Text.ofBytes bytes)).map some)
      cases hn : Notice.ofDocument (Text.ofBytes bytes) with
      | error f => exact .garbled h hn
      | ok n => exact .notice h hn

/-- The requests of a look, what became of them and what was found. -/
inductive Looked (s : MetadataSettings) :
    List (Request × Exchange) → Except Failure (Option Notice) → Prop where
  /-- The document was not asked for. -/
  | denied {log : List (Request × Exchange)} {f : Failure} (h : Headed s log (.error f)) :
    Looked s log (.error f)
  /-- The document was asked for. -/
  | asked {log : List (Request × Exchange)} {headers : List (String × String)}
    {e : Exchange} {r : Except Failure (Option Notice)} (h : Headed s log (.ok headers))
    (ht : e.Tells r) : Looked s (log ++ [(⟨.get, s.endpoint, headers⟩, e)]) r

theorem fetch_makes (net : Network σ) (s : MetadataSettings) (w : σ) : ∃ log r w',
    Makes (net.fetch s) (net.recorded.fetch s) w log r w' ∧ Looked s log r := by
  rw [fetch_eq, fetch_eq]
  obtain ⟨log, r, w₁, hmakes, hheaded⟩ := headers_makes net s w
  cases r with
  | error f => exact ⟨_, _, _, hmakes.bind_error, .denied hheaded⟩
  | ok headers =>
    have hdocument := (request_makes net ⟨.get, s.endpoint, headers⟩ w₁).bind_result noticeIn
    exact ⟨_, _, _, hmakes.bind hdocument, .asked hheaded (tells_noticeIn _)⟩

/-! ## Looks -/

/-- A request for a document came to `e`. -/
def Brought (log : List (Request × Exchange)) (e : Exchange) : Prop :=
  ∃ q : Request, q.method = .get ∧ (q, e) ∈ log

theorem Headed.not_brought {log : List (Request × Exchange)}
    {r : Except Failure (List (String × String))} (h : Headed s log r) (e : Exchange) :
    ¬ Brought log e := by
  rintro ⟨q, hget, hmem⟩
  cases h with
  | plain => cases hmem
  | granted | denied =>
    cases List.mem_singleton.mp hmem
    cases hget

theorem Headed.brought_append {log : List (Request × Exchange)}
    {r : Except Failure (List (String × String))} (h : Headed s log r) (url : String)
    (headers : List (String × String)) (e x : Exchange) :
    Brought (log ++ [(⟨.get, url, headers⟩, e)]) x ↔ x = e := by
  constructor
  · rintro ⟨q, hget, hmem⟩
    rcases List.mem_append.mp hmem with hmem | hmem
    · exact (h.not_brought x ⟨q, hget, hmem⟩).elim
    · cases List.mem_singleton.mp hmem
      rfl
  · rintro rfl
    exact ⟨_, rfl, List.mem_append_right _ (List.mem_singleton.mpr rfl)⟩

theorem Looked.of_none {log : List (Request × Exchange)} {r : Except Failure (Option Notice)}
    (h : Looked s log r) (hs : s.tokenEndpoint = none) :
    ∃ e, log = [(⟨.get, s.endpoint, []⟩, e)] := by
  cases h with
  | denied h =>
    cases h with
    | denied hurl => cases hs.symm.trans hurl
  | asked h =>
    cases h with
    | plain => exact ⟨_, rfl⟩
    | granted hurl => cases hs.symm.trans hurl

theorem Looked.of_some {log : List (Request × Exchange)} {r : Except Failure (Option Notice)}
    (h : Looked s log r) {url : String} (hs : s.tokenEndpoint = some url) : ∃ e,
    (∃ token e', e.token? = some token ∧ isHeaderValue token = true ∧
      log = [(tokenRequest url, e), (⟨.get, s.endpoint, [(tokenHeader, token)]⟩, e')]) ∨
    (∀ token, e.token? = some token → isHeaderValue token = false) ∧
      log = [(tokenRequest url, e)] ∧ ∃ m, r = .error (.metadataUnreachable m) := by
  cases h with
  | denied h =>
    cases h with
    | denied hurl ht m =>
      cases hs.symm.trans hurl
      exact ⟨_, .inr ⟨ht, rfl, m, rfl⟩⟩
  | asked h =>
    cases h with
    | plain hnone => cases hs.symm.trans hnone
    | granted hurl ht hv =>
      cases hs.symm.trans hurl
      exact ⟨_, .inl ⟨_, _, ht, hv, rfl⟩⟩

/-- What is found, by what the requests for a document came to. -/
structure Finds (log : List (Request × Exchange)) (r : Except Failure (Option Notice)) : Prop where
  /-- Only a document that is missing is no notice. -/
  missing : r = .ok none ↔ ∃ body, Brought log (.answered 404 body)
  /-- Any other document is read, whatever the status that comes with it. -/
  notice : ∀ n, r = .ok (some n) ↔ ∃ status bytes, Brought log (.answered status (.ok bytes)) ∧
    status ≠ 404 ∧ Notice.ofDocument (Text.ofBytes bytes) = .ok n
  /-- Everything else is taken for "no notice" by the poll loop. -/
  failure : ∀ f, r = .error f → f.isTransient

theorem Headed.finds {log : List (Request × Exchange)} {f : Failure}
    (h : Headed s log (.error f)) : Finds log (.error f) where
  missing := by
    constructor
    · intro h'
      cases h'
    · rintro ⟨body, hb⟩
      exact (h.not_brought _ hb).elim
  notice n := by
    constructor
    · intro h'
      cases h'
    · rintro ⟨status, bytes, hb, -⟩
      exact (h.not_brought _ hb).elim
  failure f' h' := by
    cases h'
    cases h
    rfl

/-- If the document was asked for once, what is found is what the answer tells. -/
theorem finds_of_tells {log : List (Request × Exchange)} {e : Exchange}
    {r : Except Failure (Option Notice)} (hb : ∀ x, Brought log x ↔ x = e) (ht : e.Tells r) :
    Finds log r where
  missing := by simp only [hb, ht.eq_none_iff, eq_comm]
  notice n := by simp only [hb, ht.eq_some_iff, eq_comm]
  failure f h := ht.isTransient h

theorem Looked.finds {log : List (Request × Exchange)} {r : Except Failure (Option Notice)}
    (h : Looked s log r) : Finds log r := by
  cases h with
  | denied h => exact h.finds
  | asked h ht => exact finds_of_tells (h.brought_append _ _ _) ht

/-- A look asks for the document once, and for a token once before that if requests have to carry
one. It finds no notice exactly if the document is missing, and a notice exactly if the document is
one. -/
theorem fetch_exchanges (net : Network σ) (s : MetadataSettings) (w : σ) : ∃ log r w',
    (net.fetch s).run w = (r, w') ∧ (net.recorded.fetch s).run (w, []) = (r, w', log) ∧
    (s.tokenEndpoint = none → ∃ e, log = [(⟨.get, s.endpoint, []⟩, e)]) ∧
    (∀ url, s.tokenEndpoint = some url → ∃ e,
      (∃ token e', e.token? = some token ∧ isHeaderValue token = true ∧
        log = [(tokenRequest url, e), (⟨.get, s.endpoint, [(tokenHeader, token)]⟩, e')]) ∨
      (∀ token, e.token? = some token → isHeaderValue token = false) ∧
        log = [(tokenRequest url, e)] ∧ ∃ m, r = .error (.metadataUnreachable m)) ∧
    Finds log r := by
  obtain ⟨log, r, w', hmakes, hlooked⟩ := fetch_makes net s w
  exact ⟨log, r, w', hmakes.plain, hmakes.recorded [], hlooked.of_none,
    fun url hurl => hlooked.of_some hurl, hlooked.finds⟩

end Network

end DrainGuard
