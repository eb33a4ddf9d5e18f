import Mathlib.Data.Finset.Card
import RegistryBench.Trace

/-!
# Loops of requests

A chain of requests is sent one after the other, each while the last one that was sent is served.
This module proves that a chain visits no URL twice and says what each of its requests carries.

* `getElem?_chain`: a request is handled under the trace that the chain began with, followed by the
  URLs of the requests sent before it.
* `mem_visited_iff`: that trace has the URLs of all requests before it, sent or refused.
* `nodup_sent`: the URLs of the requests that are sent differ.
-/

namespace RegistryBench.Trace

/-- An octet that is visible may stand in a header value. -/
theorem isAllowed_of_isVisible {octet : UInt8} (h : isVisible octet = true) :
    isAllowed octet = true := by
  simp only [isVisible, isAllowed, Bool.or_eq_true, beq_iff_eq, Bool.and_eq_true,
    decide_eq_true_eq, bne_iff_ne] at h ⊢
  refine h.imp_right fun ⟨hleast, hbelow⟩ => ⟨hleast, ?_⟩
  rintro rfl
  exact absurd hbelow (by decide)

/-- A visible URL is added to a trace that does not have it. -/
theorem extend_of_isVisible (parent : Trace) {url : String}
    (h : (Text.utf8 url).all isVisible = true) :
    parent.extend url =
      if Text.utf8 url ∈ parent.values then .error (.loopDetected url)
      else .ok ⟨parent.values ++ [Text.utf8 url]⟩ := by
  have hallowed : (Text.utf8 url).all isAllowed = true :=
    List.all_eq_true.2 fun octet hoctet =>
      isAllowed_of_isVisible (List.all_eq_true.1 h octet hoctet)
  simp only [extend, contains, List.contains_eq_mem, decide_eq_true_eq, push, hallowed, if_true]

/-! ### One request -/

/-- A request to a visible URL is refused and stays as it is when the trace has the URL; otherwise
it is sent with the trace and its URL, in place of the trace it came with. -/
theorem hop_cases (parent : Trace) {request : Request}
    (h : (Text.utf8 request.url).all isVisible = true) :
    (Text.utf8 request.url ∈ parent.values ∧
        (parent.hop request).result = .error (.loopDetected request.url) ∧
        (parent.hop request).request = request) ∨
      (Text.utf8 request.url ∉ parent.values ∧
        (parent.hop request).result = .ok ⟨parent.values ++ [Text.utf8 request.url]⟩ ∧
        (parent.hop request).request = { request with
          headers := writeTo ⟨parent.values ++ [Text.utf8 request.url]⟩ request.headers }) := by
  by_cases hmem : Text.utf8 request.url ∈ parent.values
  · exact Or.inl ⟨hmem, by simp [hop, extend_of_isVisible parent h, hmem]⟩
  · exact Or.inr ⟨hmem, by simp [hop, extend_of_isVisible parent h, hmem]⟩

/-- A request keeps its URL. -/
@[simp]
theorem url_hop (parent : Trace) (request : Request) :
    (parent.hop request).request.url = request.url := by
  rw [hop]
  split
  · rfl
  · rfl

/-- A request that is sent carries the trace before it and its URL. -/
theorem ofHeaders_hop {parent trace : Trace} {request : Request}
    (h : (parent.hop request).result = .ok trace) :
    ofHeaders (parent.hop request).request.headers =
      ⟨parent.values ++ [Text.utf8 request.url]⟩ := by
  rw [hop] at h ⊢
  split at h
  next extended hextended =>
    simp only [extend, push] at hextended
    split at hextended
    next => contradiction
    next =>
      split at hextended
      next =>
        obtain rfl := Except.ok.inj hextended
        exact ofHeaders_writeTo _ _
      next => contradiction
  next => contradiction

/-! ### Chains -/

/-- The URLs of the requests that were sent, oldest first. -/
def sent (hops : List Hop) : List String :=
  (hops.filter fun hop => hop.result.isOk).map fun hop => hop.request.url

theorem sent_cons (hop : Hop) (hops : List Hop) :
    sent (hop :: hops) =
      match hop.result with
      | .ok _ => hop.request.url :: sent hops
      | .error _ => sent hops := by
  cases h : hop.result with
  | ok trace => simp [sent, h, Except.isOk, Except.toBool]
  | error e => simp [sent, h, Except.isOk, Except.toBool]

/-- The trace after some hops: the one before them and the URLs that were sent. -/
def visited (parent : Trace) (hops : List Hop) : Trace :=
  ⟨parent.values ++ (sent hops).map Text.utf8⟩

/-- What is served after a request has been handled. -/
def servedAfter (served : Headers) (hop : Hop) : Headers :=
  match hop.result with
  | .ok _ => hop.request.headers
  | .error _ => served

theorem chain_cons (served : Headers) (request : Request) (requests : List Request) :
    chain served (request :: requests) =
      (ofHeaders served).hop request ::
        chain (servedAfter served ((ofHeaders served).hop request)) requests := rfl

/-- The trace that is served has one more URL when the request was sent. -/
theorem ofHeaders_servedAfter (served : Headers) (request : Request) :
    ofHeaders (servedAfter served ((ofHeaders served).hop request)) =
      visited (ofHeaders served) [(ofHeaders served).hop request] := by
  rw [servedAfter]
  split
  next trace hok =>
    rw [ofHeaders_hop hok]
    simp [visited, sent, hok, Except.isOk, Except.toBool]
  next e herror => simp [visited, sent, herror, Except.isOk, Except.toBool]

theorem visited_cons (parent : Trace) (hop : Hop) (hops : List Hop) :
    visited (visited parent [hop]) hops = visited parent (hop :: hops) := by
  by_cases h : hop.result.isOk = true
  · simp [visited, sent, h]
  · simp [visited, sent, h]

/-- Each request is handled under the trace of those sent before it. -/
theorem getElem?_chain (served : Headers) (requests : List Request) (k : Nat) :
    (chain served requests)[k]? =
      requests[k]?.map
        (visited (ofHeaders served) (chain served (requests.take k))).hop := by
  induction requests generalizing served k with
  | nil => rfl
  | cons request requests ih =>
    cases k with
    | zero => simp [chain, visited, sent]
    | succ k =>
      rw [chain_cons, List.getElem?_cons_succ, ih, List.getElem?_cons_succ, List.take_succ_cons,
        chain_cons, ofHeaders_servedAfter, visited_cons]

/-! ### What was visited -/

theorem utf8_inj {a b : String} : Text.utf8 a = Text.utf8 b ↔ a = b := by
  refine ⟨fun h => ?_, congrArg _⟩
  have htext := congrArg Text.ofUtf8? h
  rw [Text.ofUtf8?_utf8, Text.ofUtf8?_utf8] at htext
  exact Option.some.inj htext

/-- A request to a visible URL leaves the URL in the trace, whether it is sent or refused. -/
theorem mem_visited_hop_iff (parent : Trace) {request : Request}
    (h : (Text.utf8 request.url).all isVisible = true) (value : Bytes) :
    value ∈ (visited parent [parent.hop request]).values ↔
      value ∈ parent.values ∨ value = Text.utf8 request.url := by
  obtain ⟨hmem, herror, -⟩ | ⟨-, hok, -⟩ := hop_cases parent h
  · -- refused: the trace stays, and has the URL
    simp only [visited, sent, herror, Except.isOk, Except.toBool, Bool.false_eq_true,
      not_false_eq_true, List.filter_cons_of_neg, List.filter_nil, List.map_nil, List.append_nil]
    exact ⟨Or.inl, fun hvalue => hvalue.elim id fun heq => heq ▸ hmem⟩
  · simp [visited, sent, hok, Except.isOk, Except.toBool]

/-- The trace after a chain has what the chain began with and every URL that came up. -/
theorem mem_visited_iff (served : Headers) {requests : List Request}
    (h : ∀ request ∈ requests, (Text.utf8 request.url).all isVisible = true) (value : Bytes) :
    value ∈ (visited (ofHeaders served) (chain served requests)).values ↔
      value ∈ (ofHeaders served).values ∨ ∃ request ∈ requests, value = Text.utf8 request.url := by
  induction requests generalizing served with
  | nil => simp [chain, visited, sent]
  | cons request requests ih =>
    obtain ⟨hrequest, hrequests⟩ := List.forall_mem_cons.1 h
    rw [chain_cons, ← visited_cons, ← ofHeaders_servedAfter, ih _ hrequests,
      ofHeaders_servedAfter, mem_visited_hop_iff _ hrequest, or_assoc]
    simp only [List.mem_cons, exists_eq_or_imp]

/-- The URLs that a chain sends differ from each other and from those that it began with. -/
theorem nodup_sent (served : Headers) {requests : List Request}
    (h : ∀ request ∈ requests, (Text.utf8 request.url).all isVisible = true) :
    (sent (chain served requests)).Nodup ∧
      ∀ url ∈ sent (chain served requests), Text.utf8 url ∉ (ofHeaders served).values := by
  induction requests generalizing served with
  | nil => simp [chain, sent]
  | cons request requests ih =>
    obtain ⟨hrequest, hrequests⟩ := List.forall_mem_cons.1 h
    obtain ⟨hnodup, hnew⟩ := ih (servedAfter served ((ofHeaders served).hop request)) hrequests
    -- what is sent later is new to a trace that has this URL
    rw [ofHeaders_servedAfter] at hnew
    have hlater (url : String)
        (hurl : url ∈ sent (chain (servedAfter served ((ofHeaders served).hop request)) requests)) :
        Text.utf8 url ∉ (ofHeaders served).values ∧ url ≠ request.url := by
      have hurl := hnew url hurl
      rwa [mem_visited_hop_iff _ hrequest, not_or, utf8_inj] at hurl
    rw [chain_cons, sent_cons]
    obtain ⟨-, herror, -⟩ | ⟨hfresh, hok, -⟩ := hop_cases (ofHeaders served) hrequest
    · rw [herror]
      exact ⟨hnodup, fun url hurl => (hlater url hurl).1⟩
    · rw [hok, url_hop]
      refine ⟨List.nodup_cons.2 ⟨fun hurl => (hlater _ hurl).2 rfl, hnodup⟩, ?_⟩
      exact List.forall_mem_cons.2 ⟨hfresh, fun url hurl => (hlater url hurl).1⟩

/-- The hops of a chain are to the URLs of the requests. -/
theorem map_url_chain (served : Headers) (requests : List Request) :
    (chain served requests).map (fun hop => hop.request.url) = requests.map Request.url := by
  induction requests generalizing served with
  | nil => rfl
  | cons request requests ih => rw [chain_cons, List.map_cons, List.map_cons, ih, url_hop]

theorem sent_sublist (served : Headers) (requests : List Request) :
    (sent (chain served requests)).Sublist (requests.map Request.url) := by
  rw [← map_url_chain served]
  exact List.filter_sublist.map _

/-- A chain in which nothing is refused sends the URLs of all requests. -/
theorem sent_of_forall_isOk {served : Headers} {requests : List Request}
    (h : ∀ hop ∈ chain served requests, hop.result.isOk = true) :
    sent (chain served requests) = requests.map Request.url := by
  rw [sent, List.filter_eq_self.2 h, map_url_chain]

/-- A chain among so many URLs sends at most as many requests. -/
theorem length_sent_le (served : Headers) {requests : List Request} {urls : Finset String}
    (h : ∀ request ∈ requests, (Text.utf8 request.url).all isVisible = true)
    (hurls : ∀ request ∈ requests, request.url ∈ urls) :
    (sent (chain served requests)).length ≤ urls.card := by
  rw [← List.toFinset_card_of_nodup (nodup_sent served h).1]
  refine Finset.card_le_card fun url hurl => ?_
  have hmem := (sent_sublist served requests).subset (List.mem_toFinset.1 hurl)
  obtain ⟨request, hrequest, rfl⟩ := List.mem_map.1 hmem
  exact hurls request hrequest

/-! ### The requests of a chain -/

/-- What a chain that has handled some requests makes of the next one. -/
structure Handles (served : Headers) (earlier : List Request) (request : Request) (hop : Hop) :
    Prop where
  /-- The request is sent if and only if its URL is new. -/
  isOk_iff : hop.result.isOk = true ↔
    Text.utf8 request.url ∉ (ofHeaders served).values ∧ request.url ∉ earlier.map Request.url
  /-- It is sent with what the chain began with, the URLs sent before and its own, in order. -/
  values_eq : ∀ trace, hop.result = .ok trace →
    trace.values = (ofHeaders served).values ++
      (sent (chain served earlier) ++ [request.url]).map Text.utf8
  /-- When nothing was refused before, these are the URLs of all requests so far. -/
  values_eq_of_sent : (∀ before ∈ chain served earlier, before.result.isOk = true) →
    ∀ trace, hop.result = .ok trace →
      trace.values = (ofHeaders served).values ++
        ((earlier ++ [request]).map Request.url).map Text.utf8
  /-- Its header fields carry that trace and are otherwise unchanged. -/
  headers_eq : ∀ trace, hop.result = .ok trace →
    ofHeaders hop.request.headers = trace ∧
      hop.request.headers.remove headerName = request.headers.remove headerName
  /-- Its URL stays. -/
  url_eq : hop.request.url = request.url
  /-- A request that is refused is refused for its loop and stays as it is. -/
  refused : ∀ e, hop.result = .error e → e = .loopDetected request.url ∧ hop.request = request

theorem handles_hop (served : Headers) {earlier : List Request} {request : Request}
    (hearlier : ∀ before ∈ earlier, (Text.utf8 before.url).all isVisible = true)
    (hrequest : (Text.utf8 request.url).all isVisible = true) :
    Handles served earlier request
      ((visited (ofHeaders served) (chain served earlier)).hop request) := by
  have hmem : Text.utf8 request.url ∈ (visited (ofHeaders served) (chain served earlier)).values ↔
      Text.utf8 request.url ∈ (ofHeaders served).values ∨
        request.url ∈ earlier.map Request.url := by
    rw [mem_visited_iff served hearlier]
    simp only [utf8_inj, List.mem_map, eq_comm]
  obtain ⟨hknown, herror, hsame⟩ | ⟨hnew, hok, hrequest'⟩ :=
    hop_cases (visited (ofHeaders served) (chain served earlier)) hrequest
  · -- refused: there is no trace to speak of
    refine ⟨?_, ?_, ?_, ?_, url_hop _ _, ?_⟩
    · rw [herror, ← not_or, ← hmem]
      exact iff_of_false Bool.false_ne_true (not_not_intro hknown)
    · intro trace htrace
      exact absurd (herror.symm.trans htrace) nofun
    · intro _ trace htrace
      exact absurd (herror.symm.trans htrace) nofun
    · intro trace htrace
      exact absurd (herror.symm.trans htrace) nofun
    · intro e he
      exact ⟨(Except.error.inj (herror.symm.trans he)).symm, hsame⟩
  · have hvalues : ∀ trace,
        ((visited (ofHeaders served) (chain served earlier)).hop request).result = .ok trace →
          trace.values = (ofHeaders served).values ++
            (sent (chain served earlier) ++ [request.url]).map Text.utf8 := by
      intro trace htrace
      rw [← Except.ok.inj (hok.symm.trans htrace), visited, List.map_append, List.append_assoc,
        List.map_singleton]
    refine ⟨?_, hvalues, ?_, ?_, url_hop _ _, ?_⟩
    · rw [hok, ← not_or, ← hmem]
      exact iff_of_true rfl hnew
    · intro hall trace htrace
      rw [hvalues trace htrace, sent_of_forall_isOk hall]
      simp only [List.map_append, List.map_cons, List.map_nil]
    · intro trace htrace
      rw [hrequest', ← Except.ok.inj (hok.symm.trans htrace)]
      exact ⟨ofHeaders_writeTo _ _, remove_writeTo _ _⟩
    · intro e he
      exact absurd (hok.symm.trans he) nofun

/-- A chain of requests to visible URLs sends each request whose URL is new, with the URLs that were
sent before it, and refuses the others. So a chain among some URLs sends at most as many requests.
-/
theorem chain_visits_once (served : Headers) (requests : List Request)
    (h : ∀ request ∈ requests, (Text.utf8 request.url).all isVisible = true) :
    (∀ (k : Nat) (request : Request), requests[k]? = some request →
      ∃ hop, (chain served requests)[k]? = some hop ∧
        Handles served (requests.take k) request hop) ∧
      ∀ urls : Finset String, (∀ request ∈ requests, request.url ∈ urls) →
        (sent (chain served requests)).length ≤ urls.card := by
  refine ⟨fun k request hk => ?_, fun urls hurls => length_sent_le served h hurls⟩
  refine ⟨(visited (ofHeaders served) (chain served (requests.take k))).hop request, ?_, ?_⟩
  · rw [getElem?_chain, hk, Option.map_some]
  · exact handles_hop served (fun before hbefore => h before (List.mem_of_mem_take hbefore))
      (h request (List.mem_of_getElem? hk))

section Revisit

/-- A request to some URL without header fields. -/
def bare (url : String) : Request := ⟨url, .empty⟩

/-- Header fields with a trace value that is no text, and some other field. -/
def carried : Headers :=
  .ofList [("X-Registry-Request-URL", [0xE9]), ("Accept", [0x2A])]

/-- The second request comes back to the first, and the third one goes on. -/
def comingBack : List Request :=
  [bare "https://a.example/", bare "https://a.example/", bare "https://b.example/"]

/-- A request that goes on after one that was refused carries what was sent, and the value that is
no text. -/
theorem chain_visits_once_comingBack :
    (∀ request ∈ comingBack, (Text.utf8 request.url).all isVisible = true) ∧
      (∃ hop, (chain carried comingBack)[2]? = some hop ∧
        Handles carried (comingBack.take 2) (bare "https://b.example/") hop) ∧
      (sent (chain carried comingBack)).length ≤ 2 := by
  have hvisible : ∀ request ∈ comingBack, (Text.utf8 request.url).all isVisible = true := by
    decide +kernel
  obtain ⟨hhandles, hsent⟩ := chain_visits_once carried comingBack hvisible
  exact ⟨hvisible, hhandles 2 _ rfl,
    hsent {"https://a.example/", "https://b.example/"} (by decide +kernel)⟩

/-- A request that is sent after one that was refused does not carry the URLs of all requests so
far. -/
theorem values_ne_comingBack :
    ¬ ∀ (served : Headers) (requests : List Request),
      (∀ request ∈ requests, (Text.utf8 request.url).all isVisible = true) →
      ∀ (k : Nat) (hop : Hop) (trace : Trace), (chain served requests)[k]? = some hop →
        hop.result = .ok trace →
        trace.values = (ofHeaders served).values ++
          ((requests.take (k + 1)).map Request.url).map Text.utf8 := by
  intro h
  have hthird := h .empty comingBack (by decide +kernel) 2 _ _ rfl rfl
  exact absurd hthird (by decide +kernel)

end Revisit

end RegistryBench.Trace
