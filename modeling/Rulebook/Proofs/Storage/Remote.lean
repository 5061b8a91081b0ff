/-
  Rulebook.Proofs.Storage.Remote

  What goes over a connection when a remote list is loaded or saved.

  A load asks once for the list, if it can, and succeeds exactly if the answer has status 200 and
  holds a mapping (`Remote.load_cases`, `Remote.bind_readAnswer_eq_ok_iff`).  A save posts once, if
  there is anything that can be posted, and succeeds exactly if the answer has status 200
  (`Remote.save_cases`, `Remote.isSaved_iff`).
-/
import Rulebook.Proofs.Outcome
import Rulebook.Storage.Remote

namespace Rulebook.Storage

/-- A connection after a request was sent. -/
def Link.after (l : Link) (request : Request) : Link :=
  { l with sent := l.sent ++ [request] }

namespace Remote

/-- Whether a request can be made to an address: it is one, as the text says, with a host that
something can be sent to. -/
structure Sends (r : Remote) (address : Value) (text : String) (url : Url) : Prop where
  target : r.target address = .ok (text, url)
  host : Url.checkHost url.host.toList = .ok ()

/-- The request for the list. -/
def asking (r : Remote) (url : Url) : Request where
  method := .get
  url := url
  headers := r.headers

/-- The request that a list is kept, with the text of it. -/
def posting (r : Remote) (url : Url) (body : String) : Request where
  method := .post
  url := url
  headers := r.headers
  body := some body

/-- What comes back if the next request is sent to an address. -/
def received (l : Link) (url : Url) : Except RequestError Answer :=
  match l.answer l.sent.length with
  | .broken reason => .ok (.broken reason)
  | answer => (checkSource url).map fun _ => answer

/-- Whether an answer has status 200 and holds a mapping. -/
def Delivers (answer : Answer) (entries : Entries) : Prop :=
  ∃ body text, answer = .response 200 body ∧ Text.ofBody? body = some text ∧
    Json.parse text = .ok (.mapping entries)

variable {r : Remote} {l : Link} {url : Url}

/-! ## Sending -/

/-- A request is sent once if something can be sent to the host, and not at all otherwise. -/
theorem send_cases (r : Remote) (l : Link) (method : Method) (url : Url) (body : Option String) :
    (∃ error, Url.checkHost url.host.toList = .error error ∧
      r.send l method url body = (l, .error (.address error))) ∨
      Url.checkHost url.host.toList = .ok () ∧ r.send l method url body =
        (l.after { method, url, headers := r.headers, body }, received l url) := by
  unfold send received
  cases Url.checkHost url.host.toList with
  | error error => exact .inl ⟨error, rfl, rfl⟩
  | ok =>
    refine .inr ⟨rfl, ?_⟩
    rw [Link.send]
    cases l.answer l.sent.length with
    | broken reason => rfl
    | response status body => rfl

/-! ## Loading -/

/-- **A load asks once for the list**, if it can, and reads the answer. -/
theorem load_cases (r : Remote) (l : Link) :
    ((∀ text url, ¬ r.Sends r.loadUrl text url) ∧
      ∃ error, r.load l = (l, .error (.request error))) ∨
      ∃ text url, r.Sends r.loadUrl text url ∧
        r.load l = (l.after (r.asking url),
          (received l url).mapError .request >>= readAnswer text) := by
  unfold load
  cases h_target : r.target r.loadUrl with
  | error error =>
    refine .inl ⟨fun text url h => ?_, error, rfl⟩
    exact nomatch h_target.symm.trans h.target
  | ok p =>
    obtain ⟨text, url⟩ := p
    dsimp only
    rcases r.send_cases l .get url none with ⟨error, h_host, h_send⟩ | ⟨h_host, h_send⟩
    · rw [h_send]
      refine .inl ⟨fun text' url' h => ?_, .address error, rfl⟩
      obtain ⟨-, rfl⟩ := Prod.mk.inj (Except.ok.inj (h_target.symm.trans h.target))
      exact nomatch h_host.symm.trans h.host
    · rw [h_send]
      exact .inr ⟨text, url, ⟨h_target, h_host⟩, rfl⟩

/-- Whether a list could not be fetched: the other side was not reached, it did not answer with
status 200, or the answer is not a JSON document or is one that holds something else than a
mapping. -/
inductive Fails : Answer → Prop where
  | unreached (reason : String) : Fails (.broken reason)
  | refused {status : Int} {body : List UInt8} (h : status ≠ 200) : Fails (.response status body)
  | undecoded {body : List UInt8} (h : Text.ofBody? body = none) : Fails (.response 200 body)
  | malformed {body : List UInt8} {text : String} {fault : Json.Fault}
      (h : Text.ofBody? body = some text) (h_parse : Json.parse text = .error fault)
      (h_fault : fault ≠ .tooDeep) : Fails (.response 200 body)
  | notMapping {body : List UInt8} {text : String} {v : Value}
      (h : Text.ofBody? body = some text) (h_parse : Json.parse text = .ok v)
      (h_other : ∀ entries, v ≠ .mapping entries) : Fails (.response 200 body)

/-- The reader of documents has given up on an answer, which is nested too deeply for it. -/
def TooDeep (answer : Answer) : Prop :=
  ∃ body text, answer = .response 200 body ∧ Text.ofBody? body = some text ∧
    Json.parse text = .error .tooDeep

variable {answer : Answer} {entries : Entries}

/-- An answer delivers a mapping, or the list could not be fetched, or the reader has given up. -/
theorem delivers_or_fails (answer : Answer) :
    (∃ entries, Delivers answer entries) ∨ Fails answer ∨ TooDeep answer := by
  cases answer with
  | broken reason => exact .inr (.inl (.unreached reason))
  | response status body =>
    by_cases h_status : status = 200
    · subst h_status
      cases h_body : Text.ofBody? body with
      | none => exact .inr (.inl (.undecoded h_body))
      | some text =>
        cases h_parse : Json.parse text with
        | error fault =>
          by_cases h_fault : fault = .tooDeep
          · subst h_fault
            exact .inr (.inr ⟨body, text, rfl, h_body, h_parse⟩)
          · exact .inr (.inl (.malformed h_body h_parse h_fault))
        | ok v =>
          cases v with
          | mapping entries => exact .inl ⟨entries, body, text, rfl, h_body, h_parse⟩
          | _ => exact .inr (.inl (.notMapping h_body h_parse nofun))
    · exact .inr (.inl (.refused h_status))

theorem Delivers.readAnswer_eq (h : Delivers answer entries) (address : String) :
    readAnswer address answer = .ok (.mapping entries) := by
  obtain ⟨body, text, rfl, h_body, h_parse⟩ := h
  rw [readAnswer, if_pos rfl, h_body, Option.map_some, h_parse]

theorem TooDeep.readAnswer_eq (h : TooDeep answer) (address : String) :
    readAnswer address answer = .error (.document .tooDeep) := by
  obtain ⟨body, text, rfl, h_body, h_parse⟩ := h
  rw [readAnswer, if_pos rfl, h_body, Option.map_some, h_parse]

theorem Fails.readAnswer_eq (h : Fails answer) (address : String) :
    ∃ error, readAnswer address answer = .error (.fetch error) := by
  cases h with
  | unreached reason => exact ⟨_, rfl⟩
  | refused h => exact ⟨_, by rw [readAnswer, if_neg h]⟩
  | undecoded h => exact ⟨_, by rw [readAnswer, if_pos rfl, h]; rfl⟩
  | @malformed body text fault h h_parse h_fault =>
    rw [readAnswer, if_pos rfl, h, Option.map_some, h_parse]
    cases fault with
    | tooDeep => exact absurd rfl h_fault
    | malformed | tooLong => exact ⟨_, rfl⟩
  | @notMapping body text v h h_parse h_other =>
    rw [readAnswer, if_pos rfl, h, Option.map_some, h_parse]
    cases v with
    | mapping entries => exact absurd rfl (h_other entries)
    | _ => exact ⟨_, rfl⟩

/-- An answer cannot both deliver a mapping and fail to. -/
theorem Fails.not_delivers (h : Fails answer) : ¬ Delivers answer entries := by
  intro h_delivers
  obtain ⟨error, h_error⟩ := h.readAnswer_eq ""
  exact nomatch h_error.symm.trans (h_delivers.readAnswer_eq "")

/-- Only an answer with status 200 that holds a mapping is read. -/
theorem readAnswer_eq_ok_iff {address : String} {document : Value} :
    readAnswer address answer = .ok document ↔
      ∃ entries, document = .mapping entries ∧ Delivers answer entries := by
  constructor
  · intro h
    rcases delivers_or_fails answer with ⟨entries, h_delivers⟩ | h_fails | h_deep
    · rw [h_delivers.readAnswer_eq, Except.ok.injEq] at h
      exact ⟨entries, h.symm, h_delivers⟩
    · obtain ⟨error, h_error⟩ := h_fails.readAnswer_eq address
      exact nomatch h.symm.trans h_error
    · exact nomatch h.symm.trans (h_deep.readAnswer_eq address)
  · rintro ⟨entries, rfl, h_delivers⟩
    exact h_delivers.readAnswer_eq address

/-- What the answer to the request for a list comes to. -/
theorem bind_readAnswer_eq_ok_iff {address : String} {document : Value} :
    (received l url).mapError .request >>= readAnswer address = .ok document ↔
      ∃ entries answer, document = .mapping entries ∧ received l url = .ok answer ∧
        Delivers answer entries := by
  rw [bind_eq_ok_iff]
  constructor
  · rintro ⟨answer, h_received, h_read⟩
    obtain ⟨entries, rfl, h_delivers⟩ := readAnswer_eq_ok_iff.1 h_read
    exact ⟨entries, answer, rfl, mapError_eq_ok_iff.1 h_received, h_delivers⟩
  · rintro ⟨entries, answer, rfl, h_received, h_delivers⟩
    exact ⟨answer, mapError_eq_ok_iff.2 h_received,
      readAnswer_eq_ok_iff.2 ⟨entries, rfl, h_delivers⟩⟩

/-! ## Saving -/

/-- **A save posts the text of a payload once**, if it can. -/
theorem save_cases (r : Remote) (l : Link) (payload : Value) :
    (∃ error, r.save l payload = (l, .error error)) ∨
      ∃ text url body, r.Sends r.saveUrl text url ∧ bodyOf payload = .ok body ∧
        r.save l payload = (l.after (r.posting url body),
          ((received l url).mapError .request).map accepts) := by
  unfold save
  cases h_target : r.target r.saveUrl with
  | error error => exact .inl ⟨_, rfl⟩
  | ok p =>
    obtain ⟨text, url⟩ := p
    cases h_body : bodyOf payload with
    | error error => exact .inl ⟨_, rfl⟩
    | ok body =>
      dsimp only
      rcases r.send_cases l .post url (some body) with ⟨error, -, h_send⟩ | ⟨h_host, h_send⟩
      · rw [h_send]
        exact .inl ⟨_, rfl⟩
      · rw [h_send]
        exact .inr ⟨text, url, body, ⟨h_target, h_host⟩, rfl, rfl⟩

/-- A list was saved exactly if status 200 came back. -/
theorem isSaved_iff :
    (((received l url).mapError SaveError.request).map accepts).toOption.getD false = true ↔
      ∃ body, received l url = .ok (.response 200 body) := by
  cases received l url with
  | error error =>
    constructor
    · intro h
      exact nomatch h
    · rintro ⟨body, h⟩
      exact nomatch h
  | ok answer =>
    cases answer with
    | broken reason =>
      constructor
      · intro h
        exact nomatch h
      · rintro ⟨body, h⟩
        exact nomatch h
    | response status body =>
      constructor
      · intro h
        exact ⟨body, by rw [eq_of_beq h]⟩
      · rintro ⟨body', h⟩
        obtain ⟨rfl, -⟩ := Answer.response.inj (Except.ok.inj h)
        rfl

end Remote

end Rulebook.Storage
