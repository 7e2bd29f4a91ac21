/-
This file names the request that each call sends. A call leaves what sending its request leaves, and fails as the
response says where that is a refusal.
-/
import PathStore.Proofs.Http.Sending
import PathStore.Proofs.Program.Outcomes
import PathStore.Proofs.Service.Signing

namespace PathStore.Service

variable {σ : Type}

/-- The signed request for a URL of the managing service. -/
def managing (service : Service) (url : Except Failure String) : Except Failure Request := do
  let url ← url
  let authorization ← service.credentials.authorization url
  address url >>= signedRequest authorization

/-- The request that carries a form; its texts alone make no multipart form. -/
def formRequest (form : Except Failure (List FormField)) (address : Url.Address) : Except Failure Request :=
  form.map fun fields =>
    let body := UploadForm.body fields
    { method := .post, address, contentType := some body.type, body }

/-- The request that carries a form to the receiving service. -/
def uploading (service : Service) (path : String) (form : Except Failure (List FormField)) :
    Except Failure Request := do
  let url ← service.uploadUrl path
  address url >>= formRequest form

/-- The request that stores at most the given number of bytes from a source. -/
def storing (service : Service) (clock : Clock) (key : String) (data : Source) (size : Int) :
    Except Failure Request := do
  checkWritable size
  let token ← service.uploadToken clock key
  service.uploading "/" (UploadForm.ofObject token key data size)

/-- The request that stores what parts add up to. -/
def composing (service : Service) (clock : Clock) (key : String) (composition : Composition) :
    Except Failure Request := do
  let entries ← UploadForm.manifestEntries 0 composition.parts
  let token ← service.uploadToken clock key
  let manifest ← UploadForm.manifest composition.parts entries
  service.uploading "/putparts" (UploadForm.ofComposition token key manifest composition)

/-- The request that a call sends; a URL is signed without one. -/
def request (service : Service) (clock : Clock) : Call → Except Failure (Option Request)
  | .stat key => (service.managing (.ok (service.statUrl key))).map some
  | .list query => (service.managing (service.listUrl query)).map some
  | .download key offset => do
      return some (downloadRequest (← service.downloadUrl clock key offset) offset)
  | .put key data size => (service.storing clock key data size).map some
  | .putFile key content => (service.storing clock key (.ofBytes content) content.length).map some
  | .putParts key composition => (service.composing clock key composition).map some
  | .delete key => (service.managing (.ok (service.deleteUrl key))).map some
  | .move source target => (service.managing (.ok (service.moveUrl source target false))).map some
  | .sign .. => .ok none

/-- With keys written in plain characters the request for a URL is signed. -/
theorem managing_of_isPlain {service : Service} (plain : service.credentials.IsPlain) {url text : String}
    (spelled : Credentials.requestText url = .ok text) {found : Url.Address} (located : address url = .ok found) :
    service.managing (.ok url) = .ok
      { method := .post, address := found, authorization := some ("QBox " ++ service.credentials.sign text)
        contentType := some .urlEncoded } := by
  obtain ⟨authorized, signed⟩ := signedRequest_of_isPlain plain spelled found
  rw [managing]
  simp only [bind, Except.bind, authorized, located, signed]

section Sent

variable (service : Service) (wire : Wire σ) (clock : Clock) (state : σ)

/-- The state that a request leaves, if there is one to be sent. -/
def sentState (request : Except Failure (Option Request)) : σ :=
  match request with
  | .ok (some request) => (wire.send request state).2
  | _ => state

theorem post_state (url : String) (build : Url.Address → Except Failure Request) :
    (service.post wire url build state).2 = sentState wire state ((address url >>= build).map some) := by
  rw [post]
  cases made : address url >>= build with
  | error failure => rfl
  | ok request =>
      show _ = (wire.send request state).2
      dsimp only
      cases carried : wire.send request state with
      | mk reply after =>
          cases reply with
          | error fault => cases fault <;> rfl
          | ok response =>
              dsimp only
              cases response.content with
              | error interruption => rfl
              | ok content =>
                  dsimp only
                  split <;> rfl

variable {service} in
/-- A signed request is posted to its URL, and the value of a success is read. -/
theorem manage_eq_post {url authorization : String}
    (signed : service.credentials.authorization url = .ok authorization) :
    service.manage wire (.ok url) state =
      ((service.post wire url (signedRequest authorization) state).1.bind fun (status, content) =>
          Answer.value service.platform.nesting status content,
        (service.post wire url (signedRequest authorization) state).2) := by
  have prepared : (do
      let url ← (.ok url : Except Failure String)
      return (url, ← service.credentials.authorization url)) = .ok (url, authorization) := by
    simp only [bind, Except.bind, signed]
    rfl
  rw [manage, prepared]

theorem manage_state (url : Except Failure String) :
    (service.manage wire url state).2 = sentState wire state ((service.managing url).map some) := by
  cases url with
  | error failure => rfl
  | ok text =>
      cases signed : service.credentials.authorization text with
      | error failure =>
          simp only [manage, managing, bind, Except.bind, signed]
          rfl
      | ok authorization =>
          have made : service.managing (.ok text) = address text >>= signedRequest authorization := by
            simp only [managing, bind, Except.bind, signed]
          rw [made, ← post_state, manage_eq_post wire state signed]

end Sent

section Answered

variable {service : Service} {wire : Wire σ} {clock : Clock} {state after : σ} {request : Request}
  {response : Response} {content : Bytes}

/-- A post succeeds if a success answers its request and arrives whole. -/
theorem post_eq_ok_iff {url : String} {build : Url.Address → Except Failure Request} {status : Nat} :
    service.post wire url build state = (.ok (status, content), after) ↔
      ∃ request response, address url >>= build = .ok request ∧ wire.send request state = (.ok response, after) ∧
        response.content = .ok content ∧ response.isSuccess = true ∧ response.status = status := by
  rw [post]
  constructor
  · intro posted
    split at posted
    · cases posted
    · rename_i request made
      split at posted
      · cases posted
      · cases posted
      · rename_i response last carried
        split at posted
        · cases posted
        · rename_i brought whole
          split at posted
          · rename_i success
            obtain ⟨same, rfl⟩ := Prod.mk.inj posted
            obtain ⟨rfl, rfl⟩ := Prod.mk.inj (Except.ok.inj same)
            exact ⟨request, response, made, carried, whole, success, rfl⟩
          · cases posted
  · rintro ⟨request, response, made, carried, whole, success, rfl⟩
    rw [made]
    dsimp only
    rw [carried]
    dsimp only
    rw [whole]
    exact if_pos success

theorem post_of_refused {url : String} {build : Url.Address → Except Failure Request}
    (made : address url >>= build = .ok request) (carried : wire.send request state = (.ok response, after))
    (whole : response.content = .ok content) (refused : response.isSuccess = false) :
    service.post wire url build state = (.error (Answer.refusal service.platform response content), after) := by
  rw [post, made]
  dsimp only
  rw [carried]
  dsimp only
  rw [whole, refused]
  rfl

theorem manage_of_refused {url : Except Failure String} (made : service.managing url = .ok request)
    (carried : wire.send request state = (.ok response, after)) (whole : response.content = .ok content)
    (refused : response.isSuccess = false) :
    service.manage wire url state = (.error (Answer.refusal service.platform response content), after) := by
  obtain ⟨text, rfl, rest⟩ := Outcome.bind_eq_ok_iff.mp made
  obtain ⟨authorization, signed, built⟩ := Outcome.bind_eq_ok_iff.mp rest
  rw [manage_eq_post wire state signed, post_of_refused built carried whole refused]
  rfl

/-- An upload posts its form to the URL that its path has. -/
theorem upload_eq_post {path url : String} {form : Except Failure (List FormField)}
    (located : service.uploadUrl path = .ok url) :
    service.upload wire path form state =
      ((service.post wire url (formRequest form) state).1.map fun _ => (),
        (service.post wire url (formRequest form) state).2) := by
  rw [upload, located]
  rfl

theorem upload_of_refused {path : String} {form : Except Failure (List FormField)}
    (made : service.uploading path form = .ok request) (carried : wire.send request state = (.ok response, after))
    (whole : response.content = .ok content) (refused : response.isSuccess = false) :
    service.upload wire path form state = (.error (Answer.refusal service.platform response content), after) := by
  obtain ⟨url, located, built⟩ := Outcome.bind_eq_ok_iff.mp made
  rw [upload_eq_post located, post_of_refused built carried whole refused]
  rfl

theorem put_of_refused {key : String} {data : Source} {size : Int}
    (made : service.storing clock key data size = .ok request)
    (carried : wire.send request state = (.ok response, after)) (whole : response.content = .ok content)
    (refused : response.isSuccess = false) :
    service.put wire clock key data size state =
      (.error (Answer.refusal service.platform response content), after) := by
  obtain ⟨_, writable, rest⟩ := Outcome.bind_eq_ok_iff.mp made
  obtain ⟨token, signed, formed⟩ := Outcome.bind_eq_ok_iff.mp rest
  rw [put]
  simp only [bind, Except.bind, writable, signed]
  exact upload_of_refused formed carried whole refused

theorem putParts_of_refused {key : String} {composition : Composition}
    (made : service.composing clock key composition = .ok request)
    (carried : wire.send request state = (.ok response, after)) (whole : response.content = .ok content)
    (refused : response.isSuccess = false) :
    service.putParts wire clock key composition state =
      (.error (Answer.refusal service.platform response content), after) := by
  obtain ⟨entries, described, rest⟩ := Outcome.bind_eq_ok_iff.mp made
  obtain ⟨token, signed, rest⟩ := Outcome.bind_eq_ok_iff.mp rest
  obtain ⟨manifest, written, formed⟩ := Outcome.bind_eq_ok_iff.mp rest
  rw [putParts]
  simp only [bind, Except.bind, described, signed, written]
  exact upload_of_refused formed carried whole refused

/-- Whether a response that is no success answers the request of a call past all redirects, and arrives whole. -/
structure Refuses (service : Service) (wire : Wire σ) (clock : Clock) (call : Call) (state : σ) (response : Response)
    (content : Bytes) (after : σ) : Prop where
  answered : ∃ request, service.request clock call = .ok (some request) ∧
    wire.send request state = (.ok response, after)
  refused : response.isSuccess = false
  whole : response.content = .ok content

/-- A refused call fails as the refusal says. -/
theorem Refuses.answer_eq {call : Call} (refuses : service.Refuses wire clock call state response content after) :
    service.answer wire clock call state = (.error (Answer.refusal service.platform response content), after) := by
  obtain ⟨⟨request, made, carried⟩, refused, whole⟩ := refuses
  have unwrap {made : Except Failure Request} (same : made.map some = .ok (some request)) : made = .ok request := by
    obtain ⟨other, found, same⟩ := Outcome.map_eq_ok_iff.mp same
    exact Option.some.inj same ▸ found
  cases call with
  | stat key =>
      show service.stat wire key state = _
      rw [stat, manage_of_refused (unwrap made) carried whole refused]
      rfl
  | list query =>
      show service.list wire query state = _
      rw [list, manage_of_refused (unwrap made) carried whole refused]
      rfl
  | download key offset =>
      obtain ⟨found, located, same⟩ := Outcome.bind_eq_ok_iff.mp made
      obtain rfl := Option.some.inj (Except.ok.inj same)
      show service.download wire clock key offset state = _
      rw [download, located]
      dsimp only
      rw [carried]
      dsimp only
      rw [refused, whole]
      rfl
  | put key data size => exact put_of_refused (unwrap made) carried whole refused
  | putFile key held => exact put_of_refused (unwrap made) carried whole refused
  | putParts key composition => exact putParts_of_refused (unwrap made) carried whole refused
  | delete key =>
      show service.delete wire key state = _
      rw [delete, manage_of_refused (unwrap made) carried whole refused]
      rfl
  | move source target =>
      show service.move wire source target false state = _
      rw [move, manage_of_refused (unwrap made) carried whole refused]
      rfl
  | sign key lifetime => cases made

end Answered
end PathStore.Service
