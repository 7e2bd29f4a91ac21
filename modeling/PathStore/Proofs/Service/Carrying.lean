/-
This file shows what a service has been asked for when a change of its objects is reported as done. The success answers
the post of the change, or what followed it along redirects, and that is the same post just if none of them has dropped
its body and its files could be sent once more.
-/
import PathStore.Proofs.Http.Redirecting
import PathStore.Proofs.Service.Managing
import PathStore.Proofs.Service.Posting

namespace PathStore

/-- What changes the objects of a service. -/
inductive Change where
  | put (key : String) (data : Source) (size : Int)
  | putFile (key : String) (content : Bytes)
  | putParts (key : String) (composition : Composition)
  | delete (key : String)
  | move (source target : String) (force : Bool)

/-- Whether a part brings bytes. -/
def Part.isLocal : Part → Bool
  | .bytes .. => true
  | _ => false

namespace Change

/-- Whether a change is a form that is uploaded. -/
def isUpload : Change → Bool
  | .put .. | .putFile .. | .putParts .. => true
  | .delete _ | .move .. => false

/-- Whether a change brings files. -/
def hasFiles : Change → Bool
  | .put .. | .putFile .. => true
  | .putParts _ composition => composition.parts.any Part.isLocal
  | .delete _ | .move .. => false

end Change

namespace Service

open UploadForm

variable {σ : Type}

/-- The outcome of a change, and the state that its requests leave. -/
def change (service : Service) (wire : Wire σ) (clock : Clock) (change : Change) (state : σ) :
    Except Failure Unit × σ :=
  match change with
  | .put key data size => service.put wire clock key data size state
  | .putFile key content => service.put wire clock key (.ofBytes content) content.length state
  | .putParts key composition => service.putParts wire clock key composition state
  | .delete key => service.delete wire key state
  | .move source target force => service.move wire source target force state

/-- The request for a change. -/
def changing (service : Service) (clock : Clock) : Change → Except Failure Request
  | .put key data size => service.storing clock key data size
  | .putFile key content => service.storing clock key (.ofBytes content) content.length
  | .putParts key composition => service.composing clock key composition
  | .delete key => service.managing (.ok (service.deleteUrl key))
  | .move source target force => service.managing (.ok (service.moveUrl source target force))

/-- The form with a whole object. -/
def objectForm (token key : String) (content : Bytes) : Body :=
  .form [.text "token" token, .text "key" key, .file "file" (fileName key) content]

/-- Whether a request asks for a change: by a form with the token, the key and all bytes, or by its URL. -/
def Carries (service : Service) (clock : Clock) (change : Change) (request : Request) : Prop :=
  match change with
  | .put key data size => ∃ token, service.uploadToken clock key = .ok token ∧
      request.body = objectForm token key (data.content.take size.toNat) ∧ request.contentType = some .multipart
  | .putFile key content => ∃ token, service.uploadToken clock key = .ok token ∧
      request.body = objectForm token key content ∧ request.contentType = some .multipart
  | .putParts key composition => ∃ token entries text files, service.uploadToken clock key = .ok token ∧
      manifestEntries 0 composition.parts = .ok entries ∧ manifest composition.parts entries = .ok text ∧
      SendsFiles 0 composition.parts composition.sources files ∧
      request.body = body (.text "token" token :: .text "key" key :: .text "parts" text :: files) ∧
      request.contentType = some (if composition.parts.any Part.isLocal then .multipart else .urlEncoded)
  | .delete key => address (service.deleteUrl key) = .ok request.address
  | .move source target force => address (service.moveUrl source target force) = .ok request.address

section Made

variable {service : Service} {clock : Clock} {request : Request}

theorem address_of_managing {url : String} (made : service.managing (.ok url) = .ok request) :
    request.method = .post ∧ address url = .ok request.address := by
  obtain ⟨_, same, rest⟩ := Outcome.bind_eq_ok_iff.mp made
  obtain rfl := Except.ok.inj same
  obtain ⟨authorization, -, rest⟩ := Outcome.bind_eq_ok_iff.mp rest
  obtain ⟨found, located, signed⟩ := Outcome.bind_eq_ok_iff.mp rest
  rw [signedRequest] at signed
  split at signed
  · obtain rfl := Except.ok.inj signed
    exact ⟨rfl, located⟩
  · cases signed

theorem form_of_uploading {path : String} {form : Except Failure (List FormField)}
    (made : service.uploading path form = .ok request) :
    request.method = .post ∧ ∃ fields, form = .ok fields ∧ request.body = body fields ∧
      request.contentType = some (body fields).type := by
  obtain ⟨url, -, rest⟩ := Outcome.bind_eq_ok_iff.mp made
  obtain ⟨found, -, built⟩ := Outcome.bind_eq_ok_iff.mp rest
  obtain ⟨fields, formed, rfl⟩ := Outcome.map_eq_ok_iff.mp built
  exact ⟨rfl, fields, formed, rfl, rfl⟩

/-- The form of an object holds all bytes up to the size. -/
theorem body_of_storing {key : String} {data : Source} {size : Int}
    (made : service.storing clock key data size = .ok request) :
    request.method = .post ∧ service.Carries clock (.put key data size) request := by
  obtain ⟨-, -, rest⟩ := Outcome.bind_eq_ok_iff.mp made
  obtain ⟨token, signed, formed⟩ := Outcome.bind_eq_ok_iff.mp rest
  obtain ⟨post, fields, laid, carried, announced⟩ := form_of_uploading formed
  obtain ⟨content, drained, same⟩ := Outcome.bind_eq_ok_iff.mp laid
  obtain rfl := Except.ok.inj same
  have whole : content = data.content.take size.toNat := by
    have sends := Bounded.sends_of_drain (Prod.ext drained rfl : (Bounded.mk data size).drain = (.ok content, _))
    exact sends.delivers.1
  refine ⟨post, token, signed, ?_, announced⟩
  rw [carried, whole]
  rfl

theorem any_isFile_of_sendsFiles {index : Nat} {parts : List Part} {sources : List Source} {files : List FormField}
    (sends : SendsFiles index parts sources files) : files.any FormField.isFile = parts.any Part.isLocal := by
  induction sends with
  | done => rfl
  | range key start stop sends ih => exact ih
  | bytes file sends ih => rfl

theorem body_of_composing {key : String} {composition : Composition}
    (made : service.composing clock key composition = .ok request) :
    request.method = .post ∧ service.Carries clock (.putParts key composition) request := by
  obtain ⟨entries, described, rest⟩ := Outcome.bind_eq_ok_iff.mp made
  obtain ⟨token, signed, rest⟩ := Outcome.bind_eq_ok_iff.mp rest
  obtain ⟨text, written, formed⟩ := Outcome.bind_eq_ok_iff.mp rest
  obtain ⟨post, fields, laid, carried, announced⟩ := form_of_uploading formed
  obtain ⟨files, collected, same⟩ := Outcome.bind_eq_ok_iff.mp laid
  obtain rfl := Except.ok.inj same
  have sends := sendsFiles_of_partFiles described collected
  refine ⟨post, token, entries, text, files, signed, described, written, sends, carried, ?_⟩
  rw [announced, ← any_isFile_of_sendsFiles sends]
  show some (if files.any FormField.isFile then Body.form _ else Body.bytes _).type = _
  cases files.any FormField.isFile <;> rfl

/-- The request for a change is a post that asks for it. -/
theorem carries_of_changing {change : Change} (made : service.changing clock change = .ok request) :
    request.method = .post ∧ service.Carries clock change request := by
  cases change with
  | put key data size => exact body_of_storing made
  | putFile key content =>
      obtain ⟨post, token, signed, carried, announced⟩ := body_of_storing made
      refine ⟨post, token, signed, ?_, announced⟩
      have whole : (Source.ofBytes content).content.take (content.length : Int).toNat = content := by
        simp [Source.ofBytes, Source.content]
      rw [carried, whole]
  | putParts key composition => exact body_of_composing made
  | delete key => exact address_of_managing made
  | move source target force => exact address_of_managing made

/-- The form of an upload is announced as a multipart form just if it has files. -/
theorem Carries.contentType_eq_iff {change : Change} (carries : service.Carries clock change request)
    (upload : change.isUpload = true) : request.contentType = some .multipart ↔ change.hasFiles = true := by
  cases change with
  | put key data size =>
      obtain ⟨token, -, -, announced⟩ := carries
      exact iff_of_true announced rfl
  | putFile key content =>
      obtain ⟨token, -, -, announced⟩ := carries
      exact iff_of_true announced rfl
  | putParts key composition =>
      obtain ⟨token, entries, text, files, -, -, -, -, -, announced⟩ := carries
      rw [announced, Change.hasFiles]
      cases composition.parts.any Part.isLocal <;> simp
  | _ => cases upload

end Made

section Done

variable {service : Service} {wire : Wire σ} {clock : Clock} {state after : σ}

/-- Whether a success answers a request past all redirects, and arrives whole. -/
def Succeeds (wire : Wire σ) (request : Request) (state after : σ) : Prop :=
  ∃ response content, wire.send request state = (.ok response, after) ∧ response.content = .ok content ∧
    response.isSuccess = true

/-- What fails before there is a request is neither done nor answered. -/
theorem unmade_iff {failure : Failure} :
    (.error failure, state) = ((.ok (), after) : Except Failure Unit × σ) ↔
      ∃ request : Request, Except.error failure = .ok request ∧ Succeeds wire request state after := by
  refine iff_of_false nofun ?_
  rintro ⟨request, made, -⟩
  cases made

theorem succeeds_of_manage {url : Except Failure String} {value : Reply}
    (done : service.manage wire url state = (.ok value, after)) :
    ∃ request, service.managing url = .ok request ∧ Succeeds wire request state after := by
  cases url with
  | error failure => cases done
  | ok text =>
      cases signed : service.credentials.authorization text with
      | error failure =>
          simp only [manage, bind, Except.bind, signed] at done
          cases done
      | ok authorization =>
          rw [manage_eq_post wire state signed] at done
          obtain ⟨given, rfl⟩ := Prod.mk.inj done
          obtain ⟨⟨status, content⟩, posted, -⟩ := Outcome.bind_eq_ok_iff.mp given
          obtain ⟨request, response, made, carried, whole, success, -⟩ := post_eq_ok_iff.mp (Prod.ext posted rfl)
          refine ⟨request, ?_, response, content, carried, whole, success⟩
          rw [managing]
          simp only [bind, Except.bind, signed]
          exact made

theorem succeeds_of_carryOut (asked : Management) {reply : asked.Reply}
    (done : service.carryOut wire asked state = (.ok reply, after)) :
    ∃ request, service.managing (asked.url service) = .ok request ∧ Succeeds wire request state after := by
  rw [carryOut_eq] at done
  obtain ⟨given, rfl⟩ := Prod.mk.inj done
  obtain ⟨value, managed, -⟩ := Outcome.bind_eq_ok_iff.mp given
  exact succeeds_of_manage (Prod.ext managed rfl)

theorem upload_eq_ok_iff {path : String} {form : Except Failure (List FormField)} :
    service.upload wire path form state = (.ok (), after) ↔
      ∃ request, service.uploading path form = .ok request ∧ Succeeds wire request state after := by
  rw [uploading]
  cases located : service.uploadUrl path with
  | error failure =>
      rw [upload, located]
      exact unmade_iff
  | ok url =>
      rw [upload_eq_post located]
      constructor
      · intro done
        obtain ⟨given, rfl⟩ := Prod.mk.inj done
        obtain ⟨⟨status, content⟩, posted, -⟩ := Outcome.map_eq_ok_iff.mp given
        obtain ⟨request, response, made, carried, whole, success, -⟩ := post_eq_ok_iff.mp (Prod.ext posted rfl)
        exact ⟨request, made, response, content, carried, whole, success⟩
      · rintro ⟨request, made, response, content, carried, whole, success⟩
        rw [post_eq_ok_iff.mpr ⟨request, response, made, carried, whole, success, rfl⟩]
        rfl

theorem put_eq_ok_iff {key : String} {data : Source} {size : Int} :
    service.put wire clock key data size state = (.ok (), after) ↔
      ∃ request, service.storing clock key data size = .ok request ∧ Succeeds wire request state after := by
  rw [put, storing]
  cases checkWritable size with
  | error failure => exact unmade_iff
  | ok done =>
      simp only [bind, Except.bind]
      cases service.uploadToken clock key with
      | error failure => exact unmade_iff
      | ok token => exact upload_eq_ok_iff

theorem succeeds_of_putParts {key : String} {composition : Composition}
    (done : service.putParts wire clock key composition state = (.ok (), after)) :
    ∃ request, service.composing clock key composition = .ok request ∧ Succeeds wire request state after := by
  rw [putParts] at done
  split at done
  · cases done
  · rename_i token text prepared
    obtain ⟨entries, described, rest⟩ := Outcome.bind_eq_ok_iff.mp prepared
    obtain ⟨signed, given, rest⟩ := Outcome.bind_eq_ok_iff.mp rest
    obtain ⟨written, manifested, same⟩ := Outcome.bind_eq_ok_iff.mp rest
    obtain ⟨rfl, rfl⟩ := Prod.mk.inj (Except.ok.inj same)
    obtain ⟨request, made, success⟩ := upload_eq_ok_iff.mp done
    refine ⟨request, ?_, success⟩
    rw [composing]
    simp only [bind, Except.bind, described, given, manifested]
    exact made

/-- A change that is done has been asked for by a request that a success answers. -/
theorem succeeds_of_change {change : Change} (done : service.change wire clock change state = (.ok (), after)) :
    ∃ request, service.changing clock change = .ok request ∧ Succeeds wire request state after := by
  cases change with
  | put key data size => exact put_eq_ok_iff.mp done
  | putFile key content => exact put_eq_ok_iff.mp done
  | putParts key composition => exact succeeds_of_putParts done
  | delete key => exact succeeds_of_carryOut (.delete key) done
  | move source target force => exact succeeds_of_carryOut (.move source target force) done

end Done

/-- Where a change is reported as done, redirects lead from the post that asks for it to a request that a success
answers. Without redirects that is the post itself. It is the same post elsewhere, and of an upload a multipart form,
just if no redirect has dropped the body, its files are sent once more as they were, and an upload has files. Where a
redirect has dropped the body, the success answers a request for a resource, and else a post with what was left of the
body. -/
theorem success_answers_post_iff (service : Service) (wire : Wire σ) (clock : Clock) (change : Change) {state after : σ}
    (done : service.change wire clock change state = (.ok (), after)) :
    ∃ request redirects last response, service.changing clock change = .ok request ∧
      service.Carries clock change request ∧ request.method = .post ∧
      wire.Leads request.withUser state redirects last response after ∧ response.isSuccess = true ∧
      redirects.length ≤ Wire.redirectLimit ∧ (redirects = [] → last = request.withUser) ∧
      (last.IsLike request ∧ (change.isUpload = true → last.contentType = some .multipart) ↔
        (∀ redirect ∈ redirects, redirect.status ∉ [301, 302, 303]) ∧
          wire.resent request.body redirects = request.body ∧ (change.isUpload = true → change.hasFiles = true)) ∧
      if ∃ redirect ∈ redirects, redirect.status ∈ [301, 302, 303] then last.method = .get ∧ last.body = .empty
      else last.IsLike { request with body := wire.resent request.body redirects } := by
  obtain ⟨request, made, response, -, carried, -, success⟩ := succeeds_of_change done
  obtain ⟨post, carries⟩ := carries_of_changing made
  obtain ⟨redirects, last, few, leads⟩ := Wire.follow_eq_ok_iff.mp carried
  obtain ⟨authorization, same⟩ := request.withUser_eq
  have ends := leads.of_post (same ▸ post)
  have drops : redirects.any (Request.dropsBody ·.status) = true ↔
      ∃ redirect ∈ redirects, redirect.status ∈ [301, 302, 303] := by
    simp [Request.dropsBody, or_assoc]
  refine ⟨request, redirects, last, response, made, carries, post, leads, success, few, leads.eq_of_nil, ?_⟩
  split at ends
  · rename_i dropped
    obtain ⟨redirect, member, drop⟩ := drops.mp dropped
    rw [if_pos (drops.mp dropped)]
    refine ⟨iff_of_false ?_ ?_, ends⟩
    · rintro ⟨like, -⟩
      rw [like.method, post] at ends
      cases ends.1
    · exact fun kept => kept.1 redirect member drop
  · rename_i kept
    rw [drops] at kept
    rw [if_neg kept]
    have like : last.IsLike { request with body := wire.resent request.body redirects } := by
      rw [same] at ends
      exact ⟨ends.method, ends.contentType, ends.body⟩
    refine ⟨⟨fun sent => ⟨?_, like.body.symm.trans sent.1.body, fun upload => ?_⟩, fun sent =>
      ⟨⟨like.method, like.contentType, like.body.trans sent.2.1⟩, fun upload => ?_⟩⟩, like⟩
    · exact fun redirect member drop => kept ⟨redirect, member, drop⟩
    · exact (carries.contentType_eq_iff upload).mp (like.contentType.symm.trans (sent.2 upload))
    · exact like.contentType.trans ((carries.contentType_eq_iff upload).mpr (sent.2.2 upload))

section Sample

/-- A service with a host that receives objects. -/
def uploadService : Service where
  bucket := "registry"
  baseUrl := "http://cdn.example.com/"
  credentials := ⟨"test-ak", "test-sk"⟩
  hosts := ⟨"http://rs.qbox.me", "http://rsf.qbox.me", [.text "http://up.qiniu.com"]⟩
  defaultExpiry := 3600

def uploadClock : Clock := ⟨.ofInt 1700000000⟩

def uploadAddress : Url.Address := ⟨"http", "", "up.qiniu.com", none, "/", none, none⟩

def seenAddress : Url.Address := { uploadAddress with path := "/seen" }

/-- The change that stores an object of three bytes. -/
def uploadChange : Change := .put "a" (.ofBytes [120, 121, 122]) 3

def redirection (status : Nat) : Response := { status, headers := [("Location", "/seen")] }

/-- The wire that redirects what is sent to a host itself, and answers whatever else is asked for. A form that is sent
once more holds what is left of each of its files. -/
def redirectingWire (left : Bytes → Bytes) (status : Nat) : Wire Unit where
  carry request state := (.ok (if request.address.path = "/" then redirection status else { status := 200 }), state)
  left _ content _ := left content

/-- The request that stores three bytes is made with any token; it need not be computed. -/
theorem storing_of_token {token : String} (signed : uploadService.uploadToken uploadClock "a" = .ok token) :
    uploadService.storing uploadClock "a" (.ofBytes [120, 121, 122]) 3 =
      .ok { method := .post, address := uploadAddress, body := objectForm token "a" [120, 121, 122]
            contentType := some .multipart } := by
  have located : uploadService.uploadUrl "/" = .ok "http://up.qiniu.com/" :=
    Outcome.toOption_eq_some_iff.mp (by decide +kernel)
  have read : address "http://up.qiniu.com/" = .ok uploadAddress := Outcome.toOption_eq_some_iff.mp (by decide +kernel)
  have drained : (Bounded.mk (.ofBytes [120, 121, 122]) 3).drain.1 = .ok [120, 121, 122] :=
    Outcome.toOption_eq_some_iff.mp (by decide +kernel)
  have writable : checkWritable 3 = .ok () := Outcome.toOption_eq_some_iff.mp (by decide +kernel)
  rw [storing, writable]
  simp only [bind, Except.bind, signed, uploading, located, read, formRequest, ofObject, drained]
  rfl

theorem exists_token_uploadService : ∃ token, uploadService.uploadToken uploadClock "a" = .ok token :=
  ⟨_, congrArg (Except.map _)
    (Outcome.toOption_eq_some_iff.mp (by decide +kernel) : uploadClock.seconds = .ok 1700000000)⟩

/-- What a redirection leads to from the host that receives objects: its other path, asked for as the status says. -/
theorem next?_redirection (wire : Wire σ) {request : Request} (located : request.address = uploadAddress)
    {status : Nat} (redirects : status ∈ Response.redirectStatuses) (state : σ) :
    ∃ next, wire.next? request (redirection status) state = .ok (some next) ∧ next.address = seenAddress ∧
      next.method = request.methodAfter status ∧
        next.body = if request.methodAfter status = request.method then
          request.body.reread fun place content => wire.left place content state else .empty := by
  let bare : Request := { method := .post, address := uploadAddress }
  have towards : request.target "/seen" = .ok seenAddress := by
    have plain : bare.target "/seen" = .ok seenAddress := Outcome.toOption_eq_some_iff.mp (by decide +kernel)
    exact (Request.target_congr located "/seen").trans plain
  have trusted : request.trusts seenAddress = .ok true := by
    have plain : bare.trusts seenAddress = .ok true := Outcome.toOption_eq_some_iff.mp (by decide +kernel)
    exact (Request.trusts_congr located seenAddress).trans plain
  have location : (redirection status).location? = some "/seen" := by
    have header : (redirection 303).header? "Location" = some "/seen" := by decide +kernel
    rw [Response.location?, redirection, if_pos (List.contains_iff_mem.mpr redirects)]
    exact header
  have accepted : Wire.accept request = .ok () := Wire.accept_eq_ok (by rw [located]; decide)
  obtain ⟨next, redirected⟩ : ∃ next, request.redirected (fun place content => wire.left place content state)
      (redirection status).status seenAddress = .ok next := by
    have ascii : Request.checkHost seenAddress = .ok () := Outcome.toOption_eq_some_iff.mp (by decide +kernel)
    rw [Request.redirected, trusted, ascii]
    exact ⟨_, rfl⟩
  refine ⟨next, ?_, ?_⟩
  · rw [Wire.next?, accepted, Request.next?, location]
    simp only [towards, redirected, bind, Except.bind]
    rfl
  · obtain ⟨authorization, rfl⟩ := Request.redirected_eq redirected
    exact ⟨rfl, rfl, rfl⟩

/-- What is sent to the host that receives objects is redirected once, and then answered. -/
theorem send_redirectingWire {request : Request} (located : request.address = uploadAddress) (left : Bytes → Bytes)
    {status : Nat} (redirects : status ∈ Response.redirectStatuses) :
    ∃ next, (redirectingWire left status).noting.send request ((), []) =
        (.ok { status := 200 }, (), [request, next]) ∧
      next.method = request.methodAfter status ∧
        next.body = if request.methodAfter status = request.method then
          request.body.reread fun _ => left else .empty := by
  have anonymous : request.withUser = request := by
    have user : request.user = ("", "") := by
      rw [Request.user, located]
      decide
    rw [Request.withUser, user]
    rfl
  obtain ⟨next, follows, moved, asks⟩ :=
    next?_redirection (redirectingWire left status).noting located redirects ((), [request])
  have stays : (redirectingWire left status).noting.next? next { status := 200 } ((), [request, next]) = .ok none :=
    Wire.next?_eq_none _ _ (by rw [moved]; decide) (by decide +kernel)
  have few : 1 ≤ Wire.redirectLimit := by decide
  refine ⟨next, Wire.follow_eq_ok_iff.mpr ⟨[⟨status, ((), [request])⟩], next, few, ?_⟩, asks⟩
  rw [anonymous]
  have carried : (redirectingWire left status).noting request ((), []) =
      (.ok (redirection status), (), [request]) := by
    simp only [Wire.noting, redirectingWire, located]
    rfl
  refine .redirect carried follows (.answer ?_ stays)
  simp only [Wire.noting, redirectingWire, moved]
  rfl

/-- A put is done once its redirected post is followed. -/
theorem put_redirectingWire (left : Bytes → Bytes) {status : Nat} (redirects : status ∈ Response.redirectStatuses) :
    ∃ (token : String) (first next : Request),
      uploadService.change (redirectingWire left status).noting uploadClock uploadChange ((), []) =
        (.ok (), (), [first, next]) ∧
      first.method = .post ∧ first.body = objectForm token "a" [120, 121, 122] ∧
      next.method = first.methodAfter status ∧
        next.body = if first.methodAfter status = first.method then
          objectForm token "a" (left [120, 121, 122]) else .empty := by
  obtain ⟨token, signed⟩ := exists_token_uploadService
  have made := storing_of_token signed
  obtain ⟨next, sent, method, carried⟩ := @send_redirectingWire
    { method := .post, address := uploadAddress, body := objectForm token "a" [120, 121, 122]
      contentType := some .multipart } rfl left status redirects
  have success : Succeeds (redirectingWire left status).noting _ ((), []) ((), [_, next]) :=
    ⟨_, [], sent, rfl, rfl⟩
  have done := put_eq_ok_iff.mpr ⟨_, made, success⟩
  exact ⟨token, _, next, done, rfl, rfl, method, carried⟩

theorem status_of_leads_redirectingWire {left : Bytes → Bytes} {status : Nat} {request last : Request}
    {state after : Unit × List Request} {redirects : List (Redirect (Unit × List Request))} {response : Response}
    (leads : (redirectingWire left status).noting.Leads request state redirects last response after) :
    ∀ redirect ∈ redirects, redirect.status = status := by
  induction leads with
  | answer carried stays => nofun
  | @redirect request next last state between after response final redirects carried follows leads ih =>
      have first : response.status = status := by
        have brought := Except.ok.inj (congrArg Prod.fst carried)
        split at brought
        · rw [← brought]
          rfl
        · obtain rfl := brought
          have none : ({ status := 200 } : Response).location? = none := by decide +kernel
          have stays := Wire.next?_eq_some follows
          rw [Request.next?, none] at stays
          cases stays
      exact List.forall_mem_cons.mpr ⟨first, ih⟩

end Sample

/-- A post that keeps its method along a redirect arrives as it is where its file can be sent once more. -/
theorem redirected_put_arrives :
    ∃ request redirects last response after,
      uploadService.changing uploadClock uploadChange = .ok request ∧
        (redirectingWire id 307).noting.Leads request.withUser ((), []) redirects last response after ∧
          response.isSuccess = true ∧ last.IsLike request ∧ last.contentType = some .multipart := by
  obtain ⟨token, first, next, done, -⟩ := put_redirectingWire id (by decide : 307 ∈ Response.redirectStatuses)
  obtain ⟨request, redirects, last, response, made, -, -, leads, success, -, -, arrives, -⟩ :=
    success_answers_post_iff uploadService (redirectingWire id 307).noting uploadClock uploadChange done
  have kept : ∀ redirect ∈ redirects, redirect.status ∉ [301, 302, 303] := by
    intro redirect member
    rw [status_of_leads_redirectingWire leads redirect member]
    decide
  have whole : (redirectingWire id 307).noting.resent request.body redirects = request.body :=
    Wire.resent_of_keeps (fun _ _ _ => rfl) request.body redirects
  obtain ⟨like, announced⟩ := arrives.mpr ⟨kept, whole, fun _ => rfl⟩
  exact ⟨request, redirects, last, response, _, made, leads, success, like, announced rfl⟩

/-- A put is done although what the success answers asks for a resource without a body, or is a form whose file has been
read to its end before. -/
theorem put_succeeds_without_body :
    (∃ first last : Request,
      uploadService.put (redirectingWire id 303).noting uploadClock "a" (.ofBytes [120, 121, 122]) 3 ((), []) =
        (.ok (), (), [first, last]) ∧
      first.method = .post ∧ last.method = .get ∧ last.body = .empty) ∧
    ∃ (token : String) (first last : Request),
      uploadService.put (redirectingWire (fun _ => []) 307).noting uploadClock "a" (.ofBytes [120, 121, 122]) 3
        ((), []) = (.ok (), (), [first, last]) ∧
      first.body = objectForm token "a" [120, 121, 122] ∧ last.method = .post ∧
      last.body = objectForm token "a" [] := by
  constructor
  · obtain ⟨token, first, next, done, post, -, method, carried⟩ :=
      put_redirectingWire id (by decide : 303 ∈ Response.redirectStatuses)
    have turned : first.methodAfter 303 = .get := rfl
    rw [turned, post] at carried
    exact ⟨first, next, done, post, method, carried⟩
  · obtain ⟨token, first, next, done, post, body, method, carried⟩ :=
      put_redirectingWire (fun _ => []) (by decide : 307 ∈ Response.redirectStatuses)
    have kept : first.methodAfter 307 = first.method := rfl
    rw [kept, if_pos rfl] at carried
    exact ⟨token, first, next, done, body, (method.trans kept).trans post, carried⟩

end Service
end PathStore
