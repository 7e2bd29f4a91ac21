/-
This file shows which object a read downloads over HTTP. The key is described by a request that carries it in base64 and
downloaded by one that carries it in a path, from which dot segments are removed; so the two agree exactly for keys
without dot segments.
-/
import PathStore.Proofs.Driver.Steps
import PathStore.Proofs.Http.Sending
import PathStore.Proofs.Json.Integers
import PathStore.Proofs.Service.Signing

namespace PathStore

open Url (HasDots)

variable {σ : Type}

namespace Answer

/-- An integer that is read from an answer has no more digits than are written. -/
theorem isWritable_of_integer {value : Reply} (narrow : Json.IsNarrow value) {number : Int}
    (read : integer value = .ok number) : Numeral.isWritable number = true := by
  unfold integer at read
  split at read
  · exact Except.ok.inj read ▸ narrow
  · obtain rfl := Except.ok.inj read
    split <;> decide +kernel
  · rename_i text
    cases spelled : Numeral.readInteger (text.mended '?') with
    | error fault =>
        rw [spelled] at read
        cases read
    | ok known =>
        rw [spelled] at read
        exact Except.ok.inj read ▸ Numeral.isWritable_of_readInteger spelled
  · rename_i value
    unfold Failure.wholePart at read
    split at read
    · cases read
    · rename_i cut
      obtain rfl := Except.ok.inj read
      have short := Binary64.IsProper.natAbs_lt_of_truncate? narrow cut
      exact Numeral.isWritable_of_lt (by decide : 400 ≤ 4300) (Nat.lt_trans short (by decide +kernel))
    · cases read
  · cases read

theorem holdsNarrow_of_value {nesting status : Nat} {content : Bytes} {found : Reply}
    (read : value nesting status content = .ok found) : found.HoldsNarrow := by
  rw [value] at read
  split at read
  · obtain rfl := Except.ok.inj read
    refine ⟨trivial, ?_⟩
    rintro _ ⟨⟩ member ⟨⟩
  · cases held : Json.ofBytes nesting content with
    | error fault =>
        rw [held] at read
        cases read
    | ok known =>
        rw [held] at read
        exact Except.ok.inj read ▸ Json.holdsNarrow_of_ofBytes held

/-- The size in a description has no more digits than are written. -/
theorem isWritable_of_objectInfo {key found : Reply} (narrow : found.HoldsNarrow) {info : ObjectInfo}
    (read : objectInfo key found = .ok info) : Numeral.isWritable info.size = true := by
  obtain ⟨held, sized, read⟩ := Outcome.bind_eq_ok_iff.mp read
  obtain ⟨size, counted, read⟩ := Outcome.bind_eq_ok_iff.mp read
  obtain ⟨dated, -, read⟩ := Outcome.bind_eq_ok_iff.mp read
  obtain ⟨putTime, -, read⟩ := Outcome.bind_eq_ok_iff.mp read
  obtain ⟨hash, -, read⟩ := Outcome.bind_eq_ok_iff.mp read
  obtain ⟨mimeType, -, read⟩ := Outcome.bind_eq_ok_iff.mp read
  obtain rfl := Except.ok.inj read
  refine isWritable_of_integer ?_ counted
  cases found with
  | object members =>
      obtain rfl := Except.ok.inj sized
      cases known : members.lookup ("fsize" : LooseText) with
      | none =>
          show Numeral.isWritable 0 = true
          decide +kernel
      | some value =>
          obtain ⟨before, behind, rfl, -⟩ := List.lookup_eq_some_iff.mp known
          exact narrow.2 _ rfl ("fsize", value) (List.mem_append_right _ List.mem_cons_self)
  | _ => cases sized

end Answer

namespace Service

variable {service : Service} {wire : Wire σ} {clock : Clock} {key : String} {offset : Int} {state : σ}
  {sent : List Request}

/-- The size that a service tells can stand in a header. -/
theorem isWritable_of_stat {info : ObjectInfo} (described : (service.stat wire key state).1 = .ok info) :
    Numeral.isWritable info.size = true := by
  obtain ⟨found, managed, described⟩ := Outcome.bind_eq_ok_iff.mp described
  refine Answer.isWritable_of_objectInfo ?_ described
  split at managed
  · cases managed
  · obtain ⟨⟨status, content⟩, -, valued⟩ := Outcome.bind_eq_ok_iff.mp managed
    exact Answer.holdsNarrow_of_value valued

/-- The header that asks for the bytes from an offset within a described object on can be written. -/
theorem checkRange_of_stat {info : ObjectInfo} (described : (service.stat wire key state).1 = .ok info)
    (natural : 0 ≤ offset) (begun : offset < info.size) : checkRange offset = .ok () := by
  have writable := Numeral.isWritable_of_le natural begun.le (isWritable_of_stat described)
  rw [checkRange, checkWritable, writable]
  split <;> rfl

/-- A signed URL is asked for if the header for the offset can be written. -/
theorem downloadUrl_eq (ranged : checkRange offset = .ok ()) :
    service.downloadUrl clock key offset = service.privateUrl clock key service.defaultExpiry >>= address := by
  rw [downloadUrl]
  simp only [bind, Except.bind, ranged]

/-- A download that sends a request asks for the base with the key behind it, once the dot segments are gone. -/
theorem download_requests {base : Url.Address} (isBase : base.IsBase service.baseUrl)
    (plain : service.credentials.IsPlain) {url : String}
    (signed : service.privateUrl clock key service.defaultExpiry = .ok url)
    (ranged : checkRange offset = .ok ()) (short : url.toList.length ≤ Url.longestUrl) :
    ∃ request later, (service.download wire.noting clock key offset (state, sent)).2.2 = sent ++ request :: later ∧
      request.method = .get ∧ (request.address.write = url ↔ ¬HasDots key.toList) ∧
      (base.Names request.address key ↔ ¬HasDots key.toList) := by
  obtain ⟨query, written, located⟩ := address_privateUrl isBase plain signed short
  rw [download_state, downloadUrl_eq ranged, signed, show Except.ok url >>= address = _ from located, written]
  obtain ⟨later, noted⟩ := wire.send_noting (downloadRequest _ offset) state sent
  refine ⟨_, later, noted, ?_⟩
  obtain ⟨authorization, same⟩ := Request.withUser_eq (downloadRequest _ offset)
  rw [same]
  exact ⟨rfl, isBase.write_below_iff key query, isBase.names_below_iff key (some query)⟩

/-- Without a signed URL of a length that can be sent, a download sends nothing. -/
theorem download_of_unsigned
    (unsigned : ∀ url, service.privateUrl clock key service.defaultExpiry = .ok url →
      Url.longestUrl < url.toList.length) :
    (service.download wire clock key offset state).2 = state := by
  rw [download_state]
  cases asked : service.downloadUrl clock key offset with
  | error failure => rfl
  | ok found =>
      obtain ⟨url, signed, asked⟩ := Outcome.bind_eq_ok_iff.mp asked
      obtain ⟨_, -, located⟩ := Outcome.bind_eq_ok_iff.mp asked
      obtain ⟨failure, refused⟩ := address_of_long (unsigned url signed)
      cases refused.symm.trans located

end Service

namespace Driver

/-- A read that begins before the end of a described object leaves what the download leaves. -/
theorem run_readStream_download (answer : (call : Call) → σ → Except Failure call.Reply × σ) (hasDirectory : Bool)
    (driver : Driver) {path : String} (valid : Path.isValid path = true) {offset : Int} (natural : 0 ≤ offset)
    (state : σ) {described : σ} {info : ObjectInfo}
    (found : answer (.stat (driver.root.keyFor path)) state = (.ok info, described)) (begun : offset < info.size) :
    ((driver.readStream path offset).run (Workspace.reply answer hasDirectory) state).2 =
      (answer (.download (driver.root.keyFor path) offset) described).2 := by
  rw [run_readStream answer hasDirectory state driver valid natural found, if_neg (Int.not_le.mpr begun)]

/-- The requests that have gone out once a path is read. -/
def requestsOfRead (driver : Driver) (service : Service) (wire : Wire σ) (clock : Clock) (path : String) (offset : Int)
    (workspace : Workspace (σ × List Request)) : List Request :=
  (Workspace.run (service.answer wire.noting clock) (driver.readStream path offset) workspace).2.store.2

section Requests

variable (driver : Driver) (service : Service) (wire : Wire σ) (clock : Clock) {base : Url.Address}
  (isBase : base.IsBase service.baseUrl) (plain : service.credentials.IsPlain) {path : String}
  (valid : Path.isValid path = true) {offset : Int} (natural : 0 ≤ offset) (workspace : Workspace (σ × List Request))
  {info : ObjectInfo} {state : σ} {sent : List Request}
  (described : service.stat wire.noting (driver.root.keyFor path) workspace.store = (.ok info, (state, sent)))
  (begun : offset < info.size)
include valid natural described begun

theorem requestsOfRead_eq :
    driver.requestsOfRead service wire clock path offset workspace =
      (service.download wire.noting clock (driver.root.keyFor path) offset (state, sent)).2.2 := by
  have alone := (Workspace.run_alone (service.answer wire.noting clock) (driver.readStream path offset) workspace).2
  have read := run_readStream_download (service.answer wire.noting clock) workspace.hasDirectory driver valid natural
    workspace.store described begun
  exact congrArg Prod.snd (alone.trans read)

include isBase plain

/-- A read that begins before the end of the object it described asks for the signed URL, and for one that addresses the
described key, exactly if no segment of the key is one of dots. It asks for nothing where no such URL can be sent. -/
theorem readStream_addresses_key_iff :
    (∀ url, service.privateUrl clock (driver.root.keyFor path) service.defaultExpiry = .ok url →
      url.toList.length ≤ Url.longestUrl →
      ∃ request later,
        driver.requestsOfRead service wire clock path offset workspace = sent ++ request :: later ∧
        request.method = .get ∧ (request.address.write = url ↔ ¬HasDots (driver.root.keyFor path).toList) ∧
        (base.Names request.address (driver.root.keyFor path) ↔ ¬HasDots (driver.root.keyFor path).toList)) ∧
    ((∀ url, service.privateUrl clock (driver.root.keyFor path) service.defaultExpiry = .ok url →
      Url.longestUrl < url.toList.length) → driver.requestsOfRead service wire clock path offset workspace = sent) := by
  rw [requestsOfRead_eq driver service wire clock valid natural workspace described begun]
  have ranged := Service.checkRange_of_stat (congrArg Prod.fst described) natural begun
  refine ⟨fun url same short => service.download_requests isBase plain same ranged short, fun unsigned => ?_⟩
  rw [Service.download_of_unsigned unsigned]

end Requests

section Sample

/-- A service whose keys are downloaded below the root of a host. -/
def sampleService : Service where
  bucket := "register"
  baseUrl := "http://cdn.example.com/"
  credentials := ⟨"test-ak", "test-sk"⟩
  hosts := ⟨"http://rs.qbox.me", "http://rsf.qbox.me", []⟩
  defaultExpiry := 3600

def sampleClock : Clock := ⟨.ofInt 1700000000⟩

def sampleBase : Url.Address := ⟨"http", "", "cdn.example.com", none, "/", none, none⟩

/-- The description of an object of three bytes. -/
def sampleResponse : Response := { status := 200, body := [.ok (Utf8.encode "\x7b\"fsize\":3\x7d")] }

/-- The wire that brings this description whatever is asked for. -/
def sampleWire : Wire Unit := .keeping fun _ state => (.ok sampleResponse, state)

theorem isBase_sampleBase : sampleBase.IsBase sampleService.baseUrl where
  read := by decide +kernel
  written := by rfl
  absolute := by decide
  plainHost := by decide
  noQuery := rfl
  noFragment := rfl
  directory := ⟨"", rfl⟩

section Stat

variable {key url text : String} (written : sampleService.statUrl key = url)
  (spelled : Credentials.requestText url = .ok text) {found : Url.Address}
  (located : Service.address url = .ok found) (named : found.scheme ≠ "")
  (sized : ((Answer.value sampleService.platform.nesting 200 (Utf8.encode "\x7b\"fsize\":3\x7d")).bind
    (Answer.objectInfo (.text key))).toOption.map ObjectInfo.size = some 3)
include written spelled located named sized

/-- On a wire that brings that description for a post an object of three bytes is described under any key whose URL can
be asked for. -/
theorem stat_of_sampleResponse (wire : Wire σ) (state : σ)
    (answers : ∀ request : Request, request.method = .post →
      ∃ after, wire request state = (.ok sampleResponse, after)) :
    ∃ info after, info.size = 3 ∧ sampleService.stat wire key state = (.ok info, after) := by
  let request : Request :=
    { method := .post, address := found, authorization := some ("QBox " ++ sampleService.credentials.sign text)
      contentType := some .urlEncoded }
  have whole : sampleResponse.content = .ok (Utf8.encode "\x7b\"fsize\":3\x7d") :=
    congrArg Except.ok (List.append_nil _)
  have posted : request.withUser.method = .post := by
    obtain ⟨authorization, same⟩ := request.withUser_eq
    rw [same]
  obtain ⟨after, answered⟩ := answers _ posted
  have carried : wire.send request state = (.ok sampleResponse, after) :=
    Wire.send_of_answer answered named (by decide)
  cases described : (Answer.value sampleService.platform.nesting 200 (Utf8.encode "\x7b\"fsize\":3\x7d")).bind
    (Answer.objectInfo (.text key)) with
  | error failure =>
      rw [described] at sized
      cases sized
  | ok info =>
      rw [described] at sized
      refine ⟨info, after, Option.some.inj sized, ?_⟩
      rw [Service.stat, written, Service.manage_of_success (by decide) spelled located carried whole rfl]
      dsimp only
      rw [show sampleResponse.status = 200 from rfl, described]

theorem stat_sampleWire :
    ∃ info sent, info.size = 3 ∧ sampleService.stat sampleWire.noting key ((), []) = (.ok info, ((), sent)) := by
  obtain ⟨info, ⟨⟨⟩, sent⟩, size, described⟩ :=
    stat_of_sampleResponse written spelled located named sized sampleWire.noting ((), [])
      fun request _ => ⟨((), [request]), rfl⟩
  exact ⟨info, sent, size, described⟩

end Stat

/-- A key is signed on the sample service in a URL that can be sent if the URL without its signature is short. -/
theorem exists_privateUrl_sampleService (key : String)
    (short : (Credentials.dated (sampleService.baseUrl ++ Url.escapeKey key) 1700003600).toList.length ≤ 60000) :
    ∃ url, sampleService.privateUrl sampleClock key sampleService.defaultExpiry = .ok url ∧
      url.toList.length ≤ Url.longestUrl := by
  have now : sampleClock.seconds = .ok 1700000000 := Outcome.toOption_eq_some_iff.mp (by decide +kernel)
  have writable : Credentials.isWritable (1700000000 + 3600) = true := by decide +kernel
  obtain ⟨url, signed, length⟩ := sampleService.exists_privateUrl now writable
  refine ⟨url, signed, ?_⟩
  have account : sampleService.credentials.accessKey.toList.length = 7 := by decide
  have deadline : (1700000000 + 3600 : Int) = 1700003600 := rfl
  rw [length, account, deadline, Url.longestUrl]
  omega

end Sample

/-- A read below a root directory asks for the signed URL of its key, which addresses the key. -/
theorem readStream_addresses_key_below_root :
    ∃ url sent request later, sampleService.privateUrl sampleClock "reg/a" sampleService.defaultExpiry = .ok url ∧
      requestsOfRead ⟨.ofDirectory "/reg/", 10, 60, .standard⟩ sampleService sampleWire sampleClock "/a" 0
          { store := ((), []) } =
        sent ++ request :: later ∧
      request.method = .get ∧ request.address.write = url ∧ sampleBase.Names request.address "reg/a" := by
  have key : (⟨.ofDirectory "/reg/", 10, 60, .standard⟩ : Driver).root.keyFor "/a" = "reg/a" := by decide
  have written : sampleService.statUrl "reg/a" = "http://rs.qbox.me/stat/cmVnaXN0ZXI6cmVnL2E=" := by decide +kernel
  have spelled : Credentials.requestText "http://rs.qbox.me/stat/cmVnaXN0ZXI6cmVnL2E=" =
      .ok "/stat/cmVnaXN0ZXI6cmVnL2E=\n" := Outcome.toOption_eq_some_iff.mp (by decide +kernel)
  have located : Service.address "http://rs.qbox.me/stat/cmVnaXN0ZXI6cmVnL2E=" =
      .ok ⟨"http", "", "rs.qbox.me", none, "/stat/cmVnaXN0ZXI6cmVnL2E=", none, none⟩ :=
    Outcome.toOption_eq_some_iff.mp (by decide +kernel)
  obtain ⟨info, sent, size, described⟩ :=
    stat_sampleWire written spelled located (by decide) (by decide +kernel)
  obtain ⟨url, signed, short⟩ :=
    exists_privateUrl_sampleService "reg/a" (by decide +kernel)
  have asked := (readStream_addresses_key_iff ⟨.ofDirectory "/reg/", 10, 60, .standard⟩ sampleService sampleWire
    sampleClock isBase_sampleBase (by decide) (by decide : Path.isValid "/a" = true) (Int.le_refl 0)
    { store := ((), []) } (key ▸ described) (by omega)).1
  rw [key] at asked
  obtain ⟨request, later, noted, method, address, names⟩ := asked url signed short
  have plain : ¬HasDots "reg/a".toList := by decide
  exact ⟨url, sent, request, later, signed, noted, method, address.mpr plain, names.mpr plain⟩

/-- A read of a path with a double dot asks for what the path leads to, which is another key than the described one. -/
theorem readStream_misses_key_with_dots :
    Path.isValid "/a/../b" = true ∧
      ∃ url sent request later, sampleService.privateUrl sampleClock "a/../b" sampleService.defaultExpiry = .ok url ∧
        requestsOfRead ⟨.ofDirectory "", 10, 60, .standard⟩ sampleService sampleWire sampleClock "/a/../b" 0
          { store := ((), []) } = sent ++ request :: later ∧
        request.method = .get ∧ request.address.write ≠ url ∧ ¬sampleBase.Names request.address "a/../b" := by
  have key : (⟨.ofDirectory "", 10, 60, .standard⟩ : Driver).root.keyFor "/a/../b" = "a/../b" := by decide
  have written : sampleService.statUrl "a/../b" = "http://rs.qbox.me/stat/cmVnaXN0ZXI6YS8uLi9i" := by decide +kernel
  have spelled : Credentials.requestText "http://rs.qbox.me/stat/cmVnaXN0ZXI6YS8uLi9i" =
      .ok "/stat/cmVnaXN0ZXI6YS8uLi9i\n" := Outcome.toOption_eq_some_iff.mp (by decide +kernel)
  have located : Service.address "http://rs.qbox.me/stat/cmVnaXN0ZXI6YS8uLi9i" =
      .ok ⟨"http", "", "rs.qbox.me", none, "/stat/cmVnaXN0ZXI6YS8uLi9i", none, none⟩ :=
    Outcome.toOption_eq_some_iff.mp (by decide +kernel)
  obtain ⟨info, sent, size, described⟩ :=
    stat_sampleWire written spelled located (by decide) (by decide +kernel)
  obtain ⟨url, signed, short⟩ :=
    exists_privateUrl_sampleService "a/../b" (by decide +kernel)
  have valid : Path.isValid "/a/../b" = true := by decide
  have read := requestsOfRead_eq ⟨.ofDirectory "", 10, 60, .standard⟩ sampleService sampleWire sampleClock
    valid (Int.le_refl 0) { store := ((), []) } (key ▸ described) (by omega)
  have ranged : Service.checkRange 0 = .ok () := rfl
  obtain ⟨request, later, noted, method, address, names⟩ :=
    Service.download_requests isBase_sampleBase (by decide) signed ranged short
  rw [key] at read
  have dots : HasDots "a/../b".toList := by decide
  exact ⟨valid, url, sent, request, later, signed, read.trans noted, method, fun same => address.mp same dots,
    fun named => names.mp named dots⟩

end Driver
end PathStore
