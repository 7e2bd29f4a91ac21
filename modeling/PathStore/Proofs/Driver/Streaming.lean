/-
This file shows that a read of a path over HTTP delivers the object from the offset on. It does so whether the response
leaves out the bytes before the offset or brings the whole object, however the body is cut into chunks and whatever
sizes are read.
-/
import PathStore.Proofs.Driver.Downloading
import PathStore.Proofs.Stream.Reading

namespace PathStore

variable {σ : Type}

namespace Service

/-- A download that a success answers gives the body of the response. -/
theorem download_of_success {service : Service} {wire : Wire σ} {clock : Clock} {key : String} {offset : Int}
    {state after : σ} {found : Url.Address} {response : Response}
    (located : service.downloadUrl clock key offset = .ok found)
    (answered : wire.send (downloadRequest found offset) state = (.ok response, after))
    (success : response.isSuccess = true) :
    service.download wire clock key offset state = (.ok (.download (bodyFrom response offset)), after) := by
  rw [download, located]
  dsimp only
  rw [answered]
  dsimp only
  rw [if_pos success]

/-- The body from an offset on holds what the response brings of it: all if bytes before the offset are left out, and
what lies behind them else. -/
theorem bodyFrom_holds {response : Response} {offset : Nat} {chunks : List Bytes}
    (whole : response.body = chunks.map .ok) {content : Bytes}
    (brings : response.status = 206 ∧ chunks.flatten = content.drop offset ∨
      response.status ≠ 206 ∧ chunks.flatten = content) :
    (bodyFrom response offset).Holds (content.drop offset) := by
  refine ⟨chunks, whole, ?_⟩
  rw [bodyFrom]
  rcases brings with ⟨partially, front⟩ | ⟨wholly, all⟩
  · simp only [partially, ne_eq, not_true_eq_false, and_false, if_false, List.drop_zero, List.nil_append, front]
  · by_cases begins : offset = 0
    · simp [begins, all]
    · have positive : (0 : Int) < offset := by omega
      simp only [wholly, positive, ne_eq, not_false_eq_true, and_self, if_true, Int.toNat_natCast, List.nil_append, all]

end Service

namespace Driver

/-- A read that begins inside an object delivers it from the offset on, if the object is described with its size and the
download is answered either by a partial response with the bytes from the offset on or by another success with all of
them, in whatever chunks. -/
theorem readStream_delivers_rest (driver : Driver) (service : Service) (wire : Wire σ) (clock : Clock)
    (workspace : Workspace σ) {path : String} (valid : Path.isValid path = true) (content : Bytes) {offset : Nat}
    (inside : offset < content.length) {info : ObjectInfo} {described after : σ} {found : Url.Address}
    {response : Response}
    (stated : service.stat wire (driver.root.keyFor path) workspace.store = (.ok info, described))
    (sized : info.size = content.length)
    (located : service.privateUrl clock (driver.root.keyFor path) service.defaultExpiry >>= Service.address = .ok found)
    (answered : wire.send (Service.downloadRequest found offset) described = (.ok response, after))
    (success : response.isSuccess = true) (chunks : List Bytes) (whole : response.body = chunks.map .ok)
    (brings : response.status = 206 ∧ chunks.flatten = content.drop offset ∨
      response.status ≠ 206 ∧ chunks.flatten = content) :
    ∃ stream, (Workspace.run (service.answer wire clock) (driver.readStream path offset) workspace).1 = .ok stream ∧
      stream.Delivers (content.drop offset) := by
  have begun : ¬info.size ≤ (offset : Int) := by omega
  have ranged := Service.checkRange_of_stat (congrArg Prod.fst stated) (Int.natCast_nonneg offset) (Int.not_le.mp begun)
  have asked := (Service.downloadUrl_eq ranged).trans located
  have read := run_readStream (service.answer wire clock) workspace.hasDirectory workspace.store driver valid
    (Int.natCast_nonneg offset) stated
  rw [if_neg begun, show service.answer wire clock (.download (driver.root.keyFor path) offset) described = _ from
    Service.download_of_success asked answered success] at read
  refine ⟨_, ?_, Stream.delivers_of_holds (Service.bodyFrom_holds whole brings)⟩
  rw [(Workspace.run_alone (service.answer wire clock) (driver.readStream path offset) workspace).1, read]
  rfl

section Sample

/-- A response that brings a whole object in chunks, one of them empty. -/
def sampleDownload : Response := { status := 200, body := [.ok [1], .ok [], .ok [2, 3]], isWhole := false }

/-- The wire that describes an object of three bytes and, asked for it from an offset on, brings all of it. -/
def sampleExchange : Wire Unit := .keeping fun request state =>
  (.ok (if request.method = .post then sampleResponse else sampleDownload), state)

/-- A wire that answers posts with the description of an object of three bytes describes it. -/
theorem stat_of_describing {wire : Wire Unit}
    (describes : ∀ request : Request, request.method = .post → wire request () = (.ok sampleResponse, ())) :
    ∃ info, info.size = 3 ∧ sampleService.stat wire "reg/a" () = (.ok info, ()) := by
  have written : sampleService.statUrl "reg/a" = "http://rs.qbox.me/stat/cmVnaXN0ZXI6cmVnL2E=" := by decide +kernel
  have spelled : Credentials.requestText "http://rs.qbox.me/stat/cmVnaXN0ZXI6cmVnL2E=" =
      .ok "/stat/cmVnaXN0ZXI6cmVnL2E=\n" := Outcome.toOption_eq_some_iff.mp (by decide +kernel)
  have located : Service.address "http://rs.qbox.me/stat/cmVnaXN0ZXI6cmVnL2E=" =
      .ok ⟨"http", "", "rs.qbox.me", none, "/stat/cmVnaXN0ZXI6cmVnL2E=", none, none⟩ :=
    Outcome.toOption_eq_some_iff.mp (by decide +kernel)
  obtain ⟨info, ⟨⟩, size, described⟩ :=
    stat_of_sampleResponse written spelled located (by decide) (by decide +kernel) wire () fun request posted =>
      ⟨(), describes request posted⟩
  exact ⟨info, size, described⟩

theorem stat_sampleExchange :
    ∃ info, info.size = 3 ∧ sampleService.stat sampleExchange "reg/a" () = (.ok info, ()) :=
  stat_of_describing fun request posted => by
    show (Except.ok (if request.method = .post then sampleResponse else sampleDownload), ()) = _
    rw [if_pos posted]

/-- The content of the described key can be asked for. -/
theorem exists_address_sampleService :
    ∃ found, sampleService.privateUrl sampleClock "reg/a" sampleService.defaultExpiry >>= Service.address =
      .ok found ∧ found.scheme ≠ "" := by
  obtain ⟨url, signed, short⟩ :=
    exists_privateUrl_sampleService "reg/a" (by decide +kernel)
  obtain ⟨query, -, located⟩ := Service.address_privateUrl isBase_sampleBase (by decide) signed short
  rw [signed]
  exact ⟨_, located, (by decide : sampleBase.scheme ≠ "")⟩

/-- A response that brings the whole object delivers it from the offset on. -/
theorem readStream_skips_start :
    ∃ stream, (Workspace.run (sampleService.answer sampleExchange sampleClock)
        (readStream ⟨.ofDirectory "/reg/", 10, 60, .standard⟩ "/a" 1) { store := () }).1 = .ok stream ∧
      stream.Delivers [2, 3] := by
  have key : (⟨.ofDirectory "/reg/", 10, 60, .standard⟩ : Driver).root.keyFor "/a" = "reg/a" := by decide
  obtain ⟨info, size, described⟩ := stat_sampleExchange
  obtain ⟨found, asked, named⟩ := exists_address_sampleService
  have brought :
      sampleExchange.send (Service.downloadRequest found (1 : Nat)) () = (.ok sampleDownload, ()) := by
    obtain ⟨authorization, same⟩ := (Service.downloadRequest found (1 : Nat)).withUser_eq
    exact Wire.send_of_answer (by rw [same]; rfl) named rfl
  exact readStream_delivers_rest ⟨.ofDirectory "/reg/", 10, 60, .standard⟩ sampleService sampleExchange sampleClock
    { store := () } (by decide) [1, 2, 3] (by decide) (key ▸ described) size (key ▸ asked) brought rfl
    [[1], [], [2, 3]] rfl (.inr ⟨by decide, rfl⟩)

end Sample

end Driver
end PathStore
