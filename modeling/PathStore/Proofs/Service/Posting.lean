/-
This file shows that what is posted for a composition is a form that the receiving service composes as the store in
memory composes the parts.
-/
import PathStore.Proofs.Http.Sending
import PathStore.Proofs.Service.Composing
import PathStore.Proofs.Service.Requesting
import PathStore.Store

namespace PathStore

namespace UploadForm

section Posting

/-- The files of a form are sent one after the other, each by reads of one size. -/
theorem sendsFiles_of_partFiles {index : Nat} {parts : List Part} {sources : List Source} {values : List Json}
    {files : List FormField} (described : manifestEntries index parts = .ok values)
    (carried : partFiles index parts sources = .ok files) : SendsFiles index parts sources files := by
  induction parts generalizing index sources values files with
  | nil =>
      obtain rfl := Except.ok.inj carried
      exact .done index sources
  | cons part rest ih =>
      obtain ⟨value, entry, later⟩ := Outcome.bind_eq_ok_iff.mp described
      obtain ⟨others, entries, -⟩ := Outcome.bind_eq_ok_iff.mp later
      cases part with
      | range key start stop => exact .range key start stop (ih entries carried)
      | bytes source length =>
          rw [partFiles] at carried
          split at carried
          · cases carried
          · rename_i content after drained
            obtain ⟨remaining, rest, rfl⟩ := Outcome.map_eq_ok_iff.mp carried
            exact .bytes (Bounded.sends_of_drain drained) (ih entries rest)
      | foreign typeName => cases entry

/-- Parts of which none is foreign are all described. -/
theorem exists_manifestEntries (index : Nat) {parts : List Part} {sources : List Source}
    (admits : ∀ part ∈ parts, Composition.Admits sources part) :
    ∃ values, manifestEntries index parts = .ok values := by
  induction parts generalizing index with
  | nil => exact ⟨[], rfl⟩
  | cons part rest ih =>
      obtain ⟨values, described⟩ := ih (index + 1) fun part member => admits part (List.mem_cons_of_mem _ member)
      rw [manifestEntries, described]
      cases part with
      | foreign typeName => exact (admits _ List.mem_cons_self).elim
      | _ => exact ⟨_, rfl⟩

/-- Files over sound sources can be read. -/
theorem exists_partFiles (index : Nat) (parts : List Part) {sources : List Source}
    (sound : ∀ source ∈ sources, source.IsSound) : ∃ files, partFiles index parts sources = .ok files := by
  induction parts generalizing index sources with
  | nil => exact ⟨[], rfl⟩
  | cons part rest ih =>
      cases part with
      | bytes source length =>
          obtain ⟨content, last, drained, soundLast⟩ := Bounded.exists_drainWith (length.toNat + 1)
            ⟨Composition.source sources source, length⟩ (Composition.isSound_source sound source)
          have after : ∀ other ∈ sources.set source last.source, other.IsSound := by
            intro other member
            obtain old | new := List.mem_or_eq_of_mem_set member
            · exact sound other old
            · exact new ▸ soundLast
          obtain ⟨files, carried⟩ := ih (index + 1) after
          have read : (Bounded.mk (Composition.source sources source) length).drain = (.ok content, last) := drained
          rw [partFiles, read]
          dsimp only
          rw [carried]
          exact ⟨_, rfl⟩
      | _ => exact ih (index + 1) sound

end Posting

end UploadForm

namespace Service

open UploadForm

variable {σ : Type} (service : Service) (wire : Wire σ) (clock : Clock) (key : String) (composition : Composition)
  (state : σ)

/-- Whether a composition posts a form to an address before all else, and nothing more unless that is redirected. -/
def Posts (found : Url.Address) (fields : List FormField) : Prop :=
  ∃ request later, request.method = .post ∧ request.address = found ∧ request.body = body fields ∧
    (service.putParts wire.noting clock key composition (state, [])).2.2 = request :: later ∧
    ((∀ response, (wire request state).1 = .ok response → response.location? = none) → later = [])

theorem upload_state (path : String) (form : Except Failure (List FormField)) :
    (service.upload wire path form state).2 = sentState wire state ((service.uploading path form).map some) := by
  rw [upload, uploading]
  cases service.uploadUrl path with
  | error failure => rfl
  | ok url => exact service.post_state wire state url (formRequest form)

/-- A composition leaves what sending its request leaves. -/
theorem putParts_state :
    (service.putParts wire clock key composition state).2 =
      sentState wire state ((service.composing clock key composition).map some) := by
  rw [putParts, composing]
  cases manifestEntries 0 composition.parts with
  | error failure => rfl
  | ok entries =>
      cases service.uploadToken clock key with
      | error failure => rfl
      | ok token =>
          simp only [bind, Except.bind]
          cases manifest composition.parts entries with
          | error failure => rfl
          | ok text => exact service.upload_state wire state "/putparts" _

section Composing

variable {service clock key composition}

theorem upload_of_unmade {path : String} {form : Except Failure (List FormField)} {failure : Failure}
    (unmade : service.uploading path form = .error failure) :
    service.upload wire path form state = (.error failure, state) := by
  obtain unknown | ⟨url, located, unbuilt⟩ := Outcome.bind_eq_error_iff.mp unmade
  · rw [upload, unknown]
  · rw [upload_eq_post located, post, show address url >>= formRequest form = _ from unbuilt]
    rfl

/-- A composition whose request cannot be made fails and sends nothing. -/
theorem putParts_of_unmade {failure : Failure} (unmade : service.composing clock key composition = .error failure) :
    service.putParts wire clock key composition state = (.error failure, state) := by
  rw [putParts]
  obtain foreign | ⟨entries, described, rest⟩ := Outcome.bind_eq_error_iff.mp unmade
  · simp only [bind, Except.bind, foreign]
  · obtain undated | ⟨token, signed, rest⟩ := Outcome.bind_eq_error_iff.mp rest
    · simp only [bind, Except.bind, described, undated]
    · obtain unwritten | ⟨text, manifested, unmade⟩ := Outcome.bind_eq_error_iff.mp rest
      · simp only [bind, Except.bind, described, signed, unwritten]
      · simp only [bind, Except.bind, described, signed, manifested, pure, Except.pure]
        exact upload_of_unmade wire state unmade

/-- What a composition posts is a form that describes it and carries its files. -/
theorem posts_of_composing {request : Request} (made : service.composing clock key composition = .ok request) :
    ∃ fields, Sends key composition fields ∧
      service.Posts wire clock key composition state request.address fields := by
  have left := service.putParts_state wire.noting clock key composition (state, [])
  rw [made] at left
  obtain ⟨entries, described, rest⟩ := Outcome.bind_eq_ok_iff.mp made
  obtain ⟨token, signed, rest⟩ := Outcome.bind_eq_ok_iff.mp rest
  obtain ⟨text, manifested, rest⟩ := Outcome.bind_eq_ok_iff.mp rest
  obtain ⟨url, located, rest⟩ := Outcome.bind_eq_ok_iff.mp rest
  obtain ⟨found, read, built⟩ := Outcome.bind_eq_ok_iff.mp rest
  obtain ⟨fields, formed, rfl⟩ := Outcome.map_eq_ok_iff.mp built
  obtain ⟨files, carried, same⟩ := Outcome.bind_eq_ok_iff.mp formed
  obtain rfl := Except.ok.inj same
  refine ⟨_, ⟨token, entries, text, files, described, manifested, sendsFiles_of_partFiles described carried, rfl⟩, ?_⟩
  obtain ⟨later, sent⟩ := wire.send_noting _ state []
  obtain ⟨authorization, user⟩ := Request.withUser_eq _
  refine ⟨_, later, ?_, ?_, ?_, (congrArg Prod.snd left).trans sent, fun stays => ?_⟩
  · rw [user]
  · rw [user]
  · rw [user]
    rfl
  · exact List.cons.inj (sent.symm.trans (wire.send_noting_of_stays [] stays)) |>.2

/-- The request of a composition without foreign parts can be made where its receiver has an address and its token a
time, if its integers can be written and its sources read. -/
theorem exists_composing {found : Url.Address} (reached : service.uploadUrl "/putparts" >>= address = .ok found)
    {token : String} (signed : service.uploadToken clock key = .ok token)
    (admits : ∀ part ∈ composition.parts, Composition.Admits composition.sources part)
    (sound : ∀ source ∈ composition.sources, source.IsSound)
    (writable : ∀ part ∈ composition.parts, isWritable part = true) :
    ∃ request, service.composing clock key composition = .ok request ∧ request.address = found := by
  obtain ⟨values, described⟩ := exists_manifestEntries 0 admits
  obtain ⟨files, carried⟩ := exists_partFiles 0 composition.parts sound
  obtain ⟨url, located, read⟩ := Outcome.bind_eq_ok_iff.mp reached
  have written : manifest composition.parts values = .ok ((Json.array values).write Json.spaced) :=
    if_pos (List.all_eq_true.mpr writable)
  simp only [composing, uploading, formRequest, ofComposition, bind, Except.bind, described, signed, written, located,
    read, carried]
  exact ⟨_, rfl, rfl⟩

end Composing

end Service

/-- The content that a bucket has under a key. -/
def Bucket.content? (bucket : Bucket) (key : String) : Option Bytes := (bucket.find? key).map StoredObject.content

namespace Service

open UploadForm

variable {σ : Type}

/-- The form of a composition is posted where its receiver can be reached. The store in memory keeps just what this form
evaluates to, and fails just as the form does. -/
theorem putParts_stores_evaluated_form (service : Service) (wire : Wire σ) (sending storing : Clock) (key : String)
    {composition : Composition} (admits : ∀ part ∈ composition.parts, Composition.Admits composition.sources part)
    (state : σ) {store : Store} (unplanned : store.composeError = none) :
    (∀ found token, service.uploadUrl "/putparts" >>= address = .ok found →
      service.uploadToken sending key = .ok token → (∀ source ∈ composition.sources, source.IsSound) →
      (∀ part ∈ composition.parts, isWritable part = true) →
        ∃ fields, Sends key composition fields ∧ service.Posts wire sending key composition state found fields) ∧
      ((∃ failure, service.putParts wire sending key composition state = (.error failure, state)) ∨
        ∃ found fields, Sends key composition fields ∧
          service.Posts wire sending key composition state found fields) ∧
      ∀ fields, Sends key composition fields →
        (store.answer storing (.putParts key composition) =
          match evaluate store.bucket.content? fields with
          | .ok content => (.ok (), { store with bucket := store.bucket.put storing key content })
          | .error failure => (.error failure, store)) ∧
        ((∃ expected found, (store.answer storing (.putParts key composition)).1 =
          .error (Composition.shortPart expected found)) ↔ ComesToShortFile store.bucket.content? fields) := by
  refine ⟨fun found token reached signed sound writable => ?_, ?_, fun fields sends => ?_⟩
  · obtain ⟨request, made, rfl⟩ := exists_composing reached signed admits sound writable
    exact posts_of_composing wire state made
  · cases made : service.composing sending key composition with
    | error failure => exact .inl ⟨failure, putParts_of_unmade wire state made⟩
    | ok request => exact .inr ⟨request.address, posts_of_composing wire state made⟩
  have agree := sends.evaluate_eq store.bucket.content? admits
  have answered : store.answer storing (.putParts key composition) =
      match composition.evaluate store.bucket.content? with
      | .ok content => (.ok (), { store with bucket := store.bucket.put storing key content })
      | .error failure => (.error failure, store) := by
    obtain ⟨bucket, composeError⟩ := store
    obtain rfl : composeError = none := unplanned
    show (let (reply, changed) := bucket.answer storing (.putParts key composition); (reply, Store.mk changed none)) = _
    have found : (fun name => (bucket.find? name).map StoredObject.content) = bucket.content? := rfl
    rw [Bucket.answer, found]
    cases composition.evaluate bucket.content? <;> rfl
  rw [← evaluate_eq_shortPart_iff, agree]
  refine ⟨answered, ?_⟩
  rw [answered]
  cases composition.evaluate store.bucket.content? with
  | ok content => exact ⟨nofun, nofun⟩
  | error failure =>
      exact exists_congr fun expected => exists_congr fun found =>
        ⟨fun same => congrArg Except.error (Except.error.inj same), fun same =>
          congrArg Except.error (Except.error.inj same)⟩

section Sample

def sampleStore : Store := { bucket := Bucket.empty.insert "a" ⟨[10, 11, 12], 0⟩ }

/-- Parts that share a source of short pieces, among ranges of the object that they replace and what is left of a
file. -/
def sampleComposition : Composition where
  parts := [.range "a" 1 Part.toEnd, .bytes 0 2, .range "a" 0 1, .bytes 0 3, .bytes 1 2]
  sources := [.pieces [[1], [2, 3], [4, 5, 6]], .file [7, 8, 9] 1]

def sampleClock : Clock := ⟨.ofInt 0⟩

/-- A service that receives forms. -/
def receivingService : Service where
  bucket := "register"
  baseUrl := "http://cdn.example.com/"
  credentials := ⟨"ak", "sk"⟩
  hosts := ⟨"http://rs.qbox.me", "http://rsf.qbox.me", [.text "http://up.qbox.me/"]⟩
  defaultExpiry := 3600

def receivingAddress : Url.Address := ⟨"http", "", "up.qbox.me", none, "/putparts", none, none⟩

/-- A part that is longer than anything in memory. -/
def endlessComposition (source : Source) : Composition := ⟨[.bytes 0 (2 ^ 63)], [source]⟩

end Sample

/-- Parts that share a source are composed alike from the form that is posted and from the source. -/
theorem putParts_stores_form_of_shared_source :
    let wire : Wire Unit := .keeping fun _ state => (.ok { status := 200 }, state)
    ∃ fields, Sends "a" sampleComposition fields ∧
      receivingService.Posts wire sampleClock "a" sampleComposition () receivingAddress fields ∧
      evaluate sampleStore.bucket.content? fields = .ok [11, 12, 1, 2, 10, 3, 4, 5, 8, 9] := by
  intro wire
  have admits : ∀ part ∈ sampleComposition.parts, Composition.Admits sampleComposition.sources part := by
    have grants : (Source.file [7, 8, 9] 1).Grants 2 := Source.grants_of_lt_memoryLimit _ (by decide)
    simp only [sampleComposition, List.forall_mem_cons]
    exact ⟨⟨by decide, .inl rfl⟩, ⟨by decide, nofun⟩, ⟨by decide, .inr (by decide)⟩, ⟨by decide, nofun⟩,
      ⟨by decide, grants⟩, nofun⟩
  have sound : ∀ source ∈ sampleComposition.sources, source.IsSound := by
    simp only [sampleComposition, List.forall_mem_cons]
    exact ⟨trivial, trivial, nofun⟩
  have composed : (sampleStore.answer sampleClock (.putParts "a" sampleComposition)).2.bucket.content? "a" =
      some [11, 12, 1, 2, 10, 3, 4, 5, 8, 9] := by decide +kernel
  have held : sampleStore.bucket.content? "a" = some [10, 11, 12] := by decide
  have unplanned : sampleStore.composeError = none := rfl
  have reached : receivingService.uploadUrl "/putparts" >>= address = .ok receivingAddress :=
    Outcome.toOption_eq_some_iff.mp (by decide +kernel)
  obtain ⟨token, signed⟩ : ∃ token, receivingService.uploadToken sampleClock "a" = .ok token :=
    ⟨_, congrArg (Except.map _) (Outcome.toOption_eq_some_iff.mp (by decide +kernel) : sampleClock.seconds = .ok 0)⟩
  obtain ⟨posts, -, stores⟩ :=
    putParts_stores_evaluated_form receivingService wire sampleClock sampleClock "a" admits () unplanned
  obtain ⟨fields, sends, posted⟩ := posts receivingAddress token reached signed sound (by decide +kernel)
  have stored := (stores fields sends).1
  refine ⟨fields, sends, posted, ?_⟩
  cases evaluated : evaluate sampleStore.bucket.content? fields with
  | error failure =>
      rw [stored, evaluated, held] at composed
      exact absurd composed (by decide)
  | ok content =>
      rw [stored, evaluated] at composed
      have found : (sampleStore.bucket.put sampleClock "a" content).content? "a" = some content := by
        simp [Bucket.content?, Bucket.put]
      exact congrArg Except.ok (Option.some.inj (found.symm.trans composed))

/-- The form comes to a file that is too short, and the store fails in another way. -/
def DiffersFromForm (source : Source) : Prop :=
  ∃ fields, Sends "k" (endlessComposition source) fields ∧
    ComesToShortFile sampleStore.bucket.content? fields ∧
    (sampleStore.answer sampleClock (.putParts "k" (endlessComposition source))).1 = .error (.overflow .readSize)

theorem differsFromForm_of_reads {source : Source} {first last : Bounded}
    (given : (Bounded.mk source (2 ^ 63)).read 4 = (.ok [97, 98, 99], first)) (ended : first.read 4 = (.ok [], last))
    (refused : (sampleStore.answer sampleClock (.putParts "k" (endlessComposition source))).1 =
      .error (.overflow .readSize)) :
    DiffersFromForm source := by
  have file : (Bounded.mk source (2 ^ 63)).Sends [97, 98, 99] last :=
    Bounded.Sends.more (by decide) given (by decide) (.finished (by decide) ended)
  have writable : [Part.bytes 0 (2 ^ 63)].all isWritable = true := by decide +kernel
  have sends : Sends "k" (endlessComposition source) _ :=
    ⟨"", _, _, _, rfl, if_pos writable, .bytes file (.done _ _), rfl⟩
  exact ⟨_, sends, ⟨[], partName 0, 2 ^ 63, [], [97, 98, 99], sends.entries?_eq, nofun, rfl, by decide⟩, refused⟩

/-- Three bytes are too short a file for a length that no read may ask for, of memory or of a file, so that the store
fails in another way than by a part that is too short. -/
theorem putParts_differs_from_form :
    DiffersFromForm (.ofBytes [97, 98, 99]) ∧ DiffersFromForm (.file [97, 98, 99] 0) :=
  ⟨differsFromForm_of_reads rfl rfl rfl, differsFromForm_of_reads rfl rfl rfl⟩

end Service
end PathStore
