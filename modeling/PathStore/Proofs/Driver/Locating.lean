/-
This file shows that a signed URL tells its key. The key is written between the base and the query, in characters of
which none begins a query or a fragment, and reads back from there; so the URLs of different keys differ.
-/
import PathStore.Proofs.Driver.Downloading
import PathStore.Proofs.Path.Segments
import PathStore.Proofs.Root.Keys

namespace PathStore

namespace Url

/-- The characters in which keys are written: those of segments, the tilde, the slash and the mark of an escape. -/
def keyCharacters : String := Path.segmentCharacters ++ "~/%"

/-- What never needs an escape is a character of a segment or a tilde. -/
theorem isUnreserved_eq (character : Char) :
    isUnreserved character = (Path.isComponentCharacter character || character = '~') := by
  rw [Bool.eq_iff_iff]
  simp only [isUnreserved, isAlphanumeric, Path.isComponentCharacter, Bool.or_eq_true]
  grind

theorem mem_keyCharacters_iff (character : Char) :
    character ∈ keyCharacters.toList ↔ isKept (fun other => other = '/' || other = '%') character = true := by
  rw [keyCharacters, String.toList_append, List.mem_append, ← Path.isComponentCharacter_iff, isKept, isUnreserved_eq]
  simp [or_assoc]

/-- Keys are written in these characters alone. -/
theorem mem_keyCharacters_of_mem_escapeKey {key : String} {character : Char}
    (member : character ∈ (escapeKey key).toList) : character ∈ keyCharacters.toList := by
  rw [escapeKey, String.toList_ofList] at member
  exact (mem_keyCharacters_iff character).mpr
    (isKept_of_mem_escapeUnless (by decide) (fun slash same => by rw [same, Bool.true_or]) member)

theorem isBare_of_keyCharacters {component : List Char}
    (plain : ∀ character ∈ component, character ∈ keyCharacters.toList) : IsBare component := by
  intro character member
  have kept := (mem_keyCharacters_iff character).mp (plain character member)
  constructor
  · rintro rfl
    cases kept
  · rintro rfl
    cases kept

theorem unescape?_escapeKey (key : String) : unescape? (escapeKey key) = some key := by
  rw [unescape?, unescapeBytes?_escapeKey]
  exact Utf8.decode?_encode key

end Url

namespace Credentials

/-- Whether the signing of a URL appends the deadline and the token to it. -/
def Appends (credentials : Credentials) (url : String) (deadline : Int) : Prop :=
  credentials.privateUrl url deadline =
    .ok (dated url deadline ++ "&token=" ++ credentials.sign (dated url deadline))

/-- The deadline and the token are appended if the deadline can be written. -/
theorem appends_iff (credentials : Credentials) {url : String} {deadline : Int} :
    credentials.Appends url deadline ↔ isWritable deadline = true :=
  credentials.privateUrl_eq_ok_iff.trans (and_iff_left rfl)

end Credentials

namespace Service

/-- Whether a URL leads to a key until a deadline: it is the base, the key with escapes, the deadline, and the signature
of all this. -/
def LeadsTo (service : Service) (url key : String) (deadline : Int) : Prop :=
  ∃ written, (∀ character ∈ written.toList, character ∈ Url.keyCharacters.toList) ∧ Url.unescape? written = some key ∧
    let unsigned := service.baseUrl ++ written ++ "?e=" ++ toString deadline
    url = unsigned ++ "&token=" ++ service.credentials.sign unsigned

section LeadsTo

variable {service : Service} {url key : String} {deadline : Int} (bare : Url.IsBare service.baseUrl.toList)
include bare

/-- What a URL has before its first mark ends with the key, and the query behind it has the deadline and the signature
alone. -/
theorem LeadsTo.exists_split (leads : service.LeadsTo url key deadline) :
    ∃ written signature, Url.unescape? written = some key ∧
      Url.Reference.splitBefore (fun character => character = '?' || character = '#') url.toList =
        ((service.baseUrl ++ written).toList, ("?e=" ++ toString deadline ++ "&token=" ++ signature).toList) := by
  obtain ⟨written, plain, reads, rfl⟩ := leads
  refine ⟨written, service.credentials.sign (service.baseUrl ++ written ++ "?e=" ++ toString deadline), reads, ?_⟩
  have front : Url.IsBare (service.baseUrl ++ written).toList := by
    rw [String.toList_append]
    exact Url.isBare_append.mpr ⟨bare, Url.isBare_of_keyCharacters plain⟩
  generalize service.baseUrl ++ written = before at front ⊢
  have query : "?e=".toList = '?' :: "e=".toList := rfl
  simp only [String.toList_append, List.append_assoc, query, List.cons_append]
  exact Url.splitBefore_append before.toList front.not_mark (by decide) _

/-- A URL leads to one key at most. -/
theorem LeadsTo.key_eq {other : String} {otherDeadline : Int} (leads : service.LeadsTo url key deadline)
    (also : service.LeadsTo url other otherDeadline) : key = other := by
  obtain ⟨written, _, reads, split⟩ := leads.exists_split bare
  obtain ⟨otherWritten, _, otherReads, otherSplit⟩ := also.exists_split bare
  have fronts := (Prod.mk.inj (split.symm.trans otherSplit)).1
  rw [String.toList_append, String.toList_append] at fronts
  obtain rfl : written = otherWritten := String.ext (List.append_cancel_left fronts)
  exact Option.some.inj (reads.symm.trans otherReads)

/-- A URL that is given leads to the key. -/
theorem leadsTo_of_privateUrl {clock : Clock} {lifetime : Int}
    (signed : service.privateUrl clock key lifetime = .ok url) :
    ∃ now, clock.seconds = .ok now ∧ service.LeadsTo url key (now + lifetime) := by
  obtain ⟨now, reads, signed⟩ := Outcome.bind_eq_ok_iff.mp signed
  obtain ⟨-, rfl⟩ := service.credentials.privateUrl_eq_ok_iff.mp signed
  refine ⟨now, reads, Url.escapeKey key, fun _ => Url.mem_keyCharacters_of_mem_escapeKey,
    Url.unescape?_escapeKey key, ?_⟩
  have keyBare : Url.IsBare (Url.escapeKey key).toList :=
    Url.isBare_of_keyCharacters fun _ => Url.mem_keyCharacters_of_mem_escapeKey
  have noQuery : '?' ∉ (service.baseUrl ++ Url.escapeKey key).toList := by
    rw [String.toList_append, List.mem_append]
    rintro (inBase | inKey)
    · exact (bare '?' inBase).1 rfl
    · exact (keyBare '?' inKey).1 rfl
  have dated : Credentials.dated (service.baseUrl ++ Url.escapeKey key) (now + lifetime) =
      service.baseUrl ++ Url.escapeKey key ++ "?e=" ++ toString (now + lifetime) := by
    rw [Credentials.dated, if_neg (by rwa [List.contains_iff_mem]), show "?e=" = "?" ++ "e=" from rfl,
      ← String.append_assoc]
  rw [dated]

/-- A key has a URL that leads to it until the deadline that is appended. -/
theorem exists_leadsTo {clock : Clock} {now lifetime : Int} (reads : clock.seconds = .ok now)
    (appends : service.credentials.Appends (service.baseUrl ++ Url.escapeKey key) (now + lifetime)) :
    ∃ url, service.privateUrl clock key lifetime = .ok url ∧ service.LeadsTo url key (now + lifetime) := by
  obtain ⟨url, signed, -⟩ := service.exists_privateUrl reads (service.credentials.appends_iff.mp appends)
  obtain ⟨second, alsoReads, leads⟩ := leadsTo_of_privateUrl bare signed
  obtain rfl := Except.ok.inj (reads.symm.trans alsoReads)
  exact ⟨url, signed, leads⟩

end LeadsTo

theorem answer_sign {σ : Type} (service : Service) (wire : Wire σ) (clock : Clock) (key : String) (lifetime : Int)
    (state : σ) :
    service.answer wire clock (.sign key lifetime) state = (service.privateUrl clock key lifetime, state) := rfl

end Service

namespace Driver

/-- The methods that a signed URL serves. -/
def IsServed (method : Json) : Prop := method = .text "GET" ∨ method = .text "HEAD"

theorem checkMethod_of_isServed (driver : Driver) {method : Json} (served : IsServed method) :
    driver.checkMethod method = pure () := by
  obtain rfl | rfl := served <;> rfl

theorem checkMethod_of_not_isServed (driver : Driver) {method : Json} (other : ¬IsServed method) :
    driver.checkMethod method = .fail (.ofMethod driver.host method) := by
  rw [checkMethod]
  · exact fun get => other (.inl get)
  · exact fun head => other (.inr head)

variable {σ : Type}

/-- The URL that the driver gives for a path. -/
def givenUrl (driver : Driver) (service : Service) (wire : Wire σ) (clock : Clock) (path : String)
    (options : UrlOptions) (workspace : Workspace σ) : Except Failure String :=
  (Workspace.run (service.answer wire clock) (driver.urlFor clock path options) workspace).1

theorem run_sign (answer : (call : Call) → σ → Except Failure call.Reply × σ) (hasDirectory : Bool) (key : String)
    (lifetime : Int) (state : σ) :
    @Program.run String σ (Workspace.reply answer hasDirectory) (Program.call (.sign key lifetime)) state =
      answer (.sign key lifetime) state := rfl

/-- A URL is given for a path if it is to serve one of the methods, has a lifetime, and is the signed URL of the key. -/
theorem givenUrl_eq_ok_iff (driver : Driver) (service : Service) (wire : Wire σ) (clock : Clock) {path : String}
    (valid : Path.isValid path = true) (options : UrlOptions) (workspace : Workspace σ) {url : String} :
    driver.givenUrl service wire clock path options workspace = .ok url ↔
      IsServed options.method ∧ ∃ lifetime, driver.lifetime clock options.expiry = .ok lifetime ∧
        service.privateUrl clock (driver.root.keyFor path) lifetime = .ok url := by
  rw [givenUrl, (Workspace.run_alone _ _ _).1, urlFor, checkPath_of_isValid valid, pure_bind]
  by_cases served : IsServed options.method
  · rw [driver.checkMethod_of_isServed served, pure_bind, Program.run_bind, Program.run_ofExcept, and_iff_right served]
    cases driver.lifetime clock options.expiry with
    | error failure => simp
    | ok lifetime =>
        simp only [run_sign, Except.ok.injEq, exists_eq_left', Service.answer_sign]
  · rw [driver.checkMethod_of_not_isServed served, Program.run_bind]
    simp [served]

/-- On a base without a query and a fragment every key has a URL that leads to it until the deadline, where signing
appends the deadline and the token; the key stands before the first mark, behind which the deadline and the signature
are the whole query. So below every root all well-formed paths are given URLs, and different paths different ones. -/
theorem signed_urls_tell_keys (service : Service) (bare : Url.IsBare service.baseUrl.toList) (wire : Wire σ) :
    (∀ (clock : Clock) (now lifetime : Int) (key : String), clock.seconds = .ok now →
      service.credentials.Appends (service.baseUrl ++ Url.escapeKey key) (now + lifetime) →
      ∃ url, service.privateUrl clock key lifetime = .ok url ∧ service.LeadsTo url key (now + lifetime) ∧
        ∃ written signature, Url.unescape? written = some key ∧
          Url.Reference.splitBefore (fun character => character = '?' || character = '#') url.toList =
            ((service.baseUrl ++ written).toList,
              ("?e=" ++ toString (now + lifetime) ++ "&token=" ++ signature).toList)) ∧
    ∀ driver : Driver,
      (∀ (path : String) (clock : Clock) (now lifetime : Int) (options : UrlOptions) (workspace : Workspace σ),
        Path.isValid path = true → IsServed options.method → clock.seconds = .ok now →
        driver.lifetime clock options.expiry = .ok lifetime →
        service.credentials.Appends (service.baseUrl ++ Url.escapeKey (driver.root.keyFor path)) (now + lifetime) →
        ∃ url, driver.givenUrl service wire clock path options workspace = .ok url) ∧
      ∀ (path other : String) (clock otherClock : Clock) (options otherOptions : UrlOptions)
        (workspace otherWorkspace : Workspace σ) (url otherUrl : String),
        Path.isValid path = true → Path.isValid other = true → path ≠ other →
        driver.givenUrl service wire clock path options workspace = .ok url →
        driver.givenUrl service wire otherClock other otherOptions otherWorkspace = .ok otherUrl → url ≠ otherUrl := by
  refine ⟨fun clock now lifetime key reads appends => ?_, fun driver => ⟨?_, ?_⟩⟩
  · obtain ⟨url, signed, leads⟩ := Service.exists_leadsTo bare reads appends
    exact ⟨url, signed, leads, leads.exists_split bare⟩
  · intro path clock now lifetime options workspace valid served reads lives appends
    obtain ⟨url, signed, -⟩ := Service.exists_leadsTo bare reads appends
    exact ⟨url, (driver.givenUrl_eq_ok_iff service wire clock valid options workspace).mpr
      ⟨served, lifetime, lives, signed⟩⟩
  · intro path other clock otherClock options otherOptions workspace otherWorkspace url otherUrl valid otherValid differ
      given otherGiven same
    obtain ⟨-, lifetime, -, signed⟩ := (driver.givenUrl_eq_ok_iff service wire clock valid options workspace).mp given
    obtain ⟨-, otherLifetime, -, otherSigned⟩ :=
      (driver.givenUrl_eq_ok_iff service wire otherClock otherValid otherOptions otherWorkspace).mp otherGiven
    obtain ⟨now, -, leads⟩ := Service.leadsTo_of_privateUrl bare signed
    obtain ⟨otherNow, -, otherLeads⟩ := Service.leadsTo_of_privateUrl bare otherSigned
    have keys := leads.key_eq bare (same ▸ otherLeads)
    exact differ ((driver.root.keyFor_inj valid otherValid).mp keys)

/-- A key of letters, marks and blanks has a URL that leads to it, and below a root of such a name two paths have two
URLs. -/
theorem marked_key_is_told :
    let driver : Driver := ⟨.ofDirectory "/é ?#/", 10, 60, .standard⟩
    (∃ url, sampleService.privateUrl sampleClock "é ?#&%/~" 3600 = .ok url ∧
      sampleService.LeadsTo url "é ?#&%/~" 1700003600) ∧
    ∃ url otherUrl,
      driver.givenUrl sampleService sampleWire sampleClock "/a" {} { store := () } = .ok url ∧
      driver.givenUrl sampleService sampleWire sampleClock "/b" {} { store := () } = .ok otherUrl ∧ url ≠ otherUrl := by
  intro driver
  have now : sampleClock.seconds = .ok 1700000000 := Outcome.toOption_eq_some_iff.mp (by decide +kernel)
  have firstValid : Path.isValid "/a" = true := by decide
  have secondValid : Path.isValid "/b" = true := by decide
  obtain ⟨keys, paths⟩ := signed_urls_tell_keys sampleService isBase_sampleBase.isBare sampleWire
  obtain ⟨url, signed, leads, -⟩ :=
    keys sampleClock 1700000000 3600 "é ?#&%/~" now (sampleService.credentials.appends_iff.mpr (by decide +kernel))
  have appends (key : String) :
      sampleService.credentials.Appends (sampleService.baseUrl ++ Url.escapeKey key) (1700000000 + 60) :=
    sampleService.credentials.appends_iff.mpr (by decide +kernel)
  obtain ⟨given, differ⟩ := paths driver
  obtain ⟨first, firstGiven⟩ :=
    given "/a" sampleClock _ 60 {} { store := () } firstValid (.inl rfl) now rfl (appends _)
  obtain ⟨second, secondGiven⟩ :=
    given "/b" sampleClock _ 60 {} { store := () } secondValid (.inl rfl) now rfl (appends _)
  exact ⟨⟨url, signed, leads⟩, first, second, firstGiven, secondGiven,
    differ "/a" "/b" sampleClock sampleClock {} {} _ _ first second firstValid secondValid (by decide) firstGiven
      secondGiven⟩

end Driver
end PathStore
