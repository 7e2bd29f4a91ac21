/-
This file shows what the managing and listing services are asked by. On the hosts of a zone each request is a post whose
address reads as the order with exactly the given texts, and it is signed for what stands in its first line.
-/
import PathStore.Proofs.Service.Managing
import PathStore.Proofs.Service.Order

namespace PathStore

namespace Credentials

/-- A token is written in ASCII if the name of its account is. -/
theorem isAscii_token_iff (credentials : Credentials) (text : String) :
    (("QBox " ++ credentials.sign text).toList.all (·.toNat < 0x80)) = true ↔
      ∀ character ∈ credentials.accessKey.toList, character.toNat < 0x80 := by
  have code : ∀ character ∈ (Base64.encode (KeyedDigest.code (Utf8.encode credentials.secretKey)
      (Utf8.encode text))).toList, character.toNat < 0x80 := by
    intro character member
    have kept : Url.isKept Url.querySafe character = true := Base64.isKept_of_mem_encode (by decide) member
    have bounds := Url.bounds_of_isKept kept
    omega
  have fixed : ∀ character ∈ "QBox ".toList ++ ":".toList, character.toNat < 0x80 := by simp
  rw [List.all_eq_true]
  constructor
  · intro ascii character member
    refine of_decide_eq_true (ascii character ?_)
    simp only [sign, String.toList_append, List.mem_append]
    exact .inr (.inl (.inl member))
  · intro ascii character member
    rw [decide_eq_true_eq]
    simp only [sign, String.toList_append, List.mem_append] at member
    obtain inKind | (inName | inColon) | inCode := member
    · exact fixed character (List.mem_append_left _ inKind)
    · exact ascii character inName
    · exact fixed character (List.mem_append_right _ inColon)
    · exact code character inCode

end Credentials

namespace Management

/-- The marker as text; nothing for one that counts as absent. -/
def marking (marker : PathStore.Reply) : String :=
  if marker.isTruthy then marker.display.whole?.getD "" else ""

/-- A text marks a page as it is. -/
@[simp] theorem marking_text (text : String) : marking (.text text) = text := by
  by_cases empty : text = ""
  · simp [marking, empty]
  · simp [marking, empty, Json.display, LooseText.whole?]

/-- The order that stands for what is asked of a bucket; of the fields of a page those that are empty are left out. -/
def order (bucket : String) : Management → Order
  | .stat key => .stat (bucket ++ ":" ++ key)
  | .delete key => .delete (bucket ++ ":" ++ key)
  | .move source target force => .move (bucket ++ ":" ++ source) (bucket ++ ":" ++ target) force
  | .list query => .list (("bucket", bucket) :: ("limit", toString query.limit) ::
      [("marker", marking query.marker), ("prefix", query.stem), ("delimiter", query.delimiter)].filter (·.2 ≠ ""))

/-- Whether the URL of what is asked can be written: a marker has no lone halves, and a limit no more digits than are
written. -/
def IsWritten : Management → Prop
  | .list query =>
      Credentials.isWritable query.limit = true ∧ (query.marker.isTruthy = true → query.marker.display.whole?.isSome)
  | _ => True

/-- Whether a service can be asked: the URL can be written and is not too long, and the account is named in ASCII. -/
structure IsSendable (asked : Management) (service : Service) : Prop where
  written : asked.IsWritten
  short : (asked.order service.bucket).url.toList.length ≤ Url.longestUrl
  ascii : ∀ character ∈ service.credentials.accessKey.toList, character.toNat < 0x80

theorem markerText_eq_ok_iff {marker : PathStore.Reply} {text : String} :
    Service.markerText marker = .ok text ↔
      (marker.isTruthy = true → marker.display.whole?.isSome) ∧ marking marker = text := by
  rw [Service.markerText, marking]
  cases marker.isTruthy with
  | false => simp
  | true => cases marker.display.whole? <;> simp

end Management

namespace Service

section Url

variable {service : Service}

section Managed

variable (management : service.hosts.management = "http://" ++ "rs.qbox.me")
include management

/-- The URL of a word and one name. -/
theorem namedUrl_eq (word key : String) :
    service.hosts.management ++ ("/" ++ word ++ "/") ++ service.entry key =
      "http://" ++ "rs.qbox.me" ++ ("/" ++ "/".intercalate [word, Order.writeName (service.bucket ++ ":" ++ key)] ++
        "") := by
  rw [management, String.intercalate_cons_cons, String.intercalate_singleton, entry, Order.writeName]
  simp only [String.append_assoc, String.append_empty]

theorem moveUrl_eq (source target : String) (force : Bool) :
    service.moveUrl source target force =
      (Order.move (service.bucket ++ ":" ++ source) (service.bucket ++ ":" ++ target) force).url := by
  have spelled (first second : String) : service.hosts.management ++ "/move/" ++ first ++ "/" ++ second ++
      (if force then "/force/true" else "") = "http://" ++ "rs.qbox.me" ++
        ("/" ++ "/".intercalate (["move", first, second] ++ if force then ["force", "true"] else []) ++ "") := by
    rw [management, show "/move/" = "/" ++ ("move" ++ "/") from rfl]
    cases force with
    | false =>
        show _ ++ "" = "http://" ++ "rs.qbox.me" ++ ("/" ++ "/".intercalate ["move", first, second] ++ "")
        simp only [String.intercalate_cons_cons, String.intercalate_singleton, String.append_assoc, String.append_empty]
    | true =>
        show _ ++ ("/" ++ ("force" ++ ("/" ++ "true"))) = "http://" ++ "rs.qbox.me" ++
          ("/" ++ "/".intercalate ["move", first, second, "force", "true"] ++ "")
        simp only [String.intercalate_cons_cons, String.intercalate_singleton, String.append_assoc, String.append_empty]
  exact spelled _ _

end Managed

theorem listUrl_eq_ok_iff (listing : service.hosts.listing = "http://" ++ "rsf.qbox.me") (query : ListQuery)
    {url : String} :
    service.listUrl query = .ok url ↔
      (Management.list query).IsWritten ∧ ((Management.list query).order service.bucket).url = url := by
  have spelled (marker : String) :
      service.hosts.listing ++ "/list?" ++ Url.writeQuery (service.listFields query marker) =
        (Order.list (service.listFields query marker)).url := by
    show _ = "http://" ++ "rsf.qbox.me" ++ ("/" ++ "/".intercalate ["list"] ++ ("?" ++ Url.writeQuery _))
    rw [listing, String.intercalate_singleton, show "/list?" = "/" ++ ("list" ++ "?") from rfl]
    simp only [String.append_assoc]
  rw [Management.IsWritten, Management.order, listUrl]
  cases Credentials.isWritable query.limit with
  | false => exact ⟨nofun, fun both => absurd both.1.1 Bool.false_ne_true⟩
  | true =>
      simp only [Bool.not_true, Bool.false_eq_true, if_false, true_and]
      rw [Outcome.bind_eq_ok_iff]
      simp only [Management.markerText_eq_ok_iff, spelled]
      constructor
      · rintro ⟨_, ⟨whole, rfl⟩, same⟩
        exact ⟨whole, Except.ok.inj same⟩
      · rintro ⟨whole, same⟩
        exact ⟨_, ⟨whole, rfl⟩, congrArg Except.ok same⟩

end Url
end Service

namespace Management

/-- On the hosts of a zone the URL that is asked for is that of the order, if it can be written. -/
theorem url_eq_ok_iff {service : Service} {zone : Int} {hosts : Hosts} (known : Hosts.ofZone? zone = some hosts)
    (placed : service.hosts = hosts) (asked : Management) {url : String} :
    asked.url service = .ok url ↔ asked.IsWritten ∧ (asked.order service.bucket).url = url := by
  obtain ⟨management, listing⟩ : service.hosts.management = "http://" ++ "rs.qbox.me" ∧
      service.hosts.listing = "http://" ++ "rsf.qbox.me" := by
    rw [placed]
    rw [Hosts.ofZone?] at known
    split at known
    · exact Option.some.inj known ▸ ⟨rfl, rfl⟩
    · split at known
      · exact Option.some.inj known ▸ ⟨rfl, rfl⟩
      · cases known
  have whole {first second : String} (same : first = second) :
      (.ok first : Except Failure String) = .ok url ↔ True ∧ second = url := by
    rw [same, Except.ok.injEq, true_and]
  cases asked with
  | stat key => exact whole (Service.namedUrl_eq management "stat" key)
  | delete key => exact whole (Service.namedUrl_eq management "delete" key)
  | move source target force => exact whole (Service.moveUrl_eq management source target force)
  | list query => exact Service.listUrl_eq_ok_iff listing query

end Management

namespace Service

/-- The signed post for an order. -/
def ordering (credentials : Credentials) (order : Order) : Request where
  method := .post
  address := order.address
  authorization := some ("QBox " ++ credentials.sign (order.address.target ++ "\n"))
  contentType := some .urlEncoded

theorem authorization_url (credentials : Credentials) {order : Order} (filled : order.query ≠ some "") :
    credentials.authorization order.url = .ok ("QBox " ++ credentials.sign (order.address.target ++ "\n")) := by
  rw [Credentials.authorization, Order.requestText_url filled]
  rfl

/-- The post for an order of a user that no URL names goes out as it is. -/
theorem withUser_ordering (credentials : Credentials) (order : Order) :
    (ordering credentials order).withUser = ordering credentials order := by
  have user : (ordering credentials order).user = ("", "") := by
    rw [Request.user, show (ordering credentials order).address.userInfo = "" from rfl]
    decide
  rw [Request.withUser, user]
  rfl

section Asked

variable {service : Service} {zone : Int} {hosts : Hosts} (known : Hosts.ofZone? zone = some hosts)
  (placed : service.hosts = hosts) {asked : Management}
include known placed

/-- The request for what is asked is the signed post for its order, if it can be sent. -/
theorem managing_eq_ok_iff {request : Request} :
    service.managing (asked.url service) = .ok request ↔
      asked.IsSendable service ∧ ordering service.credentials (asked.order service.bucket) = request := by
  have filled : (asked.order service.bucket).query ≠ some "" := by
    cases asked with
    | list query => exact fun same => Url.writeQuery_ne_empty (List.cons_ne_nil _ _) (Option.some.inj same)
    | _ => nofun
  have authorized := authorization_url service.credentials filled
  constructor
  · intro made
    obtain ⟨url, written, rest⟩ := Outcome.bind_eq_ok_iff.mp made
    obtain ⟨isWritten, rfl⟩ := (asked.url_eq_ok_iff known placed).mp written
    obtain ⟨authorization, same, built⟩ := Outcome.bind_eq_ok_iff.mp rest
    obtain rfl := Except.ok.inj (authorized.symm.trans same)
    obtain ⟨found, located, signed⟩ := Outcome.bind_eq_ok_iff.mp built
    have short : (asked.order service.bucket).url.toList.length ≤ Url.longestUrl := by
      by_contra long
      obtain ⟨failure, refused⟩ := address_of_long (Nat.not_le.mp long)
      cases refused.symm.trans located
    obtain rfl := Except.ok.inj ((Order.address_url short).symm.trans located)
    rw [signedRequest] at signed
    split at signed
    · rename_i ascii
      exact ⟨⟨isWritten, short, (Credentials.isAscii_token_iff _ _).mp ascii⟩, Except.ok.inj signed⟩
    · cases signed
  · rintro ⟨sendable, rfl⟩
    have written := (asked.url_eq_ok_iff known placed).mpr ⟨sendable.written, rfl⟩
    have signed (order : Order) : signedRequest ("QBox " ++ service.credentials.sign (order.address.target ++ "\n"))
        order.address = .ok (ordering service.credentials order) :=
      if_pos ((Credentials.isAscii_token_iff _ _).mpr sendable.ascii)
    rw [managing, written]
    simp only [bind, Except.bind, authorized, Order.address_url sendable.short, signed]

end Asked

/-- On the hosts of a zone what can be sent goes out as a post under the URL that is asked for. Its address reads as the
order, with exactly the texts that are asked about and in their order, and its token signs what the address asks its
host for. Only redirections by the host follow it. What cannot be sent sends nothing. -/
theorem request_reads_as_order {σ : Type} (service : Service) {zone : Int} {hosts : Hosts}
    (known : Hosts.ofZone? zone = some hosts) (placed : service.hosts = hosts) (wire : Wire σ) (asked : Management)
    (state : σ) (sent : List Request) :
    let noted := (service.carryOut wire.noting asked (state, sent)).2.2
    (asked.IsSendable service → ∃ request later, noted = sent ++ request :: later ∧ request.method = .post ∧
      request.body = .empty ∧ asked.url service = .ok request.address.write ∧
      Order.read? request.address = some (asked.order service.bucket) ∧
      request.authorization = some ("QBox " ++ service.credentials.sign (request.address.target ++ "\n")) ∧
      ((∀ response, (wire request state).1 = .ok response → response.location? = none) → later = [])) ∧
    (¬asked.IsSendable service → noted = sent) := by
  intro noted
  have left : noted = (sentState wire.noting (state, sent)
      ((service.managing (asked.url service)).map some)).2 := congrArg Prod.snd (service.carryOut_state ..)
  constructor
  · intro sendable
    have made := (managing_eq_ok_iff known placed).mpr ⟨sendable, rfl⟩
    obtain ⟨later, same⟩ := wire.send_noting (ordering service.credentials (asked.order service.bucket)) state sent
    have alone :=
      @Wire.send_noting_of_stays σ wire (ordering service.credentials (asked.order service.bucket)) state sent
    rw [withUser_ordering] at same alone
    rw [made] at left
    have written := (asked.url_eq_ok_iff known placed).mpr ⟨sendable.written, (Order.write_address _).symm⟩
    refine ⟨_, later, left.trans same, rfl, rfl, written, Order.read?_address _, rfl, fun stays => ?_⟩
    exact (List.cons.inj (List.append_cancel_left (same.symm.trans (alone stays)))).2
  · intro unsendable
    cases made : service.managing (asked.url service) with
    | ok request => exact absurd ((managing_eq_ok_iff known placed).mp made).1 unsendable
    | error failure =>
        rw [made] at left
        exact left

section Sample

/-- A service on the hosts of the second zone. -/
def zonedService : Service where
  bucket := "registry"
  baseUrl := "http://cdn.example.com/"
  credentials := ⟨"test-ak", "test-sk"⟩
  hosts := ⟨"http://rs.qbox.me", "http://rsf.qbox.me",
    [.text "http://up-z1.qiniu.com", .text "http://upload-z1.qiniu.com"]⟩
  defaultExpiry := 3600

/-- A page of keys below a stem with an accent, a space, a plus sign and marks that separate fields. -/
def markedPage : Management := .list { stem := "é +&=%/", delimiter := "/", marker := .text "?😀", limit := 10 }

theorem isSendable_markedPage : markedPage.IsSendable zonedService where
  written := ⟨by decide +kernel, fun _ => rfl⟩
  short := by decide +kernel
  ascii := by simp [zonedService]

end Sample

/-- A page is asked for by its bucket, its limit, its marker, its stem and its delimiter. -/
theorem page_reads_as_its_fields :
    ∃ request later,
      (zonedService.carryOut (Wire.keeping fun _ (state : Unit) => (.ok { status := 200 }, state)).noting markedPage
        ((), [])).2.2 = [] ++ request :: later ∧
      Order.read? request.address = some (.list [("bucket", "registry"), ("limit", "10"), ("marker", "?😀"),
        ("prefix", "é +&=%/"), ("delimiter", "/")]) := by
  obtain ⟨request, later, noted, -, -, -, read, -, -⟩ := (request_reads_as_order zonedService
    (by rfl : Hosts.ofZone? 1 = some zonedService.hosts) rfl _ markedPage () []).1 isSendable_markedPage
  refine ⟨request, later, noted, read.trans ?_⟩
  decide +kernel

end Service
end PathStore
