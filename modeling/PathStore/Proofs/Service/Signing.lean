/-
This file tells what signed URLs are made of. Deadlines and signatures need no escapes, so that a signed URL reads as
the base with the key in its path, and with the deadline and the signature in its query.
-/
import PathStore.Proofs.Bytes.Decoding
import PathStore.Proofs.Url.Below
import PathStore.Service

namespace PathStore

open Url (isKept querySafe pathSafe escapeKey removeDots)

namespace Base64

theorem isUnreserved_digit (value : Nat) : Url.isUnreserved (digit value) = true := by
  by_cases inTable : value < 62
  · have table : ∀ value < 62, Url.isUnreserved (digit value) = true := by decide
    exact table value inTable
  · rw [digit, if_neg (by omega), if_neg (by omega), if_neg inTable]
    split <;> rfl

/-- The text of a byte string needs no escapes where its padding needs none. -/
theorem isKept_of_mem_encode {isSafe : Char → Bool} (padding : isSafe '=' = true) {bytes : Bytes} {character : Char}
    (member : character ∈ (encode bytes).toList) : isKept isSafe character = true := by
  obtain ⟨value, -, rfl⟩ | rfl := exists_digit_of_mem_encode member
  · rw [isKept, isUnreserved_digit, Bool.true_or]
  · rw [isKept, padding, Bool.or_true]

/-- Four characters are written for three bytes, also where one or two are missing. -/
theorem length_encode (bytes : Bytes) : (encode bytes).toList.length = 4 * ((bytes.length + 2) / 3) := by
  rw [encode, String.toList_ofList]
  fun_induction encodeBytes bytes with
  | case1 => rfl
  | case2 first a => simp
  | case3 first second a b => simp
  | case4 first second third rest a b c ih =>
      simp only [List.length_cons, ih]
      omega

end Base64

theorem Sha1.length_digest (message : Bytes) : (digest message).length = 20 := by
  simp [digest, bigEndian]

namespace Url

/-- A written integer needs no escapes in a query. -/
theorem isKept_of_mem_toString {number : Int} {character : Char} (member : character ∈ (toString number).toList) :
    isKept querySafe character = true := by
  have digits {magnitude : Nat} (inDigits : character ∈ magnitude.repr.toList) : isKept querySafe character = true := by
    rw [Nat.toList_repr] at inDigits
    have digit : character.isDigit = true := Nat.isDigit_of_mem_toDigits (by decide) (by decide) inDigits
    have unreserved : isUnreserved character = true := by
      have numeric : '0' ≤ character ∧ character ≤ '9' := by
        simpa [Char.isDigit, Char.le_def] using digit
      rw [isUnreserved, isAlphanumeric, decide_eq_true numeric]
      simp
    rw [isKept, unreserved, Bool.true_or]
  rw [Int.toString_eq_repr, Int.repr_eq_if] at member
  split at member
  · exact digits member
  · rw [String.toList_append, List.mem_append] at member
    obtain sign | inDigits := member
    · obtain rfl := List.mem_singleton.mp sign
      decide
    · exact digits inDigits

end Url

namespace Credentials

/-- The name of an account needs no escapes in a query. -/
def IsPlain (credentials : Credentials) : Prop :=
  ∀ character ∈ credentials.accessKey.toList, isKept querySafe character = true

instance (credentials : Credentials) : Decidable credentials.IsPlain := List.decidableBAll _ _

theorem isKept_of_mem_sign {credentials : Credentials} (plain : credentials.IsPlain) {text : String} {character : Char}
    (member : character ∈ (credentials.sign text).toList) : isKept querySafe character = true := by
  simp only [sign, String.toList_append, List.mem_append] at member
  obtain (inName | colon) | inCode := member
  · exact plain character inName
  · obtain rfl := List.mem_singleton.mp colon
    decide
  · exact Base64.isKept_of_mem_encode (by decide) inCode

/-- A URL is signed if its deadline can be written. -/
theorem privateUrl_eq_ok_iff (credentials : Credentials) {url signed : String} {deadline : Int} :
    credentials.privateUrl url deadline = .ok signed ↔
      isWritable deadline = true ∧
        dated url deadline ++ "&token=" ++ credentials.sign (dated url deadline) = signed := by
  rw [privateUrl]
  cases isWritable deadline with
  | false => exact ⟨nofun, nofun⟩
  | true => exact ⟨fun same => ⟨rfl, Except.ok.inj same⟩, fun same => congrArg Except.ok same.2⟩

/-- What is signed behind a URL without a query is a query that needs no escapes. -/
theorem exists_query_of_privateUrl {credentials : Credentials} (plain : credentials.IsPlain) {url signed : String}
    {deadline : Int} (noQuery : '?' ∉ url.toList) (same : credentials.privateUrl url deadline = .ok signed) :
    ∃ query, signed = url ++ "?" ++ query ∧ ∀ character ∈ query.toList, isKept querySafe character = true := by
  obtain ⟨-, rfl⟩ := credentials.privateUrl_eq_ok_iff.mp same
  refine ⟨"e=" ++ toString deadline ++ "&token=" ++ credentials.sign (dated url deadline), ?_, ?_⟩
  · have first : dated url deadline = url ++ "?" ++ "e=" ++ toString deadline := by
      rw [dated, if_neg (by rwa [List.contains_iff_mem])]
    conv => lhs; lhs; lhs; rw [first]
    simp only [String.append_assoc]
  · intro character member
    simp only [String.toList_append, List.mem_append] at member
    have fixed : ∀ character ∈ "e=".toList ++ "&token=".toList, isKept querySafe character = true :=
      List.all_eq_true.mp (by decide)
    obtain ((inField | inDeadline) | inToken) | inSignature := member
    · exact fixed character (List.mem_append_left _ inField)
    · exact Url.isKept_of_mem_toString inDeadline
    · exact fixed character (List.mem_append_right _ inToken)
    · exact isKept_of_mem_sign plain inSignature

theorem isAscii_of_mem_sign {credentials : Credentials} (plain : credentials.IsPlain) {text : String}
    {character : Char} (member : character ∈ (credentials.sign text).toList) : character.toNat < 0x80 := by
  have bounds := Url.bounds_of_isKept (isKept_of_mem_sign plain member)
  omega

/-- A signature is as long as any other of its account. -/
theorem length_sign (credentials : Credentials) (text : String) :
    (credentials.sign text).toList.length = credentials.accessKey.toList.length + 29 := by
  rw [sign, String.toList_append, List.length_append, String.toList_append, List.length_append, Base64.length_encode,
    KeyedDigest.code, Sha1.length_digest]
  rfl

end Credentials

namespace Service

variable {σ : Type}

/-- With keys written in plain characters every URL that has a text to be signed can be asked for. -/
theorem signedRequest_of_isPlain {service : Service} (plain : service.credentials.IsPlain) {url text : String}
    (spelled : Credentials.requestText url = .ok text) (found : Url.Address) :
    service.credentials.authorization url = .ok ("QBox " ++ service.credentials.sign text) ∧
      signedRequest ("QBox " ++ service.credentials.sign text) found = .ok
        { method := .post, address := found, authorization := some ("QBox " ++ service.credentials.sign text)
          contentType := some .urlEncoded } := by
  constructor
  · rw [Credentials.authorization, spelled]
    rfl
  · refine if_pos (List.all_eq_true.mpr fun character member => decide_eq_true ?_)
    rw [String.toList_append, List.mem_append] at member
    obtain inName | inSignature := member
    · have fixed : "QBox ".toList.all (·.toNat < 0x80) = true := by decide
      exact of_decide_eq_true (List.all_eq_true.mp fixed character inName)
    · exact Credentials.isAscii_of_mem_sign plain inSignature

/-- The success that a signed request brings gives the value in its body. -/
theorem manage_of_success {service : Service} (plain : service.credentials.IsPlain) {wire : Wire σ} {url text : String}
    (spelled : Credentials.requestText url = .ok text) {found : Url.Address} (located : address url = .ok found)
    {state after : σ} {response : Response} {content : Bytes}
    (carried : wire.send
        { method := .post, address := found, authorization := some ("QBox " ++ service.credentials.sign text)
          contentType := some .urlEncoded } state = (.ok response, after))
    (whole : response.content = .ok content) (success : response.isSuccess = true) :
    service.manage wire (.ok url) state =
      (Answer.value service.platform.nesting response.status content, after) := by
  obtain ⟨authorized, signed⟩ := signedRequest_of_isPlain plain spelled found
  rw [manage]
  simp only [bind, Except.bind, pure, Except.pure, authorized]
  rw [post, located, show Except.ok found >>= signedRequest _ = _ from signed]
  dsimp only
  rw [carried]
  dsimp only
  rw [whole]
  dsimp only
  rw [if_pos success]

/-- A key is signed in a URL that is longer by the name of the account and thirty-six characters. -/
theorem exists_privateUrl (service : Service) {clock : Clock} {key : String} {now lifetime : Int}
    (read : clock.seconds = .ok now) (writable : Credentials.isWritable (now + lifetime) = true) :
    ∃ url, service.privateUrl clock key lifetime = .ok url ∧
      url.toList.length =
        (Credentials.dated (service.baseUrl ++ escapeKey key) (now + lifetime)).toList.length +
          service.credentials.accessKey.toList.length + 36 := by
  have unsigned : service.privateUrl clock key lifetime =
      service.credentials.privateUrl (service.baseUrl ++ escapeKey key) (now + lifetime) := by
    rw [privateUrl, read]
    rfl
  generalize service.baseUrl ++ escapeKey key = url at unsigned ⊢
  refine ⟨_, unsigned.trans (service.credentials.privateUrl_eq_ok_iff.mpr ⟨writable, rfl⟩), ?_⟩
  rw [String.toList_append, List.length_append, String.toList_append, List.length_append, Credentials.length_sign,
    show "&token=".toList.length = 7 from rfl]
  omega

/-- A text that is too long is no URL. -/
theorem address_of_long {url : String} (long : Url.longestUrl < url.toList.length) :
    ∃ failure, address url = .error failure := by
  rw [address, Url.Address.read, if_pos long]
  exact ⟨_, rfl⟩

/-- What is asked for below a base that needs no more escapes is at the base with the text in its path. -/
theorem address_below {base : Url.Address} {text component : String} {query : Option String}
    (isBase : base.IsBase text) (kept : ∀ character ∈ component.toList, isKept pathSafe character = true)
    (queryKept : ∀ written ∈ query, ∀ character ∈ written.toList, isKept querySafe character = true)
    (short : (text ++ component ++ query.elim "" ("?" ++ ·)).toList.length ≤ Url.longestUrl) :
    address (text ++ component ++ query.elim "" ("?" ++ ·)) =
      .ok { base with path := String.ofList (removeDots (base.path ++ component).toList), query } := by
  rw [address, isBase.read_below kept queryKept short]
  have stays (path : String) : ({ base with path, query } : Url.Address).rooted = .ok { base with path, query } :=
    if_pos isBase.absolute
  have named (path : String) : Request.checkHost { base with path, query } = .ok () := if_pos isBase.plainHost
  simp only [Except.mapError, bind, Except.bind, stays, named]
  rfl

/-- The signed URL of a key is a base with the key in its path, where dot segments are removed and so is what they name;
it is written as it was signed exactly if there are none. -/
theorem address_privateUrl {service : Service} {base : Url.Address} (isBase : base.IsBase service.baseUrl)
    (plain : service.credentials.IsPlain) {clock : Clock} {key url : String} {lifetime : Int}
    (signed : service.privateUrl clock key lifetime = .ok url) (short : url.toList.length ≤ Url.longestUrl) :
    ∃ query, url = service.baseUrl ++ escapeKey key ++ "?" ++ query ∧
      address url = .ok { base with
        path := String.ofList (removeDots (base.path ++ escapeKey key).toList)
        query := some query } := by
  obtain ⟨now, -, signed⟩ := Outcome.bind_eq_ok_iff.mp signed
  have keyKept : ∀ character ∈ (escapeKey key).toList, isKept pathSafe character = true :=
    fun character => Url.isKept_of_mem_escapeKey
  have noQuery : '?' ∉ (service.baseUrl ++ escapeKey key).toList := by
    rw [String.toList_append, List.mem_append]
    rintro (inBase | inKey)
    · exact (isBase.isBare '?' inBase).1 rfl
    · exact absurd (keyKept '?' inKey) (by decide)
  obtain ⟨query, rfl, queryKept⟩ := Credentials.exists_query_of_privateUrl plain noQuery signed
  refine ⟨query, rfl, ?_⟩
  have kept : ∀ written ∈ some query, ∀ character ∈ written.toList, isKept querySafe character = true :=
    fun written same => Option.some.inj same ▸ queryKept
  rw [String.append_assoc] at short ⊢
  have located := address_below isBase keyKept kept short
  rwa [Option.elim_some] at located

end Service
end PathStore
