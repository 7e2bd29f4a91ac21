/-
This file writes an order to the managing and listing services as an address and reads it back. Names stand in the path
in base64, and the fields of a page in the query as a form. Whatever text they hold, the address reads as the order.
-/
import PathStore.Proofs.Service.Signing
import PathStore.Proofs.Url.Forms
import PathStore.Proofs.Url.Splitting

namespace PathStore

namespace Text

/-- What is joined by separators is split into the pieces, if none of them holds the separator. -/
theorem split_intercalate {pieces : List String} (filled : pieces ≠ [])
    (bare : ∀ piece ∈ pieces, '/' ∉ piece.toList) : split '/' ("/".intercalate pieces) = pieces := by
  have lists : ∀ piece ∈ pieces.map String.toList, '/' ∉ piece := fun piece among => by
    obtain ⟨text, member, rfl⟩ := List.mem_map.mp among
    exact bare text member
  have whole : splitList '/' (['/'].intercalate (pieces.map String.toList)) = pieces.map String.toList :=
    splitList_intercalate (mt List.map_eq_nil_iff.mp filled) lists
  rw [split, String.toList_intercalate, show "/".toList = ['/'] from rfl, whole, List.map_map]
  exact (List.map_congr_left fun piece _ => String.ofList_toList).trans (List.map_id _)

end Text

/-- What the managing service and the listing service are asked for, with the texts that the request stands for. -/
inductive Order where
  | stat (name : String)
  | delete (name : String)
  | move (source target : String) (force : Bool)
  | list (fields : List (String × String))
  deriving DecidableEq

/-- What a request asks the host of its URL for, as it stands in its first line. -/
def Url.Address.target (address : Url.Address) : String := address.path ++ address.query.elim "" ("?" ++ ·)

theorem Url.Address.toList_target (address : Url.Address) :
    address.target.toList = address.path.toList ++ Url.marked (address.query.map String.toList) := by
  rw [target, String.toList_append, Url.toList_elim_mark]

namespace Order

def writeName (name : String) : String := Base64.encode (Utf8.encode name)

def readName? (segment : String) : Option String := (Base64.decode? segment).bind Utf8.decode?

/-- The order that a service reads in the address of a request. -/
def read? (address : Url.Address) : Option Order :=
  match Text.split '/' address.path, address.query with
  | ["", "stat", name], none => (readName? name).map stat
  | ["", "delete", name], none => (readName? name).map delete
  | ["", "move", source, target], none => do return move (← readName? source) (← readName? target) false
  | ["", "move", source, target, "force", "true"], none => do
      return move (← readName? source) (← readName? target) true
  | ["", "list"], some query => (Url.readQuery? query).map list
  | _, _ => none

/-- The texts that an order holds. -/
def texts : Order → List String
  | stat name | delete name => [name]
  | move source target _ => [source, target]
  | list fields => fields.map Prod.snd

def hostName : Order → String
  | list _ => "rsf.qbox.me"
  | _ => "rs.qbox.me"

/-- The segments of the path below the root. -/
def segments : Order → List String
  | stat name => ["stat", writeName name]
  | delete name => ["delete", writeName name]
  | move source target force => ["move", writeName source, writeName target] ++ if force then ["force", "true"] else []
  | list _ => ["list"]

def query : Order → Option String
  | list fields => some (Url.writeQuery fields)
  | _ => none

/-- The address that is written for an order. -/
def address (order : Order) : Url.Address :=
  ⟨"http", "", order.hostName, none, "/" ++ "/".intercalate order.segments, order.query, none⟩

/-- The URL that is written for an order. -/
def url (order : Order) : String := "http://" ++ order.hostName ++ order.address.target

theorem hostName_mem (order : Order) : order.hostName ∈ ["rs.qbox.me", "rsf.qbox.me"] := by
  cases order with
  | list fields => exact List.mem_cons_of_mem _ List.mem_cons_self
  | _ => exact List.mem_cons_self

theorem readName?_writeName (name : String) : readName? (writeName name) = some name := by
  rw [readName?, writeName, Base64.decode?_encode]
  exact Utf8.decode?_encode name

/-- The characters of a segment: letters, digits and the padding of base64. -/
def isPlain (character : Char) : Bool := (Url.isUnreserved character && character ≠ '.') || character = '='

theorem isPlain_of_mem_writeName {name : String} {character : Char} (member : character ∈ (writeName name).toList) :
    isPlain character = true := by
  have digits : ∀ value < 64, isPlain (Base64.digit value) = true := by decide
  obtain ⟨value, small, rfl⟩ | rfl := Base64.exists_digit_of_mem_encode member
  · exact digits value small
  · decide

variable {order : Order}

theorem isPlain_of_mem_segment {segment : String} (among : segment ∈ order.segments) {character : Char}
    (member : character ∈ segment.toList) : isPlain character = true := by
  have fixed : ["stat", "delete", "move", "list", "force", "true"].all (·.toList.all isPlain) = true := by decide
  have either : segment ∈ ["stat", "delete", "move", "list", "force", "true"] ∨ ∃ name, segment = writeName name := by
    cases order with
    | stat name | delete name =>
        obtain rfl | rfl := List.mem_pair.mp among
        · exact .inl (by decide)
        · exact .inr ⟨name, rfl⟩
    | move source target force =>
        obtain fixed | forced := List.mem_append.mp among
        · simp only [List.mem_cons, List.not_mem_nil, or_false] at fixed
          obtain rfl | rfl | rfl := fixed
          · exact .inl (by decide)
          · exact .inr ⟨source, rfl⟩
          · exact .inr ⟨target, rfl⟩
        · cases force with
          | false => cases forced
          | true => exact .inl (List.mem_append_right ["stat", "delete", "move", "list"] forced)
    | list fields =>
        obtain rfl := List.mem_singleton.mp among
        exact .inl (by decide)
  obtain word | ⟨name, rfl⟩ := either
  · exact List.all_eq_true.mp (List.all_eq_true.mp fixed segment word) character member
  · exact isPlain_of_mem_writeName member

theorem segments_ne_nil (order : Order) : order.segments ≠ [] := by cases order <;> exact List.cons_ne_nil _ _

/-- An address that is written for an order reads as the order. -/
theorem read?_address (order : Order) : read? order.address = some order := by
  have bare : ∀ segment ∈ "" :: order.segments, '/' ∉ segment.toList := by
    refine List.forall_mem_cons.mpr ⟨by decide, fun segment among member => ?_⟩
    exact absurd (isPlain_of_mem_segment among member) (by decide)
  have rooted : order.address.path = "/".intercalate ("" :: order.segments) := by
    rw [String.intercalate_cons_of_ne_nil order.segments_ne_nil, String.empty_append]
    rfl
  rw [read?, rooted, Text.split_intercalate (List.cons_ne_nil _ _) bare]
  cases order with
  | stat name => exact congrArg (Option.map stat) (readName?_writeName name)
  | delete name => exact congrArg (Option.map delete) (readName?_writeName name)
  | move source target force =>
      have named (held : Bool) :
          (do return move (← readName? (writeName source)) (← readName? (writeName target)) held) =
            some (move source target held) := by
        rw [readName?_writeName, readName?_writeName]
        rfl
      cases force <;> exact named _
  | list fields => exact congrArg (Option.map list) (Url.readQuery?_writeQuery fields)

section Written

theorem address_path (order : Order) : order.address.path = "/" ++ "/".intercalate order.segments := rfl

/-- The characters of a path are its slashes and those of its segments. -/
theorem isPlain_of_mem_path {character : Char} (member : character ∈ order.address.path.toList) :
    character = '/' ∨ isPlain character = true := by
  rw [address_path, String.toList_append, String.toList_intercalate, List.mem_append] at member
  obtain root | below := member
  · exact .inl (List.mem_singleton.mp root)
  · obtain slash | ⟨piece, among, inPiece⟩ := Text.mem_intercalate below
    · exact .inl slash
    · obtain ⟨segment, inOrder, rfl⟩ := List.mem_map.mp among
      exact .inr (isPlain_of_mem_segment inOrder inPiece)

theorem not_mem_path {mark : Char} (notSlash : mark ≠ '/') (foreign : isPlain mark = false) :
    mark ∉ order.address.path.toList := by
  intro member
  obtain slash | plain := isPlain_of_mem_path member
  · exact notSlash slash
  · rw [foreign] at plain
    cases plain

theorem isKept_of_mem_path {character : Char} (member : character ∈ order.address.path.toList) :
    Url.isKept Url.pathSafe character = true := by
  obtain rfl | plain := isPlain_of_mem_path member
  · decide
  · rw [isPlain, Bool.or_eq_true, Bool.and_eq_true] at plain
    obtain ⟨unreserved, -⟩ | padding := plain
    · rw [Url.isKept, unreserved, Bool.true_or]
    · rw [of_decide_eq_true padding]
      decide

theorem isKept_of_mem_query (order : Order) :
    ∀ written ∈ order.query, ∀ character ∈ written.toList, Url.isKept Url.querySafe character = true := by
  intro written found character member
  cases order with
  | list fields =>
      obtain rfl := Option.some.inj found
      exact Url.isKept_of_mem_writeQuery member
  | _ => cases found

/-- The address of an order is written as the URL of the order. -/
theorem write_address (order : Order) : order.address.write = order.url := by
  have authority : order.address.authority = order.hostName := by
    have names : ∀ name ∈ ["rs.qbox.me", "rsf.qbox.me"],
        (⟨"http", "", name, none, "", none, none⟩ : Url.Address).authority = name := by decide
    exact names order.hostName order.hostName_mem
  have named : order.hostName ≠ "" := by
    have names : ∀ name ∈ ["rs.qbox.me", "rsf.qbox.me"], name ≠ "" := by decide
    exact names order.hostName order.hostName_mem
  have scheme : order.address.scheme ≠ "" := (by decide : "http" ≠ "")
  rw [Url.Address.write, authority, if_neg scheme, if_neg named, url, Url.Address.target,
    show "http://" = "http" ++ (":" ++ "//") from rfl]
  show "http" ++ ":" ++ ("//" ++ order.hostName) ++ order.address.path ++ _ ++ "" = _
  cases order.address.query with
  | none => simp only [Option.elim_none, String.append_assoc, String.append_empty]
  | some written => simp only [Option.elim_some, String.append_assoc, String.append_empty]

theorem not_hasDots_path (order : Order) : ¬Url.HasDots order.address.path.toList := by
  rintro ⟨segment, among, dots⟩
  have dot : '.' ∈ segment := by
    obtain rfl | rfl := dots
    · exact List.mem_cons_self
    · exact List.mem_cons_self
  exact not_mem_path (by decide) (by decide) (Url.mem_of_mem_splitList among dot)

/-- The hosts have URLs in normal form. -/
theorem isBase_host (order : Order) :
    (⟨"http", "", order.hostName, none, "/", none, none⟩ : Url.Address).IsBase
      ("http://" ++ order.hostName ++ "/") := by
  have managing : (⟨"http", "", "rs.qbox.me", none, "/", none, none⟩ : Url.Address).IsBase "http://rs.qbox.me/" :=
    ⟨by decide +kernel, by rfl, by decide, by decide, rfl, rfl, "", rfl⟩
  have listing : (⟨"http", "", "rsf.qbox.me", none, "/", none, none⟩ : Url.Address).IsBase "http://rsf.qbox.me/" :=
    ⟨by decide +kernel, by rfl, by decide, by decide, rfl, rfl, "", rfl⟩
  cases order with
  | list fields => exact listing
  | _ => exact managing

/-- The URL of an order, unless it is too long, is asked for at the address of the order. -/
theorem address_url (short : order.url.toList.length ≤ Url.longestUrl) :
    Service.address order.url = .ok order.address := by
  have apart : order.url = "http://" ++ order.hostName ++ "/" ++ "/".intercalate order.segments ++
      order.query.elim "" ("?" ++ ·) := by
    rw [url, Url.Address.target, address_path]
    simp only [String.append_assoc]
    rfl
  have kept : ∀ character ∈ ("/".intercalate order.segments).toList, Url.isKept Url.pathSafe character = true := by
    intro character member
    have inPath : character ∈ order.address.path.toList := by
      rw [address_path, String.toList_append]
      exact List.mem_append_right _ member
    exact isKept_of_mem_path inPath
  rw [apart] at short ⊢
  rw [Service.address_below order.isBase_host kept order.isKept_of_mem_query short]
  have whole := Url.removeDots_of_not_hasDots order.not_hasDots_path
  rw [address_path] at whole
  rw [whole, String.ofList_toList]
  rfl

/-- The text that is signed for an order is what is asked of the host, and a line break. -/
theorem requestText_url (filled : order.query ≠ some "") :
    Credentials.requestText order.url = .ok (order.address.target ++ "\n") := by
  have plain : ∀ character ∈ order.hostName.toList, Url.isUnreserved character = true := by
    have names : ["rs.qbox.me", "rsf.qbox.me"].all (·.toList.all Url.isUnreserved) = true := by decide
    exact List.all_eq_true.mp (List.all_eq_true.mp names order.hostName order.hostName_mem)
  have rooted : order.address.path.toList.head? = some '/' := by
    rw [address_path, String.toList_append]
    rfl
  have read := Url.Reference.read_http plain rooted (fun character member => isKept_of_mem_path member)
    (not_mem_path (by decide) (by decide)) order.isKept_of_mem_query
  have spelled : order.url.toList = "http://".toList ++ (order.hostName.toList ++ (order.address.path.toList ++
      Url.marked (order.query.map String.toList))) := by
    rw [url, String.toList_append, String.toList_append, Url.Address.toList_target, List.append_assoc]
    rfl
  rw [Credentials.requestText, spelled, read]
  dsimp only
  rw [Url.Reference.led_of_ne_empty filled]
  refine congrArg Except.ok (String.ext ?_)
  rw [String.toList_append, Url.Address.toList_target, String.toList_ofList]
  rfl

end Written

end Order
end PathStore
