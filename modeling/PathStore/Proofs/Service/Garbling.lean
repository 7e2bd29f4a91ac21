/-
This file tells which answers are taken for wrong input: texts in no charset, integers with too many digits or with
none, and JSON that is no text. A call without a body comes to a failure that blames the input exactly on those, or
where its request cannot be made or is led to what is no URL.
-/
import PathStore.Proofs.Driver.Blaming
import PathStore.Proofs.Service.Understanding

namespace PathStore

/-- Whether a value is taken for a misspelled integer: a text that spells none, or a real that is no number. A half that
stands alone is no digit. -/
def Json.Misspells : Reply → Prop
  | .text numeral => Numeral.integer? (numeral.mended '?') = none
  | .real value => value = .nan
  | _ => False

namespace Binary64

theorem ofRatio_ne_nan (negative : Bool) (numerator denominator : Nat) :
    ofRatio negative numerator denominator ≠ nan := by
  simp only [ofRatio]
  split
  · exact Binary64.noConfusion
  · split <;> split <;> exact Binary64.noConfusion

theorem scaled_ne_nan {number : Binary64} (proper : number ≠ nan) (factor : Rat) : number.scaled factor ≠ nan := by
  cases number with
  | finite negative significand exponent => exact ofRatio_ne_nan _ _ _
  | infinite negative => exact Binary64.noConfusion
  | nan => exact absurd rfl proper

end Binary64

namespace Instant

open Outcome

/-- Whether an outcome is the failure of a year that has not four digits. -/
def IsDateless (outcome : Except Failure Instant) : Prop := ∃ year, outcome = .error (.value (.year year))

theorem blames_of_isDateless {outcome : Except Failure Instant} (dateless : IsDateless outcome) : Blames outcome := by
  obtain ⟨year, rfl⟩ := dateless
  exact blames_error_iff.mpr rfl

theorem isDateless_ofSecond (second microsecond : Int) :
    Blames (ofSecond second microsecond) → IsDateless (ofSecond second microsecond) := by
  rw [ofSecond]
  split
  · exact fun blames => absurd blames (blames_error_iff.not.mpr (by decide))
  · split
    · exact fun blames => absurd blames (blames_error_iff.not.mpr (by decide))
    · dsimp only
      split
      · exact fun _ => ⟨_, rfl⟩
      · exact fun blames => absurd blames (not_blames_ok _)

theorem isDateless_ofTimestamp {seconds : Binary64} (proper : seconds ≠ .nan) :
    Blames (ofTimestamp seconds) → IsDateless (ofTimestamp seconds) := by
  have carried (second microsecond : Int) :
      let carries := if 1000000 ≤ microsecond then ofSecond (second + 1) (microsecond - 1000000)
        else if microsecond < 0 then ofSecond (second - 1) (microsecond + 1000000)
        else ofSecond second microsecond
      Blames carries → IsDateless carries := by
    intro carries
    by_cases great : 1000000 ≤ microsecond
    · rw [show carries = _ from if_pos great]
      exact isDateless_ofSecond _ _
    · by_cases negative : microsecond < 0
      · rw [show carries = _ from (if_neg great).trans (if_pos negative)]
        exact isDateless_ofSecond _ _
      · rw [show carries = _ from (if_neg great).trans (if_neg negative)]
        exact isDateless_ofSecond _ _
  unfold ofTimestamp
  split
  · exact absurd rfl proper
  · exact fun blames => absurd blames (blames_error_iff.not.mpr (by decide))
  · exact carried _ _

/-- An upload time blames the input just if its year has not four digits. -/
theorem blames_ofPutTime_iff (putTime : Int) : Blames (ofPutTime putTime) ↔ IsDateless (ofPutTime putTime) := by
  refine ⟨?_, blames_of_isDateless⟩
  rw [ofPutTime]
  split
  · exact isDateless_ofTimestamp (Binary64.scaled_ne_nan (Binary64.ofRatio_ne_nan _ _ _) _)
  · exact fun blames => absurd blames (blames_error_iff.not.mpr (by decide))

end Instant

namespace Answer

open Outcome

theorem blames_integer_iff (value : Reply) : Blames (integer value) ↔ value.Misspells := by
  cases value with
  | text numeral =>
      rw [integer, Json.Misspells, Numeral.integer?]
      cases Numeral.readInteger (numeral.mended '?') with
      | ok whole => exact iff_of_false (not_blames_ok whole) (Option.some_ne_none whole)
      | error fault => exact iff_of_true (blames_error_iff.mpr (by cases fault <;> rfl)) rfl
  | real value =>
      cases value with
      | finite negative significand exponent => exact iff_of_false (not_blames_ok _) Binary64.noConfusion
      | infinite negative => exact iff_of_false (blames_error_iff.not.mpr (by decide)) Binary64.noConfusion
      | nan => exact iff_of_true (blames_error_iff.mpr rfl) rfl
  | integer whole => exact iff_of_false (not_blames_ok whole) id
  | bool value => exact iff_of_false (not_blames_ok _) id
  | _ => exact iff_of_false (blames_error_iff.not.mpr (by decide)) id

/-- The value of a member that counts as zero where it is not told. -/
def counted (members : List (LooseText × Reply)) (name : String) : Reply :=
  (members.lookup (name : LooseText)).getD (.integer 0)

/-- Whether the members of an object misspell the size of what is stored, or else the time. -/
def Misdescribes (members : List (LooseText × Reply)) : Prop :=
  (counted members "fsize").Misspells ∨ (counted members "fsize").IsWhole ∧ (counted members "putTime").Misspells

/-- Whether a listed object names its key and misspells its description. -/
def IsMislisted (item : Reply) : Prop :=
  ∃ members, item = .object members ∧ (members.lookup ("key" : LooseText)).isSome = true ∧ Misdescribes members

/-- Whether the members of an object list a misspelled description behind objects that are well described. -/
def Mislists (members : List (LooseText × Reply)) : Prop :=
  ∃ items before item after, elements (.object members) "items" = .ok items ∧ items = before ++ item :: after ∧
    (∀ earlier ∈ before, IsListed earlier) ∧ IsMislisted item

section Members

variable (members : List (LooseText × Reply))

theorem blames_objectInfo_iff (key : Reply) : Blames (objectInfo key (.object members)) ↔ Misdescribes members := by
  have read : objectInfo key (.object members) = integer (counted members "fsize") >>= fun size =>
      integer (counted members "putTime") >>= fun putTime =>
        .ok {
          key, size, putTime
          hash := (members.lookup ("hash" : LooseText)).getD (.text "")
          mimeType := (members.lookup ("mimeType" : LooseText)).getD (.text "") } := rfl
  rw [read, blames_bind_iff, blames_integer_iff, Misdescribes, ← (hingesOn_integer _).exists_ok_iff, ← exists_and_right]
  refine or_congr_right (exists_congr fun size => and_congr_right fun _ => ?_)
  rw [blames_bind_of_innocent fun putTime => not_blames_ok _, blames_integer_iff]

theorem blames_listedObject_iff (item : Reply) : Blames (listedObject item) ↔ IsMislisted item := by
  cases item with
  | object members =>
      have same : IsMislisted (.object members) ↔
          (members.lookup ("key" : LooseText)).isSome = true ∧ Misdescribes members := by
        constructor
        · rintro ⟨_, same, found⟩
          exact Json.object.inj same ▸ found
        · exact fun found => ⟨members, rfl, found⟩
      rw [same, listedObject]
      cases members.lookup ("key" : LooseText) with
      | none => exact iff_of_false (blames_error_iff.not.mpr (by decide)) fun both => Bool.false_ne_true both.1
      | some key => exact (blames_objectInfo_iff members key).trans (and_iff_right rfl).symm
  | _ =>
      refine iff_of_false (blames_error_iff.not.mpr (by decide)) ?_
      rintro ⟨members, same, -⟩
      cases same

theorem not_blames_elements (name : String) : ¬Blames (elements (.object members) name) := by
  obtain ⟨items, read, -⟩ | ⟨read, -⟩ := elements_cases members name
  · rw [read]
    exact not_blames_ok items
  · rw [read]
    exact blames_error_iff.not.mpr (by decide)

theorem blames_listPage_iff : Blames (listPage (.object members)) ↔ Mislists members := by
  have marked : ¬Blames (member (.object members) "marker" .null) := not_blames_ok _
  have listed (page : ListPage) : ¬Blames (pure page) := not_blames_ok page
  have done (item : Reply) : (∃ info, listedObject item = .ok info) ↔ IsListed item :=
    (hingesOn_listedObject item).exists_ok_iff
  simp only [listPage, blames_bind_iff, blames_mapM_iff, blames_listedObject_iff, not_blames_elements, marked, listed,
    done, and_false, exists_false, or_false, false_or, Mislists, exists_and_left]

end Members

/-- Whether a fault is one of the bytes, and not of a charset that is for no bytes or that breaks down. -/
def IsOfBytes (fault : Text.Charset.Fault) : Prop := fault ≠ .bytesOnly ∧ fault ≠ .textOnly ∧ fault ≠ .unready

instance (fault : Text.Charset.Fault) : Decidable (IsOfBytes fault) := inferInstanceAs (Decidable (_ ∧ _ ∧ _))

/-- Whether the body of a refusal is taken for wrong input: its charset has no text for it, or it has a text and holds
an integer with too many digits. -/
def Muddles (platform : Platform) (response : Response) (content : Bytes) : Prop :=
  (∃ fault, text platform response content = .error (.charset fault) ∧ IsOfBytes fault) ∨
    (∃ read, text platform response content = .ok read) ∧
      ∃ count, Json.ofBytes platform.nesting content = .error (.tooManyDigits count)

section Refusal

variable {platform : Platform} {response : Response} {content : Bytes}

theorem blames_text_iff :
    Blames (text platform response content) ↔
      ∃ fault, text platform response content = .error (.charset fault) ∧ IsOfBytes fault := by
  have blamed (fault : Text.Charset.Fault) : (Failure.charset fault).BlamesInput ↔ IsOfBytes fault := by
    cases fault <;> decide
  constructor
  · rintro ⟨failure, unreadable, blames⟩
    obtain rfl | ⟨fault, rfl⟩ := text_error_cases unreadable
    · exact absurd blames (by decide)
    · exact ⟨fault, unreadable, (blamed fault).mp blames⟩
  · rintro ⟨fault, unreadable, ofBytes⟩
    exact ⟨.charset fault, unreadable, (blamed fault).mpr ofBytes⟩

theorem blames_namedError_iff :
    Blames (namedError? platform.nesting content) ↔
      ∃ count, Json.ofBytes platform.nesting content = .error (.tooManyDigits count) := by
  rw [namedError?]
  cases Json.ofBytes platform.nesting content with
  | ok value =>
      have read : ¬∃ count, (.ok value : Except Json.Fault PathStore.Reply) = .error (.tooManyDigits count) := by
        rintro ⟨count, same⟩
        cases same
      cases value <;> exact iff_of_false (not_blames_ok _) read
  | error fault =>
      have many : (∃ count, (.error fault : Except Json.Fault PathStore.Reply) = .error (.tooManyDigits count)) ↔
          ∃ count, fault = .tooManyDigits count := by
        simp only [Except.error.injEq]
      rw [many]
      cases fault with
      | tooManyDigits count => exact iff_of_true (blames_error_iff.mpr rfl) ⟨count, rfl⟩
      | tooNested =>
          refine iff_of_false (blames_error_iff.not.mpr (by decide)) ?_
          rintro ⟨count, same⟩
          cases same
      | undecodable | malformed =>
          refine iff_of_false (not_blames_ok _) ?_
          rintro ⟨count, same⟩
          cases same

/-- A refusal blames the input just if its body muddles what it says. -/
theorem blamesInput_refusal_iff :
    (refusal platform response content).BlamesInput ↔ Muddles platform response content := by
  have reported : (refusal platform response content).BlamesInput ↔
      Blames (refusedWith platform response content) := by
    rw [refusal]
    cases refusedWith platform response content with
    | ok error => exact iff_of_false (by decide : (3 : Nat) ≠ 2) (not_blames_ok error)
    | error failure => exact blames_error_iff.symm
  rw [reported, refusedWith, blames_bind_iff, blames_text_iff, Muddles, ← exists_and_right]
  refine or_congr_right (exists_congr fun read => and_congr_right fun _ => ?_)
  exact (blames_bind_of_innocent fun named => not_blames_ok _).trans blames_namedError_iff

end Refusal
end Answer

namespace Management

/-- Whether a value that is answered misspells what is asked for. A change takes any value as its answer. -/
def Misfits : Management → PathStore.Reply → Prop
  | .stat _, value => ∃ members, value = .object members ∧ Answer.Misdescribes members
  | .list _, value => ∃ members, value = .object members ∧ Answer.Mislists members
  | .delete _, _ | .move .., _ => False

/-- Whether the body of a success is taken for wrong input: it is no text, or JSON with too many digits, or JSON that
misspells what is asked for, with so many containers one inside the other. -/
def Misreads (asked : Management) (nesting : Nat) (content : Bytes) : Prop :=
  content ≠ [] ∧ (Json.ofBytes nesting content = .error .undecodable ∨
    (∃ count, Json.ofBytes nesting content = .error (.tooManyDigits count)) ∨
    ∃ value, Json.ofBytes nesting content = .ok value ∧ asked.Misfits value)

open Outcome

theorem blames_reply_iff (asked : Management) (value : PathStore.Reply) :
    Blames (asked.reply value) ↔ asked.Misfits value := by
  have ofObject {α : Type} {read : PathStore.Reply → Except Failure α}
      {misfits : List (LooseText × PathStore.Reply) → Prop}
      (foreign : ∀ value, (∀ members, value ≠ .object members) → read value = .error .notAnObject)
      (blames : ∀ members, Blames (read (.object members)) ↔ misfits members) :
      Blames (read value) ↔ ∃ members, value = .object members ∧ misfits members := by
    by_cases object : ∃ members, value = .object members
    · obtain ⟨members, rfl⟩ := object
      refine (blames members).trans ⟨fun holds => ⟨members, rfl, holds⟩, ?_⟩
      rintro ⟨_, same, holds⟩
      exact Json.object.inj same ▸ holds
    · rw [foreign value fun members same => object ⟨members, same⟩]
      exact iff_of_false (blames_error_iff.not.mpr (by decide)) fun ⟨members, same, _⟩ => object ⟨members, same⟩
  cases asked with
  | stat key => exact ofObject (fun _ => Answer.objectInfo_of_foreign (.text key)) (Answer.blames_objectInfo_iff · _)
  | list query => exact ofObject (fun _ => Answer.listPage_of_foreign) Answer.blames_listPage_iff
  | delete key => exact iff_of_false (not_blames_ok ()) id
  | move source target force => exact iff_of_false (not_blames_ok ()) id

/-- What is asked for blames the input just if the body of the success is misread. -/
theorem blames_value_iff (asked : Management) (nesting status : Nat) (content : Bytes) :
    Blames (Answer.value nesting status content >>= asked.reply) ↔ asked.Misreads nesting content := by
  cases content with
  | nil =>
      obtain ⟨reply, answered⟩ := (asked.hingesOn_reply _).succeeds asked.fits_empty
      refine iff_of_false ?_ fun misreads => misreads.1 rfl
      show ¬Blames (asked.reply (.object []))
      rw [answered]
      exact not_blames_ok reply
  | cons byte rest =>
      have filled : Answer.value nesting status (byte :: rest) =
          (Json.ofBytes nesting (byte :: rest)).mapError _ := if_neg nofun
      rw [filled, Misreads, and_iff_right (List.cons_ne_nil byte rest)]
      cases Json.ofBytes nesting (byte :: rest) with
      | ok value =>
          refine (blames_reply_iff asked value).trans ⟨fun misfits => .inr (.inr ⟨value, rfl, misfits⟩), ?_⟩
          rintro (undecodable | ⟨count, many⟩ | ⟨other, same, misfits⟩)
          · cases undecodable
          · cases many
          · exact Except.ok.inj same ▸ misfits
      | error fault =>
          have misread : ((.error fault : Except Json.Fault PathStore.Reply) = .error .undecodable ∨
              (∃ count, (.error fault : Except Json.Fault PathStore.Reply) = .error (.tooManyDigits count)) ∨
              ∃ value, (.error fault : Except Json.Fault PathStore.Reply) = .ok value ∧ asked.Misfits value) ↔
              fault = .undecodable ∨ ∃ count, fault = .tooManyDigits count := by
            simp only [Except.error.injEq, reduceCtorEq, false_and, exists_false, or_false]
          rw [misread]
          refine Iff.trans blames_error_iff ?_
          cases fault with
          | undecodable => exact iff_of_true rfl (.inl rfl)
          | tooManyDigits count => exact iff_of_true rfl (.inr ⟨count, rfl⟩)
          | malformed | tooNested =>
              refine iff_of_false (by decide : (3 : Nat) ≠ 2) ?_
              rintro (same | ⟨count, same⟩) <;> cases same

end Management

/-- What a call without a body asks the managing service for. -/
def Call.management? : Call → Option Management
  | .stat key => some (.stat key)
  | .list query => some (.list query)
  | .delete key => some (.delete key)
  | .move source target => some (.move source target false)
  | _ => none

namespace Wire

variable {σ : Type}

/-- Whether a request comes to nothing by a failure that blames the input, as when it is led to what is no URL. -/
def Strays (wire : Wire σ) (request : Request) (state : σ) : Prop :=
  ∃ failure, (wire.send request state).1 = .error (.failed failure) ∧ failure.BlamesInput

/-- Whether a request brings a response whose body arrives whole. -/
def Brings (wire : Wire σ) (request : Request) (state : σ) (response : Response) (content : Bytes) : Prop :=
  (wire.send request state).1 = .ok response ∧ response.content = .ok content

/-- Whether a request goes astray or is refused by a body that is taken for wrong input. -/
def Confuses (wire : Wire σ) (platform : Platform) (request : Request) (state : σ) : Prop :=
  wire.Strays request state ∨ ∃ response content, wire.Brings request state response content ∧
    response.isSuccess = false ∧ Answer.Muddles platform response content

section Sent

variable {wire : Wire σ} {platform : Platform} {request : Request} {state : σ}

theorem not_confuses_of_interrupted {interruption : Interruption}
    (sent : (wire.send request state).1 = .error (.interrupted interruption)) :
    ¬wire.Confuses platform request state := by
  rintro (⟨failure, failed, -⟩ | ⟨response, content, ⟨answered, -⟩, -⟩)
  · cases sent.symm.trans failed
  · cases sent.symm.trans answered

theorem confuses_iff_of_failed {failure : Failure} (sent : (wire.send request state).1 = .error (.failed failure)) :
    wire.Confuses platform request state ↔ failure.BlamesInput := by
  refine ⟨?_, fun blames => .inl ⟨failure, sent, blames⟩⟩
  rintro (⟨other, failed, blames⟩ | ⟨response, content, ⟨answered, -⟩, -⟩)
  · cases sent.symm.trans failed
    exact blames
  · cases sent.symm.trans answered

theorem not_confuses_of_success {response : Response} (sent : (wire.send request state).1 = .ok response)
    (success : response.isSuccess = true) : ¬wire.Confuses platform request state := by
  rintro (⟨failure, failed, -⟩ | ⟨other, content, ⟨answered, -⟩, refused, -⟩)
  · cases sent.symm.trans failed
  · obtain rfl := Except.ok.inj (sent.symm.trans answered)
    cases success.symm.trans refused

theorem not_confuses_of_broken {response : Response} {interruption : Interruption}
    (sent : (wire.send request state).1 = .ok response) (broken : response.content = .error interruption) :
    ¬wire.Confuses platform request state := by
  rintro (⟨failure, failed, -⟩ | ⟨other, content, ⟨answered, whole⟩, -⟩)
  · cases sent.symm.trans failed
  · obtain rfl := Except.ok.inj (sent.symm.trans answered)
    cases broken.symm.trans whole

theorem confuses_iff_of_refused {response : Response} {content : Bytes}
    (brings : wire.Brings request state response content) (refused : response.isSuccess = false) :
    wire.Confuses platform request state ↔ Answer.Muddles platform response content := by
  refine ⟨?_, fun muddles => .inr ⟨response, content, brings, refused, muddles⟩⟩
  rintro (⟨failure, failed, -⟩ | ⟨other, read, ⟨answered, whole⟩, -, muddles⟩)
  · cases brings.1.symm.trans failed
  · obtain rfl := Except.ok.inj (brings.1.symm.trans answered)
    exact Except.ok.inj (whole.symm.trans brings.2) ▸ muddles

end Sent
end Wire

namespace Service

variable {σ : Type}

/-- The ways in which a call is taken for wrong input. -/
inductive Garbles (service : Service) (wire : Wire σ) (clock : Clock) (call : Call) (state : σ) : Prop where
  | unmade (blames : Outcome.Blames (service.request clock call))
  | astray {request : Request} (made : service.request clock call = .ok (some request))
      (strays : wire.Strays request state)
  | refused {request : Request} {response : Response} {content : Bytes}
      (made : service.request clock call = .ok (some request)) (brings : wire.Brings request state response content)
      (refused : response.isSuccess = false) (muddles : Answer.Muddles service.platform response content)
  | misread {request : Request} {response : Response} {content : Bytes} {asked : Management}
      (made : service.request clock call = .ok (some request)) (brings : wire.Brings request state response content)
      (success : response.isSuccess = true) (asks : call.management? = some asked)
      (misreads : asked.Misreads service.platform.nesting content)

/-- Whether a call describes an object whose upload time is in a year that has not four digits. -/
def Misdates (service : Service) (wire : Wire σ) (call : Call) (state : σ) : Prop :=
  ∃ key info, call = .stat key ∧ (service.stat wire key state).1 = .ok info ∧ Instant.IsDateless info.modified

section Sent

open Outcome

variable (service : Service) (wire : Wire σ) (clock : Clock) (state : σ)

/-- What is made of a request depends on whether there is one. -/
theorem blames_or_exists_ok_iff {α : Type} {made : Except Failure α} {value : α} (same : made = .ok value)
    {holds : α → Prop} : (Blames made ∨ ∃ found, made = .ok found ∧ holds found) ↔ holds value := by
  subst same
  refine ⟨?_, fun held => .inr ⟨value, rfl, held⟩⟩
  rintro (blames | ⟨found, same, held⟩)
  · exact absurd blames (not_blames_ok value)
  · exact Except.ok.inj same ▸ held

theorem blames_or_exists_error_iff {α β : Type} {made : Except Failure α} {failure : Failure}
    (same : made = .error failure) {holds : α → Prop} : (Blames made ∨ ∃ found, made = .ok found ∧ holds found) ↔
      Blames (.error failure : Except Failure β) := by
  subst same
  rw [blames_error_iff, blames_error_iff]
  refine or_iff_left ?_
  rintro ⟨found, same, -⟩
  cases same

/-- A post blames the input if its request cannot be made so, or comes to nothing so. -/
theorem blames_post_iff (url : String) (build : Url.Address → Except Failure Request) :
    Blames (service.post wire url build state).1 ↔ Blames (address url >>= build) ∨
      ∃ request, address url >>= build = .ok request ∧ wire.Confuses service.platform request state := by
  rw [post]
  cases made : address url >>= build with
  | error failure => exact (blames_or_exists_error_iff rfl).symm
  | ok request =>
      rw [blames_or_exists_ok_iff rfl]
      dsimp only
      rcases carried : wire.send request state with ⟨reply, after⟩
      have sent : (wire.send request state).1 = reply := congrArg Prod.fst carried
      cases reply with
      | error fault =>
          cases fault with
          | interrupted interruption =>
              exact iff_of_false (blames_error_iff.not.mpr (by decide : (3 : Nat) ≠ 2))
                (Wire.not_confuses_of_interrupted sent)
          | failed failure => exact blames_error_iff.trans (Wire.confuses_iff_of_failed sent).symm
      | ok response =>
          dsimp only
          cases whole : response.content with
          | error interruption =>
              exact iff_of_false (blames_error_iff.not.mpr (by decide : (3 : Nat) ≠ 2))
                (Wire.not_confuses_of_broken sent whole)
          | ok content =>
              cases refused : response.isSuccess with
              | true => exact iff_of_false (not_blames_ok _) (Wire.not_confuses_of_success sent refused)
              | false =>
                  refine (blames_error_iff.trans Answer.blamesInput_refusal_iff).trans ?_
                  exact (Wire.confuses_iff_of_refused ⟨sent, whole⟩ refused).symm

/-- A download blames the input likewise; what arrives of a success is not looked at. -/
theorem blames_download_iff (key : String) (offset : Int) :
    Blames (service.download wire clock key offset state).1 ↔
      Blames (service.downloadUrl clock key offset) ∨
        ∃ found, service.downloadUrl clock key offset = .ok found ∧
          wire.Confuses service.platform (downloadRequest found offset) state := by
  rw [download]
  cases service.downloadUrl clock key offset with
  | error failure => exact (blames_or_exists_error_iff rfl).symm
  | ok found =>
      rw [blames_or_exists_ok_iff rfl]
      dsimp only
      rcases carried : wire.send (downloadRequest found offset) state with ⟨reply, after⟩
      have sent : (wire.send (downloadRequest found offset) state).1 = reply := congrArg Prod.fst carried
      cases reply with
      | error fault =>
          cases fault with
          | interrupted interruption =>
              exact iff_of_false (blames_error_iff.not.mpr (by decide : (3 : Nat) ≠ 2))
                (Wire.not_confuses_of_interrupted sent)
          | failed failure => exact blames_error_iff.trans (Wire.confuses_iff_of_failed sent).symm
      | ok response =>
          dsimp only
          cases refused : response.isSuccess with
          | true => exact iff_of_false (not_blames_ok _) (Wire.not_confuses_of_success sent refused)
          | false =>
              cases whole : response.content with
              | error interruption =>
                  exact iff_of_false (blames_error_iff.not.mpr (by decide : (3 : Nat) ≠ 2))
                    (Wire.not_confuses_of_broken sent whole)
              | ok content =>
                  refine (blames_error_iff.trans Answer.blamesInput_refusal_iff).trans ?_
                  exact (Wire.confuses_iff_of_refused ⟨sent, whole⟩ refused).symm

/-- A post succeeds with a body just if a success brings it whole. -/
theorem exists_posted_iff {url : String} {build : Url.Address → Except Failure Request} {holds : Bytes → Prop} :
    (∃ found, (service.post wire url build state).1 = .ok found ∧ holds found.2) ↔
      ∃ request, address url >>= build = .ok request ∧ ∃ response content,
        wire.Brings request state response content ∧ response.isSuccess = true ∧ holds content := by
  constructor
  · rintro ⟨⟨status, content⟩, posted, held⟩
    obtain ⟨request, response, made, carried, whole, success, -⟩ :=
      post_eq_ok_iff.mp (Prod.ext posted rfl : _ = (Except.ok (status, content), _))
    exact ⟨request, made, response, content, ⟨congrArg Prod.fst carried, whole⟩, success, held⟩
  · rintro ⟨request, made, response, content, ⟨sent, whole⟩, success, held⟩
    have posted : service.post wire url build state =
        (.ok (response.status, content), (wire.send request state).2) :=
      post_eq_ok_iff.mpr ⟨request, response, made, Prod.ext sent rfl, whole, success, rfl⟩
    exact ⟨(response.status, content), congrArg Prod.fst posted, held⟩

/-- What is asked for blames the input if its request does, or if a success is misread. -/
theorem blames_carryOut_iff (asked : Management) :
    Blames (service.carryOut wire asked state).1 ↔ Blames (service.managing (asked.url service)) ∨
      ∃ request, service.managing (asked.url service) = .ok request ∧
        (wire.Confuses service.platform request state ∨ ∃ response content, wire.Brings request state response content ∧
          response.isSuccess = true ∧ asked.Misreads service.platform.nesting content) := by
  rw [carryOut_eq]
  cases asked.url service with
  | error failure => exact (blames_or_exists_error_iff rfl).symm
  | ok url =>
      cases signed : service.credentials.authorization url with
      | error failure =>
          have unmade : service.managing (.ok url) = .error failure := by
            simp only [managing, bind, Except.bind, signed]
          have unasked : (service.manage wire (.ok url) state).1 = .error failure := by
            simp only [manage, bind, Except.bind, signed]
          rw [unmade, unasked]
          exact (blames_or_exists_error_iff rfl).symm
      | ok authorization =>
          have made : service.managing (.ok url) = address url >>= signedRequest authorization := by
            simp only [managing, bind, Except.bind, signed]
          have read : (service.manage wire (.ok url) state).1 >>= asked.reply =
              (service.post wire url (signedRequest authorization) state).1 >>= fun found =>
                Answer.value service.platform.nesting found.1 found.2 >>= asked.reply := by
            rw [manage_eq_post wire state signed]
            exact bind_assoc _ _ _
          rw [made, read, blames_bind_iff, blames_post_iff, or_assoc]
          simp only [Management.blames_value_iff, exists_posted_iff, ← exists_or, ← and_or_left]

section Garbled

variable {service wire clock state} {call : Call}

/-- A call is garbled by its request or by what that brings. -/
theorem garbles_iff {made : Except Failure Request} (same : service.request clock call = made.map some) :
    service.Garbles wire clock call state ↔ Blames made ∨ ∃ request, made = .ok request ∧
      (wire.Confuses service.platform request state ∨ ∃ response content, wire.Brings request state response content ∧
        response.isSuccess = true ∧
          ∃ asked, call.management? = some asked ∧ asked.Misreads service.platform.nesting content) := by
  have found {request : Request} (done : service.request clock call = .ok (some request)) : made = .ok request := by
    obtain ⟨other, succeeded, wrapped⟩ := Outcome.map_eq_ok_iff.mp (same.symm.trans done)
    exact Option.some.inj wrapped ▸ succeeded
  constructor
  · intro garbles
    cases garbles with
    | unmade blames =>
        rw [same] at blames
        exact .inl (blames_map_iff.mp blames)
    | astray done strays => exact .inr ⟨_, found done, .inl (.inl strays)⟩
    | refused done brings refused muddles => exact .inr ⟨_, found done, .inl (.inr ⟨_, _, brings, refused, muddles⟩)⟩
    | misread done brings success asks misreads =>
        exact .inr ⟨_, found done, .inr ⟨_, _, brings, success, _, asks, misreads⟩⟩
  · rintro (blames | ⟨request, rfl, (strays | ⟨response, content, brings, refused, muddles⟩) |
      ⟨response, content, brings, success, asked, asks, misreads⟩⟩)
    · refine .unmade ?_
      rw [same]
      exact blames_map_iff.mpr blames
    · exact .astray same strays
    · exact .refused same brings refused muddles
    · exact .misread same brings success asks misreads

/-- A call without a body blames the input just if its request or what answers it is garbled. -/
theorem blames_answer_iff (bare : call.IsBare) :
    Blames (service.answer wire clock call state).1 ↔ service.Garbles wire clock call state := by
  have asking {asked : Management} (asks : call.management? = some asked)
      (same : service.request clock call = (service.managing (asked.url service)).map some)
      (carried : Blames (service.answer wire clock call state).1 ↔ Blames (service.carryOut wire asked state).1) :
      Blames (service.answer wire clock call state).1 ↔ service.Garbles wire clock call state := by
    rw [carried, blames_carryOut_iff, garbles_iff same, asks]
    simp only [Option.some.injEq, exists_eq_left']
  cases call with
  | stat key => exact asking rfl rfl Iff.rfl
  | list query => exact asking rfl rfl Iff.rfl
  | delete key => exact asking rfl rfl Iff.rfl
  | move source target => exact asking rfl rfl Iff.rfl
  | download key offset =>
      let located := service.downloadUrl clock key offset
      have same : service.request clock (.download key offset) =
          (located.map (downloadRequest · offset)).map some := by
        show (located >>= fun found => .ok (some (downloadRequest found offset))) = _
        cases located <;> rfl
      rw [garbles_iff same, blames_map_iff]
      refine (service.blames_download_iff wire clock state key offset).trans (or_congr_right ⟨?_, ?_⟩)
      · rintro ⟨found, isFound, confuses⟩
        exact ⟨_, Outcome.map_eq_ok_iff.mpr ⟨found, isFound, rfl⟩, .inl confuses⟩
      · rintro ⟨request, made, confuses | ⟨_, _, -, -, asked, asks, -⟩⟩
        · obtain ⟨found, isFound, rfl⟩ := Outcome.map_eq_ok_iff.mp made
          exact ⟨found, isFound, confuses⟩
        · cases asks
  | put key data size => exact bare.elim
  | putFile key content => exact bare.elim
  | putParts key composition => exact bare.elim
  | sign key lifetime => exact bare.elim

/-- The content of a success ends in no failure that blames the input. -/
theorem not_blames_readAll {key : String} {offset : Int} {stream : Stream}
    (opened : (service.download wire clock key offset state).1 = .ok stream) : ¬Blames stream.readAll := by
  have isDownload : ∃ body, stream = .download body := by
    rw [download] at opened
    split at opened
    · cases opened
    · split at opened
      · cases opened
      · cases opened
      · split at opened
        · exact ⟨_, (Except.ok.inj opened).symm⟩
        · split at opened <;> cases opened
  obtain ⟨body, rfl⟩ := isDownload
  show ¬Blames body.readAll.1
  rw [Download.readAll]
  split
  · exact blames_error_iff.not.mpr (by decide : (3 : Nat) ≠ 2)
  · exact not_blames_ok _

/-- A reply confounds who asks just if its call is garbled, or describes an object by a time that counts and is none. -/
theorem confounds_answer_iff (timed : Bool) (bare : call.IsBare) :
    Driver.Confounds timed call (service.answer wire clock call state).1 ↔
      service.Garbles wire clock call state ∨ timed = true ∧ service.Misdates wire call state := by
  rw [← blames_answer_iff bare]
  have undated (other : ∀ key, call ≠ .stat key)
      (plain : ∀ value, (service.answer wire clock call state).1 = .ok value →
        ¬Driver.Confounds timed call (.ok value)) :
      Driver.Confounds timed call (service.answer wire clock call state).1 ↔
        Blames (service.answer wire clock call state).1 ∨ timed = true ∧ service.Misdates wire call state :=
    (Driver.confounds_iff_of_plain plain).trans (or_iff_left fun ⟨_, key, _, same, _⟩ => other key same).symm
  cases call with
  | stat key =>
      refine Driver.confounds_stat_iff.trans (or_congr_right (and_congr_right fun _ => ?_))
      constructor
      · rintro ⟨info, described, blames⟩
        exact ⟨key, info, rfl, described, (Instant.blames_ofPutTime_iff info.putTime).mp blames⟩
      · rintro ⟨_, info, same, described, dateless⟩
        cases same
        exact ⟨info, described, Instant.blames_of_isDateless dateless⟩
  | download key offset => exact undated (fun _ => Call.noConfusion) fun _ opened => not_blames_readAll opened
  | list query => exact undated (fun _ => Call.noConfusion) fun _ _ => id
  | delete key => exact undated (fun _ => Call.noConfusion) fun _ _ => id
  | move source target => exact undated (fun _ => Call.noConfusion) fun _ _ => id
  | put key data size => exact bare.elim
  | putFile key content => exact bare.elim
  | putParts key composition => exact bare.elim
  | sign key lifetime => exact bare.elim

end Garbled
end Sent

end Service
end PathStore
