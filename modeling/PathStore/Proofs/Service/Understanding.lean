/-
This file tells which bodies of a success the managing and listing service is understood by. What is answered depends on
the JSON in the body alone, down to the members that should be integers. What is no JSON is an error of the service, and
what is JSON that does not fit is no failure of a storage at all.
-/
import PathStore.Proofs.Driver.Refusing
import PathStore.Proofs.Service.Managing

namespace PathStore

/-- Whether an outcome is a success just if something holds, and else no failure of a storage. -/
structure HingesOn {α : Type} (outcome : Except Failure α) (fits : Prop) : Prop where
  succeeds : fits → ∃ value, outcome = .ok value
  escapes : ¬fits → ∃ failure, outcome = .error failure ∧ failure.category.isStorage = false

namespace HingesOn

variable {α β : Type} {outcome : Except Failure α} {fits : Prop}

theorem congr {other : Prop} (hinges : HingesOn outcome fits) (same : fits ↔ other) : HingesOn outcome other :=
  ⟨fun holds => hinges.succeeds (same.mpr holds), fun fails => hinges.escapes (same.not.mpr fails)⟩

theorem exists_ok_iff (hinges : HingesOn outcome fits) : (∃ value, outcome = .ok value) ↔ fits := by
  refine ⟨fun ⟨value, succeeded⟩ => Classical.not_not.mp fun fails => ?_, hinges.succeeds⟩
  obtain ⟨failure, failed, -⟩ := hinges.escapes fails
  cases succeeded.symm.trans failed

theorem of_ok (value : α) : HingesOn (.ok value) True := ⟨fun _ => ⟨value, rfl⟩, fun fails => absurd trivial fails⟩

theorem of_error {failure : Failure} (foreign : failure.category.isStorage = false) :
    HingesOn (.error failure : Except Failure α) False :=
  ⟨False.elim, fun _ => ⟨failure, rfl, foreign⟩⟩

/-- Two steps hinge on what the first and, once it has succeeded, the second hinge on. -/
theorem bind {next : α → Except Failure β} {later : Prop} (here : HingesOn outcome fits)
    (there : ∀ value, outcome = .ok value → HingesOn (next value) later) :
    HingesOn (outcome >>= next) (fits ∧ later) := by
  by_cases holds : fits
  · obtain ⟨value, rfl⟩ := here.succeeds holds
    exact (there value rfl).congr (and_iff_right holds).symm
  · obtain ⟨failure, rfl, foreign⟩ := here.escapes holds
    exact (of_error foreign).congr (iff_of_false id fun both => holds both.1)

/-- A row of steps hinges on what all of them hinge on. -/
theorem mapM {step : α → Except Failure β} {each : α → Prop} (steps : ∀ item, HingesOn (step item) (each item))
    (items : List α) : HingesOn (items.mapM step) (∀ item ∈ items, each item) := by
  induction items with
  | nil => exact (of_ok []).congr (iff_of_true trivial nofun)
  | cons first rest ih =>
      rw [List.mapM_cons]
      refine HingesOn.congr ((steps first).bind fun value _ => ?_) List.forall_mem_cons.symm
      exact (ih.bind fun values _ => of_ok _).congr (and_iff_left trivial)

end HingesOn

/-- Whether a value stands for an integer. A half that stands alone is no digit. -/
def Json.IsWhole : Reply → Prop
  | .integer _ | .bool _ => True
  | .text numeral => (Numeral.integer? (numeral.mended '?')).isSome = true
  | .real value => value.isFinite = true
  | _ => False

namespace Answer

theorem hingesOn_integer (value : Reply) : HingesOn (integer value) value.IsWhole := by
  cases value with
  | integer whole => exact .of_ok _
  | bool value => exact .of_ok _
  | text text =>
      rw [integer, Json.IsWhole, Numeral.integer?]
      cases Numeral.readInteger (text.mended '?') with
      | ok whole => exact (HingesOn.of_ok whole).congr (iff_of_true trivial rfl)
      | error fault => exact (HingesOn.of_error (by cases fault <;> rfl)).congr (iff_of_false id Bool.false_ne_true)
  | real value =>
      cases value with
      | finite negative significand exponent => exact (HingesOn.of_ok _).congr (iff_of_true trivial rfl)
      | infinite negative => exact (HingesOn.of_error rfl).congr (iff_of_false id Bool.false_ne_true)
      | nan => exact (HingesOn.of_error rfl).congr (iff_of_false id Bool.false_ne_true)
  | _ => exact .of_error rfl

/-- Whether the members of an object describe what is stored: its size and its time are integers where they are told. -/
def Describes (members : List (LooseText × Reply)) : Prop :=
  ∀ name ∈ ["fsize", "putTime"], ∀ held, members.lookup (name : LooseText) = some held → held.IsWhole

/-- Whether a value names a key and describes what is stored under it. -/
def IsListed (value : Reply) : Prop :=
  ∃ members, value = .object members ∧ (members.lookup ("key" : LooseText)).isSome = true ∧ Describes members

/-- Whether a member that is told and not empty can be gone through, item by item. -/
def HoldsEach (members : List (LooseText × Reply)) (name : String) (each : Reply → Prop) : Prop :=
  ∀ held, members.lookup (name : LooseText) = some held → held.isTruthy = true →
    ∃ items, held.elements? = some items ∧ ∀ item ∈ items, each item

section Members

variable {members : List (LooseText × Reply)}

theorem hingesOn_objectInfo (key : Reply) (members : List (LooseText × Reply)) :
    HingesOn (objectInfo key (.object members)) (Describes members) := by
  have told (name : LooseText) : ((members.lookup name).getD (.integer 0)).IsWhole ↔
      ∀ held, members.lookup name = some held → held.IsWhole := by
    cases members.lookup name with
    | none => exact iff_of_true trivial nofun
    | some held => exact ⟨fun whole _ same => Option.some.inj same ▸ whole, fun whole => whole held rfl⟩
  have both : Describes members ↔ ((members.lookup ("fsize" : LooseText)).getD (.integer 0)).IsWhole ∧
      ((members.lookup ("putTime" : LooseText)).getD (.integer 0)).IsWhole ∧ True := by
    simp only [Describes, List.forall_mem_cons, told, and_true, List.not_mem_nil, false_implies, implies_true]
  refine HingesOn.congr ?_ both.symm
  exact (hingesOn_integer _).bind fun size _ => (hingesOn_integer _).bind fun putTime _ => .of_ok _

theorem hingesOn_listedObject (value : Reply) : HingesOn (listedObject value) (IsListed value) := by
  cases value with
  | object members =>
      have listed :
          IsListed (.object members) ↔ (members.lookup ("key" : LooseText)).isSome = true ∧ Describes members := by
        constructor
        · rintro ⟨_, same, found⟩
          exact Json.object.inj same ▸ found
        · exact fun found => ⟨members, rfl, found⟩
      refine HingesOn.congr ?_ listed.symm
      rw [listedObject]
      cases members.lookup ("key" : LooseText) with
      | none => exact (HingesOn.of_error rfl).congr (iff_of_false id fun found => nomatch found.1)
      | some key => exact (hingesOn_objectInfo key members).congr (and_iff_right rfl).symm
  | _ => exact (HingesOn.of_error rfl).congr (iff_of_false id fun ⟨_, same, _⟩ => nomatch same)

/-- The items of a member are at hand exactly if it can be gone through. -/
theorem elements_cases (members : List (LooseText × Reply)) (name : String) :
    (∃ items, elements (.object members) name = .ok items ∧
      ∀ each, HoldsEach members name each ↔ ∀ item ∈ items, each item) ∨
    (elements (.object members) name = .error .wrongType ∧ ∀ each, ¬HoldsEach members name each) := by
  simp only [elements, member, HoldsEach, bind, Except.bind]
  cases members.lookup (name : LooseText) with
  | none => exact .inl ⟨[], rfl, fun each => iff_of_true nofun (List.forall_mem_nil each)⟩
  | some held =>
      rw [Option.getD_some]
      cases filled : held.isTruthy with
      | false =>
          refine .inl ⟨[], rfl, fun each => iff_of_true ?_ (List.forall_mem_nil each)⟩
          intro other same truthy
          obtain rfl := Option.some.inj same
          cases filled.symm.trans truthy
      | true =>
          cases found : held.elements? with
          | some items =>
              refine .inl ⟨items, rfl, fun each => ⟨fun holds => ?_, ?_⟩⟩
              · obtain ⟨_, same, every⟩ := holds held rfl filled
                exact Option.some.inj (found.symm.trans same) ▸ every
              · intro every other same _
                obtain rfl := Option.some.inj same
                exact ⟨items, found, every⟩
          | none =>
              refine .inr ⟨rfl, fun each holds => ?_⟩
              obtain ⟨_, same, -⟩ := holds held rfl filled
              cases found.symm.trans same

/-- Going through a member by steps hinges on what every step hinges on. -/
theorem hingesOn_elements {α : Type} {step : Reply → Except Failure α} {each : Reply → Prop}
    (steps : ∀ item, HingesOn (step item) (each item)) (members : List (LooseText × Reply)) (name : String) :
    HingesOn (elements (.object members) name >>= (·.mapM step)) (HoldsEach members name each) := by
  obtain ⟨items, read, holds⟩ | ⟨read, fails⟩ := elements_cases members name
  · rw [read]
    exact (HingesOn.mapM steps items).congr (holds each).symm
  · rw [read]
    exact (HingesOn.of_error rfl).congr (iff_of_false id (fails each))

/-- Whether the members of an object are the page of a listing. -/
def IsPage (members : List (LooseText × Reply)) : Prop :=
  HoldsEach members "items" IsListed ∧ HoldsEach members "commonPrefixes" fun _ => True

theorem hingesOn_listPage (members : List (LooseText × Reply)) :
    HingesOn (listPage (.object members)) (IsPage members) := by
  have items := hingesOn_elements hingesOn_listedObject members "items"
  have stems : HingesOn (elements (.object members) "commonPrefixes")
      (HoldsEach members "commonPrefixes" fun _ => True) := by
    obtain ⟨items, read, holds⟩ | ⟨read, fails⟩ := elements_cases members "commonPrefixes"
    · rw [read]
      exact (HingesOn.of_ok items).congr (iff_of_true trivial ((holds _).mpr fun _ _ => trivial))
    · rw [read]
      exact (HingesOn.of_error rfl).congr (iff_of_false id (fails _))
  have rest (listed : List ObjectInfo) : HingesOn (elements (.object members) "commonPrefixes" >>= fun stems =>
      member (.object members) "marker" .null >>= fun marker =>
        (.ok { items := listed, stems, marker := if marker.isTruthy then marker else .text "" } :
          Except Failure ListPage)) (HoldsEach members "commonPrefixes" fun _ => True) :=
    (stems.bind fun stems _ => .of_ok _).congr (and_iff_left trivial)
  have whole := items.bind fun listed _ => rest listed
  rw [bind_assoc] at whole
  exact whole

end Members

section Foreign

variable {value : Reply}

/-- What is no object describes nothing. -/
theorem objectInfo_of_foreign (key : Reply) (foreign : ∀ members, value ≠ .object members) :
    objectInfo key value = .error .notAnObject := by
  cases value with
  | object members => exact absurd rfl (foreign members)
  | _ => rfl

theorem listPage_of_foreign (foreign : ∀ members, value ≠ .object members) :
    listPage value = .error .notAnObject := by
  cases value with
  | object members => exact absurd rfl (foreign members)
  | _ => rfl

end Foreign
end Answer

namespace Management

/-- Whether a value fits what is asked. A change takes any value as its answer. -/
def Fits : Management → PathStore.Reply → Prop
  | .stat _, value => ∃ members, value = .object members ∧ Answer.Describes members
  | .list _, value => ∃ members, value = .object members ∧ Answer.IsPage members
  | .delete _, _ | .move .., _ => True

/-- Whether the body of a success is understood: it is empty, no JSON at all, or JSON that fits what is asked, with so
many containers one inside the other. -/
def Understands (asked : Management) (nesting : Nat) (content : Bytes) : Prop :=
  content = [] ∨ Json.ofBytes nesting content = .error .malformed ∨
    ∃ value, Json.ofBytes nesting content = .ok value ∧ asked.Fits value

theorem hingesOn_reply (asked : Management) (value : PathStore.Reply) :
    HingesOn (asked.reply value) (asked.Fits value) := by
  have ofObject {α : Type} {read : PathStore.Reply → Except Failure α}
      {fits : List (LooseText × PathStore.Reply) → Prop}
      (foreign : ∀ value, (∀ members, value ≠ .object members) → read value = .error .notAnObject)
      (hinges : ∀ members, HingesOn (read (.object members)) (fits members)) :
      HingesOn (read value) (∃ members, value = .object members ∧ fits members) := by
    by_cases object : ∃ members, value = .object members
    · obtain ⟨members, rfl⟩ := object
      refine (hinges members).congr ⟨fun holds => ⟨members, rfl, holds⟩, ?_⟩
      rintro ⟨_, same, holds⟩
      exact Json.object.inj same ▸ holds
    · rw [foreign value fun members same => object ⟨members, same⟩]
      exact (HingesOn.of_error rfl).congr (iff_of_false id fun ⟨members, same, _⟩ => object ⟨members, same⟩)
  cases asked with
  | stat key => exact ofObject (fun _ => Answer.objectInfo_of_foreign (.text key)) (Answer.hingesOn_objectInfo _)
  | list query => exact ofObject (fun _ => Answer.listPage_of_foreign) Answer.hingesOn_listPage
  | delete key => exact .of_ok ()
  | move source target force => exact .of_ok ()

theorem fits_empty (asked : Management) : asked.Fits (.object []) := by
  cases asked with
  | stat key => exact ⟨[], rfl, nofun⟩
  | list query => exact ⟨[], rfl, nofun, nofun⟩
  | delete key => trivial
  | move source target force => trivial

/-- The body of a success is answered, reported as no JSON, or not understood. -/
theorem reply_cases (asked : Management) (nesting status : Nat) (content : Bytes) :
    ((∃ reply, Answer.value nesting status content >>= asked.reply = .ok reply) ∧
      (content = [] ∨ ∃ value, Json.ofBytes nesting content = .ok value ∧ asked.Fits value)) ∨
    ((∃ error, Answer.value nesting status content >>= asked.reply = .error (.service error)) ∧
      content ≠ [] ∧ Json.ofBytes nesting content = .error .malformed) ∨
    ((∃ failure, Answer.value nesting status content >>= asked.reply = .error failure ∧
        failure.category.isStorage = false) ∧
      ¬asked.Understands nesting content) := by
  cases content with
  | nil => exact .inl ⟨(asked.hingesOn_reply _).succeeds asked.fits_empty, .inl rfl⟩
  | cons byte rest =>
      have filled : Answer.value nesting status (byte :: rest) = (Json.ofBytes nesting (byte :: rest)).mapError _ :=
        if_neg nofun
      rw [filled, Understands]
      cases read : Json.ofBytes nesting (byte :: rest) with
      | ok value =>
          by_cases fits : asked.Fits value
          · exact .inl ⟨(asked.hingesOn_reply value).succeeds fits, .inr ⟨value, rfl, fits⟩⟩
          · refine .inr (.inr ⟨(asked.hingesOn_reply value).escapes fits, ?_⟩)
            rintro (empty | malformed | ⟨other, same, fit⟩)
            · cases empty
            · cases malformed
            · exact fits (Except.ok.inj same ▸ fit)
      | error fault =>
          have unread (other : fault ≠ .malformed) : ¬(byte :: rest = [] ∨
              (.error fault : Except Json.Fault PathStore.Reply) = .error .malformed ∨
              ∃ value, (.error fault : Except Json.Fault PathStore.Reply) = .ok value ∧ asked.Fits value) := by
            rintro (empty | malformed | ⟨value, same, -⟩)
            · cases empty
            · exact other (Except.error.inj malformed)
            · cases same
          cases fault with
          | malformed => exact .inr (.inl ⟨⟨_, rfl⟩, nofun, rfl⟩)
          | undecodable => exact .inr (.inr ⟨⟨_, rfl, rfl⟩, unread nofun⟩)
          | tooManyDigits count => exact .inr (.inr ⟨⟨_, rfl, rfl⟩, unread nofun⟩)
          | tooNested => exact .inr (.inr ⟨⟨_, rfl, rfl⟩, unread nofun⟩)

end Management

namespace Service

variable {σ : Type}

/-- What a success makes of what is asked is decided by its body alone. An answer comes if the body is empty or holds
JSON that fits what is asked. A body that is no JSON at all is reported as an error of the service. Any other body is
not understood, and what comes of it is no failure of a storage. -/
theorem success_is_answered_or_reported_iff (service : Service) (wire : Wire σ) (asked : Management) {state after : σ}
    {request : Request} {response : Response} {content : Bytes}
    (made : service.managing (asked.url service) = .ok request)
    (carried : wire.send request state = (.ok response, after)) (whole : response.content = .ok content)
    (success : response.isSuccess = true) :
    let outcome := (service.carryOut wire asked state).1
    ((∃ reply, outcome = .ok reply) ↔
        content = [] ∨ ∃ value, Json.ofBytes service.platform.nesting content = .ok value ∧ asked.Fits value) ∧
      ((∃ error, outcome = .error (.service error)) ↔
        content ≠ [] ∧ Json.ofBytes service.platform.nesting content = .error .malformed) ∧
      ((∃ reply, outcome = .ok reply) ∨ (∃ error, outcome = .error (.service error)) ↔
        asked.Understands service.platform.nesting content) ∧
      (¬asked.Understands service.platform.nesting content →
        ∃ failure, outcome = .error failure ∧ failure.category.isStorage = false) := by
  intro outcome
  have same : outcome = Answer.value service.platform.nesting response.status content >>= asked.reply :=
    congrArg Prod.fst (carryOut_of_success made carried whole success)
  obtain ⟨⟨reply, answered⟩, fits⟩ | ⟨⟨error, reported⟩, filled, malformed⟩ | ⟨⟨failure, escaped, foreign⟩, strange⟩ :=
    asked.reply_cases service.platform.nesting response.status content
  · have given : outcome = .ok reply := same.trans answered
    have understood : asked.Understands service.platform.nesting content := fits.imp_right .inr
    refine ⟨iff_of_true ⟨reply, given⟩ fits, iff_of_false ?_ ?_, iff_of_true (.inl ⟨reply, given⟩) understood,
      absurd understood⟩
    · rintro ⟨error, failed⟩
      cases given.symm.trans failed
    · rintro ⟨filled, malformed⟩
      obtain empty | ⟨value, read, -⟩ := fits
      · exact filled empty
      · cases read.symm.trans malformed
  · have given : outcome = .error (.service error) := same.trans reported
    have understood : asked.Understands service.platform.nesting content := .inr (.inl malformed)
    refine ⟨iff_of_false ?_ ?_, iff_of_true ⟨error, given⟩ ⟨filled, malformed⟩,
      iff_of_true (.inr ⟨error, given⟩) understood, absurd understood⟩
    · rintro ⟨reply, answered⟩
      cases given.symm.trans answered
    · rintro (empty | ⟨value, read, -⟩)
      · exact filled empty
      · cases read.symm.trans malformed
  · have given : outcome = .error failure := same.trans escaped
    have unanswered : ¬∃ reply, outcome = .ok reply := fun ⟨reply, answered⟩ => nomatch given.symm.trans answered
    have unreported : ¬∃ error, outcome = .error (.service error) := by
      rintro ⟨error, reported⟩
      obtain rfl := Except.error.inj (given.symm.trans reported)
      cases foreign
    exact ⟨iff_of_false unanswered fun fits => strange (fits.imp_right .inr),
      iff_of_false unreported fun malformed => strange (.inr (.inl malformed.2)),
      iff_of_false (fun outcome => outcome.elim unanswered unreported) strange, fun _ => ⟨failure, given, foreign⟩⟩

section Sample

/-- A description of a key is asked for, and answered by what a wire brings. -/
theorem exists_sent_stat (content : Bytes) :
    ∃ request, Driver.sampleService.managing ((Management.stat "reg/a").url Driver.sampleService) = .ok request ∧
      (Driver.answeringWire (Driver.plainResponse 200 content)).send request () =
        (.ok (Driver.plainResponse 200 content), ()) := by
  obtain ⟨request, made, absolute⟩ := Driver.exists_request_stat_sampleService
  have named : (Driver.sampleService.managing ((Management.stat "reg/a").url Driver.sampleService)).map some =
      .ok (some request) := made
  obtain ⟨other, managed, same⟩ := Outcome.map_eq_ok_iff.mp named
  obtain rfl := Option.some.inj same
  exact ⟨other, managed, Driver.send_answeringWire absolute 200 content⟩

/-- The description of an object whose size is written as a numeral with blanks and an underscore. -/
def writtenSize : String := "\x7b\"fsize\":\" 1_0 \"\x7d"

theorem ofBytes_writtenSize :
    Json.ofBytes Driver.sampleService.platform.nesting (Utf8.encode writtenSize) =
      .ok (.object [("fsize", .text " 1_0 ")]) := by
  have decoded : Json.decode? (Utf8.encode writtenSize) = some (Json.symbols writtenSize.toList) := by decide +kernel
  have read : Json.read Driver.sampleService.platform.nesting (Json.symbols writtenSize.toList) =
      .ok (.object [("fsize", .text " 1_0 ")]) := by cbv
  rw [Json.ofBytes, decoded]
  exact read

end Sample

/-- A size in such a numeral is understood. -/
theorem stat_reads_written_size :
    ∃ reply, (Driver.sampleService.carryOut
      (Driver.answeringWire (Driver.plainResponse 200 (Utf8.encode writtenSize))) (.stat "reg/a") ()).1 =
        .ok reply := by
  obtain ⟨request, made, carried⟩ := exists_sent_stat (Utf8.encode writtenSize)
  obtain ⟨answered, -⟩ := success_is_answered_or_reported_iff Driver.sampleService _ (.stat "reg/a") made carried
    (Driver.content_plainResponse 200 _) rfl
  have size : Json.IsWhole (.text " 1_0 ") := by
    have numeral : (Numeral.integer? (LooseText.mended '?' " 1_0 ")).isSome = true := by decide +kernel
    exact numeral
  have described : Answer.Describes [("fsize", .text " 1_0 ")] := by
    refine List.forall_mem_cons.mpr ⟨fun held found => ?_, List.forall_mem_singleton.mpr fun held found => ?_⟩
    · exact Option.some.inj found ▸ size
    · cases found
  exact answered.mpr (.inr ⟨_, ofBytes_writtenSize, _, rfl, described⟩)

/-- A success whose body is no text in any encoding of JSON ends a description neither with what is stored nor as an
error of the service. -/
theorem stat_escapes_undecodable_success :
    (Driver.plainResponse 200 [0xFF]).isSuccess = true ∧
      (Driver.sampleService.stat (Driver.answeringWire (Driver.plainResponse 200 [0xFF])) "reg/a" ()).1 =
        .error .undecodable := by
  obtain ⟨request, made, carried⟩ := exists_sent_stat [0xFF]
  have done := carryOut_of_success made carried (Driver.content_plainResponse 200 [0xFF]) rfl
  have undecoded : Json.decode? [0xFF] = none := by decide +kernel
  have read : Answer.value Driver.sampleService.platform.nesting (Driver.plainResponse 200 [0xFF]).status [0xFF] =
      .error .undecodable := by
    rw [Answer.value, if_neg (by decide), Json.ofBytes, undecoded]
    rfl
  rw [read] at done
  exact ⟨rfl, congrArg Prod.fst done⟩

end Service
end PathStore
