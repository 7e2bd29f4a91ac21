/-
This file shows that a composition is worth the same to the store in memory and to the service that receives its form:
the entries of the manifest, taken in order from the stored objects and the files of the form, give the bytes that the
store takes from the parts.
-/
import PathStore.Part.Splice
import PathStore.Proofs.Service.Manifest
import PathStore.Proofs.Source.Delivery

namespace PathStore

/-- A slice between two positions drops what lies before the first of what lies before the second. -/
theorem Bytes.slice_some (bytes : Bytes) (start stop : Nat) :
    bytes.slice start (some (stop : Int)) = (bytes.take stop).drop start := by
  have clamped (index : Nat) : clampIndex bytes.length (index : Int) = min index bytes.length := by
    unfold clampIndex
    split <;> omega
  simp only [slice, clamped]
  rw [← List.take_eq_take_min]
  by_cases inside : start ≤ bytes.length
  · rw [Nat.min_eq_left inside]
  · have short : (bytes.take stop).length ≤ bytes.length := List.length_take_le' stop bytes
    rw [Nat.min_eq_right (by omega), List.drop_eq_nil_of_le short, List.drop_eq_nil_of_le (by omega)]

namespace Composition

/-- Whether a part can be sent and composed alike: a range with bounds that are not negative, or no more bytes than one
read may ask the source for. -/
def Admits (sources : List Source) : Part → Prop
  | .range _ start stop => 0 ≤ start ∧ (stop = Part.toEnd ∨ 0 ≤ stop)
  | .bytes index length => 0 ≤ length ∧ (source sources index).Grants length
  | .foreign _ => False

/-- What a part asks of its source does not change when the source is read. -/
theorem limit?_source_set {sources : List Source} {index : Nat} {used : Source}
    (same : used.limit? = (source sources index).limit?) (other : Nat) :
    (source (sources.set index used) other).limit? = (source sources other).limit? := by
  by_cases here : index = other
  · subst here
    by_cases inside : index < sources.length
    · rw [← same, source, List.getD_eq_getElem?_getD, List.getElem?_set_self inside]
      rfl
    · rw [List.set_eq_of_length_le (by omega)]
  · rw [source, source, List.getD_eq_getElem?_getD, List.getElem?_set_ne here, List.getD_eq_getElem?_getD]

theorem Admits.set {sources : List Source} {index : Nat} {used : Source}
    (same : used.limit? = (source sources index).limit?) {part : Part} (admits : Admits sources part) :
    Admits (sources.set index used) part := by
  cases part with
  | range key start stop => exact admits
  | foreign typeName => exact admits
  | bytes other length => exact ⟨admits.1, fun limit limits => admits.2 limit (limit?_source_set same other ▸ limits)⟩

theorem isSound_source {sources : List Source} (sound : ∀ source ∈ sources, source.IsSound) (index : Nat) :
    (source sources index).IsSound := by
  rw [source, List.getD_eq_getElem?_getD]
  cases found : sources[index]? with
  | none => trivial
  | some held => exact sound held (List.mem_of_getElem? found)

/-- Sources that are alike one by one. -/
def Alike (first second : List Source) : Prop := first.map (·.skip 0) = second.map (·.skip 0)

variable {sources held : List Source}

theorem Alike.source (alike : Alike sources held) (index : Nat) :
    (source sources index).Alike (source held index) := by
  have settled (sources : List Source) : (Composition.source sources index).skip 0 =
      (sources.map (·.skip 0)).getD index (Source.skip (.pieces []) 0) := by
    rw [List.getD_eq_getElem?_getD, List.getElem?_map, Option.getD_map, Composition.source, List.getD_eq_getElem?_getD]
  rw [Source.Alike, settled, settled, alike]

theorem Alike.set (alike : Alike sources held) {left used : Source} (same : left.Alike used) (index : Nat) :
    Alike (sources.set index left) (held.set index used) := by
  rw [Alike, List.map_set, List.map_set, alike, same]

end Composition

namespace UploadForm

/-- The bytes that an entry of a form takes from the stored objects or from the files of the form. -/
def Entry.content (find : String → Option Bytes) (fields : List FormField) : Entry → Except Failure Bytes
  | .range key start stop =>
      match find key with
      | none => .error Composition.noSuchObject
      | some held => .ok ((if stop = Part.toEnd then held else held.take stop.toNat).drop start.toNat)
  | .file name size =>
      match file? name fields with
      | none => .error (.missingMember name)
      | some held => if held.length < size then .error (Composition.shortPart size held.length) else .ok held

/-- The bytes that the entries of a form add up to in order. -/
def evaluate (find : String → Option Bytes) (fields : List FormField) : Except Failure Bytes :=
  match entries? fields with
  | none => .error .undecodable
  | some entries => (entries.mapM (Entry.content find fields)).map List.flatten

/-- Whether the entries of a form come, one after the other, to a file that is shorter than its size. -/
def ComesToShortFile (find : String → Option Bytes) (fields : List FormField) : Prop :=
  ∃ before name size after held, entries? fields = some (before ++ .file name size :: after) ∧
    (∀ entry ∈ before, ∃ content, entry.content find fields = .ok content) ∧
    file? name fields = some held ∧ (held.length : Int) < size

/-- The files of parts from an index on, each of which is sent in its turn by reads of any sizes. -/
inductive SendsFiles : Nat → List Part → List Source → List FormField → Prop
  | done (index : Nat) (sources : List Source) : SendsFiles index [] sources []
  | range {index : Nat} {rest : List Part} {sources : List Source} {files : List FormField} (key : String)
      (start stop : Int) (sends : SendsFiles (index + 1) rest sources files) :
      SendsFiles index (.range key start stop :: rest) sources files
  | bytes {index source : Nat} {length : Int} {rest : List Part} {sources : List Source} {files : List FormField}
      {sent : Bytes} {last : Bounded} (file : (Bounded.mk (Composition.source sources source) length).Sends sent last)
      (sends : SendsFiles (index + 1) rest (sources.set source last.source) files) :
      SendsFiles index (.bytes source length :: rest) sources
        (.file (partName index) (partName index) sent :: files)

/-- Whether a form describes a composition for a key and carries its files. -/
def Sends (key : String) (composition : Composition) (fields : List FormField) : Prop :=
  ∃ token entries text files, manifestEntries 0 composition.parts = .ok entries ∧
    manifest composition.parts entries = .ok text ∧ SendsFiles 0 composition.parts composition.sources files ∧
    fields = .text "token" token :: .text "key" key :: .text "parts" text :: files

section Evaluation

variable {find : String → Option Bytes} {fields : List FormField}

theorem content_range {key : String} {start stop : Int} {held : Bytes} (found : find key = some held)
    (notNegative : 0 ≤ start) (bounded : stop = Part.toEnd ∨ 0 ≤ stop) :
    Entry.content find fields (.range key start stop) =
      .ok (held.slice start (if stop = Part.toEnd then none else some stop)) := by
  obtain ⟨first, rfl⟩ := Int.eq_ofNat_of_zero_le notNegative
  rw [Entry.content, found]
  dsimp only
  by_cases toEnd : stop = Part.toEnd
  · rw [if_pos toEnd, if_pos toEnd, Bytes.slice_none, Int.toNat_natCast]
  · obtain ⟨last, rfl⟩ := Int.eq_ofNat_of_zero_le (bounded.resolve_left toEnd)
    rw [if_neg toEnd, if_neg toEnd, Bytes.slice_some, Int.toNat_natCast, Int.toNat_natCast]

/-- The store takes from parts what the entries that describe them take from a form with their files; both go through
the parts in order, and use up like sources alike. -/
theorem evaluateParts_eq {index : Nat} {parts : List Part} {sources held : List Source} {files : List FormField}
    (sends : SendsFiles index parts sources files) (alike : Composition.Alike sources held)
    (admits : ∀ part ∈ parts, Composition.Admits held part)
    (named : ∀ later ≥ index, file? (partName later) fields = file? (partName later) files) :
    Composition.evaluateParts find parts held =
      ((entriesOf index parts).mapM (Entry.content find fields)).map List.flatten := by
  induction sends generalizing held with
  | done index sources => rfl
  | @range index rest sources files key start stop sends ih =>
      obtain ⟨notNegative, bounded⟩ := admits _ List.mem_cons_self
      have later := ih alike (fun part member => admits part (List.mem_cons_of_mem _ member))
        fun later above => named later (Nat.le_of_succ_le above)
      rw [entriesOf, List.mapM_cons]
      cases found : find key with
      | none =>
          rw [Composition.evaluateParts, found, Entry.content, found]
          rfl
      | some content =>
          rw [Composition.evaluateParts_range found, later, content_range found notNegative bounded]
          cases (entriesOf (index + 1) rest).mapM (Entry.content find fields) <;> rfl
  | @bytes index source length rest sources files sent last file sends ih =>
      obtain ⟨notNegative, grants⟩ := admits _ List.mem_cons_self
      obtain ⟨used, reading, same⟩ := Source.readExactly_of_sends file (alike.source source) grants
      have kind : used.limit? = (Composition.source held source).limit? :=
        same.limit?_eq.symm.trans (file.limit?_eq.trans (alike.source source).limit?_eq)
      have carried : file? (partName index) fields = some sent := by
        rw [named index (Nat.le_refl index), file?, if_pos rfl]
      have others : ∀ later ≥ index + 1, file? (partName later) fields = file? (partName later) files := by
        intro later above
        have different : partName index ≠ partName later := fun same => absurd (partName_injective same) (by omega)
        rw [named later (Nat.le_of_succ_le above), file?, if_neg different]
      have later := ih (alike.set same source)
        (fun part member => (admits part (List.mem_cons_of_mem _ member)).set kind) others
      have most : sent.length ≤ length.toNat := file.length_le
      rw [entriesOf, List.mapM_cons, Entry.content, carried]
      dsimp only
      by_cases short : (sent.length : Int) < length
      · rw [if_pos short, Composition.evaluateParts, reading]
        dsimp only
        rw [if_pos (Int.ne_of_lt short)]
        rfl
      · have full : (sent.length : Int) = length := by omega
        rw [if_neg short, Composition.evaluateParts_bytes reading full, later]
        cases (entriesOf (index + 1) rest).mapM (Entry.content find fields) <;> rfl

end Evaluation

section Agreement

variable {key : String} {composition : Composition} {fields : List FormField}

/-- A form that is sent lists what describes the parts. -/
theorem Sends.entries?_eq (sends : Sends key composition fields) :
    entries? fields = some (entriesOf 0 composition.parts) := by
  obtain ⟨token, values, text, files, described, written, carried, rfl⟩ := sends
  exact entries?_of_manifest described written (by simp [text?])

/-- A form that is sent evaluates to what the parts add up to. -/
theorem Sends.evaluate_eq (find : String → Option Bytes) (sends : Sends key composition fields)
    (admits : ∀ part ∈ composition.parts, Composition.Admits composition.sources part) :
    evaluate find fields = composition.evaluate find := by
  have listed := sends.entries?_eq
  obtain ⟨token, values, text, files, described, written, carried, rfl⟩ := sends
  rw [evaluate, listed, Composition.evaluate]
  exact (evaluateParts_eq carried rfl admits fun _ _ => rfl).symm

variable {find : String → Option Bytes}

theorem shortPart_cases (expected : Int) (found : Nat) :
    Composition.shortPart expected found = .value .unwritable ∨
      ∃ message, Composition.shortPart expected found = .service ⟨400, message, none⟩ := by
  rw [Composition.shortPart]
  split
  · exact .inr ⟨_, rfl⟩
  · exact .inl rfl

/-- A part that is too short is told apart from all else that goes wrong. -/
theorem shortPart_ne (expected : Int) (found : Nat) :
    Composition.noSuchObject ≠ Composition.shortPart expected found ∧
      (∀ name, .missingMember name ≠ Composition.shortPart expected found) ∧
      .undecodable ≠ Composition.shortPart expected found := by
  rcases shortPart_cases expected found with same | ⟨message, same⟩ <;> rw [same]
  · exact ⟨nofun, nofun, nofun⟩
  · refine ⟨fun alike => ?_, nofun, nofun⟩
    have codes : ServiceError.noSuchKey = (400 : Int) := congrArg ServiceError.code (Failure.service.inj alike)
    exact absurd codes (by decide)

/-- A file is too short just for an entry that is a file with fewer bytes than its size. -/
theorem Entry.content_eq_shortPart_iff {entry : Entry} :
    (∃ expected found, entry.content find fields = .error (Composition.shortPart expected found)) ↔
      ∃ name size held, entry = .file name size ∧ file? name fields = some held ∧ (held.length : Int) < size := by
  constructor
  · rintro ⟨expected, found, fails⟩
    cases entry with
    | range key start stop =>
        rw [content] at fails
        cases stored : find key with
        | none =>
            rw [stored] at fails
            exact absurd (Except.error.inj fails) (shortPart_ne expected found).1
        | some held =>
            rw [stored] at fails
            cases fails
    | file name size =>
        rw [content] at fails
        cases carried : file? name fields with
        | none =>
            rw [carried] at fails
            exact absurd (Except.error.inj fails) ((shortPart_ne expected found).2.1 name)
        | some held =>
            rw [carried] at fails
            dsimp only at fails
            split at fails
            · rename_i short
              exact ⟨name, size, held, rfl, carried, short⟩
            · cases fails
  · rintro ⟨name, size, held, rfl, carried, short⟩
    refine ⟨size, held.length, ?_⟩
    rw [content, carried]
    exact if_pos short

theorem evaluate_eq_shortPart_iff :
    (∃ expected found, evaluate find fields = .error (Composition.shortPart expected found)) ↔
      ComesToShortFile find fields := by
  cases listed : entries? fields with
  | none =>
      rw [evaluate, listed]
      constructor
      · rintro ⟨expected, found, fails⟩
        exact absurd (Except.error.inj fails) (shortPart_ne expected found).2.2
      · rintro ⟨before, name, size, after, held, split, -⟩
        rw [listed] at split
        cases split
  | some entries =>
      have failing (failure : Failure) : evaluate find fields = .error failure ↔
          entries.mapM (Entry.content find fields) = .error failure := by
        rw [evaluate, listed]
        exact Outcome.map_eq_error_iff
      constructor
      · rintro ⟨expected, found, fails⟩
        obtain ⟨before, entry, after, rfl, done, short⟩ := Outcome.mapM_eq_error_iff.mp ((failing _).mp fails)
        obtain ⟨name, size, held, rfl, carried, below⟩ := Entry.content_eq_shortPart_iff.mp ⟨expected, found, short⟩
        exact ⟨before, name, size, after, held, listed, done, carried, below⟩
      · rintro ⟨before, name, size, after, held, split, done, carried, below⟩
        obtain rfl := Option.some.inj (listed.symm.trans split)
        obtain ⟨expected, found, short⟩ := Entry.content_eq_shortPart_iff.mpr ⟨name, size, held, rfl, carried, below⟩
        exact ⟨expected, found, (failing _).mpr (Outcome.mapM_eq_error_iff.mpr ⟨before, _, after, rfl, done, short⟩)⟩

end Agreement

end UploadForm

end PathStore
