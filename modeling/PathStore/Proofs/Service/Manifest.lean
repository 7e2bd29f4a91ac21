/-
This file reads the forms of compositions as the receiving service does: the manifest lists its entries in order, and
each entry names an object or a file of the form.
-/
import PathStore.Proofs.Json.Reading
import PathStore.Proofs.Program.Outcomes
import PathStore.Service.Form

namespace PathStore

namespace UploadForm

/-- An entry of a manifest: a range of an object, or a file of the form with its size. -/
inductive Entry where
  | range (key : String) (start stop : Int)
  | file (name : String) (size : Int)
  deriving DecidableEq, Repr

/-- The entry that a value of a manifest describes. -/
def Entry.ofReply? (value : Reply) : Option Entry :=
  match value.member? (.whole "key"), value.member? (.whole "from"), value.member? (.whole "to") with
  | some (.text (.whole key)), some (.integer start), some (.integer stop) => some (.range key start stop)
  | _, _, _ =>
      match value.member? (.whole "file"), value.member? (.whole "size") with
      | some (.text (.whole name)), some (.integer size) => some (.file name size)
      | _, _ => none

/-- The text that a form has under a name. -/
def text? (name : String) : List FormField → Option String
  | [] => none
  | .text known value :: rest => if known = name then some value else text? name rest
  | .file .. :: rest => text? name rest

/-- The content of the file that a form has under a name. -/
def file? (name : String) : List FormField → Option Bytes
  | [] => none
  | .text .. :: rest => file? name rest
  | .file known _ content :: rest => if known = name then some content else file? name rest

/-- How many containers stand one inside the other in a manifest. -/
def manifestDepth : Nat := 2

/-- The entries that the text of a manifest lists. -/
def readManifest? (text : String) : Option (List Entry) :=
  match Json.read manifestDepth (Json.symbols text.toList) with
  | .ok (.array items) => items.mapM Entry.ofReply?
  | _ => none

/-- The entries that the manifest of a form lists. -/
def entries? (fields : List FormField) : Option (List Entry) := (text? "parts" fields).bind readManifest?

/-- The entries that describe parts, of which the files are named by their positions. -/
def entriesOf : Nat → List Part → List Entry
  | _, [] => []
  | index, .range key start stop :: rest => .range key start stop :: entriesOf (index + 1) rest
  | index, .bytes _ length :: rest => .file (partName index) length :: entriesOf (index + 1) rest
  | index, .foreign _ :: rest => entriesOf (index + 1) rest

theorem partName_injective {first second : Nat} (same : partName first = partName second) : first = second := by
  have digits : (toString first).toList = (toString second).toList := by
    have texts := congrArg String.toList same
    rw [partName, partName, String.toList_append, String.toList_append] at texts
    exact List.append_cancel_left texts
  have numbers : Nat.toDigits 10 first = Nat.toDigits 10 second := by
    rwa [← Nat.toList_repr, ← Nat.toList_repr]
  have spelled := Numeral.digits?_toDigits first
  rw [numbers, Numeral.digits?_toDigits] at spelled
  exact (Option.some.inj spelled).symm

/-- The values of a manifest describe the parts that they are written for. -/
theorem mapM_ofReply?_of_manifestEntries {index : Nat} {parts : List Part} {values : List Json}
    (described : manifestEntries index parts = .ok values) :
    (Json.looseItems values).mapM Entry.ofReply? = some (entriesOf index parts) := by
  induction parts generalizing index values with
  | nil =>
      obtain rfl := Except.ok.inj described
      rfl
  | cons part rest ih =>
      obtain ⟨value, entry, later⟩ := Outcome.bind_eq_ok_iff.mp described
      obtain ⟨others, entries, whole⟩ := Outcome.bind_eq_ok_iff.mp later
      obtain rfl := Except.ok.inj whole
      cases part with
      | range key start stop =>
          obtain rfl := Except.ok.inj entry
          rw [Json.looseItems, List.mapM_cons, ih entries]
          rfl
      | bytes source length =>
          obtain rfl := Except.ok.inj entry
          rw [Json.looseItems, List.mapM_cons, ih entries]
          rfl
      | foreign typeName => cases entry

/-- An integer that is written has no more digits than are read. -/
theorem natAbs_lt_of_isWritable {number : Int} (writable : Credentials.isWritable number = true) :
    number.natAbs < 10 ^ Numeral.digitLimit := by
  rw [Credentials.isWritable, Numeral.isWritable] at writable
  generalize Numeral.digitLimit = limit at writable ⊢
  exact of_decide_eq_true writable

/-- The entry of a part reads back as it was written. -/
theorem isLegible_of_manifestEntry {index : Nat} {part : Part} {value : Json}
    (described : manifestEntry index part = .ok value) (writable : isWritable part = true) :
    Json.IsLegible 1 value := by
  have number {number : Int} (written : Credentials.isWritable number = true) :
      Json.IsLegible 0 (.integer number) := Json.isLegible_integer.mpr (natAbs_lt_of_isWritable written)
  cases part with
  | range key start stop =>
      obtain rfl := Except.ok.inj described
      rw [isWritable, Bool.and_eq_true] at writable
      have distinct : ["key", "from", "to"].Nodup := by decide
      refine ⟨distinct, ?_⟩
      rintro ⟨name, value⟩ member
      simp only [List.mem_cons, List.not_mem_nil, or_false, Prod.mk.injEq] at member
      obtain ⟨-, rfl⟩ | ⟨-, rfl⟩ | ⟨-, rfl⟩ := member
      · exact Json.isLegible_text 0 key
      · exact number writable.1
      · exact number writable.2
  | bytes source length =>
      obtain rfl := Except.ok.inj described
      rw [isWritable] at writable
      have distinct : ["file", "size"].Nodup := by decide
      refine ⟨distinct, ?_⟩
      rintro ⟨name, value⟩ member
      simp only [List.mem_cons, List.not_mem_nil, or_false, Prod.mk.injEq] at member
      obtain ⟨-, rfl⟩ | ⟨-, rfl⟩ := member
      · exact Json.isLegible_text 0 (partName index)
      · exact number writable
  | foreign typeName => cases described

theorem isLegible_of_manifestEntries {index : Nat} {parts : List Part} {values : List Json}
    (described : manifestEntries index parts = .ok values) (writable : ∀ part ∈ parts, isWritable part = true) :
    ∀ value ∈ values, Json.IsLegible 1 value := by
  induction parts generalizing index values with
  | nil =>
      obtain rfl := Except.ok.inj described
      nofun
  | cons part rest ih =>
      obtain ⟨value, entry, later⟩ := Outcome.bind_eq_ok_iff.mp described
      obtain ⟨others, entries, whole⟩ := Outcome.bind_eq_ok_iff.mp later
      obtain rfl := Except.ok.inj whole
      have first : Json.IsLegible 1 value := isLegible_of_manifestEntry entry (writable part List.mem_cons_self)
      have remaining := ih entries fun part member => writable part (List.mem_cons_of_mem _ member)
      exact List.forall_mem_cons.mpr ⟨first, remaining⟩

/-- The manifest of a form lists the entries of the parts that it was written for. -/
theorem entries?_of_manifest {parts : List Part} {values : List Json} {text : String}
    (described : manifestEntries 0 parts = .ok values) (written : manifest parts values = .ok text)
    {fields : List FormField} (held : text? "parts" fields = some text) :
    entries? fields = some (entriesOf 0 parts) := by
  rw [manifest] at written
  split at written
  · rename_i writable
    obtain rfl := Except.ok.inj written
    have legible : Json.IsLegible manifestDepth (.array values) :=
      isLegible_of_manifestEntries described (List.all_eq_true.mp writable)
    rw [entries?, held, Option.bind_some, readManifest?, Json.read_write legible]
    exact mapM_ofReply?_of_manifestEntries described
  · cases written

end UploadForm
end PathStore
