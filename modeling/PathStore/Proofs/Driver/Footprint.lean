/-
This file bounds the calls of a driver, whatever is replied to them. They name, list and compose from keys below the
root only, and put objects only under the keys of well-formed paths.
-/
import PathStore.Proofs.Bucket.Regions
import PathStore.Proofs.Driver.Steps
import PathStore.Proofs.Program.Footprint
import PathStore.Proofs.Root.Keys

namespace PathStore

/-- The key under which a call may put an object. -/
def Call.created? : Call → Option String
  | .put key .. | .putFile key _ | .putParts key _ => some key
  | .move _ target => some target
  | _ => none

namespace Root

/-- Whether an action puts objects only under the keys of well-formed paths. -/
def Permits (root : Root) : Action → Prop
  | .store call => ∀ key, call.created? = some key → ∃ path, Path.isValid path = true ∧ key = root.keyFor path
  | _ => True

/-- Whether a key is that of the root or lies below it. -/
def owns (root : Root) (key : String) : Bool := isWithin root.baseKey key

/-- Whether an action touches only keys that the root owns, and puts objects only under those of well-formed paths. -/
def Confines (root : Root) : Action → Prop
  | .store call => call.Within root.owns ∧ root.Permits (.store call)
  | _ => True

theorem Confines.permits {root : Root} {action : Action} (confined : root.Confines action) : root.Permits action := by
  cases action with
  | store call => exact confined.2
  | _ => trivial

section Owns

variable (root : Root) {path key : String}

/-- The root owns every key that begins with the stem of its keys. -/
theorem owns_of_stem (begins : startsWith key root.stem = true) : root.owns key = true := by
  rw [owns, isWithin, Bool.or_eq_true]
  exact .inr begins

/-- The root owns what is listed for the children of a path. -/
theorem owns_of_childStem (wellFormed : Path.isValid path true = true)
    (begins : startsWith key (childStem (root.keyFor path)) = true) : root.owns key = true := by
  rw [root.childStem_keyFor wellFormed] at begins
  exact root.owns_of_stem (startsWith_of_append begins)

variable (valid : Path.isValid path = true)
include valid

/-- The root owns what begins with the key of a path. -/
theorem owns_of_keyFor (begins : startsWith key (root.keyFor path) = true) : root.owns key = true := by
  obtain ⟨names, rfl, row⟩ := (Path.isValid_iff path).mp valid
  rw [root.keyFor_row row] at begins
  exact root.owns_of_stem (startsWith_of_append begins)

theorem owns_keyFor : root.owns (root.keyFor path) = true :=
  root.owns_of_keyFor valid (startsWith_iff.mpr ⟨"", (String.append_empty).symm⟩)

/-- The root owns what lies at the key of a path or below it. -/
theorem owns_of_isWithin (within : isWithin (root.keyFor path) key = true) : root.owns key = true :=
  root.owns_of_keyFor valid (startsWith_of_isWithin (root.keyFor_ne_empty valid) within)

end Owns
end Root

/-- A plan takes its ranges from the object that is written to. -/
theorem Existing.plan_within {existing : Existing} {offset written : Int} {incoming : Source}
    {composition : Composition} (planned : existing.plan offset incoming written = .ok composition)
    {region : String → Bool} (inside : region existing.key = true) :
    ∀ part ∈ composition.parts, part.Within region := by
  have parts : composition.parts = existing.planParts offset written := by
    rw [plan] at planned
    split at planned
    · cases planned
    · exact congrArg Composition.parts (Except.ok.inj planned).symm
  intro part member
  rw [parts] at member
  cases part with
  | range key start stop =>
      have same : key = existing.key := by
        simp only [planParts, tail] at member
        grind
      exact same ▸ inside
  | _ => trivial

namespace Driver

variable (driver : Driver)

section Steps

variable {root : Root} {α : Type}

/-- A path that is checked is well formed in what follows. -/
theorem performs_checkPath {allowed : Action → Prop} {path : String} {allowRoot : Bool} {next : Program α}
    (later : Path.isValid path allowRoot = true → next.Performs allowed) :
    (checkPath path allowRoot >>= fun _ => next).Performs allowed := by
  by_cases valid : Path.isValid path allowRoot = true
  · rw [checkPath_of_isValid valid, pure_bind]
    exact later valid
  · rw [checkPath, if_neg valid]
    trivial

theorem performs_checkOffset {allowed : Action → Prop} (host : Host) (path : String) (offset : Int) :
    (checkOffset host path offset).Performs allowed := by
  rw [checkOffset]
  split <;> trivial

theorem performs_checkNoted {allowed : Action → Prop} (host : Host) (offset : Int) :
    (checkNoted host offset).Performs allowed := by
  rw [checkNoted]
  split <;> trivial

/-- A call among owned keys that puts no object anywhere is confined. -/
theorem confines_of_not_creating {call : Call} (within : call.Within root.owns) (creates : call.created? = none) :
    root.Confines (.store call) := by
  refine ⟨within, fun key created => ?_⟩
  rw [creates] at created
  cases created

/-- A call among owned keys that puts an object under the key of a well-formed path is confined. -/
theorem confines_of_created {path : String} (valid : Path.isValid path = true) {call : Call}
    (within : call.Within root.owns) (creates : call.created? = some (root.keyFor path)) :
    root.Confines (.store call) := by
  refine ⟨within, fun key created => ?_⟩
  rw [creates] at created
  exact ⟨path, valid, (Option.some.inj created).symm⟩

theorem performs_stat {key : String} (owned : root.owns key = true) : (stat key).Performs root.Confines :=
  Program.performs_call (confines_of_not_creating owned rfl)

theorem performs_page {stem : String} (owned : ∀ key, Root.startsWith key stem = true → root.owns key = true)
    (query : ListQuery) (same : query.stem = stem) : (page query).Performs root.Confines := by
  subst same
  exact Program.performs_call (confines_of_not_creating owned rfl)

theorem performs_deleteIfPresent {allowed : Action → Prop} {key : String} (permitted : allowed (.store (.delete key))) :
    (deleteIfPresent key).Performs allowed :=
  Program.performs_recover (Program.performs_call permitted) fun failure => by
    cases failure.isNoSuchKey <;> trivial

/-- A key that is listed for a tree is in it. -/
theorem isWithin_of_keyWithin {key text : String} {listed : Reply} (kept : keyWithin key listed = .ok (some text)) :
    Root.isWithin key text = true := by
  rw [keyWithin] at kept
  split at kept
  · rename_i found _
    by_cases within : Root.isWithin key found = true
    · rw [if_pos within] at kept
      exact Option.some.inj (Except.ok.inj kept) ▸ within
    · rw [if_neg within] at kept
      cases kept
  · split at kept <;> cases kept
  · cases kept

theorem performs_deleteItems {allowed : Action → Prop} {key : String}
    (permitted : ∀ other, Root.isWithin key other = true → allowed (.store (.delete other))) (items : List ObjectInfo) :
    (deleteItems key items).Performs allowed := by
  induction items with
  | nil => trivial
  | cons item rest ih =>
      apply Program.performs_ofExcept_bind
      intro found kept
      cases found with
      | none => exact ih
      | some text =>
          have present := performs_deleteIfPresent (permitted text (isWithin_of_keyWithin kept))
          exact Program.performs_bind present fun _ => Program.performs_bind ih fun _ => trivial

theorem performs_describeObject (path : String) {key : String} (owned : root.owns key = true) :
    (describeObject path key).Performs root.Confines := by
  rw [describeObject]
  split
  · trivial
  · apply Program.performs_andThen (performs_stat owned)
    intro outcome
    cases outcome with
    | ok info => exact Program.performs_bind (Program.performs_ofExcept _) fun _ => trivial
    | error failure => cases missing : failure.isNoSuchKey <;> simp only [missing] <;> trivial

theorem performs_rangeWrite (host : Host) {path : String} (valid : Path.isValid path = true) (size : Int)
    (isStored : Bool) (offset : Int) (reader : Reader) :
    (rangeWrite host ⟨root.keyFor path, size, isStored⟩ offset reader).Performs root.Confines := by
  have owned := root.owns_keyFor valid
  apply Program.performs_bind (performs_checkOffset host _ offset)
  intro _
  apply Program.performs_bind (Program.performs_perform trivial)
  intro _
  refine Program.performs_followedBy ?_ trivial
  apply Program.performs_bind (Program.performs_perform trivial)
  intro content
  cases isStored with
  | false => exact Program.performs_bind (Program.performs_call (confines_of_created valid owned rfl)) fun _ => trivial
  | true =>
      apply Program.performs_ofExcept_bind
      intro composition planned
      have within : (Call.putParts (root.keyFor path) composition).Within root.owns :=
        ⟨owned, Existing.plan_within planned owned⟩
      apply Program.performs_bind (performs_checkNoted host offset)
      intro _
      exact Program.performs_bind (Program.performs_call (confines_of_created valid within rfl)) fun _ => trivial

end Steps

theorem performs_putContent (path : String) (content : Bytes) :
    (driver.putContent path content).Performs driver.root.Confines := by
  apply performs_checkPath
  intro valid
  exact Program.performs_call (confines_of_created valid (driver.root.owns_keyFor valid) rfl)

theorem performs_writeStream (path : String) (offset : Int) (reader : Reader) :
    (driver.writeStream path offset reader).Performs driver.root.Confines := by
  apply performs_checkPath
  intro valid
  apply Program.performs_bind (performs_checkOffset driver.host path offset)
  intro _
  -- What is looked up has the key of the path, which no bound on actions tells.
  show ((Program.andThen _ _).andThen _).Performs _
  rw [Program.andThen_andThen]
  apply Program.performs_andThen (performs_stat (driver.root.owns_keyFor valid))
  intro outcome
  cases outcome with
  | ok info => exact performs_rangeWrite driver.host valid info.size true offset reader
  | error failure =>
      cases missing : failure.isNoSuchKey with
      | false =>
          simp only [missing]
          trivial
      | true =>
          simp only [missing]
          exact performs_rangeWrite driver.host valid 0 false offset reader

theorem performs_readStream (path : String) (offset : Int) :
    (driver.readStream path offset).Performs driver.root.Confines := by
  apply performs_checkPath
  intro valid
  have owned := driver.root.owns_keyFor valid
  have within : (Call.download (driver.root.keyFor path) offset).Within driver.root.owns := owned
  apply Program.performs_bind (performs_checkOffset driver.host path offset)
  intro _
  apply Program.performs_bind (Program.performs_recover_fail (performs_stat owned) _)
  intro info
  split
  · trivial
  · exact Program.performs_recover_fail (Program.performs_call (confines_of_not_creating within rfl)) _

theorem performs_getContent (path : String) : (driver.getContent path).Performs driver.root.Confines :=
  Program.performs_bind (driver.performs_readStream path 0) fun _ => trivial

theorem performs_statPath (path : String) : (driver.statPath path).Performs driver.root.Confines := by
  apply performs_checkPath
  intro wellFormed
  have owned : driver.root.owns (driver.root.keyFor path) = true := by
    rcases Path.isValid_or_root.mp wellFormed with rfl | valid
    · rw [driver.root.keyFor_slash, Root.owns, Root.isWithin, decide_eq_true rfl, Bool.true_or]
    · exact driver.root.owns_keyFor valid
  have listed : ∀ key, Root.startsWith key (Root.childStem (driver.root.keyFor path)) = true →
      driver.root.owns key = true := fun key => driver.root.owns_of_childStem wellFormed
  -- From here on only these two facts about the key matter.
  generalize driver.root.keyFor path = key at owned listed
  apply Program.performs_bind (performs_describeObject path owned)
  intro described
  cases described with
  | some info => trivial
  | none =>
      apply Program.performs_bind (performs_page listed _ rfl)
      intro found
      split <;> trivial

theorem performs_collectPages {stem : String}
    (owned : ∀ key, Root.startsWith key stem = true → driver.root.owns key = true) (pages : Nat) (marker : Reply) :
    (driver.collectPages stem pages marker).Performs driver.root.Confines := by
  induction pages generalizing marker with
  | zero => trivial
  | succ pages ih =>
      apply Program.performs_bind (performs_page owned _ rfl)
      intro found
      apply Program.performs_bind (Program.performs_ofExcept _)
      intro files
      apply Program.performs_bind (Program.performs_ofExcept _)
      intro directories
      split
      · exact Program.performs_bind (ih found.marker) fun _ => trivial
      · trivial

theorem performs_listPath (path : String) (pages : Nat) :
    (driver.listPath path pages).Performs driver.root.Confines := by
  apply performs_checkPath
  intro wellFormed
  apply Program.performs_bind
    (driver.performs_collectPages (fun key => driver.root.owns_of_childStem wellFormed) pages _)
  rintro ⟨files, directories⟩
  dsimp only
  split <;> trivial

theorem performs_movePath (source target : String) :
    (driver.movePath source target).Performs driver.root.Confines := by
  apply performs_checkPath
  intro sourceValid
  apply performs_checkPath
  intro targetValid
  have sourceOwned := driver.root.owns_keyFor sourceValid
  have targetOwned := driver.root.owns_keyFor targetValid
  apply Program.performs_bind (Program.performs_recover_fail (performs_stat sourceOwned) _)
  intro _
  apply Program.performs_bind (performs_deleteIfPresent (confines_of_not_creating targetOwned rfl))
  intro _
  have within : (Call.move (driver.root.keyFor source) (driver.root.keyFor target)).Within driver.root.owns :=
    ⟨sourceOwned, targetOwned⟩
  exact Program.performs_recover_fail (Program.performs_call (confines_of_created targetValid within rfl)) _

theorem performs_deletePages {allowed : Action → Prop} {key : String}
    (listed : ∀ query, query.stem = key → allowed (.store (.list query)))
    (permitted : ∀ other, Root.isWithin key other = true → allowed (.store (.delete other))) (pages : Nat)
    (marker : Reply) : (driver.deletePages key pages marker).Performs allowed := by
  induction pages generalizing marker with
  | zero => trivial
  | succ pages ih =>
      apply Program.performs_bind (Program.performs_call (listed _ rfl))
      intro found
      apply Program.performs_bind (performs_deleteItems permitted found.items)
      intro count
      split
      · exact Program.performs_bind (ih found.marker) fun _ => trivial
      · trivial

/-- A delete lists what begins with the key of its path, and deletes nothing but the key and what is below it. -/
theorem performs_deletePath_within {allowed : Action → Prop} {path : String}
    (listed : Path.isValid path = true → ∀ query, query.stem = driver.root.keyFor path → allowed (.store (.list query)))
    (permitted : Path.isValid path = true → ∀ other, Root.isWithin (driver.root.keyFor path) other = true →
      allowed (.store (.delete other))) (pages : Nat) :
    (driver.deletePath path pages).Performs allowed := by
  apply performs_checkPath
  intro valid
  apply Program.performs_bind (driver.performs_deletePages (listed valid) (permitted valid) pages _)
  intro count
  split <;> trivial

theorem performs_deletePath (path : String) (pages : Nat) :
    (driver.deletePath path pages).Performs driver.root.Confines := by
  refine driver.performs_deletePath_within (fun valid query same => ?_) (fun valid other within => ?_) pages
  · have owned : (Call.list query).Within driver.root.owns := fun key begins =>
      driver.root.owns_of_keyFor valid (same ▸ begins)
    exact confines_of_not_creating owned rfl
  · have owned : (Call.delete other).Within driver.root.owns := driver.root.owns_of_isWithin valid within
    exact confines_of_not_creating owned rfl

end Driver
end PathStore
