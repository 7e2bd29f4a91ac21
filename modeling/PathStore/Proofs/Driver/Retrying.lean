/-
This file shows what repeated attempts to delete a path leave where faults meet the calls to a store. An attempt fails
only with the error of a fault and takes away nothing but keys at the path or below it. The attempt that ends the row
leaves none of them, whatever those before it took away, and it comes once the faults are used up.
-/
import Mathlib.Data.List.Nodup
import Mathlib.Data.List.Perm.Subperm
import PathStore.Proofs.Driver.Atomicity
import PathStore.Proofs.Driver.Deleting
import PathStore.Proofs.Program.Meeting

namespace PathStore

namespace Disturbance

variable {τ : Type}

/-- Whether no disturbance of a list or a delete has the code for a missing key. -/
def Honest (schedule : Schedule τ) : Prop :=
  ∀ call plan disturbance, call.operation = .list ∨ call.operation = .delete →
    (schedule call plan).1 = some disturbance → disturbance.error.code ≠ ServiceError.noSuchKey

/-- Whether a number bounds the disturbances that a schedule has left: no call raises it, and each disturbance lowers
it. -/
structure Bounds (schedule : Schedule τ) (left : τ → Nat) : Prop where
  le : ∀ call plan, left (schedule call plan).2 ≤ left plan
  lt : ∀ call plan disturbance, (schedule call plan).1 = some disturbance → left (schedule call plan).2 < left plan

/-- A plan of faults without the code for a missing key disturbs by no such code. -/
theorem drawOf_honest : Honest (Fault.drawOf fun disturbance => disturbance.error.code ≠ ServiceError.noSuchKey) :=
  fun call plan _ _ drawn => Fault.drawOf_kind _ call plan drawn

/-- The disturbances that are left in a plan are those planned. -/
theorem drawOf_bounds (kind : Disturbance → Prop) : Bounds (Fault.drawOf kind) fun plan => Fault.planned plan.1 where
  le call plan := (Fault.planned_draw call plan.1).symm ▸ Nat.le_add_right _ _
  lt call plan disturbance drawn := by
    have taken := Fault.planned_draw call plan.1
    rw [show (Fault.draw call plan.1).1 = some disturbance from drawn] at taken
    exact taken ▸ Nat.lt_succ_self _

end Disturbance

/-- Whether a bucket is an earlier one without some of the keys at a key or below it. -/
def Bucket.Thins (key : String) (before after : Bucket) : Prop :=
  ∀ other, after.find? other = before.find? other ∨ Root.isWithin key other = true ∧ after.find? other = none

namespace Bucket.Thins

variable {key : String} {before between after : Bucket}

theorem refl (key : String) (bucket : Bucket) : Thins key bucket bucket := fun _ => .inl rfl

theorem trans (first : Thins key before between) (second : Thins key between after) : Thins key before after := by
  intro other
  rcases second other with same | gone
  · rw [same]
    exact first other
  · exact .inr gone

/-- Keys at a key or below it may be taken away. -/
theorem eraseAll {removed : List (String × StoredObject)} (within : ∀ entry ∈ removed, Root.isWithin key entry.1 = true)
    (bucket : Bucket) : Thins key bucket (bucket.eraseAll removed) := by
  intro other
  rw [find?_eraseAll]
  split
  · rename_i listed
    obtain ⟨entry, member, same⟩ := List.any_eq_true.mp listed
    obtain rfl : entry.1 = other := of_decide_eq_true same
    exact .inr ⟨within entry member, rfl⟩
  · exact .inl rfl

/-- What is taken away makes a bucket no larger. -/
theorem size_le (thins : Thins key before after) : after.size ≤ before.size := by
  have keys : (after.entries.map Prod.fst).Pairwise (· < ·) := List.pairwise_map.mpr after.sorted
  have distinct : after.entries.Nodup := keys.nodup.of_map Prod.fst
  have kept : after.entries ⊆ before.entries := by
    intro entry member
    have found := (after.mem_entries_iff entry.1 entry.2).mp member
    rcases thins entry.1 with same | ⟨-, gone⟩
    · exact (before.mem_entries_iff entry.1 entry.2).mpr (same ▸ found)
    · rw [gone] at found
      cases found
  exact (List.subperm_of_subset distinct kept).length_le

end Bucket.Thins

/-- A call that a program meets on a store alone is met in a workspace with that store. -/
theorem Workspace.exists_meets {α σ : Type} {answer : (call : Call) → σ → Except Failure call.Reply × σ}
    {program : Program α} {workspace : Workspace σ} {call : Call} {next : Except Failure call.Reply → Program α}
    {met : σ}
    (meets : program.Meets (reply answer workspace.hasDirectory) call workspace.store next met) :
    ∃ there : Workspace σ, program.Meets (perform answer) call workspace next there ∧ there.store = met := by
  induction program generalizing workspace with
  | done outcome => cases meets
  | act action rest ih =>
      obtain ⟨sameReply, sameStore, sameDirectory⟩ := perform_reply answer action workspace
      cases meets with
      | here => exact ⟨workspace, .here _ workspace, rfl⟩
      | later meets =>
          rw [← sameReply, ← sameStore, ← sameDirectory] at meets
          obtain ⟨there, met, same⟩ := ih _ meets
          exact ⟨there, .later met, same⟩

namespace Driver

section Stopped

variable {α β τ : Type} (clock : Clock) (schedule : Disturbance.Schedule τ) (hasDirectory : Bool)

/-- What the actions of a driver do on a store whose calls are disturbed. -/
abbrev disturbedReply (action : Action) (state : Store × τ) : Except Failure action.Reply × (Store × τ) :=
  Workspace.reply (Disturbance.disturb schedule (Store.answer clock)) hasDirectory action state

/-- Whether a call of a program meets a disturbance and the program ends with the error of it. -/
def IsStopped (program : Program α) (state : Store × τ) : Prop :=
  ∃ call next met disturbance, program.Meets (disturbedReply clock schedule hasDirectory) call state next met ∧
    (schedule call met.2).1 = some disturbance ∧
    (program.run (disturbedReply clock schedule hasDirectory) state).1 = .error (.service disturbance.error)

variable {clock schedule hasDirectory} {program : Program α} {later : α → Program β} {state : Store × τ}

theorem IsStopped.fails (stopped : IsStopped clock schedule hasDirectory program state) :
    ∃ failure, (program.run (disturbedReply clock schedule hasDirectory) state).1 = .error failure := by
  obtain ⟨-, -, -, disturbance, -, -, failed⟩ := stopped
  exact ⟨.service disturbance.error, failed⟩

/-- What stops a program stops it also where more would follow. -/
theorem IsStopped.bind (stopped : IsStopped clock schedule hasDirectory program state) :
    IsStopped clock schedule hasDirectory (program >>= later) state := by
  obtain ⟨call, next, met, disturbance, meets, drawn, failed⟩ := stopped
  exact ⟨call, _, met, disturbance, meets.andThen _, drawn, congrArg Prod.fst (Program.run_bind_of_error failed)⟩

/-- What stops the program that follows a success stops the whole. -/
theorem IsStopped.of_ok {value : α}
    (succeeded : (program.run (disturbedReply clock schedule hasDirectory) state).1 = .ok value)
    (stopped : IsStopped clock schedule hasDirectory (later value)
      (program.run (disturbedReply clock schedule hasDirectory) state).2) :
    IsStopped clock schedule hasDirectory (program >>= later) state := by
  obtain ⟨call, next, met, disturbance, meets, drawn, failed⟩ := stopped
  refine ⟨call, next, met, disturbance, Program.Meets.of_run ?_, drawn, ?_⟩
  · rw [succeeded]
    exact meets
  · rw [Program.run_bind_of_ok succeeded]
    exact failed

end Stopped

/-- Deleting a key fails as its call does, unless the call reports the key as missing. -/
theorem deleteIfPresent_outcome {σ : Type} (answer : (call : Call) → σ → Except Failure call.Reply × σ)
    (hasDirectory : Bool) (state : σ) (key : String) :
    ((deleteIfPresent key).run (Workspace.reply answer hasDirectory) state).1 =
      match (answer (.delete key) state).1 with
      | .ok () => .ok ()
      | .error failure => if failure.isNoSuchKey then .ok () else .error failure := by
  rw [run_deleteIfPresent]
  rcases answer (.delete key) state with ⟨reply, after⟩
  cases reply <;> rfl

section Prunes

variable {α β τ : Type} (clock : Clock) (schedule : Disturbance.Schedule τ) (hasDirectory : Bool) (key : String)

/-- Whether a program gives a value and takes entries away, or is stopped with only keys at a key or below it gone. -/
def Prunes (program : Program α) (state : Store × τ) (value : α) (removed : List (String × StoredObject)) : Prop :=
  let result := program.run (disturbedReply clock schedule hasDirectory) state
  result.1 = .ok value ∧ result.2.1.bucket = state.1.bucket.eraseAll removed ∨
    IsStopped clock schedule hasDirectory program state ∧ state.1.bucket.Thins key result.2.1.bucket

variable {clock schedule hasDirectory key} {state : Store × τ}

theorem prunes_pure (value : α) : Prunes clock schedule hasDirectory key (pure value) state value [] :=
  .inl ⟨rfl, (state.1.bucket.eraseAll_nil).symm⟩

/-- One program after the other takes away what both do. -/
theorem Prunes.bind {program : Program α} {later : α → Program β} {value : α} {last : β}
    {removed others : List (String × StoredObject)} (within : ∀ entry ∈ removed, Root.isWithin key entry.1 = true)
    (first : Prunes clock schedule hasDirectory key program state value removed)
    (rest : ∀ after : Store × τ, after.1.bucket = state.1.bucket.eraseAll removed →
      Prunes clock schedule hasDirectory key (later value) after last others) :
    Prunes clock schedule hasDirectory key (program >>= later) state last (removed ++ others) := by
  rcases first with ⟨succeeded, erased⟩ | ⟨stopped, thinned⟩
  · have whole : (program >>= later).run (disturbedReply clock schedule hasDirectory) state = _ :=
      Program.run_bind_of_ok succeeded
    rw [Prunes, whole, Bucket.eraseAll_append, ← erased]
    apply (rest _ erased).imp_right
    intro ⟨stopped, thinned⟩
    exact ⟨.of_ok succeeded stopped, (Bucket.Thins.eraseAll within _).trans (erased ▸ thinned)⟩
  · right
    obtain ⟨failure, failed⟩ := stopped.fails
    have whole : (program >>= later).run (disturbedReply clock schedule hasDirectory) state = _ :=
      Program.run_bind_of_error failed
    rw [whole]
    exact ⟨stopped.bind, thinned⟩

/-- A program that takes nothing away leaves it to what follows. -/
theorem Prunes.bind_of_same {program : Program α} {later : α → Program β} {value : α} {last : β}
    {removed : List (String × StoredObject)}
    (first : Prunes clock schedule hasDirectory key program state value [])
    (rest : ∀ after : Store × τ, after.1.bucket = state.1.bucket →
      Prunes clock schedule hasDirectory key (later value) after last removed) :
    Prunes clock schedule hasDirectory key (program >>= later) state last removed :=
  first.bind (List.forall_mem_nil _) fun after same => rest after (same.trans state.1.bucket.eraseAll_nil)

/-- What is made of a value takes nothing more away. -/
theorem Prunes.map {program : Program α} {value : α} {removed : List (String × StoredObject)}
    (within : ∀ entry ∈ removed, Root.isWithin key entry.1 = true)
    (prunes : Prunes clock schedule hasDirectory key program state value removed) (change : α → β) :
    Prunes clock schedule hasDirectory key (program >>= fun value => pure (change value)) state (change value)
      removed := by
  rw [← List.append_nil removed]
  apply prunes.bind within
  intro after _
  exact prunes_pure (change value)

/-- A page is as without disturbances, or it is not given and its disturbance stops the program. -/
theorem prunes_page (query : ListQuery) {found : ListPage}
    (paged : Store.answer clock (.list query) state.1 = (.ok found, state.1)) :
    Prunes clock schedule hasDirectory key (page query) state found [] := by
  have kept : (Disturbance.disturb schedule (Store.answer clock) (.list query) state).2.1 = state.1 := by
    rw [Disturbance.disturb_state, paged, ite_self]
  rw [Prunes, run_page, kept]
  cases drawn : (schedule (.list query) state.2).1 with
  | none =>
      left
      rw [Disturbance.disturb_reply_of_none schedule (Store.answer clock) _ state drawn, paged, Bucket.eraseAll_nil]
      exact ⟨rfl, rfl⟩
  | some disturbance =>
      right
      refine ⟨⟨.list query, _, state, disturbance, .here _ state, drawn, ?_⟩, .refl key _⟩
      rw [run_page, Disturbance.disturb_reply_eq schedule (Store.answer clock) _ state drawn, paged]
      exact ite_self _

variable (honest : Disturbance.Honest schedule)
include honest

/-- A key at a key or below it is taken away, or it stays or goes and a disturbance stops the program. -/
theorem prunes_deleteIfPresent {entry : String × StoredObject} (within : Root.isWithin key entry.1 = true) :
    Prunes clock schedule hasDirectory key (deleteIfPresent entry.1) state () [entry] := by
  have single : state.1.bucket.eraseAll [entry] = state.1.bucket.erase entry.1 := by
    rw [Bucket.eraseAll_cons, Bucket.eraseAll_nil]
  have thins : state.1.bucket.Thins key (state.1.bucket.erase entry.1) :=
    single ▸ .eraseAll (List.forall_mem_singleton.mpr within) _
  have outcome := deleteIfPresent_outcome (Disturbance.disturb schedule (Store.answer clock)) hasDirectory state entry.1
  have left := congrArg Prod.fst
    (run_deleteIfPresent_state (Disturbance.disturb schedule (Store.answer clock)) hasDirectory state entry.1)
  rw [disturbed_delete_store] at left
  rw [Prunes, left, single]
  cases drawn : (schedule (.delete entry.1) state.2).1 with
  | none =>
      left
      rw [outcome, Disturbance.disturb_reply_of_none schedule (Store.answer clock) _ state drawn, answer_delete]
      refine ⟨?_, rfl⟩
      cases (state.1.bucket.find? entry.1).isSome <;> rfl
  | some disturbance =>
      have told : (Failure.service disturbance.error).isNoSuchKey = false :=
        decide_eq_false (honest _ _ _ (.inr rfl) drawn)
      rw [Disturbance.disturb_reply_eq schedule (Store.answer clock) _ state drawn, answer_delete] at outcome
      have stops (failed : ((deleteIfPresent entry.1).run (disturbedReply clock schedule hasDirectory) state).1 =
          .error (.service disturbance.error)) :
          IsStopped clock schedule hasDirectory (deleteIfPresent entry.1) state :=
        ⟨.delete entry.1, _, state, disturbance, .here _ state, drawn, failed⟩
      cases isAfter : disturbance.isAfter with
      | false =>
          right
          rw [Disturbance.takesEffect, isAfter]
          exact ⟨stops (by simp [outcome, isAfter, told]), .refl key _⟩
      | true =>
          rw [Disturbance.takesEffect, isAfter]
          cases stored : (state.1.bucket.find? entry.1).isSome with
          | true => exact .inr ⟨stops (by simp [outcome, isAfter, stored, told, Disturbance.spoil]), thins⟩
          | false =>
              -- The call itself reports that the key is missing, which comes before the disturbance.
              exact .inl ⟨by rw [outcome, isAfter, stored]; rfl, rfl⟩

/-- Of listed entries those at a key or below it are taken away, unless a disturbance stops that. -/
theorem prunes_deleteItems (entries : List (String × StoredObject)) :
    Prunes clock schedule hasDirectory key (deleteItems key (entries.map fun entry => entry.2.info entry.1)) state
      (entries.filter (Root.isWithin key ·.1)).length (entries.filter (Root.isWithin key ·.1)) := by
  induction entries generalizing state with
  | nil => exact prunes_pure 0
  | cons entry rest ih =>
      have read : keyWithin key (entry.2.info entry.1).key =
          .ok (if Root.isWithin key entry.1 then some entry.1 else none) := rfl
      rw [List.map_cons, deleteItems, read, List.filter_cons]
      by_cases within : Root.isWithin key entry.1 = true
      · simp only [within, if_true]
        apply (prunes_deleteIfPresent honest within).bind (List.forall_mem_singleton.mpr within)
        intro after _
        exact ih.map (fun entry member => (List.mem_filter.mp member).2) (· + 1)
      · simp only [within, Bool.false_eq_true, if_false]
        exact ih

/-- Deleting page by page takes away the keys after a marker that are at the key or below it, whatever the size of the
pages, unless a disturbance stops that. -/
theorem prunes_deletePages (driver : Driver) (positive : 1 ≤ driver.listLimit) (marker : String) (pages : Nat)
    (enough : (state.1.bucket.entriesAfter key marker).length < pages) :
    let found := (state.1.bucket.entriesAfter key marker).filter (Root.isWithin key ·.1)
    Prunes clock schedule hasDirectory key (driver.deletePages key pages (.text marker)) state found.length found := by
  induction pages generalizing marker state with
  | zero => exact absurd enough (Nat.not_lt_zero _)
  | succ pages ih =>
      obtain ⟨front, back, next, split, -, paged, ends⟩ := answer_list_cases clock
        { stem := key, marker := .text marker, limit := driver.listLimit } rfl positive state.1
      have within : ∀ entry ∈ front.filter (Root.isWithin key ·.1), Root.isWithin key entry.1 = true :=
        fun entry member => (List.mem_filter.mp member).2
      simp only [Bucket.objects_without_delimiter] at paged
      rw [deletePages, split, List.filter_append]
      apply (prunes_page _ paged).bind_of_same
      intro listed same
      rcases ends with ⟨last, rfl⟩ | ⟨more, shorter, -, rest⟩
      · simp only [last, Bool.false_eq_true, if_false, List.filter_nil]
        rw [List.append_nil]
        exact (prunes_deleteItems honest front).map within id
      · simp only [more, if_true]
        apply (prunes_deleteItems honest front).bind within
        intro after erased
        have remaining : after.1.bucket.entriesAfter key next = back := by
          rw [erased, same]
          exact Bucket.entriesAfter_eraseAll split rest fun entry member => (List.mem_filter.mp member).1
        have goesOn := @ih after next (remaining ▸ Nat.lt_of_lt_of_le shorter (Nat.le_of_lt_succ enough))
        rw [remaining] at goesOn
        rw [List.length_append]
        exact goesOn.map (fun entry member => (List.mem_filter.mp member).2) _

variable (clock hasDirectory) in
/-- A delete at a path takes away its key and the keys below it and fails if there are none, unless a disturbance stops
it. -/
theorem prunes_deletePath (driver : Driver) (positive : 1 ≤ driver.listLimit) {path : String}
    (valid : Path.isValid path = true) (pages : Nat) (enough : state.1.bucket.size < pages) :
    let key := driver.root.keyFor path
    let result := (driver.deletePath path pages).run (disturbedReply clock schedule hasDirectory) state
    result.1 = (if state.1.bucket.tree key = [] then .error (.pathNotFound path) else .ok ()) ∧
        result.2.1.bucket = state.1.bucket.eraseAll (state.1.bucket.tree key) ∨
      IsStopped clock schedule hasDirectory (driver.deletePath path pages) state ∧
        state.1.bucket.Thins key result.2.1.bucket := by
  intro key result
  have fewer : (state.1.bucket.entriesAfter key "").length < pages :=
    Nat.lt_of_le_of_lt (List.length_filter_le _ _) enough
  have checked : driver.deletePath path pages = driver.deletePages key pages (.text "") >>= fun count =>
      if count = 0 then Program.fail (.pathNotFound path) else pure () := by
    rw [deletePath, checkPath_of_isValid valid, pure_bind]
  have prunes : Prunes clock schedule hasDirectory key (driver.deletePages key pages (.text "")) state _ _ :=
    prunes_deletePages honest driver positive "" pages fewer
  rw [← Bucket.tree] at prunes
  rcases prunes with ⟨succeeded, erased⟩ | ⟨stopped, thinned⟩
  · left
    have whole : result = _ := (congrArg (Program.run _ · state) checked).trans (Program.run_bind_of_ok succeeded)
    simp only [whole, List.length_eq_zero_iff]
    split <;> exact ⟨rfl, erased⟩
  · right
    obtain ⟨failure, failed⟩ := stopped.fails
    have whole : result = _ := (congrArg (Program.run _ · state) checked).trans (Program.run_bind_of_error failed)
    rw [whole, checked]
    exact ⟨stopped.bind, thinned⟩

end Prunes

section Bounds

variable {α τ : Type} (clock : Clock) {schedule : Disturbance.Schedule τ} (hasDirectory : Bool) {left : τ → Nat}
  (bounds : Disturbance.Bounds schedule left)
include bounds

theorem left_reply_le (action : Action) (state : Store × τ) :
    left (disturbedReply clock schedule hasDirectory action state).2.2 ≤ left state.2 := by
  cases action with
  | store call =>
      show left (Disturbance.disturb schedule (Store.answer clock) call state).2.2 ≤ _
      rw [Disturbance.disturb_plan]
      exact bounds.le call state.2
  | _ => exact Nat.le_refl _

theorem left_run_le (program : Program α) (state : Store × τ) :
    left (program.run (disturbedReply clock schedule hasDirectory) state).2.2 ≤ left state.2 := by
  induction program generalizing state with
  | done outcome => exact Nat.le_refl _
  | act action next ih => exact Nat.le_trans (ih _ _) (left_reply_le clock hasDirectory bounds action state)

/-- What stops a program is one disturbance less for what comes after. -/
theorem left_lt_of_isStopped {program : Program α} {state : Store × τ}
    (stopped : IsStopped clock schedule hasDirectory program state) :
    left (program.run (disturbedReply clock schedule hasDirectory) state).2.2 < left state.2 := by
  obtain ⟨call, next, met, disturbance, meets, drawn, -⟩ := stopped
  induction meets with
  | here next state =>
      have after := left_run_le clock hasDirectory bounds
        (next (Disturbance.disturb schedule (Store.answer clock) call state).1)
        (Disturbance.disturb schedule (Store.answer clock) call state).2
      rw [Disturbance.disturb_plan] at after
      exact Nat.lt_of_le_of_lt after (bounds.lt call state.2 disturbance drawn)
  | later meets ih => exact Nat.lt_of_lt_of_le (ih drawn) (left_reply_le clock hasDirectory bounds _ _)

end Bounds

section Retries

variable {τ : Type} (clock : Clock) (schedule : Disturbance.Schedule τ) (driver : Driver) (path : String) (pages : Nat)

/-- One attempt to delete a path. -/
def attempt (workspace : Workspace (Store × τ)) : Except Failure Unit × Workspace (Store × τ) :=
  Workspace.run (Disturbance.disturb schedule (Store.answer clock)) (driver.deletePath path pages) workspace

/-- Whether no attempt follows: one that succeeds or finds nothing is the last. -/
def IsLast (outcome : Except Failure Unit) : Prop := outcome = .ok () ∨ outcome = .error (.pathNotFound path)

/-- The workspaces in which attempts are made, after so many that were not the last. -/
inductive Retried (start : Workspace (Store × τ)) : Nat → Workspace (Store × τ) → Prop where
  | first : Retried start 0 start
  | next {count : Nat} {workspace : Workspace (Store × τ)} (retried : Retried start count workspace)
      (goesOn : ¬IsLast path (attempt clock schedule driver path pages workspace).1) :
      Retried start (count + 1) (attempt clock schedule driver path pages workspace).2

variable {schedule path pages}

/-- An attempt is the last and takes away all that is at the key of the path or below it, or a disturbance ends it. -/
theorem attempt_cases (honest : Disturbance.Honest schedule) (positive : 1 ≤ driver.listLimit)
    (valid : Path.isValid path = true) {workspace : Workspace (Store × τ)}
    (enough : workspace.store.1.bucket.size < pages) :
    let key := driver.root.keyFor path
    let result := attempt clock schedule driver path pages workspace
    IsLast path result.1 ∧
        result.2.store.1.bucket = workspace.store.1.bucket.eraseAll (workspace.store.1.bucket.tree key) ∨
      IsStopped clock schedule workspace.hasDirectory (driver.deletePath path pages) workspace.store ∧
        workspace.store.1.bucket.Thins key result.2.store.1.bucket := by
  intro key result
  obtain ⟨outcome, stored⟩ := Workspace.run_alone (Disturbance.disturb schedule (Store.answer clock))
    (driver.deletePath path pages) workspace
  have cases := prunes_deletePath clock workspace.hasDirectory honest driver positive valid pages enough
  dsimp only at cases
  rw [← stored, ← outcome] at cases
  apply cases.imp_left
  intro ⟨ended, erased⟩
  refine ⟨?_, erased⟩
  rw [IsLast, show result.1 = _ from ended]
  split
  · exact .inr rfl
  · exact .inl rfl

/-- An attempt that a disturbance ends is not the last. -/
theorem not_isLast_of_isStopped {workspace : Workspace (Store × τ)}
    (stopped : IsStopped clock schedule workspace.hasDirectory (driver.deletePath path pages) workspace.store) :
    ¬IsLast path (attempt clock schedule driver path pages workspace).1 := by
  obtain ⟨-, -, -, disturbance, -, -, failed⟩ := stopped
  rw [attempt, (Workspace.run_alone _ _ workspace).1, failed]
  rintro (succeeded | missing)
  · cases succeeded
  · cases missing

/-- An attempt takes away nothing but keys at the key of the path or below it. -/
theorem attempt_thins (honest : Disturbance.Honest schedule) (positive : 1 ≤ driver.listLimit)
    (valid : Path.isValid path = true) {workspace : Workspace (Store × τ)}
    (enough : workspace.store.1.bucket.size < pages) :
    workspace.store.1.bucket.Thins (driver.root.keyFor path)
      (attempt clock schedule driver path pages workspace).2.store.1.bucket := by
  rcases attempt_cases clock driver honest positive valid enough with ⟨-, erased⟩ | ⟨-, thins⟩
  · rw [erased]
    exact .eraseAll (fun entry member => (List.mem_filter.mp member).2) _
  · exact thins

/-- Attempts that were not the last took away nothing but keys at the key of the path or below it. -/
theorem retried_thins (honest : Disturbance.Honest schedule) (positive : 1 ≤ driver.listLimit)
    (valid : Path.isValid path = true) {start workspace : Workspace (Store × τ)} {count : Nat}
    (enough : start.store.1.bucket.size < pages)
    (retried : Retried clock schedule driver path pages start count workspace) :
    start.store.1.bucket.Thins (driver.root.keyFor path) workspace.store.1.bucket := by
  induction retried with
  | first => exact .refl _ _
  | next retried goesOn ih =>
      exact ih.trans (attempt_thins clock driver honest positive valid (Nat.lt_of_le_of_lt ih.size_le enough))

/-- Each attempt that was not the last took a disturbance away. -/
theorem retried_left (honest : Disturbance.Honest schedule) (positive : 1 ≤ driver.listLimit)
    (valid : Path.isValid path = true) {left : τ → Nat} (bounds : Disturbance.Bounds schedule left)
    {start workspace : Workspace (Store × τ)} {count : Nat} (enough : start.store.1.bucket.size < pages)
    (retried : Retried clock schedule driver path pages start count workspace) :
    left workspace.store.2 + count ≤ left start.store.2 := by
  induction retried with
  | first => exact Nat.le_refl _
  | @next count workspace retried goesOn ih =>
      have thins := retried_thins clock driver honest positive valid enough retried
      have fewer := Nat.lt_of_le_of_lt thins.size_le enough
      rcases attempt_cases clock driver honest positive valid fewer with ⟨last, -⟩ | ⟨stopped, -⟩
      · exact absurd last goesOn
      · have less : left (attempt clock schedule driver path pages workspace).2.store.2 < left workspace.store.2 := by
          rw [attempt, (Workspace.run_alone _ _ workspace).2]
          exact left_lt_of_isStopped clock _ bounds stopped
        omega

/-- A last attempt comes where a number bounds the disturbances. -/
theorem exists_last {left : τ → Nat} {start : Workspace (Store × τ)}
    (bounded : ∀ count workspace, Retried clock schedule driver path pages start count workspace →
      left workspace.store.2 + count ≤ left start.store.2) :
    ∃ count workspace, Retried clock schedule driver path pages start count workspace ∧
      IsLast path (attempt clock schedule driver path pages workspace).1 := by
  by_contra none
  have goesOn : ∀ count, ∃ workspace, Retried clock schedule driver path pages start count workspace := by
    intro count
    induction count with
    | zero => exact ⟨start, .first⟩
    | succ count ih =>
        obtain ⟨workspace, retried⟩ := ih
        exact ⟨_, .next retried fun last => none ⟨count, workspace, retried, last⟩⟩
  obtain ⟨workspace, retried⟩ := goesOn (left start.store.2 + 1)
  have := bounded _ workspace retried
  omega

/-- Attempts to delete a path that are repeated under faults. Each takes away only keys at the key of the path or below
it, and one that is not the last fails with the error of a fault that met one of its calls. The last leaves the store
that was there first without those keys; and it comes after at most as many attempts as there are faults. -/
theorem deletePath_retried (start : Workspace (Store × τ)) (honest : Disturbance.Honest schedule)
    (positive : 1 ≤ driver.listLimit) (valid : Path.isValid path = true)
    (enough : start.store.1.bucket.size < pages) :
    let key := driver.root.keyFor path
    let isTree (other : String) : Prop := other = key ∨ Root.startsWith other (key ++ "/") = true
    (∀ count workspace, Retried clock schedule driver path pages start count workspace →
      let before := workspace.store.1.bucket
      let result := attempt clock schedule driver path pages workspace
      let after := result.2.store.1.bucket
      (∀ other, after.find? other = before.find? other ∨ isTree other ∧ after.find? other = none) ∧
        (¬IsLast path result.1 →
          ∃ call next met disturbance,
            (driver.deletePath path pages).Meets (disturbed clock schedule) call workspace next met ∧
              (schedule call met.store.2).1 = some disturbance ∧
              result.1 = .error (.service disturbance.error)) ∧
        (IsLast path result.1 →
          ∀ other, (isTree other → after.find? other = none) ∧
            (¬isTree other → after.find? other = start.store.1.bucket.find? other))) ∧
    ∀ left, Disturbance.Bounds schedule left →
      ∃ count workspace, count ≤ left start.store.2 ∧
        Retried clock schedule driver path pages start count workspace ∧
          IsLast path (attempt clock schedule driver path pages workspace).1 := by
  intro key isTree
  have filled : key ≠ "" := driver.root.keyFor_ne_empty valid
  have tree : ∀ other, Root.isWithin key other = true ↔ isTree other := Root.isWithin_iff filled
  constructor
  · intro count workspace retried before result after
    have since := retried_thins clock driver honest positive valid enough retried
    have fewer := Nat.lt_of_le_of_lt since.size_le enough
    refine ⟨fun other => ?_, fun goesOn => ?_, fun last other => ?_⟩
    · apply (attempt_thins clock driver honest positive valid fewer other).imp_right
      exact And.imp_left (tree other).mp
    · rcases attempt_cases clock driver honest positive valid fewer with ⟨last, -⟩ | ⟨stopped, -⟩
      · exact absurd last goesOn
      · obtain ⟨call, next, met, disturbance, meets, drawn, failed⟩ := stopped
        obtain ⟨there, reached, rfl⟩ := Workspace.exists_meets meets
        exact ⟨call, next, there, disturbance, reached, drawn, (Workspace.run_alone _ _ workspace).1.trans failed⟩
    · rcases attempt_cases clock driver honest positive valid fewer with ⟨-, erased⟩ | ⟨stopped, -⟩
      · have removed : after = before.eraseAll (before.tree key) := erased
        rw [removed, before.find?_eraseAll_tree filled]
        refine ⟨fun inTree => if_pos ((tree other).mpr inTree), fun outside => ?_⟩
        rw [if_neg (outside ∘ (tree other).mp)]
        exact (since other).resolve_right fun gone => outside ((tree other).mp gone.1)
      · exact absurd last (not_isLast_of_isStopped clock driver stopped)
  · intro left bounds
    have bounded (count : Nat) (workspace : Workspace (Store × τ))
        (retried : Retried clock schedule driver path pages start count workspace) :
        left workspace.store.2 + count ≤ left start.store.2 :=
      retried_left clock driver honest positive valid bounds enough retried
    obtain ⟨count, workspace, retried, last⟩ := exists_last clock driver bounded
    refine ⟨count, workspace, ?_, retried, last⟩
    have := bounded count workspace retried
    omega

end Retries

/-- A failed page, a delete that fails and one that takes effect all the same put the end of the row off by one attempt
each. -/
theorem deletePath_retried_thrice :
    let faults : List Fault := [
      { operation := .list, disturbance := { error := ⟨599, .text "timeout", none⟩ } },
      { operation := .delete, disturbance := { error := ⟨500, .text "internal error", none⟩, isAfter := true } },
      { operation := .delete, subject := some "reg/a/b", disturbance := { error := ⟨400, .text "bad", none⟩ } }]
    let schedule := Fault.drawOf fun disturbance => disturbance.error.code ≠ ServiceError.noSuchKey
    let driver : Driver := ⟨.ofDirectory "/reg/", 1, 60, .standard⟩
    ∃ honest : ∀ fault ∈ faults, fault.disturbance.error.code ≠ ServiceError.noSuchKey,
      let start : Workspace (Store × _) := { store := ({ bucket := .sample }, ⟨faults, honest⟩) }
      ∃ count workspace, count ≤ 3 ∧ Retried ⟨.ofInt 1700000000⟩ schedule driver "/a" 6 start count workspace ∧
        let result := attempt ⟨.ofInt 1700000000⟩ schedule driver "/a" 6 workspace
        IsLast "/a" result.1 ∧ result.2.store.1.bucket.find? "reg/a/b" = none ∧
          (result.2.store.1.bucket.find? "reg/a-x").map StoredObject.content = some [4] := by
  intro faults schedule driver
  refine ⟨by decide, ?_⟩
  intro start
  have key : driver.root.keyFor "/a" = "reg/a" := by decide
  have sibling : (Bucket.sample.find? "reg/a-x").map StoredObject.content = some [4] := by decide
  have repeated := deletePath_retried ⟨.ofInt 1700000000⟩ driver start Disturbance.drawOf_honest (by decide)
    (show Path.isValid "/a" = true by decide) (show Bucket.sample.size < 6 by decide)
  rw [key] at repeated
  obtain ⟨each, ends⟩ := repeated
  obtain ⟨count, workspace, most, retried, last⟩ := ends _ (Disturbance.drawOf_bounds _)
  obtain ⟨-, -, left⟩ := each count workspace retried
  refine ⟨count, workspace, most, retried, last, (left last "reg/a/b").1 (by decide), ?_⟩
  rw [(left last "reg/a-x").2 (by decide)]
  exact sibling

end Driver
end PathStore
