/-
This file shows what several moves of one source to different targets leave when their calls interleave. The first of
them to make its last call takes the object to its target, and all others find nothing at the source.
-/
import PathStore.Proofs.Driver.Contending

namespace PathStore.Driver

section Programs

variable {targets : List String} {programs : List (Program Unit)}

/-- Whether each program of a row fits its place and the target there. -/
def EachFits (targets : List String) (programs : List (Program Unit)) (fits : Nat → String → Program Unit → Prop) :
    Prop :=
  ∀ (index : Nat) (target : String) (program : Program Unit), targets[index]? = some target →
    programs[index]? = some program → fits index target program

/-- One program gives way to another that fits, and those at the other places go on fitting. -/
theorem EachFits.set {fits others : Nat → String → Program Unit → Prop} (each : EachFits targets programs fits)
    {index : Nat} {target : String} (chosen : targets[index]? = some target) {next : Program Unit}
    (new : others index target next)
    (stay : ∀ place other program, place ≠ index → targets[place]? = some other → fits place other program →
      others place other program) :
    EachFits targets (programs.set index next) others := by
  intro place other program otherChosen present
  by_cases same : index = place
  · subst same
    obtain rfl := Option.some.inj (chosen.symm.trans otherChosen)
    rw [List.getElem?_set_self'] at present
    obtain ⟨_, -, rfl⟩ := Option.map_eq_some_iff.mp present
    exact new
  · rw [List.getElem?_set_ne same] at present
    exact stay place other program (Ne.symm same) otherChosen (each place other program otherChosen present)

end Programs

section Move

variable (driver : Driver) (source target : String)

/-- Whether a program is what a move has still to do before its end, and the target is free once it was deleted. -/
def Approaches (bucket : Bucket) (program : Program Unit) : Prop :=
  ∃ stage : MoveStage, stage ≠ .ended ∧ stage.IsLeft driver source target program ∧
    (stage = .placing → bucket.find? (driver.root.keyFor target) = none)

/-- Whether a program has failed because nothing is at the source, or is what a move has still to do before its end. -/
def Misses (program : Program Unit) : Prop :=
  program = .done (.error (.pathNotFound source)) ∨
    ∃ stage : MoveStage, stage ≠ .ended ∧ stage.IsLeft driver source target program

variable {driver source target} {program : Program Unit}

theorem Approaches.misses {bucket : Bucket} (approaches : Approaches driver source target bucket program) :
    Misses driver source target program := by
  obtain ⟨stage, active, left, -⟩ := approaches
  exact .inr ⟨stage, active, left⟩

variable (clock : Clock) (hasDirectory : Bool) {store : Store}

section Steps

variable (sourceValid : Path.isValid source = true) (targetValid : Path.isValid target = true)
include sourceValid targetValid

/-- Before its end a move has a call to make. -/
theorem outcome?_of_isLeft {stage : MoveStage} (active : stage ≠ .ended)
    (left : stage.IsLeft driver source target program) : program.outcome? = none := by
  cases stage with
  | describing => rw [show program = _ from left, movePath_eq_act sourceValid targetValid]; rfl
  | clearing => rw [show program = _ from left, replaceTarget_eq_act]; rfl
  | placing => rw [show program = _ from left, placeAtTarget_eq_act]; rfl
  | ended => exact absurd rfl active

/-- While the object is at the source, a step leads a move nearer to its end and makes no key be found, or it ends the
move and takes the object to the target. -/
theorem Approaches.step {object : StoredObject} (apart : driver.root.keyFor target ≠ driver.root.keyFor source)
    (found : store.bucket.find? (driver.root.keyFor source) = some object)
    (approaches : Approaches driver source target store.bucket program) :
    let stepped := program.step (Workspace.reply (Store.answer clock) hasDirectory) store
    (Approaches driver source target stepped.2.bucket stepped.1 ∧
        stepped.2.bucket.find? (driver.root.keyFor source) = some object ∧
        ∀ key, store.bucket.find? key = none → stepped.2.bucket.find? key = none) ∨
      (stepped.1 = .done (.ok ()) ∧ stepped.2.bucket.find? (driver.root.keyFor source) = none ∧
        stepped.2.bucket.find? (driver.root.keyFor target) = some object) := by
  obtain ⟨stage, active, left, free⟩ := approaches
  obtain ⟨led, stored⟩ := MoveStage.step_left sourceValid targetValid hasDirectory clock store left
  dsimp only
  cases stage with
  | describing =>
      simp only [MoveStage.advance, found] at led stored
      rw [stored]
      exact .inl ⟨⟨.clearing, by decide, led, by simp⟩, found, fun _ => id⟩
  | clearing =>
      rw [stored]
      refine .inl ⟨⟨.placing, by decide, led, fun _ => ?_⟩, ?_, fun key none => ?_⟩
      · simp [MoveStage.advance]
      · simp [MoveStage.advance, apart, found]
      · simp [MoveStage.advance, none]
  | placing =>
      have targetFree := free rfl
      rw [show program = _ from left, placeAtTarget_eq_act]
      simp only [Program.step, Workspace.reply, answer_move_free clock found targetFree]
      refine .inr ⟨rfl, ?_, ?_⟩
      · rw [Bucket.find?_rename, if_neg apart, if_pos rfl]
      · rw [Bucket.find?_rename, if_pos rfl]
  | ended => exact absurd rfl active

/-- While nothing is at the source, a step leads a move to its failure and changes no key but its target. -/
theorem Misses.step (missing : store.bucket.find? (driver.root.keyFor source) = none)
    (misses : Misses driver source target program) :
    let stepped := program.step (Workspace.reply (Store.answer clock) hasDirectory) store
    Misses driver source target stepped.1 ∧
      ∀ key, key ≠ driver.root.keyFor target → stepped.2.bucket.find? key = store.bucket.find? key := by
  dsimp only
  rcases misses with rfl | ⟨stage, active, left⟩
  · exact ⟨.inl rfl, fun _ _ => rfl⟩
  have stored := (MoveStage.step_left sourceValid targetValid hasDirectory clock store left).2
  cases stage with
  | describing =>
      rw [show program = _ from left, movePath_eq_act sourceValid targetValid]
      simp only [Program.step, Workspace.reply, answer_stat_missing clock missing]
      exact ⟨.inl rfl, fun _ _ => trivial⟩
  | clearing =>
      have led := (MoveStage.step_left sourceValid targetValid hasDirectory clock store left).1
      refine ⟨.inr ⟨.placing, by decide, led⟩, fun key other => ?_⟩
      rw [stored]
      simp [MoveStage.advance, other.symm]
  | placing =>
      simp only [MoveStage.advance, missing] at stored
      rw [stored, show program = _ from left, placeAtTarget_eq_act]
      simp only [Program.step, Workspace.reply, answer_move_missing clock missing]
      exact ⟨.inl rfl, fun _ _ => trivial⟩
  | ended => exact absurd rfl active

end Steps
end Move

section Race

variable (driver : Driver) (source : String) (targets : List String) (object : StoredObject)

/-- How far the moves of one source have come: none has ended and the object is at the source, or one has taken it to
its target and no other can. -/
inductive Race (programs : List (Program Unit)) (bucket : Bucket) : Prop where
  | undecided (found : bucket.find? (driver.root.keyFor source) = some object)
      (running : EachFits targets programs fun _ target => Approaches driver source target bucket)
  | decided {winner : Nat} {target : String} (chosen : targets[winner]? = some target)
      (gone : bucket.find? (driver.root.keyFor source) = none)
      (placed : bucket.find? (driver.root.keyFor target) = some object)
      (ends : EachFits targets programs fun index other program =>
        if index = winner then program = .done (.ok ()) else Misses driver source other program)

variable {driver source targets object}

/-- Before the first step all moves are at their beginning. -/
theorem Race.start {bucket : Bucket} (found : bucket.find? (driver.root.keyFor source) = some object) :
    Race driver source targets object (targets.map (driver.movePath source)) bucket := by
  refine .undecided found fun index target program chosen present => ?_
  rw [List.getElem?_map, chosen] at present
  obtain rfl := Option.some.inj present
  exact ⟨.describing, by decide, rfl, by simp⟩

variable (sourceValid : Path.isValid source = true) (targetsValid : ∀ target ∈ targets, Path.isValid target = true)
include sourceValid targetsValid

/-- A step of any of the moves keeps it. -/
theorem Race.step (distinct : targets.Nodup) (apart : source ∉ targets) (hasDirectory : Bool) (clock : Clock)
    {programs : List (Program Unit)} {store : Store} (race : Race driver source targets object programs store.bucket)
    {index : Nat} {target : String} (chosen : targets[index]? = some target) {program : Program Unit}
    (present : programs[index]? = some program) :
    let stepped := program.step (Workspace.reply (Store.answer clock) hasDirectory) store
    Race driver source targets object (programs.set index stepped.1) stepped.2.bucket := by
  intro stepped
  have targetValid := targetsValid target (List.mem_of_getElem? chosen)
  have keysApart : driver.root.keyFor target ≠ driver.root.keyFor source := fun same =>
    apart ((driver.root.keyFor_inj targetValid sourceValid).mp same ▸ List.mem_of_getElem? chosen)
  cases race with
  | undecided found running =>
      obtain ⟨approaches, stillFound, kept⟩ | ⟨ended, gone, placed⟩ :=
        Approaches.step clock hasDirectory sourceValid targetValid keysApart found
          (running index target program chosen present)
      · refine .undecided stillFound (running.set chosen approaches fun _ _ _ _ _ other => ?_)
        obtain ⟨stage, active, left, free⟩ := other
        exact ⟨stage, active, left, fun placing => kept _ (free placing)⟩
      · refine .decided chosen gone placed (running.set chosen ?_ fun place _ _ differs _ other => ?_)
        · rw [if_pos rfl]
          exact ended
        · rw [if_neg differs]
          exact other.misses
  | @decided winner won wonAt gone placed ends =>
      have fits := ends index target program chosen present
      dsimp only at fits
      by_cases same : index = winner
      · rw [if_pos same] at fits
        subst fits
        refine .decided wonAt gone placed (ends.set chosen ?_ fun _ _ _ _ _ => id)
        rw [if_pos same]
        rfl
      · rw [if_neg same] at fits
        obtain ⟨misses, kept⟩ := Misses.step clock hasDirectory sourceValid targetValid gone fits
        have wonValid := targetsValid won (List.mem_of_getElem? wonAt)
        -- A move that comes too late may still delete its target, but that is not where the object went.
        have wonApart : won ≠ target := fun alike =>
          same ((List.getElem?_inj (List.getElem?_eq_some_iff.mp chosen).1 distinct).mp
            (chosen.trans (alike ▸ wonAt.symm)))
        refine .decided wonAt ((kept _ keysApart.symm).trans gone) ((kept _ fun alike => ?_).trans placed)
          (ends.set chosen ?_ fun _ _ _ _ _ => id)
        · exact wonApart ((driver.root.keyFor_inj wonValid targetValid).mp alike)
        · rw [if_neg same]
          exact misses

/-- Once all moves have ended one of them has succeeded and all others have failed. -/
theorem Race.outcome {programs : List (Program Unit)} {bucket : Bucket} (filled : targets ≠ [])
    (aligned : programs.length = targets.length) (race : Race driver source targets object programs bucket)
    (ended : ∀ program ∈ programs, program.outcome?.isSome = true) :
    ∃ winner target, targets[winner]? = some target ∧
      programs = (List.range targets.length).map (fun index =>
        .done (if index = winner then .ok () else .error (.pathNotFound source))) ∧
      bucket.find? (driver.root.keyFor target) = some object ∧
      bucket.find? (driver.root.keyFor source) = none := by
  have inactive {target : String} {program : Program Unit} (validTarget : target ∈ targets)
      (present : program ∈ programs) {stage : MoveStage} (active : stage ≠ .ended)
      (left : stage.IsLeft driver source target program) : False := by
    have some := ended program present
    rw [outcome?_of_isLeft sourceValid (targetsValid target validTarget) active left] at some
    cases some
  cases race with
  | undecided found running =>
      have some : 0 < targets.length := List.length_pos_iff.mpr filled
      obtain ⟨stage, active, left, -⟩ := running 0 targets[0] (programs.get ⟨0, aligned ▸ some⟩)
        (List.getElem?_eq_getElem some) (List.getElem?_eq_getElem (aligned ▸ some))
      exact (inactive (List.getElem_mem some) (List.getElem_mem _) active left).elim
  | @decided winner target chosen gone placed ends =>
      refine ⟨winner, target, chosen, List.ext_getElem (by simp [aligned]) fun index inside _ => ?_, placed, gone⟩
      have alsoInside : index < targets.length := aligned ▸ inside
      have fits := ends index targets[index] programs[index] (List.getElem?_eq_getElem alsoInside)
        (List.getElem?_eq_getElem inside)
      dsimp only at fits
      rw [List.getElem_map, List.getElem_range]
      split at fits
      · rename_i same
        rw [fits, if_pos same]
      · rename_i differs
        rw [if_neg differs]
        obtain failed | ⟨stage, active, left⟩ := fits
        · exact failed
        · exact (inactive (List.getElem_mem alsoInside) (List.getElem_mem inside) active left).elim

end Race

/-- However the calls of moves of one source to different targets interleave, once all have ended exactly one has
succeeded. The others have found nothing at the source, the object is at the target of the one, and the source is
gone. -/
theorem racing_moves_leave_one_winner (driver : Driver) (source : String) (targets : List String)
    (sourceValid : Path.isValid source = true) (targetsValid : ∀ target ∈ targets, Path.isValid target = true)
    (distinct : targets.Nodup) (apart : source ∉ targets) (filled : targets ≠ []) (store : Store)
    (object : StoredObject) (found : store.bucket.find? (driver.root.keyFor source) = some object)
    (hasDirectory : Bool) (schedule : List (Nat × Clock)) :
    let answer (clock : Clock) := Workspace.reply (Store.answer clock) hasDirectory
    let after := Program.interleave answer schedule (targets.map (driver.movePath source)) store
    (∀ program ∈ after.1, program.outcome?.isSome = true) →
      ∃ winner target, targets[winner]? = some target ∧
        after.1 = (List.range targets.length).map (fun index =>
          .done (if index = winner then .ok () else .error (.pathNotFound source))) ∧
        after.2.bucket.find? (driver.root.keyFor target) = some object ∧
        after.2.bucket.find? (driver.root.keyFor source) = none := by
  intro answer after ended
  -- The race holds after any schedule; a turn that names no move changes nothing.
  have kept : after.1.length = targets.length ∧ Race driver source targets object after.1 after.2.bucket := by
    refine Program.interleave_keeps answer
      (fun programs (state : Store) =>
        programs.length = targets.length ∧ Race driver source targets object programs state.bucket)
      ?_ schedule ⟨by simp, .start found⟩
    rintro index clock programs program state present ⟨aligned, race⟩
    have inside : index < targets.length := aligned ▸ (List.getElem?_eq_some_iff.mp present).1
    exact ⟨by simpa using aligned,
      race.step sourceValid targetsValid distinct apart hasDirectory clock (List.getElem?_eq_getElem inside) present⟩
  exact kept.2.outcome sourceValid targetsValid filled kept.1 ended

/-- Of three moves the second takes the object between the deletion and the last call of the first, and the third finds
nothing. -/
theorem second_of_three_moves_wins :
    let driver : Driver := ⟨.ofDirectory "/reg/", 1, 60, .standard⟩
    let turns := [0, 1, 0, 1, 1, 0, 2].map fun index => (index, (⟨.ofInt 0⟩ : Clock))
    let after := Program.interleave (fun clock => Workspace.reply (Store.answer clock) true) turns
      (["/b", "/c", "/a-x"].map (driver.movePath "/a")) { bucket := .sample }
    after.1 = [.done (.error (.pathNotFound "/a")), .done (.ok ()), .done (.error (.pathNotFound "/a"))] ∧
      after.2.bucket.find? "reg/c" = some ⟨[1, 2, 3], 0⟩ ∧ after.2.bucket.find? "reg/a" = none := by
  intro driver turns after
  have ended : ∀ program ∈ after.1, program.outcome?.isSome = true := by decide +kernel
  have others : after.2.bucket.find? (driver.root.keyFor "/b") = none ∧
      after.2.bucket.find? (driver.root.keyFor "/a-x") = some ⟨[4], 0⟩ := by decide +kernel
  have secondKey : driver.root.keyFor "/c" = "reg/c" := by decide
  have sourceKey : driver.root.keyFor "/a" = "reg/a" := by decide
  have places {winner : Nat} {target : String} (chosen : ["/b", "/c", "/a-x"][winner]? = some target) :
      winner = 0 ∧ target = "/b" ∨ winner = 1 ∧ target = "/c" ∨ winner = 2 ∧ target = "/a-x" :=
    match winner, chosen with
    | 0, rfl => .inl ⟨rfl, rfl⟩
    | 1, rfl => .inr (.inl ⟨rfl, rfl⟩)
    | 2, rfl => .inr (.inr ⟨rfl, rfl⟩)
  rw [← secondKey, ← sourceKey]
  obtain ⟨winner, target, chosen, outcomes, placed, gone⟩ :=
    racing_moves_leave_one_winner driver "/a" ["/b", "/c", "/a-x"] (by decide) (by decide) (by decide) (by decide)
      (by decide) { bucket := .sample } ⟨[1, 2, 3], 0⟩ (by decide) true turns ended
  obtain ⟨rfl, rfl⟩ | ⟨rfl, rfl⟩ | ⟨rfl, rfl⟩ := places chosen
  · exact absurd (others.1.symm.trans placed) nofun
  · exact ⟨outcomes, placed, gone⟩
  · exact absurd (others.2.symm.trans placed) (by decide)

end PathStore.Driver
