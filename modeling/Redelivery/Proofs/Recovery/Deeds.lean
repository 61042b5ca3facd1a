import Redelivery.Proofs.Connection.Scene
import Redelivery.Rehearsal.RecoveryRun
/-!
# Deeds of a supervisor

What a supervisor does of its own accord in a recovery run, said once. `RecoveryRun.deed?` names
the deed that comes next, from what the run shows beforehand; `RecoveryRun.Does` says what the
deed does to the run, one case for each thing that can come next. Whoever reasons about a
supervisor goes through these cases and does not open `RecoveryRun.advance?`.

* `RecoveryRun.does_of_advance`: whatever comes next for a supervisor is one of its deeds.
* `RecoveryRun.advance_stopping`, `RecoveryRun.advance_ended`: what a supervisor that is idle
  does about a request to stop, and about the end of the notices.
-/

namespace Redelivery

set_option autoImplicit false

open Rehearsal

/-! ## Deeds -/

/-- What a supervisor does of its own accord. -/
inductive Deed where
  /-- It reads a notice while the connection in use is of a generation. -/
  | read (notice : Notice) (live : Nat)
  /-- It finds that no more notices will come. -/
  | foundEnd
  /-- It obeys a request to stop. -/
  | obeyed
  /-- It has rested. -/
  | rested
  | reconnected (result : Attempt Unit)
  /-- The restore step of an index is over. -/
  | restored (index : Nat) (outcome : Outcome)

/-- A note of a call, to reconnect or to restore. -/
def Rehearsal.RecoveryNote.isCall : RecoveryNote → Bool
  | reconnected _ | restored _ _ => true
  | raised _ | acted _ _ _ => false

namespace Rehearsal.RecoveryRun

variable {run next : RecoveryRun}

/-- What a supervisor does next. -/
def deed? (run : RecoveryRun) : Option Deed :=
  match run.supervisor.phase with
  | .watching =>
      if run.supervisor.stopping then some .obeyed
      else
        match run.notices.receive.1 with
        | .notice notice => some (.read notice run.generation)
        | .ended => some .foundEnd
        | .empty | .noReader => none
  | .resting => some (if run.supervisor.stopping then .obeyed else .rested)
  | .reconnecting => some (.reconnected (nextAttempt run.attempts).1.result)
  | .restoring index =>
      (run.steps[index]?).map fun step => .restored index (step.script.headD (.ok ()))
  | .ended _ => none

/-- What the turn of a supervisor does to a run, one case for each thing that can come next. -/
inductive Does (run : RecoveryRun) : Deed → RecoveryRun → Prop where
  | obeyed (idle : run.supervisor.phase = .watching ∨ run.supervisor.phase = .resting)
      (asked : run.supervisor.stopping = true) :
      Does run .obeyed
        { run with
          supervisor := run.supervisor.enter (.ended (.ok ()))
          notices := run.notices.abandon }
  | foundEnd (watching : run.supervisor.phase = .watching)
      (unasked : run.supervisor.stopping = false) (closed : run.notices.source = .closed) :
      Does run .foundEnd
        { run with
          supervisor := run.supervisor.enter (.ended (.error .noticesEnded))
          notices := run.notices.abandon }
  | passedOver {notice : Notice} {later : List Notice}
      (watching : run.supervisor.phase = .watching)
      (unasked : run.supervisor.stopping = false)
      (replaced : notice.generation ≠ run.generation) :
      Does run (.read notice run.generation)
        { run with notices := { run.notices with reader := some later } }
  | heeded {notice : Notice} {later : List Notice}
      (watching : run.supervisor.phase = .watching)
      (unasked : run.supervisor.stopping = false)
      (live : notice.generation = run.generation) :
      Does run (.read notice run.generation)
        { run with
          supervisor := run.supervisor.enter .resting
          notices := { run.notices with reader := some later }
          wake := run.now + run.interval }
  | rested (resting : run.supervisor.phase = .resting)
      (unasked : run.supervisor.stopping = false) {wake : Nat} (later : run.wake ≤ wake) :
      Does run .rested
        { run with now := run.wake, wake, supervisor := run.supervisor.enter .reconnecting }
  | failed (reconnecting : run.supervisor.phase = .reconnecting) (failure : Failure)
      (attempts : List ScriptedAttempt) :
      Does run (.reconnected (.failed failure))
        { run with
          now := run.wake
          attempts
          supervisor := run.supervisor.enter .resting
          wake := run.wake + run.interval
          notes := run.notes ++ [(run.wake, .reconnected (.failed failure))] }
  | connected (reconnecting : run.supervisor.phase = .reconnecting)
      (attempts : List ScriptedAttempt) (generation : Nat) :
      Does run (.reconnected (.done ()))
        { run with
          now := run.wake
          attempts
          generation
          supervisor := run.supervisor.restoreFrom 0 run.steps.length
          notes := run.notes ++ [(run.wake, .reconnected (.done ()))] }
  | panicked (reconnecting : run.supervisor.phase = .reconnecting) (text : Option String)
      (attempts : List ScriptedAttempt) :
      Does run (.reconnected (.panicked text))
        { run with
          now := run.wake
          attempts
          supervisor := run.supervisor.enter (.ended (.error .internal))
          notices := run.notices.abandon
          notes := run.notes ++ [(run.wake, .reconnected (.panicked text))] }
  | restored {index : Nat} {step : ScriptedStep}
      (restoring : run.supervisor.phase = .restoring index)
      (present : run.steps[index]? = some step) :
      Does run (.restored index (.ok ()))
        { run with
          steps := run.steps.set index { step with script := step.script.drop 1 }
          supervisor := run.supervisor.restoreFrom (index + 1) run.steps.length
          notes := run.notes ++ [(run.now, .restored step.name (.ok ()))] }
  | unrestored {index : Nat} {step : ScriptedStep}
      (restoring : run.supervisor.phase = .restoring index)
      (present : run.steps[index]? = some step) (failure : Failure) :
      Does run (.restored index (.error failure))
        { run with
          steps := run.steps.set index { step with script := step.script.drop 1 }
          supervisor := run.supervisor.enter .resting
          wake := run.now + run.interval
          notes := run.notes ++ [(run.now, .restored step.name (.error failure))] }

theorem Does.interval {deed : Deed} (does : run.Does deed next) : next.interval = run.interval := by
  cases does <;> rfl

theorem Does.stopping {deed : Deed} (does : run.Does deed next) :
    next.supervisor.stopping = run.supervisor.stopping := by
  cases does <;> rfl

theorem Does.source {deed : Deed} (does : run.Does deed next) :
    next.notices.source = run.notices.source := by
  cases does <;> rfl

theorem map_name_set {steps : List ScriptedStep} {index : Nat} {step : ScriptedStep}
    (present : steps[index]? = some step) (script : List Outcome) :
    (steps.set index { step with script }).map ScriptedStep.name =
      steps.map ScriptedStep.name := by
  obtain ⟨inside, rfl⟩ := List.getElem?_eq_some_iff.mp present
  have listed : index < (steps.map ScriptedStep.name).length := by simpa using inside
  have same : steps[index].name = (steps.map ScriptedStep.name)[index] := by simp
  rw [List.map_set, same, List.set_getElem_self]

theorem Does.named {deed : Deed} (does : run.Does deed next) :
    next.steps.map ScriptedStep.name = run.steps.map ScriptedStep.name := by
  cases does with
  | restored restoring present | unrestored restoring present failure =>
      exact map_name_set present _
  | _ => rfl

/-- Only a supervisor that begins to rest sets its alarm. -/
theorem settingWake_eq_self (restless : run.supervisor.phase ≠ .resting) :
    run.settingWake = run := by
  unfold settingWake
  split
  · rename_i resting
    exact absurd resting restless
  · rfl

/-- After a success the supervisor restores or watches; it does not rest. -/
theorem restoreFrom_phase (supervisor : Supervisor) (index steps : Nat) :
    (supervisor.restoreFrom index steps).phase = .restoring index ∨
      (supervisor.restoreFrom index steps).phase = .watching := by
  by_cases more : index < steps <;> simp [Supervisor.restoreFrom, Supervisor.enter, more]

theorem restoreFrom_restless (supervisor : Supervisor) (index steps : Nat) :
    (supervisor.restoreFrom index steps).phase ≠ .resting := by
  rcases restoreFrom_phase supervisor index steps with phase | phase <;> simp [phase]

theorem restoreFrom_unfinished (supervisor : Supervisor) (index steps : Nat) :
    (supervisor.restoreFrom index steps).finished = false := by
  rcases restoreFrom_phase supervisor index steps with phase | phase <;>
    simp [Supervisor.finished, Supervisor.outcome?, phase]

theorem advance_of_looks {supervisor : Supervisor} {notices : NoticeStream}
    (looks : run.supervisor.look run.generation run.notices = some (supervisor, notices))
    (until? : Option Nat) :
    run.advance? until? = some { run with supervisor, notices }.settingWake := by
  simp only [advance?, looks]

theorem does_of_looks {supervisor : Supervisor} {notices : NoticeStream}
    (looks : run.supervisor.look run.generation run.notices = some (supervisor, notices)) :
    ∃ deed, run.deed? = some deed ∧ run.Does deed { run with supervisor, notices }.settingWake := by
  rcases Supervisor.look_cases looks with ⟨asked, phase, rfl, rfl⟩ |
    ⟨unasked, watching, notice, later, reader, rfl, rfl⟩ |
    ⟨unasked, watching, reader, closed, rfl, rfl⟩
  · refine ⟨.obeyed, ?_, .obeyed phase asked⟩
    rcases phase with phase | phase <;> simp [deed?, phase, asked]
  · refine ⟨.read notice run.generation, ?_, ?_⟩
    · simp [deed?, watching, unasked, NoticeStream.receive, reader]
    · by_cases live : notice.generation = run.generation
      · rw [if_pos live]
        exact .heeded watching unasked live
      · rw [if_neg live]
        rw [settingWake_eq_self (by simp [watching])]
        exact .passedOver watching unasked live
  · refine ⟨.foundEnd, ?_, .foundEnd watching unasked closed⟩
    simp [deed?, watching, unasked, NoticeStream.receive, reader, closed]

theorem does_endAttempt (reconnecting : run.supervisor.phase = .reconnecting) :
    run.Does (.reconnected (nextAttempt run.attempts).1.result)
      { run with now := run.wake }.endAttempt := by
  rcases script : nextAttempt run.attempts with ⟨⟨duration, result⟩, attempts⟩
  cases result with
  | failed failure =>
      simp only [endAttempt, script, Supervisor.reconnected, reconnecting]
      exact .failed reconnecting failure attempts
  | panicked text =>
      simp only [endAttempt, script, Supervisor.reconnected, reconnecting]
      exact .panicked reconnecting text attempts
  | done result =>
      have restless := restoreFrom_restless run.supervisor 0 run.steps.length
      have unfinished := restoreFrom_unfinished run.supervisor 0 run.steps.length
      simp only [endAttempt, script, Supervisor.reconnected, reconnecting, unfinished,
        Bool.false_eq_true, if_false, note]
      rw [settingWake_eq_self restless]
      exact .connected reconnecting attempts _

theorem does_runStep {index : Nat} {step : ScriptedStep}
    (restoring : run.supervisor.phase = .restoring index)
    (present : run.steps[index]? = some step) :
    run.Does (.restored index (step.script.headD (.ok ()))) (run.runStep index) := by
  cases outcome : step.script.headD (.ok ()) with
  | error failure =>
      simp only [runStep, present, outcome, Supervisor.restored, restoring]
      exact .unrestored restoring present failure
  | ok =>
      have restless := restoreFrom_restless run.supervisor (index + 1) run.steps.length
      simp only [runStep, present, outcome, Supervisor.restored, restoring, note]
      rw [settingWake_eq_self restless]
      exact .restored restoring present

/-- Whatever comes next for a supervisor is one of its deeds, unless it is about to run a
restore step that there is not. -/
theorem does_of_advance {until? : Option Nat} (goes : run.advance? until? = some next) :
    (∃ deed, run.deed? = some deed ∧ run.Does deed next) ∨
      (∃ index, run.supervisor.phase = .restoring index ∧ run.steps.length ≤ index) := by
  cases looks : run.supervisor.look run.generation run.notices with
  | some after =>
      rw [advance_of_looks looks, Option.some.injEq] at goes
      subst goes
      exact .inl (does_of_looks looks)
  | none =>
      simp only [advance?, looks] at goes
      cases phase : run.supervisor.phase with
      | watching | ended outcome => simp [phase] at goes
      | resting =>
          have unasked : run.supervisor.stopping = false := by
            simpa [Supervisor.look, phase] using looks
          refine .inl ⟨.rested, by simp [deed?, phase, unasked], ?_⟩
          simp only [phase, Option.ite_none_right_eq_some, Option.some.injEq] at goes
          obtain ⟨-, rfl⟩ := goes
          simp only [Supervisor.rested, phase]
          exact .rested phase unasked (Nat.le_add_right _ _)
      | reconnecting =>
          refine .inl ⟨_, by simp only [deed?, phase]; rfl, ?_⟩
          simp only [phase, Option.ite_none_right_eq_some, Option.some.injEq] at goes
          obtain ⟨-, rfl⟩ := goes
          exact does_endAttempt phase
      | restoring index =>
          simp only [phase, Option.some.injEq] at goes
          subst goes
          cases present : run.steps[index]? with
          | none => exact .inr ⟨index, rfl, List.getElem?_eq_none_iff.mp present⟩
          | some step =>
              refine .inl ⟨_, by simp only [deed?, phase, present, Option.map_some]; rfl, ?_⟩
              exact does_runStep phase present

/-- A request to stop wins over everything else while a supervisor watches or rests. -/
theorem advance_stopping (idle : run.supervisor.phase = .watching ∨ run.supervisor.phase = .resting)
    (asked : run.supervisor.stopping = true) (until? : Option Nat) :
    ∃ next, run.advance? until? = some next ∧ next.supervisor.outcome? = some (.ok ()) := by
  have looks : run.supervisor.look run.generation run.notices =
      some (run.supervisor.enter (.ended (.ok ())), run.notices.abandon) := by
    rcases idle with phase | phase <;> simp [Supervisor.look, phase, asked]
  exact ⟨_, advance_of_looks looks until?, rfl⟩

/-- A supervisor that watches ends when the notices have ended, unless it is asked to stop. -/
theorem advance_ended (watching : run.supervisor.phase = .watching)
    (unasked : run.supervisor.stopping = false) (exhausted : run.notices.receive.1 = .ended)
    (until? : Option Nat) :
    ∃ next, run.advance? until? = some next ∧
      next.supervisor.outcome? = some (.error .noticesEnded) := by
  rcases received : run.notices.receive with ⟨receipt, rest⟩
  have ended : receipt = .ended := by simpa [received] using exhausted
  have looks : run.supervisor.look run.generation run.notices =
      some (run.supervisor.enter (.ended (.error .noticesEnded)), rest.abandon) := by
    simp [Supervisor.look, watching, unasked, received, ended]
  exact ⟨_, advance_of_looks looks until?, rfl⟩

/-! ## Acts -/

variable (act : RecoveryAct)

@[simp] theorem interval_perform : (run.perform act).interval = run.interval := by
  cases act <;> rfl

@[simp] theorem steps_perform : (run.perform act).steps = run.steps := by cases act <;> rfl

@[simp] theorem phase_perform : (run.perform act).supervisor.phase = run.supervisor.phase := by
  cases act <;> rfl

@[simp] theorem now_perform : (run.perform act).now = run.now := by cases act <;> rfl

@[simp] theorem wake_perform : (run.perform act).wake = run.wake := by cases act <;> rfl

@[simp] theorem calls_perform :
    (run.perform act).notes.filter (fun note => note.2.isCall) =
      run.notes.filter fun note => note.2.isCall := by
  cases act <;> simp [perform, note, RecoveryNote.isCall]

theorem stopping_perform :
    (run.perform act).supervisor.stopping = true ↔
      run.supervisor.stopping = true ∨ act = .stop := by
  cases act <;> simp [perform, note, Supervisor.stop]

theorem source_perform {act : RecoveryAct}
    (ended : (run.perform act).notices.source = .closed) :
    run.notices.source = .closed ∨ act = .endNotices := by
  cases act with
  | endNotices => exact .inr rfl
  | raiseNotice notice =>
      exact .inl ((NoticeStream.source_raise notice run.notices).symm.trans ended)
  | stop | setGeneration | inspect => exact .inl ended

end Rehearsal.RecoveryRun

end Redelivery
