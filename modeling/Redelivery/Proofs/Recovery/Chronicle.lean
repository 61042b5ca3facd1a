import Mathlib.Data.List.Chain
import Redelivery.Proofs.Recovery.Deeds
/-!
# The chronicle of a supervisor

A `Chronicle` is a recovery run with a log of all that happened in it: what somebody did to the
supervisor, and what the supervisor did of its own accord, each with its time. It grows by
`RecoveryRun.advance?` and `RecoveryRun.perform`, in any order and with any time between them;
only a rest and an attempt that are under way are not slept through.

* `Watched`, `Efforts`, `Passage`: the words that the deeds of a supervisor form. A recovery is
  begun by a notice of the connection in use. It consists of attempts that come to nothing and,
  unless a request to stop cuts it short at a rest, of one that succeeds.
* `Spaced`, `Grounds`: how long a supervisor rests, and what must have happened before a deed.
* `recovery_law`: every chronicle keeps to all of this.
-/

namespace Redelivery

set_option autoImplicit false

open Rehearsal

/-! ## Words of deeds -/

namespace Deed

/-- The restore steps before an index, all of which succeed. -/
def restoredTo (index : Nat) : List Deed :=
  (List.range index).map fun each => .restored each (.ok ())

/-- An attempt that comes to nothing: after the rest no connection is made, or one is made and
the restore steps run up to the first that fails. -/
inductive Fruitless (steps : Nat) : List Deed → Prop where
  | unconnected (failure : Failure) : Fruitless steps [.rested, .reconnected (.failed failure)]
  | unrestored {index : Nat} (known : index < steps) (failure : Failure) :
      Fruitless steps
        (.rested :: .reconnected (.done ()) :: restoredTo index ++
          [.restored index (.error failure)])

/-- Any number of attempts that come to nothing. -/
inductive Efforts (steps : Nat) : List Deed → Prop where
  | none : Efforts steps []
  | another {efforts attempt : List Deed} (before : Efforts steps efforts)
      (fruitless : Fruitless steps attempt) : Efforts steps (efforts ++ attempt)

/-- An attempt that succeeds: after the rest a connection is made, and all restore steps run in
their order. -/
def fruitful (steps : Nat) : List Deed := .rested :: .reconnected (.done ()) :: restoredTo steps

/-- Notices of replaced connections, which are passed over, and whole recoveries, each begun by
a notice of the connection in use. -/
inductive Watched (steps : Nat) : List Deed → Prop where
  | started : Watched steps []
  | passedOver {before : List Deed} (watched : Watched steps before) {notice : Notice} {live : Nat}
      (replaced : notice.generation ≠ live) : Watched steps (before ++ [.read notice live])
  | recovered {before efforts : List Deed} (watched : Watched steps before) {notice : Notice}
      {live : Nat} (current : notice.generation = live) (tried : Efforts steps efforts) :
      Watched steps (before ++ .read notice live :: efforts ++ fruitful steps)

inductive Recovering (steps : Nat) : List Deed → Prop where
  | begun {before efforts : List Deed} (watched : Watched steps before) {notice : Notice}
      {live : Nat} (current : notice.generation = live) (tried : Efforts steps efforts) :
      Recovering steps (before ++ .read notice live :: efforts)

/-- What a supervisor has done when it is in a phase. -/
inductive Passage (steps : Nat) : SupervisorPhase → List Deed → Prop where
  | watching {deeds : List Deed} (watched : Watched steps deeds) : Passage steps .watching deeds
  | resting {deeds : List Deed} (recovering : Recovering steps deeds) :
      Passage steps .resting deeds
  | reconnecting {deeds : List Deed} (recovering : Recovering steps deeds) :
      Passage steps .reconnecting (deeds ++ [.rested])
  | restoring {deeds : List Deed} {index : Nat} (recovering : Recovering steps deeds)
      (known : index < steps) :
      Passage steps (.restoring index)
        (deeds ++ .rested :: .reconnected (.done ()) :: restoredTo index)
  /-- It obeyed while it watched. -/
  | stopped {deeds : List Deed} (watched : Watched steps deeds) :
      Passage steps (.ended (.ok ())) (deeds ++ [.obeyed])
  /-- It obeyed while it rested, which cuts a recovery short. -/
  | cutShort {deeds : List Deed} (recovering : Recovering steps deeds) :
      Passage steps (.ended (.ok ())) (deeds ++ [.obeyed])
  | deserted {deeds : List Deed} (watched : Watched steps deeds) :
      Passage steps (.ended (.error .noticesEnded)) (deeds ++ [.foundEnd])
  /-- An attempt to reconnect panicked, and the supervisor with it. -/
  | panicked {deeds : List Deed} (recovering : Recovering steps deeds) (text : Option String) :
      Passage steps (.ended (.error .internal))
        (deeds ++ [.rested, .reconnected (.panicked text)])

variable {steps : Nat} {deeds : List Deed}

theorem Passage.known {index : Nat} (passage : Passage steps (.restoring index) deeds) :
    index < steps := by
  cases passage with
  | restoring recovering known => exact known

theorem restoredTo_succ (index : Nat) :
    restoredTo (index + 1) = restoredTo index ++ [.restored index (.ok ())] := by
  simp [restoredTo, List.range_succ]

theorem Recovering.another {attempt : List Deed} (recovering : Recovering steps deeds)
    (fruitless : Fruitless steps attempt) : Recovering steps (deeds ++ attempt) := by
  cases recovering with
  | begun watched current tried =>
      rw [List.append_assoc, List.cons_append]
      exact .begun watched current (tried.another fruitless)

theorem Recovering.watched (recovering : Recovering steps deeds) :
    Watched steps (deeds ++ fruitful steps) := by
  cases recovering with
  | begun watched current tried => exact .recovered watched current tried

theorem passage_restoreFrom (recovering : Recovering steps deeds) {index : Nat}
    (known : index ≤ steps) (supervisor : Supervisor) :
    Passage steps (supervisor.restoreFrom index steps).phase
      (deeds ++ .rested :: .reconnected (.done ()) :: restoredTo index) := by
  simp only [Supervisor.restoreFrom, Supervisor.enter]
  split
  · rename_i more
    exact .restoring recovering more
  · rename_i last
    have whole : index = steps := Nat.le_antisymm known (Nat.le_of_not_lt last)
    subst whole
    exact .watching recovering.watched

/-- What one deed does to the words: whatever a supervisor does next continues them. -/
theorem passage_does {run next : RecoveryRun} {deed : Deed} (does : run.Does deed next)
    (passage : Passage run.steps.length run.supervisor.phase deeds) :
    Passage run.steps.length next.supervisor.phase (deeds ++ [deed]) := by
  -- The phase tells with which word the deeds end so far, and the deed which word may follow.
  cases does with
  | obeyed idle asked =>
      rcases idle with phase | phase <;> rw [phase] at passage
      · cases passage with
        | watching watched => exact .stopped watched
      · cases passage with
        | resting recovering => exact .cutShort recovering
  | foundEnd watching unasked closed =>
      rw [watching] at passage
      cases passage with
      | watching watched => exact .deserted watched
  | passedOver watching unasked replaced =>
      rw [watching] at passage
      cases passage with
      | watching watched =>
          simp only [watching]
          exact .watching (watched.passedOver replaced)
  | heeded watching unasked live =>
      rw [watching] at passage
      cases passage with
      | watching watched => exact .resting (.begun watched live .none)
  | rested resting unasked later =>
      rw [resting] at passage
      cases passage with
      | resting recovering => exact .reconnecting recovering
  | failed reconnecting failure attempts =>
      rw [reconnecting] at passage
      cases passage with
      | reconnecting recovering =>
          rw [List.append_assoc]
          exact .resting (recovering.another (.unconnected failure))
  | connected reconnecting attempts generation =>
      rw [reconnecting] at passage
      cases passage with
      | reconnecting recovering =>
          rw [List.append_assoc]
          exact passage_restoreFrom recovering (Nat.zero_le _) _
  | panicked reconnecting text attempts =>
      rw [reconnecting] at passage
      cases passage with
      | reconnecting recovering =>
          rw [List.append_assoc]
          exact .panicked recovering text
  | restored restoring present =>
      rw [restoring] at passage
      cases passage with
      | restoring recovering known =>
          rw [List.append_assoc, List.cons_append, List.cons_append, ← restoredTo_succ]
          exact passage_restoreFrom recovering known _
  | unrestored restoring present failure =>
      rw [restoring] at passage
      cases passage with
      | restoring recovering known =>
          rw [List.append_assoc]
          exact .resting (recovering.another (.unrestored known failure))

/-! ## The last deed -/

/-- A deed with which a supervisor ends. -/
def isParting : Deed → Bool
  | obeyed | foundEnd => true
  | _ => false

theorem restoredTo_stays (index : Nat) : ∀ deed ∈ restoredTo index, deed.isParting = false := by
  intro deed member
  obtain ⟨each, -, rfl⟩ := List.mem_map.mp member
  rfl

theorem fruitless_stays {attempt : List Deed} (fruitless : Fruitless steps attempt) :
    ∀ deed ∈ attempt, deed.isParting = false := by
  cases fruitless with
  | unconnected failure => simp [isParting]
  | unrestored known failure =>
      refine List.forall_mem_append.mpr ⟨?_, by simp [isParting]⟩
      exact List.forall_mem_cons.mpr ⟨rfl, List.forall_mem_cons.mpr ⟨rfl, restoredTo_stays _⟩⟩

theorem efforts_stay {efforts : List Deed} (tried : Efforts steps efforts) :
    ∀ deed ∈ efforts, deed.isParting = false := by
  induction tried with
  | none => exact nofun
  | another before fruitless stay =>
      exact List.forall_mem_append.mpr ⟨stay, fruitless_stays fruitless⟩

theorem watched_stays (watched : Watched steps deeds) : ∀ deed ∈ deeds, deed.isParting = false := by
  induction watched with
  | started => exact nofun
  | passedOver watched replaced stays =>
      exact List.forall_mem_append.mpr ⟨stays, by simp [isParting]⟩
  | recovered watched current tried stays =>
      refine List.forall_mem_append.mpr ⟨List.forall_mem_append.mpr ⟨stays, ?_⟩, ?_⟩
      · exact List.forall_mem_cons.mpr ⟨rfl, efforts_stay tried⟩
      · exact List.forall_mem_cons.mpr ⟨rfl, List.forall_mem_cons.mpr ⟨rfl, restoredTo_stays _⟩⟩

theorem recovering_stays (recovering : Recovering steps deeds) :
    ∀ deed ∈ deeds, deed.isParting = false := by
  cases recovering with
  | begun watched current tried =>
      refine List.forall_mem_append.mpr ⟨watched_stays watched, ?_⟩
      exact List.forall_mem_cons.mpr ⟨rfl, efforts_stay tried⟩

theorem Passage.obeyed_iff {phase : SupervisorPhase} (passage : Passage steps phase deeds) :
    phase = .ended (.ok ()) ↔ Deed.obeyed ∈ deeds := by
  have absent {deeds : List Deed} (stays : ∀ deed ∈ deeds, deed.isParting = false) :
      Deed.obeyed ∉ deeds := fun member => by cases stays _ member
  cases passage with
  | watching watched => simp [absent (watched_stays watched)]
  | resting recovering => simp [absent (recovering_stays recovering)]
  | reconnecting recovering | panicked recovering text =>
      simp [absent (recovering_stays recovering)]
  | restoring recovering known => simp [absent (recovering_stays recovering), restoredTo]
  | stopped watched => simp
  | cutShort recovering => simp
  | deserted watched => simp [absent (watched_stays watched)]

theorem Passage.foundEnd_iff {phase : SupervisorPhase} (passage : Passage steps phase deeds) :
    phase = .ended (.error .noticesEnded) ↔ Deed.foundEnd ∈ deeds := by
  have absent {deeds : List Deed} (stays : ∀ deed ∈ deeds, deed.isParting = false) :
      Deed.foundEnd ∉ deeds := fun member => by cases stays _ member
  cases passage with
  | watching watched | stopped watched => simp [absent (watched_stays watched)]
  | resting recovering | reconnecting recovering | cutShort recovering | panicked recovering text =>
      simp [absent (recovering_stays recovering)]
  | restoring recovering known => simp [absent (recovering_stays recovering), restoredTo]
  | deserted watched => simp

/-- A deed after which a supervisor rests. -/
def beginsRest : Deed → Bool
  | read notice live => decide (notice.generation = live)
  | reconnected (.failed _) => true
  | restored _ (.error _) => true
  | _ => false

/-- What is noted of a deed, when the restore steps are known. -/
def note? (steps : List ScriptedStep) : Deed → Option RecoveryNote
  | reconnected result => some (.reconnected result)
  | restored index outcome => (steps[index]?).map fun step => .restored step.name outcome
  | _ => none

end Deed

/-! ## Chronicles -/

/-- What happens in a recovery run: somebody acts, or the supervisor does something. -/
inductive Event where
  | acted (act : RecoveryAct)
  | did (deed : Deed)

/-- A recovery run with all that has happened in it, and when. -/
structure Chronicle where
  run : RecoveryRun
  log : List (Nat × Event)

namespace Chronicle

variable {interval : Nat} {steps : List ScriptedStep} {chronicle next : Chronicle}
  {log : List (Nat × Event)}

inductive Step (chronicle : Chronicle) : Chronicle → Prop where
  /-- The supervisor does what comes next. -/
  | advanced {until? : Option Nat} {next : RecoveryRun}
      (goes : chronicle.run.advance? until? = some next) :
      Step chronicle
        ⟨next, chronicle.log ++ (chronicle.run.deed?.map fun deed => (next.now, .did deed)).toList⟩
  | acted (act : RecoveryAct) :
      Step chronicle
        ⟨chronicle.run.perform act, chronicle.log ++ [(chronicle.run.now, .acted act)]⟩
  /-- Time passes, but not beyond the end of a rest or of an attempt. -/
  | waited {time : Nat} (later : chronicle.run.now ≤ time)
      (sooner : chronicle.run.supervisor.phase = .resting ∨
        chronicle.run.supervisor.phase = .reconnecting → time ≤ chronicle.run.wake) :
      Step chronicle ⟨{ chronicle.run with now := time }, chronicle.log⟩

/-- The chronicles of a started supervisor with an interval and restore steps, whatever the
connection in use, the attempts to come and their outcomes. -/
inductive Reachable (interval : Nat) (steps : List ScriptedStep) : Chronicle → Prop where
  | started (generation : Nat) (counting : Bool) (attempts : List ScriptedAttempt) :
      Reachable interval steps ⟨.start interval generation counting attempts steps, []⟩
  | step {chronicle next : Chronicle} (earlier : Reachable interval steps chronicle)
      (step : Step chronicle next) : Reachable interval steps next

def deedsIn (log : List (Nat × Event)) : List (Nat × Deed) :=
  log.filterMap fun entry =>
    match entry.2 with
    | .did deed => some (entry.1, deed)
    | .acted _ => none

def deeds (chronicle : Chronicle) : List (Nat × Deed) := deedsIn chronicle.log

def word (chronicle : Chronicle) : List Deed := chronicle.deeds.map Prod.snd

@[simp] theorem deedsIn_did (time : Nat) (deed : Deed) :
    deedsIn (log ++ [(time, .did deed)]) = deedsIn log ++ [(time, deed)] := by
  simp [deedsIn]

@[simp] theorem deedsIn_acted (time : Nat) (act : RecoveryAct) :
    deedsIn (log ++ [(time, .acted act)]) = deedsIn log := by
  simp [deedsIn]

def Asked (log : List (Nat × Event)) : Prop := ∃ time, (time, Event.acted .stop) ∈ log

def Closed (log : List (Nat × Event)) : Prop := ∃ time, (time, Event.acted .endNotices) ∈ log

/-- What must have happened, or not, before a supervisor does something. A request to stop wins
over every notice, over the end of the notices, and over the end of a rest; it interrupts
neither an attempt to reconnect nor a restore step. -/
def Grounds (log : List (Nat × Event)) : Deed → Prop
  | .obeyed => Asked log
  | .foundEnd => ¬ Asked log ∧ Closed log
  | .read _ _ | .rested => ¬ Asked log
  | .reconnected _ | .restored _ _ => True

/-- Every deed in a log has its grounds in what precedes it. -/
def Grounded (log : List (Nat × Event)) : Prop :=
  ∀ before time deed after, log = before ++ (time, .did deed) :: after → Grounds before deed

/-- One deed after another: time goes on, a rest lasts for the interval, and one that is cut
short no longer than that. -/
structure Spaced (interval : Nat) (earlier later : Nat × Deed) : Prop where
  onward : earlier.1 ≤ later.1
  whole : later.2 = .rested → later.1 = earlier.1 + interval
  cut : later.2 = .obeyed → earlier.2.beginsRest = true → later.1 ≤ earlier.1 + interval

structure Timed (interval : Nat) (phase : SupervisorPhase) (now wake : Nat)
    (deeds : List (Nat × Deed)) : Prop where
  spaced : deeds.IsChain (Spaced interval)
  past : ∀ last ∈ deeds.getLast?, last.1 ≤ now
  due : phase = .resting ∨ phase = .reconnecting → now ≤ wake
  resting : phase = .resting → ∃ last ∈ deeds.getLast?, wake = last.1 + interval
  watching : phase = .watching → ∀ last ∈ deeds.getLast?, last.2.beginsRest = false

/-- What holds of a chronicle at every moment. -/
structure Sound (interval : Nat) (steps : List ScriptedStep) (chronicle : Chronicle) : Prop where
  steady : chronicle.run.interval = interval
  named : chronicle.run.steps.map ScriptedStep.name = steps.map ScriptedStep.name
  passage : Deed.Passage steps.length chronicle.run.supervisor.phase chronicle.word
  timed : Timed interval chronicle.run.supervisor.phase chronicle.run.now chronicle.run.wake
    chronicle.deeds
  noted : chronicle.run.notes.filter (fun note => note.2.isCall) =
    chronicle.deeds.filterMap fun deed => (deed.2.note? steps).map (deed.1, ·)
  asked : chronicle.run.supervisor.stopping = true ↔ Asked chronicle.log
  closed : chronicle.run.notices.source = .closed → Closed chronicle.log
  grounded : Grounded chronicle.log

theorem sound_started (generation : Nat) (counting : Bool) (attempts : List ScriptedAttempt) :
    Sound interval steps ⟨.start interval generation counting attempts steps, []⟩ where
  steady := rfl
  named := rfl
  passage := .watching .started
  timed := ⟨.nil, nofun, nofun, nofun, fun _ => nofun⟩
  noted := rfl
  asked := by simp [Asked, RecoveryRun.start, Supervisor.started]
  closed := nofun
  grounded := by simp [Grounded]

/-! ## The clock -/

variable {phase : SupervisorPhase} {now wake : Nat} {earlier : List (Nat × Deed)}

/-- A deed at a time is spaced as it should be when it is spaced so from the one before it. -/
theorem Timed.followed (timed : Timed interval phase now wake earlier) {time : Nat} {deed : Deed}
    {after : SupervisorPhase} {alarm : Nat} (onward : now ≤ time)
    (whole : deed = .rested → ∀ last ∈ earlier.getLast?, time = last.1 + interval)
    (cut : deed = .obeyed → ∀ last ∈ earlier.getLast?, last.2.beginsRest = true →
      time ≤ last.1 + interval)
    (due : after = .resting ∨ after = .reconnecting → time ≤ alarm)
    (resting : after = .resting → alarm = time + interval)
    (watching : after = .watching → deed.beginsRest = false) :
    Timed interval after time alarm (earlier ++ [(time, deed)]) where
  spaced := by
    rw [List.isChain_append]
    refine ⟨timed.spaced, .singleton _, fun last isLast later isLater => ?_⟩
    cases Option.mem_some.mp isLater
    have past := timed.past last isLast
    exact ⟨past.trans onward, fun rested => whole rested last isLast,
      fun obeyed => cut obeyed last isLast⟩
  past last isLast := by
    rw [List.getLast?_concat] at isLast
    cases Option.mem_some.mp isLast
    exact Nat.le_refl time
  due := due
  resting rests := ⟨(time, deed), by rw [List.getLast?_concat]; rfl, resting rests⟩
  watching watches last isLast := by
    rw [List.getLast?_concat] at isLast
    cases Option.mem_some.mp isLast
    exact watching watches

/-- A success is followed by a restore step or by watching, and neither by a rest. -/
theorem Timed.wentOn (timed : Timed interval phase now wake earlier) {time : Nat}
    (onward : now ≤ time) (deed : Deed) (busy : deed ≠ .rested ∧ deed ≠ .obeyed)
    (success : deed.beginsRest = false) (supervisor : Supervisor) (index steps : Nat) :
    Timed interval (supervisor.restoreFrom index steps).phase time wake
      (earlier ++ [(time, deed)]) := by
  refine timed.followed onward (fun rested => absurd rested busy.1)
    (fun obeyed => absurd obeyed busy.2) ?_ ?_ fun _ => success
  all_goals
    rcases RecoveryRun.restoreFrom_phase supervisor index steps with after | after <;>
      simp [after]

/-- What one deed does to the clock. -/
theorem timed_does {run next : RecoveryRun} {deed : Deed} (does : run.Does deed next)
    (steady : run.interval = interval)
    (timed : Timed interval run.supervisor.phase run.now run.wake earlier) :
    Timed interval next.supervisor.phase next.now next.wake (earlier ++ [(next.now, deed)]) := by
  subst steady
  cases does with
  | obeyed idle asked =>
      -- Out of a rest, the clock has not passed the alarm; out of watching, no rest was begun.
      refine timed.followed (Nat.le_refl _) nofun (fun _ last isLast rests => ?_) nofun nofun nofun
      rcases idle with phase | phase
      · rw [timed.watching phase last isLast] at rests
        cases rests
      · obtain ⟨begun, isBegun, alarm⟩ := timed.resting phase
        cases Option.mem_unique isLast isBegun
        rw [← alarm]
        exact timed.due (.inl phase)
  | foundEnd watching unasked closed =>
      exact timed.followed (Nat.le_refl _) nofun nofun nofun nofun nofun
  | passedOver watching unasked replaced =>
      refine timed.followed (Nat.le_refl _) nofun nofun ?_ ?_ fun _ => ?_
      · simp [watching]
      · simp [watching]
      · simp [Deed.beginsRest, replaced]
  | heeded watching unasked live =>
      exact timed.followed (Nat.le_refl _) nofun nofun (fun _ => Nat.le_add_right _ _)
        (fun _ => rfl) nofun
  | rested resting unasked later =>
      obtain ⟨begun, isBegun, alarm⟩ := timed.resting resting
      refine timed.followed (timed.due (.inl resting)) (fun _ last isLast => ?_) nofun
        (fun _ => later) nofun nofun
      cases Option.mem_unique isLast isBegun
      exact alarm
  | failed reconnecting failure attempts =>
      exact timed.followed (timed.due (.inr reconnecting)) nofun nofun
        (fun _ => Nat.le_add_right _ _) (fun _ => rfl) nofun
  | connected reconnecting attempts generation =>
      exact timed.wentOn (timed.due (.inr reconnecting)) (.reconnected (.done ()))
        ⟨nofun, nofun⟩ rfl _ _ _
  | panicked reconnecting text attempts =>
      exact timed.followed (timed.due (.inr reconnecting)) nofun nofun nofun nofun nofun
  | @restored index step restoring present =>
      exact timed.wentOn (Nat.le_refl _) (.restored index (.ok ())) ⟨nofun, nofun⟩ rfl _ _ _
  | unrestored restoring present failure =>
      exact timed.followed (Nat.le_refl _) nofun nofun (fun _ => Nat.le_add_right _ _)
        (fun _ => rfl) nofun

/-! ## The record -/

theorem noted_does {run next : RecoveryRun} {deed : Deed} (does : run.Does deed next)
    (named : run.steps.map ScriptedStep.name = steps.map ScriptedStep.name)
    (noted : run.notes.filter (fun note => note.2.isCall) =
      earlier.filterMap fun deed => (deed.2.note? steps).map (deed.1, ·)) :
    next.notes.filter (fun note => note.2.isCall) =
      (earlier ++ [(next.now, deed)]).filterMap
        fun deed => (deed.2.note? steps).map (deed.1, ·) := by
  have ofStep {index : Nat} {step : ScriptedStep} (present : run.steps[index]? = some step)
      (outcome : Outcome) :
      Deed.note? steps (.restored index outcome) = some (.restored step.name outcome) := by
    have listed : (run.steps.map ScriptedStep.name)[index]? = some step.name := by
      rw [List.getElem?_map, present, Option.map_some]
    rw [named, List.getElem?_map, Option.map_eq_some_iff] at listed
    obtain ⟨same, found, name⟩ := listed
    simp only [Deed.note?, found, Option.map_some, name]
  rw [List.filterMap_append]
  cases does with
  | obeyed | foundEnd | passedOver | heeded | rested =>
      rw [← noted]
      simp [Deed.note?]
  | failed | connected | panicked =>
      rw [← noted, List.filter_append]
      simp [Deed.note?, RecoveryNote.isCall]
  | restored restoring present | unrestored restoring present failure =>
      rw [← noted, List.filter_append]
      simp [ofStep present, RecoveryNote.isCall]

/-- Why a deed is done. -/
theorem grounds_does {run next : RecoveryRun} {deed : Deed} (does : run.Does deed next)
    (asked : run.supervisor.stopping = true ↔ Asked log)
    (closed : run.notices.source = .closed → Closed log) : Grounds log deed := by
  have unasked (still : run.supervisor.stopping = false) : ¬ Asked log := by
    rw [← asked, still]
    exact Bool.false_ne_true
  cases does with
  | obeyed idle stopping => exact asked.mp stopping
  | foundEnd watching still ended => exact ⟨unasked still, closed ended⟩
  | passedOver watching still _ | heeded watching still _ | rested resting still _ =>
      exact unasked still
  | failed | connected | panicked | restored | unrestored => trivial

theorem grounded_append (grounded : Grounded log) {entry : Nat × Event}
    (latest : ∀ time deed, entry = (time, .did deed) → Grounds log deed) :
    Grounded (log ++ [entry]) := by
  intro before time deed after split
  rcases List.eq_nil_or_concat after with rfl | ⟨later, last, rfl⟩
  · obtain ⟨rfl, same⟩ := List.append_inj' split rfl
    exact latest time deed (List.singleton_inj.mp same)
  · rw [List.concat_eq_append, ← List.cons_append, ← List.append_assoc] at split
    exact grounded before time deed later (List.append_inj' split rfl).1

theorem asked_did (time : Nat) (deed : Deed) :
    Asked (log ++ [(time, .did deed)]) ↔ Asked log := by
  simp [Asked]

theorem asked_acted (time : Nat) (act : RecoveryAct) :
    Asked (log ++ [(time, .acted act)]) ↔ Asked log ∨ act = .stop := by
  simp only [Asked, List.mem_append, List.mem_singleton, Prod.mk.injEq, Event.acted.injEq,
    exists_or, exists_eq_left]
  exact or_congr_right eq_comm

theorem closed_append (entry : Nat × Event) (closed : Closed log) : Closed (log ++ [entry]) := by
  obtain ⟨time, member⟩ := closed
  exact ⟨time, List.mem_append_left _ member⟩

/-! ## Every chronicle -/

theorem sound_advanced (sound : Sound interval steps chronicle) {until? : Option Nat}
    {next : RecoveryRun} (goes : chronicle.run.advance? until? = some next) :
    Sound interval steps
      ⟨next,
        chronicle.log ++ (chronicle.run.deed?.map fun deed => (next.now, .did deed)).toList⟩ := by
  obtain ⟨steady, named, passage, timed, noted, asked, closed, grounded⟩ := sound
  have known : chronicle.run.steps.length = steps.length := by
    simpa using congrArg List.length named
  rcases RecoveryRun.does_of_advance goes with ⟨deed, planned, does⟩ | ⟨index, phase, beyond⟩
  · rw [planned, Option.map_some, Option.toList_some]
    refine ⟨does.interval.trans steady, does.named.trans named, ?_, ?_, ?_, ?_, ?_, ?_⟩
    · rw [← known] at passage ⊢
      simpa [word, deeds] using Deed.passage_does does passage
    · simpa [deeds] using timed_does does steady timed
    · simpa [deeds] using noted_does does named noted
    · rw [does.stopping, asked_did]
      exact asked
    · rw [does.source]
      exact fun ended => closed_append _ (closed ended)
    · refine grounded_append grounded fun time deed same => ?_
      cases same
      exact grounds_does does asked closed
  · rw [phase] at passage
    rw [known] at beyond
    exact absurd passage.known (Nat.not_lt.mpr beyond)

/-- An act leaves the supervisor where it is; all it can do to it is ask it to stop. -/
theorem sound_acted (sound : Sound interval steps chronicle) (act : RecoveryAct) :
    Sound interval steps
      ⟨chronicle.run.perform act, chronicle.log ++ [(chronicle.run.now, .acted act)]⟩ where
  steady := by simpa using sound.steady
  named := by simpa using sound.named
  passage := by simpa [word, deeds] using sound.passage
  timed := by simpa [deeds] using sound.timed
  noted := by simpa [deeds] using sound.noted
  asked := by
    rw [RecoveryRun.stopping_perform, asked_acted]
    exact or_congr_left sound.asked
  closed ended := by
    rcases RecoveryRun.source_perform ended with before | rfl
    · exact closed_append _ (sound.closed before)
    · exact ⟨chronicle.run.now, by simp⟩
  grounded := grounded_append sound.grounded nofun

theorem sound_waited (sound : Sound interval steps chronicle) {time : Nat}
    (later : chronicle.run.now ≤ time)
    (sooner : chronicle.run.supervisor.phase = .resting ∨
      chronicle.run.supervisor.phase = .reconnecting → time ≤ chronicle.run.wake) :
    Sound interval steps ⟨{ chronicle.run with now := time }, chronicle.log⟩ where
  steady := sound.steady
  named := sound.named
  passage := sound.passage
  timed :=
    { sound.timed with
      past := fun last isLast => (sound.timed.past last isLast).trans later
      due := sooner }
  noted := sound.noted
  asked := sound.asked
  closed := sound.closed
  grounded := sound.grounded

theorem reachable_sound (reachable : Reachable interval steps chronicle) :
    Sound interval steps chronicle := by
  induction reachable with
  | started generation counting attempts => exact sound_started generation counting attempts
  | step earlier step sound =>
      cases step with
      | advanced goes => exact sound_advanced sound goes
      | acted act => exact sound_acted sound act
      | waited later sooner => exact sound_waited sound later sooner

/-- What a supervisor keeps to, and what it comes to. -/
structure Lawful (interval : Nat) (steps : List ScriptedStep) (chronicle : Chronicle) : Prop where
  /-- It calls only inside recoveries that a notice of the connection in use has begun, and the
  calls of each form the word that they should. -/
  passage : Deed.Passage steps.length chronicle.run.supervisor.phase chronicle.word
  /-- Its calls are the ones that the run has noted. -/
  noted : chronicle.run.notes.filter (fun note => note.2.isCall) =
    chronicle.deeds.filterMap fun deed => (deed.2.note? steps).map (deed.1, ·)
  /-- It rests for the interval before every attempt. -/
  spaced : chronicle.deeds.IsChain (Spaced interval)
  grounded : Grounded chronicle.log
  /-- After a request to stop no attempt begins. -/
  final : ∀ before asked after, chronicle.log = before ++ (asked, .acted .stop) :: after →
    ∀ time, (time, Event.did .rested) ∉ after
  stopped : chronicle.run.supervisor.outcome? = some (.ok ()) ↔ Deed.obeyed ∈ chronicle.word
  deserted : chronicle.run.supervisor.outcome? = some (.error .noticesEnded) ↔
    Deed.foundEnd ∈ chronicle.word
  /-- It obeys at once when it is idle or rests. -/
  obedient : Asked chronicle.log → chronicle.run.supervisor.phase = .watching ∨
      chronicle.run.supervisor.phase = .resting →
    ∀ until?, ∃ next, chronicle.run.advance? until? = some next ∧
      next.supervisor.outcome? = some (.ok ())
  /-- It gives up when it is idle and the notices have ended. -/
  resigned : ¬ Asked chronicle.log → chronicle.run.supervisor.phase = .watching →
    chronicle.run.notices.receive.1 = .ended →
    ∀ until?, ∃ next, chronicle.run.advance? until? = some next ∧
      next.supervisor.outcome? = some (.error .noticesEnded)

theorem final_of_grounded (grounded : Grounded log) {before after : List (Nat × Event)}
    {asked : Nat} (split : log = before ++ (asked, .acted .stop) :: after) (time : Nat) :
    (time, Event.did .rested) ∉ after := by
  intro member
  obtain ⟨between, later, rfl⟩ := List.append_of_mem member
  have unasked : ¬ Asked (before ++ (asked, .acted .stop) :: between) :=
    grounded _ time .rested later (by simp [split])
  exact unasked ⟨asked, by simp⟩

theorem ended_iff (supervisor : Supervisor) (outcome : Outcome) :
    supervisor.outcome? = some outcome ↔ supervisor.phase = .ended outcome := by
  unfold Supervisor.outcome?
  split <;> simp_all

/-- **A supervisor recovers as it should**: every chronicle is lawful, whatever notices come,
whatever connection is in use when they are read, however the attempts and the restore steps
come out, and whenever somebody asks the supervisor to stop. -/
theorem recovery_law (reachable : Reachable interval steps chronicle) :
    Lawful interval steps chronicle := by
  have sound := reachable_sound reachable
  refine
    { passage := sound.passage
      noted := sound.noted
      spaced := sound.timed.spaced
      grounded := sound.grounded
      final := fun before asked after split => final_of_grounded sound.grounded split
      stopped := (ended_iff _ _).trans sound.passage.obeyed_iff
      deserted := (ended_iff _ _).trans sound.passage.foundEnd_iff
      obedient := fun asked idle => RecoveryRun.advance_stopping idle (sound.asked.mpr asked)
      resigned := fun unasked watching exhausted => ?_ }
  refine RecoveryRun.advance_ended watching ?_ exhausted
  rw [← sound.asked] at unasked
  simpa using unasked

/-! ## A recovery that fails twice -/

def turned (chronicle : Chronicle) : Option RecoveryAct → Chronicle
  | some act => ⟨chronicle.run.perform act, chronicle.log ++ [(chronicle.run.now, .acted act)]⟩
  | none =>
      match chronicle.run.advance? none with
      | some next =>
          ⟨next,
            chronicle.log ++ (chronicle.run.deed?.map fun deed => (next.now, .did deed)).toList⟩
      | none => chronicle

theorem reachable_turns (turns : List (Option RecoveryAct)) (chronicle : Chronicle)
    (reachable : Reachable interval steps chronicle) :
    Reachable interval steps (turns.foldl turned chronicle) := by
  induction turns generalizing chronicle with
  | nil => exact reachable
  | cons turn turns ih =>
      refine ih _ ?_
      cases turn with
      | some act => exact .step reachable (.acted act)
      | none =>
          simp only [turned]
          split
          · rename_i next goes
            exact .step reachable (.advanced goes)
          · exact reachable

/-- A notice of a replaced connection is passed over. The connection in use is lost; the first
attempt to reconnect fails, then a restore step does, and the third attempt succeeds. When the
new connection is lost as well, a request to stop cuts the rest short. -/
theorem thirdAttempt_lawful :
    ∃ chronicle, Reachable 10 [⟨"topology", [.error .internal]⟩] chronicle ∧
      chronicle.deeds =
        [(0, .read ⟨0, "old"⟩ 1), (0, .read ⟨1, "lost"⟩ 1),
          (10, .rested), (10, .reconnected (.failed .notConnected)),
          (20, .rested), (20, .reconnected (.done ())), (20, .restored 0 (.error .internal)),
          (30, .rested), (30, .reconnected (.done ())), (30, .restored 0 (.ok ())),
          (30, .read ⟨3, "lost again"⟩ 3), (30, .obeyed)] ∧
      Lawful 10 [⟨"topology", [.error .internal]⟩] chronicle := by
  have begun : Reachable 10 [⟨"topology", [.error .internal]⟩] _ :=
    .started 1 true [⟨0, .failed .notConnected⟩]
  have reached := reachable_turns
    [some (.raiseNotice ⟨0, "old"⟩), some (.raiseNotice ⟨1, "lost"⟩), none, none, none, none, none,
      none, none, none, none, none, some (.raiseNotice ⟨3, "lost again"⟩), none, some .stop, none]
    _ begun
  exact ⟨_, reached, rfl, recovery_law reached⟩

end Chronicle

end Redelivery
