import Redelivery.Proofs.Connection.Scene
/-!
# The generation of the connection in use

A supervisor passes over a notice whose generation is not the one that the manager has
counted last. An attempt counts the generation in one step and stores its link in another, so
that attempts may overtake each other in between: the connection in use is the one that was
stored last, and the generation belongs to the attempt that counted last.

* `reachable_numbered`: the generation of a link is the latest exactly if its attempt
  counted last.
* `generation_of_link_iff`: the notices of the connection in use are heeded exactly if the
  attempt that stored last has also counted last.
* `overtaken_ignored`: two attempts that cross leave a connection whose notices are passed
  over.
-/

namespace Redelivery

set_option autoImplicit false

namespace Scene

/-! ## The invariant -/

/-- The link of an attempt is not newer than the generation, and is of the latest one exactly
if its attempt counted last. -/
structure Latest (scene : Scene) (attempt : Nat) (link : Link) : Prop where
  bounded : link.generation ≤ scene.manager.generation
  latest : link.generation = scene.manager.generation ↔ scene.numbered.getLast? = some attempt

/-- What holds of every link, stored or about to be. -/
structure Numbered (scene : Scene) : Prop where
  storing : ∀ attempt link, scene.attempts[attempt]? = some (.storing link) →
    scene.Latest attempt link
  stored : ∀ link, scene.manager.link = some link → ∃ attempt point,
    scene.stored.getLast? = some attempt ∧ scene.attempts[attempt]? = some point ∧
      point.isPast = true ∧ scene.Latest attempt link

variable {scene next : Scene}

theorem Latest.same {attempt : Nat} {link : Link} (latest : scene.Latest attempt link)
    (generation : next.manager.generation = scene.manager.generation)
    (counted : next.numbered = scene.numbered) : next.Latest attempt link := by
  constructor
  · rw [generation]
    exact latest.bounded
  · rw [generation, counted]
    exact latest.latest

theorem Latest.overtaken {attempt other : Nat} {link : Link} (latest : scene.Latest attempt link)
    (different : attempt ≠ other)
    (generation : next.manager.generation = scene.manager.generation + 1)
    (counted : next.numbered.getLast? = some other) : next.Latest attempt link := by
  have bounded := latest.bounded
  constructor
  · omega
  · rw [generation, counted]
    constructor
    · intro same
      omega
    · intro same
      exact absurd (Option.some.inj same).symm different

theorem numbered_of_frame (numbered : scene.Numbered)
    (kept : ∀ (attempt : Nat) (point : Connecting), scene.attempts[attempt]? = some point →
      next.attempts[attempt]? = some point)
    (old : ∀ (attempt : Nat) (link : Link), next.attempts[attempt]? = some (.storing link) →
      scene.attempts[attempt]? = some (.storing link))
    (generation : next.manager.generation = scene.manager.generation)
    (link : ∀ link, next.manager.link = some link → scene.manager.link = some link)
    (counted : next.numbered = scene.numbered) (last : next.stored = scene.stored) :
    next.Numbered := by
  constructor
  · intro attempt link found
    exact (numbered.storing attempt link (old attempt link found)).same generation counted
  · intro inUse found
    obtain ⟨attempt, point, lastStored, place, past, latest⟩ :=
      numbered.stored inUse (link inUse found)
    exact ⟨attempt, point, last ▸ lastStored, kept attempt point place, past,
      latest.same generation counted⟩

theorem numbered_of_attempt (numbered : scene.Numbered) (supervisor : Supervisor)
    (own : Option Nat) (begun : List Beginning) :
    Numbered { scene with supervisor, own, begun, attempts := scene.attempts ++ [.dialing] } := by
  refine numbered_of_frame numbered (fun attempt point found => ?_) (fun attempt link found => ?_)
    rfl (fun _ found => found) rfl rfl
  · rw [List.getElem?_append_left (List.getElem?_eq_some_iff.mp found).1]
    exact found
  · by_cases inside : attempt < scene.attempts.length
    · rwa [List.getElem?_append_left inside] at found
    · rw [List.getElem?_append_right (Nat.le_of_not_lt inside)] at found
      simp [List.getElem?_singleton] at found

section Advance

variable {attempt : Nat} {World : Type} (wire : Wire World) (world : World)

/-- What an attempt counts makes every other link old. -/
theorem numbered_of_counting (numbered : scene.Numbered) {connection : ConnectionId}
    {produce consume : Channel}
    (present : scene.attempts[attempt]? = some (.numbering connection produce consume)) :
    (scene.advance attempt (.numbering connection produce consume) wire world).Numbered := by
  have places := advance_attempts attempt _ wire world present
  have counted : (scene.advance attempt (.numbering connection produce consume) wire
      world).numbered.getLast? = some attempt := by
    simp [advance, Connecting.isNumbering]
  constructor
  · intro other link found
    rcases storing_advance present found with ⟨different, before⟩ | ⟨rfl, counts⟩
    · exact (numbered.storing other link before).overtaken different rfl counted
    · cases counts
      exact ⟨Nat.le_refl _, fun _ => counted, fun _ => rfl⟩
  · intro link found
    obtain ⟨other, point, last, place, past, latest⟩ := numbered.stored link found
    have different : other ≠ attempt := by
      rintro rfl
      rw [present] at place
      cases place
      cases past
    refine ⟨other, point, last, ?_, past, latest.overtaken different rfl counted⟩
    rw [places, if_neg different]
    exact place

/-- What an attempt stores is the link that it has counted. -/
theorem numbered_of_storing (numbered : scene.Numbered) {link : Link}
    (present : scene.attempts[attempt]? = some (.storing link))
    (past : (Connecting.step wire (.storing link) (scene.manager, world)).1.isPast = true)
    (manager : (Connecting.step wire (.storing link) (scene.manager, world)).2.1 =
      { scene.manager with link := some link }) :
    (scene.advance attempt (.storing link) wire world).Numbered := by
  have places := advance_attempts attempt _ wire world present
  have after : (scene.advance attempt (.storing link) wire world).manager =
      { scene.manager with link := some link } := manager
  have generation : (scene.advance attempt (.storing link) wire world).manager.generation =
      scene.manager.generation := by
    rw [after]
  constructor
  · intro other waiting found
    obtain ⟨-, before⟩ := storing_beside present (Connecting.isStoring_of_isPast past) found
    exact (numbered.storing other waiting before).same generation rfl
  · intro inUse found
    rw [after] at found
    cases found
    refine ⟨attempt, _, ?_, ?_, past, (numbered.storing attempt link present).same generation rfl⟩
    · simp [advance, Connecting.isStoring]
    · rw [places, if_pos rfl]

theorem numbered_of_waiting (numbered : scene.Numbered) {point : Connecting}
    (present : scene.attempts[attempt]? = some point) (uncounted : point.isNumbering = false)
    (unstored : point.isStoring = false)
    (waiting : (point.step wire (scene.manager, world)).1.isStoring = false)
    (past : point.isPast = true → (point.step wire (scene.manager, world)).1.isPast = true)
    (manager : (point.step wire (scene.manager, world)).2.1 = scene.manager) :
    (scene.advance attempt point wire world).Numbered := by
  have places := advance_attempts attempt _ wire world present
  have after : (scene.advance attempt point wire world).manager = scene.manager := manager
  have generation : (scene.advance attempt point wire world).manager.generation =
      scene.manager.generation := by
    rw [after]
  have counted : (scene.advance attempt point wire world).numbered = scene.numbered := by
    simp [advance, uncounted]
  have last : (scene.advance attempt point wire world).stored = scene.stored := by
    simp [advance, unstored]
  constructor
  · intro other link found
    obtain ⟨-, before⟩ := storing_beside present waiting found
    exact (numbered.storing other link before).same generation counted
  · intro link found
    rw [after] at found
    obtain ⟨other, before, lastStored, place, beyond, latest⟩ := numbered.stored link found
    rw [last]
    by_cases same : other = attempt
    · subst same
      rw [present] at place
      cases place
      refine ⟨other, _, lastStored, ?_, past beyond, latest.same generation counted⟩
      rw [places, if_pos rfl]
    · refine ⟨other, before, lastStored, ?_, beyond, latest.same generation counted⟩
      rw [places, if_neg same]
      exact place

theorem numbered_advance (numbered : scene.Numbered) {point : Connecting}
    (present : scene.attempts[attempt]? = some point) :
    (scene.advance attempt point wire world).Numbered := by
  rcases point.step_cases wire scene.manager world with
    ⟨connection, produce, consume, rfl, -, -⟩ | ⟨link, rfl, past, manager⟩ |
    ⟨uncounted, unstored, waiting, past, manager⟩
  · exact numbered_of_counting wire world numbered present
  · exact numbered_of_storing wire world numbered present past manager
  · exact numbered_of_waiting wire world numbered present uncounted unstored waiting past manager

end Advance

theorem numbered_supervisor {steps : Nat} (numbered : scene.Numbered)
    (step : SupervisorStep steps scene next) : next.Numbered := by
  cases step with
  | rested resting unstopped => exact numbered_of_attempt numbered _ _ _
  | advanced own found going wire world => exact numbered_advance wire world numbered found
  | looked looks =>
      exact numbered_of_frame numbered (fun _ _ found => found) (fun _ _ found => found) rfl
        (fun _ found => found) rfl rfl
  | reconnected own found =>
      exact numbered_of_frame numbered (fun _ _ found => found) (fun _ _ found => found) rfl
        (fun _ found => found) rfl rfl
  | restored restoring outcome =>
      exact numbered_of_frame numbered (fun _ _ found => found) (fun _ _ found => found) rfl
        (fun _ found => found) rfl rfl

theorem numbered_host (numbered : scene.Numbered) (step : HostStep scene next) :
    next.Numbered := by
  cases step with
  | @closed closing point found World wire world =>
      refine numbered_of_frame numbered (fun _ _ found => found) (fun _ _ found => found) ?_
        (fun link inUse => ?_) rfl rfl
      · rcases point.step_cases wire scene.manager world with
          ⟨-, -, manager⟩ | ⟨-, -, manager | manager⟩ <;> simp only [manager]
      · rcases point.step_cases wire scene.manager world with
          ⟨-, -, manager⟩ | ⟨-, -, manager | manager⟩ <;> simp only [manager] at inUse
        · exact inUse
        · exact inUse
        · cases inUse
  | _ =>
      exact numbered_of_frame numbered (fun _ _ found => found) (fun _ _ found => found) rfl
        (fun _ found => found) rfl rfl

/-- The generation of a link is the latest exactly if its attempt counted last. -/
theorem reachable_numbered {steps : Nat} (reachable : Reachable steps scene) :
    scene.Numbered := by
  induction reachable with
  | started => exact ⟨nofun, nofun⟩
  | supervisor earlier step numbered => exact numbered_supervisor numbered step
  | host earlier step numbered => exact numbered_host numbered step
  | connect earlier step numbered =>
      cases step with
      | begun => exact numbered_of_attempt numbered _ _ _
      | advanced other found going wire world => exact numbered_advance wire world numbered found

/-- **When the generation is that of the connection in use**: exactly if the attempt that
stored last has also counted last; and exactly then a supervisor that watches heeds the
notices of that connection, while otherwise it passes over them. -/
theorem generation_of_link_iff {steps : Nat} (reachable : Reachable steps scene) {link : Link}
    (inUse : scene.manager.link = some link) :
    (link.generation = scene.manager.generation ↔
        scene.stored.getLast? = scene.numbered.getLast?) ∧
      ∀ (source : NoticeSource) (reason : String) (rest : List Notice),
        Supervisor.started.look scene.manager.generation
            ⟨source, some (⟨link.generation, reason⟩ :: rest)⟩ =
          some (if scene.stored.getLast? = scene.numbered.getLast? then
              Supervisor.started.enter .resting
            else Supervisor.started, ⟨source, some rest⟩) := by
  obtain ⟨attempt, point, last, -, -, latest⟩ := (reachable_numbered reachable).stored link inUse
  have same : link.generation = scene.manager.generation ↔
      scene.stored.getLast? = scene.numbered.getLast? := by
    rw [latest.latest, last]
    exact eq_comm
  refine ⟨same, fun source reason rest => ?_⟩
  by_cases live : link.generation = scene.manager.generation
  · simp [Supervisor.look, Supervisor.started, NoticeStream.receive, live, same.mp live]
  · have crossed : ¬ scene.stored.getLast? = scene.numbered.getLast? := fun met =>
      live (same.mpr met)
    simp [Supervisor.look, Supervisor.started, NoticeStream.receive, live, crossed]

/-! ## Poles -/

def twoBegun : Scene := { started with attempts := [.dialing, .dialing] }

theorem reachable_twoBegun : Reachable 0 twoBegun :=
  .connect (.connect .started .begun) .begun

/-- One attempt after the other: the generation is that of the second. -/
def inTurn : Scene := [0, 0, 0, 0, 0, 1, 1, 1, 1, 1, 1].foldl goOn twoBegun

/-- The first attempt counts first and stores last. -/
def crossed : Scene := [0, 0, 0, 0, 1, 1, 1, 1, 1, 0, 0].foldl goOn twoBegun

/-- The connection in use after two attempts in turn. -/
theorem generation_of_link_inTurn :
    Reachable 0 inTurn ∧ inTurn.manager.link = some ⟨2, 2, ⟨2, 2⟩, ⟨2, 2⟩⟩ ∧
      ((2 = inTurn.manager.generation ↔ inTurn.stored.getLast? = inTurn.numbered.getLast?) ∧
        ∀ (source : NoticeSource) (reason : String) (rest : List Notice),
          Supervisor.started.look inTurn.manager.generation ⟨source, some (⟨2, reason⟩ :: rest)⟩ =
            some (if inTurn.stored.getLast? = inTurn.numbered.getLast? then
                Supervisor.started.enter .resting
              else Supervisor.started, ⟨source, some rest⟩)) := by
  have reachable : Reachable 0 inTurn := reachable_goOns _ _ reachable_twoBegun rfl
  have inUse : inTurn.manager.link = some ⟨2, 2, ⟨2, 2⟩, ⟨2, 2⟩⟩ := rfl
  exact ⟨reachable, inUse, generation_of_link_iff reachable inUse⟩

/-- Two attempts that cross leave a connection in use whose notices are passed over. -/
theorem overtaken_ignored :
    Reachable 0 crossed ∧ (∀ point ∈ crossed.attempts, point.outcome? = some (.ok ())) ∧
      crossed.manager.link = some ⟨1, 1, ⟨1, 1⟩, ⟨1, 1⟩⟩ ∧ crossed.manager.generation = 2 ∧
      ∀ (source : NoticeSource) (reason : String) (rest : List Notice),
        Supervisor.started.look crossed.manager.generation ⟨source, some (⟨1, reason⟩ :: rest)⟩ =
          some (Supervisor.started, ⟨source, some rest⟩) := by
  refine ⟨reachable_goOns _ _ reachable_twoBegun rfl, ?_, rfl, rfl, fun _ _ _ => rfl⟩
  have places : crossed.attempts = [.finished (.ok ()), .finished (.ok ())] := rfl
  simp [places, Connecting.outcome?]

end Scene

end Redelivery
