import Redelivery.Proofs.Connection.Upkeep
/-!
# One recovery for each lost connection

Notices about one connection may pile up, and those of replaced connections still arrive. The
generation tells them apart: it counts the connections that were made, so a notice is either
about the connection in use or about one that has been replaced. A notice of the connection in
use begins a recovery, and that recovery ends only with a newer connection. So no connection
begins two recoveries, and no notice of the connection in use gets lost.

* `Counted`, `Bounded`, `Spent`, `Heard`: what holds at every moment of the generation, of the
  generations that were given away, of the recoveries, and of the notices that wait.
* `kept_step`: what each step preserves.
* `one_recovery_per_loss`: the generation grows exactly with the connections that are made, each
  connection begins at most one recovery, what is passed over concerns a replaced connection,
  and what concerns the connection in use is not missed.
-/

namespace Redelivery

set_option autoImplicit false

namespace Upkeep

variable {steps : Nat} {upkeep next : Upkeep}

def generation (upkeep : Upkeep) : Nat := upkeep.scene.manager.generation

@[simp] theorem scene_moved (next : Scene) : (upkeep.moved next).scene = next := rfl

@[simp] theorem generation_moved (next : Scene) :
    (upkeep.moved next).generation = next.manager.generation := rfl

/-! ## The count -/

/-- The generation counts the connections that were made, and the link that was stored last has
the latest one unless the supervisor's own attempt is about to store its link. -/
structure Counted (upkeep : Upkeep) : Prop where
  quiet : upkeep.scene.Quiet
  counted : upkeep.generation = 1 + upkeep.scene.attempts.countP Connecting.hasCounted
  storing : ∀ (attempt : Nat) link, upkeep.scene.attempts[attempt]? = some (.storing link) →
    link.generation = upkeep.generation
  latest : upkeep.latest.generation = upkeep.generation ∨ ∃ attempt link,
    upkeep.scene.own = some attempt ∧ upkeep.scene.attempts[attempt]? = some (.storing link)
  older : upkeep.latest.generation ≤ upkeep.generation
  link : upkeep.scene.manager.link = some upkeep.latest ∨
    upkeep.scene.manager.link = none ∧ upkeep.scene.closings ≠ []

/-- Attempts of others are over, so only the supervisor's own can be about to store. -/
theorem Counted.own_of_storing (counted : Counted upkeep) {attempt : Nat} {point : Connecting}
    (found : upkeep.scene.attempts[attempt]? = some point) (going : point.outcome? = none) :
    upkeep.scene.own = some attempt := by
  by_cases own : upkeep.scene.own = some attempt
  · exact own
  · have finished := counted.quiet attempt point found own
    rw [going] at finished
    cases finished

/-- With no attempt under way the link that was stored last has the latest generation. -/
theorem Counted.settled (counted : Counted upkeep) (idle : upkeep.scene.own = none) :
    upkeep.latest.generation = upkeep.generation := by
  rcases counted.latest with settled | ⟨attempt, -, own, -⟩
  · exact settled
  · rw [idle] at own
    cases own

/-- The link that was stored last stays so until another one is stored. -/
theorem Counted.latest_moved (counted : Counted upkeep) {next : Scene}
    (link : next.manager.link = upkeep.scene.manager.link ∨ next.manager.link = none) :
    (upkeep.moved next).latest = upkeep.latest := by
  simp only [moved]
  rcases link with kept | gone
  · rcases counted.link with stored | ⟨none, -⟩
    · simp [kept, stored]
    · simp [kept, none]
  · simp [gone]

theorem counted_of_frame (counted : Counted upkeep) {next : Scene} (quiet : next.Quiet)
    (generation : next.manager.generation = upkeep.scene.manager.generation)
    (attempts : next.attempts = upkeep.scene.attempts)
    (own : ∀ (attempt : Nat) link, upkeep.scene.attempts[attempt]? = some (.storing link) →
      upkeep.scene.own = some attempt → next.own = some attempt)
    (link : next.manager.link = upkeep.scene.manager.link ∨
      next.manager.link = none ∧ next.closings ≠ [])
    (closings : upkeep.scene.closings ≠ [] → next.closings ≠ []) :
    Counted (upkeep.moved next) := by
  have same := counted.latest_moved (link.imp_right And.left)
  refine ⟨quiet, ?_, ?_, ?_, ?_, ?_⟩ <;>
    simp only [same, generation_moved, scene_moved, attempts, generation]
  · exact counted.counted
  · exact counted.storing
  · refine counted.latest.imp_right ?_
    rintro ⟨attempt, link, owned, found⟩
    exact ⟨attempt, link, own attempt link found owned, found⟩
  · exact counted.older
  · rcases link with kept | gone
    · rw [kept]
      exact counted.link.imp_right fun gone => ⟨gone.1, closings gone.2⟩
    · exact .inr gone

theorem idle_of_phase {scene : Scene} (tidy : scene.Tidy)
    (elsewhere : scene.supervisor.phase ≠ .reconnecting) : scene.own = none := by
  cases own : scene.own with
  | none => rfl
  | some attempt => exact absurd (tidy.waiting.mpr (by simp [own])) elsewhere

theorem counted_begun (counted : Counted upkeep)
    (idle : upkeep.scene.own = none) {next : Scene} (quiet : next.Quiet)
    (manager : next.manager = upkeep.scene.manager)
    (attempts : next.attempts = upkeep.scene.attempts ++ [.dialing])
    (closings : next.closings = upkeep.scene.closings) : Counted (upkeep.moved next) := by
  have same : (upkeep.moved next).latest = upkeep.latest :=
    counted.latest_moved (.inl (by rw [manager]))
  have generation : (upkeep.moved next).generation = upkeep.generation := by
    rw [generation_moved, manager]
    rfl
  refine ⟨quiet, ?_, fun attempt link found => ?_, .inl ?_, ?_, ?_⟩
  · rw [generation, scene_moved, attempts, List.countP_append]
    exact counted.counted
  · rw [generation]
    simp only [scene_moved, attempts] at found
    by_cases old : attempt < upkeep.scene.attempts.length
    · rw [List.getElem?_append_left old] at found
      exact counted.storing attempt link found
    · rw [List.getElem?_append_right (Nat.le_of_not_lt old)] at found
      simp [List.getElem?_singleton] at found
  · rw [same, generation]
    exact counted.settled idle
  · rw [same, generation]
    exact counted.older
  · rw [same, scene_moved, manager, closings]
    exact counted.link

section Advanced

variable {attempt : Nat} {point : Connecting} {World : Type} {wire : Wire World} {world : World}

theorem count_advanced (counted : Counted upkeep)
    (found : upkeep.scene.attempts[attempt]? = some point) :
    (upkeep.moved (upkeep.scene.advance attempt point wire world)).generation =
      1 + (upkeep.scene.advance attempt point wire world).attempts.countP
        Connecting.hasCounted := by
  -- The generation grows exactly when the attempt joins those that have counted.
  have before := counted.counted
  simp only [moved, Upkeep.generation, Scene.advance, Connecting.generation_step,
    Connecting.countP_hasCounted_set wire found] at before ⊢
  omega

theorem Counted.eq_own (counted : Counted upkeep) (own : upkeep.scene.own = some attempt)
    {other : Nat} {link : Link}
    (place : upkeep.scene.attempts[other]? = some (.storing link)) : other = attempt := by
  have mine := counted.own_of_storing place rfl
  rw [own] at mine
  exact (Option.some.inj mine).symm

/-- The supervisor's attempt counts: its link is the latest, and is about to be stored. -/
theorem counted_counting (counted : Counted upkeep) (own : upkeep.scene.own = some attempt)
    {connection : ConnectionId} {produce consume : Channel}
    (found : upkeep.scene.attempts[attempt]? = some (.numbering connection produce consume))
    (quiet : (upkeep.scene.advance attempt (.numbering connection produce consume) wire
      world).Quiet) :
    Counted (upkeep.moved
      (upkeep.scene.advance attempt (.numbering connection produce consume) wire world)) := by
  have same : (upkeep.moved (upkeep.scene.advance attempt
      (.numbering connection produce consume) wire world)).latest = upkeep.latest :=
    counted.latest_moved (.inl rfl)
  refine ⟨quiet, count_advanced counted found, fun other link place => ?_, .inr ?_, ?_, ?_⟩
  · rcases Scene.storing_advance found place with ⟨different, before⟩ | ⟨-, counts⟩
    · exact absurd (counted.eq_own own before) different
    · cases counts
      rfl
  · exact ⟨attempt, ⟨upkeep.generation + 1, connection, produce, consume⟩, own,
      (Scene.advance_attempts attempt _ wire world found attempt).trans (if_pos rfl)⟩
  · rw [same]
    exact Nat.le_succ_of_le counted.older
  · rw [same]
    exact counted.link

/-- The supervisor's attempt stores the link that it has counted. -/
theorem counted_storing (counted : Counted upkeep) (own : upkeep.scene.own = some attempt)
    {link : Link} (found : upkeep.scene.attempts[attempt]? = some (.storing link))
    (past : (Connecting.step wire (.storing link) (upkeep.scene.manager, world)).1.isPast = true)
    (manager : (Connecting.step wire (.storing link) (upkeep.scene.manager, world)).2.1 =
      { upkeep.scene.manager with link := some link })
    (quiet : (upkeep.scene.advance attempt (.storing link) wire world).Quiet) :
    Counted (upkeep.moved (upkeep.scene.advance attempt (.storing link) wire world)) := by
  have mine := counted.storing attempt link found
  have after : (upkeep.scene.advance attempt (.storing link) wire world).manager =
      { upkeep.scene.manager with link := some link } := manager
  have stored : (upkeep.moved
      (upkeep.scene.advance attempt (.storing link) wire world)).latest = link := by
    simp only [moved, after, Option.getD_some]
  have generation : (upkeep.moved
      (upkeep.scene.advance attempt (.storing link) wire world)).generation =
        upkeep.generation := by
    rw [generation_moved, after]
    rfl
  refine ⟨quiet, count_advanced counted found, fun other each place => ?_, .inl ?_, ?_, .inl ?_⟩
  · obtain ⟨different, before⟩ :=
      Scene.storing_beside found (Connecting.isStoring_of_isPast past) place
    exact absurd (counted.eq_own own before) different
  · rw [stored, generation]
    exact mine
  · rw [stored, generation]
    exact Nat.le_of_eq mine
  · rw [stored, scene_moved, after]

/-- Any other step of the supervisor's attempt leaves the manager alone. -/
theorem counted_waiting (counted : Counted upkeep) (own : upkeep.scene.own = some attempt)
    (found : upkeep.scene.attempts[attempt]? = some point)
    (unstored : point.isStoring = false)
    (waiting : (point.step wire (upkeep.scene.manager, world)).1.isStoring = false)
    (manager : (point.step wire (upkeep.scene.manager, world)).2.1 = upkeep.scene.manager)
    (quiet : (upkeep.scene.advance attempt point wire world).Quiet) :
    Counted (upkeep.moved (upkeep.scene.advance attempt point wire world)) := by
  have after : (upkeep.scene.advance attempt point wire world).manager =
      upkeep.scene.manager := manager
  have same : (upkeep.moved (upkeep.scene.advance attempt point wire world)).latest =
      upkeep.latest := counted.latest_moved (.inl (by rw [after]))
  have generation : (upkeep.moved (upkeep.scene.advance attempt point wire world)).generation =
      upkeep.generation := by
    rw [generation_moved, after]
    rfl
  refine ⟨quiet, count_advanced counted found, fun other link place => ?_, .inl ?_, ?_, ?_⟩
  · obtain ⟨different, before⟩ := Scene.storing_beside found waiting place
    exact absurd (counted.eq_own own before) different
  · rw [same, generation]
    rcases counted.latest with settled | ⟨other, link, owned, place⟩
    · exact settled
    · rw [own] at owned
      cases owned
      rw [found] at place
      cases place
      cases unstored
  · rw [same, generation]
    exact counted.older
  · rw [same, scene_moved, after]
    exact counted.link

theorem counted_advanced (counted : Counted upkeep) (own : upkeep.scene.own = some attempt)
    (found : upkeep.scene.attempts[attempt]? = some point)
    (quiet : (upkeep.scene.advance attempt point wire world).Quiet) :
    Counted (upkeep.moved (upkeep.scene.advance attempt point wire world)) := by
  rcases point.step_cases wire upkeep.scene.manager world with
    ⟨connection, produce, consume, rfl, -, -⟩ | ⟨link, rfl, past, manager⟩ |
    ⟨-, unstored, waiting, -, manager⟩
  · exact counted_counting counted own found quiet
  · exact counted_storing counted own found past manager quiet
  · exact counted_waiting counted own found unstored waiting manager quiet

end Advanced

theorem counted_supervisor (counted : Counted upkeep) (tidy : upkeep.scene.Tidy) {next : Scene}
    (step : Scene.SupervisorStep steps upkeep.scene next) : Counted (upkeep.moved next) := by
  have quiet := Scene.quiet_supervisor tidy counted.quiet step
  cases step with
  | looked looks | restored restoring outcome =>
      exact counted_of_frame counted quiet rfl rfl (fun _ _ _ own => own) (.inl rfl) id
  | rested resting unstopped =>
      have idle := idle_of_phase tidy (by simp [resting])
      exact counted_begun counted idle quiet rfl rfl rfl
  | advanced own found going wire world => exact counted_advanced counted own found quiet
  | reconnected own found =>
      refine counted_of_frame counted quiet rfl rfl (fun other link place owned => ?_) (.inl rfl) id
      rw [own] at owned
      cases owned
      rw [found] at place
      cases place

theorem counted_host (counted : Counted upkeep) {next : Scene}
    (aside : Scene.Aside upkeep.scene next) : Counted (upkeep.moved next) := by
  refine counted_of_frame counted ?_ aside.generation aside.attempts
    (fun _ _ _ own => aside.own.trans own) aside.link aside.closings
  rw [Scene.Quiet, aside.attempts, aside.own]
  exact counted.quiet

theorem counted_alarmed (counted : Counted upkeep) (notice : Notice) :
    Counted (upkeep.alarmed notice
      (upkeep.scene.manager.report notice.generation notice.reason)) :=
  ⟨counted.quiet, counted.counted, counted.storing, counted.latest, counted.older, counted.link⟩

/-! ## The generations that were given away -/

/-- Nothing bears a generation that was not counted yet. -/
structure Bounded (upkeep : Upkeep) : Prop where
  watched : ∀ entry ∈ upkeep.scene.manager.watched, entry.2 ≤ upkeep.generation
  subscriptions : ∀ subscription ∈ upkeep.subscriptions,
    subscription.generation ≤ upkeep.generation
  held : ∀ link ∈ upkeep.held, link.generation ≤ upkeep.generation
  raised : ∀ notice ∈ upkeep.raised, notice.generation ≤ upkeep.generation
  pending : ∀ notice ∈ upkeep.scene.manager.notices.pending,
    notice.generation ≤ upkeep.generation

theorem bounded_moved (bounded : Bounded upkeep) {next : Scene}
    (grown : upkeep.generation ≤ next.manager.generation)
    (watched : ∀ entry ∈ next.manager.watched,
      entry ∈ upkeep.scene.manager.watched ∨ entry.2 = next.manager.generation)
    (pending : ∀ notice ∈ next.manager.notices.pending,
      notice ∈ upkeep.scene.manager.notices.pending) : Bounded (upkeep.moved next) where
  watched entry member := by
    rcases watched entry member with old | latest
    · exact Nat.le_trans (bounded.watched entry old) grown
    · exact Nat.le_of_eq latest
  subscriptions subscription member :=
    Nat.le_trans (bounded.subscriptions subscription member) grown
  held link member := Nat.le_trans (bounded.held link member) grown
  raised notice member := Nat.le_trans (bounded.raised notice member) grown
  pending notice member := Nat.le_trans (bounded.pending notice (pending notice member)) grown

theorem bounded_supervisor (bounded : Bounded upkeep) {next : Scene}
    (step : Scene.SupervisorStep steps upkeep.scene next) : Bounded (upkeep.moved next) := by
  cases step with
  | looked looks =>
      refine bounded_moved bounded (Nat.le_refl _) (fun _ => .inl) fun notice member => ?_
      rcases Supervisor.look_cases looks with ⟨-, -, -, rfl⟩ |
        ⟨-, -, first, later, reader, rfl, -⟩ | ⟨-, -, -, -, -, rfl⟩
      · cases member
      · simp only [NoticeStream.pending, reader, Option.getD_some] at member ⊢
        exact List.mem_cons_of_mem first member
      · cases member
  | rested | reconnected | restored =>
      exact bounded_moved bounded (Nat.le_refl _) (fun _ => .inl) fun _ => id
  | @advanced attempt point own found going World wire world =>
      have pending : ∀ notice ∈ (upkeep.scene.advance attempt point wire
          world).manager.notices.pending, notice ∈ upkeep.scene.manager.notices.pending := by
        rw [Scene.notices_advance]
        exact fun _ => id
      refine bounded_moved bounded ?_ ?_ pending
      · simp only [Scene.advance, Connecting.generation_step]
        exact Nat.le_add_right _ _
      · rcases point.step_cases wire upkeep.scene.manager world with
          ⟨_, _, _, -, -, manager⟩ | ⟨_, -, -, manager⟩ | ⟨-, -, -, -, manager⟩ <;>
          simp only [Scene.advance, manager] <;> intro entry member
        · rcases List.mem_cons.mp member with rfl | old
          · exact .inr rfl
          · exact .inl old
        · exact .inl member
        · exact .inl member

theorem bounded_host (bounded : Bounded upkeep) {next : Scene}
    (aside : Scene.Aside upkeep.scene next)
    (silent : next.manager.notices.reader = upkeep.scene.manager.notices.reader) :
    Bounded (upkeep.moved next) := by
  refine bounded_moved bounded (Nat.le_of_eq aside.generation.symm) ?_ ?_
  · rw [aside.watched]
    exact fun _ => .inl
  · rw [NoticeStream.pending, silent]
    exact fun _ => id

theorem bounded_alarmed (bounded : Bounded upkeep) {notice : Notice}
    (known : notice.generation ≤ upkeep.generation) :
    Bounded (upkeep.alarmed notice
      (upkeep.scene.manager.report notice.generation notice.reason)) := by
  refine ⟨bounded.watched, bounded.subscriptions, bounded.held, fun each member => ?_,
    fun each member => ?_⟩
  · rcases List.mem_append.mp member with old | new
    · exact bounded.raised each old
    · rw [List.mem_singleton.mp new]
      exact known
  · rcases NoticeStream.mem_pending_raise member with old | rfl
    · exact bounded.pending each old
    · exact known

/-! ## The recoveries -/

/-- The connection in use was made after every recovery began: the supervisor watches or
restores, or its attempt has counted. -/
inductive Renewed (scene : Scene) : Prop where
  | watching (phase : scene.supervisor.phase = .watching) : Renewed scene
  | restoring {index : Nat} (phase : scene.supervisor.phase = .restoring index) : Renewed scene
  | counted {attempt : Nat} {point : Connecting} (own : scene.own = some attempt)
      (found : scene.attempts[attempt]? = some point) (counted : point.hasCounted = true) :
      Renewed scene

/-- A supervisor that rests, or has ended, has made no connection since it began to. -/
theorem not_renewed {scene : Scene} (unwatched : scene.supervisor.phase ≠ .watching)
    (restless : ∀ index, scene.supervisor.phase ≠ .restoring index) (idle : scene.own = none) :
    ¬ Renewed scene := by
  rintro (phase | phase | own)
  · exact unwatched phase
  · exact restless _ phase
  · rw [idle] at own
    cases own

/-- Recoveries are begun by ever later connections, and the connection in use has begun none
once it was made. -/
structure Spent (upkeep : Upkeep) : Prop where
  increasing : upkeep.heeded.Pairwise fun earlier later => earlier.generation < later.generation
  bounded : ∀ notice ∈ upkeep.heeded, notice.generation ≤ upkeep.generation
  renewed : Renewed upkeep.scene →
    ∀ notice ∈ upkeep.heeded, notice.generation < upkeep.generation

/-- A recovery is begun only by a supervisor that watches. -/
theorem heededBetween_of_busy {scene next : Scene} (busy : scene.supervisor.phase ≠ .watching) :
    heededBetween scene next = [] := by
  unfold heededBetween
  split
  · rename_i watching _ _
    exact absurd watching busy
  · rfl

theorem heededBetween_of_calm {scene next : Scene} (calm : next.supervisor.phase ≠ .resting) :
    heededBetween scene next = [] := by
  unfold heededBetween
  split
  · rename_i resting _
    exact absurd resting calm
  · rfl

theorem spent_moved (spent : Spent upkeep) {next : Scene}
    (calm : heededBetween upkeep.scene next = [])
    (grown : upkeep.generation ≤ next.manager.generation)
    (renewed : Renewed next →
      Renewed upkeep.scene ∨ upkeep.generation < next.manager.generation) :
    Spent (upkeep.moved next) := by
  have same : (upkeep.moved next).heeded = upkeep.heeded := by
    simp only [moved, calm, List.append_nil]
  refine ⟨?_, ?_, fun fresh => ?_⟩ <;> rw [same]
  · exact spent.increasing
  · exact fun notice member => Nat.le_trans (spent.bounded notice member) grown
  · intro notice member
    rcases renewed fresh with before | counted
    · exact Nat.lt_of_lt_of_le (spent.renewed before notice member) grown
    · exact Nat.lt_of_le_of_lt (spent.bounded notice member) counted

theorem spent_heeded (spent : Spent upkeep) {next : Scene} {notice : Notice} {later : List Notice}
    (watching : upkeep.scene.supervisor.phase = .watching)
    (reader : upkeep.scene.manager.notices.reader = some (notice :: later))
    (live : notice.generation = upkeep.scene.manager.generation)
    (resting : next.supervisor.phase = .resting)
    (generation : next.manager.generation = upkeep.scene.manager.generation)
    (idle : next.own = none) : Spent (upkeep.moved next) := by
  have heeded : (upkeep.moved next).heeded = upkeep.heeded ++ [notice] := by
    simp only [moved, heededBetween, watching, resting, NoticeStream.receive, reader]
  have older := spent.renewed (.watching watching)
  refine ⟨?_, fun each member => ?_, fun renewed => ?_⟩
  · rw [heeded, List.pairwise_append]
    refine ⟨spent.increasing, List.pairwise_singleton _ _, fun earlier member last isLast => ?_⟩
    rw [List.mem_singleton.mp isLast, live]
    exact older earlier member
  · rw [generation_moved, generation]
    rw [heeded] at member
    rcases List.mem_append.mp member with old | new
    · exact spent.bounded each old
    · rw [List.mem_singleton.mp new]
      exact Nat.le_of_eq live
  · exact absurd renewed (not_renewed (by simp [resting]) (by simp [resting]) idle)

/-- A supervisor that looks up begins a recovery only with a notice of the connection in
use, which has begun none before. -/
theorem spent_looked (spent : Spent upkeep) (tidy : upkeep.scene.Tidy) {supervisor : Supervisor}
    {notices : NoticeStream}
    (looks : upkeep.scene.supervisor.look upkeep.scene.manager.generation
      upkeep.scene.manager.notices = some (supervisor, notices)) :
    Spent (upkeep.moved
      { upkeep.scene with supervisor, manager := { upkeep.scene.manager with notices } }) := by
  have idle : upkeep.scene.own = none := by
    refine idle_of_phase tidy ?_
    rcases Supervisor.look_cases looks with
      ⟨-, phase | phase, -⟩ | ⟨-, phase, -⟩ | ⟨-, phase, -⟩ <;> simp [phase]
  rcases Supervisor.look_cases looks with ⟨-, -, rfl, rfl⟩ |
    ⟨-, watching, notice, later, reader, rfl, rfl⟩ | ⟨-, -, -, -, rfl, rfl⟩
  · exact spent_moved spent (heededBetween_of_calm nofun) (Nat.le_refl _) fun renewed =>
      absurd renewed (not_renewed nofun nofun idle)
  · by_cases live : notice.generation = upkeep.scene.manager.generation
    · rw [if_pos live]
      exact spent_heeded spent watching reader live rfl rfl idle
    · rw [if_neg live]
      refine spent_moved spent (heededBetween_of_calm (by simp [watching])) (Nat.le_refl _)
        fun _ => .inl (.watching watching)
  · exact spent_moved spent (heededBetween_of_calm nofun) (Nat.le_refl _) fun renewed =>
      absurd renewed (not_renewed nofun nofun idle)

theorem spent_supervisor (spent : Spent upkeep) (tidy : upkeep.scene.Tidy) {next : Scene}
    (step : Scene.SupervisorStep steps upkeep.scene next) : Spent (upkeep.moved next) := by
  cases step with
  | looked looks => exact spent_looked spent tidy looks
  | rested resting unstopped =>
      refine spent_moved spent (heededBetween_of_busy (by simp [resting])) (Nat.le_refl _)
        fun renewed => ?_
      cases renewed with
      | watching phase | restoring phase =>
          simp [Supervisor.rested, resting, Supervisor.enter] at phase
      | counted own found counted =>
          -- The attempt that begins is the last one of the list, and it has not counted.
          cases own
          rw [List.getElem?_append_right (Nat.le_refl _)] at found
          simp only [Nat.sub_self, List.getElem?_cons_zero, Option.some.injEq] at found
          rw [← found] at counted
          cases counted
  | @advanced attempt point own found going World wire world =>
      have waiting := tidy.waiting.mpr (by simp [own])
      have generation := Connecting.generation_step wire point upkeep.scene.manager world
      refine spent_moved spent (heededBetween_of_busy (by simp [waiting])) ?_ fun renewed => ?_
      · rw [Scene.advance, generation]
        exact Nat.le_add_right _ _
      · cases renewed with
        | watching phase | restoring phase =>
            rw [Scene.advance, waiting] at phase
            cases phase
        | counted still place counted =>
            have same := Option.some.inj (own.symm.trans still)
            rw [Scene.advance_attempts _ _ _ _ found, if_pos same.symm, Option.some.injEq] at place
            rw [← place, Connecting.hasCounted_step, Bool.or_eq_true] at counted
            rcases counted with before | counts
            · exact .inl (.counted own found before)
            -- What counts now has a generation above that of the notice which was heeded last.
            · refine .inr ?_
              rw [Scene.advance, generation, counts]
              exact Nat.lt_succ_self _
  | @reconnected attempt outcome own found =>
      have waiting := tidy.waiting.mpr (by simp [own])
      refine spent_moved spent (heededBetween_of_busy (by simp [waiting])) (Nat.le_refl _)
        fun renewed => .inl ?_
      cases outcome with
      | ok => exact .counted own found rfl
      | error failure =>
          cases renewed with
          | watching phase | restoring phase =>
              simp only [Scene.resumed, Supervisor.reconnected_error waiting] at phase
              cases phase
          | counted none => cases none
  | @restored index restoring outcome =>
      exact spent_moved spent (heededBetween_of_busy (by simp [restoring])) (Nat.le_refl _)
        fun _ => .inl (.restoring restoring)

theorem spent_host (spent : Spent upkeep) {next : Scene}
    (aside : Scene.Aside upkeep.scene next) : Spent (upkeep.moved next) := by
  refine spent_moved spent ?_ (Nat.le_of_eq aside.generation.symm) fun renewed => .inl ?_
  · by_cases watching : upkeep.scene.supervisor.phase = .watching
    · refine heededBetween_of_calm ?_
      rw [aside.phase, watching]
      exact nofun
    · exact heededBetween_of_busy watching
  · cases renewed with
    | watching phase => exact .watching (aside.phase ▸ phase)
    | restoring phase => exact .restoring (aside.phase ▸ phase)
    | counted own found counted =>
        exact .counted (aside.own ▸ own) (aside.attempts ▸ found) counted

/-! ## The notices that wait -/

/-- As long as nobody stops the supervisor or closes the manager, the stream is open, the
supervisor goes on, and every notice of the connection in use waits or has begun a recovery. -/
structure Heard (upkeep : Upkeep) : Prop where
  unclosed : upkeep.scene.closings = [] → upkeep.scene.manager.notices.source = .live
  handedOut : upkeep.scene.manager.notices.source ≠ .untaken
  going : upkeep.scene.supervisor.outcome?.isSome = true →
    upkeep.scene.supervisor.stopping = true ∨ upkeep.scene.closings ≠ []
  heard : upkeep.scene.supervisor.stopping = false → upkeep.scene.closings = [] →
    ∀ notice ∈ upkeep.raised, notice.generation = upkeep.generation →
      notice ∈ upkeep.scene.manager.notices.pending ∨
        ∃ earlier ∈ upkeep.heeded, earlier.generation = notice.generation

/-- A supervisor that nobody has stopped goes on while the manager is open. -/
theorem Heard.goes_on (heard : Heard upkeep) (unasked : upkeep.scene.supervisor.stopping = false)
    (unshut : upkeep.scene.closings = []) : upkeep.scene.supervisor.outcome? = none := by
  cases ended : upkeep.scene.supervisor.outcome? with
  | none => rfl
  | some outcome =>
      rcases heard.going (by simp [ended]) with asked | closed
      · rw [unasked] at asked
        cases asked
      · exact absurd unshut closed

theorem heard_of_frame (heard : Heard upkeep) {next : Scene}
    (notices : next.manager.notices = upkeep.scene.manager.notices)
    (closings : next.closings = upkeep.scene.closings)
    (stopping : next.supervisor.stopping = upkeep.scene.supervisor.stopping)
    (going : next.supervisor.outcome? = none)
    (generation : ∀ notice ∈ upkeep.raised, notice.generation = next.manager.generation →
      notice.generation = upkeep.generation) : Heard (upkeep.moved next) := by
  refine ⟨?_, ?_, ?_, ?_⟩ <;> simp only [scene_moved, notices, closings, stopping, going]
  · exact heard.unclosed
  · exact heard.handedOut
  · exact nofun
  · intro unasked unshut notice member live
    have before := heard.heard unasked unshut notice member (generation notice member live)
    refine before.imp_right ?_
    rintro ⟨earlier, begun, same⟩
    exact ⟨earlier, List.mem_append_left _ begun, same⟩

theorem heard_looked (heard : Heard upkeep) {supervisor : Supervisor} {notices : NoticeStream}
    (looks : upkeep.scene.supervisor.look upkeep.scene.manager.generation
      upkeep.scene.manager.notices = some (supervisor, notices)) :
    Heard (upkeep.moved
      { upkeep.scene with supervisor, manager := { upkeep.scene.manager with notices } }) := by
  rcases Supervisor.look_cases looks with ⟨asked, -, rfl, rfl⟩ |
    ⟨unasked, watching, first, later, reader, rfl, rfl⟩ | ⟨unasked, -, -, ended, rfl, rfl⟩
  · refine ⟨heard.unclosed, heard.handedOut, fun _ => .inl asked, fun unasked => ?_⟩
    rw [scene_moved, Supervisor.enter, asked] at unasked
    cases unasked
  · refine ⟨heard.unclosed, heard.handedOut, fun ended => ?_, fun _ unshut notice member live => ?_⟩
    · by_cases current : first.generation = upkeep.scene.manager.generation <;>
        simp [current, watching, Supervisor.enter, Supervisor.outcome?] at ended
    · have waits (there : notice ∈ upkeep.scene.manager.notices.pending) :
          notice = first ∨ notice ∈ later := by
        simpa [NoticeStream.pending, reader] using there
      rcases heard.heard unasked unshut notice member live with there | ⟨earlier, begun, same⟩
      · rcases waits there with rfl | behind
        · refine .inr ⟨notice, List.mem_append_right _ ?_, rfl⟩
          have current : notice.generation = upkeep.scene.manager.generation := live
          simp [heededBetween, watching, current, Supervisor.enter, NoticeStream.receive, reader]
        · exact .inl behind
      · exact .inr ⟨earlier, List.mem_append_left _ begun, same⟩
  · have closed : upkeep.scene.closings ≠ [] := by
      intro none
      rw [heard.unclosed none] at ended
      cases ended
    exact ⟨heard.unclosed, heard.handedOut, fun _ => .inr closed, fun _ none => absurd none closed⟩

theorem heard_supervisor (heard : Heard upkeep) (bounded : Bounded upkeep)
    (tidy : upkeep.scene.Tidy) {next : Scene}
    (step : Scene.SupervisorStep steps upkeep.scene next) : Heard (upkeep.moved next) := by
  cases step with
  | looked looks => exact heard_looked heard looks
  | rested resting unstopped =>
      refine heard_of_frame heard rfl rfl ?_ ?_ fun _ _ same => same <;>
        simp [Supervisor.rested, resting, Supervisor.enter, Supervisor.outcome?]
  | @advanced attempt point own found going World wire world =>
      have waiting := tidy.waiting.mpr (by simp [own])
      refine heard_of_frame heard (Scene.notices_advance _ _ _ _) rfl rfl ?_
        fun notice member live => ?_
      · simp [Scene.advance, Supervisor.outcome?, waiting]
      · have known := bounded.raised notice member
        simp only [Scene.advance, Connecting.generation_step, Upkeep.generation] at live known ⊢
        omega
  | @reconnected attempt outcome own found =>
      have waiting := tidy.waiting.mpr (by simp [own])
      obtain ⟨going, stopping⟩ := Supervisor.reconnected_goesOn steps waiting outcome
      exact heard_of_frame heard rfl rfl stopping going fun _ _ same => same
  | restored restoring outcome =>
      obtain ⟨going, stopping⟩ := Supervisor.restored_goesOn steps restoring outcome
      exact heard_of_frame heard rfl rfl stopping going fun _ _ same => same

theorem heard_host (heard : Heard upkeep) {next : Scene} (aside : Scene.Aside upkeep.scene next)
    (silent : next.manager.notices.reader = upkeep.scene.manager.notices.reader) :
    Heard (upkeep.moved next) := by
  have unclosed (unshut : next.closings = []) : upkeep.scene.closings = [] := by
    cases before : upkeep.scene.closings with
    | nil => rfl
    | cons closing others => exact absurd unshut (aside.closings (by simp [before]))
  refine ⟨fun unshut => ?_, ?_, fun ended => ?_, fun unasked unshut notice member live => ?_⟩
  · rcases aside.source heard.handedOut with same | ⟨-, closed⟩
    · exact same.trans (heard.unclosed (unclosed unshut))
    · exact absurd unshut closed
  · rcases aside.source heard.handedOut with same | ⟨closed, -⟩
    · exact fun untaken => heard.handedOut (same.symm.trans untaken)
    · rw [scene_moved, closed]
      exact nofun
  · simp only [scene_moved, Supervisor.outcome?, aside.phase] at ended
    exact (heard.going ended).imp aside.stopping aside.closings
  · have before : upkeep.scene.supervisor.stopping = false := by
      cases stopping : upkeep.scene.supervisor.stopping with
      | false => rfl
      | true =>
          rw [scene_moved, aside.stopping stopping] at unasked
          cases unasked
    rw [generation_moved, aside.generation] at live
    rcases heard.heard before (unclosed unshut) notice member live with
      waits | ⟨earlier, begun, same⟩
    · refine .inl ?_
      rw [scene_moved, NoticeStream.pending, silent]
      exact waits
    · exact .inr ⟨earlier, List.mem_append_left _ begun, same⟩

/-- A notice that is raised will be read, as long as nobody has stopped the supervisor or
closed the manager. -/
theorem heard_alarmed (heard : Heard upkeep) (tidy : upkeep.scene.Tidy) (notice : Notice) :
    Heard (upkeep.alarmed notice
      (upkeep.scene.manager.report notice.generation notice.reason)) := by
  have source := NoticeStream.source_raise notice upkeep.scene.manager.notices
  refine ⟨fun unshut => source.trans (heard.unclosed unshut),
    fun untaken => heard.handedOut (source.symm.trans untaken), heard.going,
    fun unasked unshut each member live => ?_⟩
  have going := heard.goes_on unasked unshut
  have waiting : ((upkeep.alarmed notice (upkeep.scene.manager.report notice.generation
      notice.reason)).scene.manager.notices).pending =
        upkeep.scene.manager.notices.pending ++ [notice] :=
    NoticeStream.pending_raise (heard.unclosed unshut) (tidy.reading going)
  rw [waiting]
  rcases List.mem_append.mp member with old | new
  · refine (heard.heard unasked unshut each old live).imp_left fun waits => ?_
    exact List.mem_append_left _ waits
  · rw [List.mem_singleton.mp new]
    exact .inl (List.mem_append_right _ (List.mem_singleton_self notice))

/-! ## Every upkeep -/

structure Kept (upkeep : Upkeep) : Prop where
  tidy : upkeep.scene.Tidy
  counted : Counted upkeep
  bounded : Bounded upkeep
  spent : Spent upkeep
  heard : Heard upkeep

theorem kept_started {manager : Manager} {link : Link} (opened : manager.Opened)
    (inUse : manager.link = some link) : Kept (started manager link) := by
  obtain ⟨connection, produce, consume, rfl⟩ := Manager.opened_cases opened
  cases inUse
  refine ⟨⟨nofun, ?_, fun _ => rfl, nofun⟩, ⟨nofun, rfl, nofun, .inl rfl, Nat.le_refl _, .inl rfl⟩,
    ⟨?_, nofun, nofun, nofun, nofun⟩, ⟨.nil, nofun, fun _ => nofun⟩,
    ⟨fun _ => rfl, nofun, nofun, fun _ _ => nofun⟩⟩
  · simp [started, Scene.started, Supervisor.started]
  · intro entry member
    cases List.mem_singleton.mp member
    exact Nat.le_refl _

theorem kept_supervisor (kept : Kept upkeep) {next : Scene}
    (step : Scene.SupervisorStep steps upkeep.scene next) : Kept (upkeep.moved next) where
  tidy := Scene.tidy_supervisor kept.tidy step
  counted := counted_supervisor kept.counted kept.tidy step
  bounded := bounded_supervisor kept.bounded step
  spent := spent_supervisor kept.spent kept.tidy step
  heard := heard_supervisor kept.heard kept.bounded kept.tidy step

theorem kept_host (kept : Kept upkeep) {next : Scene} (step : Scene.HostStep upkeep.scene next)
    (silent : next.manager.notices.reader = upkeep.scene.manager.notices.reader) :
    Kept (upkeep.moved next) where
  tidy := Scene.tidy_host kept.tidy step
  counted := counted_host kept.counted (Scene.aside_host step)
  bounded := bounded_host kept.bounded (Scene.aside_host step) silent
  spent := spent_host kept.spent (Scene.aside_host step)
  heard := heard_host kept.heard (Scene.aside_host step) silent

theorem kept_alarmed (kept : Kept upkeep) {notice : Notice}
    (known : notice.generation ≤ upkeep.generation) :
    Kept (upkeep.alarmed notice
      (upkeep.scene.manager.report notice.generation notice.reason)) where
  tidy := Scene.tidy_host kept.tidy (.raised notice)
  counted := counted_alarmed kept.counted notice
  bounded := bounded_alarmed kept.bounded known
  spent := by
    refine ⟨kept.spent.increasing, kept.spent.bounded, fun renewed => kept.spent.renewed ?_⟩
    cases renewed with
    | watching phase => exact .watching phase
    | restoring phase => exact .restoring phase
    | counted own found counted => exact .counted own found counted
  heard := heard_alarmed kept.heard kept.tidy notice

theorem inUse_bounded (kept : Kept upkeep) {link : Link}
    (inUse : upkeep.scene.manager.link = some link) : link.generation ≤ upkeep.generation := by
  rcases kept.counted.link with stored | ⟨gone, -⟩
  · cases stored.symm.trans inUse
    exact kept.counted.older
  · rw [gone] at inUse
    cases inUse

theorem kept_known (kept : Kept upkeep) {subscriptions : List Subscription} {held : List Link}
    (opened : ∀ subscription ∈ subscriptions, subscription.generation ≤ upkeep.generation)
    (taken : ∀ link ∈ held, link.generation ≤ upkeep.generation) :
    Kept { upkeep with subscriptions, held } := by
  obtain ⟨tidy, counted, bounded, spent, heard⟩ := kept
  exact ⟨tidy,
    ⟨counted.quiet, counted.counted, counted.storing, counted.latest, counted.older, counted.link⟩,
    ⟨bounded.watched, opened, taken, bounded.raised, bounded.pending⟩,
    ⟨spent.increasing, spent.bounded, spent.renewed⟩,
    ⟨heard.unclosed, heard.handedOut, heard.going, heard.heard⟩⟩

theorem kept_step (kept : Kept upkeep) (step : Step steps upkeep next) : Kept next := by
  cases step with
  | supervisor step => exact kept_supervisor kept step
  | host step silent => exact kept_host kept step silent
  | subscribed opened =>
      obtain ⟨link, inUse, same⟩ := Subscription.generation_of_opened opened
      refine kept_known kept (fun each member => ?_) kept.bounded.held
      rcases List.mem_append.mp member with old | new
      · exact kept.bounded.subscriptions each old
      · rw [List.mem_singleton.mp new, same]
        exact inUse_bounded kept inUse
  | @held link inUse =>
      refine kept_known kept kept.bounded.subscriptions fun each member => ?_
      rcases List.mem_append.mp member with old | new
      · exact kept.bounded.held each old
      · rw [List.mem_singleton.mp new]
        exact inUse_bounded kept (Manager.link_of_inUse inUse)
  | @lost connection generation watched reason =>
      rw [Manager.lost_watched watched]
      refine kept_alarmed kept ?_
      obtain ⟨before, after, split, -⟩ := List.lookup_eq_some_iff.mp watched
      refine kept.bounded.watched (connection, generation) ?_
      simp [split]
  | failed known failure => exact kept_alarmed kept (kept.bounded.subscriptions _ known)
  | unusable known refused unusable =>
      rw [Manager.publish_unusable rfl refused unusable]
      exact kept_alarmed kept (kept.bounded.held _ known)

theorem reachable_kept (reachable : Reachable steps upkeep) : Kept upkeep := by
  induction reachable with
  | started opened inUse => exact kept_started opened inUse
  | step earlier step kept => exact kept_step kept step

/-- A recovery is under way. -/
def Recovering (upkeep : Upkeep) : Prop :=
  upkeep.scene.supervisor.phase = .resting ∨ upkeep.scene.supervisor.phase = .reconnecting ∨
    ∃ index, upkeep.scene.supervisor.phase = .restoring index

/-- The attempt that the supervisor waits for is about to count the generation. -/
def Counting (upkeep : Upkeep) : Prop :=
  ∃ (attempt : Nat) (connection : ConnectionId) (produce consume : Channel),
    upkeep.scene.own = some attempt ∧
      upkeep.scene.attempts[attempt]? = some (.numbering connection produce consume)

/-- What a supervisor makes of the notices. -/
structure Upheld (steps : Nat) (upkeep : Upkeep) : Prop where
  /-- The generation is one more than the number of reconnects that have succeeded, or will
  since they have counted. -/
  counted : upkeep.generation = 1 + upkeep.scene.attempts.countP Connecting.hasCounted
  settled : upkeep.scene.own = none →
    upkeep.generation = 1 + upkeep.scene.attempts.countP Connecting.hasSucceeded
  /-- Nothing else changes the generation. -/
  onward : ∀ next, Step steps upkeep next → next.generation = upkeep.generation ∨
    next.generation = upkeep.generation + 1 ∧ upkeep.Counting
  /-- The notices of one connection begin at most one recovery. -/
  once : upkeep.heeded.Pairwise fun earlier later => earlier.generation < later.generation
  /-- What a supervisor passes over is about a connection that a later one has replaced. -/
  replaced : ∀ supervisor notices, upkeep.scene.supervisor.look upkeep.generation
      upkeep.scene.manager.notices = some (supervisor, notices) → supervisor.phase = .watching →
    ∃ notice later, upkeep.scene.manager.notices.reader = some (notice :: later) ∧
      notice.generation < upkeep.generation ∧ upkeep.latest.generation = upkeep.generation ∧
      (upkeep.scene.closings = [] → upkeep.scene.manager.link = some upkeep.latest)
  /-- What is raised about the connection in use waits to be read, unless a recovery is under
  way. -/
  heard : upkeep.scene.supervisor.stopping = false → upkeep.scene.closings = [] →
    ∀ notice ∈ upkeep.raised, notice.generation = upkeep.generation →
      notice ∈ upkeep.scene.manager.notices.pending ∨ upkeep.Recovering

theorem settled_of_counted (counted : Counted upkeep) (idle : upkeep.scene.own = none) :
    upkeep.generation = 1 + upkeep.scene.attempts.countP Connecting.hasSucceeded := by
  rw [counted.counted]
  congr 1
  refine List.countP_congr fun point member => ?_
  obtain ⟨attempt, found⟩ := List.mem_iff_getElem?.mp member
  have finished := counted.quiet attempt point found (by simp [idle])
  rw [Connecting.hasCounted_of_finished finished]

/-- What a step does to the generation: only an attempt that counts changes it. -/
theorem generation_stepped (step : Step steps upkeep next) :
    next.generation = upkeep.generation ∨
      next.generation = upkeep.generation + 1 ∧ upkeep.Counting := by
  cases step with
  | supervisor step =>
      cases step with
      | looked | rested | reconnected | restored => exact .inl rfl
      | @advanced attempt point own found going World wire world =>
          rcases point.step_cases wire upkeep.scene.manager world with
            ⟨connection, produce, consume, rfl, -, manager⟩ | ⟨_, -, -, manager⟩ |
            ⟨-, -, -, -, manager⟩
          · refine .inr ⟨?_, attempt, connection, produce, consume, own, found⟩
            rw [generation_moved, Scene.advance, manager]
            rfl
          · refine .inl ?_
            rw [generation_moved, Scene.advance, manager]
            rfl
          · refine .inl ?_
            rw [generation_moved, Scene.advance, manager]
            rfl
  | host step silent => exact .inl (Scene.aside_host step).generation
  | subscribed | held | failed | unusable => exact .inl rfl
  | lost watched reason =>
      rw [Manager.lost_watched watched]
      exact .inl rfl

/-- A supervisor that looks up and goes on watching has passed over a notice. -/
theorem replaced_of_kept (kept : Kept upkeep) {supervisor : Supervisor} {notices : NoticeStream}
    (looks : upkeep.scene.supervisor.look upkeep.generation upkeep.scene.manager.notices =
      some (supervisor, notices)) (watches : supervisor.phase = .watching) :
    ∃ notice later, upkeep.scene.manager.notices.reader = some (notice :: later) ∧
      notice.generation < upkeep.generation ∧ upkeep.latest.generation = upkeep.generation ∧
      (upkeep.scene.closings = [] → upkeep.scene.manager.link = some upkeep.latest) := by
  rcases Supervisor.look_cases looks with ⟨-, -, rfl, -⟩ |
    ⟨-, watching, notice, later, reader, -, rfl⟩ | ⟨-, -, -, -, rfl, -⟩
  · cases watches
  · have idle := idle_of_phase kept.tidy (by simp [watching])
    have other : notice.generation ≠ upkeep.generation := by
      intro live
      rw [if_pos live] at watches
      cases watches
    have known := kept.bounded.pending notice (by simp [NoticeStream.pending, reader])
    refine ⟨notice, later, reader, Nat.lt_of_le_of_ne known other, kept.counted.settled idle,
      fun unshut => ?_⟩
    rcases kept.counted.link with stored | ⟨-, closed⟩
    · exact stored
    · exact absurd unshut closed
  · cases watches

/-- A notice of the connection in use that has been read has begun the recovery that is under
way. -/
theorem heard_of_kept (kept : Kept upkeep)
    (unasked : upkeep.scene.supervisor.stopping = false) (unshut : upkeep.scene.closings = [])
    {notice : Notice} (member : notice ∈ upkeep.raised)
    (live : notice.generation = upkeep.generation) :
    notice ∈ upkeep.scene.manager.notices.pending ∨ upkeep.Recovering := by
  refine (kept.heard.heard unasked unshut notice member live).imp_right ?_
  rintro ⟨earlier, begun, same⟩
  cases phase : upkeep.scene.supervisor.phase with
  | watching =>
      have older := kept.spent.renewed (.watching phase) earlier begun
      omega
  | resting => exact .inl phase
  | reconnecting => exact .inr (.inl phase)
  | restoring index => exact .inr (.inr ⟨index, phase⟩)
  | ended outcome =>
      have going := kept.heard.goes_on unasked unshut
      simp [Supervisor.outcome?, phase] at going

/-- **One recovery for each lost connection, and none missed**, whatever the sources raise and
in whatever order, and however the attempts and the restore steps come out. -/
theorem one_recovery_per_loss (reachable : Reachable steps upkeep) : Upheld steps upkeep := by
  have kept := reachable_kept reachable
  exact
    { counted := kept.counted.counted
      settled := settled_of_counted kept.counted
      onward := fun next step => generation_stepped step
      once := kept.spent.increasing
      replaced := fun _ _ looks watches => replaced_of_kept kept looks watches
      heard := fun unasked unshut _ member live =>
        heard_of_kept kept unasked unshut member live }

/-- A connection is lost and announced twice: the first notice begins a recovery, and the
second one is passed over when the recovery is done. -/
theorem lostTwice_recovered :
    ∃ upkeep : Upkeep, Reachable 1 upkeep ∧ upkeep.raised = [⟨1, "reset"⟩, ⟨1, "late"⟩] ∧
      upkeep.heeded = [⟨1, "reset"⟩] ∧ upkeep.generation = 2 ∧
      upkeep.scene.manager.notices.pending = [] ∧
      upkeep.scene.supervisor.phase = .watching ∧ Upheld 1 upkeep := by
  have opened : Manager.Opened _ := @Manager.Opened.listening Nat .obliging 1 rfl
  have begun : Reachable 1 _ := .started opened rfl
  have reset := Reachable.step begun (@Step.lost _ _ 1 1 rfl "reset")
  have late := Reachable.step reset (@Step.lost _ _ 1 1 rfl "late")
  have heeded := Reachable.step late (.supervisor (.looked rfl))
  have rested := Reachable.step heeded (.supervisor (.rested rfl rfl))
  have dialed := Reachable.step rested (.supervisor (.advanced rfl rfl rfl .obliging 2))
  have produce := Reachable.step dialed (.supervisor (.advanced rfl rfl rfl .obliging 3))
  have consume := Reachable.step produce (.supervisor (.advanced rfl rfl rfl .obliging 4))
  have counted := Reachable.step consume (.supervisor (.advanced rfl rfl rfl .obliging 5))
  have stored := Reachable.step counted (.supervisor (.advanced rfl rfl rfl .obliging 6))
  have retired := Reachable.step stored (.supervisor (.advanced rfl rfl rfl .obliging 7))
  have connected := Reachable.step retired (.supervisor (.reconnected rfl rfl))
  have restored := Reachable.step connected (.supervisor (.restored rfl (.ok ())))
  have passedOver := Reachable.step restored (.supervisor (.looked rfl))
  exact ⟨_, passedOver, rfl, rfl, rfl, rfl, rfl, one_recovery_per_loss passedOver⟩

end Upkeep

end Redelivery
