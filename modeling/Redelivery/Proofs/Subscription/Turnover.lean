import Redelivery.Roster
/-!
# The turnover of a roster

What a roster opens it also ends. To register is to end all that is active and to ask the
inbounds again, and an inbound that fails cuts the asking short; what was opened before it stays
active and is ended by the next call. `Means.recorded` writes down what a roster does, with the
answers, and a `Book` is the roster with its record.

* `Ended`, `Asked`: the deeds by which subscriptions are ended, and by which inbounds are asked.
* `registered_deeds`, `shutDown_deeds`: what one call does.
* `every_subscription_accounted`: after any calls the subscriptions that were opened are, in
  order, those that were ended, once each, and those that are active; and no inbound ever has
  two that were not stopped.
-/

namespace Redelivery

set_option autoImplicit false

namespace Roster

variable {ι υ σ : Type}

/-! ## Recording -/

/-- How subscriptions are stopped and waited for, and how an inbound is subscribed. Each may
report a failure. -/
structure Means (ι υ σ : Type) where
  stop : υ → σ → Outcome × σ
  join : υ → σ → Outcome × σ
  subscribe : ι → σ → Except Failure (Option υ) × σ

/-- Something that a roster has done, with the answer. -/
inductive Deed (ι υ : Type) where
  | stopped (subscription : υ) (answer : Outcome)
  | joined (subscription : υ) (answer : Outcome)
  | asked (inbound : ι) (answer : Except Failure (Option υ))

/-- The means with every deed written down behind the earlier ones. -/
def Means.recorded (means : Means ι υ σ) : Means ι υ (σ × List (Deed ι υ)) where
  stop subscription state :=
    let told := means.stop subscription state.1
    (told.1, told.2, state.2 ++ [.stopped subscription told.1])
  join subscription state :=
    let told := means.join subscription state.1
    (told.1, told.2, state.2 ++ [.joined subscription told.1])
  subscribe inbound state :=
    let told := means.subscribe inbound state.1
    (told.1, told.2, state.2 ++ [.asked inbound told.1])

def Means.retire (means : Means ι υ σ) : υ → σ → σ := Roster.retire means.stop means.join

/-! ## Deeds -/

/-- The deeds by which subscriptions are ended: each is stopped and then waited for. -/
inductive Ended : List υ → List (Deed ι υ) → Prop where
  | none : Ended [] []
  | cons {subscription : υ} {rest : List υ} {deeds : List (Deed ι υ)} (stopped joined : Outcome)
      (later : Ended rest deeds) :
      Ended (subscription :: rest)
        (.stopped subscription stopped :: .joined subscription joined :: deeds)

/-- The deeds by which inbounds are asked in order, what is opened by them, and how it ends: the
first inbound that fails is the last one that is asked. -/
inductive Asked : List ι → List υ → List (Deed ι υ) → Outcome → Prop where
  | done : Asked [] [] [] (.ok ())
  | opened {inbound : ι} {rest : List ι} {subscription : υ} {opened : List υ}
      {deeds : List (Deed ι υ)} {outcome : Outcome} (later : Asked rest opened deeds outcome) :
      Asked (inbound :: rest) (subscription :: opened)
        (.asked inbound (.ok (some subscription)) :: deeds) outcome
  /-- The inbound has no subscription. -/
  | skipped {inbound : ι} {rest : List ι} {opened : List υ} {deeds : List (Deed ι υ)}
      {outcome : Outcome} (later : Asked rest opened deeds outcome) :
      Asked (inbound :: rest) opened (.asked inbound (.ok none) :: deeds) outcome
  | failed {inbound : ι} {rest : List ι} (failure : Failure) :
      Asked (inbound :: rest) [] [.asked inbound (.error failure)] (.error failure)

theorem retire_recorded (means : Means ι υ σ) (subscription : υ) (world : σ)
    (deeds : List (Deed ι υ)) :
    ∃ stopped joined, means.recorded.retire subscription (world, deeds) =
      (means.retire subscription world,
        deeds ++ [.stopped subscription stopped, .joined subscription joined]) :=
  ⟨(means.stop subscription world).1,
    (means.join subscription (means.stop subscription world).2).1,
    congrArg (Prod.mk _) (List.append_assoc _ _ _)⟩

theorem endAll_recorded (means : Means ι υ σ) (active : List υ) (world : σ)
    (deeds : List (Deed ι υ)) :
    ∃ ends, Ended active ends ∧
      endAll means.recorded.retire active (world, deeds) =
        (endAll means.retire active world, deeds ++ ends) := by
  induction active generalizing world deeds with
  | nil => exact ⟨[], .none, by rw [List.append_nil]; rfl⟩
  | cons subscription rest ih =>
      obtain ⟨stopped, joined, first⟩ := retire_recorded means subscription world deeds
      obtain ⟨ends, ended, others⟩ := ih (means.retire subscription world)
        (deeds ++ [.stopped subscription stopped, .joined subscription joined])
      refine ⟨_, .cons stopped joined ended, ?_⟩
      calc endAll means.recorded.retire (subscription :: rest) (world, deeds)
          = endAll means.recorded.retire rest
              (means.recorded.retire subscription (world, deeds)) := rfl
        _ = _ := by rw [first, others, List.append_assoc]; rfl

theorem subscribeAll_recorded (means : Means ι υ σ) (inbounds : List ι) (active : List υ)
    (world : σ) (deeds : List (Deed ι υ)) :
    ∃ opened asks outcome after, Asked inbounds opened asks outcome ∧
      subscribeAll means.subscribe inbounds active world = (outcome, active ++ opened, after) ∧
      subscribeAll means.recorded.subscribe inbounds active (world, deeds) =
        (outcome, active ++ opened, after, deeds ++ asks) := by
  induction inbounds generalizing active world deeds with
  | nil => exact ⟨[], [], .ok (), world, .done, by simp [subscribeAll], by simp [subscribeAll]⟩
  | cons inbound rest ih =>
      rcases answer : means.subscribe inbound world with ⟨failure | _ | subscription, next⟩
      · exact ⟨[], _, .error failure, next, .failed failure, by simp [subscribeAll, answer],
          by simp [subscribeAll, Means.recorded, answer]⟩
      · obtain ⟨opened, asks, outcome, after, asked, plain, recorded⟩ :=
          ih active next (deeds ++ [.asked inbound (.ok none)])
        rw [List.append_assoc, List.singleton_append] at recorded
        refine ⟨opened, .asked inbound (.ok none) :: asks, outcome, after, .skipped asked, ?_, ?_⟩
        · simpa only [subscribeAll, answer] using plain
        · simpa only [subscribeAll, Means.recorded, answer] using recorded
      · obtain ⟨opened, asks, outcome, after, asked, plain, recorded⟩ :=
          ih (active ++ [subscription]) next (deeds ++ [.asked inbound (.ok (some subscription))])
        rw [List.append_assoc, List.singleton_append] at plain
        rw [List.append_assoc, List.append_assoc, List.singleton_append,
          List.singleton_append] at recorded
        refine ⟨subscription :: opened, .asked inbound (.ok (some subscription)) :: asks, outcome,
          after, .opened asked, ?_, ?_⟩
        · simpa only [subscribeAll, answer] using plain
        · simpa only [subscribeAll, Means.recorded, answer] using recorded

/-! ## Books -/

/-- A roster with the record of all that it did. -/
structure Book (ι υ σ : Type) where
  active : List υ
  world : σ
  deeds : List (Deed ι υ)

namespace Book

/-- Registers the inbounds. -/
def registered (means : Means ι υ σ) (inbounds : List ι) (book : Book ι υ σ) :
    Outcome × Book ι υ σ :=
  let told := register means.recorded.retire means.recorded.subscribe inbounds book.active
    (book.world, book.deeds)
  (told.1, ⟨told.2.1, told.2.2.1, told.2.2.2⟩)

def shutDown (means : Means ι υ σ) (book : Book ι υ σ) : Book ι υ σ :=
  let told := shutdown means.recorded.retire book.active (book.world, book.deeds)
  ⟨told.1, told.2.1, told.2.2⟩

inductive Reachable (means : Means ι υ σ) (inbounds : List ι) : Book ι υ σ → Prop where
  | fresh (world : σ) : Reachable means inbounds ⟨[], world, []⟩
  | registered {book : Book ι υ σ} (earlier : Reachable means inbounds book) :
      Reachable means inbounds (book.registered means inbounds).2
  | shutDown {book : Book ι υ σ} (earlier : Reachable means inbounds book) :
      Reachable means inbounds (book.shutDown means)

/-- What one registration does: it ends what is active, then asks the inbounds, and what it has
opened is active afterwards. It comes out as it would unrecorded. -/
structure Renewal (means : Means ι υ σ) (inbounds : List ι) (book : Book ι υ σ)
    (outcome : Outcome) (after : Book ι υ σ) : Prop where
  plain : register means.retire means.subscribe inbounds book.active book.world =
    (outcome, after.active, after.world)
  deeds : ∃ ends asks, Ended book.active ends ∧ Asked inbounds after.active asks outcome ∧
    after.deeds = book.deeds ++ (ends ++ asks)

/-- What a shutdown does: it ends what is active, and leaves nothing. -/
structure Closure (means : Means ι υ σ) (book after : Book ι υ σ) : Prop where
  plain : shutdown means.retire book.active book.world = (after.active, after.world)
  deeds : ∃ ends, Ended book.active ends ∧ after.deeds = book.deeds ++ ends
  none : after.active = []

variable (means : Means ι υ σ) (inbounds : List ι) (book : Book ι υ σ)

theorem renewal_registered :
    Renewal means inbounds book (book.registered means inbounds).1
      (book.registered means inbounds).2 := by
  obtain ⟨ends, ended, gone⟩ := endAll_recorded means book.active book.world book.deeds
  obtain ⟨opened, asks, outcome, after, asked, plain, recorded⟩ :=
    subscribeAll_recorded means inbounds [] (endAll means.retire book.active book.world)
      (book.deeds ++ ends)
  have told : book.registered means inbounds =
      (outcome, ⟨opened, after, book.deeds ++ ends ++ asks⟩) := by
    simp only [registered, register, gone, recorded, List.nil_append]
  rw [told]
  exact ⟨plain, ends, asks, ended, asked, List.append_assoc _ _ _⟩

theorem closure_shutDown : Closure means book (book.shutDown means) := by
  obtain ⟨ends, ended, gone⟩ := endAll_recorded means book.active book.world book.deeds
  have told : book.shutDown means =
      ⟨[], endAll means.retire book.active book.world, book.deeds ++ ends⟩ := by
    simp only [shutDown, shutdown, gone]
  rw [told]
  exact ⟨rfl, ⟨ends, ended, rfl⟩, rfl⟩

end Book

/-! ## Accounts -/

def Deed.opening? : Deed ι υ → Option (ι × υ)
  | asked inbound (.ok (some subscription)) => some (inbound, subscription)
  | _ => none

def Deed.stopped? : Deed ι υ → Option υ
  | stopped subscription _ => some subscription
  | _ => none

/-- A deed that helps to end a subscription. -/
def Deed.ends : Deed ι υ → Bool
  | asked _ _ => false
  | _ => true

def openings (deeds : List (Deed ι υ)) : List (ι × υ) := deeds.filterMap Deed.opening?

def stops (deeds : List (Deed ι υ)) : List υ := deeds.filterMap Deed.stopped?

theorem stops_filter_ends (deeds : List (Deed ι υ)) :
    stops (deeds.filter Deed.ends) = stops deeds := by
  induction deeds with
  | nil => rfl
  | cons deed rest ih =>
      cases deed with
      | stopped subscription answer => exact congrArg (subscription :: ·) ih
      | joined subscription answer => exact ih
      | asked inbound answer => exact ih

theorem openings_append (first second : List (Deed ι υ)) :
    openings (first ++ second) = openings first ++ openings second :=
  List.filterMap_append

theorem stops_append (first second : List (Deed ι υ)) :
    stops (first ++ second) = stops first ++ stops second :=
  List.filterMap_append

namespace Ended

variable {active others : List υ} {ends more : List (Deed ι υ)}

theorem append (first : Ended active ends) (second : Ended others more) :
    Ended (active ++ others) (ends ++ more) := by
  induction first with
  | none => exact second
  | cons stopped joined later ih => exact .cons stopped joined ih

theorem filter_ends (ended : Ended active ends) : ends.filter Deed.ends = ends := by
  induction ended with
  | none => rfl
  | cons stopped joined later ih =>
      rw [List.filter_cons_of_pos rfl, List.filter_cons_of_pos rfl, ih]

theorem openings_eq (ended : Ended active ends) : openings ends = [] := by
  induction ended with
  | none => rfl
  | cons stopped joined later ih => exact ih

theorem stops_eq (ended : Ended active ends) : stops ends = active := by
  induction ended with
  | none => rfl
  | cons stopped joined later ih => exact congrArg _ ih

/-- At any moment while subscriptions are ended, those in front are stopped. -/
theorem stops_of_prefix (ended : Ended active ends) {before : List (Deed ι υ)}
    (moment : before <+: ends) :
    ∃ first rest, active = first ++ rest ∧ stops before = first ∧ openings before = [] := by
  induction ended generalizing before with
  | none =>
      rw [List.prefix_nil.mp moment]
      exact ⟨[], [], rfl, rfl, rfl⟩
  | @cons subscription rest deeds stopped joined later ih =>
      rcases List.prefix_cons_iff.mp moment with rfl | ⟨middle, rfl, waiting⟩
      · exact ⟨[], _, rfl, rfl, rfl⟩
      rcases List.prefix_cons_iff.mp waiting with rfl | ⟨last, rfl, others⟩
      · exact ⟨[subscription], rest, rfl, rfl, rfl⟩
      obtain ⟨first, left, rfl, same, none⟩ := ih others
      exact ⟨subscription :: first, left, rfl, congrArg _ same, none⟩

end Ended

namespace Asked

variable {inbounds : List ι} {opened : List υ} {asks : List (Deed ι υ)} {outcome : Outcome}

theorem filter_ends (asked : Asked inbounds opened asks outcome) :
    asks.filter Deed.ends = [] := by
  induction asked with
  | done => rfl
  | failed failure => rfl
  | opened later ih | skipped later ih => exact ih

theorem openings_eq (asked : Asked inbounds opened asks outcome) :
    (openings asks).map Prod.snd = opened := by
  induction asked with
  | done => rfl
  | failed failure => rfl
  | opened later ih => exact congrArg _ ih
  | skipped later ih => exact ih

/-- At any moment while inbounds are asked, each has opened at most one subscription, and none
is stopped. -/
theorem owners_of_prefix (asked : Asked inbounds opened asks outcome) {before : List (Deed ι υ)}
    (moment : before <+: asks) :
    ((openings before).map Prod.fst).Sublist inbounds ∧ stops before = [] := by
  induction asked generalizing before with
  | done =>
      rw [List.prefix_nil.mp moment]
      exact ⟨.slnil, rfl⟩
  | failed failure =>
      rcases List.prefix_cons_iff.mp moment with rfl | ⟨rest, rfl, others⟩
      · exact ⟨List.nil_sublist _, rfl⟩
      · rw [List.prefix_nil.mp others]
        exact ⟨List.nil_sublist _, rfl⟩
  | opened later ih =>
      rcases List.prefix_cons_iff.mp moment with rfl | ⟨rest, rfl, others⟩
      · exact ⟨List.nil_sublist _, rfl⟩
      · obtain ⟨owners, none⟩ := ih others
        exact ⟨owners.cons_cons _, none⟩
  | skipped later ih =>
      rcases List.prefix_cons_iff.mp moment with rfl | ⟨rest, rfl, others⟩
      · exact ⟨List.nil_sublist _, rfl⟩
      · obtain ⟨owners, none⟩ := ih others
        exact ⟨owners.cons _, none⟩

end Asked

/-- A moment in two courses of deeds lies in the first or in the second. -/
theorem prefix_append_cases {τ : Type} {before first second : List τ}
    (moment : before <+: first ++ second) :
    before <+: first ∨ ∃ later, before = first ++ later ∧ later <+: second := by
  rcases List.prefix_or_prefix_of_prefix moment (List.prefix_append first second) with
    early | ⟨later, rfl⟩
  · exact .inl early
  · exact .inr ⟨later, rfl, (List.prefix_append_right_inj _).mp moment⟩

namespace Book

/-- What was opened is, in order, what has been ended, each subscription once, and what is
active; and an inbound has at most as many active subscriptions as it has places. -/
structure Accounted (inbounds : List ι) (book : Book ι υ σ) : Prop where
  account : ∃ gone current, openings book.deeds = gone ++ current ∧
    Ended (gone.map Prod.snd) (book.deeds.filter Deed.ends) ∧
    current.map Prod.snd = book.active ∧ (current.map Prod.fst).Sublist inbounds
  /-- At every moment what has been opened and not stopped yet belongs to different places. -/
  always : ∀ before, before <+: book.deeds → ∃ gone live, openings before = gone ++ live ∧
    stops before = gone.map Prod.snd ∧ (live.map Prod.fst).Sublist inbounds

variable {means : Means ι υ σ} {inbounds : List ι} {book after : Book ι υ σ}

theorem accounted_of_deeds (accounted : Accounted inbounds book) {ends asks : List (Deed ι υ)}
    {outcome : Outcome} {others : List ι} (ended : Ended book.active ends)
    (asked : Asked others after.active asks outcome) (places : others.Sublist inbounds)
    (deeds : after.deeds = book.deeds ++ (ends ++ asks)) : Accounted inbounds after := by
  obtain ⟨⟨gone, current, opened, finished, active, owners⟩, always⟩ := accounted
  have stopped : stops book.deeds = gone.map Prod.snd := by
    rw [← stops_filter_ends, finished.stops_eq]
  constructor
  · refine ⟨gone ++ current, openings asks, ?_, ?_, asked.openings_eq, ?_⟩
    · rw [deeds, openings_append, openings_append, ended.openings_eq, opened, List.nil_append]
    · rw [deeds, List.filter_append, List.filter_append, ended.filter_ends, asked.filter_ends,
        List.append_nil, List.map_append, active]
      exact finished.append ended
    · exact (asked.owners_of_prefix (List.prefix_refl _)).1.trans places
  · intro before moment
    rw [deeds] at moment
    rcases prefix_append_cases moment with early | ⟨later, rfl, late⟩
    · exact always before early
    rcases prefix_append_cases late with ending | ⟨last, rfl, asking⟩
    · obtain ⟨first, rest, split, front, none⟩ := ended.stops_of_prefix ending
      obtain ⟨left, live, rfl, same, -⟩ := List.map_eq_append_iff.mp (active.trans split)
      refine ⟨gone ++ left, live, ?_, ?_, ?_⟩
      · rw [openings_append, opened, none, List.append_nil, List.append_assoc]
      · rw [stops_append, stopped, front, List.map_append, same]
      · rw [List.map_append] at owners
        exact (List.sublist_append_right _ _).trans owners
    · obtain ⟨asked', none⟩ := asked.owners_of_prefix asking
      refine ⟨gone ++ current, openings last, ?_, ?_, asked'.trans places⟩
      · rw [openings_append, openings_append, ended.openings_eq, opened, List.nil_append]
      · rw [stops_append, stops_append, stopped, ended.stops_eq, none, List.append_nil,
          List.map_append, active]

theorem accounted_of_reachable (reachable : Reachable means inbounds book) :
    Accounted inbounds book := by
  induction reachable with
  | fresh world =>
      refine ⟨⟨[], [], rfl, .none, rfl, List.nil_sublist _⟩, fun before moment => ?_⟩
      rw [List.prefix_nil.mp moment]
      exact ⟨[], [], rfl, rfl, List.nil_sublist _⟩
  | @registered book earlier accounted =>
      obtain ⟨ends, asks, ended, asked, deeds⟩ := (renewal_registered means inbounds book).deeds
      exact accounted_of_deeds accounted ended asked (.refl _) deeds
  | @shutDown book earlier accounted =>
      obtain ⟨-, ⟨ends, ended, deeds⟩, none⟩ := closure_shutDown means book
      have asked : Asked ([] : List ι) (book.shutDown means).active [] (.ok ()) := by
        rw [none]
        exact .done
      exact accounted_of_deeds accounted ended asked (List.nil_sublist _)
        (by rw [deeds, List.append_nil])

/-- What a roster keeps in order. -/
structure Orderly (means : Means ι υ σ) (inbounds : List ι) (book : Book ι υ σ) : Prop where
  /-- To register ends all that is active, once each and before any inbound is asked, and then
  asks the inbounds in order up to the first that fails; active afterwards is what was opened
  by this call, even if an inbound has failed. -/
  registered : Renewal means inbounds book (book.registered means inbounds).1
    (book.registered means inbounds).2
  shutDown : Closure means book (book.shutDown means)
  /-- The subscriptions that were opened are, in order, those that were stopped and waited for,
  once each, and those that are active. -/
  account : ∃ gone current, openings book.deeds = gone ++ current ∧
    Ended (gone.map Prod.snd) (book.deeds.filter Deed.ends) ∧
    current.map Prod.snd = book.active ∧
    (inbounds.Nodup → (current.map Prod.fst).Nodup)
  /-- At no moment an inbound has two subscriptions that were not stopped. -/
  always : ∀ before, before <+: book.deeds → ∃ gone live, openings before = gone ++ live ∧
    stops before = gone.map Prod.snd ∧ (inbounds.Nodup → (live.map Prod.fst).Nodup)

/-- **Every subscription is accounted for**, whatever was called before and however often it
failed: it is active, or was stopped and waited for once. Neither the failure of an inbound nor
that of a stop or of a wait makes a difference. -/
theorem every_subscription_accounted (reachable : Reachable means inbounds book) :
    Orderly means inbounds book := by
  obtain ⟨⟨gone, current, opened, ended, active, owners⟩, always⟩ :=
    accounted_of_reachable reachable
  refine ⟨renewal_registered means inbounds book, closure_shutDown means book,
    ⟨gone, current, opened, ended, active, fun distinct => owners.nodup distinct⟩, ?_⟩
  intro before moment
  obtain ⟨gone, live, opened, stopped, owners⟩ := always before moment
  exact ⟨gone, live, opened, stopped, fun distinct => owners.nodup distinct⟩

end Book

/-! ## Poles -/

/-- Inbounds of which the second has no subscription and the third fails at first; no
subscription can be stopped or waited for without a complaint. -/
def faltering : Means Nat Nat Nat where
  stop _ world := (.error .internal, world)
  join _ world := (.error (.consuming "task queue closed"), world)
  subscribe inbound world :=
    if inbound = 1 then (.ok none, world)
    else if inbound = 2 ∧ world < 2 then (.error (.startingConsumer "third"), world)
    else (.ok (some world), world + 1)

/-- The first registration fails and leaves a subscription, which the second one ends. -/
theorem every_subscription_accounted_faltering :
    ∃ book : Book Nat Nat Nat, Book.Reachable faltering [0, 1, 2] book ∧
      openings book.deeds = [(0, 0), (0, 1), (2, 2)] ∧ stops book.deeds = [0] ∧
      book.active = [1, 2] ∧ Book.Orderly faltering [0, 1, 2] book := by
  have fresh : Book.Reachable faltering [0, 1, 2] ⟨[], 0, []⟩ := .fresh 0
  have second := fresh.registered.registered
  exact ⟨_, second, rfl, rfl, rfl, Book.every_subscription_accounted second⟩

end Roster

end Redelivery
