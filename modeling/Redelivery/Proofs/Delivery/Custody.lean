import Redelivery.Proofs.Delivery.Calls
/-!
# Who holds a message

A message is never lost. The broker holds it in its direct queue or on the dead-letter
route until a delivery acknowledges it, and a delivery acknowledges it only after its
handler was done with it or a copy of it went to junk.

`Custody` is one message with all its deliveries. Every delivery may have its own services,
decoder and count of earlier tries, so nothing is assumed of what fails, or of how often.
`Custody.Reachable` are the custodies between two deliveries and `Custody.Seen` also those in
the middle of one.

* `course_settled`: what a whole delivery leaves behind, one case for each course.
* `course_begun`: what the beginning of a delivery leaves behind.
* `reachable_kept`: until the message leaves the broker, its copies in junk are exactly the
  deliveries that could not acknowledge it after they had archived it.
* `message_never_lost`: the message is always somewhere, and copies are bounded.
-/

namespace Redelivery

set_option autoImplicit false

/-! ## What calls do to a message -/

/-- Where the broker keeps a message: waiting in the direct queue, delivered from it but not
settled, on the dead-letter route, or nowhere any more. -/
inductive Place where
  | ready
  | unsettled
  | deadLettered
  | removed
  deriving DecidableEq

namespace Place

/-- A settlement that succeeds moves the message; everything else leaves it where it is. -/
def after : Place → Call → Place
  | _, .acknowledged (.ok ()) => removed
  | _, .rejected true (.ok ()) => ready
  | _, .rejected false (.ok ()) => deadLettered
  | place, _ => place

/-- The place of a message after the calls of a delivery. -/
def afterDelivery (calls : List Call) : Place := calls.foldl after unsettled

end Place

namespace Call

def copy? (cls : MessageClass) : Call → Option Octets
  | published publication (.ok ()) =>
      if publication.exchange = cls.junk.exchange ∧ publication.key = cls.junk.key then
        some publication.payload
      else none
  | _ => none

def unacknowledged : Call → Bool
  | acknowledged (.error _) => true
  | _ => false

end Call

namespace Delivery

variable {α : Type} {cls : MessageClass} {body : Octets}

def copies (cls : MessageClass) (calls : List Call) : List Octets :=
  calls.filterMap (Call.copy? cls)

/-- An acknowledgement failed after a copy had gone to junk. -/
def strayed (cls : MessageClass) : List Call → Bool
  | [] => false
  | call :: later =>
      (call.copy? cls).isSome && later.any Call.unacknowledged || strayed cls later

def Handled (calls : List Call) : Prop := Call.handled (.done ()) ∈ calls

@[simp] theorem copies_junkCopy (calls : List Call) :
    copies cls (.published (junkCopy cls body) (.ok ()) :: calls) = body :: copies cls calls := by
  simp [copies, Call.copy?, junkCopy]

@[simp] theorem copies_refused (publication : Publication) (failure : Failure) (calls : List Call) :
    copies cls (.published publication (.error failure) :: calls) = copies cls calls := rfl

@[simp] theorem copies_handled (answer : Attempt Unit) (calls : List Call) :
    copies cls (.handled answer :: calls) = copies cls calls := rfl

@[simp] theorem copies_acknowledged (answer : Outcome) (calls : List Call) :
    copies cls (.acknowledged answer :: calls) = copies cls calls := rfl

@[simp] theorem copies_rejected (requeue : Bool) (answer : Outcome) (calls : List Call) :
    copies cls (.rejected requeue answer :: calls) = copies cls calls := rfl

@[simp] theorem copies_nil : copies cls [] = [] := rfl

/-- What a whole delivery leaves behind: the message is away only if it was handled or has
a copy in junk, and otherwise every copy is a stray one. -/
inductive Settled (cls : MessageClass) (body : Octets) (calls : List Call) : Prop where
  | handled (removed : Place.afterDelivery calls = .removed) (handled : Handled calls)
      (copies : copies cls calls = [])
  | archived (removed : Place.afterDelivery calls = .removed) (copies : copies cls calls = [body])
  | held (kept : Place.afterDelivery calls ≠ .removed) (copies : copies cls calls = [])
      (strayed : strayed cls calls = false)
  | strayed (kept : Place.afterDelivery calls ≠ .removed) (copies : copies cls calls = [body])
      (strayed : strayed cls calls = true)

theorem Settled.behind {calls : List Call} (settled : Settled cls body calls)
    (answer : Attempt Unit) : Settled cls body (.handled answer :: calls) := by
  cases settled with
  | handled removed handled copies =>
      exact .handled removed (List.mem_cons_of_mem _ handled) copies
  | archived removed copies => exact .archived removed copies
  | held kept copies strayed => exact .held kept copies strayed
  | strayed kept copies strayed => exact .strayed kept copies strayed

/-- A message is kept by a rejection, whether or not it succeeds. -/
theorem rejected_kept (answer : Outcome) :
    Place.afterDelivery [.rejected false answer] ≠ .removed := by
  cases answer <;> simp [Place.afterDelivery, Place.after]

theorem archival_settled {disposition : Disposition} {calls : List Call}
    {result : Except Failure Disposition} (archival : Archival cls body disposition calls result) :
    Settled cls body calls := by
  cases archival with
  | disabled off answer => exact .held (rejected_kept answer) rfl rfl
  | refused on failure answer => exact .held (rejected_kept answer) rfl rfl
  | settled on => exact .archived rfl (copies_junkCopy _)
  | unsettled on failure =>
      refine .strayed (by simp [Place.afterDelivery, Place.after]) (copies_junkCopy _) ?_
      simp [strayed, Call.copy?, junkCopy, Call.unacknowledged]

theorem course_settled {count : Int} {decoded : Attempt α} {calls : List Call} {ending : Ending}
    (course : Course cls body count decoded calls ending) : Settled cls body calls := by
  cases course with
  | abandoned text => exact .held nofun rfl rfl
  | undecodable failure archival => exact archival_settled archival
  | acknowledged data => exact .handled rfl (List.mem_cons_self ..) rfl
  | unacknowledged data failure => exact .held nofun rfl rfl
  | retried data answer failed below => exact .held nofun rfl rfl
  | unrejected data answer failed below failure => exact .held nofun rfl rfl
  | exhausted data answer failed reached archival => exact (archival_settled archival).behind answer

/-- What the beginning of a delivery leaves behind. -/
structure Begun (cls : MessageClass) (body : Octets) (made : List Call) : Prop where
  removed : Place.afterDelivery made = .removed → body ∈ copies cls made ∨ Handled made
  copies : (copies cls made).length ≤ 1

theorem prefix_of_pair {first second : Call} {made : List Call} (begun : made <+: [first, second]) :
    made = [] ∨ made = [first] ∨ made = [first, second] := by
  rcases List.prefix_cons_iff.mp begun with rfl | ⟨later, rfl, rest⟩
  · exact .inl rfl
  · rcases List.prefix_cons_iff.mp rest with rfl | ⟨last, rfl, nothing⟩
    · exact .inr (.inl rfl)
    · cases List.prefix_nil.mp nothing
      exact .inr (.inr rfl)

theorem begun_nil : Begun cls body [] := ⟨nofun, Nat.zero_le 1⟩

theorem begun_of_settled {calls : List Call} (settled : Settled cls body calls) :
    Begun cls body calls := by
  cases settled with
  | handled removed handled copies => exact ⟨fun _ => .inr handled, by simp [copies]⟩
  | archived removed copies => exact ⟨fun _ => .inl (by simp [copies]), by simp [copies]⟩
  | held kept copies strayed => exact ⟨fun away => absurd away kept, by simp [copies]⟩
  | strayed kept copies strayed => exact ⟨fun away => absurd away kept, by simp [copies]⟩

/-- The beginning of giving a message up: a copy is out before anything settles it. -/
theorem archival_begun {disposition : Disposition} {calls made : List Call}
    {result : Except Failure Disposition} (archival : Archival cls body disposition calls result)
    (begun : made <+: calls) : Begun cls body made := by
  have whole := begun_of_settled (archival_settled archival)
  cases archival with
  | disabled off answer =>
      rcases List.prefix_cons_iff.mp begun with rfl | ⟨later, rfl, nothing⟩
      · exact begun_nil
      · cases List.prefix_nil.mp nothing
        exact whole
  | refused on failure answer =>
      rcases prefix_of_pair begun with rfl | rfl | rfl
      · exact begun_nil
      · exact ⟨nofun, by simp⟩
      · exact whole
  | settled on =>
      rcases prefix_of_pair begun with rfl | rfl | rfl
      · exact begun_nil
      · exact ⟨nofun, by simp⟩
      · exact whole
  | unsettled on failure =>
      rcases prefix_of_pair begun with rfl | rfl | rfl
      · exact begun_nil
      · exact ⟨nofun, by simp⟩
      · exact whole

/-- Whenever a delivery is left off, it has removed nothing that it has not handled or copied. -/
theorem course_begun {count : Int} {decoded : Attempt α} {calls made : List Call} {ending : Ending}
    (course : Course cls body count decoded calls ending) (begun : made <+: calls) :
    Begun cls body made := by
  have whole := begun_of_settled (course_settled course)
  cases course with
  | abandoned text => cases List.prefix_nil.mp begun; exact begun_nil
  | undecodable failure archival => exact archival_begun archival begun
  | exhausted data answer failed reached archival =>
      rcases List.prefix_cons_iff.mp begun with rfl | ⟨later, rfl, rest⟩
      · exact begun_nil
      · obtain ⟨removed, copies⟩ := archival_begun archival rest
        refine ⟨fun away => ?_, copies⟩
        exact (removed away).imp_right (List.mem_cons_of_mem _)
  | _ =>
      rcases prefix_of_pair begun with rfl | rfl | rfl
      · exact begun_nil
      · exact ⟨nofun, by simp⟩
      · exact whole

end Delivery

/-! ## One message -/

/-- What has become of a message: where it is, and the calls of its deliveries so far. -/
structure Custody where
  place : Place
  deliveries : List (List Call)

namespace Custody

def copies (cls : MessageClass) (custody : Custody) : List Octets :=
  custody.deliveries.flatMap (Delivery.copies cls)

/-- The number of deliveries that could not acknowledge the message after they archived it. -/
def strays (cls : MessageClass) (custody : Custody) : Nat :=
  custody.deliveries.countP (Delivery.strayed cls)

def Handled (custody : Custody) : Prop := ∃ calls ∈ custody.deliveries, Delivery.Handled calls

/-- The message after one more delivery made these calls. -/
def delivered (custody : Custody) (calls : List Call) : Custody :=
  ⟨Place.afterDelivery calls, custody.deliveries ++ [calls]⟩

/-- What a delivery meets: services, a decoder and a count of earlier tries. -/
structure Occasion where
  {World : Type}
  {Data : Type}
  services : Services World Data
  decode : Octets → Attempt Data
  count : Int
  headers : Headers
  redelivered : Bool
  world : World

def Occasion.calls (occasion : Occasion) (cls : MessageClass) (body : Octets) : List Call :=
  (Delivery.processTried occasion.services.recorded cls occasion.decode occasion.count
    ⟨body, occasion.headers, occasion.redelivered⟩ (occasion.world, [])).2.2

theorem Occasion.course (occasion : Occasion) (cls : MessageClass) (body : Octets) :
    ∃ ending, Delivery.Course cls body occasion.count (occasion.decode body)
      (occasion.calls cls body) ending := by
  obtain ⟨calls, ending, course, -, told⟩ := Delivery.processTried_recorded occasion.services cls
    occasion.decode occasion.count ⟨body, occasion.headers, occasion.redelivered⟩ occasion.world []
  have same : occasion.calls cls body = calls := told.log
  exact ⟨ending, same ▸ course⟩

/-- The custodies of a message between two deliveries, from its publication on. -/
inductive Reachable (cls : MessageClass) (body : Octets) : Custody → Prop where
  | published : Reachable cls body ⟨.ready, []⟩
  | delivered {custody : Custody} (earlier : Reachable cls body custody)
      (ready : custody.place = .ready) (occasion : Occasion) :
      Reachable cls body (custody.delivered (occasion.calls cls body))
  /-- Its time on the dead-letter route is up. -/
  | expired {custody : Custody} (earlier : Reachable cls body custody)
      (waited : custody.place = .deadLettered) :
      Reachable cls body { custody with place := .ready }
  /-- It was not settled, and the broker offers it again. -/
  | returned {custody : Custody} (earlier : Reachable cls body custody)
      (left : custody.place = .unsettled) : Reachable cls body { custody with place := .ready }

/-- The custodies of a message at any time, in the middle of a delivery too. -/
inductive Seen (cls : MessageClass) (body : Octets) : Custody → Prop where
  | between {custody : Custody} (reachable : Reachable cls body custody) : Seen cls body custody
  | during {custody : Custody} (earlier : Reachable cls body custody)
      (ready : custody.place = .ready) (occasion : Occasion) {made : List Call}
      (begun : made <+: occasion.calls cls body) : Seen cls body (custody.delivered made)

/-! ## Nothing is lost -/

structure Kept (cls : MessageClass) (body : Octets) (custody : Custody) : Prop where
  held : custody.place ≠ .removed → (custody.copies cls).length = custody.strays cls
  gone : custody.place = .removed → body ∈ custody.copies cls ∨ custody.Handled
  bounded : (custody.copies cls).length ≤ 1 + custody.strays cls

variable {cls : MessageClass} {body : Octets} {custody : Custody}

theorem copies_delivered (calls : List Call) :
    (custody.delivered calls).copies cls = custody.copies cls ++ Delivery.copies cls calls := by
  simp [copies, delivered]

theorem strays_delivered (calls : List Call) : (custody.delivered calls).strays cls =
    custody.strays cls + (Delivery.strayed cls calls).toNat := by
  cases lost : Delivery.strayed cls calls <;> simp [strays, delivered, lost]

theorem handled_delivered {calls : List Call} (handled : Delivery.Handled calls) :
    (custody.delivered calls).Handled :=
  ⟨calls, List.mem_append_right _ (List.mem_singleton_self calls), handled⟩

theorem kept_delivered (kept : Kept cls body custody) (ready : custody.place = .ready)
    {calls : List Call} (settled : Delivery.Settled cls body calls) :
    Kept cls body (custody.delivered calls) := by
  have before : (custody.copies cls).length = custody.strays cls := kept.held (by simp [ready])
  have place : (custody.delivered calls).place = Place.afterDelivery calls := rfl
  cases settled with
  | handled removed handled copies =>
      refine ⟨fun kept => absurd removed kept, fun _ => .inr (handled_delivered handled), ?_⟩
      rw [copies_delivered, strays_delivered, copies, List.append_nil]
      omega
  | archived removed copies =>
      refine ⟨fun kept => absurd removed kept, fun _ => .inl ?_, ?_⟩
      · rw [copies_delivered, copies]
        exact List.mem_append_right _ (List.mem_singleton_self body)
      · rw [copies_delivered, strays_delivered, copies, List.length_append, List.length_singleton]
        omega
  | held stays copies strayed =>
      have counted : ((custody.delivered calls).copies cls).length =
          (custody.delivered calls).strays cls := by
        rw [copies_delivered, strays_delivered, copies, strayed, List.append_nil]
        exact before
      exact ⟨fun _ => counted, fun away => absurd away stays, by omega⟩
  | strayed stays copies strayed =>
      have counted : ((custody.delivered calls).copies cls).length =
          (custody.delivered calls).strays cls := by
        rw [copies_delivered, strays_delivered, copies, strayed, List.length_append, before]
        rfl
      exact ⟨fun _ => counted, fun away => absurd away stays, by omega⟩

theorem kept_moved (kept : Kept cls body custody) (present : custody.place ≠ .removed)
    {place : Place} (stays : place ≠ .removed) : Kept cls body { custody with place } where
  held _ := kept.held present
  gone away := absurd away stays
  bounded := kept.bounded

/-- Between deliveries the message is kept. -/
theorem reachable_kept (reachable : Reachable cls body custody) : Kept cls body custody := by
  induction reachable with
  | published => exact ⟨fun _ => rfl, nofun, Nat.zero_le _⟩
  | delivered earlier ready occasion kept =>
      obtain ⟨ending, course⟩ := occasion.course cls body
      exact kept_delivered kept ready (Delivery.course_settled course)
  | expired earlier waited kept => exact kept_moved kept (by simp [waited]) nofun
  | returned earlier left kept => exact kept_moved kept (by simp [left]) nofun

theorem somewhere (place : Place) (present : place ≠ .removed) :
    place = .ready ∨ place = .unsettled ∨ place = .deadLettered := by
  cases place <;> simp at present ⊢

/-- **A message is never lost.** At any time of any history it waits in the direct queue or is
delivered from it, or is on the dead-letter route, or has a copy in junk, or was handled;
and junk holds at most one copy more than there were deliveries that could not acknowledge
the message after they had archived it. -/
theorem message_never_lost (seen : Seen cls body custody) :
    (custody.place = .ready ∨ custody.place = .unsettled ∨ custody.place = .deadLettered ∨
        body ∈ custody.copies cls ∨ custody.Handled) ∧
      (custody.copies cls).length ≤ 1 + custody.strays cls := by
  cases seen with
  | between reachable =>
      have kept := reachable_kept reachable
      refine ⟨?_, kept.bounded⟩
      by_cases away : custody.place = .removed
      · exact .inr (.inr (.inr (kept.gone away)))
      · rcases somewhere _ away with place | place | place <;> simp [place]
  | during earlier ready occasion begun =>
      rename_i custody made
      have kept := reachable_kept earlier
      obtain ⟨ending, course⟩ := occasion.course cls body
      -- What was done so far is a front of the delivery, and every front keeps the message.
      obtain ⟨removed, copies⟩ := Delivery.course_begun course begun
      constructor
      · by_cases away : Place.afterDelivery made = .removed
        · refine .inr (.inr (.inr ((removed away).imp (fun copied => ?_) handled_delivered)))
          rw [copies_delivered]
          exact List.mem_append_right _ copied
        · have place : (custody.delivered made).place = Place.afterDelivery made := rfl
          rcases somewhere _ away with stays | stays | stays <;> simp [place, stays]
      · have before := kept.held (by simp [ready])
        rw [copies_delivered, strays_delivered, List.length_append]
        omega

/-! ## Poles -/

def failing (acknowledged : Outcome) : Occasion where
  World := Unit
  Data := Unit
  services := {
    propagator := .standard
    handle := fun _ _ world => (.failed .internal, world)
    publish := fun _ world => (.ok (), world)
    acknowledge := fun world => (acknowledged, world)
    reject := fun _ world => (.ok (), world) }
  decode _ := .done ()
  count := 0
  headers := []
  redelivered := false
  world := ()

/-- A class that gives a message up when it fails for the first time. -/
def impatient : MessageClass := { MessageClass.blank with enabled := true }

/-- A message that was archived twice, since it could not be acknowledged the first time. -/
def archivedTwice : Custody where
  place := .removed
  deliveries := [(failing (.error .acknowledging)).calls impatient [1],
    (failing (.ok ())).calls impatient [1]]

/-- The bound on the copies is met. -/
theorem archivedTwice_never_lost : Seen impatient [1] archivedTwice ∧
    (archivedTwice.copies impatient).length = 1 + archivedTwice.strays impatient ∧
    (archivedTwice.place = .ready ∨ archivedTwice.place = .unsettled ∨
        archivedTwice.place = .deadLettered ∨ [1] ∈ archivedTwice.copies impatient ∨
        archivedTwice.Handled) ∧
      (archivedTwice.copies impatient).length ≤ 1 + archivedTwice.strays impatient := by
  have start : Reachable impatient [1] ⟨.ready, []⟩ := .published
  have first := Reachable.delivered start rfl (failing (.error .acknowledging))
  have seen : Seen impatient [1] archivedTwice :=
    .between (.delivered (.returned first rfl) rfl (failing (.ok ())))
  exact ⟨seen, rfl, message_never_lost seen⟩

end Custody

end Redelivery
