import Redelivery.Proofs.Connection.Ownership
/-!
# The life of a stream of notices

The notices of a manager travel in one stream. Whoever asks first gets it, unless the manager
was closed before; what is reported from then on and before the first closure is read in the
order in which it was reported, and after that the stream ends. What is reported at any other
time, or when nobody reads any more, leaves no trace.

All of this is said of calls, made one after the other on one manager (`NoticeCall.performAll`),
in terms of the earlier calls alone: `sinceTaken?` and `yields` look at no state.

* `NoticeCall.Stage`: where a stream stands after some calls, one case for each part of its life.
* `stage_performed`: what one call makes of it.
* `stream_yields_reports`: what every call comes to after any other calls.
-/

namespace Redelivery

set_option autoImplicit false

/-- What is done with the notices of a manager. -/
inductive NoticeCall where
  /-- Somebody asks for the stream. -/
  | take
  | report (notice : Notice)
  | close
  /-- Whoever has the stream reads on. -/
  | read
  /-- Whoever has the stream lets go of it. -/
  | drop
  deriving DecidableEq

inductive NoticeAnswer where
  | took (handed : Bool)
  | reported
  | closed (outcome : Outcome)
  | found (receipt : Receipt)
  | dropped

namespace NoticeAnswer

def handsOut : NoticeAnswer → Bool
  | took handed => handed
  | _ => false

def notice? : NoticeAnswer → Option Notice
  | found (.notice notice) => some notice
  | _ => none

end NoticeAnswer

def noticesRead (answers : List NoticeAnswer) : List Notice :=
  answers.filterMap NoticeAnswer.notice?

def handOuts (answers : List NoticeAnswer) : Nat := answers.countP NoticeAnswer.handsOut

@[simp] theorem noticesRead_append (first second : List NoticeAnswer) :
    noticesRead (first ++ second) = noticesRead first ++ noticesRead second :=
  List.filterMap_append

@[simp] theorem handOuts_append (first second : List NoticeAnswer) :
    handOuts (first ++ second) = handOuts first + handOuts second :=
  List.countP_append

namespace NoticeCall

variable {σ : Type}

def perform (wire : Wire σ) : NoticeCall → Manager × σ → NoticeAnswer × (Manager × σ)
  | take, (manager, world) =>
      let (handed, manager) := manager.takeNotices
      (.took handed, manager, world)
  | report notice, (manager, world) =>
      (.reported, manager.report notice.generation notice.reason, world)
  | close, state =>
      let (outcome, state) := Manager.close wire state
      (.closed outcome, state)
  | read, (manager, world) =>
      let (receipt, notices) := manager.notices.receive
      (.found receipt, { manager with notices }, world)
  | drop, (manager, world) =>
      (.dropped, { manager with notices := manager.notices.abandon }, world)

def performAll (wire : Wire σ) :
    List NoticeCall → Manager × σ → List NoticeAnswer × (Manager × σ)
  | [], state => ([], state)
  | call :: later, state =>
      let (answer, state) := call.perform wire state
      let (answers, state) := performAll wire later state
      (answer :: answers, state)

/-! ## What the calls alone tell -/

/-- The calls since the stream was handed out, if it was: by the first call that asks for it,
unless a closure came before. -/
def sinceTaken? : List NoticeCall → Option (List NoticeCall)
  | [] | close :: _ => none
  | take :: later => some later
  | report _ :: later | read :: later | drop :: later => sinceTaken? later

/-- What is reported before the first closure. -/
def reportsUntilClosed : List NoticeCall → List Notice
  | [] | close :: _ => []
  | report notice :: later => notice :: reportsUntilClosed later
  | take :: later | read :: later | drop :: later => reportsUntilClosed later

/-- What the stream yields to whoever reads it to the end. -/
def yields (calls : List NoticeCall) : List Notice :=
  match sinceTaken? calls with
  | some later => reportsUntilClosed later
  | none => []

/-- Somebody has the stream, and it was not closed. -/
def Listening (calls : List NoticeCall) : Prop :=
  ∃ later, sinceTaken? calls = some later ∧ close ∉ later ∧ drop ∉ later

/-- What is found by reading after some calls, when a number of notices were read before: the
next one, or the end if the stream was closed. -/
def due (calls : List NoticeCall) (before : Nat) : Receipt :=
  match sinceTaken? calls with
  | none => .noReader
  | some later =>
      if drop ∈ later then .noReader
      else match (yields calls)[before]? with
        | some notice => .notice notice
        | none => if close ∈ later then .ended else .empty

variable {calls later : List NoticeCall}

theorem sinceTaken?_snoc (since : sinceTaken? calls = some later) (call : NoticeCall) :
    sinceTaken? (calls ++ [call]) = some (later ++ [call]) := by
  induction calls with
  | nil => cases since
  | cons first rest ih =>
      cases first with
      | take =>
          cases since
          rfl
      | close => cases since
      | report notice | read | drop => exact ih since

/-- As long as nobody asked and nobody closed, the next call that asks gets the stream. -/
theorem sinceTaken?_snoc_of_unasked (unasked : take ∉ calls) (unclosed : close ∉ calls)
    (call : NoticeCall) :
    sinceTaken? (calls ++ [call]) = if call = take then some [] else none := by
  induction calls with
  | nil => cases call <;> rfl
  | cons first rest ih =>
      have rest := ih (fun member => unasked (List.mem_cons_of_mem _ member))
        (fun member => unclosed (List.mem_cons_of_mem _ member))
      cases first with
      | take => exact absurd List.mem_cons_self unasked
      | close => exact absurd List.mem_cons_self unclosed
      | report notice | read | drop => exact rest

theorem sinceTaken?_of_unasked (unasked : take ∉ calls) : sinceTaken? calls = none := by
  induction calls with
  | nil => rfl
  | cons first rest ih =>
      have rest := ih (fun member => unasked (List.mem_cons_of_mem _ member))
      cases first with
      | take => exact absurd List.mem_cons_self unasked
      | close => rfl
      | report notice | read | drop => exact rest

/-- Once it was closed, a stream that nobody had is handed out to nobody. -/
theorem sinceTaken?_snoc_of_closed (never : sinceTaken? calls = none) (closed : close ∈ calls)
    (call : NoticeCall) : sinceTaken? (calls ++ [call]) = none := by
  induction calls with
  | nil => cases closed
  | cons first rest ih =>
      cases first with
      | take => cases never
      | close => rfl
      | report notice | read | drop =>
          exact ih never (by simpa using closed)

theorem take_mem_of_since (since : sinceTaken? calls = some later) : take ∈ calls := by
  by_cases unasked : take ∈ calls
  · exact unasked
  · rw [sinceTaken?_of_unasked unasked] at since
    cases since

theorem reportsUntilClosed_snoc_of_closed (closed : close ∈ calls) (call : NoticeCall) :
    reportsUntilClosed (calls ++ [call]) = reportsUntilClosed calls := by
  induction calls with
  | nil => cases closed
  | cons first rest ih =>
      cases first with
      | close => rfl
      | report notice =>
          exact congrArg (notice :: ·) (ih (by simpa using closed))
      | take | read | drop => exact ih (by simpa using closed)

theorem reportsUntilClosed_snoc (unclosed : close ∉ calls) (call : NoticeCall) :
    reportsUntilClosed (calls ++ [call]) =
      reportsUntilClosed calls ++ reportsUntilClosed [call] := by
  induction calls with
  | nil => rfl
  | cons first rest ih =>
      have rest := ih (fun member => unclosed (List.mem_cons_of_mem _ member))
      cases first with
      | close => exact absurd List.mem_cons_self unclosed
      | report notice => exact congrArg (notice :: ·) rest
      | take | read | drop => exact rest

theorem yields_of_since (since : sinceTaken? calls = some later) :
    yields calls = reportsUntilClosed later := by
  simp only [yields, since]

/-- A call adds what it reports to what the stream yields, unless the stream was closed. -/
theorem yields_snoc (since : sinceTaken? calls = some later) (call : NoticeCall) :
    yields (calls ++ [call]) =
      yields calls ++ if close ∈ later then [] else reportsUntilClosed [call] := by
  rw [yields_of_since (sinceTaken?_snoc since call), yields_of_since since]
  split
  · rename_i closed
    rw [reportsUntilClosed_snoc_of_closed closed, List.append_nil]
  · rename_i unclosed
    exact reportsUntilClosed_snoc unclosed call

/-! ## Where the stream stands -/

def sourceAfter (later : List NoticeCall) : NoticeSource :=
  if close ∈ later then .closed else .live

theorem sourceAfter_snoc (later : List NoticeCall) (call : NoticeCall) :
    sourceAfter (later ++ [call]) = if call = close then .closed else sourceAfter later := by
  by_cases closing : call = close
  · simp [sourceAfter, closing]
  · simp [sourceAfter, closing, Ne.symm closing]

theorem sourceAfter_ne_untaken (later : List NoticeCall) : sourceAfter later ≠ .untaken := by
  unfold sourceAfter
  split <;> exact nofun

/-- Where a stream stands after some calls and their answers. -/
inductive Stage (calls : List NoticeCall) (answers : List NoticeAnswer) : NoticeStream → Prop where
  /-- Nobody asked for it. -/
  | untaken (unasked : take ∉ calls) (unclosed : close ∉ calls) (unread : noticesRead answers = [])
      (kept : handOuts answers = 0) : Stage calls answers .untaken
  /-- It was closed before anybody asked. -/
  | withheld (never : sinceTaken? calls = none) (closed : close ∈ calls)
      (unread : noticesRead answers = []) (kept : handOuts answers = 0) :
      Stage calls answers ⟨.closed, none⟩
  | held {later : List NoticeCall} {waiting : List Notice}
      (since : sinceTaken? calls = some later) (undropped : drop ∉ later)
      (whole : noticesRead answers ++ waiting = yields calls) (once : handOuts answers = 1) :
      Stage calls answers ⟨sourceAfter later, some waiting⟩
  /-- Whoever had it let go of it. -/
  | dropped {later : List NoticeCall} (since : sinceTaken? calls = some later)
      (dropped : drop ∈ later) (part : noticesRead answers <+: yields calls)
      (once : handOuts answers = 1) : Stage calls answers ⟨sourceAfter later, none⟩

variable {answers : List NoticeAnswer} {wire : Wire σ} {manager : Manager} {world : σ}

/-- Closing ends the stream, whatever comes of the connection. -/
theorem notices_close (wire : Wire σ) (manager : Manager) (world : σ) :
    (Manager.close wire (manager, world)).2.1.notices = manager.notices.close := by
  obtain ⟨asked, outcome, after, next, closes, -, manner⟩ :=
    close_attended wire manager world []
  rw [closes]
  cases manner <;> rfl

/-- What a call does to a stream that nobody reads and that is not to be handed out. -/
theorem perform_unread (wire : Wire σ) (world : σ) {source : NoticeSource}
    (stream : manager.notices = ⟨source, none⟩)
    (asked : source ≠ .untaken) (call : NoticeCall) :
    (call.perform wire (manager, world)).2.1.notices =
        ⟨if call = close then .closed else source, none⟩ ∧
      (call.perform wire (manager, world)).1.notice? = none ∧
      (call.perform wire (manager, world)).1.handsOut = false := by
  cases call with
  | take => cases source <;>
      simp_all [perform, Manager.takeNotices, NoticeStream.take, NoticeAnswer.notice?,
        NoticeAnswer.handsOut]
  | report notice => cases source <;>
      simp_all [perform, Manager.report, NoticeStream.raise, NoticeAnswer.notice?,
        NoticeAnswer.handsOut]
  | close =>
      refine ⟨?_, rfl, rfl⟩
      exact (notices_close wire manager world).trans (by rw [stream]; rfl)
  | read =>
      simp [perform, stream, NoticeStream.receive, NoticeAnswer.notice?, NoticeAnswer.handsOut]
  | drop =>
      simp [perform, stream, NoticeStream.abandon, NoticeAnswer.notice?, NoticeAnswer.handsOut]

section Stages

variable {call : NoticeCall} {answer : NoticeAnswer}

/-- An answer that neither reads nor hands out leaves the accounts as they are. -/
theorem accounts_snoc (answers : List NoticeAnswer) (silent : answer.notice? = none)
    (keeps : answer.handsOut = false) :
    noticesRead (answers ++ [answer]) = noticesRead answers ∧
      handOuts (answers ++ [answer]) = handOuts answers := by
  simp [noticesRead, handOuts, silent, keeps]

theorem Stage.held_snoc {waiting left : List Notice} (since : sinceTaken? calls = some later)
    (undropped : drop ∉ later) (whole : noticesRead answers ++ waiting = yields calls)
    (once : handOuts answers = 1) (keeping : call ≠ drop) (keeps : answer.handsOut = false)
    (still : noticesRead [answer] ++ left =
      waiting ++ if close ∈ later then [] else reportsUntilClosed [call]) :
    Stage (calls ++ [call]) (answers ++ [answer]) ⟨sourceAfter (later ++ [call]), some left⟩ := by
  refine .held (sinceTaken?_snoc since call) ?_ ?_ ?_
  · simpa [undropped] using Ne.symm keeping
  · rw [noticesRead_append, List.append_assoc, still, ← List.append_assoc, whole,
      yields_snoc since]
  · simp [handOuts, keeps] at once ⊢
    exact once

theorem Stage.dropped_snoc (since : sinceTaken? calls = some later)
    (gone : drop ∈ later ++ [call]) (part : noticesRead answers <+: yields calls)
    (once : handOuts answers = 1) (silent : answer.notice? = none)
    (keeps : answer.handsOut = false) :
    Stage (calls ++ [call]) (answers ++ [answer]) ⟨sourceAfter (later ++ [call]), none⟩ := by
  obtain ⟨unread, kept⟩ := accounts_snoc answers silent keeps
  refine .dropped (sinceTaken?_snoc since call) gone ?_ (kept.trans once)
  rw [unread, yields_snoc since]
  exact part.trans (List.prefix_append _ _)

theorem Stage.untaken_snoc (unasked : take ∉ calls) (unclosed : close ∉ calls)
    (unread : noticesRead answers = []) (kept : handOuts answers = 0) (asks : call ≠ take)
    (closes : call ≠ close) (silent : answer.notice? = none) (keeps : answer.handsOut = false) :
    Stage (calls ++ [call]) (answers ++ [answer]) .untaken := by
  obtain ⟨same, still⟩ := accounts_snoc answers silent keeps
  refine .untaken ?_ ?_ (same.trans unread) (still.trans kept)
  · simpa [unasked] using Ne.symm asks
  · simpa [unclosed] using Ne.symm closes

end Stages

theorem untaken_performed (stream : manager.notices = .untaken) (unasked : take ∉ calls)
    (unclosed : close ∉ calls) (unread : noticesRead answers = []) (kept : handOuts answers = 0)
    (call : NoticeCall) :
    Stage (calls ++ [call]) (answers ++ [(call.perform wire (manager, world)).1])
      (call.perform wire (manager, world)).2.1.notices := by
  have since := sinceTaken?_snoc_of_unasked unasked unclosed call
  cases call with
  | take =>
      simp only [perform, Manager.takeNotices, stream]
      refine .held since nofun (?_ : noticesRead _ ++ [] = _) ?_
      · rw [yields_of_since since, noticesRead_append, unread]
        rfl
      · rw [handOuts_append, kept]
        rfl
  | close =>
      have silent : (close.perform wire (manager, world)).1.notice? = none := rfl
      obtain ⟨same, still⟩ := accounts_snoc answers silent rfl
      have closes : ((close.perform wire (manager, world)).2.1.notices) = ⟨.closed, none⟩ :=
        (notices_close wire manager world).trans (by rw [stream]; rfl)
      rw [closes]
      exact .withheld since (List.mem_append_right _ (List.mem_singleton_self _))
        (same.trans unread) (still.trans kept)
  | report notice =>
      have same : (manager.notices.raise ⟨notice.generation, notice.reason⟩) = .untaken := by
        rw [stream]
        rfl
      simp only [perform, Manager.report, same]
      exact .untaken_snoc unasked unclosed unread kept nofun nofun rfl rfl
  | read =>
      simp only [perform, stream]
      exact .untaken_snoc unasked unclosed unread kept nofun nofun rfl rfl
  | drop =>
      simp only [perform, stream]
      exact .untaken_snoc unasked unclosed unread kept nofun nofun rfl rfl

theorem held_performed {waiting : List Notice}
    (stream : manager.notices = ⟨sourceAfter later, some waiting⟩)
    (since : sinceTaken? calls = some later) (undropped : drop ∉ later)
    (whole : noticesRead answers ++ waiting = yields calls) (once : handOuts answers = 1)
    (call : NoticeCall) :
    Stage (calls ++ [call]) (answers ++ [(call.perform wire (manager, world)).1])
      (call.perform wire (manager, world)).2.1.notices := by
  cases call with
  | take =>
      -- The stream is given away once, so that a second taker changes nothing.
      have refused : manager.takeNotices = (false, manager) := by
        have taken : manager.notices.take = (false, manager.notices) := by
          rw [stream]
          by_cases closed : close ∈ later <;> simp [NoticeStream.take, sourceAfter, closed]
        rw [Manager.takeNotices, taken]
      have same : sourceAfter (later ++ [take]) = sourceAfter later := sourceAfter_snoc later take
      simp only [perform, refused, stream, ← same]
      refine .held_snoc since undropped whole once (by simp) rfl ?_
      simp [reportsUntilClosed, noticesRead, NoticeAnswer.notice?]
  | report notice =>
      have same := sourceAfter_snoc later (report notice)
      have raised : manager.notices.raise ⟨notice.generation, notice.reason⟩ =
          ⟨sourceAfter (later ++ [report notice]), some (waiting ++
            if close ∈ later then [] else reportsUntilClosed [report notice])⟩ := by
        rw [stream, same]
        by_cases closed : close ∈ later <;>
          simp [NoticeStream.raise, sourceAfter, closed, reportsUntilClosed]
      simp only [perform, Manager.report, raised]
      exact .held_snoc since undropped whole once (by simp) rfl rfl
  | close =>
      have closes : (close.perform wire (manager, world)).2.1.notices =
          ⟨sourceAfter (later ++ [close]), some waiting⟩ := by
        rw [sourceAfter_snoc, if_pos rfl]
        exact (notices_close wire manager world).trans (by rw [stream]; rfl)
      rw [closes]
      refine .held_snoc since undropped whole once (by simp) rfl ?_
      simp [reportsUntilClosed, noticesRead, perform, NoticeAnswer.notice?]
  | read =>
      have same : sourceAfter (later ++ [read]) = sourceAfter later := sourceAfter_snoc later read
      cases waiting with
      | nil =>
          simp only [perform, NoticeStream.receive, stream, ← same]
          refine .held_snoc since undropped whole once (by simp) rfl ?_
          split <;> simp [reportsUntilClosed, noticesRead, NoticeAnswer.notice?]
      | cons notice rest =>
          simp only [perform, NoticeStream.receive, stream, ← same]
          refine .held_snoc since undropped whole once (by simp) rfl ?_
          simp [reportsUntilClosed, noticesRead, NoticeAnswer.notice?]
  | drop =>
      have same : sourceAfter (later ++ [drop]) = sourceAfter later := sourceAfter_snoc later drop
      simp only [perform, NoticeStream.abandon, stream, ← same]
      exact .dropped_snoc since (by simp) ⟨waiting, whole⟩ once rfl rfl

/-- Every call takes the stream from stage to stage. -/
theorem stage_performed (wire : Wire σ) (world : σ)
    (stage : Stage calls answers manager.notices) (call : NoticeCall) :
    Stage (calls ++ [call]) (answers ++ [(call.perform wire (manager, world)).1])
      (call.perform wire (manager, world)).2.1.notices := by
  generalize stream : manager.notices = notices at stage
  cases stage with
  | untaken unasked unclosed unread kept =>
      exact untaken_performed stream unasked unclosed unread kept call
  | withheld never closed unread kept =>
      obtain ⟨stays, silent, keeps⟩ := perform_unread wire world stream nofun call
      obtain ⟨same, still⟩ := accounts_snoc answers silent keeps
      rw [stays, ite_self]
      exact .withheld (sinceTaken?_snoc_of_closed never closed call)
        (List.mem_append_left _ closed) (same.trans unread) (still.trans kept)
  | held since undropped whole once =>
      exact held_performed stream since undropped whole once call
  | dropped since gone part once =>
      obtain ⟨stays, silent, keeps⟩ :=
        perform_unread wire world stream (sourceAfter_ne_untaken _) call
      rw [stays, ← sourceAfter_snoc]
      exact .dropped_snoc since (List.mem_append_left _ gone) part once silent keeps

theorem stage_performedAll {state : Manager × σ} (stage : Stage calls answers state.1.notices)
    (following : List NoticeCall) :
    Stage (calls ++ following) (answers ++ (performAll wire following state).1)
      (performAll wire following state).2.1.notices := by
  induction following generalizing calls answers state with
  | nil => simpa [performAll] using stage
  | cons call rest ih =>
      have next := ih (stage_performed wire state.2 stage call)
      simpa [performAll] using next

/-! ## What every call comes to -/

/-- What is promised of the stream after some calls: what the next call comes to, and what was
read so far. -/
structure Promised (wire : Wire σ) (calls : List NoticeCall) (answers : List NoticeAnswer)
    (reached : Manager × σ) : Prop where
  /-- The first call that asks gets the stream, if no closure came before. -/
  handsOut : (take.perform wire reached).1 = .took (decide (take ∉ calls ∧ close ∉ calls))
  once : handOuts answers = if (sinceTaken? calls).isSome then 1 else 0
  /-- What was reported while somebody listened is read in order, each notice once, and then
  the end if the stream was closed. -/
  reads : (read.perform wire reached).1 = .found (due calls (noticesRead answers).length)
  inOrder : noticesRead answers <+: yields calls
  /-- All that was not read yet is waiting, until the stream is let go of. -/
  whole : (∀ later, sinceTaken? calls = some later → drop ∉ later) →
    noticesRead answers ++ reached.1.notices.pending = yields calls
  /-- To report always goes well, and leaves no trace if nobody listens. -/
  returns : ∀ notice, ((report notice).perform wire reached).1 = .reported
  discards : ¬ Listening calls → ∀ notice, ((report notice).perform wire reached).2 = reached

section Promised

variable {reached : Manager × σ} (stage : Stage calls answers reached.1.notices)

include stage

theorem handsOut_of_stage :
    (take.perform wire reached).1 = .took (decide (take ∉ calls ∧ close ∉ calls)) := by
  generalize stream : reached.1.notices = notices at stage
  cases stage with
  | untaken unasked unclosed unread kept =>
      simp [perform, Manager.takeNotices, stream, NoticeStream.take, NoticeStream.untaken, unasked,
        unclosed]
  | withheld never closed unread kept =>
      simp [perform, Manager.takeNotices, stream, NoticeStream.take, closed]
  | @held later waiting since undropped whole once =>
      by_cases closed : close ∈ later <;>
        simp [perform, Manager.takeNotices, stream, NoticeStream.take, sourceAfter, closed,
          take_mem_of_since since]
  | @dropped later since gone part once =>
      by_cases closed : close ∈ later <;>
        simp [perform, Manager.takeNotices, stream, NoticeStream.take, sourceAfter, closed,
          take_mem_of_since since]

theorem reads_of_stage :
    (read.perform wire reached).1 = .found (due calls (noticesRead answers).length) := by
  generalize stream : reached.1.notices = notices at stage
  cases stage with
  | untaken unasked unclosed unread kept =>
      simp [perform, stream, NoticeStream.receive, NoticeStream.untaken, due,
        sinceTaken?_of_unasked unasked]
  | withheld never closed unread kept =>
      simp [perform, stream, NoticeStream.receive, due, never]
  | @held later waiting since undropped whole once =>
      have next : (yields calls)[(noticesRead answers).length]? = waiting[0]? := by
        rw [← whole, List.getElem?_append_right (Nat.le_refl _), Nat.sub_self]
      cases waiting with
      | nil =>
          by_cases closed : close ∈ later <;>
            simp [perform, stream, NoticeStream.receive, sourceAfter, due, since, undropped, next,
              closed]
      | cons notice rest =>
          simp [perform, stream, NoticeStream.receive, due, since, undropped, next]
  | dropped since gone part once =>
      simp [perform, stream, NoticeStream.receive, due, since, gone]

theorem discards_of_stage (deaf : ¬ Listening calls) (notice : Notice) :
    ((report notice).perform wire reached).2 = reached := by
  have silent : reached.1.notices.raise ⟨notice.generation, notice.reason⟩ =
      reached.1.notices := by
    generalize reached.1.notices = notices at stage
    cases stage with
    | untaken | withheld => rfl
    | @held later waiting since undropped whole once =>
        have closed : close ∈ later := by
          by_cases closed : close ∈ later
          · exact closed
          · exact absurd ⟨later, since, closed, undropped⟩ deaf
        simp [NoticeStream.raise, sourceAfter, closed]
    | dropped since gone part once => simp [NoticeStream.raise]
  simp only [perform, Manager.report, silent]

theorem promised_of_stage : Promised wire calls answers reached where
  handsOut := handsOut_of_stage stage
  once := by
    generalize reached.1.notices = notices at stage
    cases stage with
    | untaken unasked unclosed unread kept => simp [kept, sinceTaken?_of_unasked unasked]
    | withheld never closed unread kept => simp [kept, never]
    | held since undropped whole once => simp [once, since]
    | dropped since gone part once => simp [once, since]
  reads := reads_of_stage stage
  inOrder := by
    generalize reached.1.notices = notices at stage
    cases stage with
    | untaken unasked unclosed unread kept => simp [unread]
    | withheld never closed unread kept => simp [unread]
    | @held later waiting since undropped whole once => exact ⟨waiting, whole⟩
    | dropped since gone part once => exact part
  whole kept := by
    generalize stream : reached.1.notices = notices at stage
    cases stage with
    | untaken unasked unclosed unread kept =>
        simp [unread, NoticeStream.pending, NoticeStream.untaken, yields,
          sinceTaken?_of_unasked unasked]
    | withheld never closed unread kept =>
        simp [unread, NoticeStream.pending, yields, never]
    | held since undropped whole once => exact whole
    | dropped since gone part once => exact absurd gone (kept _ since)
  returns _ := rfl
  discards := discards_of_stage stage

end Promised

/-- **A stream of notices yields what is reported while it is had and open**, after any calls on
one manager, whatever becomes of its connection: it is handed out once, to the first who asks if
no closure came before; each notice that is reported from then on and before the first closure
is read once, in order; and then it ends exactly if the manager was closed. -/
theorem stream_yields_reports (wire : Wire σ) {start : Manager × σ}
    (untaken : start.1.notices = .untaken) (calls : List NoticeCall) :
    Promised wire calls (performAll wire calls start).1 (performAll wire calls start).2 := by
  have begun : Stage [] [] start.1.notices := by
    rw [untaken]
    exact .untaken nofun nofun rfl rfl
  exact promised_of_stage (by simpa using stage_performedAll begun calls)

/-! ## Poles -/

def connected : Manager := { Manager.fresh with link := some ⟨1, 0, ⟨0, 1⟩, ⟨0, 2⟩⟩ }

/-- A loss before anybody listens, two that are read, a second one who asks, a closure that
complains, and a loss that comes too late. -/
def eventful : List NoticeCall :=
  [report ⟨0, "too early"⟩, take, report ⟨1, "reset"⟩, take, report ⟨1, "late"⟩, read, close,
    report ⟨1, "too late"⟩, take, read]

/-- What the eventful calls come to, and that the stream is at its end. -/
theorem stream_yields_reports_eventful :
    connected.notices = .untaken ∧
      Promised Tenure.scripted eventful
        (performAll Tenure.scripted eventful (connected, 0, [])).1
        (performAll Tenure.scripted eventful (connected, 0, [])).2 ∧
      (performAll Tenure.scripted eventful (connected, 0, [])).1 =
        [.reported, .took true, .reported, .took false, .reported,
          .found (.notice ⟨1, "reset"⟩), .closed (.error (.connectionClosed "gone")), .reported,
          .took false, .found (.notice ⟨1, "late"⟩)] ∧
      due eventful 2 = .ended :=
  ⟨rfl, stream_yields_reports _ rfl _, rfl, rfl⟩

end NoticeCall

end Redelivery
