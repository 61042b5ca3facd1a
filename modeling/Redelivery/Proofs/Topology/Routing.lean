import Mathlib.Data.List.Dedup
import Mathlib.Data.List.Infix
import Redelivery.Proofs.Topology.Holdings
/-!
# Where messages go

What a broker does with the messages that reach its exchanges and that leave its queues, as far
as it is known from what was declared. An exchange chooses among its bindings by its kind, a
delayed one by the kind behind the delay; a topic is a pattern of words in which `*` stands for
one word and `#` for any number of them. A message that is rejected or that has waited too long
goes to the dead-letter target of its queue.

The broker knows nothing but what went over the wire, so kinds, targets and waits are read off
the declared kind and the arguments: `Exchange.routing?_eq`, `Queue.target?_eq` and
`Queue.patience?_eq` say that these tell all that was meant.

* `Topic.covers_iff`: how patterns match, computed and as a relation.
* `ExchangeKind.accepts_self`: a key, taken as a pattern, matches itself.
* `Holdings.published_own`: an exchange with one binding sends what has its key to its queue.
-/

namespace Redelivery

set_option autoImplicit false

/-! ## Topics -/

namespace Topic

abbrev Word := List Char

/-- The words of a key, between its dots; an empty key has none. -/
def words (key : String) : List Word :=
  if key.toList = [] then [] else key.toList.splitOn '.'

def star : Word := ['*']

def hash : Word := ['#']

/-- A pattern matches the words of a key. -/
inductive Covers : List Word → List Word → Prop where
  | nil : Covers [] []
  | word {word : Word} {pattern key : List Word} (starless : word ≠ star) (hashless : word ≠ hash)
      (rest : Covers pattern key) : Covers (word :: pattern) (word :: key)
  | star {word : Word} {pattern key : List Word} (rest : Covers pattern key) :
      Covers (star :: pattern) (word :: key)
  | enough {pattern key : List Word} (rest : Covers pattern key) : Covers (hash :: pattern) key
  | more {word : Word} {pattern key : List Word} (rest : Covers (hash :: pattern) key) :
      Covers (hash :: pattern) (word :: key)

/-- Every pattern matches itself, its wildcards taken as words. -/
theorem Covers.self : (pattern : List Word) → Covers pattern pattern
  | [] => .nil
  | first :: pattern => by
      by_cases starred : first = Topic.star
      · rw [starred]
        exact .star (self pattern)
      · by_cases hashed : first = hash
        · rw [hashed]
          exact .more (.enough (self pattern))
        · exact .word starred hashed (self pattern)

/-- Whether a pattern matches the words of a key. -/
def covers : List Word → List Word → Bool
  | [], key => key.isEmpty
  | word :: pattern, key =>
      if word = hash then key.tails.any (covers pattern)
      else
        match key with
        | [] => false
        | first :: rest => (decide (word = star) || decide (word = first)) && covers pattern rest

theorem covers_hash {pattern key : List Word} :
    covers (hash :: pattern) key = true ↔ ∃ rest, rest <:+ key ∧ covers pattern rest = true := by
  simp [covers, List.any_eq_true, List.mem_tails]

/-- What is computed is what matches. -/
theorem covers_iff {pattern key : List Word} : covers pattern key = true ↔ Covers pattern key := by
  constructor
  · intro covered
    induction pattern generalizing key with
    | nil =>
        rw [covers, List.isEmpty_iff] at covered
        rw [covered]
        exact .nil
    | cons word pattern ih =>
        by_cases hashed : word = hash
        · rw [hashed] at covered ⊢
          obtain ⟨rest, ⟨lead, rfl⟩, matched⟩ := covers_hash.mp covered
          -- the wildcard takes the words of `lead`, one at a time
          induction lead with
          | nil => exact .enough (ih matched)
          | cons first lead more =>
              refine .more (more ?_)
              exact covers_hash.mpr ⟨rest, List.suffix_append lead rest, matched⟩
        · rw [covers.eq_def] at covered
          simp only [if_neg hashed] at covered
          cases key with
          | nil => cases covered
          | cons first rest =>
              simp only [Bool.and_eq_true, Bool.or_eq_true, decide_eq_true_eq] at covered
              obtain ⟨rfl | rfl, matched⟩ := covered
              · exact .star (ih matched)
              · by_cases starred : word = star
                · rw [starred]
                  exact .star (ih matched)
                · exact .word starred hashed (ih matched)
  · intro covered
    induction covered with
    | nil => rfl
    | word starless hashless rest ih => simp [covers, hashless, ih]
    | star rest ih => simp [covers, star, hash, ih]
    | enough rest ih => exact covers_hash.mpr ⟨_, List.suffix_rfl, ih⟩
    | more rest ih =>
        obtain ⟨left, ended, matched⟩ := covers_hash.mp ih
        exact covers_hash.mpr ⟨left, ended.trans (List.suffix_cons _ _), matched⟩

end Topic

namespace ExchangeKind

/-- Whether an exchange sends a message along a binding, by the keys of both. -/
def accepts : ExchangeKind → String → String → Bool
  | direct, bound, key => bound = key
  | fanout, _, _ => true
  | topic, bound, key => Topic.covers (Topic.words bound) (Topic.words key)

/-- A key that is bound is accepted, whatever wildcards it has. -/
theorem accepts_self (kind : ExchangeKind) (key : String) : kind.accepts key key = true := by
  cases kind with
  | direct => exact decide_eq_true rfl
  | fanout => rfl
  | topic => exact Topic.covers_iff.mpr (.self _)

example : topic.accepts "tick.*.#" "tick.one" = true ∧ topic.accepts "*" "tick.one" = false ∧
    topic.accepts "#.one.#" "" = false := by decide

end ExchangeKind

/-! ## What the arguments tell -/

def Exchange.routing? (exchange : Exchange) : Option ExchangeKind :=
  let word :=
    if exchange.declaredKind = "x-delayed-message" then
      (SortedTable.find? "x-delayed-type" exchange.arguments).bind Header.text?
    else some exchange.declaredKind
  word.bind fun word => ExchangeKind.named.lookup word

theorem ExchangeKind.lookup_word (kind : ExchangeKind) :
    ExchangeKind.named.lookup kind.word = some kind := by
  cases kind <;> rfl

theorem Exchange.routing?_eq (exchange : Exchange) :
    exchange.routing? = some (exchange.behindDelay.getD exchange.kind) := by
  obtain ⟨name, kind, behind, durable⟩ := exchange
  cases behind with
  | none =>
      simp [routing?, declaredKind, delayed, ExchangeKind.word_ne_delayed,
        ExchangeKind.lookup_word]
  | some inner =>
      simp [routing?, declaredKind, delayed, arguments, SortedTable.find?,
        ExchangeKind.lookup_word]

/-- Where a queue sends what is rejected or has waited too long, and under which key unless the
message keeps its own. -/
def Queue.target? (queue : Queue) : Option (String × Option String) :=
  ((SortedTable.find? "x-dead-letter-exchange" queue.arguments).bind Header.text?).map
    fun exchange =>
      (exchange,
        (SortedTable.find? "x-dead-letter-routing-key" queue.arguments).bind Header.text?)

def Queue.patience? (queue : Queue) : Option Int :=
  (SortedTable.find? "x-message-ttl" queue.arguments).bind Header.count?

theorem Queue.target?_eq (queue : Queue) :
    queue.target? = queue.deadLetter.map fun target => (target.1, some target.2) := by
  obtain ⟨name, durable, ttl, target⟩ := queue
  cases target <;> cases ttl <;> simp [target?, arguments, SortedTable.find?]

theorem Queue.patience?_eq (queue : Queue) : queue.patience? = queue.ttl := by
  obtain ⟨name, durable, ttl, target⟩ := queue
  cases target <;> cases ttl <;>
    simp [patience?, arguments, SortedTable.find?, Header.ofInt, Header.count?]

/-! ## Messages on their way -/

/-- A copy of a message: the queue in which it waits and the key with which it came. -/
structure Copy where
  queue : String
  key : String
  deriving DecidableEq

namespace Holdings

/-- The copies of a message that is published: one for each queue that an accepting binding
leads to. -/
def published (held : Holdings) (exchange key : String) : List Copy :=
  match (held.exchange? exchange).bind Exchange.routing? with
  | some kind =>
      let bindings := held.bindings.filter fun binding =>
        kind.accepts binding.key key && binding.exchange = exchange
      (bindings.map Binding.queue).dedup.map fun queue => ⟨queue, key⟩
  | none => []

/-- What becomes of a copy that its queue drops. -/
def dropped (held : Holdings) (copy : Copy) : List Copy :=
  match (held.queue? copy.queue).bind Queue.target? with
  | some (exchange, key?) => held.published exchange (key?.getD copy.key)
  | none => []

variable {held : Holdings} {route : Route} {exchange : Exchange}

/-- An exchange with one binding sends what has the key of the binding to its queue, of
whatever kind the exchange is. -/
theorem published_own (known : held.exchange? route.exchange = some exchange)
    (apart : (held.bindings.map Binding.exchange).Nodup)
    (bound : RetryCycle.bindingOf route ∈ held.bindings) :
    held.published route.exchange route.key = [⟨route.queue, route.key⟩] := by
  have own : held.bindings.filter (fun binding => binding.exchange = route.exchange) =
      [RetryCycle.bindingOf route] := Plan.filter_of_mem apart bound
  have accepted : ∀ kind : ExchangeKind, held.bindings.filter (fun binding =>
      kind.accepts binding.key route.key && binding.exchange = route.exchange) =
        [RetryCycle.bindingOf route] := by
    intro kind
    rw [← List.filter_filter, own, List.filter_singleton, RetryCycle.bindingOf,
      ExchangeKind.accepts_self]
    rfl
  rw [published, known, Option.bind_some, exchange.routing?_eq]
  simp only [accepted]
  rfl

/-- What a queue with a target drops goes where the key of the target leads. -/
theorem dropped_eq {queue : Queue} {name : String} {target : String × String}
    (known : held.queue? name = some queue) (leads : queue.deadLetter = some target)
    (key : String) : held.dropped ⟨name, key⟩ = held.published target.1 target.2 := by
  rw [dropped, known, Option.bind_some, Queue.target?_eq, leads]
  rfl

end Holdings

end Redelivery
