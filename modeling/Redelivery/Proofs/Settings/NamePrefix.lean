import Redelivery.Settings.Basic
/-!
# Whose names a prefix gives

The prefix of an application joins its namespace and its name by a dash, and either may hold dashes
of its own. So it does not say where the one ends and the other begins: an application whose name
is `stock-orders` has the prefix of the application `orders` in the namespace `stock`.

That is all that is lost (`Identity.lead_eq_iff`). Two applications have one prefix exactly if they
are one, or if what stands before a dash in the name of one of them is counted to the namespace of
the other.

* `MessageClass.Foreign`: nothing of one class is named as it is in the other.
* `Settings.namePrefix_tells_apart`: the law for two applications and the names of their classes.
* `Settings.namePrefix_confuses`: two applications that have one prefix.
-/

namespace Redelivery

set_option autoImplicit false

/-! ## Who an application is -/

/-- The namespace of an application, if there is one, and its name. -/
structure Identity where
  space : Option String
  application : String
  deriving DecidableEq

def Settings.identity (settings : Settings) : Identity :=
  ⟨settings.broker.space.filter (· ≠ ""), settings.application⟩

namespace Identity

/-- What every name of the application starts with. -/
def lead : Identity → String
  | ⟨some space, application⟩ => space ++ "-" ++ application ++ "-"
  | ⟨none, application⟩ => application ++ "-"

/-- The second identity is the first with what stands before some dash of the name counted to the
namespace. -/
inductive Shifted : Identity → Identity → Prop where
  | further (space start rest : String) :
      Shifted ⟨some space, start ++ "-" ++ rest⟩ ⟨some (space ++ "-" ++ start), rest⟩
  | anew (space rest : String) : Shifted ⟨none, space ++ "-" ++ rest⟩ ⟨some space, rest⟩

variable {one other : Identity}

theorem Shifted.lead_eq (shifted : Shifted one other) : one.lead = other.lead := by
  cases shifted with
  | further space start rest => simp only [lead, String.append_assoc]
  | anew space rest => rfl

theorem Shifted.dash_mem (shifted : Shifted one other) : '-' ∈ one.application.toList := by
  cases shifted with
  | further space start rest => simp
  | anew space rest => simp

theorem toList_dashed (before after : String) :
    (before ++ "-" ++ after).toList = before.toList ++ '-' :: after.toList := by
  rw [String.toList_append, String.toList_append, List.append_assoc]
  rfl

/-- The namespace of the second identity goes on where that of the first ends: it ends there too,
or at a dash of the first name. -/
theorem eq_or_shifted {space space' rest rest' : String} {step : List Char}
    (longer : space'.toList = space.toList ++ step)
    (behind : '-' :: rest.toList = step ++ '-' :: rest'.toList) :
    (⟨some space, rest⟩ : Identity) = ⟨some space', rest'⟩ ∨
      Shifted ⟨some space, rest⟩ ⟨some space', rest'⟩ := by
  cases step with
  | nil =>
      rw [List.append_nil, String.toList_inj] at longer
      obtain ⟨-, later⟩ := List.cons.inj behind
      rw [longer, String.toList_inj.mp later]
      exact .inl rfl
  | cons c start =>
      -- the longer namespace has taken the first dash of the rest
      obtain ⟨rfl, later⟩ := List.cons.inj behind
      have name : rest = String.ofList start ++ "-" ++ rest' := by
        rw [← String.toList_inj, toList_dashed, String.toList_ofList]
        exact later
      have whole : space' = space ++ "-" ++ String.ofList start := by
        rw [← String.toList_inj, toList_dashed, String.toList_ofList, longer]
      rw [name, whole]
      exact .inr (.further space (String.ofList start) rest')

/-- Two identities have one prefix exactly if they are one, or differ in what is counted to the
namespace only. -/
theorem lead_eq_iff :
    one.lead = other.lead ↔ one = other ∨ Shifted one other ∨ Shifted other one := by
  constructor
  · intro same
    obtain ⟨space, application⟩ := one
    obtain ⟨space', application'⟩ := other
    cases space with
    | none =>
        cases space' with
        | none =>
            simp only [lead, String.append_left_inj] at same
            exact .inl (congrArg _ same)
        | some space' =>
            simp only [lead, String.append_left_inj] at same
            subst same
            exact .inr (.inl (.anew space' application'))
    | some space =>
        cases space' with
        | none =>
            simp only [lead, String.append_left_inj] at same
            subst same
            exact .inr (.inr (.anew space application))
        | some space' =>
            simp only [lead, String.append_left_inj] at same
            rw [← String.toList_inj, toList_dashed, toList_dashed] at same
            -- one of the two namespaces is the longer one
            obtain ⟨step, longer, behind⟩ | ⟨step, longer, behind⟩ := List.append_eq_append_iff.mp same
            · exact (eq_or_shifted longer behind).imp_right .inl
            · exact (eq_or_shifted longer behind).imp Eq.symm .inr
  · rintro (rfl | shifted | shifted)
    · rfl
    · exact shifted.lead_eq
    · exact shifted.lead_eq.symm

end Identity

theorem Settings.namePrefix_eq (settings : Settings) : settings.namePrefix = settings.identity.lead := by
  rw [namePrefix, BrokerAddress.namePrefix, identity]
  cases settings.broker.space with
  | none => rfl
  | some space =>
      by_cases empty : space = ""
      · rw [Option.filter_some_neg (by simpa using empty)]
        simp only [empty, if_true, Identity.lead]
      · rw [Option.filter_some_pos (by simpa using empty)]
        simp only [empty, if_false, Identity.lead]

/-! ## Names under two prefixes -/

/-- The routes share no name in the same place. -/
structure Route.Foreign (route other : Route) : Prop where
  exchange : route.exchange ≠ other.exchange
  queue : route.queue ≠ other.queue
  key : route.key ≠ other.key

/-- The classes share no name in the same place of a route. -/
structure MessageClass.Foreign (cls other : MessageClass) : Prop where
  direct : cls.direct.Foreign other.direct
  deadLetter : cls.deadLetter.Foreign other.deadLetter
  junk : cls.junk.Foreign other.junk

variable {lead lead' : String}

theorem Route.foreign_withPrefix (different : lead ≠ lead') (route : Route) :
    (route.withPrefix lead).Foreign (route.withPrefix lead') where
  exchange := mt (String.append_left_inj route.exchange).mp different
  queue := mt (String.append_left_inj route.queue).mp different
  key := mt (String.append_left_inj route.key).mp different

theorem MessageClass.foreign_withPrefix (different : lead ≠ lead') (cls : MessageClass) :
    (cls.withPrefix lead).Foreign (cls.withPrefix lead') where
  direct := Route.foreign_withPrefix different cls.direct
  deadLetter := Route.foreign_withPrefix different cls.deadLetter
  junk := Route.foreign_withPrefix different cls.junk

namespace Settings

/-- **Two applications have one prefix** exactly if what stands before a dash in the name of one of
them is counted to the namespace of the other, which takes a name with a dash. A class that is
configured in both of them has the same names in both if they have one prefix, and otherwise
another name in every place. -/
theorem namePrefix_tells_apart {settings other : Settings}
    (different : settings.identity ≠ other.identity) :
    (settings.namePrefix = other.namePrefix ↔
      Identity.Shifted settings.identity other.identity ∨
        Identity.Shifted other.identity settings.identity) ∧
    ('-' ∉ settings.application.toList → '-' ∉ other.application.toList →
      settings.namePrefix ≠ other.namePrefix) ∧
    ∀ (name name' : String) (cls : MessageClass),
      SortedTable.find? name settings.messageClasses = some cls →
      SortedTable.find? name' other.messageClasses = some cls →
      ∃ own others, settings.class? name = .ok own ∧ other.class? name' = .ok others ∧
        (settings.namePrefix = other.namePrefix → own = others) ∧
        (settings.namePrefix ≠ other.namePrefix → own.Foreign others) := by
  have exactly : settings.namePrefix = other.namePrefix ↔
      Identity.Shifted settings.identity other.identity ∨
        Identity.Shifted other.identity settings.identity := by
    rw [namePrefix_eq, namePrefix_eq, Identity.lead_eq_iff, or_iff_right different]
  refine ⟨exactly, ?_, ?_⟩
  · intro plain plain' same
    rcases exactly.mp same with shifted | shifted
    · exact plain shifted.dash_mem
    · exact plain' shifted.dash_mem
  · intro name name' cls found found'
    refine ⟨cls.withPrefix settings.namePrefix, cls.withPrefix other.namePrefix, ?_, ?_, ?_, ?_⟩
    · rw [class?, found]
    · rw [class?, found']
    · intro same
      rw [same]
    · intro apart
      exact cls.foreign_withPrefix apart

end Settings

def orderDesk (space : Option String) (application : String) : Settings where
  application := application
  broker := ⟨"localhost", 5672, "guest", "guest", "/", 30, space⟩
  consumer := .unset
  messageClasses := [("order", ⟨true, .direct, ⟨"orders", "orders", "order"⟩,
    ⟨"later", "later", "order"⟩, ⟨"junk", "junk", "order"⟩, 1000, 0, 3⟩)]

namespace Settings

/-- In two namespaces no order goes to the same place. -/
theorem namePrefix_tells_apart_orders :
    (orderDesk (some "north") "orders").identity ≠ (orderDesk (some "south") "orders").identity ∧
      ∃ own others, (orderDesk (some "north") "orders").class? "order" = .ok own ∧
        (orderDesk (some "south") "orders").class? "order" = .ok others ∧ own.Foreign others := by
  have different : (orderDesk (some "north") "orders").identity ≠
      (orderDesk (some "south") "orders").identity := by decide
  obtain ⟨-, plain, resolved⟩ := namePrefix_tells_apart different
  obtain ⟨own, others, found, found', -, foreign⟩ := resolved "order" "order" _ rfl rfl
  exact ⟨different, own, others, found, found', foreign (plain (by decide) (by decide))⟩

/-- A dash is no boundary: the application `stock-orders` takes the orders of the application
`orders` in the namespace `stock`. -/
theorem namePrefix_confuses :
    (orderDesk (some "stock") "orders").identity ≠ (orderDesk none "stock-orders").identity ∧
      (orderDesk (some "stock") "orders").namePrefix = "stock-orders-" ∧
      (orderDesk none "stock-orders").namePrefix = "stock-orders-" ∧
      ∃ cls, cls.direct = ⟨"stock-orders-orders", "stock-orders-orders", "stock-orders-order"⟩ ∧
        (orderDesk (some "stock") "orders").class? "order" = .ok cls ∧
        (orderDesk none "stock-orders").class? "order" = .ok cls := by
  refine ⟨by decide, rfl, rfl, _, ?_, rfl, rfl⟩
  rfl

end Settings

end Redelivery
