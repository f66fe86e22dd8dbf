import Continuity.Event.Bus
import Mathlib.Data.List.Basic
import Mathlib.Order.Basic
import Mathlib.Data.Nat.Init

/-! # Whom an event reaches

Handlers may subscribe, unsubscribe, emit and fail while an event is delivered to them and to
others. Whatever they do, an event reaches those who were subscribed when it was emitted: which
subscriptions these are depends on nothing but the actions done before, by whomever.
-/

namespace Continuity

/-- The event goes by this name: its own, that of all events, or the one that a validator gave it.
-/
def Event.GoesBy (e : Event) (topic : String) : Prop :=
  topic = e.name ∨ topic = "*" ∨ ∃ payload, e = .custom topic payload

theorem Event.contains_topics_iff (e : Event) (topic : String) :
    e.topics.contains topic = true ↔ e.GoesBy topic := by
  rw [List.contains_iff_mem]
  cases e <;> simp [topics, GoesBy, wildcard, eq_comm]

instance (e : Event) (topic : String) : Decidable (e.GoesBy topic) :=
  decidable_of_iff _ (e.contains_topics_iff topic)

namespace BusAction

/-- The action takes a subscription back. -/
def withdraws (s : Subscription) : BusAction → Bool
  | .unsubscribe t => t == s
  | _ => false

/-- The subscriptions that some actions leave: those made and not taken back since, in the order in
which they were made. -/
def standing : List BusAction → List Subscription
  | [] => []
  | .subscribe s :: rest => if rest.any (withdraws s) then standing rest else s :: standing rest
  | _ :: rest => standing rest

/-- The actions up to the first failure, with which whoever does them stops. -/
def untilFailure : List BusAction → List BusAction
  | [] => []
  | .fail :: _ => [.fail]
  | a :: rest => a :: untilFailure rest

variable {s : Subscription} {past : List BusAction}

theorem standing_subscribe (past : List BusAction) (s : Subscription) :
    standing (past ++ [.subscribe s]) = standing past ++ [s] := by
  induction past with
  | nil => rfl
  | cons a rest ih =>
      cases a with
      | subscribe t =>
          rw [List.cons_append, standing, standing, ih, List.any_append]
          simp only [List.any_cons, List.any_nil, withdraws, Bool.or_false]
          split <;> rfl
      | unsubscribe | emit | fail => exact ih

/-- Taking a subscription back takes all of them back that are the same, and no others. -/
theorem standing_unsubscribe (past : List BusAction) (s : Subscription) :
    standing (past ++ [.unsubscribe s]) = (standing past).filter (· != s) := by
  induction past with
  | nil => rfl
  | cons a rest ih =>
      cases a with
      | subscribe t =>
          rw [List.cons_append, standing, standing, ih, List.any_append]
          by_cases hrest : rest.any (withdraws t)
          · simp [hrest]
          · by_cases hst : s = t
            · simp [hrest, hst, withdraws]
            · simp [hrest, hst, Ne.symm hst, withdraws]
      | unsubscribe | emit | fail => exact ih

theorem standing_emit (past : List BusAction) (e : Event) :
    standing (past ++ [.emit e]) = standing past := by
  induction past with
  | nil => rfl
  | cons a rest ih =>
      cases a with
      | subscribe t =>
          rw [List.cons_append, standing, standing, ih, List.any_append]
          simp [withdraws]
      | unsubscribe | emit | fail => exact ih

theorem standing_fail (past : List BusAction) : standing (past ++ [.fail]) = standing past := by
  induction past with
  | nil => rfl
  | cons a rest ih =>
      cases a with
      | subscribe t =>
          rw [List.cons_append, standing, standing, ih, List.any_append]
          simp [withdraws]
      | unsubscribe | emit | fail => exact ih

end BusAction

open BusAction (standing untilFailure)

/-- The emission of an event: all the actions done before it, by whomever, and the calls made for
it. -/
structure Emission where
  past : List BusAction
  event : Event
  calls : List Happening

namespace Happening

/-- The action that this is. -/
def action? : Happening → Option BusAction
  | .subscribed s => some (.subscribe s)
  | .unsubscribed s => some (.unsubscribe s)
  | .emitted e _ | .dropped e => some (.emit e)
  | .failed => some .fail
  | .called .. => none

/-- The call that this is. -/
def call? : Happening → Option Delivery
  | .called call _ => some call
  | _ => none

mutual

/-- The actions done, in the order in which they began. -/
def actions : Happening → List BusAction
  | .subscribed s => [.subscribe s]
  | .unsubscribed s => [.unsubscribe s]
  | .emitted e calls => .emit e :: actionsAll calls
  | .called _ did => actionsAll did
  | .dropped e => [.emit e]
  | .failed => [.fail]

/-- The actions done in a sequence, in the order in which they began. -/
def actionsAll : List Happening → List BusAction
  | [] => []
  | h :: rest => actions h ++ actionsAll rest

end

mutual

/-- The emissions of events, when the actions `past` have been done before. -/
def emissions (past : List BusAction) : Happening → List Emission
  | .emitted e calls => ⟨past, e, calls⟩ :: emissionsAll (past ++ [.emit e]) calls
  | .called _ did => emissionsAll past did
  | _ => []

/-- The emissions of events in a sequence. -/
def emissionsAll (past : List BusAction) : List Happening → List Emission
  | [] => []
  | h :: rest => emissions past h ++ emissionsAll (past ++ h.actions) rest

end

mutual

/-- What was done at each call, with all the calls up to it, when the calls `before` have begun. -/
def turns (before : List Delivery) : Happening → List (List Delivery × List Happening)
  | .emitted _ calls => turnsAll before calls
  | .called call did => (before ++ [call], did) :: turnsAll (before ++ [call]) did
  | _ => []

/-- What was done at each call of a sequence, with all the calls up to it. -/
def turnsAll (before : List Delivery) : List Happening → List (List Delivery × List Happening)
  | [] => []
  | h :: rest => turns before h ++ turnsAll (before ++ h.deliveries) rest

end

mutual

/-- No event was emitted too deep inside others. -/
def Ends : Happening → Prop
  | .emitted _ calls => AllEnd calls
  | .called _ did => AllEnd did
  | .dropped _ => False
  | .subscribed _ | .unsubscribed _ | .failed => True

/-- No event of a sequence was emitted too deep inside others. -/
def AllEnd : List Happening → Prop
  | [] => True
  | h :: rest => Ends h ∧ AllEnd rest

end

mutual

/-- Of the events emitted meanwhile, those at a depth inside others were dropped, and no others. -/
def DropsAt (depth : Nat) : Happening → Prop
  | .emitted _ calls => 0 < depth ∧ AllDropAt (depth - 1) calls
  | .called _ did => AllDropAt depth did
  | .dropped _ => depth = 0
  | .subscribed _ | .unsubscribed _ | .failed => True

/-- Of the events emitted in a sequence, those at a depth inside others were dropped, and no
others. -/
def AllDropAt (depth : Nat) : List Happening → Prop
  | [] => True
  | h :: rest => DropsAt depth h ∧ AllDropAt depth rest

end

/-- The actions that were intended are done one after another: all up to the first failure, unless
an event was too deep inside others. -/
def CarriedOut (intended : List BusAction) (did : List Happening) : Prop :=
  did.map action? <+: (untilFailure intended).map some ∧
    ((∀ e, .dropped e ∉ did) → did.map action? = (untilFailure intended).map some)

theorem CarriedOut.cons {a : BusAction} {h : Happening} {intended : List BusAction}
    {did : List Happening} (hrest : CarriedOut intended did) (hfail : a ≠ .fail)
    (ha : h.action? = some a) : CarriedOut (a :: intended) (h :: did) := by
  have huntil : untilFailure (a :: intended) = a :: untilFailure intended := by
    cases a with
    | fail => exact absurd rfl hfail
    | subscribe | unsubscribe | emit => rfl
  rw [CarriedOut, huntil, List.map_cons, List.map_cons, ha]
  refine ⟨List.cons_prefix_cons.2 ⟨rfl, hrest.1⟩, fun hnone => ?_⟩
  rw [hrest.2 fun e he => hnone e (List.mem_cons_of_mem _ he)]

end Happening

/-- The event reached those whose subscriptions stood when it was emitted, once for each. -/
def Emission.ReachesStanding (m : Emission) : Prop :=
  m.calls.map Happening.call? =
    ((standing m.past).filter (m.event.GoesBy ·.topic)).map fun s => some ⟨s.handler, m.event⟩

namespace Bus

open Happening

variable {behaviour : List Delivery → List BusAction} {way way' : Emit} {past : List BusAction}
  {before : List Delivery} {b : Bus} {e : Event} {depth : Nat}

/-- What holds of a sequence that happened after the actions `past` and the calls `before`, and of
the bus after it. -/
structure Lawful (behaviour : List Delivery → List BusAction) (past : List BusAction)
    (before : List Delivery) (after : Bus × List Happening) : Prop where
  reaches : ∀ m ∈ emissionsAll past after.2, m.ReachesStanding
  obeys : ∀ t ∈ turnsAll before after.2, CarriedOut (behaviour t.1) t.2
  stands : after.1.subscriptions = standing (past ++ actionsAll after.2)

theorem Lawful.nil (h : b.subscriptions = standing past) :
    Lawful behaviour past before (b, []) where
  reaches _ hm := by cases hm
  obeys _ ht := by cases ht
  stands := by rw [h, actionsAll, List.append_nil]

theorem Lawful.cons {h : Happening} {later : Bus × List Happening}
    (hlater : Lawful behaviour (past ++ h.actions) (before ++ h.deliveries) later)
    (hreaches : ∀ m ∈ h.emissions past, m.ReachesStanding)
    (hobeys : ∀ t ∈ h.turns before, CarriedOut (behaviour t.1) t.2) :
    Lawful behaviour past before (later.1, h :: later.2) where
  reaches m hm := by
    rcases List.mem_append.1 hm with hm | hm
    · exact hreaches m hm
    · exact hlater.reaches m hm
  obeys t ht := by
    rcases List.mem_append.1 ht with ht | ht
    · exact hobeys t ht
    · exact hlater.obeys t ht
  stands := by rw [hlater.stands, actionsAll, List.append_assoc]

/-- Whenever it emits an event, the event reaches those it should, and what follows is lawful. -/
def Emit.Lawful (behaviour : List Delivery → List BusAction) (way : Emit) : Prop :=
  ∀ past before b e after, b.subscriptions = standing past → way before b e = some after →
    Emission.ReachesStanding ⟨past, e, after.2⟩ ∧
      Bus.Lawful behaviour (past ++ [.emit e]) before after

theorem lawful_carryOut (hway : way.Lawful behaviour) (intended : List BusAction) :
    ∀ (past : List BusAction) (before : List Delivery) {b : Bus},
      b.subscriptions = standing past →
        Lawful behaviour past before (carryOut way before b intended) ∧
          CarriedOut intended (carryOut way before b intended).2 := by
  induction intended with
  | nil => exact fun _ _ _ h => ⟨.nil h, List.nil_prefix, fun _ => rfl⟩
  | cons a rest ih =>
      intro past before b h
      cases a with
      | subscribe s =>
          have hafter : (b.subscribe s).subscriptions = standing (past ++ [.subscribe s]) := by
            rw [BusAction.standing_subscribe, ← h]
            rfl
          obtain ⟨hlater, hcarried⟩ := ih _ before hafter
          refine ⟨.cons (h := .subscribed s) ?_ nofun nofun, hcarried.cons nofun rfl⟩
          rwa [deliveries, List.append_nil]
      | unsubscribe s =>
          have hafter : (b.unsubscribe s).subscriptions = standing (past ++ [.unsubscribe s]) := by
            rw [BusAction.standing_unsubscribe, ← h]
            rfl
          obtain ⟨hlater, hcarried⟩ := ih _ before hafter
          refine ⟨.cons (h := .unsubscribed s) ?_ nofun nofun, hcarried.cons nofun rfl⟩
          rwa [deliveries, List.append_nil]
      | emit e =>
          rw [carryOut]
          cases hemitted : way before b e with
          | none =>
              refine ⟨.cons (h := .dropped e) (.nil ?_) nofun nofun, ?_, fun hnone => ?_⟩
              · rw [actions, BusAction.standing_emit, h]
              · exact List.cons_prefix_cons.2 ⟨rfl, List.nil_prefix⟩
              · exact absurd List.mem_cons_self (hnone e)
          | some after =>
              obtain ⟨hreaches, hafter⟩ := hway past before b e after h hemitted
              have hstands : after.1.subscriptions =
                  standing (past ++ (Happening.emitted e after.2).actions) := by
                rw [hafter.stands, actions, List.append_assoc, List.singleton_append]
              obtain ⟨hlater, hcarried⟩ := ih _ (before ++ deliveriesAll after.2) hstands
              refine ⟨.cons (h := .emitted e after.2) hlater ?_ hafter.obeys,
                hcarried.cons nofun rfl⟩
              exact List.forall_mem_cons.2 ⟨hreaches, hafter.reaches⟩
      | fail =>
          refine ⟨.cons (h := .failed) (.nil ?_) nofun nofun, List.prefix_rfl, fun _ => rfl⟩
          rw [actions, BusAction.standing_fail, h]

theorem lawful_callEach (hway : way.Lawful behaviour) (e : Event) (handlers : List String) :
    ∀ (past : List BusAction) (before : List Delivery) {b : Bus},
      b.subscriptions = standing past →
        (callEach behaviour way e before b handlers).2.map call? =
            handlers.map (fun handler => some ⟨handler, e⟩) ∧
          Lawful behaviour past before (callEach behaviour way e before b handlers) := by
  induction handlers with
  | nil => exact fun _ _ _ h => ⟨rfl, .nil h⟩
  | cons handler rest ih =>
      intro past before b h
      obtain ⟨hdid, hcarried⟩ := lawful_carryOut hway (behaviour (before ++ [⟨handler, e⟩]))
        past (before ++ [⟨handler, e⟩]) h
      obtain ⟨hcalls, hlater⟩ := ih _ (before ++ [⟨handler, e⟩] ++ deliveriesAll _) hdid.stands
      refine ⟨congrArg (some (⟨handler, e⟩ : Delivery) :: ·) hcalls, ?_⟩
      refine .cons (h := .called ⟨handler, e⟩ _) ?_ hdid.reaches ?_
      · simpa only [deliveries, actions, List.append_assoc, List.singleton_append] using hlater
      · exact List.forall_mem_cons.2 ⟨hcarried, hdid.obeys⟩

/-- The recipients are looked up before the first of them is called. -/
theorem lawful_emit (behaviour : List Delivery → List BusAction) (depth : Nat) :
    (emit behaviour depth).Lawful behaviour := by
  induction depth with
  | zero => exact fun _ _ _ _ _ _ h => by cases h
  | succ depth ih =>
      intro past before b e after h hemitted
      obtain rfl := Option.some.inj hemitted
      have hstands : b.subscriptions = standing (past ++ [.emit e]) := by
        rw [BusAction.standing_emit, h]
      obtain ⟨hcalls, hafter⟩ := lawful_callEach ih e (b.recipients e) _ before hstands
      refine ⟨?_, hafter⟩
      rw [Emission.ReachesStanding, hcalls, recipients, List.map_map, h]
      congr 1
      refine List.filter_congr fun s _ => ?_
      rw [Bool.eq_iff_iff, Event.contains_topics_iff, decide_eq_true_iff]

/-! ## Depth -/

/-- What one way of emitting comes to without dropping anything, another one comes to as well. -/
def Emit.Extends (way way' : Emit) : Prop :=
  ∀ before b e after, way before b e = some after → AllEnd after.2 →
    way' before b e = some after

theorem carryOut_extends (hextends : way.Extends way') (intended : List BusAction) :
    ∀ {before : List Delivery} {b : Bus}, AllEnd (carryOut way before b intended).2 →
      carryOut way' before b intended = carryOut way before b intended := by
  induction intended with
  | nil => exact fun _ => rfl
  | cons a rest ih =>
      intro before b hends
      cases a with
      | subscribe | unsubscribe =>
          rw [carryOut] at hends
          rw [carryOut, carryOut, ih hends.2]
      | emit e =>
          rw [carryOut] at hends ⊢
          rw [carryOut]
          cases hemitted : way before b e with
          | none =>
              rw [hemitted] at hends
              exact hends.1.elim
          | some after =>
              rw [hemitted] at hends
              rw [hextends before b e after hemitted hends.1]
              dsimp only
              rw [ih hends.2]
      | fail => rfl

theorem callEach_extends (hextends : way.Extends way') (e : Event) (handlers : List String) :
    ∀ {before : List Delivery} {b : Bus}, AllEnd (callEach behaviour way e before b handlers).2 →
      callEach behaviour way' e before b handlers = callEach behaviour way e before b handlers := by
  induction handlers with
  | nil => exact fun _ => rfl
  | cons handler rest ih =>
      intro before b hends
      rw [callEach] at hends
      rw [callEach, callEach, carryOut_extends hextends _ hends.1]
      dsimp only
      rw [ih hends.2]

theorem emit_extends (behaviour : List Delivery → List BusAction) (depth : Nat) :
    (emit behaviour depth).Extends (emit behaviour (depth + 1)) := by
  induction depth with
  | zero => exact fun _ _ _ _ h => by cases h
  | succ depth ih =>
      intro before b e after hemitted hends
      obtain rfl := Option.some.inj hemitted
      exact congrArg some (callEach_extends ih e _ hends)

/-- Nothing is emitted at this depth, and anything is at a smaller one. -/
def Emit.DropsAt (depth : Nat) (way : Emit) : Prop :=
  ∀ before b e, match way before b e with
    | none => depth = 0
    | some after => 0 < depth ∧ AllDropAt (depth - 1) after.2

theorem allDropAt_carryOut (hway : way.DropsAt depth) (intended : List BusAction) :
    ∀ {before : List Delivery} {b : Bus}, AllDropAt depth (carryOut way before b intended).2 := by
  induction intended with
  | nil => exact trivial
  | cons a rest ih =>
      intro before b
      cases a with
      | subscribe | unsubscribe => exact ⟨trivial, ih⟩
      | emit e =>
          have hemit := hway before b e
          rw [carryOut]
          cases hemitted : way before b e with
          | none =>
              rw [hemitted] at hemit
              exact ⟨hemit, trivial⟩
          | some after =>
              rw [hemitted] at hemit
              exact ⟨hemit, ih⟩
      | fail => exact ⟨trivial, trivial⟩

theorem allDropAt_callEach (hway : way.DropsAt depth) (e : Event) (handlers : List String) :
    ∀ {before : List Delivery} {b : Bus},
      AllDropAt depth (callEach behaviour way e before b handlers).2 := by
  induction handlers with
  | nil => exact trivial
  | cons handler rest ih => exact ⟨allDropAt_carryOut hway _, ih⟩

theorem emit_dropsAt (behaviour : List Delivery → List BusAction) (depth : Nat) :
    (emit behaviour depth).DropsAt depth := by
  induction depth with
  | zero => exact fun _ _ _ => rfl
  | succ depth ih => exact fun _ _ e => ⟨Nat.succ_pos depth, allDropAt_callEach ih e _⟩

/-- Where no event was too deep inside others, a greater depth changes nothing. -/
theorem run_of_le {depth deeper : Nat} {actions : List BusAction}
    (hends : AllEnd (b.run behaviour depth actions).2) (hle : depth ≤ deeper) :
    b.run behaviour deeper actions = b.run behaviour depth actions := by
  induction deeper, hle using Nat.le_induction with
  | base => rfl
  | succ deeper _ ih =>
      rw [← ih] at hends ⊢
      exact carryOut_extends (emit_extends behaviour deeper) actions hends

/-- Whatever handlers do when they are called, each event reaches those whose subscriptions stood
when it was emitted, once for each of these and in their order. No emission keeps anyone from going
on; only a failure of one's own does. An event is dropped where it is as many levels deep inside
others as the depth says, and nowhere else. -/
theorem run_reaches_standing (behaviour : List Delivery → List BusAction) (depth : Nat)
    (actions : List BusAction) :
    let (b, happened) := ({} : Bus).run behaviour depth actions
    (∀ m ∈ emissionsAll [] happened, m.calls.map call? =
      ((standing m.past).filter (m.event.GoesBy ·.topic)).map fun s => some ⟨s.handler, m.event⟩) ∧
    b.subscriptions = standing (actionsAll happened) ∧
    (∀ past s, standing (past ++ [.unsubscribe s]) = (standing past).filter (· != s)) ∧
    CarriedOut actions happened ∧
    (∀ t ∈ turnsAll [] happened, CarriedOut (behaviour t.1) t.2) ∧
    AllDropAt depth happened ∧
    (AllEnd happened → ∀ deeper, depth ≤ deeper →
      ({} : Bus).run behaviour deeper actions = (b, happened)) := by
  obtain ⟨hlawful, hcarried⟩ := lawful_carryOut (lawful_emit behaviour depth) actions
    [] [] (b := {}) rfl
  exact ⟨hlawful.reaches, hlawful.stands, BusAction.standing_unsubscribe, hcarried, hlawful.obeys,
    allDropAt_carryOut (emit_dropsAt behaviour depth) actions, fun hends _ => run_of_le hends⟩

end Bus

end Continuity
