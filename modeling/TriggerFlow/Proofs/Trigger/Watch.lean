import TriggerFlow.Proofs.Trigger.Glance
import TriggerFlow.Proofs.World
import TriggerFlow.Proofs.Act
import TriggerFlow.Trigger.Launching

/-!
# A workflow under watch

A workflow is watched over any number of ticks. Each tick may come from a launcher of its own, at any time and in any
context, and any of its launches may fail. Between two ticks anything may happen to the store that leaves the memory of
triggers as it is: the workflow itself may be edited, others may come and go, and what has been kept may be taken up by
another process. All that is asked is that each tick finds the workflow enabled and valid among others that are valid.
-/

/-!
## What a launcher is asked for

Whether a workflow is launched is up to the launcher; whether a launch is asked for is up to its trigger. A launcher that
writes down what it is asked for tells the two apart. It writes a request down before it tries to meet it, so that a
launch that fails has been asked for all the same, and otherwise does what it would have done.
-/

namespace TriggerFlow

/-- A launch that is asked for. -/
structure Asking where
  workflow : Workflow
  kind : TriggerKind
  payload : Members
  deriving DecidableEq, Repr

namespace Launcher

variable {S α : Type} (l : Launcher S)

/-- A computation beside the requests that have been written down. -/
def beside (x : Act S α) : Act (S × List Asking) α := x.onPart Prod.fst fun a noted => (a, noted.2)

/-- The launcher, writing down what it is asked for. -/
def noting : Launcher (S × List Asking) where
  inStore x := beside (l.inStore x)
  launch w kind payload := do
    Act.modify fun noted => (noted.1, noted.2 ++ [⟨w, kind, payload⟩])
    beside (l.launch w kind payload)

/-- What a launch for a request comes to, in a state. -/
def met (asking : Asking) (a : S) : Except Failure Execution × S :=
  l.launch asking.workflow asking.kind asking.payload a

/-- Launches for requests, one after the other: those that succeed, and the state that all of them leave behind. -/
def meet : List Asking → S → List Execution × S
  | [], a => ([], a)
  | asking :: rest, a =>
    let (others, after) := meet rest (l.met asking a).2
    ((l.met asking a).1.toOption.toList ++ others, after)

/-- Requests without a payload. -/
def plainly (p : Workflow × TriggerKind) : Asking := ⟨p.1, p.2, []⟩

theorem launchEach_eq (firing : List (Workflow × TriggerKind)) (a : S) :
    l.launchEach firing a = (.ok (l.meet (firing.map plainly) a).1, (l.meet (firing.map plainly) a).2) := by
  induction firing generalizing a with
  | nil => rfl
  | cons p rest ih => exact (Act.bind_run_ok rfl _).trans (Act.bind_run_ok (ih _) _)

/-- Requests to launch a workflow with the payload of an event. -/
def heard (payload : Members) (p : Workflow × Trigger) : Asking := ⟨p.1, .event, payload⟩

theorem deliverEach_eq {payload : Members} {passes : Workflow × Trigger → Bool} {found : List (Workflow × Trigger)}
    (answers : ∀ p ∈ found, p.2.accepts payload = .ok (passes p)) (a : S) :
    l.deliverEach payload found a = (.ok (l.meet ((found.filter passes).map (heard payload)) a).1,
      (l.meet ((found.filter passes).map (heard payload)) a).2) := by
  induction found generalizing a with
  | nil => rfl
  | cons p rest ih =>
    have others := ih fun p mem => answers p (List.mem_cons_of_mem _ mem)
    have here := answers p (List.mem_cons_self ..)
    rw [deliverEach, here]
    cases passing : passes p with
    | false =>
      rw [List.filter_cons_of_neg (by simp [passing])]
      exact (Act.bind_run_ok rfl _).trans ((Act.bind_run_ok rfl _).trans (Act.bind_run_ok (others a) _))
    | true =>
      rw [List.filter_cons_of_pos passing]
      exact (Act.bind_run_ok rfl _).trans ((Act.bind_run_ok rfl _).trans (Act.bind_run_ok (others _) _))

/-- Writing requests down does not change what comes of them. -/
theorem meet_noting (askings : List Asking) (a : S) (noted : List Asking) :
    l.noting.meet askings (a, noted) = ((l.meet askings a).1, (l.meet askings a).2, noted ++ askings) := by
  induction askings generalizing a noted with
  | nil => simp [meet]
  | cons asking rest ih =>
    have here : l.noting.met asking (a, noted) = ((l.met asking a).1, (l.met asking a).2, noted ++ [asking]) := rfl
    simp only [meet, here, ih, List.append_assoc, List.singleton_append]

/-- What is asked for in the course of a computation that writes requests down. -/
def asked (x : Act (S × List Asking) α) (a : S) : List Asking := (x (a, [])).2.2

variable {l}

/-- A tick whose look has an answer asks for what fires, and gives what comes of it. -/
theorem tick_of_due {now : Instant} {context : Members} {firing : List (Workflow × TriggerKind)} {a b : S}
    (looked : l.inStore (due now context) a = (.ok firing, b)) :
    l.tick now context a = (.ok (l.meet (firing.map plainly) b).1, (l.meet (firing.map plainly) b).2) ∧
      asked (l.noting.tick now context) a = firing.map plainly := by
  refine ⟨(Act.bind_run_ok looked _).trans (l.launchEach_eq firing b), ?_⟩
  have noted : l.noting.inStore (due now context) (a, []) = (.ok firing, (b, [])) := by
    change ((l.inStore (due now context) a).1, ((l.inStore (due now context) a).2, [])) = _
    rw [looked]
  have ran : l.noting.tick now context (a, []) = _ :=
    (Act.bind_run_ok noted _).trans (l.noting.launchEach_eq firing (b, []))
  rw [asked, ran, meet_noting]
  exact List.nil_append _

/-- A delivery to triggers that answer asks for the launches of those that let the payload pass. -/
theorem deliver_of_listening {event : String} {payload : Members} {passes : Workflow × Trigger → Bool}
    {found : List (Workflow × Trigger)} {a b : S} (looked : l.inStore listening a = (.ok found, b))
    (answers : ∀ p ∈ found, p.2.listens event = true → p.2.accepts payload = .ok (passes p)) :
    let askings := ((found.filter fun p => p.2.listens event && passes p)).map (heard payload)
    l.deliver event payload a = (.ok (l.meet askings b).1, (l.meet askings b).2) ∧
      asked (l.noting.deliver event payload) a = askings := by
  intro askings
  have same : (found.filter fun p => p.2.listens event).filter passes =
      found.filter fun p => p.2.listens event && passes p := by
    rw [List.filter_filter]
    exact List.filter_congr fun p _ => Bool.and_comm ..
  have answers' : ∀ p ∈ found.filter fun p => p.2.listens event, p.2.accepts payload = .ok (passes p) := by
    intro p mem
    obtain ⟨mem, listens⟩ := List.mem_filter.mp mem
    exact answers p mem listens
  have whole : l.deliver event payload a = (.ok (l.meet askings b).1, (l.meet askings b).2) := by
    refine (Act.bind_run_ok looked _).trans ((l.deliverEach_eq answers' b).trans ?_)
    rw [same]
  refine ⟨whole, ?_⟩
  have noted : l.noting.inStore listening (a, []) = (.ok found, (b, [])) := by
    change ((l.inStore listening a).1, ((l.inStore listening a).2, [])) = _
    rw [looked]
  have ran : l.noting.deliver event payload (a, []) = _ :=
    (Act.bind_run_ok noted _).trans (l.noting.deliverEach_eq answers' (b, []))
  rw [asked, ran, meet_noting, same]
  exact List.nil_append _

end Launcher

end TriggerFlow

/-! ## Ticks of a workflow that is watched -/

namespace TriggerFlow

namespace Launcher

variable {S : Type}

/-- A launcher whose states hold a store, in which its launches leave the memory of triggers alone. -/
structure Over (l : Launcher S) (held : S → Store) : Prop where
  answer : ∀ {α : Type} (x : Act Store α) (a : S), (l.inStore x a).1 = (x (held a)).1
  state : ∀ {α : Type} (x : Act Store α) (a : S), held (l.inStore x a).2 = (x (held a)).2
  launch : ∀ (asking : Asking) (a : S), (held (l.met asking a).2).memories = (held a).memories

variable {l : Launcher S} {held : S → Store}

theorem Over.inStore_eq (upon : l.Over held) {α : Type} {x : Act Store α} {a : S} {r : Except Failure α} {s : Store}
    (run : x (held a) = (r, s)) : ∃ b, l.inStore x a = (r, b) ∧ held b = s :=
  ⟨(l.inStore x a).2, Prod.ext ((upon.answer x a).trans (congrArg Prod.fst run)) rfl,
    (upon.state x a).trans (congrArg Prod.snd run)⟩

/-- Launches leave the memory of triggers alone, however many there are and whatever they come to. -/
theorem Over.memories_meet (upon : l.Over held) (askings : List Asking) (a : S) :
    (held (l.meet askings a).2).memories = (held a).memories := by
  induction askings generalizing a with
  | nil => rfl
  | cons asking rest ih => exact (ih _).trans (upon.launch asking a)

/-- The kinds of the launches of one workflow among those that are asked for. -/
def kindsOf (id : String) (askings : List Asking) : List TriggerKind :=
  askings.filterMap fun asking => if asking.workflow.id = id then some asking.kind else none

/-- Of workflows with different identifiers one is asked for at most once. -/
theorem kindsOf_filter {found : List (Workflow × Trigger)} (distinct : (found.map fun p => p.1.id).Nodup)
    {p : Workflow × Trigger} (mem : p ∈ found) (fires : Workflow × Trigger → Bool) :
    kindsOf p.1.id (((found.filter fires).map fun q => (q.1, q.2.kind)).map plainly) =
      if fires p then [p.2.kind] else [] := by
  have kinds (found : List (Workflow × Trigger)) :
      kindsOf p.1.id (((found.filter fires).map fun q => (q.1, q.2.kind)).map plainly) =
        (found.filter fires).filterMap fun q => if q.1.id = p.1.id then some q.2.kind else none := by
    rw [kindsOf, List.filterMap_map, List.filterMap_map]
    rfl
  rw [kinds]
  induction found with
  | nil => cases mem
  | cons q rest ih =>
    obtain ⟨new, distinct⟩ := List.nodup_cons.mp distinct
    rcases List.mem_cons.mp mem with rfl | mem
    · have none : (rest.filter fires).filterMap (fun q => if q.1.id = p.1.id then some q.2.kind else none) = [] := by
        rw [List.filterMap_eq_nil_iff]
        intro q mem
        have other : q.1.id ≠ p.1.id := fun same => new (List.mem_map.mpr ⟨q, List.mem_of_mem_filter mem, same⟩)
        rw [if_neg other]
      rw [List.filter_cons]
      split
      · simp [none]
      · exact none
    · have other : q.1.id ≠ p.1.id := fun same => new (List.mem_map.mpr ⟨p, mem, same.symm⟩)
      rw [List.filter_cons]
      split
      · simpa [other] using ih distinct mem
      · exact ih distinct mem

end Launcher

open Launcher

/-- What a tick shows of a workflow: the workflow and its trigger as they are, when the tick comes and in what context,
and the launches of the workflow that it asks for. -/
structure Sight where
  workflow : Workflow
  trigger : Trigger
  now : Instant
  context : Members
  asked : List TriggerKind

/-- The workflow with an identifier is watched from a store on, up to another one. -/
inductive Watch (id : String) (outset : Store) : List Sight → Store → Prop
  | outset : Watch id outset [] outset
  | meanwhile {sights : List Sight} {s s' : Store} (watch : Watch id outset sights s)
      (memories : s'.memories = s.memories) : Watch id outset sights s'
  | tick {sights : List Sight} {S : Type} {l : Launcher S} {held : S → Store} (upon : l.Over held) {a : S}
      (watch : Watch id outset sights (held a)) {ws : List Workflow} (lists : Lists (held a) ws)
      {p : Workflow × Trigger} (listens : p ∈ listeners ws) (named : p.1.id = id) {now : Instant} (shown : now.Shown)
      (context : Members) :
      Watch id outset
        (sights ++ [⟨p.1, p.2, now, context, kindsOf id (asked (l.noting.tick now context) a)⟩])
        (held (l.tick now context a).2)

namespace Sight

/-- The look at the workflow at the tick, over what is remembered of it. -/
def look (sight : Sight) (remembered : TriggerMemory) : Trigger.Look :=
  sight.trigger.glance sight.now.startOfMinute sight.context sight.workflow.vars remembered

/-- How a tick leads from what is remembered to what is asked for and remembered next. -/
structure Follows (sight : Sight) (before after : TriggerMemory) : Prop where
  asked : sight.asked = if (sight.look before).fires then [sight.trigger.kind] else []
  condition : after.lastCondition = (sight.look before).memory.lastCondition
  minute : sight.now.InMinutes → (sight.look before).memory.same after = true

end Sight

/-- What stands at a place of a list with a new last item stands in the old list, or is that item. -/
theorem split_of_snoc {α : Type} {items before after : List α} {last item : α}
    (split : items ++ [last] = before ++ item :: after) :
    before = items ∧ item = last ∧ after = [] ∨ ∃ front, items = before ++ item :: front := by
  rcases List.eq_nil_or_concat after with rfl | ⟨front, x, rfl⟩
  · obtain ⟨same, here⟩ := List.append_inj' split rfl
    exact .inl ⟨same.symm, (List.cons.inj here).1.symm, rfl⟩
  · have ends : items ++ [last] = (before ++ item :: front) ++ [x] := by simpa using split
    exact .inr ⟨front, (List.append_inj' ends rfl).1⟩

namespace Watch

variable {id : String} {outset s : Store} {sights : List Sight}

/-- A tick follows from what is remembered of the workflow, whatever else there is and whatever comes of the launches. -/
theorem step {S : Type} {l : Launcher S} {held : S → Store} (upon : l.Over held) {a : S}
    (nodup : (held a).memories.keys.Nodup) {ws : List Workflow} (lists : Lists (held a) ws) {p : Workflow × Trigger}
    (listens : p ∈ listeners ws) (named : p.1.id = id) {now : Instant} (shown : now.Shown) (context : Members) :
    (held (l.tick now context a).2).memories.keys.Nodup ∧
      Sight.Follows ⟨p.1, p.2, now, context, kindsOf id (asked (l.noting.tick now context) a)⟩
        ((held a).remembers id) ((held (l.tick now context a).2).remembers id) := by
  subst named
  have ticked := due_ticked lists nodup shown context
  rcases run : due now context (held a) with ⟨_ | requests, s'⟩
  · exact (ticked.of_error run).elim
  · have ticked := ticked.of_ok run
    obtain ⟨b, looked, same⟩ := upon.inStore_eq run
    obtain ⟨whole, asked⟩ := tick_of_due looked
    have memories : (held (l.tick now context a).2).memories = s'.memories := by
      rw [whole, ← same]
      exact upon.memories_meet _ b
    have remembers : (held (l.tick now context a).2).remembers p.1.id = s'.remembers p.1.id := by
      rw [Store.remembers, memories]
      rfl
    rw [memories, remembers]
    refine ⟨ticked.nodup, ?_, ticked.condition p listens, fun minutes => ticked.minute minutes p listens⟩
    dsimp only
    rw [asked, ticked.requests]
    exact kindsOf_filter lists.apart listens _

/-- Whatever is remembered of a workflow that is watched has come about tick by tick. -/
theorem follows_induction (watch : Watch id outset sights s) (mapped : outset.memories.keys.Nodup)
    {P : List Sight → TriggerMemory → Prop} (start : P [] (outset.remembers id))
    (next : ∀ sights sight before after, P sights before → sight.Follows before after → P (sights ++ [sight]) after) :
    P sights (s.remembers id) := by
  have whole : s.memories.keys.Nodup ∧ P sights (s.remembers id) := by
    induction watch with
    | outset => exact ⟨mapped, start⟩
    | meanwhile _ memories ih =>
      rw [Store.remembers, memories]
      exact ih
    | tick upon _ lists listens named shown context ih =>
      obtain ⟨nodup, follows⟩ := step upon ih.1 lists listens named shown context
      exact ⟨nodup, next _ _ _ _ ih.2 follows⟩
  exact whole.2

end Watch

end TriggerFlow

/-! A small watch to try things in: a workflow of a trigger and an end, and launches that all fail. -/

namespace TriggerFlow.Trial

open Launcher

def quick (t : Trigger) : Graph :=
  ⟨[⟨"begin", "", none, .trigger t⟩, ⟨"end", "", none, .finish⟩], [⟨"out", "begin", "end", none⟩], 1⟩

def watched (t : Trigger) : Workflow :=
  ⟨"watched", "Watched", "", "", none, true, 1, (quick t).nodes, (quick t).edges, [], 0, 0, none, nine, nine⟩

def watchedFrom (t : Trigger) : Store := ⟨nine, 0, [], .memory ⟨[("watched", watched t)], [], []⟩⟩

def refusing : Launcher Store := ⟨fun x => x, fun w _ _ => Act.fail (.workflowMissing w.id)⟩

theorem refusing_over : refusing.Over fun s => s := ⟨fun _ _ => rfl, fun _ _ => rfl, fun _ _ => rfl⟩

/-- A tick of a store that lists the workflow. -/
theorem watched_tick {t : Trigger} (sound : (quick t).defects = .ok []) {sights : List Sight} {s : Store}
    (watch : Watch "watched" (watchedFrom t) sights s) (listed : (Store.workflows s).1 = .ok [watched t])
    {now : Instant} (shown : now.Shown) (context : Members) : ∃ asked,
      Watch "watched" (watchedFrom t) (sights ++ [⟨watched t, t, now, context, asked⟩])
        (refusing.tick now context s).2 := by
  have lists : Lists s [watched t] := ⟨listed, by simp, fun w mem _ => by rw [List.mem_singleton.mp mem]; exact sound⟩
  have listens : (watched t, t) ∈ listeners [watched t] := List.mem_singleton_self _
  exact ⟨_, .tick refusing_over watch lists listens rfl shown context⟩

theorem nine_shown : nine.Shown := ⟨by decide +kernel, by decide⟩

end TriggerFlow.Trial

/-!
## Conditions fire on the edge

A conditional workflow is asked for at a tick if and only if its condition holds there and did not hold when it could
last be evaluated. That is so over any number of ticks, whatever else fires at them and whatever comes of the launches:
an edge that has been asked for once is not asked for again until the condition has been false in between.
-/

namespace TriggerFlow

/-- The value of the condition of a trigger in a context; nothing if it cannot be evaluated. -/
def Trigger.condition (t : Trigger) (vars context : Members) : Option Bool :=
  t.expression?.bind fun text => outcome text (Ordered.overlay vars context)

/-- The last value among those of a condition that could be evaluated. -/
def lastKnown (values : List (Option Bool)) : Option Bool := (values.filterMap id).getLast?

theorem lastKnown_snoc (values : List (Option Bool)) (value : Option Bool) :
    lastKnown (values ++ [value]) = value.or (lastKnown values) := by
  cases value <;> simp [lastKnown, List.filterMap_append]

/-- A look at a condition: it fires on the edge, and remembers the value if there is one. -/
theorem Sight.look_condition {sight : Sight} (kind : sight.trigger.kind = .conditional) (remembered : TriggerMemory) :
    ((sight.look remembered).fires = true ↔
      sight.trigger.condition sight.workflow.vars sight.context = some true ∧ remembered.lastCondition = false) ∧
    (sight.look remembered).memory.lastCondition =
      (sight.trigger.condition sight.workflow.vars sight.context).getD remembered.lastCondition := by
  have look : sight.look remembered = Trigger.lookAtValue remembered
      (sight.trigger.condition sight.workflow.vars sight.context) := by
    rw [look, Trigger.glance, kind]
    rfl
  rw [look]
  cases sight.trigger.condition sight.workflow.vars sight.context <;> simp [Trigger.lookAtValue]

namespace Watch

variable {id : String} {outset s : Store} {sights : List Sight} {t : Trigger} {vars : Members}

/-- At which tick a condition is asked for, by its values at this tick and at the ones before. -/
def OnEdge (t : Trigger) (vars : Members) (before : List Sight) (sight : Sight) : Prop :=
  t.condition vars sight.context = some true ∧
    lastKnown (before.map fun earlier => t.condition vars earlier.context) ≠ some true

/-- **Conditions fire on the edge.** While a conditional workflow keeps its trigger and its variables, a tick asks for
one launch of it if its condition holds and did not hold when it could last be evaluated, and for none otherwise. -/
theorem rises (watch : Watch id outset sights s) (mapped : outset.memories.keys.Nodup)
    (fresh : (outset.remembers id).lastCondition = false) (kind : t.kind = .conditional)
    (unedited : ∀ sight ∈ sights, sight.trigger = t ∧ sight.workflow.vars = vars) :
    ∀ before sight after, sights = before ++ sight :: after →
      (OnEdge t vars before sight → sight.asked = [.conditional]) ∧
        (¬ OnEdge t vars before sight → sight.asked = []) := by
  -- What is remembered is the last known value; without one the condition counts as false.
  refine (watch.follows_induction mapped (P := fun sights remembered =>
    (∀ sight ∈ sights, sight.trigger = t ∧ sight.workflow.vars = vars) →
      remembered.lastCondition = (lastKnown (sights.map fun sight => t.condition vars sight.context)).getD false ∧
        ∀ before sight after, sights = before ++ sight :: after →
          (OnEdge t vars before sight → sight.asked = [.conditional]) ∧
            (¬ OnEdge t vars before sight → sight.asked = [])) ?_ ?_ unedited).2
  · exact fun _ => ⟨fresh, fun before sight after none => by simp at none⟩
  · intro sights sight before after ih follows unedited
    obtain ⟨known, earlier⟩ := ih fun sight mem => unedited sight (List.mem_append_left _ mem)
    obtain ⟨rfl, rfl⟩ := unedited sight (by simp)
    obtain ⟨fires, remembers⟩ := sight.look_condition kind before
    have onEdge : (sight.look before).fires = true ↔ OnEdge sight.trigger sight.workflow.vars sights sight := by
      rw [fires, known, OnEdge]
      cases lastKnown _ <;> simp
    constructor
    · rw [follows.condition, remembers, known, List.map_append, List.map_singleton, lastKnown_snoc]
      cases sight.trigger.condition sight.workflow.vars sight.context <;> rfl
    · intro front here back split
      rcases split_of_snoc split with ⟨rfl, rfl, -⟩ | ⟨rest, split⟩
      · rw [follows.asked, kind, ← onEdge]
        exact ⟨fun fires => if_pos fires, fun quiet => if_neg quiet⟩
      · exact earlier _ _ _ split

end Watch

end TriggerFlow

namespace TriggerFlow.Trial

open Launcher

/-- A condition that asks for one thing to be there. -/
def dark : Trigger := ⟨.conditional, [("expression", .text "dark")]⟩

theorem dark_sound : (quick dark).defects = .ok [] :=
  Graph.defects_of_sorted (by decide +kernel) (by decide +kernel) (by decide +kernel)

/-- It is asked for when it gets dark, and not again while it stays so, though the launch fails. -/
theorem dark_rises : ∃ s first second, Watch "watched" (watchedFrom dark)
    [⟨watched dark, dark, nine, [("dark", .bool true)], first⟩,
      ⟨watched dark, dark, nine, [("dark", .bool true)], second⟩] s ∧
    first = [.conditional] ∧ second = [] := by
  obtain ⟨first, watch⟩ := watched_tick dark_sound .outset rfl nine_shown [("dark", .bool true)]
  obtain ⟨second, watch⟩ := watched_tick dark_sound watch (by decide +kernel) nine_shown [("dark", .bool true)]
  have unedited : ∀ sight ∈ [(⟨watched dark, dark, nine, [("dark", .bool true)], first⟩ : Sight),
      ⟨watched dark, dark, nine, [("dark", .bool true)], second⟩], sight.trigger = dark ∧ sight.workflow.vars = [] := by
    simp [watched]
  have rises := watch.rises List.nodup_nil rfl rfl unedited
  have holds : dark.condition [] [("dark", .bool true)] = some true := by decide +kernel
  have known : lastKnown [dark.condition [] [("dark", .bool true)]] = some true := by rw [holds]; rfl
  exact ⟨_, first, second, watch, (rises [] _ [_] rfl).1 ⟨holds, by decide⟩,
    (rises [_] _ [] rfl).2 fun edge => edge.2 known⟩

end TriggerFlow.Trial
