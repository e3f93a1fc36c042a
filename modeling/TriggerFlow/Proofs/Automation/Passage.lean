import TriggerFlow.Proofs.Automation.Audit
import TriggerFlow.Proofs.Run.Outings

/-!
# The variables of the runs of a session

A run begins with the variables of its workflow, overlaid by the payload that it was launched with. From then on, as
long as no record is lost, its variables accrue: they are overlaid by the outputs of its actions, one after the
other, on whatever drives and in whatever context the run is looked at in between. Every action that goes out is
handed these variables, and its settings are filled in from them.
-/

namespace TriggerFlow

/-- How the copy of an errand is taken up. -/
def Errand.entry : Errand → Run.Entry
  | .start _ => .start
  | .resume _ time context => .resume time context

namespace Automation

open Run (Meanwhile Outing Overlaid Accrues visitsOn visitsOn_snoc outputs merged callsOf callOf Hands)

variable {δ : Type} {setup : Setup δ} {origin : Origin} {a b c : Automation δ} {past : List (Automation δ)}
  {id : String} {outings : List (Outing (World δ))}

theorem drive_eq (setup : Setup δ) (errand : Errand) :
    drive setup errand = errand.entry.enter (surroundings setup) setup.limits errand.record := by
  cases errand <;> rfl

/-- What an errand visits when it is carried out, and the desk after it. -/
def outing (setup : Setup δ) (errand : Errand) (d : Run.Desk (World δ)) : Outing (World δ) :=
  ⟨errand.entry.visited (surroundings setup) setup.limits d errand.record, (drive setup errand d).2⟩

/-- The moves that lead from one state of the system to another, with the drives of one run among them. -/
inductive Passage (setup : Setup δ) (id : String) :
    Automation δ → List (Outing (World δ)) → Automation δ → Prop where
  | here (a : Automation δ) : Passage setup id a [] a
  | aside {a b c : Automation δ} {outings : List (Outing (World δ))} (passage : Passage setup id a outings b)
    (move : Move setup (.plain fun e => e.graph.Valid) b c)
    (others : ∀ errand rest, b.queue = errand :: rest → c = ⟨(drive setup errand b.desk).2, rest⟩ →
      errand.runId ≠ id) :
    Passage setup id a outings c
  | driven {a b : Automation δ} {outings : List (Outing (World δ))} {errand : Errand} {rest : List Errand}
    (passage : Passage setup id a outings b) (queue : b.queue = errand :: rest) (own : errand.runId = id) :
    Passage setup id a (outings ++ [outing setup errand b.desk]) ⟨(drive setup errand b.desk).2, rest⟩

/-- What a move does with a run: it carries out an errand for it, or launches it, or leaves it alone but for
cancelling it. -/
inductive Fate (setup : Setup δ) (origin : Origin) (id : String) (a b : Automation δ) : Prop where
  | driven {errand : Errand} {rest : List Errand} (queue : a.queue = errand :: rest) (own : errand.runId = id)
    (after : b = ⟨(drive setup errand a.desk).2, rest⟩)
  | begun {w : Workflow} {kind : TriggerKind} {payload : Members} (new : a.store.runs.get? id = none)
    (launches : origin.launches w kind payload)
    (stored : ∃ fresh, b.store.runs.get? id = some (.launched fresh w kind payload)) (unsent : b.calls id = [])
  | beside (meanwhile : Meanwhile (a.store.runs.get? id) (b.store.runs.get? id)) (calls : b.calls id = a.calls id)

theorem Move.fate (move : Move setup origin a b) (orderly : Orderly a) (id : String) : Fate setup origin id a b := by
  cases move with
  | @edited s edits =>
    have runs : (a.withStore s).store.runs.get? id = a.store.runs.get? id := by rw [← edits.runs]; rfl
    exact .beside (runs ▸ .same _) rfl
  | @launched s w kind payload new reruns drawn =>
    have runs := congrFun (Ordered.get?_set a.store.runs a.store.fresh.id (.launched a.store.fresh w kind payload)) id
    rw [← reruns.runs] at runs
    change (a.withStore s).store.runs.get? id = _ at runs
    by_cases fresh : id = a.store.fresh.id
    · subst fresh
      have undrawn := a.store.not_drawn_fresh
      rw [Function.update_self] at runs
      exact .begun (by_contra fun present => undrawn (orderly.runs _ present)) new.2 ⟨_, runs⟩
        (orderly.calls_of_not_drawn undrawn)
    · rw [Function.update_of_ne fresh] at runs
      exact .beside (runs ▸ .same _) rfl
  | queued => exact .beside (.same _) rfl
  | @carried errand rest queue =>
    by_cases own : errand.runId = id
    · exact .driven queue own rfl
    · have around := (orderly.drive_first setup queue).around
      exact .beside (around.others id (Ne.symm own)) (around.calls_of_ne (Ne.symm own))
  | asked other =>
    have asked := (Run.requestCancel_spec (k := ledger setup) orderly.kept other).state
    refine .beside (meanwhile_of_asked asked id) ?_
    exact congrArg (List.filter fun c => c.runId = id) asked.sent

/-- Moves one after the other that are no drives of a run, and drives of it, keep order, and keep all runs on course. -/
theorem Passage.keeps (spares : ∀ id, (surroundings setup).Spares id) (passage : Passage setup id a outings b)
    (orderly : Orderly a) (honest : Honest a) : Orderly b ∧ Honest b := by
  have moves {b c : Automation δ} (kept : Orderly b ∧ Honest b)
      (move : Move setup (.plain fun e => e.graph.Valid) b c) : Orderly c ∧ Honest c :=
    ⟨move.orderly kept.1, move.honest spares (fun _ sound => sound) kept.1 kept.2⟩
  induction passage with
  | here => exact ⟨orderly, honest⟩
  | aside passage move others ih => exact moves ih move
  | driven passage queue own ih => exact moves ih (.carried queue)

/-- What has come of a run whose record was stored: its variables have accrued, and so have its calls. -/
structure Accrued (setup : Setup δ) (e : Execution) (a : Automation δ) (outings : List (Outing (World δ)))
    (b : Automation δ) : Prop where
  stored : ∃ r, b.store.runs.get? e.id = some r ∧
    Overlaid e ((outputs (surroundings setup) setup.limits).gifts (visitsOn outings)) r
  calls : b.calls e.id = a.calls e.id ++ callsOf (visitsOn outings)
  accrues : Accrues (ledger setup) setup.limits e outings

/-- The copy that an errand is for is the stored record, if that is in the state in which the errand takes it up. -/
theorem eq_record {errand : Errand} {r : Execution} (meanwhile : Meanwhile (some errand.record) (some r))
    (status : r.status = errand.entry.expected) : r = errand.record := by
  generalize known : some errand.record = before at meanwhile
  generalize found : some r = after at meanwhile
  cases meanwhile with
  | same => exact Option.some.inj (found.trans known.symm)
  | cancelled e ended noted waits =>
    cases found
    cases errand <;> cases status
  | lost => cases found

/-- Carrying an errand out takes up the variables that are stored, or leaves them alone. -/
theorem Orderly.drive_accrued (spares : ∀ id, (surroundings setup).Spares id) (orderly : Orderly a)
    (honest : Honest a) {errand : Errand} {rest : List Errand} (queue : a.queue = errand :: rest) {r : Execution}
    (stored : a.store.runs.get? errand.runId = some r) :
    Accrued setup r a [outing setup errand a.desk] ⟨(drive setup errand a.desk).2, rest⟩ := by
  obtain ⟨-, meanwhile⟩ := orderly.queue errand (queue ▸ List.mem_cons_self)
  obtain ⟨sound, course⟩ := honest.runs _ r stored
  rw [stored] at meanwhile
  rw [← errand.record_id] at stored course
  have free : errand.record.id ∉ a.desk.active := by simp [orderly.idle]
  have leaves := (errand.entry.enter_leaves (k := ledger setup) sound setup.limits orderly.kept free (spares _)
    stored rfl course (eq_record meanwhile)).state
  have accrues := errand.entry.enter_accrues (k := ledger setup) sound setup.limits orderly.kept free (spares _)
    stored rfl course (eq_record meanwhile)
  rw [← drive_eq] at leaves accrues
  have visits : visitsOn [outing setup errand a.desk] =
      errand.entry.visited (surroundings setup) setup.limits a.desk errand.record := List.append_nil _
  exact ⟨visits ▸ leaves.stored, visits ▸ leaves.calls, accrues⟩

/-- On any way from where a run is stored, its variables accrue. -/
theorem Passage.accrued (spares : ∀ id, (surroundings setup).Spares id) {e : Execution}
    (passage : Passage setup e.id a outings b) (orderly : Orderly a) (honest : Honest a)
    (stored : a.store.runs.get? e.id = some e) : Accrued setup e a outings b := by
  induction passage with
  | here => exact ⟨⟨e, stored, .refl e⟩, by simp [callsOf], .nil⟩
  | @aside b c outings passage move others ih =>
    obtain ⟨orderly', -⟩ := passage.keeps spares orderly honest
    obtain ⟨⟨r, stored', overlaid⟩, calls, accrues⟩ := ih
    have present : b.store.runs.get? e.id ≠ none := by simp [stored']
    obtain ⟨r', stored''⟩ := Option.ne_none_iff_exists'.mp (move.kept orderly' (spares e.id) present)
    cases move.fate orderly' e.id with
    | driven queue own after => exact absurd own (others _ _ queue after)
    | begun new => exact absurd new present
    | beside meanwhile same =>
      refine ⟨⟨r', stored'', ?_⟩, same.trans calls, accrues⟩
      rw [stored', stored''] at meanwhile
      cases meanwhile with
      | same => exact overlaid
      | cancelled => exact ⟨overlaid.run.trans ⟨rfl, rfl, rfl⟩, overlaid.vars⟩
  | @driven b outings errand rest passage queue own ih =>
    obtain ⟨orderly', honest'⟩ := passage.keeps spares orderly honest
    obtain ⟨⟨r, stored', overlaid⟩, calls, accrues⟩ := ih
    have label : r.id = e.id := overlaid.run.id
    obtain ⟨⟨r', stored'', further⟩, calls', accrues'⟩ :=
      orderly'.drive_accrued spares honest' queue (own.symm ▸ stored')
    rw [label] at stored'' calls'
    refine ⟨⟨r', stored'', ?_⟩, ?_, accrues.snoc overlaid accrues'⟩
    · rw [visitsOn_snoc, Run.Gathering.gifts_append]
      simpa [visitsOn] using overlaid.trans further
    · rw [calls', calls, List.append_assoc, visitsOn_snoc]
      simp [callsOf, visitsOn]

section Launching

/-- A move that is no drive of a run leads its passage on, and so does its drive. -/
theorem Passage.extend (passage : Passage setup id a outings b)
    (move : Move setup (.plain fun e => e.graph.Valid) b c) : ∃ more, Passage setup id a more c := by
  by_cases driven : ∃ errand rest, b.queue = errand :: rest ∧ c = ⟨(drive setup errand b.desk).2, rest⟩ ∧
      errand.runId = id
  · obtain ⟨errand, rest, queue, rfl, own⟩ := driven
    exact ⟨_, passage.driven queue own⟩
  · exact ⟨_, passage.aside move fun errand rest queue after own => driven ⟨errand, rest, queue, after, own⟩⟩

theorem Move.plain (sound : ∀ e, origin.of e → e.graph.Valid) (move : Move setup origin a b) :
    Move setup (.plain fun e => e.graph.Valid) a b := by
  cases move with
  | edited edits => exact .edited edits
  | launched new reruns drawn => exact .launched ⟨sound _ new.1, trivial⟩ reruns drawn
  | queued idle known drawn meanwhile kept => exact .queued idle (sound _ known) drawn meanwhile kept
  | carried queue => exact .carried queue
  | asked id => exact .asked id

theorem Moves.extend (sound : ∀ e, origin.of e → e.graph.Valid) (moves : Moves setup origin b c)
    (passage : Passage setup id a outings b) : ∃ more, Passage setup id a more c := by
  induction moves with
  | refl => exact ⟨_, passage⟩
  | tail earlier move ih =>
    obtain ⟨more, passage⟩ := ih
    exact passage.extend (move.plain sound)

/-- A launch: the request for it and the state that it found, what was launched and for which reason, and the record
and the state that came of it. -/
structure Launch (δ : Type) where
  before : Automation δ
  request : Request
  workflow : Workflow
  kind : TriggerKind
  payload : Members
  record : Execution
  point : Automation δ

namespace Launch

/-- The workflow was on offer, the reason and the payload are those of the request, and the record has just been
stored. -/
structure Happens (setup : Setup δ) (l : Launch δ) : Prop where
  offered : Offered l.before.store l.workflow
  launches : l.request.Launches l.workflow l.kind l.payload
  moves : Moves setup (l.before.sourceOf l.request) l.before l.point
  launched : ∃ fresh, l.record = .launched fresh l.workflow l.kind l.payload
  stored : l.point.store.runs.get? l.record.id = some l.record
  unsent : l.point.calls l.record.id = []

/-- The request came in among states that have followed each other, the latest first. -/
def Within (setup : Setup δ) (l : Launch δ) (states : List (Automation δ)) : Prop :=
  ∃ later earlier, states = later ++ l.before.after setup l.request :: l.before :: earlier

/-- The variables of the run when it has visited nodes in some states: those of the workflow, overlaid by the payload,
and by the outputs of the actions that have succeeded, in order. -/
def vars (setup : Setup δ) (l : Launch δ) (states : List (Run.Held (World δ))) : Members :=
  merged [] (l.workflow.vars :: l.payload :: (outputs (surroundings setup) setup.limits).gifts states)

/-- The run has its variables stored whenever it visits a node, whenever one of its drives is over and in the end. What
has been sent out for it are the calls that it has made on its visits, and each hands its variables over. -/
structure Governs (setup : Setup δ) (l : Launch δ) (outings : List (Outing (World δ))) (b : Automation δ) :
    Prop where
  visit : ∀ earlier v later, visitsOn outings = earlier ++ v :: later →
    v.desk.world.store.runs.get? l.record.id = some v.record ∧ v.record.vars = l.vars setup earlier ∧
      ∀ call, callOf v.record = some call → Hands call l.workflow.graph (l.vars setup earlier)
  home : ∀ earlier outing later, outings = earlier ++ outing :: later →
    ∃ r, outing.home.world.store.runs.get? l.record.id = some r ∧
      r.vars = l.vars setup (visitsOn (earlier ++ [outing]))
  stored : ∃ r, b.store.runs.get? l.record.id = some r ∧ r.vars = l.vars setup (visitsOn outings)
  calls : b.calls l.record.id = callsOf (visitsOn outings)

variable {l : Launch δ}

theorem Within.cons {states : List (Automation δ)} (within : l.Within setup states) (a : Automation δ) :
    l.Within setup (a :: states) := by
  obtain ⟨later, earlier, all⟩ := within
  exact ⟨a :: later, earlier, by rw [all, List.cons_append]⟩

theorem Happens.vars_eq (happens : l.Happens setup) {r : Execution} {states : List (Run.Held (World δ))}
    (overlaid : Overlaid l.record ((outputs (surroundings setup) setup.limits).gifts states) r) :
    r.vars = l.vars setup states := by
  obtain ⟨fresh, launched⟩ := happens.launched
  rw [overlaid.vars, launched]
  rfl

theorem Happens.governs (happens : l.Happens setup) (accrued : Accrued setup l.record l.point outings b) :
    l.Governs setup outings b where
  visit earlier v later all := by
    obtain ⟨stored, overlaid⟩ := accrued.accrues.visit earlier v later all
    have vars := happens.vars_eq overlaid
    refine ⟨stored, vars, fun call makes => ?_⟩
    have graph : v.record.graph = l.workflow.graph := by
      obtain ⟨fresh, launched⟩ := happens.launched
      rw [overlaid.run.graph, launched]
      rfl
    exact vars ▸ graph ▸ Run.hands_of_callOf makes
  home earlier outing later all := by
    obtain ⟨r, stored, overlaid⟩ := accrued.accrues.home earlier outing later all
    exact ⟨r, stored, happens.vars_eq overlaid⟩
  stored := by
    obtain ⟨r, stored, overlaid⟩ := accrued.stored
    exact ⟨r, stored, happens.vars_eq overlaid⟩
  calls := by rw [accrued.calls, happens.unsent, List.nil_append]

end Launch

/-- A request comes in after a session as well. -/
theorem Session.before {l : Launch δ} (session : Session setup past a) (within : l.Within setup (a :: past)) :
    ∃ earlier, Session setup earlier l.before := by
  obtain ⟨later, earlier, all⟩ := within
  refine ⟨earlier, ?_⟩
  induction session generalizing later with
  | opened now drawn agent => simp [List.cons_eq_append_iff] at all
  | @asked past a session request ih =>
    cases later with
    | nil =>
      obtain ⟨-, rest⟩ := List.cons.inj all
      obtain ⟨rfl, rfl⟩ := List.cons.inj rest
      exact session
    | cons _ later => exact ih later (List.cons.inj all).2

variable (spares : ∀ id, (surroundings setup).Spares id)
include spares

/-- A run that a request brings about has been launched on the way. -/
theorem Moves.launch {request : Request} (moves : Moves setup (a.sourceOf request) a b) (orderly : Orderly a)
    (honest : Honest a) (new : a.store.runs.get? id = none) (present : b.store.runs.get? id ≠ none) :
    ∃ l : Launch δ, l.before = a ∧ l.request = request ∧ l.record.id = id ∧ l.Happens setup ∧
      ∃ outings, Passage setup id l.point outings b := by
  induction moves with
  | refl => exact absurd new present
  | @tail b c earlier move ih =>
    have orderly' := Moves.orderly earlier orderly
    have honest' := Moves.honest spares (fun _ sound => sound) earlier orderly honest
    by_cases here : b.store.runs.get? id = none
    · cases move.fate orderly' id with
      | driven queue own after => exact absurd (own ▸ here) (honest'.attended _ (queue ▸ List.mem_cons_self))
      | @begun w kind payload _ launches stored unsent =>
        obtain ⟨fresh, stored⟩ := stored
        obtain rfl := (move.orderly orderly').kept.runs.label_eq stored
        exact ⟨⟨a, request, w, kind, payload, _, c⟩, rfl, rfl, rfl,
          ⟨launches.1, launches.2, earlier.tail move, ⟨fresh, rfl⟩, stored, unsent⟩, [], .here c⟩
      | beside meanwhile => exact absurd here (meanwhile.ne_none present)
    · obtain ⟨l, before, request, own, happens, outings, passage⟩ := ih here
      exact ⟨l, before, request, own, happens, passage.extend (move.plain fun _ sound => sound)⟩

/-- Every run of a session has been launched by a request, and has passed on since. -/
theorem Session.launch (session : Session setup past a) (present : a.store.runs.get? id ≠ none) :
    ∃ l : Launch δ, l.record.id = id ∧ l.Happens setup ∧ l.Within setup (a :: past) ∧
      ∃ outings, Passage setup id l.point outings a := by
  induction session with
  | opened now drawn agent => exact absurd rfl present
  | @asked past a session request ih =>
    have moves := (reaches_after session.steady (session.sources request)).moves
    by_cases new : a.store.runs.get? id = none
    · obtain ⟨l, rfl, rfl, own, happens, passage⟩ :=
        Moves.launch spares moves session.steady.orderly (session.honest spares) new present
      exact ⟨l, own, happens, ⟨[], past, rfl⟩, passage⟩
    · obtain ⟨l, own, happens, within, outings, passage⟩ := ih new
      exact ⟨l, own, happens, within.cons _, Moves.extend (fun _ sound => sound) moves passage⟩

end Launching

end Automation

end TriggerFlow
