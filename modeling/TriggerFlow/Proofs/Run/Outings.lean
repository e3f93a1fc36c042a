import TriggerFlow.Proofs.Run.Outputs
import TriggerFlow.Proofs.Run.Tally

/-!
# The variables of a run over all its drives

Every drive takes up the variables where they have been left. So over any number of drives, what is stored of a run has
the variables that it began with, overlaid by the outputs of all actions that have succeeded so far, whenever a node is
visited and whenever a drive is over.
-/

namespace TriggerFlow.Run

variable {σ : Type} {s : Surroundings σ} {k : Ledger s} {g : Graph} {limits : Limits} {id : String}
  {e r r' : Execution} {d : Desk σ}

/-- A drive of a run: the states in which it has visited nodes, and the desk when it was over. -/
structure Outing (σ : Type) where
  visits : List (Held σ)
  home : Desk σ

/-- The states in which nodes have been visited on some drives. -/
def visitsOn (outings : List (Outing σ)) : List (Held σ) := outings.flatMap Outing.visits

@[simp] theorem visitsOn_nil : visitsOn ([] : List (Outing σ)) = [] := rfl

@[simp] theorem visitsOn_snoc (outings : List (Outing σ)) (outing : Outing σ) :
    visitsOn (outings ++ [outing]) = visitsOn outings ++ outing.visits := by
  simp [visitsOn]

/-- A later record of a run, with the variables of an earlier one, overlaid by outputs. -/
structure Overlaid (e : Execution) (outputs : List Members) (r : Execution) : Prop where
  run : SameRun e r
  vars : r.vars = merged e.vars outputs

namespace Overlaid

theorem refl (e : Execution) : Overlaid e [] e := ⟨.refl e, rfl⟩

theorem trans {outputs more : List Members} (h : Overlaid e outputs r) (h' : Overlaid r more r') :
    Overlaid e (outputs ++ more) r' := ⟨h.run.trans h'.run, by rw [h'.vars, h.vars, merged_append]⟩

end Overlaid

/-- Whenever a node is visited and whenever a drive is over, what is stored of a run has the variables that it began
with, overlaid by the outputs so far. -/
structure Accrues (k : Ledger s) (limits : Limits) (e : Execution) (outings : List (Outing σ)) : Prop where
  visit : ∀ earlier v later, visitsOn outings = earlier ++ v :: later →
    k.record v.desk.world e.id = some v.record ∧ Overlaid e ((outputs s limits).gifts earlier) v.record
  home : ∀ earlier outing later, outings = earlier ++ outing :: later →
    ∃ r, k.record outing.home.world e.id = some r ∧
      Overlaid e ((outputs s limits).gifts (visitsOn (earlier ++ [outing]))) r

/-- Something stands in the first or in the second of two lists that have been joined. -/
theorem split_of_append {α : Type} {xs ys earlier later : List α} {a : α} (all : xs ++ ys = earlier ++ a :: later) :
    (∃ rest, xs = earlier ++ a :: rest) ∨ ∃ more, earlier = xs ++ more ∧ ys = more ++ a :: later := by
  rcases List.append_eq_append_iff.mp all with ⟨more, before, after⟩ | ⟨more, before, after⟩
  · exact .inr ⟨more, before, after⟩
  · cases more with
    | nil => exact .inr ⟨[], by simpa using before.symm, by simpa using after.symm⟩
    | cons b more =>
      obtain ⟨rfl, rfl⟩ := List.cons.inj after
      exact .inl ⟨more, before⟩

namespace Accrues

theorem nil : Accrues k limits e [] where
  visit earlier v later all := by simp at all
  home earlier outing later all := by simp at all

theorem single {outing : Outing σ} (visit : ∀ earlier v later, outing.visits = earlier ++ v :: later →
      k.record v.desk.world e.id = some v.record ∧ Overlaid e ((outputs s limits).gifts earlier) v.record)
    (home : ∃ r, k.record outing.home.world e.id = some r ∧ Overlaid e ((outputs s limits).gifts outing.visits) r) :
    Accrues k limits e [outing] := by
  constructor
  · intro earlier v later all
    exact visit earlier v later (by simpa [visitsOn] using all)
  · intro earlier other later all
    cases earlier with
    | nil =>
      obtain ⟨rfl, -⟩ := List.cons.inj all
      simpa [visitsOn] using home
    | cons _ earlier => simp at all

/-- One more drive takes up the variables where they have been left. -/
theorem snoc {outings : List (Outing σ)} {outing : Outing σ} (accrues : Accrues k limits e outings)
    (between : Overlaid e ((outputs s limits).gifts (visitsOn outings)) r) (last : Accrues k limits r [outing]) :
    Accrues k limits e (outings ++ [outing]) := by
  have label : r.id = e.id := between.run.id
  constructor
  · intro earlier v later all
    rw [visitsOn_snoc] at all
    rcases split_of_append all with ⟨rest, before⟩ | ⟨more, rfl, here⟩
    · exact accrues.visit earlier v rest before
    · obtain ⟨stored, overlaid⟩ := last.visit more v later (by simpa [visitsOn] using here)
      rw [Gathering.gifts_append]
      exact ⟨label ▸ stored, between.trans overlaid⟩
  · intro earlier other later all
    rcases split_of_append all with ⟨rest, before⟩ | ⟨more, rfl, here⟩
    · exact accrues.home earlier other rest before
    · obtain ⟨rfl, rfl⟩ : more = [] ∧ outing = other := by
        cases more with
        | nil => exact ⟨rfl, (List.cons.inj here).1⟩
        | cons _ more => simp at here
      obtain ⟨r', stored, overlaid⟩ := last.home [] outing [] rfl
      refine ⟨r', label ▸ stored, ?_⟩
      rw [List.append_nil, visitsOn_snoc, Gathering.gifts_append]
      simpa [visitsOn] using between.trans overlaid

end Accrues

section Drive

/-- A run stays the same in all visits of its drive. -/
theorem visitsOf_sameRun {expected : Status} {opening : Act (Held σ) Bool} {h v : Held σ} (keeps : Keeps k opening)
    (ready : Ready k h) (mem : v ∈ visitsOf s limits expected opening h) : SameRun h.record v.record := by
  obtain ⟨earlier, later, -, proceeds⟩ := ((proceeding k).gathering limits).mem_visitsOf_gains keeps ready mem
  exact Proceeds.run proceeds

/-- The calls that a run makes on its visits are its own. -/
theorem calls_filter {states : List (Held σ)} (own : ∀ v ∈ states, v.record.id = id) :
    (callsOf states).filter (fun c => c.runId = id) = callsOf states := by
  rw [List.filter_eq_self]
  intro call mem
  obtain ⟨v, visited, makes⟩ := List.mem_filterMap.mp mem
  obtain ⟨node, a, config, -, -, -, -, rfl⟩ := callOf_eq_some makes
  simp [sendingOf, own v visited]

/-- A call hands variables over, and the settings of the action at its node, filled in from them. -/
structure Hands (call : Sending) (g : Graph) (vars : Members) : Prop where
  handed : call.call.vars = vars
  config : ∃ node a, g.node? call.nodeId = some node ∧ node.task = .action a ∧ a.kind = call.call.kind ∧
    Template.renderMembers vars a.config = .ok call.call.config

theorem hands_of_callOf {call : Sending} (makes : callOf r = some call) : Hands call r.graph r.vars := by
  obtain ⟨node, a, config, found, task, -, renders, rfl⟩ := callOf_eq_some makes
  obtain ⟨id, -, found⟩ := Option.bind_eq_some_iff.mp found
  obtain ⟨-, rfl⟩ := Graph.mem_of_node? found
  exact ⟨rfl, node, a, found, task, rfl, renders⟩

/-- What the drive of a run leaves behind whose record is stored when it begins. -/
structure Leaves (k : Ledger s) (limits : Limits) (r : Execution) (states : List (Held σ)) (d d' : Desk σ) :
    Prop where
  stored : ∃ r', k.record d'.world r.id = some r' ∧ Overlaid r ((outputs s limits).gifts states) r'
  calls : k.calls d'.world r.id = k.calls d.world r.id ++ callsOf states

variable (sound : g.Valid) (limits : Limits) (entry : Entry) (valid : k.valid d.world)
  (free : e.id ∉ d.active) (spares : s.Spares e.id) (stored : k.record d.world e.id = some r) (graph : r.graph = g)
  (course : Course g r (k.calls d.world e.id)) (current : r.status = entry.expected → r = e)
include sound valid free spares stored graph course current

/-- A copy is driven on from the variables that are stored, or it is not driven. -/
theorem Entry.enter_leaves : (entry.enter s limits e).Ensures d
    (fun _ => Leaves k limits r (entry.visited s limits d e) d)
    fun _ => Leaves k limits r (entry.visited s limits d e) d := by
  by_cases status : r.status = entry.expected
  · obtain rfl := current status
    have admits := entry.admits_of_status status
    have ready : Ready k (claimed d r) := (claimed_live valid stored graph course).ready
    have merges := (Act.ensures_of_eq (entry.enter_eq limits free admits)).mpr
      ((outputs s limits).drive_gains (entry.keeps_opening (steady s).toStoring) trivial)
    have sends := k.tally.enter_sends limits entry valid free admits
    have ended := entry.ended sound limits valid free stored graph course status
    rw [entry.visited_eq free admits] at sends ⊢
    apply ((merges.and sends).and ended).mono _ fun _ _ none => none.2.elim
    rintro driven d' ⟨⟨⟨h, gains, copy, -⟩, sends⟩, ended⟩
    constructor
    · have present := ended.drove.around.kept r.id spares (by simp [stored])
      have left := ended.left.resolve_left present
      exact ⟨driven.copy, left, ended.drove.own _ left, copy ▸ gains⟩
    · have own : ∀ v ∈ visitsOf s limits entry.expected (entry.opening s) (claimed d r), v.record.id = r.id :=
        fun _ mem => (visitsOf_sameRun (entry.keeps_opening (proceeding k).toStoring) ready mem).id
      have sent : k.sent d'.world = _ := sends.sent
      rw [Books.calls, sent, List.filter_append, calls_filter own]
      rfl
  · obtain ⟨none, passes⟩ := entry.enter_of_moved limits valid stored status
    have label : r.id = e.id := k.id_of_record valid stored
    rw [none]
    have leaves {d' : Desk σ} (passed : Passed k d d') : Leaves k limits r [] d d' := by
      refine ⟨⟨r, ?_, .refl r⟩, by simp [Books.calls, passed.same.sent, callsOf]⟩
      rw [passed.same.record, label, stored]
    exact passes.mono (fun _ _ => leaves) fun _ _ => leaves

/-- Over one drive, the variables accrue. -/
theorem Entry.enter_accrues :
    Accrues k limits r [⟨entry.visited s limits d e, (entry.enter s limits e d).2⟩] := by
  have leaves := (entry.enter_leaves sound limits valid free spares stored graph course current).state
  apply Accrues.single _ leaves.stored
  intro earlier v later all
  change entry.visited s limits d e = earlier ++ v :: later at all
  by_cases status : r.status = entry.expected
  · obtain rfl := current status
    rw [entry.visited_eq free (entry.admits_of_status status)] at all
    have mem : v ∈ visitsOf s limits entry.expected (entry.opening s) (claimed d r) := by simp [all]
    have live : Live k g (claimed d r) := claimed_live valid stored graph course
    have own : SameRun r v.record :=
      visitsOf_sameRun (entry.keeps_opening (proceeding k).toStoring) live.ready mem
    obtain ⟨there, -⟩ := visitsOf_live limits sound live status (entry.begins sound) mem
    exact ⟨own.id ▸ there.stored, own, (outputs s limits).visitsOf_gains
      (entry.keeps_opening (steady s).toStoring) trivial all⟩
  · rw [(entry.enter_of_moved limits valid stored status).1] at all
    simp at all

end Drive

end TriggerFlow.Run
