import TriggerFlow.Proofs.Run.Journal
import TriggerFlow.Proofs.Run.Outputs
import TriggerFlow.Proofs.Run.Settling

/-!
# What a crash would leave behind

Entries are added to the log of a stored record one by one, and the whole record is stored after each node. The two
views coincide whenever an action goes out: the stored record is running at the node of the action, its log holds the
entries that have been added, each of them once, and its variables hold the outputs that have come back. When the drive
is over, what is stored is what is answered.
-/

namespace TriggerFlow.Run

variable {σ : Type} {s : Surroundings σ} {limits : Limits} {e : Execution} {d : Desk σ} {entry : Entry}

/-- When the drive of the stored record is over, the record is stored as it is answered. -/
theorem Entry.answer_stored {k : Chronicle s} (limits : Limits) (valid : k.valid d.world) (spares : s.Spares e.id)
    (stored : k.record d.world e.id = some e) (idle : e.id ∉ d.active) (admits : entry.Admits e) :
    (entry.enter s limits e).Ensures d (fun driven d' => k.record d'.world e.id = some driven.answer)
      fun _ _ => False := by
  have conducted := entry.conducted (k := k) limits valid idle admits
  by_cases status : e.status = entry.expected
  · have stands : Stands s entry.expected e.id d.world := by
      apply Ledger.stands (k := k.toLedger) valid
      intro e' known
      cases stored.symm.trans known
      exact status
    have settles := entry.drive_settled limits status stands
    rw [← Act.ensures_of_eq (entry.enter_eq limits idle admits)] at settles
    apply (conducted.and settles).mono _ fun _ _ none => none.1
    rintro driven d' ⟨conducted, answer, -⟩
    rw [answer]
    rcases conducted.outcome with ⟨same, records, -⟩ | ⟨-, -, kept | ⟨lost, -⟩⟩
    · rw [same, records, stored]
    · exact kept
    · exact absurd lost (conducted.accounts.kept _ spares (by simp [stored]))
  · apply conducted.mono _ fun _ _ none => none
    intro driven d' conducted
    obtain ⟨copy, same, -⟩ := conducted.untouched stored status
    have answer : driven.answer = e := by
      rcases conducted.answer with answer | answer
      · rw [answer, copy]
      · exact Option.some.inj (answer.symm.trans stored)
    rw [same.record, stored, answer]

/-- What is stored of a run when a call of it goes out, after some visits of a drive. -/
structure Journal.Mirrors (k : Journal s) (limits : Limits) (d : Desk σ) (e : Execution) (earlier : List (Held σ))
    (v : Held σ) (call : Sending) (stored : Execution) : Prop where
  sent : k.sent v.desk.world = k.sent d.world ++ callsOf earlier
  record : k.record v.desk.world e.id = some stored
  running : stored.status = .running
  nodeId : stored.nodeId = some call.nodeId
  /-- The log holds the entries that have been added to it, and each of them once. -/
  log : ∃ new, k.entries v.desk.world e.id = k.entries d.world e.id ++ new ∧ stored.log = e.log ++ new
  vars : stored.vars = merged e.vars ((outputs s limits).gifts earlier)

/-- Whenever a call of the drive of a stored record goes out, what is stored mirrors what has been done so far. -/
theorem Journal.visit_mirrors (k : Journal s) (valid : k.valid d.world) (spares : s.Spares e.id)
    (stored : k.record d.world e.id = some e) (admits : entry.Admits e) {earlier later : List (Held σ)} {v : Held σ}
    {call : Sending} (all : visitsOf s limits entry.expected (entry.opening s) (claimed d e) = earlier ++ v :: later)
    (makes : callOf v.record = some call) : k.Mirrors limits d e earlier v call v.record := by
  have mem : v ∈ visitsOf s limits entry.expected (entry.opening s) (claimed d e) := by simp [all]
  have recorded : Recorded k (claimed d e) := by
    refine ⟨⟨valid, List.mem_cons_self, ?_⟩, spares, ?_⟩
    · intro e' known
      cases stored.symm.trans known
      exact .refl e
    · show k.record d.world e.id ≠ none
      simp [stored]
  obtain ⟨station, running, own, -⟩ := visitsOf_station (k := k.toChronicle) (h := claimed d e) valid
    List.mem_cons_self admits mem
  have own : v.record.id = e.id := own
  have sends : (k.tally.gathering limits).gains (claimed d e) _ v := (k.tally.gathering limits).visitsOf_gains
    (entry.keeps_opening k.tally.hushed.toStoring) valid all
  have grows : Grows k (claimed d e) v := ((growing k).gathering limits).visitsOf_gains
    (entry.keeps_opening (growing k).toStoring) recorded all
  rw [k.tally.gifts_eq_callsOf] at sends
  obtain ⟨node, a, config, found, -, -, -, rfl⟩ := callOf_eq_some makes
  obtain ⟨here, at_node, named⟩ := Option.bind_eq_some_iff.mp found
  obtain ⟨-, rfl⟩ := Graph.mem_of_node? named
  obtain ⟨new, log, entries⟩ := grows.entries
  constructor
  case sent => exact Sends.sent sends
  case record => exact own ▸ station.stored
  case running => exact running
  case nodeId => exact at_node
  case log => exact ⟨new, entries, log⟩
  case vars => exact (outputs s limits).visitsOf_gains (entry.keeps_opening (steady s).toStoring) trivial all

namespace Trial

open TriggerFlow.Trial

/-- The desk with one run, beside which a journal is kept. -/
def journalled (g : Graph) : Desk ((World Unit × List Jot) × List Note) :=
  ⟨(atNine g).active, (atNine g).cancels, (((atNine g).world, []), [])⟩

-- Ten nodes are visited, and a mail goes out at each of them.
example : (callsOf (startVisits books.Journalling bounds (journalled circling) (created circling))).length = 10 := by
  decide +kernel

end Trial

end TriggerFlow.Run
