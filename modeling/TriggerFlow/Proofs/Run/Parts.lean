import TriggerFlow.Proofs.Act
import TriggerFlow.Run.Drive

/-!
# The parts of a drive

A drive is an opening followed by visits: a run that has not begun comes to the node after its trigger, and a
waiting run leaves the node where it is parked, or stays, or fails there. The visits are told apart, so that
one can speak of the states in which nodes are entered.
-/

namespace TriggerFlow.Run

variable {σ : Type} {s : Surroundings σ} {limits : Limits}

/-- A drive: an opening that tells whether there are to be visits, and then as many as the budget allows. -/
def thenLoop (s : Surroundings σ) (limits : Limits) (opening : Act (Held σ) Bool) : Act (Held σ) Unit := do
  if (← opening) then loop s limits limits.steps.toNat

/-- How a run comes to its first node. -/
def begin (s : Surroundings σ) : Act (Held σ) Bool := do
  become s .running
  let e ← Held.current
  match e.graph.trigger? with
  | none => Act.fail (.run .triggerMissing)
  | some (trigger, _) =>
    goOn s (some (← successor e.graph trigger.id))
    return true

theorem startBody_eq : startBody s limits = thenLoop s limits (begin s) := by
  unfold startBody thenLoop begin
  simp only [bind_assoc]
  congr 1; funext _; congr 1; funext e
  cases e.graph.trigger? with
  | none => rfl
  | some found => simp only [goOn, bind_assoc, pure_bind, if_true]

/-- How a waiting run comes to the node after the one where it is parked, or fails there, or stays. -/
def wake (s : Surroundings σ) (time : Instant) (context : Members) : Act (Held σ) Bool := do
  let e ← Held.current
  match e.nodeId.bind e.graph.node? with
  | some ⟨id, label, position, .action a⟩ =>
    let node : Node := ⟨id, label, position, .action a⟩
    if !a.kind.parks then Act.fail (.run (.parkedElsewhere e.nodeId))
    else match (← Act.lift (fun f => f) (look (e.wait.getD ⟨none, none, none⟩)
        (Ordered.overlay e.vars context) time)) with
      | .notDue => return false
      | .failed message => do
        become s .running
        Held.change fun e => { e with wait := none }
        let next ← actionFailed s node a message
        goOn s next
        return next.isSome
      | .met condition => do
        become s .running
        Held.change fun e => { e with wait := none }
        match condition with
        | some expression =>
          log s node.id (actionLabel node a) .success
            ("Wait condition " ++ Text.quoted expression ++ " met") none
        | none => pure ()
        let e ← Held.current
        goOn s (some (← successor e.graph node.id))
        return true
  | _ => Act.fail (.run (.parkedElsewhere e.nodeId))

theorem resumeBody_eq (time : Instant) (context : Members) :
    resumeBody s limits time context = thenLoop s limits (wake s time context) := by
  unfold resumeBody thenLoop wake
  simp only [bind_assoc]
  congr 1; funext e
  cases e.nodeId.bind e.graph.node? with
  | none => rfl
  | some node =>
    obtain ⟨id, label, position, task⟩ := node
    cases task with
    | action a =>
      cases parks : a.kind.parks with
      | false => simp [parks]; rfl
      | true =>
        simp only [parks, Bool.not_true, Bool.false_eq_true, if_false, bind_assoc]
        congr 1; funext found
        cases found with
        | notDue => simp
        | failed message =>
          simp only [bind_assoc]
          congr 1; funext _; congr 1; funext _; congr 1; funext next
          cases next with
          | none => simp [goOn]
          | some id => simp [goOn, leave]
        | met condition =>
          simp only [bind_assoc]
          congr 1; funext _; congr 1; funext _
          cases condition <;> simp [goOn, leave]
    | _ => rfl

/-- How a waiting run is taken up at a given time, or at the time at the desk. -/
def wakeAt (s : Surroundings σ) (time : Option Instant) (context : Members) : Act (Held σ) Bool := do
  wake s (time.getD (← now s)) context

theorem resumeBody_now_eq (time : Option Instant) (context : Members) :
    (do
      let now ← now s
      resumeBody s limits (time.getD now) context) = thenLoop s limits (wakeAt s time context) := by
  unfold wakeAt thenLoop
  simp only [resumeBody_eq, thenLoop, bind_assoc]

/-- The states in which a loop visits nodes, in order. -/
def visits (s : Surroundings σ) (limits : Limits) : Nat → Held σ → List (Held σ)
  | 0, _ => []
  | budget + 1, h =>
    match mayVisit s h with
    | (.ok true, h) =>
      h :: match visit s limits h with
        | (.ok _, h) => visits s limits budget h
        | (.error _, _) => []
    | _ => []

theorem visits_of_stay {budget : Nat} {h h' : Held σ} (stays : mayVisit s h = (.ok false, h')) :
    visits s limits (budget + 1) h = [] := by simp [visits, stays]

theorem visits_of_failure {budget : Nat} {h h' h'' : Held σ} {failure : Failure}
    (goes : mayVisit s h = (.ok true, h')) (fails : visit s limits h' = (.error failure, h'')) :
    visits s limits (budget + 1) h = [h'] := by simp [visits, goes, fails]

theorem visits_of_visit {budget : Nat} {h h' h'' : Held σ} (goes : mayVisit s h = (.ok true, h'))
    (visited : visit s limits h' = (.ok (), h'')) :
    visits s limits (budget + 1) h = h' :: visits s limits budget h'' := by simp [visits, goes, visited]

/-- The states in which a drive visits nodes, in order. -/
def visitsOf (s : Surroundings σ) (limits : Limits) (expected : Status) (opening : Act (Held σ) Bool)
    (h : Held σ) : List (Held σ) :=
  match movedOn s expected h with
  | (.ok none, h) =>
    match consumeCancel h with
    | (.ok false, h) =>
      match opening h with
      | (.ok true, h) => visits s limits limits.steps.toNat h
      | _ => []
    | _ => []
  | _ => []

section Whole

variable {expected : Status} {opening : Act (Held σ) Bool} {h h' h'' h₁ : Held σ}

theorem visitsOf_of_moved {stored : Execution} (moved : movedOn s expected h = (.ok (some stored), h')) :
    visitsOf s limits expected opening h = [] := by simp [visitsOf, moved]

theorem visitsOf_of_cancel (unmoved : movedOn s expected h = (.ok none, h'))
    (asked : consumeCancel h' = (.ok true, h'')) : visitsOf s limits expected opening h = [] := by
  simp [visitsOf, unmoved, asked]

theorem visitsOf_of_failure {failure : Failure} (unmoved : movedOn s expected h = (.ok none, h'))
    (unasked : consumeCancel h' = (.ok false, h'')) (fails : opening h'' = (.error failure, h₁)) :
    visitsOf s limits expected opening h = [] := by simp [visitsOf, unmoved, unasked, fails]

theorem visitsOf_of_stay (unmoved : movedOn s expected h = (.ok none, h'))
    (unasked : consumeCancel h' = (.ok false, h'')) (stays : opening h'' = (.ok false, h₁)) :
    visitsOf s limits expected opening h = [] := by simp [visitsOf, unmoved, unasked, stays]

theorem visitsOf_of_go (unmoved : movedOn s expected h = (.ok none, h'))
    (unasked : consumeCancel h' = (.ok false, h'')) (goes : opening h'' = (.ok true, h₁)) :
    visitsOf s limits expected opening h = visits s limits limits.steps.toNat h₁ := by
  simp [visitsOf, unmoved, unasked, goes]

/-- A visit is preceded by an opening that has led to visits. -/
theorem exists_opening {v : Held σ} (mem : v ∈ visitsOf s limits expected opening h) : ∃ h' h'' w,
    movedOn s expected h = (.ok none, h') ∧ consumeCancel h' = (.ok false, h'') ∧ opening h'' = (.ok true, w) ∧
      v ∈ visits s limits limits.steps.toNat w := by
  rcases moved : movedOn s expected h with ⟨_ | _ | _, h'⟩
  · simp [visitsOf, moved] at mem
  · rcases asked : consumeCancel h' with ⟨_ | _ | _, h''⟩
    · simp [visitsOf, moved, asked] at mem
    · rcases opened : opening h'' with ⟨_ | _ | _, w⟩
      · simp [visitsOf, moved, asked, opened] at mem
      · simp [visitsOf, moved, asked, opened] at mem
      · exact ⟨h', h'', w, rfl, asked, opened, by simpa [visitsOf, moved, asked, opened] using mem⟩
    · simp [visitsOf, moved, asked] at mem
  · simp [visitsOf, moved] at mem

end Whole

end TriggerFlow.Run
