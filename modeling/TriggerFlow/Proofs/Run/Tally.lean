import TriggerFlow.Proofs.Run.Calls
import TriggerFlow.Proofs.Run.Entry
import TriggerFlow.Proofs.Run.Gathering

/-!
# What a drive sends out

A tally shows what has been sent out, and it can be kept on any surroundings, even on those that lose records and fail
at every turn, for nothing but sending adds to it. A drive sends out the calls of the nodes that it visits, one after
the other, and nothing besides. The budget of a drive bounds its visits, on any graph, and so its calls.
-/

namespace TriggerFlow.Run

variable {σ α : Type} {s : Surroundings σ} {limits : Limits} {h h' : Held σ} {d d' d'' : Desk σ}

/-- An operation on the surroundings that sends nothing out, whether it fails or not. -/
def Hushed (valid : σ → Prop) (sent : σ → List Sending) (x : Act σ α) : Prop :=
  ∀ w, valid w → x.Ensures w (fun _ w' => valid w' ∧ sent w' = sent w) fun _ w' => valid w' ∧ sent w' = sent w

/-- A view of what has been sent out. -/
structure Tally (s : Surroundings σ) where
  valid : σ → Prop
  sent : σ → List Sending
  load : ∀ id, Hushed valid sent (s.load id)
  save : ∀ e, Hushed valid sent (s.save e)
  append : ∀ id entry, Hushed valid sent (s.append id entry)
  suffer : ∀ effect, Hushed valid sent (s.suffer effect)
  respond : ∀ {w}, valid w → ∀ sending, valid (s.respond sending w).2.2 ∧
    sent (s.respond sending w).2.2 = sent w ++ [sending]

/-- Every ledger shows what has been sent out. -/
def Ledger.tally (k : Ledger s) : Tally s where
  valid := k.valid
  sent := k.sent
  load id _ valid :=
    (k.load valid id).mono (fun _ _ loaded => ⟨loaded.2.valid, loaded.2.sent⟩) fun _ _ none => none.elim
  save e _ valid := (k.save valid e).mono (fun _ _ becomes => ⟨becomes.valid, becomes.sent⟩) fun _ _ none => none.elim
  append id entry _ valid := (k.append valid id entry).mono
    (fun _ _ ⟨_, _, becomes⟩ => ⟨becomes.valid, becomes.sent⟩) fun _ _ ⟨_, _, same⟩ => ⟨same.valid, same.sent⟩
  suffer effect _ valid := (k.suffer valid effect).mono
    (fun _ _ becomes => ⟨becomes.valid, becomes.sent⟩) fun _ _ same => ⟨same.valid, same.sent⟩
  respond valid sending := ⟨(k.respond valid sending).1, (k.respond valid sending).2.2.1⟩

section Jotting

/-- What can be jotted down beside the surroundings of a run. -/
inductive Jot where
  /-- An entry has been added to the log of a stored record. -/
  | entry (id : String) (entry : LogEntry)
  | call (sending : Sending)
  deriving DecidableEq, Repr

def Jot.call? : Jot → Option Sending
  | .call sending => some sending
  | .entry .. => none

/-- The entry, if it is one of the log of a run. -/
def Jot.entry? (id : String) : Jot → Option LogEntry
  | .entry own noted => if own = id then some noted else none
  | .call _ => none

/-- A computation on the surroundings beside which nothing is jotted down. -/
def unjotted (x : Act σ α) : Act (σ × List Jot) α := x.onPart Prod.fst fun w p => (w, p.2)

/-- Surroundings beside which all calls are jotted down, and all entries that have been stored. -/
def Surroundings.jotting (s : Surroundings σ) : Surroundings (σ × List Jot) where
  now p := s.now p.1
  load id := unjotted (s.load id)
  save e := unjotted (s.save e)
  append id entry := do
    let asked ← unjotted (s.append id entry)
    Act.modify fun p => (p.1, p.2 ++ [.entry id entry])
    return asked
  waiting := unjotted s.waiting
  respond sending p :=
    let r := s.respond sending p.1
    (r.1, r.2.1, r.2.2, p.2 ++ [.call sending])
  suffer effect := unjotted (s.suffer effect)

/-- The calls that have been jotted down. -/
def jottedCalls (p : σ × List Jot) : List Sending := p.2.filterMap Jot.call?

theorem hushed_unjotted (x : Act σ α) : Hushed (fun _ => True) jottedCalls (unjotted x) := fun _ _ =>
  Act.ensures_onPart.mpr ((Act.Ensures.run _ _).mono (fun _ _ _ => ⟨trivial, rfl⟩) fun _ _ _ => ⟨trivial, rfl⟩)

/-- A tally can be kept on any surroundings. -/
def Surroundings.jotted (s : Surroundings σ) : Tally s.jotting where
  valid _ := True
  sent := jottedCalls
  load _ := hushed_unjotted _
  save _ := hushed_unjotted _
  append id entry p _ := by
    refine Act.ensures_bind.mpr ((hushed_unjotted (s.append id entry) p trivial).mono ?_ fun _ _ same => same)
    rintro asked p' ⟨-, same⟩
    refine ⟨trivial, ?_⟩
    rw [← same]
    simp [jottedCalls, Jot.call?]
  suffer _ := hushed_unjotted _
  respond _ sending := ⟨trivial, by simp [Surroundings.jotting, jottedCalls, Jot.call?]⟩

end Jotting

/-- What has been sent out from one state of the desk to another one, at which the same runs are driven. -/
structure Sends (t : Tally s) (d d' : Desk σ) (new : List Sending) : Prop where
  valid : t.valid d'.world
  active : d'.active = d.active
  sent : t.sent d'.world = t.sent d.world ++ new

namespace Sends

variable {t : Tally s} {new more : List Sending}

theorem refl (valid : t.valid d.world) : Sends t d d [] := ⟨valid, rfl, by simp⟩

/-- Nothing has been sent out while something was done to the surroundings. -/
theorem of_hushed {w : σ} (hushed : t.valid w ∧ t.sent w = t.sent d.world) : Sends t d { d with world := w } [] :=
  ⟨hushed.1, rfl, by simpa using hushed.2⟩

theorem trans (sends : Sends t d d' new) (sends' : Sends t d' d'' more) : Sends t d d'' (new ++ more) :=
  ⟨sends'.valid, sends'.active.trans sends.active, by rw [sends'.sent, sends.sent, List.append_assoc]⟩

end Sends

/-- The calls that are made in states in which nodes are visited. -/
def callsOf (states : List (Held σ)) : List Sending := states.filterMap fun v => callOf v.record

namespace Tally

variable (t : Tally s)

theorem log_hushed (fits : t.valid h.desk.world) (nodeId action : String) (outcome : Outcome) (message : String)
    (data : Option Members) : (log s nodeId action outcome message data).Ensures h
      (fun _ h' => Sends t h.desk h'.desk []) fun _ h' => Sends t h.desk h'.desk [] := by
  simp only [log, Act.ensures_bind, ensures_now, ensures_change, ensures_current, ensures_inWorld]
  apply (t.append _ _ _ fits).mono
  · rintro (_ | _) w ⟨valid, sent⟩ <;> exact ⟨valid, rfl, sent.trans (List.append_nil _).symm⟩
  · exact fun _ _ => .of_hushed

theorem persist_hushed (fits : t.valid h.desk.world) : (persist s).Ensures h
    (fun _ h' => Sends t h.desk h'.desk []) fun _ h' => Sends t h.desk h'.desk [] := by
  simp only [persist, Act.ensures_bind, ensures_current, ensures_inWorld]
  exact (t.save _ _ fits).mono (fun _ _ => .of_hushed) fun _ _ => .of_hushed

theorem cancel_hushed (fits : t.valid h.desk.world) : (cancel s).Ensures h
    (fun _ h' => Sends t h.desk h'.desk []) fun _ h' => Sends t h.desk h'.desk [] := by
  refine Act.ensures_bind.mpr (ensures_become.mpr ⟨?_, fun _ => .refl fits⟩)
  intro e _
  refine Act.ensures_bind.mpr (ensures_current.mpr (Act.ensures_bind.mpr ?_))
  apply (t.log_hushed (h := { h with record := e }) fits _ _ _ _ _).mono _ fun _ _ sends => sends
  intro _ h₁ logged
  apply (t.persist_hushed logged.valid).mono
  · exact fun _ _ stored => logged.trans stored
  · exact fun _ _ stored => logged.trans stored

theorem requestCancel_hushed (fits : t.valid d.world) (id : String) : (requestCancel s id).Ensures d
    (fun _ d' => Sends t d d' []) fun _ d' => Sends t d d' [] := by
  apply requestCancel_sound
  · exact fun _ => ⟨fits, rfl, by simp [Desk.flagged]⟩
  intro idle
  apply (t.load id _ fits).mono
  · rintro found w ⟨valid, sent⟩
    refine ⟨fun _ _ => ⟨valid, rfl, by simpa using sent⟩, ?_⟩
    intro e _ _
    have released {h : Held σ} (sends : Sends t ⟨id :: d.active, d.cancels, w⟩ h.desk []) :
        Sends t d (h.desk.released id false) [] := by
      refine ⟨sends.valid, ?_, by rw [← sent]; exact sends.sent⟩
      show without id h.desk.active = d.active
      rw [sends.active, without_claimed idle]
    exact (t.cancel_hushed valid).mono (fun _ _ => released) fun _ _ => released
  · exact fun _ _ => .of_hushed

/-- Whatever is done without sending an action out. -/
def hushed : Manner.Heeding s where
  fits h := t.valid h.desk.world
  goes h h' := Sends t h.desk h'.desk []
  refl := .refl
  trans := .trans
  fits_of_goes sends := sends.valid
  change fits _ := .refl fits
  log fits := t.log_hushed fits
  happen := by
    intro h effect fits _
    have plain : (Held.inWorld (s.suffer effect)).Ensures h (fun _ h' => Sends t h.desk h'.desk [])
        fun _ h' => Sends t h.desk h'.desk [] :=
      ensures_inWorld.mpr ((t.suffer effect _ fits).mono (fun _ _ => .of_hushed) fun _ _ => .of_hushed)
    cases effect with
    | cancel id =>
      refine Act.ensures_bind.mpr (ensures_atDesk.mpr ?_)
      exact (t.requestCancel_hushed fits id).mono (fun _ _ sends => sends) fun _ _ sends => sends
    | _ => exact plain
  persist _ fits := t.persist_hushed fits
  consume h fits := by
    refine ensures_consumeCancel.mpr ?_
    split
    · exact ⟨fits, rfl, by simp⟩
    · exact .refl fits
  moved expected h fits := by
    refine Act.ensures_bind.mpr (ensures_current.mpr (Act.ensures_bind.mpr (ensures_inWorld.mpr ?_)))
    apply (t.load _ _ fits).mono
    · rintro (_ | _) w hushed <;> exact .of_hushed hushed
    · exact fun _ _ => .of_hushed

/-- A visit sends out the call of its node and nothing else. -/
theorem visit_sends (limits : Limits) (fits : t.valid h.desk.world) : (visit s limits).Ensures h
    (fun _ h' => Sends t h.desk h'.desk (callOf h.record).toList)
    fun _ h' => Sends t h.desk h'.desk (callOf h.record).toList := by
  cases makes : callOf h.record with
  | none =>
    exact t.hushed.toStoring.visit_of_no_call limits fits makes
  | some call =>
    obtain ⟨valid, sent⟩ := t.respond fits call
    have gone : Sends t h.desk (called s call h).desk [call] := ⟨valid, rfl, sent⟩
    have happens : t.hushed.Goes (happenAll s (s.respond call h.desk.world).1) (called s call h) :=
      t.hushed.goes_happenAll valid fun effect mem => ⟨call, h.desk.world, mem⟩
    apply (t.hushed.toStoring.visit_of_call .refl limits makes happens).mono
    · exact fun _ _ rest => gone.trans rest
    · exact fun _ _ rest => gone.trans rest

/-- The calls of the nodes that are visited are what visits contribute to a tally. -/
def gathering (limits : Limits) : Gathering s limits Sending where
  manner := t.hushed
  gift v := (callOf v.record).toList
  gains h new h' := Sends t h.desk h'.desk new
  still sends := sends
  trans sends sends' := sends.trans sends'
  fits_of_gains sends := sends.valid
  visit fits := t.visit_sends limits fits

theorem gifts_eq_callsOf (states : List (Held σ)) : (t.gathering limits).gifts states = callsOf states :=
  (List.filterMap_eq_flatMap_toList ..).symm

end Tally

/-- The budget bounds the visits of a loop. -/
theorem length_visits_le (s : Surroundings σ) (limits : Limits) : ∀ (budget : Nat) (h : Held σ),
    (visits s limits budget h).length ≤ budget
  | 0, _ => le_refl _
  | budget + 1, h => by
    rcases goes : mayVisit s h with ⟨_ | _ | _, h₁⟩
    · simp [visits, goes]
    · simp [visits, goes]
    rcases visited : visit s limits h₁ with ⟨_ | _, h₂⟩
    · simp [visits_of_failure goes visited]
    · have rest := length_visits_le s limits budget h₂
      rw [visits_of_visit goes visited, List.length_cons]
      omega

section Drive

variable {e : Execution}

theorem length_visitsOf_le (s : Surroundings σ) (limits : Limits) (expected : Status) (opening : Act (Held σ) Bool)
    (h : Held σ) : (visitsOf s limits expected opening h).length ≤ limits.steps.toNat := by
  unfold visitsOf
  split
  · split
    · split
      · exact length_visits_le s limits _ _
      · simp
    · simp
  · simp

/-- Whether it fails or not, the drive of a copy that is taken up sends out the calls of the nodes that it visits, and
gives the claim back. -/
theorem Tally.enter_sends (t : Tally s) (limits : Limits) (entry : Entry) (fits : t.valid d.world)
    (idle : e.id ∉ d.active) (admits : entry.Admits e) : (entry.enter s limits e).Ensures d
      (fun _ d' => Sends t d d' (callsOf (entry.visited s limits d e)))
      fun _ d' => Sends t d d' (callsOf (entry.visited s limits d e)) := by
  rw [Act.ensures_of_eq (entry.enter_eq limits idle admits), entry.visited_eq idle admits]
  have released {h : Held σ} (sends : (t.gathering limits).gains (claimed d e)
      ((t.gathering limits).gifts (visitsOf s limits entry.expected (entry.opening s) (claimed d e))) h)
      (settled : Bool) : Sends t d (h.desk.released e.id settled)
        (callsOf (visitsOf s limits entry.expected (entry.opening s) (claimed d e))) := by
    rw [t.gifts_eq_callsOf] at sends
    refine ⟨sends.valid, ?_, sends.sent⟩
    show without e.id h.desk.active = d.active
    rw [Sends.active sends]
    exact without_claimed idle
  apply ((t.gathering limits).drive_gains (entry.keeps_opening t.hushed.toStoring) fits).mono
  · rintro driven _ ⟨h, sends, _, rfl⟩
    exact released sends _
  · rintro failure _ ⟨h, sends, rfl⟩
    exact released sends _

end Drive

end TriggerFlow.Run
