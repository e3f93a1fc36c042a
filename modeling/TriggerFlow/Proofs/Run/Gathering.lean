import TriggerFlow.Proofs.Run.Calm

/-!
# What the visits of a drive add up to

Some things change on visits to nodes and nowhere else: what is sent out, what is merged into the variables. Each visit
makes its contribution, and everything else that is done in a drive leaves them alone. Then a drive, whether it fails or
not, comes to the contributions of its visits, in order, and each visit finds those of the visits before it.
-/

namespace TriggerFlow.Run

variable {σ β : Type} {s : Surroundings σ} {limits : Limits} {h h' : Held σ}

/-- The contributions of visits, and a manner in which everything else is done without any. -/
structure Gathering (s : Surroundings σ) (limits : Limits) (β : Type) where
  manner : Manner.Heeding s
  /-- What a visit contributes that is made in a state. -/
  gift : Held σ → List β
  gains : Held σ → List β → Held σ → Prop
  still : ∀ {h h'}, manner.goes h h' → gains h [] h'
  trans : ∀ {h h' h'' new more}, gains h new h' → gains h' more h'' → gains h (new ++ more) h''
  fits_of_gains : ∀ {h new h'}, gains h new h' → manner.fits h'
  visit : ∀ {h}, manner.fits h →
    (visit s limits).Ensures h (fun _ => gains h (gift h)) fun _ => gains h (gift h)

namespace Gathering

variable (m : Gathering s limits β)

/-- What visits contribute that are made in some states. -/
def gifts (states : List (Held σ)) : List β := states.flatMap m.gift

@[simp] theorem gifts_nil : m.gifts [] = [] := rfl

@[simp] theorem gifts_cons (v : Held σ) (rest : List (Held σ)) : m.gifts (v :: rest) = m.gift v ++ m.gifts rest :=
  List.flatMap_cons

theorem gifts_append (states more : List (Held σ)) : m.gifts (states ++ more) = m.gifts states ++ m.gifts more :=
  List.flatMap_append

/-- A loop comes to what its visits contribute. -/
theorem loop_gains : ∀ (budget : Nat) {h : Held σ}, m.manner.fits h → (loop s limits budget).Ensures h
    (fun _ => m.gains h (m.gifts (visits s limits budget h))) fun _ => m.gains h (m.gifts (visits s limits budget h))
  | 0, h, fits => by
    apply Act.ensures_bind.mpr
    apply (m.manner.keeps_mayVisit h fits).mono _ fun _ _ goes => m.still goes
    rintro (_ | _) h₁ goes <;> exact m.still goes
  | budget + 1, h, fits => by
    have may := m.manner.keeps_mayVisit h fits
    rcases goes : mayVisit s h with ⟨_ | _ | _, h₁⟩
    · rw [loop, Act.ensures_bind_of_error goes, visits, goes]
      exact m.still (may.of_error goes)
    · rw [loop, Act.ensures_bind_of_ok goes, visits_of_stay goes]
      exact m.still (may.of_ok goes)
    have first := m.still (may.of_ok goes)
    have here := m.visit (m.fits_of_gains first)
    refine (Act.ensures_bind_of_ok goes).mpr ?_
    rw [if_pos rfl]
    rcases visited : Run.visit s limits h₁ with ⟨_ | _, h₂⟩
    · rw [Act.ensures_bind_of_error visited, visits_of_failure goes visited, gifts_cons, gifts_nil, List.append_nil]
      exact m.trans first (here.of_error visited)
    · have gains := m.trans first (here.of_ok visited)
      rw [Act.ensures_bind_of_ok visited, visits_of_visit goes visited, gifts_cons]
      apply (loop_gains budget (m.fits_of_gains gains)).mono
      · exact fun _ _ rest => m.trans gains rest
      · exact fun _ _ rest => m.trans gains rest

/-- A visit of a loop finds what the visits before it have contributed. -/
theorem visits_gains : ∀ {budget : Nat} {h v : Held σ} {earlier later : List (Held σ)}, m.manner.fits h →
    visits s limits budget h = earlier ++ v :: later → m.gains h (m.gifts earlier) v
  | 0, h, v, earlier, later, _, all => by
    rw [visits] at all
    simp at all
  | budget + 1, h, v, earlier, later, fits, all => by
    have may := m.manner.keeps_mayVisit h fits
    rcases goes : mayVisit s h with ⟨_ | _ | _, h₁⟩
    · simp [visits, goes] at all
    · simp [visits, goes] at all
    have first := m.still (may.of_ok goes)
    have here := m.visit (m.fits_of_gains first)
    rcases visited : Run.visit s limits h₁ with ⟨_ | _, h₂⟩
    · rw [visits_of_failure goes visited] at all
      cases earlier with
      | nil =>
        obtain ⟨rfl, -⟩ := List.cons.inj all
        exact first
      | cons _ earlier => simp at all
    · rw [visits_of_visit goes visited] at all
      cases earlier with
      | nil =>
        obtain ⟨rfl, -⟩ := List.cons.inj all
        exact first
      | cons _ earlier =>
        obtain ⟨rfl, rest⟩ := List.cons.inj all
        rw [gifts_cons]
        have gains := m.trans first (here.of_ok visited)
        exact m.trans gains (visits_gains (m.fits_of_gains gains) rest)

section Drive

variable {expected : Status} {opening : Act (Held σ) Bool} (keeps : m.manner.Keeps opening)
include keeps

/-- What is done with a copy in hand comes to what its visits contribute. -/
theorem unlessMoved_gains (fits : m.manner.fits h) : (unlessMoved s expected (thenLoop s limits opening)).Ensures h
    (fun _ => m.gains h (m.gifts (visitsOf s limits expected opening h)))
    fun _ => m.gains h (m.gifts (visitsOf s limits expected opening h)) := by
  have unvisited {h' : Held σ} (goes : m.manner.goes h h') (none : visitsOf s limits expected opening h = []) :
      m.gains h (m.gifts (visitsOf s limits expected opening h)) h' := by
    rw [none]
    exact m.still goes
  have looks := m.manner.moved expected h fits
  rcases moved : movedOn s expected h with ⟨_ | _ | _, h₁⟩
  · rw [unlessMoved, Act.ensures_bind_of_error moved]
    exact unvisited (looks.of_error moved) (by simp [visitsOf, moved])
  · have first := looks.of_ok moved
    have heeds := m.manner.consume h₁ (m.manner.fits_of_goes first)
    rw [unlessMoved, Act.ensures_bind_of_ok moved]
    rcases asked : consumeCancel h₁ with ⟨_ | _ | _, h₂⟩
    · refine (Act.ensures_bind_of_error asked).mpr ?_
      exact unvisited (m.manner.trans first (heeds.of_error asked)) (by simp [visitsOf, moved, asked])
    · have second := m.manner.trans first (heeds.of_ok asked)
      have opens := keeps h₂ (m.manner.fits_of_goes second)
      refine (Act.ensures_bind_of_ok asked).mpr ?_
      rw [if_neg (by simp), thenLoop, bind_assoc]
      rcases opened : opening h₂ with ⟨_ | _ | _, h₃⟩
      · refine (Act.ensures_bind_of_error opened).mpr ?_
        exact unvisited (m.manner.trans second (opens.of_error opened)) (visitsOf_of_failure moved asked opened)
      · refine (Act.ensures_bind_of_ok opened).mpr ?_
        exact unvisited (m.manner.trans second (opens.of_ok opened)) (visitsOf_of_stay moved asked opened)
      · have third := m.manner.trans second (opens.of_ok opened)
        refine (Act.ensures_bind_of_ok opened).mpr (Act.ensures_bind.mpr ?_)
        rw [visitsOf_of_go moved asked opened]
        apply (m.loop_gains _ (m.manner.fits_of_goes third)).mono
        · exact fun _ _ rest => m.trans (m.still third) rest
        · exact fun _ _ rest => m.trans (m.still third) rest
    · have second := m.manner.trans first (heeds.of_ok asked)
      refine (Act.ensures_bind_of_ok asked).mpr (Act.ensures_bind.mpr ?_)
      have none : visitsOf s limits expected opening h = [] := visitsOf_of_cancel moved asked
      apply (m.manner.keeps_cancel h₂ (m.manner.fits_of_goes second)).mono
      · exact fun _ _ rest => unvisited (m.manner.trans second rest) none
      · exact fun _ _ rest => unvisited (m.manner.trans second rest) none
  · refine (Act.ensures_bind_of_ok moved).mpr ?_
    exact unvisited (looks.of_ok moved) (visitsOf_of_moved moved)

/-- A visit of a drive finds what the visits before it have contributed. -/
theorem visitsOf_gains {v : Held σ} {earlier later : List (Held σ)} (fits : m.manner.fits h)
    (all : visitsOf s limits expected opening h = earlier ++ v :: later) : m.gains h (m.gifts earlier) v := by
  have mem : v ∈ visitsOf s limits expected opening h := by simp [all]
  obtain ⟨h₁, h₂, h₃, moved, asked, opened, -⟩ := exists_opening mem
  have first := (m.manner.moved expected h fits).of_ok moved
  have second := m.manner.trans first ((m.manner.consume h₁ (m.manner.fits_of_goes first)).of_ok asked)
  have third := m.manner.trans second ((keeps h₂ (m.manner.fits_of_goes second)).of_ok opened)
  rw [visitsOf_of_go moved asked opened] at all
  exact m.trans (m.still third) (m.visits_gains (m.manner.fits_of_goes third) all)

/-- Whether it fails or not, the drive of a copy comes to what its visits contribute. -/
theorem drive_gains {e : Execution} {d : Desk σ} (fits : m.manner.fits (claimed d e)) :
    (drive s e (unlessMoved s expected (thenLoop s limits opening))).Ensures { d with active := e.id :: d.active }
      (fun driven d' => ∃ h, m.gains (claimed d e) (m.gifts (visitsOf s limits expected opening (claimed d e))) h ∧
        driven.copy = h.record ∧ d' = h.desk.released e.id h.record.isTerminal)
      fun _ d' => ∃ h, m.gains (claimed d e) (m.gifts (visitsOf s limits expected opening (claimed d e))) h ∧
        d' = h.desk.released e.id h.record.isTerminal := by
  apply ensures_drive.mpr
  apply Act.ensures_recover.mpr
  apply (m.unlessMoved_gains keeps fits).mono
  · exact fun _ h gains => ⟨h, gains, rfl, rfl⟩
  · intro failure h gains
    have all {h' : Held σ} (goes : m.manner.goes h h') :
        m.gains (claimed d e) (m.gifts (visitsOf s limits expected opening (claimed d e))) h' := by
      rw [← List.append_nil (m.gifts _)]
      exact m.trans gains (m.still goes)
    apply Act.ensures_bind.mpr
    apply (m.manner.keeps_abort failure h (m.fits_of_gains gains)).mono
    · exact fun _ h' goes => ⟨h', all goes, rfl, rfl⟩
    · exact fun _ h' goes => ⟨h', all goes, rfl⟩

/-- Of a visit it is enough to know that it is one of the drive. -/
theorem mem_visitsOf_gains {v : Held σ} (fits : m.manner.fits h)
    (mem : v ∈ visitsOf s limits expected opening h) : ∃ earlier later,
      visitsOf s limits expected opening h = earlier ++ v :: later ∧ m.gains h (m.gifts earlier) v := by
  obtain ⟨earlier, later, all⟩ := List.append_of_mem mem
  exact ⟨earlier, later, all, m.visitsOf_gains keeps fits all⟩

end Drive

end Gathering

/-- In a manner that all of a drive respects, there is nothing that only visits change. -/
def Manner.Driving.gathering (m : Manner.Driving s) (limits : Limits) : Gathering s limits Empty where
  manner := m.toHeeding
  gift _ := []
  gains h _ h' := m.goes h h'
  still goes := goes
  trans goes goes' := m.trans goes goes'
  fits_of_gains goes := m.fits_of_goes goes
  visit fits := m.keeps_visit limits _ fits

end TriggerFlow.Run
