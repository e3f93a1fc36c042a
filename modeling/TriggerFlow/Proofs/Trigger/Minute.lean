import TriggerFlow.Proofs.Trigger.Watch
import Mathlib.Data.List.Count

/-!
# Schedules fire once in a minute

A workflow with a schedule is asked for at the first tick in a minute that its schedule matches, and at no other tick in
that minute. That is so over any number of ticks that do not go back in time, whatever is edited between them and
whatever comes of the launches. Minutes are told apart by universal time, so that ticks may tell different offsets.
-/

namespace TriggerFlow

namespace Instant

/-- The minute of a point in time, counted by universal time. -/
def minuteNumber (t : Instant) : Int := t.universal / minuteLength

/-- Where offsets are known in whole minutes, minutes begin together if they have the same number. -/
theorem same_startOfMinute {t t' : Instant} (aware : t.isAware = true) (aware' : t'.isAware = true)
    (minutes : t.InMinutes) (minutes' : t'.InMinutes) :
    t.startOfMinute.same t'.startOfMinute = true ↔ t.minuteNumber = t'.minuteNumber := by
  obtain ⟨wall, _ | offset⟩ := t
  · cases aware
  obtain ⟨wall', _ | offset'⟩ := t'
  · cases aware'
  have whole : offset % 60 = 0 := minutes offset rfl
  have whole' : offset' % 60 = 0 := minutes' offset' rfl
  rw [same, Bool.and_eq_true, decide_eq_true_eq, decide_eq_true_eq]
  refine (and_iff_right rfl).trans ?_
  change wall - wall % 60000000 - offset * 1000000 = wall' - wall' % 60000000 - offset' * 1000000 ↔
    (wall - offset * 1000000) / 60000000 = (wall' - offset' * 1000000) / 60000000
  omega

/-- What is the same point in time is the same as a third. -/
theorem same_congr {t t' : Instant} (same : t.same t' = true) (third : Instant) : t.same third = t'.same third := by
  simp only [Instant.same, Bool.and_eq_true, decide_eq_true_eq] at same ⊢
  rw [same.1, same.2]

theorem minuteNumber_mono {t t' : Instant} (le : t.universal ≤ t'.universal) : t.minuteNumber ≤ t'.minuteNumber :=
  Int.ediv_le_ediv (by decide) le

end Instant

/-- Whether a trigger is a schedule that a minute matches. -/
def Trigger.matchesAt (t : Trigger) (minute : Instant) : Bool :=
  t.kind = .schedule && (t.schedule?.bind Schedule.read?).any fun schedule => schedule.isDue minute

namespace Sight

/-- The tick falls in a minute that the schedule of the workflow matches. -/
def Matches (sight : Sight) : Bool := sight.trigger.matchesAt sight.now.startOfMinute

/-- The remembered minute is that of a point in time. -/
def recalls (remembered : Option Instant) (minute : Instant) : Bool := remembered.any fun last => last.same minute

theorem recalls_eq_false {remembered : Option Instant} {minute : Instant} :
    recalls remembered minute = false ↔ ∀ t ∈ remembered, t.same minute = false := by
  cases remembered <;> simp [recalls]

/-- A look at a schedule: it fires in a minute that it matches, unless it has fired there, and remembers the minute. -/
theorem look_schedule {sight : Sight} (kind : sight.trigger.kind = .schedule) (remembered : TriggerMemory) :
    sight.look remembered =
      if sight.Matches && !recalls remembered.lastMinute sight.now.startOfMinute then
        ⟨true, { remembered with lastMinute := some sight.now.startOfMinute }⟩
      else ⟨false, remembered⟩ := by
  have look : sight.look remembered =
      Trigger.lookAtSchedule sight.trigger.schedule? sight.now.startOfMinute remembered := by
    rw [look, Trigger.glance, kind]
  rw [look, Trigger.lookAtSchedule, Matches, Trigger.matchesAt, kind, recalls]
  cases sight.trigger.schedule?.bind Schedule.read? with
  | none => rfl
  | some schedule =>
    cases due : schedule.isDue sight.now.startOfMinute <;>
      cases fired : remembered.lastMinute.any fun last => last.same sight.now.startOfMinute <;>
        simp [due]

/-- A look at anything but a schedule leaves the remembered minute alone. -/
theorem lastMinute_look {sight : Sight} (kind : sight.trigger.kind ≠ .schedule) (remembered : TriggerMemory) :
    (sight.look remembered).memory.lastMinute = remembered.lastMinute := by
  unfold look Trigger.glance
  split
  · exact absurd ‹_› kind
  · unfold Trigger.lookAtValue
    split <;> rfl
  · rfl

/-- What is remembered after a tick is the minute of the tick if the schedule matches it. -/
theorem Follows.recalls {sight : Sight} {before after : TriggerMemory} (follows : sight.Follows before after)
    (minutes : sight.now.InMinutes) (minute : Instant) : Sight.recalls after.lastMinute minute =
      if sight.Matches then sight.now.startOfMinute.same minute else Sight.recalls before.lastMinute minute := by
  have kept : Sight.recalls after.lastMinute minute = Sight.recalls (sight.look before).memory.lastMinute minute := by
    obtain ⟨-, ⟨none, none'⟩ | ⟨s, t, here, here', same⟩⟩ := TriggerMemory.same_iff.mp (follows.minute minutes)
    · rw [none, none']
    · rw [here, here']
      exact (Instant.same_congr same minute).symm
  rw [kept]
  by_cases kind : sight.trigger.kind = .schedule
  · rw [look_schedule kind]
    cases matched : sight.Matches with
    | false => rfl
    | true =>
      cases fired : Sight.recalls before.lastMinute sight.now.startOfMinute with
      | false => rfl
      | true =>
        obtain ⟨last, here, same⟩ := (Option.any_eq_true _ _).mp fired
        simp only [here, Sight.recalls, Option.any_some, Bool.not_true, Bool.and_false, Bool.false_eq_true, if_false,
          if_true]
        exact Instant.same_congr same minute
  · have unmatched : sight.Matches = false := by simp [Matches, Trigger.matchesAt, kind]
    rw [lastMinute_look kind, unmatched]
    rfl

end Sight

/-- Items are related in pairs if each is to all that stand before it. -/
theorem pairwise_of_split {α : Type} {R : α → α → Prop} {items : List α}
    (split : ∀ before item after, items = before ++ item :: after → ∀ earlier ∈ before, R earlier item) :
    items.Pairwise R := by
  induction items using List.reverseRecOn with
  | nil => exact .nil
  | append_singleton items last ih =>
    refine List.pairwise_append.mpr ⟨ih fun before item after here => ?_, List.pairwise_singleton .., ?_⟩
    · exact split before item (after ++ [last]) (by simp [here])
    · rintro earlier mem _ one
      rw [List.mem_singleton.mp one]
      exact split items last [] rfl earlier mem

/-- What each of several lists has once, and no two of them have, comes once in all of them. -/
theorem count_flatMap_le_one {α β : Type} [DecidableEq β] {items : List α} {f : α → List β} {b : β}
    (each : ∀ a ∈ items, (f a).count b ≤ 1) (apart : items.Pairwise fun a a' => b ∈ f a → b ∉ f a') :
    (items.flatMap f).count b ≤ 1 := by
  induction items with
  | nil => simp
  | cons a rest ih =>
    obtain ⟨none, apart⟩ := List.pairwise_cons.mp apart
    rw [List.flatMap_cons, List.count_append]
    by_cases here : b ∈ f a
    · have missing : b ∉ rest.flatMap f := by
        intro mem
        obtain ⟨a', mem, there⟩ := List.mem_flatMap.mp mem
        exact none a' mem here there
      rw [List.count_eq_zero_of_not_mem missing]
      exact each a (List.mem_cons_self ..)
    · rw [List.count_eq_zero_of_not_mem here, Nat.zero_add]
      exact ih (fun a mem => each a (List.mem_cons_of_mem _ mem)) apart

namespace Watch

variable {id : String} {outset s : Store} {sights : List Sight}

/-- The last minute that a schedule has matched in the course of the ticks, or else the one that was remembered
before them. -/
def lastMatched (remembered : Option Instant) (sights : List Sight) : Option Instant :=
  ((sights.filter Sight.Matches).getLast?.map fun sight => sight.now.startOfMinute).or remembered

/-- What is remembered is the last minute that has been matched. -/
theorem recalls_lastMatched (watch : Watch id outset sights s) (mapped : outset.memories.keys.Nodup)
    (minutes : ∀ sight ∈ sights, sight.now.InMinutes) :
    (∀ minute, Sight.recalls (s.remembers id).lastMinute minute =
      Sight.recalls (lastMatched (outset.remembers id).lastMinute sights) minute) ∧
    ∀ before sight after, sights = before ++ sight :: after →
      (sight.trigger.kind = .schedule → sight.asked = if sight.Matches && !Sight.recalls
        (lastMatched (outset.remembers id).lastMinute before) sight.now.startOfMinute then [.schedule] else []) ∧
      (sight.asked = [sight.trigger.kind] ∨ sight.asked = []) := by
  refine watch.follows_induction mapped (P := fun sights remembered =>
    (∀ sight ∈ sights, sight.now.InMinutes) →
      (∀ minute, Sight.recalls remembered.lastMinute minute =
        Sight.recalls (lastMatched (outset.remembers id).lastMinute sights) minute) ∧
      ∀ before sight after, sights = before ++ sight :: after →
        (sight.trigger.kind = .schedule → sight.asked = if sight.Matches && !Sight.recalls
          (lastMatched (outset.remembers id).lastMinute before) sight.now.startOfMinute then [.schedule] else []) ∧
        (sight.asked = [sight.trigger.kind] ∨ sight.asked = [])) ?_ ?_ minutes
  · exact fun _ => ⟨fun _ => rfl, fun before sight after none => by simp at none⟩
  · intro sights sight before after ih follows minutes
    obtain ⟨known, earlier⟩ := ih fun sight mem => minutes sight (List.mem_append_left _ mem)
    constructor
    · intro minute
      rw [follows.recalls (minutes sight (by simp)), known, lastMatched, lastMatched, List.filter_append]
      cases matched : sight.Matches <;> simp [matched, Sight.recalls]
    · intro front here back split
      rcases split_of_snoc split with ⟨rfl, rfl, -⟩ | ⟨rest, split⟩
      · constructor
        · intro kind
          rw [follows.asked, Sight.look_schedule kind, kind, ← known]
          split <;> rfl
        · rw [follows.asked]
          split
          · exact .inl rfl
          · exact .inr rfl
      · exact earlier _ _ _ split

/-- A tick is the first one in its minute that the schedule matches. If it is the first one of all, the minute must not
be the one that was remembered before. -/
structure FirstInMinute (remembered : Option Instant) (before : List Sight) (sight : Sight) : Prop where
  matched : sight.Matches = true
  first : ∀ earlier ∈ before, earlier.Matches = true → earlier.now.minuteNumber ≠ sight.now.minuteNumber
  new : (∀ earlier ∈ before, earlier.Matches = false) → ∀ t ∈ remembered, t.same sight.now.startOfMinute = false

/-- Ticks by clocks that tell their offsets in whole minutes, and that do not go back. -/
structure Timely (sights : List Sight) : Prop where
  aware : ∀ sight ∈ sights, sight.now.isAware = true
  minutes : ∀ sight ∈ sights, sight.now.InMinutes
  ordered : sights.Pairwise fun earlier later => earlier.now.universal ≤ later.now.universal

/-- Since ticks do not go back, the last minute that has been matched stands for all of them. -/
theorem firstInMinute_iff {remembered : Option Instant} {before after : List Sight} {sight : Sight}
    (timely : Timely (before ++ sight :: after)) : FirstInMinute remembered before sight ↔
      (sight.Matches && !Sight.recalls (lastMatched remembered before) sight.now.startOfMinute) = true := by
  have aware := timely.aware sight (by simp)
  have minutes := timely.minutes sight (by simp)
  have upTo : ∀ earlier ∈ before, earlier.now.universal ≤ sight.now.universal := fun earlier mem =>
    (List.pairwise_append.mp timely.ordered).2.2 earlier mem sight (List.mem_cons_self ..)
  rw [Bool.and_eq_true, Bool.not_eq_true', lastMatched]
  rcases List.eq_nil_or_concat (before.filter Sight.Matches) with none | ⟨front, last, whole⟩
  · have unmatched : ∀ earlier ∈ before, earlier.Matches = false := by simpa using none
    rw [none]
    constructor
    · exact fun first => ⟨first.matched, Sight.recalls_eq_false.mpr (first.new unmatched)⟩
    · rintro ⟨matched, new⟩
      refine ⟨matched, fun earlier mem here => ?_, fun _ => Sight.recalls_eq_false.mp new⟩
      rw [unmatched earlier mem] at here
      cases here
  · obtain ⟨mem, matched'⟩ := List.mem_filter.mp (show last ∈ before.filter Sight.Matches by simp [whole])
    have recalls : Sight.recalls (((before.filter Sight.Matches).getLast?.map fun sight => sight.now.startOfMinute).or
        remembered) sight.now.startOfMinute = last.now.startOfMinute.same sight.now.startOfMinute := by
      simp [whole, Sight.recalls]
    have same := Instant.same_startOfMinute (timely.aware last (by simp [mem])) aware
      (timely.minutes last (by simp [mem])) minutes
    rw [recalls]
    constructor
    · intro first
      refine ⟨first.matched, ?_⟩
      rw [← Bool.not_eq_true, same]
      exact first.first last mem matched'
    · rintro ⟨matched, other⟩
      rw [← Bool.not_eq_true, same] at other
      refine ⟨matched, fun earlier here matched'' => ?_, fun unmatched => ?_⟩
      · -- Whatever has been matched before the last match lies no later than it, and no later than the tick.
        have ordered : (front ++ [last]).Pairwise fun earlier later => earlier.now.universal ≤ later.now.universal := by
          have all := ((List.pairwise_append.mp timely.ordered).1.sublist (List.filter_sublist (p := Sight.Matches)))
          rwa [whole, List.concat_eq_append] at all
        have among : earlier ∈ front ++ [last] := by
          have here := List.mem_filter.mpr ⟨here, matched''⟩
          rwa [whole, List.concat_eq_append] at here
        rcases List.mem_append.mp among with sooner | now
        · have low := Instant.minuteNumber_mono
            ((List.pairwise_append.mp ordered).2.2 earlier sooner last (List.mem_singleton_self _))
          have high := Instant.minuteNumber_mono (upTo last mem)
          omega
        · rwa [List.mem_singleton.mp now]
      · rw [unmatched last mem] at matched'
        cases matched'

/-- **Schedules fire once in a minute.** Over ticks that do not go back, a workflow is asked for by its schedule at the
first tick of a minute that the schedule, as it is then, matches, and at no other; so at most once in each minute. -/
theorem fires_once (watch : Watch id outset sights s) (mapped : outset.memories.keys.Nodup) (timely : Timely sights) :
    (∀ before sight after, sights = before ++ sight :: after → sight.trigger.kind = .schedule →
      (FirstInMinute (outset.remembers id).lastMinute before sight → sight.asked = [.schedule]) ∧
        (¬ FirstInMinute (outset.remembers id).lastMinute before sight → sight.asked = [])) ∧
    ∀ minute,
      ((sights.filter fun sight => sight.now.minuteNumber = minute).flatMap Sight.asked).count .schedule ≤ 1 := by
  obtain ⟨-, asked⟩ := watch.recalls_lastMatched mapped timely.minutes
  have exact : ∀ before sight after, sights = before ++ sight :: after → sight.trigger.kind = .schedule →
      (FirstInMinute (outset.remembers id).lastMinute before sight → sight.asked = [.schedule]) ∧
        (¬ FirstInMinute (outset.remembers id).lastMinute before sight → sight.asked = []) := by
    intro before sight after split kind
    rw [firstInMinute_iff (split ▸ timely), (asked before sight after split).1 kind]
    exact ⟨fun first => if_pos first, fun other => if_neg other⟩
  have timed : ∀ before sight after, sights = before ++ sight :: after → .schedule ∈ sight.asked →
      FirstInMinute (outset.remembers id).lastMinute before sight := by
    intro before sight after split mem
    have kind : sight.trigger.kind = .schedule := by
      rcases (asked before sight after split).2 with one | none
      · exact (List.mem_singleton.mp (one ▸ mem)).symm
      · simp [none] at mem
    by_contra other
    simp [(exact before sight after split kind).2 other] at mem
  have apart : sights.Pairwise fun earlier later => earlier.now.minuteNumber = later.now.minuteNumber →
      .schedule ∈ earlier.asked → .schedule ∉ later.asked := by
    refine pairwise_of_split fun before later after split earlier mem same fired again => ?_
    obtain ⟨front, back, rfl⟩ := List.append_of_mem mem
    have matched := (timed front earlier (back ++ later :: after) (by simp [split]) fired).matched
    exact (timed _ later after split again).first earlier mem matched same
  refine ⟨exact, fun minute => count_flatMap_le_one ?_ ?_⟩
  · intro sight mem
    obtain ⟨before, after, split⟩ := List.append_of_mem (List.mem_of_mem_filter mem)
    rcases (asked before sight after split).2 with one | none
    · rw [one]
      exact List.count_le_length
    · simp [none]
  · refine (apart.sublist List.filter_sublist).imp_of_mem fun {earlier later} mem mem' apart => apart ?_
    have here : earlier.now.minuteNumber = minute := by simpa using List.of_mem_filter mem
    have there : later.now.minuteNumber = minute := by simpa using List.of_mem_filter mem'
    exact here.trans there.symm

end Watch

end TriggerFlow

namespace TriggerFlow.Trial

open Launcher

/-- A schedule that every minute matches. -/
def minutely : Trigger := ⟨.schedule, [("schedule", .text "* * * * *")]⟩

theorem minutely_sound : (quick minutely).defects = .ok [] :=
  Graph.defects_of_sorted (by decide +kernel) (by decide +kernel) (by decide +kernel)

/-- Half a minute after nine. -/
def soon : Instant := .ofParts ⟨2025, 3, 3⟩ 9 0 30 0 (some 0)

theorem soon_shown : soon.Shown := ⟨by decide +kernel, by decide⟩

/-- It is asked for at nine, and not again in that minute. -/
theorem minutely_fires_once : ∃ s first second, Watch "watched" (watchedFrom minutely)
    [⟨watched minutely, minutely, nine, [], first⟩, ⟨watched minutely, minutely, soon, [], second⟩] s ∧
    first = [.schedule] ∧ second = [] := by
  obtain ⟨first, watch⟩ := watched_tick minutely_sound .outset rfl nine_shown []
  obtain ⟨second, watch⟩ := watched_tick minutely_sound watch (by decide +kernel) soon_shown []
  have matches_nine : minutely.matchesAt nine.startOfMinute = true := by decide +kernel
  have timely : Watch.Timely [⟨watched minutely, minutely, nine, [], first⟩,
      ⟨watched minutely, minutely, soon, [], second⟩] :=
    ⟨by simp; decide, by simp [Instant.InMinutes]; decide, by simp; decide⟩
  have once := (watch.fires_once List.nodup_nil timely).1
  have begins : Watch.FirstInMinute none [] ⟨watched minutely, minutely, nine, [], first⟩ :=
    ⟨matches_nine, by simp, fun _ t remembered => by cases remembered⟩
  refine ⟨_, first, second, watch, (once [] _ [_] rfl rfl).1 begins, (once [_] _ [] rfl rfl).2 fun again => ?_⟩
  have together : nine.minuteNumber = soon.minuteNumber := by decide +kernel
  exact again.first _ (List.mem_singleton_self _) matches_nine together

end TriggerFlow.Trial
