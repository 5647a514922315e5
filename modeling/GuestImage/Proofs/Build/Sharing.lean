import Mathlib.Logic.Function.Basic
import GuestImage.Proofs.Build.Turn

/-!
# Builds that share a plan backend

Any number of builds take turns in any order and record their actions in one list. Since no build
looks at what the others recorded, the list is an interleaving of the lists that they record alone.
The induction is on the turns taken: a turn of one build leaves the outlook of every build as it is,
if each is credited with the actions that it recorded itself.
-/

namespace GuestImage.Build

universe u v

variable {ι : Type v} {jobs : ι → Job.{u}}

/-- The actions that one build recorded, out of a list that says who recorded each. -/
def share [DecidableEq ι] (who : ι) (log : List (ι × Action)) : List Action :=
  (log.filter fun entry => entry.1 = who).map (·.2)

/-- Builds that share a plan backend: what the backend holds, and where each build stands. -/
structure Workshop (jobs : ι → Job.{u}) where
  recorded : List Action
  processes : (who : ι) → Process (jobs who)

namespace Workshop

/-- No build has taken a turn yet. -/
def opening (jobs : ι → Job.{u}) (recorded : List Action) : Workshop jobs where
  recorded := recorded
  processes := fun who => .first (jobs who)

variable [DecidableEq ι]

/-- One build takes a turn. -/
def turn (workshop : Workshop jobs) (who : ι) : Workshop jobs :=
  let (process, recorded) := (workshop.processes who).turn workshop.recorded
  ⟨recorded, Function.update workshop.processes who process⟩

/-- Builds take turns in the given order, which may name each of them any number of times. -/
def play (workshop : Workshop jobs) : (schedule : List ι) → Workshop jobs
  | [] => workshop
  | who :: later => (workshop.turn who).play later

/-- What every turn adds to the list of the backend, with the build whose turn it is. -/
def log (workshop : Workshop jobs) : (schedule : List ι) → List (ι × Action)
  | [] => []
  | who :: later =>
      ((workshop.turn who).recorded.drop workshop.recorded.length).map (who, ·) ++
        (workshop.turn who).log later

/-! ## One turn -/

theorem recorded_turn (workshop : Workshop jobs) (who : ι) :
    (workshop.turn who).recorded = workshop.recorded ++ (workshop.processes who).added := by
  simp only [turn, Process.turn_eq (workshop.processes who) workshop.recorded]

theorem log_cons (workshop : Workshop jobs) (who : ι) (later : List ι) :
    workshop.log (who :: later) =
      (workshop.processes who).added.map (who, ·) ++ (workshop.turn who).log later := by
  rw [log, recorded_turn, List.drop_left]

theorem processes_turn_self (workshop : Workshop jobs) (who : ι) :
    (workshop.turn who).processes who = ((workshop.processes who).turn []).1 := by
  simp [turn, Process.turn_eq (workshop.processes who) workshop.recorded]

theorem processes_turn_of_ne (workshop : Workshop jobs) {who other : ι} (different : other ≠ who) :
    (workshop.turn who).processes other = workshop.processes other := by
  simp [turn, Function.update_of_ne different]

theorem share_append (who : ι) (first second : List (ι × Action)) :
    share who (first ++ second) = share who first ++ share who second := by
  simp [share]

theorem share_map_self (who : ι) (actions : List Action) :
    share who (actions.map (who, ·)) = actions := by
  simp [share, List.filter_map, Function.comp_def]

theorem share_map_of_ne {who other : ι} (different : other ≠ who) (actions : List Action) :
    share other (actions.map (who, ·)) = [] := by
  simp [share, List.filter_map, Function.comp_def, Ne.symm different]

/-! ## All turns -/

theorem play_append (workshop : Workshop jobs) (earlier later : List ι) :
    workshop.play (earlier ++ later) = (workshop.play earlier).play later := by
  induction earlier generalizing workshop with
  | nil => rfl
  | cons who earlier ih => exact ih (workshop.turn who)

/-- The backend holds what was recorded before and what the turns added, in the order of the
turns. -/
theorem recorded_play (workshop : Workshop jobs) (schedule : List ι) :
    (workshop.play schedule).recorded =
      workshop.recorded ++ (workshop.log schedule).map Prod.snd := by
  induction schedule generalizing workshop with
  | nil => simp [play, log]
  | cons who later ih => simp [play, log_cons, ih, recorded_turn, Function.comp_def]

/-- Turns change nothing about what a build comes to, whoever takes them. -/
theorem outlook_play (workshop : Workshop jobs) (schedule : List ι) (who : ι)
    (own : List Action) :
    ((workshop.play schedule).processes who).outlook (own ++ share who (workshop.log schedule)) =
      (workshop.processes who).outlook own := by
  induction schedule generalizing workshop own with
  | nil => simp [play, log, share]
  | cons next later ih =>
      rw [log_cons, share_append, ← List.append_assoc, play, ih]
      by_cases same : who = next
      · subst same
        rw [share_map_self, processes_turn_self, Process.outlook_turn]
      · rw [share_map_of_ne same, processes_turn_of_ne workshop same, List.append_nil]

/-- Every turn of a build brings it nearer to its end. -/
theorem turnsLeft_play (workshop : Workshop jobs) (schedule : List ι) (who : ι) :
    ((workshop.play schedule).processes who).stage.turnsLeft ≤
      (workshop.processes who).stage.turnsLeft - schedule.count who := by
  induction schedule generalizing workshop with
  | nil => exact Nat.le_refl _
  | cons next later ih =>
      by_cases same : who = next
      · subst same
        have taken := ih (workshop.turn who)
        rw [processes_turn_self] at taken
        have nearer := (workshop.processes who).turnsLeft_turn []
        rw [play, List.count_cons_self]
        omega
      · have taken := ih (workshop.turn next)
        rw [processes_turn_of_ne workshop same] at taken
        rw [play, List.count_cons_of_ne (Ne.symm same)]
        exact taken

/-- A build that has ended came to what it comes to alone. -/
theorem outcome_of_ended (workshop : Workshop jobs) (schedule : List ι) {who : ι}
    (fresh : workshop.processes who = .first (jobs who)) {result : Except Failure Summary}
    (ended : ((workshop.play schedule).processes who).stage = .ended result) :
    (jobs who).outcome [] =
      ⟨result, ((workshop.play schedule).processes who).announced,
        (((workshop.play schedule).processes who).state, share who (workshop.log schedule))⟩ := by
  have same := workshop.outlook_play schedule who []
  rw [fresh, Process.outlook_first, Process.outlook_ended ended] at same
  exact same.symm

theorem exists_ended (workshop : Workshop jobs) (schedule : List ι) {who : ι}
    (fresh : workshop.processes who = .first (jobs who))
    (enough : (jobs who).recipe.length < schedule.count who) :
    ∃ result, ((workshop.play schedule).processes who).stage = .ended result := by
  apply Stage.exists_ended
  have left := workshop.turnsLeft_play schedule who
  rw [fresh, Process.first, Stage.turnsLeft] at left
  rw [Recipe.length] at enough
  omega

/-! ## One build after the other -/

/-- The schedule in which builds take all their turns one after the other. -/
def inSequence (jobs : ι → Job.{u}) (order : List ι) : List ι :=
  order.flatMap fun who => List.replicate ((jobs who).recipe.length + 1) who

theorem processes_play_of_not_mem (workshop : Workshop jobs) {schedule : List ι} {who : ι}
    (absent : who ∉ schedule) :
    (workshop.play schedule).processes who = workshop.processes who := by
  induction schedule generalizing workshop with
  | nil => rfl
  | cons next later ih =>
      rw [List.mem_cons, not_or] at absent
      rw [play, ih _ absent.2, processes_turn_of_ne workshop absent.1]

theorem mem_of_mem_log (workshop : Workshop jobs) {schedule : List ι} {entry : ι × Action}
    (member : entry ∈ workshop.log schedule) : entry.1 ∈ schedule := by
  induction schedule generalizing workshop with
  | nil => cases member
  | cons next later ih =>
      rw [log_cons, List.mem_append, List.mem_map] at member
      rcases member with ⟨action, -, rfl⟩ | member
      · exact List.mem_cons_self
      · exact List.mem_cons_of_mem _ (ih _ member)

/-- A build that takes all its turns at once is the build on what it finds. -/
theorem recorded_play_replicate (workshop : Workshop jobs) {who : ι}
    (fresh : workshop.processes who = .first (jobs who)) :
    (workshop.play (List.replicate ((jobs who).recipe.length + 1) who)).recorded =
      ((jobs who).outcome workshop.recorded).state.2 := by
  have enough : (jobs who).recipe.length <
      (List.replicate ((jobs who).recipe.length + 1) who).count who := by
    rw [List.count_replicate_self]
    exact Nat.lt_succ_self _
  rcases workshop.exists_ended _ fresh enough with ⟨result, ended⟩
  have whole : share who (workshop.log (List.replicate ((jobs who).recipe.length + 1) who)) =
      (workshop.log (List.replicate ((jobs who).recipe.length + 1) who)).map Prod.snd := by
    rw [share, List.filter_eq_self.mpr]
    intro entry member
    exact decide_eq_true (List.eq_of_mem_replicate (workshop.mem_of_mem_log member))
  rw [Job.outcome_eq, workshop.outcome_of_ended _ fresh ended, recorded_play, ← whole]
  rfl

theorem recorded_play_inSequence (workshop : Workshop jobs) {order : List ι}
    (apart : order.Nodup) (fresh : ∀ who ∈ order, workshop.processes who = .first (jobs who)) :
    (workshop.play (inSequence jobs order)).recorded =
      order.foldl (fun recorded who => ((jobs who).outcome recorded).state.2)
        workshop.recorded := by
  induction order generalizing workshop with
  | nil => rfl
  | cons who order ih =>
      rcases List.nodup_cons.mp apart with ⟨once, apart⟩
      rcases List.forall_mem_cons.mp fresh with ⟨own, others⟩
      rw [inSequence, List.flatMap_cons, play_append]
      have untouched : ∀ other ∈ order,
          (workshop.play (List.replicate ((jobs who).recipe.length + 1) who)).processes other =
            .first (jobs other) := by
        intro other member
        rw [processes_play_of_not_mem, others other member]
        intro named
        rw [List.eq_of_mem_replicate named] at member
        exact once member
      have later := ih _ apart untouched
      rw [recorded_play_replicate workshop own] at later
      exact later

end Workshop

/-- Builds that share a plan backend are kept apart, in whatever order they take their turns. The
list of the backend is what was recorded before and an interleaving of what the builds record: the
share of every build is at any time a prefix of what it records alone, and all of it once the build
has ended, with the result that it has alone; a build that takes enough turns ends. What was
recorded once stays where it is. Builds that run one after the other are the special case in which
each finds what those before it left. -/
theorem sharing_keeps_builds_apart [DecidableEq ι] (jobs : ι → Job.{u}) (recorded : List Action)
    (schedule : List ι) :
    let opening := Workshop.opening jobs recorded
    let final := opening.play schedule
    let log := opening.log schedule
    final.recorded = recorded ++ log.map Prod.snd ∧
    (∀ earlier later, schedule = earlier ++ later →
      (opening.play earlier).recorded <+: final.recorded) ∧
    (∀ who, share who log <+: ((jobs who).outcome []).state.2) ∧
    (∀ who, (jobs who).recipe.length < schedule.count who →
      ∃ result, (final.processes who).stage = .ended result) ∧
    (∀ who result, (final.processes who).stage = .ended result →
      result = ((jobs who).outcome []).result ∧
      (final.processes who).announced = ((jobs who).outcome []).announced ∧
      share who log = ((jobs who).outcome []).state.2) ∧
    ∀ order, order.Nodup → schedule = Workshop.inSequence jobs order →
      final.recorded =
        order.foldl (fun recorded who => ((jobs who).outcome recorded).state.2) recorded := by
  intro opening final log
  refine ⟨opening.recorded_play schedule, ?kept, ?share, ?ends, ?alone, ?sequence⟩
  case kept =>
    rintro earlier later rfl
    have extended := (opening.play earlier).recorded_play later
    rw [← Workshop.play_append] at extended
    exact ⟨_, extended.symm⟩
  case share =>
    intro who
    have own := (final.processes who).isPrefix_outlook (share who log)
    have same := opening.outlook_play schedule who []
    rw [List.nil_append] at same
    rw [same] at own
    exact own
  case ends =>
    intro who enough
    exact opening.exists_ended schedule rfl enough
  case alone =>
    intro who result ended
    rw [opening.outcome_of_ended schedule rfl ended]
    exact ⟨rfl, rfl, rfl⟩
  case sequence =>
    rintro order apart rfl
    exact opening.recorded_play_inSequence apart fun _ _ => rfl

/-- Two builds take turns, and the second stops at its second call. The list of the backend holds
the actions in the order of the turns, but not the call that failed. -/
theorem sharing_keeps_builds_apart_two :
    let full : Backend.Injection := ⟨.run, none, 1, .file "disk full"⟩
    let quiet : Job := ⟨⟨[.of .origin "a" 1, .of .run "b" 2]⟩, Unit, fun _ _ => (.ok (), ()), ()⟩
    let failing : Job := ⟨⟨[.of .origin "c" 1, .of .run "d" 2, .of .run "e" 3]⟩, Nat,
      full.guard, 0⟩
    let jobs : Bool → Job := fun who => if who then failing else quiet
    let opening := Workshop.opening jobs [.setWorkdir "/w"]
    let schedule := [false, true, true, false, true, false]
    let final := opening.play schedule
    failing.backend = Backend.plan.failing full ∧
      final.recorded = [.setWorkdir "/w", .fetchOrigin ⟨"a", "latest"⟩,
        .fetchOrigin ⟨"c", "latest"⟩, .run "b" "/"] ∧
      share false (opening.log schedule) = [.fetchOrigin ⟨"a", "latest"⟩, .run "b" "/"] ∧
      share true (opening.log schedule) = [.fetchOrigin ⟨"c", "latest"⟩] ∧
      ((jobs false).outcome []).state.2 = [.fetchOrigin ⟨"a", "latest"⟩, .run "b" "/"] ∧
      (failing.outcome []).result = .error (.backend 2 "I/O error: disk full") := by
  intro full quiet failing jobs opening schedule final
  rcases sharing_keeps_builds_apart jobs [.setWorkdir "/w"] schedule with
    ⟨-, -, -, ends, alone, -⟩
  have whole : share false (opening.log schedule) = ((jobs false).outcome []).state.2 := by
    rcases ends false (by decide) with ⟨result, ended⟩
    exact (alone false result ended).2.2
  have stopped : Except.error (.backend 2 "I/O error: disk full") =
      ((jobs true).outcome []).result :=
    (alone true (.error (.backend 2 "I/O error: disk full")) rfl).1
  have recordsAlone : ((jobs false).outcome []).state.2 =
      [.fetchOrigin ⟨"a", "latest"⟩, .run "b" "/"] := by rfl
  have together : final.recorded = [.setWorkdir "/w", .fetchOrigin ⟨"a", "latest"⟩,
      .fetchOrigin ⟨"c", "latest"⟩, .run "b" "/"] := by decide +kernel
  have part : share true (opening.log schedule) = [.fetchOrigin ⟨"c", "latest"⟩] := by
    decide +kernel
  exact ⟨(Backend.failing_plan full).symm, together, whole.trans recordsAlone, part, recordsAlone,
    stopped.symm⟩

end GuestImage.Build
