import CachePurge.Proofs.Fanout.Schedule

/-!
The times of a fan-out. Each request starts at the first time, not before it is produced, at which
there is room for it. So the starts are in order, at no time more requests run than may, and whoever
waits does so behind as many requests as may run. More room or shorter requests make none of the
times later: for each request, there is still room at the time at which it would have started.
-/

namespace CachePurge.Fanout

/-- In ascending order whatever comes later than something greater is greater, too. -/
theorem le_length_filter_lt_of_pairwise {xs : List Nat} (ascending : xs.Pairwise (· ≤ ·))
    {i s t : Nat} (at_i : xs[i]? = some s) (before : t < s) :
    xs.length ≤ (xs.filter (t < ·)).length + i := by
  induction xs generalizing i with
  | nil => cases at_i
  | cons x rest ih =>
      obtain ⟨below, ascending⟩ := List.pairwise_cons.mp ascending
      cases i with
      | zero =>
          obtain rfl := Option.some.inj at_i
          have all : (x :: rest).filter (t < ·) = x :: rest := by
            refine List.filter_eq_self.mpr fun y inside => decide_eq_true ?_
            cases List.mem_cons.mp inside with
            | inl same => exact same ▸ before
            | inr later => exact Nat.lt_of_lt_of_le before (below y later)
          rw [all]
          exact Nat.le_refl _
      | succ i =>
          rw [List.getElem?_cons_succ] at at_i
          have rest_le := ih ascending at_i
          have kept : (rest.filter (t < ·)).length ≤ ((x :: rest).filter (t < ·)).length :=
            ((List.sublist_cons_self x rest).filter _).length_le
          rw [List.length_cons]
          omega

/-- A request starts no later than at any time at which there is room for it. -/
theorem startTime_le {limit produced t : Nat} {ends : List Nat} (later : produced ≤ t)
    (room : (ends.filter (t < ·)).length < limit) : startTime limit ends produced ≤ t := by
  rcases startTime_cases (Nat.zero_lt_of_lt room) ends produced with ⟨-, now⟩ | waits
  · rwa [now]
  · obtain ⟨running, perm, ascending, full, at_i⟩ := waits
    refine Nat.le_of_not_lt fun before => ?_
    have many := le_length_filter_lt_of_pairwise ascending at_i before
    rw [← filter_lt_filter_lt later, ← (perm.filter _).length_eq] at room
    omega

section Improve
variable {limit limit' : Nat}

/-- A request that follows on others is no later than one that follows on as many, none of which was
earlier. -/
theorem startTime_mono (wider : limit ≤ limit') (positive : 0 < limit) {ends ends' : List Nat}
    {produced produced' : Nat} (earlier : produced' ≤ produced)
    (fewer : ∀ t, produced ≤ t → (ends'.filter (t < ·)).length ≤ (ends.filter (t < ·)).length) :
    startTime limit' ends' produced' ≤ startTime limit ends produced := by
  obtain ⟨later, room⟩ := startTime_spec positive ends produced
  refine startTime_le (earlier.trans later) ?_
  have few := fewer _ later
  omega

end Improve

/-- How many of some requests run at a time. One that ends at it runs no longer. -/
def runningAt (spans : List Span) (t : Nat) : Nat :=
  spans.countP fun x => decide (x.started ≤ t) && decide (t < x.finished)

theorem runningAt_append (spans more : List Span) (t : Nat) :
    runningAt (spans ++ more) t = runningAt spans t + runningAt more t :=
  List.countP_append

theorem runningAt_singleton (span : Span) (t : Nat) :
    runningAt [span] t = if span.started ≤ t ∧ t < span.finished then 1 else 0 := by
  rw [runningAt, List.countP_singleton]
  simp only [Bool.and_eq_true, decide_eq_true_eq]

/-- When none starts any more, ever fewer run. -/
theorem runningAt_le {spans : List Span} {s t : Nat} (later : s ≤ t)
    (started : ∀ x ∈ spans, x.started ≤ s) : runningAt spans t ≤ runningAt spans s := by
  refine List.countP_mono_left fun x inside runs => ?_
  have before := started x inside
  simp only [Bool.and_eq_true, decide_eq_true_eq] at runs ⊢
  omega

/-- The span of a request of some duration is the one that comes after the earlier ones: it is
produced as the last of them starts, and starts as soon as fewer of them run than may at once. -/
structure Span.Follows (limit : Nat) (earlier : List Span) (duration : Nat) (span : Span) :
    Prop where
  produced : span.produced = (earlier.getLast?.map (·.started)).getD 0
  later : span.produced ≤ span.started
  room : runningAt earlier span.started < limit
  first : ∀ t, span.produced ≤ t → runningAt earlier t < limit → span.started ≤ t
  finished : span.finished = span.started + duration

/-- A request that comes after others was behind as many as may run at once, all the time from when
it was produced to when it started. -/
def Span.Behind (limit : Nat) (earlier : List Span) (span : Span) : Prop :=
  (earlier.countP fun x =>
    decide (x.started ≤ span.produced) && decide (span.started ≤ x.finished)) = limit

/-- What a schedule that is about to produce a request knows of the earlier ones. -/
structure Tracks (limit : Nat) (earlier : List Span) (ends : List Nat) (produced : Nat) : Prop where
  upon : produced = (earlier.getLast?.map (·.started)).getD 0
  started : ∀ x ∈ earlier, x.started ≤ produced
  running : ∀ t, produced ≤ t → (ends.filter (t < ·)).length = runningAt earlier t
  bounded : ∀ t, runningAt earlier t ≤ limit

section Step
variable {limit : Nat} {earlier : List Span} {ends : List Nat} {produced duration : Nat}
  {span : Span}

theorem Span.Follows.behind (follows : span.Follows limit earlier duration)
    (started : ∀ x ∈ earlier, x.started ≤ span.produced)
    (bounded : ∀ t, runningAt earlier t ≤ limit) (waits : span.produced < span.started) :
    span.Behind limit earlier := by
  obtain ⟨t, last⟩ := Nat.exists_eq_succ_of_ne_zero (Nat.ne_zero_of_lt waits)
  have full : ¬ runningAt earlier t < limit := fun room => by
    have first := follows.first t (by omega) room
    omega
  have same : runningAt earlier t = limit := Nat.le_antisymm (bounded t) (Nat.le_of_not_lt full)
  rw [Behind, ← same]
  refine List.countP_congr fun x inside => ?_
  have before := started x inside
  simp only [Bool.and_eq_true, decide_eq_true_eq]
  omega

theorem Span.Follows.bounded (follows : span.Follows limit earlier duration)
    (started : ∀ x ∈ earlier, x.started ≤ span.produced)
    (bounded : ∀ t, runningAt earlier t ≤ limit) (t : Nat) :
    runningAt (earlier ++ [span]) t ≤ limit := by
  rw [runningAt_append, runningAt_singleton]
  split
  · next runs =>
      have fewer := runningAt_le runs.1 fun x inside => (started x inside).trans follows.later
      have room := follows.room
      omega
  · exact bounded t

theorem Tracks.follows (tracks : Tracks limit earlier ends produced) (positive : 0 < limit)
    (duration : Nat) :
    let t := startTime limit ends produced
    Span.Follows limit earlier duration ⟨produced, t, t + duration⟩ := by
  obtain ⟨later, room⟩ := startTime_spec positive ends produced
  constructor
  case produced => exact tracks.upon
  case later => exact later
  case room => rwa [← tracks.running _ later]
  case first =>
    intro t after room
    exact startTime_le after (by rwa [tracks.running t after])
  case finished => rfl

/-- There is only one span that comes after others. -/
theorem Span.Follows.unique {other : Span} (follows : span.Follows limit earlier duration)
    (also_follows : other.Follows limit earlier duration) : span = other := by
  have produced : span.produced = other.produced :=
    follows.produced.trans also_follows.produced.symm
  have before := follows.first _ (produced ▸ also_follows.later) also_follows.room
  have after := also_follows.first _ (produced ▸ follows.later) follows.room
  have started : span.started = other.started := Nat.le_antisymm before after
  have finished : span.finished = other.finished := by
    rw [follows.finished, also_follows.finished, started]
  cases span
  cases other
  rw [Span.mk.injEq]
  exact ⟨produced, started, finished⟩

/-- The next request leaves a schedule with what it has to know of the one after it. -/
theorem Tracks.next (tracks : Tracks limit earlier ends produced) (positive : 0 < limit)
    (duration : Nat) :
    let t := startTime limit ends produced
    Tracks limit (earlier ++ [⟨produced, t, t + duration⟩])
      ((t + duration) :: ends.filter (t < ·)) t := by
  have follows := tracks.follows positive duration
  intro t
  have later : produced ≤ t := follows.later
  constructor
  case upon => rw [List.getLast?_concat]; rfl
  case started =>
    intro x inside
    cases List.mem_append.mp inside with
    | inl before => exact (tracks.started x before).trans later
    | inr new => exact Nat.le_of_eq (congrArg Span.started (List.mem_singleton.mp new))
  case running =>
    intro s after
    rw [runningAt_append, runningAt_singleton, ← tracks.running s (later.trans after),
      List.filter_cons, filter_lt_filter_lt after]
    simp only [decide_eq_true_eq, after, true_and]
    split
    · rfl
    · rfl
  case bounded => exact follows.bounded tracks.started tracks.bounded

end Step

/-- Some spans are those of requests of some durations of which a number may run at once: each one
follows on the earlier ones, they start in order, never more run than may, and whoever waits is
behind as many. -/
structure Timely (limit : Nat) (durations : List Nat) (spans : List Span) : Prop where
  length : spans.length = durations.length
  follows : ∀ (i : Nat) (span : Span) (duration : Nat), spans[i]? = some span →
    durations[i]? = some duration → span.Follows limit (spans.take i) duration
  ordered : spans.Pairwise (·.started ≤ ·.started)
  bounded : ∀ t, runningAt spans t ≤ limit
  behind : ∀ (i : Nat) (span : Span), spans[i]? = some span → span.produced < span.started →
    span.Behind limit (spans.take i)

/-- There is only one way in which the requests of a fan-out follow on each other. -/
theorem Timely.unique {limit : Nat} {durations : List Nat} {spans others : List Span}
    (timely : Timely limit durations spans) (also_timely : Timely limit durations others) :
    spans = others := by
  have same (i : Nat) (within : i ≤ durations.length) : spans.take i = others.take i := by
    induction i with
    | zero => rw [List.take_zero, List.take_zero]
    | succ i ih =>
        have earlier := ih (Nat.le_of_succ_le within)
        have bound : i < spans.length := by rwa [timely.length]
        have bound' : i < others.length := by rwa [also_timely.length]
        have at_i := List.getElem?_eq_getElem within
        have follows := timely.follows i _ _ (List.getElem?_eq_getElem bound) at_i
        rw [earlier] at follows
        have also_at := List.getElem?_eq_getElem bound'
        rw [List.take_succ_eq_append_getElem bound, List.take_succ_eq_append_getElem bound',
          earlier, follows.unique (also_timely.follows i _ _ also_at at_i)]
  have all := same durations.length (Nat.le_refl _)
  rwa [← timely.length, List.take_length, timely.length, ← also_timely.length,
    List.take_length] at all

section Schedule
variable (setting : Nat) (durations : List Nat)

theorem length_schedule : (schedule setting durations).length = durations.length :=
  length_scheduleAfter _ _ _ _

/-- However far a schedule has come, the rest is what comes after the requests so far. -/
theorem tracks_schedule {i : Nat} (within : i ≤ durations.length) :
    ∃ ends produced, Tracks (max setting 1) ((schedule setting durations).take i) ends produced ∧
      (schedule setting durations).drop i =
        scheduleAfter (max setting 1) ends produced (durations.drop i) := by
  have positive : 0 < max setting 1 := Nat.lt_of_lt_of_le Nat.zero_lt_one (Nat.le_max_right _ _)
  induction i with
  | zero =>
      refine ⟨[], 0, ?_, rfl⟩
      constructor
      case upon => rfl
      case started => simp
      case running => exact fun _ _ => rfl
      case bounded => exact fun _ => Nat.zero_le _
  | succ i ih =>
      obtain ⟨ends, produced, tracks, rest⟩ := ih (Nat.le_of_succ_le within)
      rw [List.drop_eq_getElem_cons within, scheduleAfter] at rest
      have bound : i < (schedule setting durations).length := by rwa [length_schedule]
      rw [List.drop_eq_getElem_cons bound, List.cons.injEq] at rest
      refine ⟨_, _, ?_, rest.2⟩
      rw [List.take_succ_eq_append_getElem bound, rest.1]
      exact tracks.next positive durations[i]

variable {setting durations} {i : Nat} {span : Span} {duration : Nat}

theorem tracks_getElem? (at_i : (schedule setting durations)[i]? = some span)
    (of_i : durations[i]? = some duration) :
    ∃ ends, Tracks (max setting 1) ((schedule setting durations).take i) ends span.produced ∧
      span.Follows (max setting 1) ((schedule setting durations).take i) duration := by
  have positive : 0 < max setting 1 := Nat.lt_of_lt_of_le Nat.zero_lt_one (Nat.le_max_right _ _)
  obtain ⟨bound, rfl⟩ := List.getElem?_eq_some_iff.mp of_i
  obtain ⟨ends, produced, tracks, rest⟩ := tracks_schedule setting durations (Nat.le_of_lt bound)
  have first := congrArg List.head? rest
  rw [List.head?_drop, at_i, List.drop_eq_getElem_cons bound, scheduleAfter, List.head?_cons,
    Option.some_inj] at first
  have follows := tracks.follows positive durations[i]
  rw [first]
  exact ⟨ends, tracks, follows⟩

end Schedule

theorem schedule_timely (setting : Nat) (durations : List Nat) :
    Timely (max setting 1) durations (schedule setting durations) := by
  have length := length_schedule setting durations
  have place {i : Nat} {span : Span} (at_i : (schedule setting durations)[i]? = some span) :
      ∃ ends duration,
        Tracks (max setting 1) ((schedule setting durations).take i) ends span.produced ∧
        span.Follows (max setting 1) ((schedule setting durations).take i) duration := by
    obtain ⟨bound, -⟩ := List.getElem?_eq_some_iff.mp at_i
    rw [length] at bound
    obtain ⟨ends, known⟩ := tracks_getElem? at_i (List.getElem?_eq_getElem bound)
    exact ⟨ends, _, known⟩
  constructor
  case length => exact length
  case follows =>
    intro i span duration at_i of_i
    obtain ⟨-, -, follows⟩ := tracks_getElem? at_i of_i
    exact follows
  case ordered =>
    refine List.pairwise_iff_getElem.mpr fun i j bound_i bound_j before => ?_
    obtain ⟨_, _, tracks, follows⟩ := place (List.getElem?_eq_getElem bound_j)
    have inside : (schedule setting durations)[i] ∈ (schedule setting durations).take j :=
      List.mem_take_iff_getElem.mpr ⟨i, by omega, rfl⟩
    exact (tracks.started _ inside).trans follows.later
  case bounded =>
    obtain ⟨_, _, tracks, -⟩ := tracks_schedule setting durations (Nat.le_refl _)
    rw [← length, List.take_length] at tracks
    exact tracks.bounded
  case behind =>
    intro i span at_i waits
    obtain ⟨_, _, tracks, follows⟩ := place at_i
    exact follows.behind tracks.started tracks.bounded waits

/-- A request is produced, starts and finishes no later than another. -/
structure Span.NoLater (x y : Span) : Prop where
  produced : x.produced ≤ y.produced
  started : x.started ≤ y.started
  finished : x.finished ≤ y.finished

theorem scheduleAfter_improves {limit limit' : Nat} (positive : 0 < limit) (wider : limit ≤ limit')
    {durations durations' : List Nat} (shorter : List.Forall₂ (· ≤ ·) durations' durations)
    {ends ends' : List Nat} {produced produced' : Nat} (earlier : produced' ≤ produced)
    (fewer : ∀ t, produced ≤ t → (ends'.filter (t < ·)).length ≤ (ends.filter (t < ·)).length) :
    List.Forall₂ Span.NoLater (scheduleAfter limit' ends' produced' durations')
      (scheduleAfter limit ends produced durations) := by
  induction shorter generalizing ends ends' produced produced' with
  | nil => exact .nil
  | @cons duration' duration _ _ briefer _ ih =>
      have sooner := startTime_mono wider positive earlier fewer
      have later := (startTime_spec positive ends produced).1
      rw [scheduleAfter, scheduleAfter]
      refine .cons ⟨earlier, sooner, by dsimp only; omega⟩ (ih sooner fun t after => ?_)
      have few := fewer t (later.trans after)
      rw [List.filter_cons, List.filter_cons, filter_lt_filter_lt after,
        filter_lt_filter_lt (sooner.trans after)]
      simp only [decide_eq_true_eq]
      split
      · next runs =>
          rw [if_pos (by omega), List.length_cons, List.length_cons]
          exact Nat.succ_le_succ few
      · next done =>
          split
          · exact few.trans (Nat.le_succ _)
          · exact few

/-- With no less room and requests that take no longer, each request is produced, starts and
finishes no later; and the times of either schedule are those of a fan-out. -/
theorem schedule_improves {setting setting' : Nat} {durations durations' : List Nat}
    (wider : setting ≤ setting') (shorter : List.Forall₂ (· ≤ ·) durations' durations) :
    List.Forall₂ Span.NoLater (schedule setting' durations') (schedule setting durations) ∧
      Timely (max setting 1) durations (schedule setting durations) ∧
      Timely (max setting' 1) durations' (schedule setting' durations') := by
  have positive : 0 < max setting 1 := Nat.lt_of_lt_of_le Nat.zero_lt_one (Nat.le_max_right _ _)
  have more : max setting 1 ≤ max setting' 1 := by omega
  exact ⟨scheduleAfter_improves positive more shorter (Nat.le_refl 0) fun _ _ => Nat.le_refl _,
    schedule_timely setting durations, schedule_timely setting' durations'⟩

/-- With a second place the second request need not wait for the first one. -/
theorem schedule_improves_pair :
    schedule 0 [4, 3] = [⟨0, 0, 4⟩, ⟨0, 4, 7⟩] ∧ schedule 2 [4, 1] = [⟨0, 0, 4⟩, ⟨0, 0, 1⟩] ∧
      List.Forall₂ Span.NoLater (schedule 2 [4, 1]) (schedule 0 [4, 3]) :=
  ⟨by decide +kernel, by decide +kernel,
    (schedule_improves (by decide) (.cons (by decide) (.cons (by decide) .nil))).1⟩

end CachePurge.Fanout
