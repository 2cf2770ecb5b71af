import AimailBridge.Foundation.Runs

/-!
# Fixed-window counters

A counter that opens a window at a call, admits calls as long as the window is open and not full,
and opens the next window at the first call after it.  A refusal means that the limit has been
reached within one length of a window.  Over any stretch of time the limit holds exactly when, at
each call that still fits into its window, the windows before it leave room as well.
-/

namespace Foundation

/-- A counter for one client, with the calls of the client so far. -/
structure WindowCounter where
  /-- When the last window was opened, and how many calls it has admitted. -/
  window : Option (Nat × Nat)
  /-- The calls with their answers, newest first. -/
  history : List (Nat × Bool)

namespace WindowCounter

/-- The counter before the first call. -/
def start : WindowCounter :=
  ⟨none, []⟩

section Calls

variable (limit length : Nat)

/-- The answer to a call, and the window after it. -/
def answer (now : Nat) : Option (Nat × Nat) → Bool × (Nat × Nat)
  | none => (true, now, 1)
  | some (opened, count) =>
      if opened + length ≤ now then (true, now, 1)
      else if limit ≤ count then (false, opened, count)
      else (true, opened, count + 1)

/-- The counter after a call. -/
def call (counter : WindowCounter) (now : Nat) : WindowCounter :=
  let (admitted, window) := answer limit length now counter.window
  ⟨some window, (now, admitted) :: counter.history⟩

end Calls

/-- The times of the admitted calls. -/
def admitted (counter : WindowCounter) : List Nat :=
  (counter.history.filter Prod.snd).map Prod.fst

/-- The window that a call falls into, if it opens no new one: when that one opens, and what it has
admitted so far. -/
def openWindow (length now : Nat) : Option (Nat × Nat) → Nat × Nat
  | none => (now, 0)
  | some (opened, count) => if opened + length ≤ now then (now, 0) else (opened, count)

/-- The time lies in the stretch of the given span. -/
def inStretch (first span time : Nat) : Bool :=
  first ≤ time && time ≤ first + span

/-- No stretch of the given span has more than the limit of these times. -/
def Bounded (span limit : Nat) (times : List Nat) : Prop :=
  ∀ first, times.countP (inStretch first span) ≤ limit

/-- A call that fits into its window fits in beside what the windows before it have admitted within
one span. -/
def HasRoom (span limit length : Nat) (counter : WindowCounter) (now : Nat) : Prop :=
  (openWindow length now counter.window).2 < limit →
    counter.admitted.countP (fun time =>
        time < (openWindow length now counter.window).1 && now ≤ time + span) +
      (openWindow length now counter.window).2 < limit

instance (span limit length : Nat) (counter : WindowCounter) (now : Nat) :
    Decidable (HasRoom span limit length counter now) :=
  inferInstanceAs (Decidable (_ → _))

/-! ## What the window says of the history -/

/-- The window was opened by now, has counted the calls since then, and none came after its end. -/
structure Counts (length now : Nat) (times : List Nat) (window : Nat × Nat) : Prop where
  /-- It is open, or was. -/
  opened : window.1 ≤ now
  /-- Its count is the number of calls since it was opened. -/
  count : window.2 = times.countP fun time => window.1 ≤ time
  /-- All calls are before its end. -/
  before_end : ∀ time ∈ times, time < window.1 + length

/-- What holds of a counter at a time. -/
structure Invariant (length : Nat) (counter : WindowCounter) (now : Nat) : Prop where
  /-- All calls are past. -/
  past : ∀ time ∈ counter.admitted, time ≤ now
  /-- Without a window, nothing has been admitted. -/
  fresh : counter.window = none → counter.admitted = []
  /-- The window counts the calls. -/
  counts : ∀ window, counter.window = some window → Counts length now counter.admitted window

variable {span limit length now later : Nat} {counter : WindowCounter}

theorem invariant_start (length now : Nat) : Invariant length start now where
  past _ member := absurd member List.not_mem_nil
  fresh _ := rfl
  counts _ opened := nomatch opened

theorem Counts.mono {times : List Nat} {window : Nat × Nat}
    (counts : Counts length now times window) (order : now ≤ later) :
    Counts length later times window :=
  ⟨counts.opened.trans order, counts.count, counts.before_end⟩

theorem Invariant.mono (invariant : Invariant length counter now) (order : now ≤ later) :
    Invariant length counter later :=
  ⟨fun time member => (invariant.past time member).trans order, invariant.fresh,
    fun window opened => (invariant.counts window opened).mono order⟩

theorem admitted_call :
    (call limit length counter now).admitted =
      if (answer limit length now counter.window).1 then now :: counter.admitted
      else counter.admitted := by
  rw [admitted, call]
  cases verdict : (answer limit length now counter.window).1 <;> simp [admitted, verdict]

theorem answer_eq (positive : 0 < limit) (window : Option (Nat × Nat)) :
    answer limit length now window =
      if (openWindow length now window).2 < limit then
        (true, (openWindow length now window).1, (openWindow length now window).2 + 1)
      else (false, openWindow length now window) := by
  cases window with
  | none => simp [answer, openWindow, positive]
  | some window =>
      obtain ⟨opened, count⟩ := window
      rw [answer, openWindow]
      by_cases ended : opened + length ≤ now
      · simp [ended, positive]
      · by_cases full : limit ≤ count
        · simp [ended, full]
        · simp [ended, full, Nat.lt_of_not_le full]

/-- A call falls into a window that is open and has counted the calls since it was opened. -/
theorem Invariant.openWindow (invariant : Invariant length counter now) (positive : 0 < length) :
    Counts length now counter.admitted (openWindow length now counter.window) ∧
      now < (openWindow length now counter.window).1 + length := by
  cases found : counter.window with
  | none =>
      have nothing := invariant.fresh found
      exact ⟨⟨Nat.le_refl now, by simp [WindowCounter.openWindow, nothing], by simp [nothing]⟩,
        Nat.lt_add_of_pos_right positive⟩
  | some window =>
      obtain ⟨opened, count⟩ := window
      have counts := invariant.counts (opened, count) found
      rw [WindowCounter.openWindow]
      by_cases ended : opened + length ≤ now
      · rw [if_pos ended]
        refine ⟨⟨Nat.le_refl now, ?_, fun time member => ?_⟩, Nat.lt_add_of_pos_right positive⟩
        · have none_since : ∀ time ∈ counter.admitted, ¬ now ≤ time := fun time member =>
            Nat.not_le_of_lt (Nat.lt_of_lt_of_le (counts.before_end time member) ended)
          symm
          simpa [List.countP_eq_zero] using none_since
        · exact Nat.lt_add_right length (Nat.lt_of_lt_of_le (counts.before_end time member) ended)
      · rw [if_neg ended]
        exact ⟨counts, Nat.lt_of_not_le ended⟩

/-- A call keeps what the window says of the history. -/
theorem Invariant.call (invariant : Invariant length counter now) (limit_positive : 0 < limit)
    (length_positive : 0 < length) : Invariant length (counter.call limit length now) now := by
  obtain ⟨counts, still_open⟩ := invariant.openWindow length_positive
  have window_after : (counter.call limit length now).window =
      some (answer limit length now counter.window).2 := rfl
  have admitted_after := @admitted_call limit length now counter
  rw [answer_eq limit_positive] at window_after admitted_after
  generalize WindowCounter.openWindow length now counter.window = window at *
  by_cases fits : window.2 < limit
  · rw [if_pos fits] at window_after admitted_after
    rw [if_pos rfl] at admitted_after
    refine ⟨?_, fun none_open => ?_, fun other opened => ?_⟩
    · rw [admitted_after]
      simpa using invariant.past
    · rw [window_after] at none_open
      simp at none_open
    · rw [window_after, Option.some.injEq] at opened
      subst opened
      refine ⟨counts.opened, ?_, ?_⟩
      · rw [admitted_after, List.countP_cons_of_pos (by simpa using counts.opened), ← counts.count]
      · rw [admitted_after]
        simpa using And.intro still_open counts.before_end
  · rw [if_neg fits] at window_after admitted_after
    rw [if_neg (by simp)] at admitted_after
    refine ⟨admitted_after ▸ invariant.past, fun none_open => ?_, fun other opened => ?_⟩
    · rw [window_after] at none_open
      simp at none_open
    · rw [window_after, Option.some.injEq] at opened
      subst opened
      rw [admitted_after]
      exact counts

/-! ## Refusals -/

/-- A call is refused only after the limit has been reached within one length of a window. -/
theorem Invariant.refused (invariant : Invariant length counter now) (limit_positive : 0 < limit)
    (length_positive : 0 < length)
    (refused : (answer limit length now counter.window).1 = false) :
    limit ≤ counter.admitted.countP fun time => now < time + length := by
  obtain ⟨counts, still_open⟩ := invariant.openWindow length_positive
  rw [answer_eq limit_positive] at refused
  generalize WindowCounter.openWindow length now counter.window = window at *
  have full : limit ≤ window.2 := by
    by_contra below
    simp [Nat.lt_of_not_le below] at refused
  rw [counts.count] at full
  refine full.trans (List.countP_mono_left fun time _ since => ?_)
  simp only [decide_eq_true_eq] at since ⊢
  omega

/-! ## Stretches of time -/

theorem inStretch_iff {first time : Nat} :
    inStretch first span time = true ↔ first ≤ time ∧ time ≤ first + span := by
  simp [inStretch]

/-- A newest time keeps the bound exactly when fewer than the limit are within one span of it. -/
theorem bounded_cons_iff {times : List Nat} (past : ∀ time ∈ times, time ≤ now) :
    Bounded span limit (now :: times) ↔
      Bounded span limit times ∧ times.countP (fun time => now ≤ time + span) < limit := by
  constructor
  · intro bounded
    refine ⟨fun first => ?_, ?_⟩
    · exact (List.countP_cons ▸ Nat.le_add_right _ _).trans (bounded first)
    · -- the stretch that ends now
      have inside : inStretch (now - span) span now = true := by
        rw [inStretch_iff]
        omega
      have ending := bounded (now - span)
      rw [List.countP_cons_of_pos inside] at ending
      refine Nat.lt_of_succ_le (Nat.le_trans (Nat.succ_le_succ ?_) ending)
      refine List.countP_mono_left fun time member recent => ?_
      have earlier := past time member
      rw [decide_eq_true_eq] at recent
      rw [inStretch_iff]
      omega
  · rintro ⟨bounded, room⟩ first
    by_cases inside : inStretch first span now = true
    · rw [List.countP_cons_of_pos inside]
      refine Nat.le_trans (Nat.succ_le_succ ?_) (Nat.succ_le_of_lt room)
      refine List.countP_mono_left fun time _ within => ?_
      rw [inStretch_iff] at inside within
      rw [decide_eq_true_eq]
      omega
    · rw [List.countP_cons_of_neg inside]
      exact bounded first

/-- The times within one span of a call are those of earlier windows and those of its own; if there
is one of an earlier window, its own are among them. -/
theorem room_iff {times : List Nat} {window : Nat × Nat} (counts : Counts length now times window)
    (fits : window.2 < limit) :
    times.countP (fun time => now ≤ time + span) < limit ↔
      times.countP (fun time => time < window.1 && now ≤ time + span) + window.2 < limit := by
  have split : times.countP (fun time => now ≤ time + span) =
      times.countP (fun time => time < window.1 && now ≤ time + span) +
        times.countP (fun time => window.1 ≤ time && now ≤ time + span) := by
    clear counts
    induction times with
    | nil => rfl
    | cons time times induction =>
        rw [List.countP_cons, List.countP_cons, List.countP_cons, induction]
        by_cases early : time < window.1
        · have not_since : ¬ window.1 ≤ time := Nat.not_le_of_lt early
          simp [early, not_since, Nat.add_right_comm]
        · have since : window.1 ≤ time := Nat.le_of_not_lt early
          simp [early, since, Nat.add_assoc]
  have own_le : times.countP (fun time => window.1 ≤ time && now ≤ time + span) ≤ window.2 := by
    rw [counts.count]
    refine List.countP_mono_left fun time _ own => ?_
    simp only [Bool.and_eq_true, decide_eq_true_eq] at own ⊢
    exact own.1
  rw [split]
  by_cases earlier :
      0 < times.countP (fun time => time < window.1 && now ≤ time + span)
  · have own : times.countP (fun time => window.1 ≤ time && now ≤ time + span) = window.2 := by
      obtain ⟨old, _, old_early⟩ := List.countP_pos_iff.mp earlier
      rw [counts.count]
      refine List.countP_congr fun time _ => ?_
      simp only [Bool.and_eq_true, decide_eq_true_eq] at old_early ⊢
      omega
    rw [own]
  · rw [Nat.eq_zero_of_not_pos earlier, Nat.zero_add, Nat.zero_add]
    exact iff_of_true (Nat.lt_of_le_of_lt own_le fits) fits

/-- A call keeps the bound exactly when there is room for it. -/
theorem bounded_call_iff (invariant : Invariant length counter now) (limit_positive : 0 < limit)
    (length_positive : 0 < length) :
    Bounded span limit (counter.call limit length now).admitted ↔
      Bounded span limit counter.admitted ∧ HasRoom span limit length counter now := by
  obtain ⟨counts, _⟩ := invariant.openWindow length_positive
  rw [admitted_call, answer_eq limit_positive, HasRoom]
  generalize WindowCounter.openWindow length now counter.window = window at *
  by_cases fits : window.2 < limit
  · rw [if_pos fits, if_pos rfl, bounded_cons_iff invariant.past, room_iff counts fits,
      imp_iff_right fits]
  · rw [if_neg fits, if_neg (by simp), and_iff_left fun below => absurd below fits]

/-- Over a run of calls, the limit holds over every stretch of time exactly when there is room for
each call that fits into its window. -/
theorem bounded_run_iff (limit_positive : 0 < limit) (length_positive : 0 < length)
    {times : List Nat} (sorted : times.Pairwise (· ≤ ·)) (after : ∀ time ∈ times, now ≤ time)
    (invariant : Invariant length counter now) :
    Bounded span limit (times.foldl (call limit length) counter).admitted ↔
      Bounded span limit counter.admitted ∧
        Guarded (call limit length) (HasRoom span limit length) counter times := by
  induction times generalizing counter now with
  | nil => simp [Guarded]
  | cons time times induction =>
      obtain ⟨head_first, sorted⟩ := List.pairwise_cons.mp sorted
      have invariant := invariant.mono (after time List.mem_cons_self)
      rw [List.foldl_cons,
        induction sorted head_first (invariant.call limit_positive length_positive),
        bounded_call_iff invariant limit_positive length_positive, Guarded, and_assoc]

end WindowCounter
end Foundation
