import FirstMatch.Watch.Sampling
import Mathlib.Data.List.Induction
import Mathlib.Order.Bounds.Defs

/-! What a detector counts and when a watch trips.  The count is the length of the run of equal
samples that the samples end in, where offset zero counts as seen before the first of them, and it
stops at the largest 32-bit number.  A watch trips with the first sample that makes such a run
longer than its threshold. -/

namespace FirstMatch

/-! ### Runs of equal entries -/

/-- The list ends in `n` equal entries. -/
def EndsConstant (n : Nat) (l : List Nat) : Prop := ∃ entry, List.replicate n entry <:+ l

section Runs

variable {l : List Nat} {n run entry last : Nat}

theorem EndsConstant.mono {m : Nat} (ends : EndsConstant n l) (fewer : m ≤ n) :
    EndsConstant m l := by
  obtain ⟨entry, ending⟩ := ends
  refine ⟨entry, List.IsSuffix.trans ⟨List.replicate (n - m) entry, ?_⟩ ending⟩
  rw [List.replicate_append_replicate, Nat.sub_add_cancel fewer]

theorem endsConstant_concat_succ :
    EndsConstant (n + 1) (l ++ [entry]) ↔ List.replicate n entry <:+ l := by
  constructor
  · rintro ⟨other, ending⟩
    rw [List.replicate_succ'] at ending
    obtain ⟨before, same⟩ := (List.suffix_append_inj_of_length_eq (by simp)).mp ending
    obtain rfl := List.singleton_inj.mp same
    exact before
  · intro before
    refine ⟨entry, ?_⟩
    rw [List.replicate_succ']
    exact (List.suffix_append_inj_of_length_eq rfl).mpr ⟨before, rfl⟩

/-- The entries of a run are equal to the last one. -/
theorem eq_last_of_run (ending : List.replicate (n + 1) entry <:+ l)
    (ends : l.getLast? = some last) : entry = last := by
  obtain ⟨front, rfl⟩ := ending
  rw [List.replicate_succ', ← List.append_assoc, List.getLast?_concat] at ends
  exact Option.some.inj ends

/-- One more entry of the same kind makes the run longer. -/
theorem isGreatest_concat_same (greatest : IsGreatest {n | EndsConstant n l} run)
    (ends : l.getLast? = some entry) :
    IsGreatest {n | EndsConstant n (l ++ [entry])} (run + 1) := by
  constructor
  · obtain ⟨other, ending⟩ := greatest.1
    apply endsConstant_concat_succ.mpr
    cases run with
    | zero => exact List.nil_suffix
    | succ run =>
      obtain rfl := eq_last_of_run ending ends
      exact ending
  · intro n longer
    cases n with
    | zero => exact Nat.zero_le _
    | succ n => exact Nat.succ_le_succ (greatest.2 ⟨entry, endsConstant_concat_succ.mp longer⟩)

/-- An entry unlike the last one begins a new run. -/
theorem isGreatest_concat_other (ends : l.getLast? = some last) (other : entry ≠ last) :
    IsGreatest {n | EndsConstant n (l ++ [entry])} 1 := by
  constructor
  · exact endsConstant_concat_succ.mpr List.nil_suffix
  · intro n longer
    match n with
    | 0 => exact Nat.zero_le _
    | 1 => exact Nat.le_refl _
    | n + 2 =>
      have ending := endsConstant_concat_succ.mp longer
      exact absurd (eq_last_of_run ending ends) other

end Runs

/-! ### The count -/

namespace Detector

variable {d : Detector} {threshold : Nat} {l : List Nat}

/-- A detector after some more samples. -/
def after (d : Detector) (samples : List Nat) : Detector := samples.foldl observe d

theorem after_concat (d : Detector) (samples : List Nat) (offset : Nat) :
    d.after (samples ++ [offset]) = (d.after samples).observe offset := by
  rw [after, List.foldl_append]
  rfl

/-- The detector has counted the run that `l` ends in. -/
structure Counts (threshold : Nat) (l : List Nat) (d : Detector) : Prop where
  threshold : d.threshold = threshold
  last : l.getLast? = some d.last
  run : ∃ run, 0 < run ∧ IsGreatest {n | EndsConstant n l} run ∧
    d.repeats = min ceiling (run - 1)

theorem counts_start (threshold : Nat) : Counts threshold [0] { threshold } := by
  refine ⟨rfl, rfl, 1, Nat.one_pos, ⟨⟨0, List.suffix_rfl⟩, ?_⟩, rfl⟩
  rintro n ⟨entry, ending⟩
  have short := ending.length_le
  rw [List.length_replicate] at short
  exact short

theorem Counts.observe (counts : d.Counts threshold l) (offset : Nat) :
    (d.observe offset).Counts threshold (l ++ [offset]) := by
  obtain ⟨run, positive, greatest, repeats⟩ := counts.run
  rw [Detector.observe]
  split
  · rename_i again
    subst again
    refine ⟨counts.threshold, List.getLast?_concat, run + 1, Nat.succ_pos run,
      isGreatest_concat_same greatest counts.last, ?_⟩
    show min (d.repeats + 1) ceiling = min ceiling (run + 1 - 1)
    rw [repeats]
    omega
  · rename_i moved
    exact ⟨counts.threshold, List.getLast?_concat, 1, Nat.one_pos,
      isGreatest_concat_other counts.last moved, rfl⟩

theorem counts_after (threshold : Nat) (samples : List Nat) :
    (Detector.after { threshold } samples).Counts threshold (0 :: samples) := by
  induction samples using List.reverseRecOn with
  | nil => exact counts_start threshold
  | append_singleton samples offset ih =>
    rw [after_concat]
    exact ih.observe offset

/-- A threshold that the count can get to is reached by a run of one entry more. -/
theorem Counts.isLooping_iff (counts : d.Counts threshold l) (reached : threshold ≤ ceiling) :
    d.isLooping = true ↔ EndsConstant (threshold + 1) l := by
  obtain ⟨run, positive, greatest, repeats⟩ := counts.run
  rw [isLooping, counts.threshold, repeats, decide_eq_true_iff]
  constructor
  · intro loops
    exact greatest.1.mono (by omega)
  · intro ends
    have longest : threshold + 1 ≤ run := greatest.2 ends
    omega

end Detector

/-! ### The sampling loop -/

/-- The samples end in more than `threshold` equal ones, counting offset zero as the first. -/
def Stalls (threshold : Nat) (samples : List Nat) : Prop :=
  EndsConstant (threshold + 1) (0 :: samples)

/-- The samples stall, or would have if they had ended earlier. -/
def StallsWithin (threshold : Nat) (samples : List Nat) : Prop :=
  ∃ n, 0 < n ∧ n ≤ samples.length ∧ Stalls threshold (samples.take n)

theorem stallsWithin_concat {threshold : Nat} {samples : List Nat} {offset : Nat} :
    StallsWithin threshold (samples ++ [offset]) ↔
      StallsWithin threshold samples ∨ Stalls threshold (samples ++ [offset]) := by
  constructor
  · rintro ⟨n, positive, bound, stalls⟩
    rw [List.length_append, List.length_singleton] at bound
    rcases Nat.lt_or_ge samples.length n with whole | earlier
    · rw [List.take_of_length_le (by simp; omega)] at stalls
      exact .inr stalls
    · rw [List.take_append_of_le_length earlier] at stalls
      exact .inl ⟨n, positive, earlier, stalls⟩
  · rintro (⟨n, positive, bound, stalls⟩ | stalls)
    · refine ⟨n, positive, by simp; omega, ?_⟩
      rw [List.take_append_of_le_length bound]
      exact stalls
    · refine ⟨samples.length + 1, Nat.succ_pos _, by simp, ?_⟩
      rw [List.take_of_length_le (by simp)]
      exact stalls

theorem stallsWithin_take {threshold : Nat} {samples : List Nat} {n : Nat} :
    StallsWithin threshold (samples.take n) ↔
      ∃ m, 0 < m ∧ m ≤ n ∧ m ≤ samples.length ∧ Stalls threshold (samples.take m) := by
  refine exists_congr fun m => and_congr_right fun _ => ?_
  rw [List.length_take, Nat.le_min, and_assoc]
  refine and_congr_right fun bound => ?_
  rw [List.take_take, Nat.min_eq_left bound]

theorem Probe.isCancelled_cancel (p : Probe) : p.cancel.isCancelled = true := by
  rw [cancel]
  split
  · rename_i raised
    rw [isCancelled, raised]
  · rfl

namespace Sampler

variable {s : Sampler} {threshold : Nat}

theorem feed_concat (s : Sampler) (samples : List Nat) (offset : Nat) :
    s.feed (samples ++ [offset]) = ((s.feed samples).publish offset).sample := by
  rw [feed, List.foldl_append]
  rfl

/-- A watch that has stopped takes no more samples. -/
theorem sample_stopped (stopped : s.report.isSome = true) : s.sample = s := by
  rw [sample, if_pos stopped]

theorem sample_looping (going : s.report = none)
    (loops : (s.detector.observe s.probe.offset).isLooping = true) :
    s.sample = ⟨s.detector.observe s.probe.offset, s.probe.cancel,
      some (s.probe.offset, (s.detector.observe s.probe.offset).repeats)⟩ := by
  rw [sample, going, if_neg (by simp), if_pos loops]

theorem sample_moving (going : s.report = none)
    (moves : (s.detector.observe s.probe.offset).isLooping = false) :
    s.sample = { s with detector := s.detector.observe s.probe.offset } := by
  rw [sample, going, if_neg (by simp), if_neg (by simp [moves])]

/-- How a watch stands after some samples.  It is still going, has counted them all and has left the
probe alone; or it has cancelled the probe and stopped. -/
inductive Stands (threshold : Nat) (cancelled : Bool) (samples : List Nat) (s : Sampler) : Prop
  | going (moves : ¬StallsWithin threshold samples) (report : s.report = none)
      (detector : s.detector = Detector.after { threshold } samples)
      (probe : s.probe.isCancelled = cancelled)
  | stopped (stalls : StallsWithin threshold samples) (report : s.report.isSome = true)
      (probe : s.probe.isCancelled = true)

variable {cancelled : Bool} {samples : List Nat}

theorem Stands.sample (reached : threshold ≤ Detector.ceiling)
    (stands : s.Stands threshold cancelled samples) (offset : Nat) :
    (s.publish offset).sample.Stands threshold cancelled (samples ++ [offset]) := by
  cases stands with
  | stopped stalls report probe =>
    have published : (s.publish offset).report.isSome = true := report
    rw [sample_stopped published]
    exact .stopped (stallsWithin_concat.mpr (.inl stalls)) report probe
  | going moves report detector probe =>
    have published : (s.publish offset).report = none := report
    have seen : s.detector.observe offset = Detector.after { threshold } (samples ++ [offset]) := by
      rw [Detector.after_concat, detector]
    have stalls := (Detector.counts_after threshold (samples ++ [offset])).isLooping_iff reached
    rw [← seen] at stalls
    cases loops : (s.detector.observe offset).isLooping with
    | true =>
      rw [sample_looping published loops]
      exact .stopped (stallsWithin_concat.mpr (.inr (stalls.mp loops))) rfl
        (Probe.isCancelled_cancel _)
    | false =>
      rw [sample_moving published loops]
      refine .going ?_ report seen probe
      rw [stallsWithin_concat]
      rintro (earlier | now)
      · exact moves earlier
      · rw [stalls.mpr now] at loops
        cases loops

theorem stands_feed (reached : threshold ≤ Detector.ceiling) (interval : Nat) (probe : Probe)
    (samples : List Nat) :
    ((Watch.start ⟨interval, threshold⟩ probe).feed samples).Stands threshold probe.isCancelled
      samples := by
  induction samples using List.reverseRecOn with
  | nil =>
    refine .going ?_ rfl rfl rfl
    rintro ⟨n, positive, bound, -⟩
    exact absurd bound (Nat.not_le.mpr positive)
  | append_singleton samples offset ih =>
    rw [feed_concat]
    exact ih.sample reached offset

/-- A watch cancels the probe as soon as the samples stall, and not before. -/
theorem Stands.isCancelled_iff (stands : s.Stands threshold cancelled samples) :
    s.probe.isCancelled = true ↔ cancelled = true ∨ StallsWithin threshold samples := by
  cases stands with
  | going moves _ _ probe =>
    rw [probe]
    exact ⟨.inl, fun cancels => cancels.resolve_right moves⟩
  | stopped stalls _ probe => exact ⟨fun _ => .inr stalls, fun _ => probe⟩

end Sampler

/-- A detector counts exactly the run that the samples end in, with offset zero in front of them,
and finds a loop if the run has more entries than its threshold.  A watch that is fed the samples
one by one has cancelled its probe after the first `n` of them if this was so after one of these,
and otherwise has left the probe as it was. -/
theorem detection_exact (threshold : UInt32) (samples : List Nat) :
    (∃ run, IsGreatest {n | EndsConstant n (0 :: samples)} run ∧
      (Detector.after { threshold := threshold.toNat } samples).repeats =
        min (UInt32.size - 1) (run - 1)) ∧
    ((Detector.after { threshold := threshold.toNat } samples).isLooping = true ↔
      EndsConstant (threshold.toNat + 1) (0 :: samples)) ∧
    ∀ (interval : Nat) (probe : Probe) (n : Nat),
      ((Watch.start ⟨interval, threshold.toNat⟩ probe).feed (samples.take n)).probe.isCancelled ↔
        probe.isCancelled ∨ ∃ m, 0 < m ∧ m ≤ n ∧ m ≤ samples.length ∧
          EndsConstant (threshold.toNat + 1) (0 :: samples.take m) := by
  have reached : threshold.toNat ≤ Detector.ceiling := Nat.le_sub_one_of_lt threshold.toNat_lt_size
  have counts := Detector.counts_after threshold.toNat samples
  refine ⟨?_, counts.isLooping_iff reached, ?_⟩
  · obtain ⟨run, -, greatest, repeats⟩ := counts.run
    exact ⟨run, greatest, repeats⟩
  · intro interval probe n
    rw [(Sampler.stands_feed reached interval probe (samples.take n)).isCancelled_iff,
      stallsWithin_take]
    rfl

end FirstMatch
