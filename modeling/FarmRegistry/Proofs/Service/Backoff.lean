import FarmRegistry.Proofs.Service.Budget
import FarmRegistry.Proofs.Service.Conflicts

namespace FarmRegistry

def held (most n : Nat) : Option Nat :=
  if n ≤ most then some n else none

theorem held_of_le {most n : Nat} (h : n ≤ most) : held most n = some n :=
  if_pos h

def remainder (n d : Nat) : Option Nat :=
  if d = 0 then none else some (n % d)

theorem remainder_of_pos {n d : Nat} (h : 0 < d) : remainder n d = some (n % d) :=
  if_neg (Nat.ne_of_gt h)

namespace Delay

variable {d : Delay}

def seconds (d : Delay) : Nat :=
  d.nanoseconds / 1000000000

def fraction (d : Delay) : Nat :=
  d.nanoseconds % 1000000000

def countMilliseconds (d : Delay) : Option Nat := do
  let whole ← held 340282366920938463463374607431768211455 (d.seconds * 1000)
  held 340282366920938463463374607431768211455 (whole + d.fraction / 1000000)

def assemble (ms : Nat) : Option Delay := do
  let nanos ← held 4294967295 (ms % 1000 * 1000000)
  return .ofParts (ms / 1000) nanos

def allowance (base : Delay) : Delay :=
  .ofMilliseconds (max (base.milliseconds / 4) 1)

theorem countMilliseconds_eq (h : d.seconds ≤ delayLimit) : d.countMilliseconds = some d.milliseconds := by
  have hwhole : d.seconds * 1000 ≤ 340282366920938463463374607431768211455 := by
    simp only [delayLimit] at h
    omega
  have hsum : d.seconds * 1000 + d.fraction / 1000000 = d.milliseconds := by
    simp only [seconds, fraction, milliseconds]
    omega
  have hmilliseconds : d.milliseconds ≤ 340282366920938463463374607431768211455 := by
    simp only [seconds, delayLimit, milliseconds] at h ⊢
    omega
  simp only [countMilliseconds, held_of_le hwhole, Option.bind_eq_bind, Option.bind_some]
  rw [hsum, held_of_le hmilliseconds]

theorem assemble_eq (ms : Nat) : assemble ms = some (.ofMilliseconds ms) := by
  have hnanos : ms % 1000 * 1000000 ≤ 4294967295 := by omega
  have hsum : ms / 1000 * 1000000000 + ms % 1000 * 1000000 = ms * 1000000 := by omega
  simp only [assemble, held_of_le hnanos, Option.bind_eq_bind, Option.bind_some, ofParts, hsum]
  rfl

theorem ofMilliseconds_milliseconds_le (d : Delay) : (ofMilliseconds d.milliseconds).nanoseconds ≤ d.nanoseconds := by
  simp only [ofMilliseconds, milliseconds]
  omega

theorem ofMilliseconds_mono {m n : Nat} (h : m ≤ n) :
    (ofMilliseconds m).nanoseconds ≤ (ofMilliseconds n).nanoseconds :=
  Nat.mul_le_mul_right 1000000 h

theorem allowance_mono {d e : Delay} (h : d.nanoseconds ≤ e.nanoseconds) :
    d.allowance.nanoseconds ≤ e.allowance.nanoseconds := by
  apply ofMilliseconds_mono
  simp only [milliseconds]
  omega

end Delay

namespace RetryPolicy

variable (p : RetryPolicy) {m n : Nat}

structure InWords : Prop where
  attempts : p.maxAttempts ≤ 4294967295
  first : p.initialBackoff.seconds ≤ delayLimit
  last : p.maxBackoff.seconds ≤ delayLimit

def start : Nat :=
  min p.initialBackoff.milliseconds delayLimit

def cap : Nat :=
  min p.maxBackoff.milliseconds delayLimit

/-- The delay after an attempt, where every step must fit in its word and powers, products and counts of milliseconds
stop at the largest. -/
def delayInWords (attempt : Nat) : Option Delay := do
  let factor := min (twoTo (attempt - 1)) 4294967295
  let first := min (← p.initialBackoff.countMilliseconds) delayLimit
  let last := min (← p.maxBackoff.countMilliseconds) delayLimit
  Delay.assemble (min (min (first * factor) delayLimit) last)

theorem growth_eq (n : Nat) : growth n = min (twoTo (n - 1)) 4294967295 := by
  rw [growth]
  split
  case isTrue hlarge =>
    have hpower : twoTo 32 ≤ twoTo (n - 1) := Nat.pow_le_pow_right Nat.two_pos (by omega)
    have htop : twoTo 32 = 4294967296 := rfl
    exact (Nat.min_eq_right (by omega)).symm
  case isFalse hsmall =>
    have hpower : twoTo (n - 1) ≤ twoTo 31 := Nat.pow_le_pow_right Nat.two_pos (by omega)
    have htop : twoTo 31 = 2147483648 := rfl
    exact (Nat.min_eq_left (by omega)).symm

theorem growth_mono (h : m ≤ n) : growth m ≤ growth n := by
  rw [growth_eq, growth_eq]
  have hpower : twoTo (m - 1) ≤ twoTo (n - 1) := Nat.pow_le_pow_right Nat.two_pos (Nat.sub_le_sub_right h 1)
  omega

theorem growth_succ (hn : 0 < n) (hle : n ≤ 31) : growth (n + 1) = 2 * growth n := by
  have hdouble : twoTo n = twoTo (n - 1) * 2 := (Nat.two_pow_pred_mul_two hn).symm
  have hpower : twoTo n ≤ twoTo 31 := Nat.pow_le_pow_right Nat.two_pos hle
  have htop : twoTo 31 = 2147483648 := rfl
  rw [growth_eq, growth_eq, Nat.add_sub_cancel]
  omega

theorem cap_le : p.cap ≤ delayLimit :=
  Nat.min_le_right _ _

theorem delayAfter_eq (n : Nat) : p.delayAfter n = .ofMilliseconds (min (p.start * growth n) p.cap) := by
  have hcap := p.cap_le
  have hmin : min (min (p.start * growth n) delayLimit) p.cap = min (p.start * growth n) p.cap := by omega
  rw [← hmin]
  rfl

theorem milliseconds_delayAfter (n : Nat) : (p.delayAfter n).milliseconds = min (p.start * growth n) p.cap := by
  rw [delayAfter_eq, Delay.milliseconds_ofMilliseconds]

theorem delayInWords_eq {p : RetryPolicy} (hp : p.InWords) (n : Nat) : p.delayInWords n = some (p.delayAfter n) := by
  simp only [delayInWords, Delay.countMilliseconds_eq hp.first, Delay.countMilliseconds_eq hp.last,
    Option.bind_eq_bind, Option.bind_some, Delay.assemble_eq, ← growth_eq]
  rfl

theorem delayAfter_mono (h : m ≤ n) : (p.delayAfter m).nanoseconds ≤ (p.delayAfter n).nanoseconds := by
  rw [delayAfter_eq, delayAfter_eq]
  apply Delay.ofMilliseconds_mono
  have hproduct : p.start * growth m ≤ p.start * growth n := Nat.mul_le_mul_left p.start (growth_mono h)
  omega

theorem delayAfter_le (n : Nat) : (p.delayAfter n).nanoseconds ≤ p.maxBackoff.nanoseconds := by
  rw [delayAfter_eq]
  refine (Delay.ofMilliseconds_mono ?_).trans p.maxBackoff.ofMilliseconds_milliseconds_le
  exact (Nat.min_le_right _ _).trans (Nat.min_le_left _ _)

theorem delayAfter_succ (hn : 0 < n) (hle : n ≤ 31) :
    p.delayAfter (n + 1) = .ofMilliseconds (min (2 * (p.delayAfter n).milliseconds) p.cap) := by
  rw [milliseconds_delayAfter, delayAfter_eq, growth_succ hn hle, Nat.mul_left_comm]
  congr 1
  omega

end RetryPolicy

namespace Jitter

def byAttemptInWords (base : Delay) (attempt : Nat) (now : Timestamp) : Option Delay := do
  let ms := min (← base.countMilliseconds) delayLimit
  let most := max (ms / 4) 1
  let seed ← held delayLimit (now.nanos ^^^ attempt)
  let extra ← remainder seed (min (most + 1) delayLimit)
  Delay.assemble (min (ms + extra) delayLimit)

theorem byAttemptInWords_eq {base : Delay} {attempt : Nat} {now : Timestamp} (hbase : base.seconds ≤ delayLimit)
    (hattempt : attempt ≤ 4294967295) (hnow : now.nanos ≤ 4294967295) :
    byAttemptInWords base attempt now = some (byAttempt base attempt now) := by
  have hseed : now.nanos ^^^ attempt ≤ delayLimit := by
    have hxor := Nat.xor_lt_two_pow (n := 32) (Nat.lt_succ_of_le hnow) (Nat.lt_succ_of_le hattempt)
    simp only [delayLimit]
    omega
  have hmost : min (max (min base.milliseconds delayLimit / 4) 1 + 1) delayLimit =
      max (min base.milliseconds delayLimit / 4) 1 + 1 := by
    simp only [delayLimit]
    omega
  simp only [byAttemptInWords, Delay.countMilliseconds_eq hbase, Option.bind_eq_bind, Option.bind_some,
    held_of_le hseed, hmost, remainder_of_pos (Nat.succ_pos _), Delay.assemble_eq]
  rfl

theorem byAttempt_bounds {ms : Nat} (hms : ms ≤ delayLimit) (attempt : Nat) (now : Timestamp) :
    let base := Delay.ofMilliseconds ms
    base.nanoseconds ≤ (byAttempt base attempt now).nanoseconds ∧
      (byAttempt base attempt now).nanoseconds ≤ base.nanoseconds + base.allowance.nanoseconds := by
  intro base
  have hextra : (now.nanos ^^^ attempt) % (max (ms / 4) 1 + 1) ≤ max (ms / 4) 1 :=
    Nat.le_of_lt_succ (Nat.mod_lt _ (Nat.succ_pos _))
  have hcapped : min ms delayLimit = ms := Nat.min_eq_left hms
  simp only [base, byAttempt, Delay.allowance, Delay.milliseconds_ofMilliseconds, hcapped]
  simp only [Delay.ofMilliseconds]
  omega

end Jitter

namespace RetryPolicy

variable (p : RetryPolicy)

theorem jittered_bounds (n : Nat) (now : Timestamp) :
    (p.delayAfter n).nanoseconds ≤ (Jitter.byAttempt (p.delayAfter n) n now).nanoseconds ∧
      (Jitter.byAttempt (p.delayAfter n) n now).nanoseconds ≤
        (p.delayAfter n).nanoseconds + (p.delayAfter n).allowance.nanoseconds := by
  rw [delayAfter_eq]
  exact Jitter.byAttempt_bounds ((Nat.min_le_right _ _).trans p.cap_le) n now

theorem jittered_le (n : Nat) (now : Timestamp) :
    (Jitter.byAttempt (p.delayAfter n) n now).nanoseconds ≤
      p.maxBackoff.nanoseconds + p.maxBackoff.allowance.nanoseconds :=
  (p.jittered_bounds n now).2.trans
    (Nat.add_le_add (p.delayAfter_le n) (Delay.allowance_mono (p.delayAfter_le n)))

theorem seconds_delayAfter (n : Nat) : (p.delayAfter n).seconds ≤ delayLimit := by
  have hcap := p.cap_le
  rw [delayAfter_eq]
  simp only [Delay.ofMilliseconds, Delay.seconds, delayLimit] at hcap ⊢
  omega

end RetryPolicy

namespace Service

variable {σ : Type}

theorem run_waits (s : Service σ) (m : Intent) (w : World σ) :
    ∃ waits, ((s.run m).outcome w).2.sleeps = w.sleeps ++ waits ∧ waits.length < s.config.retry.attempts ∧
      ∀ k (h : k < waits.length), ∃ n,
        waits[k] = s.jitter (s.config.retry.delayAfter (k + 1)) (k + 1) (s.clock n) := by
  have hattempts : 0 < s.config.retry.attempts := Nat.lt_of_lt_of_le Nat.one_pos (Nat.le_max_right _ _)
  obtain ⟨_, hcourse⟩ := course_of_retry (s := s.recorded) (m := m) 0 false w.recorded
  obtain ⟨waits, hwaits, hlength, _, hdelays⟩ := hcourse.waits hattempts
  have hbare : ((s.run m).outcome w).2 = ((s.recorded.run m).outcome w.recorded).2.bare :=
    (congrArg Prod.snd (s.run_recorded m w.recorded)).symm
  refine ⟨waits, ?_, by omega, ?_⟩
  · rw [hbare]
    exact hwaits
  · intro k hk
    obtain ⟨n, _, _, hdelay⟩ := hdelays k hk
    rw [Nat.zero_add] at hdelay
    exact ⟨n, hdelay⟩

/-- Delays are computed without leaving any word, also in a leap second, and grow with the attempts up to the longest
that the policy allows. Through the first attempts each is twice the one before, or the whole milliseconds of the longest,
as far as these are counted, if that is less. At most a quarter is added, or a millisecond. So a run waits less often
than the attempts it is allowed, and never longer than the longest delay and what may be added to that. -/
theorem backoff_bounded {p : RetryPolicy} (hp : p.InWords) :
    (∀ (n : Nat) (now : Timestamp), n ≤ 4294967295 → now.nanos ≤ 4294967295 →
      p.delayInWords n = some (p.delayAfter n) ∧
        Jitter.byAttemptInWords (p.delayAfter n) n now = some (Jitter.byAttempt (p.delayAfter n) n now)) ∧
      (∀ m n, m ≤ n → (p.delayAfter m).nanoseconds ≤ (p.delayAfter n).nanoseconds ∧
        (p.delayAfter n).nanoseconds ≤ p.maxBackoff.nanoseconds) ∧
      (∀ n, 0 < n → n ≤ 31 →
        p.delayAfter (n + 1) = .ofMilliseconds (min (2 * (p.delayAfter n).milliseconds) p.cap)) ∧
      (∀ (n : Nat) (now : Timestamp),
        let base := p.delayAfter n
        base.nanoseconds ≤ (Jitter.byAttempt base n now).nanoseconds ∧
          (Jitter.byAttempt base n now).nanoseconds ≤ base.nanoseconds + base.allowance.nanoseconds) ∧
      ∀ (σ : Type) (s : Service σ) (m : Intent) (w : World σ), s.config.retry = p → s.jitter = Jitter.byAttempt →
        ∃ waits, ((s.run m).outcome w).2.sleeps = w.sleeps ++ waits ∧
          waits.length ≤ p.attempts - 1 ∧ p.attempts ≤ 4294967295 ∧
          ∀ k (h : k < waits.length),
            (∃ n, waits[k] = Jitter.byAttempt (p.delayAfter (k + 1)) (k + 1) (s.clock n)) ∧
              waits[k].nanoseconds ≤ p.maxBackoff.nanoseconds + p.maxBackoff.allowance.nanoseconds := by
  refine ⟨?_, fun m n h => ⟨p.delayAfter_mono h, p.delayAfter_le n⟩, fun n => p.delayAfter_succ, p.jittered_bounds, ?_⟩
  · intro n now hn hnow
    exact ⟨RetryPolicy.delayInWords_eq hp n, Jitter.byAttemptInWords_eq (p.seconds_delayAfter n) hn hnow⟩
  · rintro σ s m w rfl hjitter
    obtain ⟨waits, hwaits, hlength, hdelays⟩ := s.run_waits m w
    refine ⟨waits, hwaits, Nat.le_pred_of_lt hlength, Nat.max_le.mpr ⟨hp.attempts, by decide⟩, ?_⟩
    intro k hk
    obtain ⟨n, hdelay⟩ := hdelays k hk
    rw [hjitter] at hdelay
    refine ⟨⟨n, hdelay⟩, ?_⟩
    rw [hdelay]
    exact s.config.retry.jittered_le (k + 1) (s.clock n)

def patience : RetryPolicy :=
  ⟨3, .ofMilliseconds 9223372036854775808, .ofParts 18446744073709551615 0⟩

theorem patience_inWords : patience.InWords :=
  ⟨by decide, by decide, by decide⟩

theorem backoff_of_patience :
    let late : Timestamp := ⟨0, 1999999999⟩
    let s : Service Unit := ⟨contested, ⟨patience, .allow⟩, .byAttempt, fun _ => late⟩
    let sleeps := ((s.run (.create MemoryStore.parcel)).outcome (.ofStore ())).2.sleeps
    patience.delayInWords 4294967295 = some (patience.delayAfter 4294967295) ∧
      Jitter.byAttemptInWords (patience.delayAfter 1) 1 late = some (Jitter.byAttempt (patience.delayAfter 1) 1 late) ∧
      sleeps.length ≤ 2 ∧
      ∀ d ∈ sleeps, d.nanoseconds ≤ patience.maxBackoff.nanoseconds + patience.maxBackoff.allowance.nanoseconds := by
  intro late s sleeps
  obtain ⟨hwords, _, _, _, hruns⟩ := backoff_bounded patience_inWords
  obtain ⟨waits, hwaits, hlength, _, hdelays⟩ := hruns Unit s (.create MemoryStore.parcel) (.ofStore ()) rfl rfl
  have hsleeps : sleeps = waits := hwaits
  refine ⟨(hwords _ late (by decide) (by decide)).1, (hwords _ late (by decide) (by decide)).2, ?_, ?_⟩
  · rw [hsleeps]
    exact hlength
  · intro d hd
    rw [hsleeps] at hd
    obtain ⟨k, hk, rfl⟩ := List.mem_iff_getElem.mp hd
    exact (hdelays k hk).2

theorem patience_not_doubled :
    patience.InWords ∧ patience.delayAfter 1 = .ofMilliseconds 9223372036854775808 ∧
      patience.delayAfter 2 = .ofMilliseconds 18446744073709551615 ∧
      patience.delayAfter (1 + 1) ≠
        .ofMilliseconds (min (2 * (patience.delayAfter 1).milliseconds) patience.maxBackoff.milliseconds) :=
  ⟨patience_inWords, by decide, by decide, by decide⟩

end Service

end FarmRegistry
