import BookTheme.Proofs.Contents.Attempts
import Mathlib.Algebra.Ring.Nat

/-! # How long a run waits

A delay set in milliseconds is kept in seconds and nanoseconds, and logged in milliseconds again, as a number of
64 bits. Nothing is lost on the way, however long the delay: each pause lasts as long as was set, and the log
says so. There is one pause less than there are requests.
-/
namespace BookTheme
open Contents Contents.Client

def Delay.toNanos (d : Delay) : Nat := d.seconds * 1000000000 + d.nanos

theorem Delay.toNanos_ofMillis (n : Nat) : (ofMillis n).toNanos = n * 1000000 := by
  simp only [ofMillis, toNanos]
  omega

theorem Retry.toNanos_policy (t : Retry) : t.policy.delay.toNanos = t.delay.toNat * 1000000 :=
  Delay.toNanos_ofMillis _

theorem Retry.toMillis_policy (t : Retry) : t.policy.delay.toMillis = t.delay.toNat := Delay.toMillis_ofMillis _

def Happening.loggedDelay? : Happening → Option UInt64
  | .logged (.waiting millis) => some millis
  | _ => none

namespace Rehearsal

def loggedDelays (r : Rehearsal) : List UInt64 := r.history.filterMap Happening.loggedDelay?

variable {r : Rehearsal} {source : Source} {delay : Delay} {more : Nat}

/-- What is kept of calls alone is kept of all that happened. -/
theorem filterMap_calls {α : Type} (r : Rehearsal) {f : Happening → Option α}
    (hlog : ∀ event, f (.logged event) = none) (hprint : ∀ text, f (.printed text) = none) :
    r.calls.filterMap f = r.history.filterMap f := by
  rw [calls, List.filterMap_filter]
  congr 1
  funext happening
  cases happening with
  | requested source => rfl
  | paused delay => rfl
  | logged event => exact (hlog event).symm
  | printed text => exact (hprint text).symm

theorem pauses_eq (r : Rehearsal) : r.pauses = r.calls.filterMap fun
    | .paused delay => some delay
    | _ => none :=
  (filterMap_calls r (fun _ => rfl) fun _ => rfl).symm

theorem sources_eq (r : Rehearsal) : r.sources = r.calls.filterMap fun
    | .requested source => some source
    | _ => none :=
  (filterMap_calls r (fun _ => rfl) fun _ => rfl).symm

theorem pauses_of_calls (h : r.calls = callsOf source delay more) : r.pauses = List.replicate more delay := by
  rw [pauses_eq, h]
  simp [callsOf, List.filterMap_flatten]

theorem sources_of_calls (h : r.calls = callsOf source delay more) :
    r.sources = List.replicate (more + 1) source := by
  rw [sources_eq, h]
  simp [callsOf, List.filterMap_flatten, List.replicate_succ]

end Rehearsal

namespace Contents.Client

theorem filterMap_attempted (source : Source) (number : Nat) (o : Outcome) :
    (attempted source number o).filterMap Happening.loggedDelay? = [] := by
  cases o with
  | noReply message => rfl
  | reply status body =>
    rw [attempted, Outcome.event]
    split <;> rfl

theorem filterMap_tried (source : Source) (delay : Delay) (o : Nat → Outcome) (number more : Nat) :
    (tried source delay o number more).filterMap Happening.loggedDelay? =
      List.replicate more (.ofNat delay.toMillis) := by
  induction more generalizing o number with
  | zero => exact filterMap_attempted _ _ _
  | succ more ih =>
    rw [tried, List.filterMap_append, List.filterMap_append, filterMap_attempted, ih]
    rfl

/-- Whatever the number of milliseconds and whatever the outcomes: the delay of the policy is just that long, and the
number that is logged of it is not cut down. Between any two requests there is one pause of that length, and one
entry in the log with that number, so all pauses together last that long for each request after the first. -/
theorem delays_exact (retry : Retry) (source : Source) (tree : Files.Tree) (script : Nat → Source → Outcome) :
    let delay := retry.policy.delay
    let r := ((Rehearsal.client.envelope source retry.policy).run (Rehearsal.of tree script)).2
    delay.seconds < UInt64.size ∧ delay.toNanos = retry.delay.toNat * 1000000 ∧
    (UInt64.ofNat delay.toMillis).toNat = delay.toMillis ∧ 1 ≤ r.sources.length ∧
    r.pauses = List.replicate (r.sources.length - 1) delay ∧
    r.loggedDelays = List.replicate (r.sources.length - 1) retry.delay ∧
    (r.pauses.map Delay.toNanos).sum = retry.delay.toNat * (r.sources.length - 1) * 1000000 := by
  intro delay r
  obtain ⟨k,h⟩ := exists_stopsAt (fun n => script (0 + n) source) (retry.policy.maxAttempts.toNat - 1)
  have hr : r = _ := congrArg Prod.snd (run_envelope (Rehearsal.of tree script) source retry.policy h)
  have hcalls : r.calls = callsOf source delay k := by
    rw [hr, Rehearsal.calls_after, calls_tried]
    rfl
  have hlogged : r.loggedDelays = List.replicate k (.ofNat delay.toMillis) := by
    rw [hr, Rehearsal.loggedDelays, Rehearsal.history_after, List.filterMap_append, filterMap_tried]
    rfl
  have hpauses := Rehearsal.pauses_of_calls hcalls
  have hrequests : r.sources.length = k + 1 := by
    rw [Rehearsal.sources_of_calls hcalls, List.length_replicate]
  have hnanos : delay.toNanos = retry.delay.toNat * 1000000 := retry.toNanos_policy
  have hmillis : delay.toMillis = retry.delay.toNat := retry.toMillis_policy
  rw [hrequests, Nat.add_sub_cancel]
  refine ⟨?_,hnanos,?_,Nat.le_add_left 1 k,hpauses,?_,?_⟩
  · exact Nat.lt_of_le_of_lt (Nat.div_le_self _ _) retry.delay.toNat_lt_size
  · rw [hmillis, UInt64.ofNat_toNat]
  · rw [hlogged, hmillis, UInt64.ofNat_toNat]
  · rw [hpauses, List.map_replicate, List.sum_replicate_nat, hnanos, Nat.mul_left_comm, Nat.mul_assoc]

set_option maxRecDepth 10000 in
/-- The longest delay that can be set is waited twice before a third attempt is answered. -/
theorem delays_thirdAnswers :
    let retry : Retry := ⟨7,18446744073709551615⟩
    let r := ((Rehearsal.client.envelope Default.source retry.policy).run
      (Rehearsal.of ⟨[],[]⟩ (thirdAnswers smallBody))).2
    r.pauses = List.replicate 2 retry.policy.delay ∧ r.loggedDelays = List.replicate 2 18446744073709551615 ∧
      (r.pauses.map Delay.toNanos).sum = 36893488147419103230000000 := by
  intro retry r
  obtain ⟨_,_,_,_,hpauses,hlogged,hsum⟩ := delays_exact retry Default.source ⟨[],[]⟩ (thirdAnswers smallBody)
  have hrequests : r.sources.length = 3 := by decide +kernel
  rw [hrequests] at hpauses hlogged hsum
  exact ⟨hpauses,hlogged,hsum.trans (by decide +kernel)⟩

end Contents.Client
end BookTheme
