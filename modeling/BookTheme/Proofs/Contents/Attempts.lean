import BookTheme.Proofs.Rehearsal.Record

/-! # Attempts

A request is made until one is answered or the attempts are used up. Both cases are one: the attempts
stop at a certain one, all before it had no answer, and if it has none either then it is the last that the
policy allows. What is recorded and what comes out is then fixed by the outcomes.
-/
namespace BookTheme.Contents
open Rehearsal (run_bind run_pure run_get run_log run_pause)

def Outcome.Answers (o : Outcome) : Prop := ∃ status body, o = .reply status body ∧ 200 ≤ status ∧ status ≤ 299

def Outcome.answer? : Outcome → Option Bytes
  | .reply status body => if isAnswer status then some body else none
  | .noReply _ => none

def Outcome.failure : Outcome → RequestFailure
  | .reply status _ => .status status
  | .noReply message => .connection message

def Outcome.event (number : Nat) : Outcome → Log.Event
  | .reply status body =>
    if isAnswer status then .answered number status body.length else .refused number status
  | .noReply message => .failed number (.connection message)

theorem isAnswer_iff {status : Nat} : isAnswer status = true ↔ 200 ≤ status ∧ status ≤ 299 := by
  simp only [isAnswer, Bool.and_eq_true, decide_eq_true_eq]
  omega

theorem Outcome.answer?_eq_some_iff {o : Outcome} {body : Bytes} :
    o.answer? = some body ↔ ∃ status, o = .reply status body ∧ 200 ≤ status ∧ status ≤ 299 := by
  constructor
  · intro h
    cases o with
    | noReply message => cases h
    | reply status given =>
      simp only [answer?] at h
      split at h
      · rename_i hs
        cases h
        exact ⟨status,rfl,isAnswer_iff.mp hs⟩
      · cases h
  · rintro ⟨status,rfl,hs⟩
    simp [answer?, isAnswer_iff.mpr hs]

theorem Outcome.answer?_eq_none_iff {o : Outcome} : o.answer? = none ↔ ¬ o.Answers := by
  rw [Option.eq_none_iff_forall_ne_some]
  constructor
  · rintro h ⟨status,body,ho⟩
    exact h body (answer?_eq_some_iff.mpr ⟨status,ho⟩)
  · intro h body hb
    obtain ⟨status,ho⟩ := answer?_eq_some_iff.mp hb
    exact h ⟨status,body,ho⟩

/-- The `k`-th outcome, counted from 1, is the first that answers, with this body. -/
structure FirstAnswer (o : Nat → Outcome) (k : Nat) (body : Bytes) : Prop where
  pos : 1 ≤ k
  unanswered : ∀ j, 1 ≤ j → j < k → ¬ (o j).Answers
  reply : ∃ status, o k = .reply status body ∧ 200 ≤ status ∧ status ≤ 299

/-- What is read from an answer. -/
def Answer.document (a : Answer) : Except FetchError Document :=
  a.envelope.bind fun (envelope,attempts) => envelope.document attempts

theorem Answer.document_eq_ok_iff {a : Answer} {d : Document} :
    a.document = .ok d ↔ ∃ envelope, Envelope.parse a.body = .ok envelope ∧ envelope.revision = d.revision ∧
      envelope.decode = .ok d.text ∧ a.attempts = d.attempts := by
  obtain ⟨revision,text,attempts⟩ := d
  cases hp : Envelope.parse a.body with
  | error e => simp [document, Answer.envelope, hp, Except.bind]
  | ok envelope =>
    cases hd : envelope.decode with
    | error e => simp [document, Answer.envelope, hp, Except.bind, Envelope.document, hd]
    | ok text' => simp [document, Answer.envelope, hp, Except.bind, Envelope.document, hd]

theorem Answer.document_ne_unanswered (a : Answer) (attempts : Nat) (last : RequestFailure) :
    a.document ≠ .error (.unanswered attempts last) := by
  unfold document Answer.envelope
  cases Envelope.parse a.body with
  | error e => simp [Except.bind]
  | ok envelope =>
    simp only [Except.bind, Envelope.document]
    cases envelope.decode with
    | error e => simp
    | ok text => simp

namespace Client

def attempted (source : Source) (number : Nat) (o : Outcome) : List Happening :=
  [.requested source, .logged (o.event number)]

def waited (delay : Delay) : List Happening := [.logged (.waiting (.ofNat delay.toMillis)), .paused delay]

/-- What `more` attempts without an answer record, and the attempt after them. -/
def tried (source : Source) (delay : Delay) (o : Nat → Outcome) (number : Nat) : (more : Nat) → List Happening
  | 0 => attempted source number (o 0)
  | more + 1 =>
    attempted source number (o 0) ++ waited delay ++ tried source delay (fun n => o (n + 1)) (number + 1) more

theorem run_attempt (r : Rehearsal) (source : Source) (number : Nat) :
    (Rehearsal.client.attempt source number).run r =
      ((match (r.outcome r.requests source).answer? with
        | some body => .ok body
        | none => .error (r.outcome r.requests source).failure),
        r.after 1 (attempted source number (r.outcome r.requests source))) := by
  unfold Client.attempt
  rw [run_bind, run_get]
  cases ho : r.outcome r.requests source with
  | noReply message =>
    simp only [run_bind, run_log, run_pure, Rehearsal.after_after]
    rfl
  | reply status body =>
    cases h : isAnswer status with
    | true =>
      simp only [↓reduceIte, h, run_bind, run_log, run_pure, Rehearsal.after_after, Outcome.answer?, attempted,
        Outcome.event]
      rfl
    | false =>
      simp only [Bool.false_eq_true, ↓reduceIte, h, run_bind, run_log, run_pure, Rehearsal.after_after,
        Outcome.answer?, attempted, Outcome.event]
      rfl

/-- The attempts stop at the `k`-th after the first: those before it have no answer, and it is the last that
is allowed unless it has one. -/
structure StopsAt (o : Nat → Outcome) (more k : Nat) : Prop where
  le : k ≤ more
  unanswered : ∀ i, i < k → (o i).answer? = none
  last : (o k).answer? = none → k = more

theorem exists_stopsAt (o : Nat → Outcome) (more : Nat) : ∃ k, StopsAt o more k := by
  induction more generalizing o with
  | zero => exact ⟨0,Nat.le_refl 0,by simp,fun _ => rfl⟩
  | succ more ih =>
    cases h : (o 0).answer? with
    | some body => exact ⟨0,by omega,by simp,by simp [h]⟩
    | none =>
      obtain ⟨k,hk,hu,hl⟩ := ih fun n => o (n + 1)
      refine ⟨k + 1,by omega,?_,fun he => by rw [hl he]⟩
      intro i hi
      cases i with
      | zero => exact h
      | succ i => exact hu i (by omega)

/-- A run of attempts: the outcome of the one at which they stop is what comes out, and the record is that of
the attempts up to it. -/
theorem run_answerFrom (r : Rehearsal) (source : Source) (delay : Delay) {o : Nat → Outcome}
    (ho : ∀ n, o n = r.outcome (r.requests + n) source) {more k : Nat} (number : Nat) (h : StopsAt o more k) :
    (Rehearsal.client.answerFrom source delay more number).run r =
      ((match (o k).answer? with
        | some body => .ok ⟨body,number + k⟩
        | none => .error (.unanswered (number + k) (o k).failure)),
        r.after (k + 1) (tried source delay o number k)) := by
  induction more generalizing r o k number with
  | zero =>
    obtain rfl : k = 0 := Nat.le_zero.mp h.le
    have h0 : o 0 = r.outcome r.requests source := ho 0
    unfold answerFrom
    rw [run_bind, run_attempt, ← h0]
    cases (o 0).answer? <;> rfl
  | succ more ih =>
    have h0 : o 0 = r.outcome r.requests source := ho 0
    unfold answerFrom
    rw [run_bind, run_attempt, ← h0]
    cases k with
    | zero =>
      cases ha : (o 0).answer? with
      | none => exact absurd (h.last ha) (by omega)
      | some body => rfl
    | succ k =>
      have hs : StopsAt (fun n => o (n + 1)) more k :=
        ⟨by have := h.le; omega,fun i hi => h.unanswered (i + 1) (by omega),fun he => by have := h.last he; omega⟩
      have ho' : ∀ n, o (n + 1) = r.outcome (r.requests + 1 + n) source := by
        intro n
        rw [ho, Nat.add_right_comm, Nat.add_assoc]
      rw [h.unanswered 0 (by omega)]
      simp only [run_bind, run_log, run_pause, Rehearsal.after_after]
      rw [ih _ (by simpa using ho') (number + 1) hs]
      simp [tried, waited, Nat.add_comm, Nat.add_left_comm]

/-- The other side sees a request, and then pairs of a pause and a request. -/
def callsOf (source : Source) (delay : Delay) (more : Nat) : List Happening :=
  .requested source :: (List.replicate more [.paused delay, .requested source]).flatten

theorem calls_tried (source : Source) (delay : Delay) (o : Nat → Outcome) (number more : Nat) :
    (tried source delay o number more).filter (·.isCall) = callsOf source delay more := by
  induction more generalizing o number with
  | zero => rfl
  | succ more ih =>
    simp [tried, callsOf, List.replicate_succ, attempted, waited, List.filter_cons, ih]

theorem run_envelope (r : Rehearsal) (source : Source) (policy : RequestPolicy) {k : Nat}
    (h : StopsAt (fun n => r.outcome (r.requests + n) source) (policy.maxAttempts.toNat - 1) k) :
    (Rehearsal.client.envelope source policy).run r =
      ((match (r.outcome (r.requests + k) source).answer? with
        | some body => Answer.envelope ⟨body,1 + k⟩
        | none => .error (.unanswered (1 + k) (r.outcome (r.requests + k) source).failure)),
        r.after (k + 1) (tried source policy.delay (fun n => r.outcome (r.requests + n) source) 1 k)) := by
  unfold envelope answer
  rw [run_bind, run_answerFrom r source policy.delay (fun _ => rfl) 1 h]
  cases (r.outcome (r.requests + k) source).answer? <;> rfl

theorem run_document_of_stopsAt (r : Rehearsal) (source : Source) (policy : RequestPolicy) {k : Nat}
    (h : StopsAt (fun n => r.outcome (r.requests + n) source) (policy.maxAttempts.toNat - 1) k) :
    (Rehearsal.client.document source policy).run r =
      ((match (r.outcome (r.requests + k) source).answer? with
        | some body => Answer.document ⟨body,k + 1⟩
        | none => .error (.unanswered (k + 1) (r.outcome (r.requests + k) source).failure)),
        r.after (k + 1) (tried source policy.delay (fun n => r.outcome (r.requests + n) source) 1 k)) := by
  unfold document
  rw [run_bind, run_envelope r source policy h, Nat.add_comm 1 k]
  cases (r.outcome (r.requests + k) source).answer? <;> rfl

theorem StopsAt.eq_of_firstAnswer {o : Nat → Outcome} {more k n : Nat} {body : Bytes} (h : StopsAt o more k)
    (hf : FirstAnswer (fun j => o (j - 1)) n body) (hn : n ≤ more + 1) : n = k + 1 ∧ (o k).answer? = some body := by
  have hpos := hf.pos
  have hb : (o (n - 1)).answer? = some body := Outcome.answer?_eq_some_iff.mpr hf.reply
  rcases Nat.lt_trichotomy (n - 1) k with hlt | heq | hgt
  · rw [h.unanswered (n - 1) hlt] at hb
    cases hb
  · subst heq
    exact ⟨by omega,hb⟩
  · have hnone := hf.unanswered (k + 1) (by omega) (by omega)
    have := h.last (Outcome.answer?_eq_none_iff.mpr hnone)
    omega

theorem StopsAt.firstAnswer {o : Nat → Outcome} {more k : Nat} {body : Bytes} (h : StopsAt o more k)
    (hb : (o k).answer? = some body) : FirstAnswer (fun j => o (j - 1)) (k + 1) body := by
  refine ⟨by omega,?_,?_⟩
  · intro j hj hjk
    exact Outcome.answer?_eq_none_iff.mp (h.unanswered (j - 1) (by omega))
  · exact Outcome.answer?_eq_some_iff.mp hb

theorem run_document (r : Rehearsal) (source : Source) (policy : RequestPolicy) :
    ∃ n happenings, ((Rehearsal.client.document source policy).run r).2 = r.after n happenings ∧
      ∀ d, ((Rehearsal.client.document source policy).run r).1 = .ok d → ∃ k body envelope,
        k ≤ max 1 policy.maxAttempts.toNat ∧ FirstAnswer (r.ofAttempt source) k body ∧
        Envelope.parse body = .ok envelope ∧ envelope.decode = .ok d.text := by
  obtain ⟨k,h⟩ := exists_stopsAt (fun n => r.outcome (r.requests + n) source) (policy.maxAttempts.toNat - 1)
  have hle := h.le
  have hrun := run_document_of_stopsAt r source policy h
  refine ⟨_,_,congrArg Prod.snd hrun,?_⟩
  intro d hd
  rw [hrun] at hd
  cases hb : (r.outcome (r.requests + k) source).answer? with
  | none =>
    rw [hb] at hd
    cases hd
  | some body =>
    rw [hb] at hd
    obtain ⟨envelope,hp,_,hc,_⟩ := Answer.document_eq_ok_iff.mp hd
    exact ⟨k + 1,body,envelope,by omega,h.firstAnswer hb,hp,hc⟩

/-- The attempts stop at the first that has an answer, whatever the answer holds, and the calls are those
up to it. If none has one, all attempts of the policy are made, and the failure of the last is what comes out;
that can be a status of 0 only if a reply had it. -/
theorem envelope_attempts (r : Rehearsal) (source : Source) (policy : RequestPolicy) :
    let most := max 1 policy.maxAttempts.toNat
    let run := (Rehearsal.client.envelope source policy).run r
    (∀ k body, k ≤ most → FirstAnswer (r.ofAttempt source) k body →
      run.1 = (match Envelope.parse body with
        | .ok envelope => .ok (envelope,k)
        | .error error => .error (.envelope error)) ∧
      run.2.calls = r.calls ++ callsOf source policy.delay (k - 1)) ∧
    ((∀ k, 1 ≤ k → k ≤ most → ¬ (r.ofAttempt source k).Answers) →
      run.1 = .error (.unanswered most (r.ofAttempt source most).failure) ∧
      run.2.calls = r.calls ++ callsOf source policy.delay (most - 1)) ∧
    (∀ attempts, run.1 = .error (.unanswered attempts (.status 0)) →
      ∃ body, r.ofAttempt source most = .reply 0 body) := by
  intro most run
  obtain ⟨k,h⟩ := exists_stopsAt (fun n => r.outcome (r.requests + n) source) (policy.maxAttempts.toNat - 1)
  have hrun : run = _ := run_envelope r source policy h
  have hmost : most = policy.maxAttempts.toNat - 1 + 1 := by omega
  have hcalls : run.2.calls = r.calls ++ callsOf source policy.delay k := by
    rw [hrun, Rehearsal.calls_after, calls_tried]
  have hk : r.ofAttempt source (k + 1) = r.outcome (r.requests + k) source := rfl
  have hle := h.le
  have hlast : (r.outcome (r.requests + k) source).answer? = none → most = k + 1 := by
    intro hn
    rw [hmost, ← h.last hn]
  refine ⟨?_,?_,?_⟩
  · intro n body hn hf
    obtain ⟨rfl,hb⟩ := h.eq_of_firstAnswer hf (by omega)
    refine ⟨?_,hcalls⟩
    rw [hrun, hb, Nat.add_comm k 1]
    cases hp : Envelope.parse body <;> simp [Answer.envelope, hp]
  · intro hnone
    have hn : (r.outcome (r.requests + k) source).answer? = none :=
      Outcome.answer?_eq_none_iff.mpr (hnone (k + 1) (by omega) (by omega))
    have hkm := hlast hn
    refine ⟨?_,by rw [hcalls, hkm]; rfl⟩
    rw [hrun, hn, hkm, hk, Nat.add_comm k 1]
  · intro attempts he
    rw [hrun] at he
    cases hn : (r.outcome (r.requests + k) source).answer? with
    | some body =>
      rw [hn] at he
      cases hp : Envelope.parse body <;> simp [Answer.envelope, hp] at he
    | none =>
      rw [hlast hn, hk]
      rw [hn] at he
      cases ho : r.outcome (r.requests + k) source with
      | noReply message => simp [ho, Outcome.failure] at he
      | reply status body =>
        simp only [ho, Outcome.failure, Except.error.injEq, FetchError.unanswered.injEq,
          RequestFailure.status.injEq] at he
        exact ⟨body,by rw [he.2]⟩

def thirdAnswers (body : Bytes) (n : Nat) (_ : Source) : Outcome :=
  if n = 0 then .reply 500 body else if n = 1 then .noReply "reset".toList else .reply 204 body

def smallBody : Bytes :=
  Utf8.encode "\x7b\"encoding\":\"base64\",\"content\":\"PG5h\\ndj4K\",\"git_url\":\"a/b\"\x7d".toList

set_option maxRecDepth 10000 in
theorem envelope_thirdAnswers :
    let source := Default.source
    let delay := Delay.ofMillis 5
    let run := (Rehearsal.client.envelope source ⟨7,delay⟩).run (Rehearsal.of ⟨[],[]⟩ (thirdAnswers smallBody))
    run.1 = .ok (⟨"base64".toList,"PG5h\ndj4K".toList,"a/b".toList⟩,3) ∧
      run.2.calls = [.requested source,.paused delay,.requested source,.paused delay,.requested source] := by
  intro source delay run
  have h := (envelope_attempts (Rehearsal.of ⟨[],[]⟩ (thirdAnswers smallBody)) source ⟨7,delay⟩).1 3 smallBody
    (by decide)
  have hparse : Envelope.parse smallBody = .ok ⟨"base64".toList,"PG5h\ndj4K".toList,"a/b".toList⟩ := rfl
  rw [hparse] at h
  refine h ⟨by decide,?_,204,rfl,by decide,by decide⟩
  rintro j hj hlt ⟨status,body,ho,hlo,hhi⟩
  obtain rfl | rfl : j = 1 ∨ j = 2 := by omega
  · cases ho
    omega
  · cases ho

end Client
end BookTheme.Contents
