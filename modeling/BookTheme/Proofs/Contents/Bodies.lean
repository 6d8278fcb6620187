import BookTheme.Proofs.Contents.Attempts

/-! # What a body cannot do

Whether another attempt is made is settled by the status of a reply. Its body is looked at only when the
attempts are over, and then only if the last reply was an answer. So two scripts of outcomes that differ in
nothing but bodies lead to the same requests and pauses, and to the same failure if there is no answer; if there
is one, its body and the number of its attempt say what comes out.
-/
namespace BookTheme.Contents

/-- The same outcome, but for the body of a reply. -/
inductive Outcome.SameHead : Outcome → Outcome → Prop
  | reply (status : Nat) (body body' : Bytes) : SameHead (.reply status body) (.reply status body')
  | noReply (message : Text) : SameHead (.noReply message) (.noReply message)

theorem Outcome.SameHead.failure_eq {o o' : Outcome} (h : o.SameHead o') : o.failure = o'.failure := by
  cases h with
  | _ => rfl

theorem Outcome.SameHead.answers_iff {o o' : Outcome} (h : o.SameHead o') : o.Answers ↔ o'.Answers := by
  cases h with
  | noReply message => rfl
  | reply status body body' =>
    constructor
    · rintro ⟨_,_,ho,hs⟩
      cases ho
      exact ⟨status,body',rfl,hs⟩
    · rintro ⟨_,_,ho,hs⟩
      cases ho
      exact ⟨status,body,rfl,hs⟩

theorem Outcome.SameHead.answer?_eq_none_iff {o o' : Outcome} (h : o.SameHead o') :
    o.answer? = none ↔ o'.answer? = none := by
  rw [Outcome.answer?_eq_none_iff, Outcome.answer?_eq_none_iff, h.answers_iff]

namespace Client

theorem StopsAt.congr {o o' : Nat → Outcome} {more k : Nat} (ho : ∀ n, (o n).SameHead (o' n))
    (h : StopsAt o more k) : StopsAt o' more k where
  le := h.le
  unanswered i hi := (ho i).answer?_eq_none_iff.mp (h.unanswered i hi)
  last hn := h.last ((ho k).answer?_eq_none_iff.mpr hn)

/-- Two runs whose outcomes differ only in bodies make the same calls. They fail alike if the attempts run out;
if not, neither fails for that reason, and each reads what comes out of it from the body of its first answer,
which both have at the same attempt. -/
theorem bodies_unheeded (r r' : Rehearsal) (source : Source) (policy : RequestPolicy)
    (h : ∀ k, (r.ofAttempt source k).SameHead (r'.ofAttempt source k)) :
    let run := (Rehearsal.client.document source policy).run r
    let run' := (Rehearsal.client.document source policy).run r'
    (∃ more, run.2.calls = r.calls ++ callsOf source policy.delay more ∧
      run'.2.calls = r'.calls ++ callsOf source policy.delay more) ∧
    ((∃ attempts last, run.1 = .error (.unanswered attempts last) ∧
        run'.1 = .error (.unanswered attempts last)) ∨
      ((∀ attempts last, run.1 ≠ .error (.unanswered attempts last) ∧
        run'.1 ≠ .error (.unanswered attempts last)) ∧
      ∃ k body body', k ≤ max 1 policy.maxAttempts.toNat ∧ FirstAnswer (r.ofAttempt source) k body ∧
        FirstAnswer (r'.ofAttempt source) k body' ∧
        run.1 = Answer.document ⟨body,k⟩ ∧ run'.1 = Answer.document ⟨body',k⟩)) := by
  intro run run'
  have ho : ∀ n, (r.outcome (r.requests + n) source).SameHead (r'.outcome (r'.requests + n) source) :=
    fun n => h (n + 1)
  obtain ⟨k,hs⟩ := exists_stopsAt (fun n => r.outcome (r.requests + n) source) (policy.maxAttempts.toNat - 1)
  have hs' := hs.congr ho
  have hrun : run = _ := run_document_of_stopsAt r source policy hs
  have hrun' : run' = _ := run_document_of_stopsAt r' source policy hs'
  refine ⟨⟨k,?_,?_⟩,?_⟩
  · rw [hrun, Rehearsal.calls_after, calls_tried]
  · rw [hrun', Rehearsal.calls_after, calls_tried]
  · cases hb : (r.outcome (r.requests + k) source).answer? with
    | none =>
      have hb' := (ho k).answer?_eq_none_iff.mp hb
      refine Or.inl ⟨k + 1,(r.outcome (r.requests + k) source).failure,?_,?_⟩
      · rw [hrun, hb]
      · rw [hrun', hb', (ho k).failure_eq]
    | some body =>
      obtain ⟨body',hb'⟩ : ∃ body', (r'.outcome (r'.requests + k) source).answer? = some body' := by
        apply Option.ne_none_iff_exists'.mp
        intro hn
        rw [(ho k).answer?_eq_none_iff.mpr hn] at hb
        cases hb
      have hd : run.1 = Answer.document ⟨body,k + 1⟩ := by rw [hrun, hb]
      have hd' : run'.1 = Answer.document ⟨body',k + 1⟩ := by rw [hrun', hb']
      have hle := hs.le
      refine Or.inr ⟨?_,k + 1,body,body',by omega,hs.firstAnswer hb,hs'.firstAnswer hb',hd,hd'⟩
      intro attempts last
      rw [hd, hd']
      exact ⟨Answer.document_ne_unanswered _ _ _,Answer.document_ne_unanswered _ _ _⟩

/-- A server that is busy once and then answers. -/
def busyOnce (early late : Bytes) (n : Nat) (_ : Source) : Outcome :=
  if n = 0 then .reply 503 early else .reply 200 late

set_option maxRecDepth 10000 in
theorem busyOnce_bodies :
    let run (early late : Bytes) := (Rehearsal.client.document Default.source ⟨3,.ofMillis 5⟩).run
      (Rehearsal.of ⟨[],[]⟩ (busyOnce early late))
    (run [] smallBody).2.calls = (run smallBody [0xff]).2.calls ∧
      (run [] smallBody).1 = .ok ⟨"b".toList,"<nav>\n".toList,2⟩ ∧
      (run smallBody [0xff]).1 = Answer.document ⟨[0xff],2⟩ := by
  intro run
  have hsame : ∀ k, ((Rehearsal.of ⟨[],[]⟩ (busyOnce [] smallBody)).ofAttempt Default.source k).SameHead
      ((Rehearsal.of ⟨[],[]⟩ (busyOnce smallBody [0xff])).ofAttempt Default.source k) := by
    intro k
    change (if 0 + (k - 1) = 0 then Outcome.reply 503 [] else .reply 200 smallBody).SameHead
      (if 0 + (k - 1) = 0 then .reply 503 smallBody else .reply 200 [0xff])
    split
    · exact .reply 503 _ _
    · exact .reply 200 _ _
  obtain ⟨⟨more,hc,hc'⟩,hout⟩ := bodies_unheeded _ _ Default.source ⟨3,.ofMillis 5⟩ hsame
  refine ⟨hc.trans hc'.symm,rfl,?_⟩
  rcases hout with ⟨_,_,h,_⟩ | ⟨_,k,_,body',hk,_,hf,_,hd⟩
  · cases h
  · obtain ⟨status,hr,hlo,_⟩ := hf.reply
    have hpos := hf.pos
    rcases Nat.lt_trichotomy k 2 with hlt | rfl | hgt
    · obtain rfl : k = 1 := by omega
      cases hr
      omega
    · cases hr
      exact hd
    · exact absurd ⟨200,[0xff],rfl,by decide,by decide⟩ (hf.unanswered 2 (by decide) hgt)

end Client
end BookTheme.Contents
